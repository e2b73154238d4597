import Quickstep.Utility.BloomFilter

/-!
# No false negatives

No step clears a bit. A thread may find that a bit is set and act on it later: the bit still is set. So a
key whose insertion is complete has all its bits, and keeps them, whatever the other threads do.
-/

namespace Quickstep.Utility
open Quickstep.Lib

/-! ## Bits -/

def bitAt (bytes : BitArray) (byteIndex bit : Nat) : Bool := (bytes.getD byteIndex 0#8).getLsbD bit

/-- The bit array keeps its size and its set bits. -/
structure Grows (bytes bytes' : BitArray) : Prop where
  length_eq : bytes'.length = bytes.length
  keeps : ∀ byteIndex bit, bitAt bytes byteIndex bit = true → bitAt bytes' byteIndex bit = true

theorem Grows.refl (bytes : BitArray) : Grows bytes bytes := ⟨rfl, fun _ _ set => set⟩

theorem Grows.trans {bytes₁ bytes₂ bytes₃ : BitArray} (first : Grows bytes₁ bytes₂)
    (second : Grows bytes₂ bytes₃) : Grows bytes₁ bytes₃ :=
  ⟨second.length_eq.trans first.length_eq, fun _ _ set => second.keeps _ _ (first.keeps _ _ set)⟩

theorem readAt_eq_getD {bytes : BitArray} {index : Nat} (inside : index < bytes.length) :
    readAt bytes index = .ok (bytes.getD index 0#8) := by
  rw [readAt_of_lt inside, List.getD_eq_getElem?_getD, List.getElem?_eq_getElem inside]
  rfl

/-- `|=` on one byte. -/
theorem bitAt_set_or {bytes : BitArray} {index : Nat} (inside : index < bytes.length) (mask : BitVec 8)
    (byteIndex bit : Nat) :
    bitAt (bytes.set index (bytes.getD index 0#8 ||| mask)) byteIndex bit =
      (bitAt bytes byteIndex bit || (decide (byteIndex = index) && mask.getLsbD bit)) := by
  unfold bitAt
  rw [List.getD_eq_getElem?_getD, List.getElem?_set]
  by_cases same : index = byteIndex
  · subst same
    simp [inside]
  · simp [same, Ne.symm same]

theorem Grows.set_or {bytes : BitArray} {index : Nat} (inside : index < bytes.length)
    (mask : BitVec 8) : Grows bytes (bytes.set index (bytes.getD index 0#8 ||| mask)) where
  length_eq := List.length_set
  keeps byteIndex bit set := by rw [bitAt_set_or inside, set, Bool.true_or]

/-- A mask of one bit. -/
theorem and_shiftLeft_eq_iff {byte : BitVec 8} {bit : Nat} (small : bit < 8) :
    byte &&& 1#8 <<< bit = 1#8 <<< bit ↔ byte.getLsbD bit = true := by
  have mask : 1#8 <<< bit = BitVec.twoPow 8 bit := rfl
  have nonzero : 0#8 ≠ BitVec.twoPow 8 bit := by
    intro zero
    have selected := congrArg (fun byte => BitVec.getLsbD byte bit) zero
    simp [small] at selected
  rw [mask, BitVec.and_twoPow]
  cases byte.getLsbD bit with
  | true => simp
  | false => simpa using nonzero

/-- A position whose byte is in the bit array. -/
structure Inside (size : Nat) (position : Nat × Nat) : Prop where
  byteIndex_lt : position.1 / 8 < size
  bit_lt : position.2 < 8

def hasBit (bytes : BitArray) (position : Nat × Nat) : Bool :=
  bitAt bytes (position.1 / 8) position.2

/-- The bits at these positions are set, and no other bit changes. -/
structure SetsBits (bytes : BitArray) (positions : List (Nat × Nat)) (bytes' : BitArray) : Prop where
  length_eq : bytes'.length = bytes.length
  bits : ∀ byteIndex bit, bitAt bytes' byteIndex bit = true ↔ bitAt bytes byteIndex bit = true ∨
    ∃ position ∈ positions, byteIndex = position.1 / 8 ∧ bit = position.2

section Positions

variable {bytes bytes' : BitArray} {position : Nat × Nat} {positions : List (Nat × Nat)}

theorem SetsBits.nil (bytes : BitArray) : SetsBits bytes [] bytes := ⟨rfl, by simp⟩

/-- A bit that is set already need not be set. -/
theorem SetsBits.of_hasBit (set : hasBit bytes position = true) : SetsBits bytes [position] bytes where
  length_eq := rfl
  bits byteIndex bit := by
    constructor
    · exact .inl
    · rintro (set' | ⟨position', mem, rfl, rfl⟩)
      · exact set'
      · rw [List.mem_singleton.mp mem]
        exact set

theorem SetsBits.append {bytes'' : BitArray} {later : List (Nat × Nat)}
    (first : SetsBits bytes positions bytes') (second : SetsBits bytes' later bytes'') :
    SetsBits bytes (positions ++ later) bytes'' where
  length_eq := second.length_eq.trans first.length_eq
  bits byteIndex bit := by
    rw [second.bits, first.bits, or_assoc]
    simp only [List.mem_append, or_and_right, exists_or]

theorem SetsBits.grows (sets : SetsBits bytes positions bytes') : Grows bytes bytes' where
  length_eq := sets.length_eq
  keeps byteIndex bit set := (sets.bits byteIndex bit).mpr (.inl set)

theorem SetsBits.hasBit (sets : SetsBits bytes positions bytes') (mem : position ∈ positions) :
    hasBit bytes' position = true :=
  (sets.bits _ _).mpr (.inr ⟨position, mem, rfl, rfl⟩)

/-- The bits decide the bit array. -/
theorem SetsBits.unique {bytes'' : BitArray} (sets : SetsBits bytes positions bytes')
    (sets' : SetsBits bytes positions bytes'') : bytes' = bytes'' := by
  apply List.ext_getElem (sets.length_eq.trans sets'.length_eq.symm)
  intro index inside inside'
  apply BitVec.eq_of_getLsbD_eq
  intro bit _
  have same : bitAt bytes' index bit = bitAt bytes'' index bit := by
    rw [Bool.eq_iff_iff, sets.bits, sets'.bits]
  simpa [bitAt, inside, inside'] using same

theorem testBit_eq (inside : Inside bytes.length position) :
    testBit bytes position = .ok (hasBit bytes position) := by
  unfold testBit
  rw [readAt_eq_getD inside.byteIndex_lt]
  apply congrArg Except.ok
  rw [Bool.eq_iff_iff, decide_eq_true_eq]
  exact and_shiftLeft_eq_iff inside.bit_lt

theorem setBit_spec (inside : Inside bytes.length position) :
    ∃ bytes', setBit bytes position = .ok bytes' ∧ SetsBits bytes [position] bytes' := by
  refine ⟨bytes.set (position.1 / 8) (bytes.getD (position.1 / 8) 0#8 ||| 1#8 <<< position.2),
    ?_, List.length_set, fun byteIndex bit => ?_⟩
  · unfold setBit
    rw [readAt_eq_getD inside.byteIndex_lt]
    exact writeAt_of_lt inside.byteIndex_lt _
  · have mask : 1#8 <<< position.2 = BitVec.twoPow 8 position.2 := rfl
    have small := inside.bit_lt
    rw [bitAt_set_or inside.byteIndex_lt, mask, BitVec.getLsbD_twoPow]
    simp only [Bool.or_eq_true, Bool.and_eq_true, decide_eq_true_eq, List.mem_singleton,
      exists_eq_left, decide_eq_true small, true_and]
    rw [eq_comm (a := bit)]

/-- A loop that sets bits, passing over some that are set already. -/
theorem foldlM_setBit (skip : Nat × Nat → Bool)
    (skipped : ∀ position, skip position = true → hasBit bytes position = true)
    (inside : ∀ position ∈ positions, Inside bytes.length position) :
    ∃ bytes', positions.foldlM (fun bytes position =>
      if skip position then pure bytes else setBit bytes position) bytes = .ok bytes' ∧
      SetsBits bytes positions bytes' := by
  apply exists_foldlM (fun (done : List (Nat × Nat)) (bytes' : BitArray) => SetsBits bytes done bytes')
    (.nil bytes)
  intro done position rest mid split sets
  cases passed : skip position with
  | true =>
    have set := sets.grows.keeps _ _ (skipped position passed)
    exact ⟨mid, rfl, sets.append (.of_hasBit set)⟩
  | false =>
    have inside' : Inside mid.length position := by
      rw [sets.length_eq]
      exact inside position (by simp [split])
    obtain ⟨bytes', run, sets'⟩ := setBit_spec inside'
    exact ⟨bytes', run, sets.append sets'⟩

theorem mapM_testBit (inside : ∀ position ∈ positions, Inside bytes.length position) :
    positions.mapM (testBit bytes) = .ok (positions.map (hasBit bytes)) := by
  induction positions with
  | nil => rfl
  | cons position positions ih =>
    rw [List.forall_mem_cons] at inside
    rw [List.mapM_cons, testBit_eq inside.1, ih inside.2]
    rfl

end Positions

namespace BloomFilterParameters

variable {params : BloomFilterParameters}

theorem arraySize_eq : params.arraySize = params.arraySizeInBytes * 8 := by
  have addressable := params.addressable
  exact Nat.mod_eq_of_lt (by omega)

theorem inside_computeIndices (hash : BitVec 32) :
    Inside params.arraySizeInBytes (params.computeIndices hash) := by
  have positive := params.positive
  have small : hash.toNat % params.arraySize < params.arraySizeInBytes * 8 := by
    rw [arraySize_eq]
    apply Nat.mod_lt
    omega
  constructor
  · simp only [computeIndices]
    omega
  · exact Nat.mod_lt _ (by omega)

theorem inside_of_mem {key : Key} {position : Nat × Nat} (mem : position ∈ params.positions key) :
    Inside params.arraySizeInBytes position := by
  obtain ⟨hash, _, rfl⟩ := List.mem_map.mp mem
  exact inside_computeIndices _

end BloomFilterParameters

/-- All bits of the key are set. -/
def Holds (params : BloomFilterParameters) (bytes : BitArray) (key : Key) : Prop :=
  ∀ position ∈ params.positions key, hasBit bytes position = true

theorem Holds.mono {params : BloomFilterParameters} {bytes bytes' : BitArray} {key : Key}
    (holds : Holds params bytes key) (grows : Grows bytes bytes') : Holds params bytes' key :=
  fun position mem => grows.keeps _ _ (holds position mem)

namespace BloomFilter

variable {params : BloomFilterParameters} {bytes : BitArray} {key : Key}

/-! ## The operations alone -/

theorem containsAll_eq (size : bytes.length = params.arraySizeInBytes) (hashes : List (BitVec 32)) :
    containsAll params bytes key hashes =
      .ok (hashes.all fun hash => hasBit bytes (params.computeIndices (hashAp hash key))) := by
  induction hashes with
  | nil => rfl
  | cons hash hashes ih =>
    have inside := size ▸ params.inside_computeIndices (hashAp hash key)
    simp only [containsAll, testBit_eq inside, List.all_cons]
    cases hasBit bytes (params.computeIndices (hashAp hash key)) with
    | true => exact ih
    | false => rfl

/-- `contains` asks for all bits of the key. -/
theorem contains_spec (key : Key) (size : bytes.length = params.arraySizeInBytes) :
    ∃ result, contains params bytes key = .ok result ∧ (result = true ↔ Holds params bytes key) := by
  refine ⟨_, containsAll_eq size params.hashFn, ?_⟩
  simp [Holds, BloomFilterParameters.positions]

theorem insertUnSafe_spec (key : Key) (size : bytes.length = params.arraySizeInBytes) :
    ∃ bytes', insertUnSafe params bytes key = .ok bytes' ∧
      SetsBits bytes (params.positions key) bytes' := by
  obtain ⟨bytes', run, sets⟩ := foldlM_setBit (fun _ => false) (fun _ never => nomatch never)
    (fun position mem => size ▸ params.inside_of_mem mem)
  refine ⟨bytes', ?_, sets⟩
  rw [BloomFilterParameters.positions, List.foldlM_map] at run
  exact run

theorem insert_spec (key : Key) (size : bytes.length = params.arraySizeInBytes) :
    ∃ bytes', insert params bytes key = .ok bytes' ∧
      SetsBits bytes (params.positions key) bytes' := by
  have inside : ∀ position ∈ params.positions key, Inside bytes.length position :=
    fun position mem => size ▸ params.inside_of_mem mem
  obtain ⟨bytes', run, sets⟩ := foldlM_setBit (hasBit bytes) (fun _ set => set) inside
  refine ⟨bytes', ?_, sets⟩
  have pairs : (params.positions key).zip ((params.positions key).map (hasBit bytes)) =
      (params.positions key).map fun position => (position, hasBit bytes position) := by
    simpa using List.zip_map' (f := id) (g := hasBit bytes) (l := params.positions key)
  unfold insert
  simp only [mapM_testBit inside]
  change ((params.positions key).zip ((params.positions key).map (hasBit bytes))).foldlM _ _ = _
  rw [pairs, List.foldlM_map]
  exact run

/-! ## Threads -/

section Threads

variable {φ : Type} {filters filters' : Filters φ} {filter : φ}

namespace Filters

def Grow (filters filters' : Filters φ) : Prop :=
  ∀ filter, Grows (filters.bitArrays filter) (filters'.bitArrays filter)

theorem Grow.refl (filters : Filters φ) : Grow filters filters := fun _ => .refl _

theorem Grow.trans {filters'' : Filters φ} (first : Grow filters filters')
    (second : Grow filters' filters'') : Grow filters filters'' :=
  fun filter => (first filter).trans (second filter)

/-- The bit arrays have their size, and a key whose insertion is complete has all its bits. -/
structure Sound (params : BloomFilterParameters) (filters : Filters φ) : Prop where
  size : ∀ filter, (filters.bitArrays filter).length = params.arraySizeInBytes
  holds : ∀ filter, ∀ key ∈ filters.inserted filter, Holds params (filters.bitArrays filter) key

/-- These positions of the key are set, by their number. -/
def Done (params : BloomFilterParameters) (filters : Filters φ) (filter : φ) (key : Key)
    (done : Nat → Prop) : Prop :=
  ∀ (next : Nat) (position : Nat × Nat), (params.positions key)[next]? = some position → done next →
    hasBit (filters.bitArrays filter) position = true

theorem Done.mono {done : Nat → Prop} (set : filters.Done params filter key done)
    (grow : Grow filters filters') : filters'.Done params filter key done :=
  fun next position at_ here => (grow filter).keeps _ _ (set next position at_ here)

/-- One more position is done. -/
theorem Done.next {done done' : Nat → Prop} {next : Nat} {position : Nat × Nat}
    (set : filters.Done params filter key done)
    (at_ : (params.positions key)[next]? = some position)
    (now : done' next → hasBit (filters.bitArrays filter) position = true)
    (others : ∀ other, done' other → other = next ∨ done other) :
    filters.Done params filter key done' := by
  intro other position' at_' here
  rcases others other here with rfl | before
  · rw [at_] at at_'
    cases at_'
    exact now here
  · exact set other position' at_' before

/-- When every position is done the key has all its bits. -/
theorem Done.holds {done : Nat → Prop} (set : filters.Done params filter key done)
    (all : ∀ next < (params.positions key).length, done next) :
    Holds params (filters.bitArrays filter) key := by
  intro position mem
  obtain ⟨next, inside, rfl⟩ := List.mem_iff_getElem.mp mem
  exact set next _ (List.getElem?_eq_getElem inside) (all next inside)

end Filters

/-- What the other threads cannot spoil for a thread at this point. -/
def FilterPoint.Ok (params : BloomFilterParameters) (filters : Filters φ) : FilterPoint φ → Prop
  | .ready => True
  | .checking filter key positions correct =>
    positions = params.positions key ∧ correct.length ≤ positions.length ∧
      filters.Done params filter key fun next => correct[next]? = some true
  | .updating filter key positions correct next =>
    positions = params.positions key ∧ correct.length = positions.length ∧
      filters.Done params filter key fun earlier => earlier < next ∨ correct[earlier]? = some true
  | .inserting filter key next => filters.Done params filter key (· < next)
  | .merging filter bloomFilter byteIndex known => ∀ key ∈ known,
    Holds params (filters.bitArrays bloomFilter) key ∧
      ∀ position ∈ params.positions key, position.1 / 8 < byteIndex →
        hasBit (filters.bitArrays filter) position = true
  | .querying filter key _ known => known = true → Holds params (filters.bitArrays filter) key
  | .answered _ _ known result => known = true → result = true
  | .undefined => False

theorem FilterPoint.Ok.mono {point : FilterPoint φ} (ok : point.Ok params filters)
    (grow : filters.Grow filters') : point.Ok params filters' := by
  cases point with
  | ready => trivial
  | checking filter key positions correct => exact ⟨ok.1, ok.2.1, ok.2.2.mono grow⟩
  | updating filter key positions correct next => exact ⟨ok.1, ok.2.1, ok.2.2.mono grow⟩
  | inserting filter key next => exact Filters.Done.mono ok grow
  | merging filter bloomFilter byteIndex known =>
    intro key mem
    obtain ⟨holds, merged⟩ := ok key mem
    exact ⟨holds.mono (grow bloomFilter),
      fun position mem before => (grow filter).keeps _ _ (merged position mem before)⟩
  | querying filter key next known => exact fun isKnown => (ok isKnown).mono (grow filter)
  | answered filter key known result => exact ok
  | undefined => exact ok.elim

/-- What a step guarantees. -/
structure Preserved (params : BloomFilterParameters) (filters : Filters φ)
    (next : FilterPoint φ × Filters φ) : Prop where
  grow : filters.Grow next.2
  sound : next.2.Sound params
  ok : next.1.Ok params next.2

namespace Preserved

theorem stay {point : FilterPoint φ} (sound : filters.Sound params) (ok : point.Ok params filters) :
    Preserved params filters (point, filters) := ⟨.refl _, sound, ok⟩

variable [DecidableEq φ]

theorem complete {keys : List Key} (sound : filters.Sound params)
    (holds : ∀ key ∈ keys, Holds params (filters.bitArrays filter) key) :
    Preserved params filters (.ready, filters.complete filter keys) where
  grow := .refl _
  sound :=
    { size := sound.size
      holds := by
        intro other key mem
        simp only [Filters.complete] at mem ⊢
        by_cases same : other = filter
        · subst same
          rw [Function.update_self, List.mem_append] at mem
          exact mem.elim (holds key) (sound.holds other key)
        · rw [Function.update_of_ne same] at mem
          exact sound.holds other key mem }
  ok := trivial

theorem store {point : FilterPoint φ} {write : Exec BitArray} {bytes : BitArray}
    (sound : filters.Sound params) (run : write = .ok bytes)
    (grows : Grows (filters.bitArrays filter) bytes)
    (ok : ∀ filters' : Filters φ, filters.Grow filters' → filters'.bitArrays filter = bytes →
      point.Ok params filters') :
    Preserved params filters (filters.store filter point write) := by
  subst run
  change Preserved params filters
    (point, { filters with bitArrays := Function.update filters.bitArrays filter bytes })
  have grow : filters.Grow
      { filters with bitArrays := Function.update filters.bitArrays filter bytes } := by
    intro other
    by_cases same : other = filter
    · subst same
      simpa using grows
    · simpa [same] using Grows.refl _
  refine ⟨grow, ⟨fun other => ?_, fun other key mem => ?_⟩, ok _ grow (Function.update_self _ _ _)⟩
  · rw [(grow other).length_eq]
    exact sound.size other
  · exact (sound.holds other key mem).mono (grow other)

end Preserved

/-! ## One lemma for each point -/

variable [DecidableEq φ]

theorem advance_ready (request : Request φ) (sound : filters.Sound params) :
    Preserved params filters (advance params request .ready filters) := by
  cases request with
  | insert filter key =>
    apply Preserved.stay sound
    exact ⟨rfl, Nat.zero_le _, fun next position _ here => by simp at here⟩
  | insertUnSafe filter key =>
    apply Preserved.stay sound
    exact fun next position _ here => absurd here (Nat.not_lt_zero next)
  | bitwiseOr filter bloomFilter =>
    apply Preserved.stay sound
    exact fun key mem => ⟨sound.holds bloomFilter key mem,
      fun position _ here => absurd here (Nat.not_lt_zero _)⟩
  | contains filter key =>
    apply Preserved.stay sound
    exact fun known => sound.holds filter key (of_decide_eq_true known)

theorem advance_checking {request : Request φ} {positions : List (Nat × Nat)} {correct : List Bool}
    (sound : filters.Sound params)
    (ok : (FilterPoint.checking filter key positions correct).Ok params filters) :
    Preserved params filters
      (advance params request (.checking filter key positions correct) filters) := by
  obtain ⟨rfl, short, set⟩ := ok
  simp only [advance]
  cases at_ : (params.positions key)[correct.length]? with
  | none =>
    have last := List.getElem?_eq_none_iff.mp at_
    apply Preserved.stay sound
    refine ⟨rfl, Nat.le_antisymm short last, fun next position at_ here => set next position at_ ?_⟩
    exact here.resolve_left (Nat.not_lt_zero next)
  | some position =>
    obtain ⟨inside, rfl⟩ := List.getElem?_eq_some_iff.mp at_
    have inArray := sound.size filter ▸ params.inside_of_mem (List.getElem_mem inside)
    simp only [testBit_eq inArray]
    apply Preserved.stay sound
    refine ⟨rfl, ?_, set.next at_ (fun here => by simpa using here) fun other here => ?_⟩
    · rw [List.length_append]
      exact inside
    · rw [List.getElem?_append] at here
      split at here
      · exact .inr here
      · rw [List.getElem?_singleton] at here
        split at here
        · left
          omega
        · cases here

theorem advance_updating {request : Request φ} {positions : List (Nat × Nat)} {correct : List Bool}
    {next : Nat} (sound : filters.Sound params)
    (ok : (FilterPoint.updating filter key positions correct next).Ok params filters) :
    Preserved params filters
      (advance params request (.updating filter key positions correct next) filters) := by
  obtain ⟨rfl, same, set⟩ := ok
  simp only [advance]
  cases at_ : (params.positions key)[next]? with
  | none =>
    have last := List.getElem?_eq_none_iff.mp at_
    apply Preserved.complete sound
    intro key' mem
    rw [List.mem_singleton.mp mem]
    exact set.holds fun earlier inside => .inl (by omega)
  | some position =>
    obtain ⟨inside, rfl⟩ := List.getElem?_eq_some_iff.mp at_
    have inArray := sound.size filter ▸ params.inside_of_mem (List.getElem_mem inside)
    obtain ⟨isSet, found⟩ : ∃ isSet, correct[next]? = some isSet :=
      ⟨_, List.getElem?_eq_getElem (same ▸ inside)⟩
    simp only [found]
    cases isSet with
    | true =>
      -- The check found this bit, and no one has cleared it since.
      apply Preserved.store sound rfl (.refl _)
      intro filters' grow _
      refine ⟨rfl, same, (set.mono grow).next at_ (fun _ => ?_) fun other here => ?_⟩
      · exact (set.mono grow) next _ at_ (.inr found)
      · exact or_assoc.mp (here.imp_left Nat.lt_succ_iff_lt_or_eq.mp |>.imp_left Or.symm)
    | false =>
      obtain ⟨bytes, run, sets⟩ := setBit_spec inArray
      apply Preserved.store sound run sets.grows
      intro filters' grow stored
      refine ⟨rfl, same, (set.mono grow).next at_ (fun _ => ?_) fun other here => ?_⟩
      · rw [stored]
        exact sets.hasBit (List.mem_singleton_self _)
      · exact or_assoc.mp (here.imp_left Nat.lt_succ_iff_lt_or_eq.mp |>.imp_left Or.symm)

theorem advance_inserting {request : Request φ} {next : Nat} (sound : filters.Sound params)
    (ok : (FilterPoint.inserting filter key next).Ok params filters) :
    Preserved params filters (advance params request (.inserting filter key next) filters) := by
  simp only [advance]
  cases at_ : params.hashFn[next]? with
  | none =>
    have last := List.getElem?_eq_none_iff.mp at_
    apply Preserved.complete sound
    intro key' mem
    rw [List.mem_singleton.mp mem]
    apply Filters.Done.holds ok
    intro earlier inside
    rw [BloomFilterParameters.positions, List.length_map] at inside
    exact Nat.lt_of_lt_of_le inside last
  | some hash =>
    have position : (params.positions key)[next]? = some (params.computeIndices (hashAp hash key)) := by
      rw [BloomFilterParameters.positions, List.getElem?_map, at_]
      rfl
    have inArray := sound.size filter ▸ params.inside_computeIndices (hashAp hash key)
    obtain ⟨bytes, run, sets⟩ := setBit_spec inArray
    apply Preserved.store sound run sets.grows
    intro filters' grow stored
    apply (Filters.Done.mono ok grow).next position
    · intro _
      rw [stored]
      exact sets.hasBit (List.mem_singleton_self _)
    · intro other here
      exact (Nat.lt_succ_iff_lt_or_eq.mp here).symm

theorem advance_merging {request : Request φ} {bloomFilter : φ} {byteIndex : Nat} {known : List Key}
    (sound : filters.Sound params)
    (ok : (FilterPoint.merging filter bloomFilter byteIndex known).Ok params filters) :
    Preserved params filters
      (advance params request (.merging filter bloomFilter byteIndex known) filters) := by
  simp only [advance]
  split
  next inside =>
    have here : byteIndex < (filters.bitArrays filter).length := sound.size filter ▸ inside
    have there : byteIndex < (filters.bitArrays bloomFilter).length := sound.size bloomFilter ▸ inside
    rw [readAt_eq_getD there, readAt_eq_getD here]
    apply Preserved.store sound (writeAt_of_lt here _) (.set_or here _)
    intro filters' grow stored key mem
    obtain ⟨holds, merged⟩ := ok key mem
    refine ⟨holds.mono (grow bloomFilter), fun position mem' before => ?_⟩
    rcases Nat.lt_succ_iff_lt_or_eq.mp before with before | rfl
    · exact (grow filter).keeps _ _ (merged position mem' before)
    · have other : bitAt (filters.bitArrays bloomFilter) _ _ = true := holds position mem'
      rw [stored, hasBit, bitAt_set_or here]
      simpa [bitAt] using .inr other
  next past =>
    apply Preserved.complete sound
    intro key mem position mem'
    have inside := (params.inside_of_mem mem').byteIndex_lt
    exact (ok key mem).2 position mem' (by omega)

theorem advance_querying {request : Request φ} {next : Nat} {known : Bool} (sound : filters.Sound params)
    (ok : (FilterPoint.querying filter key next known).Ok params filters) :
    Preserved params filters (advance params request (.querying filter key next known) filters) := by
  simp only [advance]
  cases at_ : params.hashFn[next]? with
  | none =>
    apply Preserved.stay sound
    exact fun _ => rfl
  | some hash =>
    have inArray := sound.size filter ▸ params.inside_computeIndices (hashAp hash key)
    simp only [testBit_eq inArray]
    cases isSet : hasBit (filters.bitArrays filter) (params.computeIndices (hashAp hash key)) with
    | true => exact .stay sound ok
    | false =>
      apply Preserved.stay sound
      intro isKnown
      have set := ok isKnown _ (List.mem_map_of_mem (List.mem_of_getElem? at_))
      rw [isSet] at set
      exact set

/-- Every step of every thread. -/
theorem advance_preserved (request : Request φ) {point : FilterPoint φ} (sound : filters.Sound params)
    (ok : point.Ok params filters) : Preserved params filters (advance params request point filters) := by
  cases point with
  | ready => exact advance_ready request sound
  | checking filter key positions correct => exact advance_checking sound ok
  | updating filter key positions correct next => exact advance_updating sound ok
  | inserting filter key next => exact advance_inserting sound ok
  | merging filter bloomFilter byteIndex known => exact advance_merging sound ok
  | querying filter key next known => exact advance_querying sound ok
  | answered filter key known result =>
    have done : advance params request (.answered filter key known result) filters = (.ready, filters) := by
      cases request <;> rfl
    rw [done]
    exact .stay sound trivial
  | undefined => exact ok.elim

/-! ## All schedules -/

variable {ι : Type} [DecidableEq ι]

/-- Filters before the first insertion: a constructor takes any bits that its caller has stored. -/
def create (bitArrays : φ → { bytes : BitArray // bytes.length = params.arraySizeInBytes }) :
    Threads ι (Filters φ) (FilterPoint φ) :=
  ⟨⟨fun filter => (bitArrays filter).val, fun _ => []⟩, fun _ => .ready⟩

/-- From filters and threads in order, the bit arrays only grow. -/
theorem interleave_grow {start : Threads ι (Filters φ) (FilterPoint φ)}
    (sound : start.shared.Sound params) (ok : ∀ i, (start.points i).Ok params start.shared)
    (schedule : List (ι × Request φ)) :
    let later := start.interleave (advance params) schedule
    (start.shared.Grow later.shared ∧ later.shared.Sound params) ∧
      ∀ i, (later.points i).Ok params later.shared := by
  have stable : ∀ (shared shared' : Filters φ) (point : FilterPoint φ), shared.Grow shared' →
      point.Ok params shared → point.Ok params shared' :=
    fun shared shared' point grow ok => ok.mono grow
  have step : ∀ (request : Request φ) (point : FilterPoint φ) (shared : Filters φ),
      (start.shared.Grow shared ∧ shared.Sound params) → point.Ok params shared →
      shared.Grow (advance params request point shared).2 ∧
        (start.shared.Grow (advance params request point shared).2 ∧
          (advance params request point shared).2.Sound params) ∧
        (advance params request point shared).1.Ok params (advance params request point shared).2 := by
    rintro request point shared ⟨grown, sound⟩ ok
    obtain ⟨grow, sound', ok'⟩ := advance_preserved request sound ok
    exact ⟨grow, ⟨grown.trans grow, sound'⟩, ok'⟩
  exact Threads.interleave_ok stable step ⟨.refl _, sound⟩ ok schedule

/-- **No false negatives.** After every schedule: a key whose insertion into a filter, or into one merged
into it later, is complete is found, by a thread that began to look then as well; no byte index is out of
range; the bits that `insert` and `insertUnSafe` would set are the same; and whatever comes later, bits
only go from 0 to 1. -/
theorem interleave_noFalseNegatives
    (bitArrays : φ → { bytes : BitArray // bytes.length = params.arraySizeInBytes })
    (schedule later : List (ι × Request φ)) :
    let now := (create bitArrays).interleave (advance params) schedule
    let after := now.interleave (advance params) later
    (∀ filter key, ∃ result, contains params (now.shared.bitArrays filter) key = .ok result ∧
      (key ∈ now.shared.inserted filter → result = true)) ∧
    (∀ i filter key result, now.points i = .answered filter key true result → result = true) ∧
    (∀ i, now.points i ≠ .undefined) ∧
    (∀ filter key, ∃ bytes, insert params (now.shared.bitArrays filter) key = .ok bytes ∧
      insertUnSafe params (now.shared.bitArrays filter) key = .ok bytes ∧
      SetsBits (now.shared.bitArrays filter) (params.positions key) bytes) ∧
    now.shared.Grow after.shared := by
  have start : (create bitArrays : Threads ι (Filters φ) (FilterPoint φ)).shared.Sound params :=
    ⟨fun filter => (bitArrays filter).property, fun _ _ mem => absurd mem List.not_mem_nil⟩
  obtain ⟨⟨_, sound⟩, ok⟩ := interleave_grow start (fun _ => trivial) schedule
  refine ⟨fun filter key => ?_, fun i filter key result at_ => ?_, fun i at_ => ?_,
    fun filter key => ?_, (interleave_grow sound ok later).1.1⟩
  · obtain ⟨result, run, found⟩ := contains_spec key (sound.size filter)
    exact ⟨result, run, fun mem => found.mpr (sound.holds filter key mem)⟩
  · have answer := ok i
    rw [at_] at answer
    exact answer rfl
  · have undefined := ok i
    rw [at_] at undefined
    exact undefined
  · obtain ⟨bytes, run, sets⟩ := insert_spec key (sound.size filter)
    obtain ⟨bytes', run', sets'⟩ := insertUnSafe_spec key (sound.size filter)
    obtain rfl := sets.unique sets'
    exact ⟨bytes, run, run', sets⟩

/-! One thread inserts `abc` into the first of two filters of eight bytes and merges the second into it;
before it is done, the other thread has inserted `de` into the second one without a lock. -/

def twoHashes : BloomFilterParameters := ⟨[0xA5A5A5A5#32, 0x5BD1E995#32], 8, by decide, by decide⟩

def noBits : Bool → { bytes : BitArray // bytes.length = twoHashes.arraySizeInBytes } :=
  fun _ => ⟨List.replicate 8 0, rfl⟩

def insertsAndMerge : List (Bool × Request Bool) :=
  List.replicate 7 (false, .insert false [97, 98, 99]) ++
    List.replicate 4 (true, .insertUnSafe true [100, 101]) ++
      List.replicate 10 (false, .bitwiseOr false true)

theorem interleave_noFalseNegatives_merged :
    let now := (create noBits).interleave (advance twoHashes) insertsAndMerge
    contains twoHashes (now.shared.bitArrays false) [97, 98, 99] = .ok true ∧
      contains twoHashes (now.shared.bitArrays false) [100, 101] = .ok true := by
  have noFalseNegatives := (interleave_noFalseNegatives noBits insertsAndMerge []).1 false
  constructor
  · obtain ⟨result, run, found⟩ := noFalseNegatives [97, 98, 99]
    rwa [found (by decide +kernel)] at run
  · obtain ⟨result, run, found⟩ := noFalseNegatives [100, 101]
    rwa [found (by decide +kernel)] at run

end Threads

end BloomFilter

end Quickstep.Utility

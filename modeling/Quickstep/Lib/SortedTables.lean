import Quickstep.Lib.WhileLoop

/-!
# Sorted tables

Binary search in a table, and tables that list the selected numbers of a range in order. Whether a table
does so is decided by one walk over the range.
-/

namespace Quickstep.Lib

/-! ## Binary search -/

section PartitionPoint

variable {α : Type}

/-- `std::partition_point` among the `count` entries from `first` on. -/
def partitionPoint (before : α → Bool) (table : List α) (first count : Nat) : Exec Nat :=
  if some_left : count ≠ 0 then do
    let middle ← readAt table (first + count / 2)
    if before middle then
      partitionPoint before table (first + count / 2 + 1) (count - count / 2 - 1)
    else partitionPoint before table first (count / 2)
  else .ok first
termination_by count
decreasing_by all_goals omega

/-- The entries in front of a position are those that `before` holds of. -/
structure PartitionsAt (before : α → Bool) (table : List α) (position : Nat) : Prop where
  le_length : position ≤ table.length
  iff : ∀ i (inside : i < table.length), i < position ↔ before table[i] = true

/-- Entries that `before` holds of stand in front of the others. -/
def Partitioned (before : α → Bool) (table : List α) : Prop :=
  table.Pairwise fun x y => before y = true → before x = true

variable {before : α → Bool} {table : List α}

theorem Partitioned.of_le (partitioned : Partitioned before table) {i j : Nat} (le : i ≤ j)
    (inside : j < table.length) (holds : before table[j] = true) : before table[i] = true := by
  rcases Nat.eq_or_lt_of_le le with rfl | lt
  · exact holds
  · exact List.pairwise_iff_getElem.mp partitioned i j (by omega) inside lt holds

/-- **Binary search**: it reads entries of the table only, and ends at the partition point. -/
theorem partitionPoint_ok (partitioned : Partitioned before table) {first count : Nat}
    (within : first + count ≤ table.length)
    (front : ∀ i (inside : i < table.length), i < first → before table[i] = true)
    (back : ∀ i (inside : i < table.length), first + count ≤ i → ¬ before table[i] = true) :
    ∃ position, partitionPoint before table first count = .ok position ∧
      PartitionsAt before table position := by
  induction count using Nat.strongRecOn generalizing first with
  | ind count ih =>
    rw [partitionPoint]
    by_cases some_left : count ≠ 0
    · have inside : first + count / 2 < table.length := by omega
      rw [dif_pos some_left, readAt_of_lt inside, Exec.ok_bind]
      cases middle : before table[first + count / 2] with
      | true =>
        refine ih (count - count / 2 - 1) (by omega) (by omega) ?_ ?_
        · intro i inside' below
          exact partitioned.of_le (by omega) inside middle
        · intro i inside' above
          exact back i inside' (by omega)
      | false =>
        refine ih (count / 2) (by omega) (by omega) front ?_
        intro i inside' above holds
        have false_at := partitioned.of_le above inside' holds
        simp [middle] at false_at
    · rw [dif_neg some_left]
      refine ⟨first, rfl, by omega, fun i inside => ⟨front i inside, fun holds => ?_⟩⟩
      rcases Nat.lt_or_ge i first with below | above
      · exact below
      · exact absurd holds (back i inside (by omega))

theorem partitionPoint_table (partitioned : Partitioned before table) :
    ∃ position, partitionPoint before table 0 table.length = .ok position ∧
      PartitionsAt before table position := by
  refine partitionPoint_ok partitioned (by omega) ?_ ?_
  · intro i inside below
    omega
  · intro i inside above
    omega

end PartitionPoint

section Bounds

variable {table : List Nat}

/-- `std::lower_bound`. -/
def lowerBound (table : List Nat) (value : Nat) : Exec Nat :=
  partitionPoint (fun entry => decide (entry < value)) table 0 table.length

/-- `std::upper_bound`. -/
def upperBound (table : List Nat) (value : Nat) : Exec Nat :=
  partitionPoint (fun entry => !decide (value < entry)) table 0 table.length

theorem lowerBound_ok (sorted : table.Pairwise (· < ·)) (value : Nat) :
    ∃ position, lowerBound table value = .ok position ∧ position ≤ table.length ∧
      ∀ i (inside : i < table.length), i < position ↔ table[i] < value := by
  have partitioned : Partitioned (fun entry => decide (entry < value)) table := by
    refine sorted.imp ?_
    simp
    omega
  obtain ⟨position, run, partitions⟩ := partitionPoint_table partitioned
  refine ⟨position, run, partitions.le_length, fun i inside => ?_⟩
  simp [partitions.iff i inside]

theorem upperBound_ok (sorted : table.Pairwise (· < ·)) (value : Nat) :
    ∃ position, upperBound table value = .ok position ∧ position ≤ table.length ∧
      ∀ i (inside : i < table.length), i < position ↔ table[i] ≤ value := by
  have partitioned : Partitioned (fun entry => !decide (value < entry)) table := by
    refine sorted.imp ?_
    simp
    omega
  obtain ⟨position, run, partitions⟩ := partitionPoint_table partitioned
  refine ⟨position, run, partitions.le_length, fun i inside => ?_⟩
  simp [partitions.iff i inside]

/-- The entries of a sorted table are ordered as their indices are. -/
theorem getElem_lt_iff (sorted : table.Pairwise (· < ·)) {i j : Nat} (insideI : i < table.length)
    (insideJ : j < table.length) : table[i] < table[j] ↔ i < j := by
  have increasing := List.pairwise_iff_getElem.mp sorted
  constructor
  · intro lt
    rcases Nat.lt_trichotomy i j with below | rfl | above
    · exact below
    · exact absurd lt (Nat.lt_irrefl _)
    · exact absurd lt (Nat.lt_asymm (increasing j i insideJ insideI above))
  · exact increasing i j insideI insideJ

end Bounds

/-! ## Tables of selected numbers -/

/-- A table lists the selected numbers from `start` to `stop` in order. -/
structure Enumerates (selected : Nat → Prop) (start stop : Nat) (table : List Nat) : Prop where
  sorted : table.Pairwise (· < ·)
  mem_iff : ∀ n, n ∈ table ↔ start ≤ n ∧ n < stop ∧ selected n

/-- None of `count` numbers, each a stride behind the one before, is selected. -/
def noneSelected (selects : Nat → Bool) (stride : Nat) : Nat → Nat → Bool
  | 0, _ => true
  | count + 1, start => !selects start && noneSelected selects stride count (start + stride)

/-- The table lists the selected numbers from `start` to `stop`. -/
def listsSelected (selects : Nat → Bool) (stride stop : Nat) : List Nat → Nat → Bool
  | [], start => noneSelected selects stride ((stop - start + (stride - 1)) / stride) start
  | entry :: rest, start =>
    start.ble entry && entry.blt stop && noneSelected selects stride ((entry - start) / stride) start &&
      selects entry && listsSelected selects stride stop rest (entry + stride)

/-- The increments that follow each other from `start` on step over no selected number. -/
def stepsOver (selects : Nat → Bool) (stride : Nat) : List Nat → Nat → Bool
  | [], _ => true
  | increment :: increments, start =>
    (increment % stride).beq 0 &&
      noneSelected selects stride ((increment - 1) / stride) (start + stride) &&
      stepsOver selects stride increments (start + increment)

def StepsOver (selected : Nat → Prop) : List Nat → Nat → Prop
  | [], _ => True
  | increment :: increments, start =>
    (∀ n, start < n → n < start + increment → ¬ selected n) ∧
      StepsOver selected increments (start + increment)

section Walks

variable {selects : Nat → Bool} {selected : Nat → Prop} {stride start stop : Nat} {table : List Nat}

theorem noneSelected_spec {count : Nat} (none : noneSelected selects stride count start = true)
    {i : Nat} (inside : i < count) : selects (start + i * stride) = false := by
  induction count generalizing start i with
  | zero => omega
  | succ count ih =>
    simp only [noneSelected, Bool.and_eq_true, Bool.not_eq_true'] at none
    cases i with
    | zero => simpa using none.1
    | succ i =>
      have later := ih none.2 (Nat.lt_of_succ_lt_succ inside)
      rwa [Nat.succ_mul, Nat.add_comm (i * stride), ← Nat.add_assoc]

/-- Numbers of one residue are whole strides apart. -/
theorem exists_strides {n : Nat} (same : n % stride = start % stride) (lower : start ≤ n) :
    ∃ i, n = start + i * stride := by
  have whole := Nat.sub_mod_eq_zero_of_mod_eq same
  refine ⟨(n - start) / stride, ?_⟩
  rw [Nat.div_mul_cancel (Nat.dvd_of_mod_eq_zero whole)]
  omega

theorem noneSelected_upto {count n : Nat} (none : noneSelected selects stride count start = true)
    (same : n % stride = start % stride) (lower : start ≤ n) (upper : n < start + count * stride) :
    selects n = false := by
  obtain ⟨i, rfl⟩ := exists_strides same lower
  exact noneSelected_spec none (Nat.lt_of_mul_lt_mul_right (Nat.lt_of_add_lt_add_left upper))

/-- **The walk decides**: a table that passes it lists the selected numbers, if these have the residue of
the numbers that are looked at. -/
theorem listsSelected_spec (positive : 0 < stride)
    (residue : ∀ n, selects n = true → n % stride = start % stride)
    (lists : listsSelected selects stride stop table start = true) :
    Enumerates (fun n => selects n = true) start stop table := by
  induction table generalizing start with
  | nil =>
    refine ⟨List.Pairwise.nil, fun n => ⟨nofun, ?_⟩⟩
    rintro ⟨lower, upper, holds⟩
    have strides := Nat.lt_div_mul_add positive (a := stop - start + (stride - 1))
    have none := noneSelected_upto lists (residue n holds) lower (by omega)
    simp [none] at holds
  | cons entry rest ih =>
    simp only [listsSelected, Bool.and_eq_true, Nat.ble_eq, Nat.blt_eq] at lists
    obtain ⟨⟨⟨⟨lower, upper⟩, gap⟩, holds⟩, lists⟩ := lists
    have same := residue entry holds
    have later := ih (fun n holds' => by rw [Nat.add_mod_right, same, residue n holds']) lists
    refine ⟨List.Pairwise.cons ?_ later.sorted, fun n => ?_⟩
    · intro n member
      have from_entry := (later.mem_iff n).mp member
      omega
    · rw [List.mem_cons, later.mem_iff]
      constructor
      · rintro (rfl | ⟨above, below, holds'⟩)
        · exact ⟨lower, upper, holds⟩
        · exact ⟨by omega, below, holds'⟩
      · rintro ⟨from_start, below, holds'⟩
        rcases Nat.lt_trichotomy n entry with before | equal | behind
        · obtain ⟨strides, rfl⟩ := exists_strides same lower
          rw [Nat.add_sub_cancel_left, Nat.mul_div_cancel _ positive] at gap
          have none := noneSelected_upto gap (residue n holds') from_start before
          simp [none] at holds'
        · exact .inl equal
        · -- The next number of the residue is a stride behind the entry.
          obtain ⟨strides, rfl⟩ := exists_strides ((residue n holds').trans same.symm) (Nat.le_of_lt behind)
          have some_strides : strides ≠ 0 := by
            rintro rfl
            simp at behind
          have one := Nat.mul_le_mul_right stride (Nat.one_le_iff_ne_zero.mpr some_strides)
          exact .inr ⟨by omega, below, holds'⟩

theorem stepsOver_spec {increments : List Nat} (positive : 0 < stride)
    (residue : ∀ n, selects n = true → n % stride = start % stride)
    (steps : stepsOver selects stride increments start = true) :
    StepsOver (fun n => selects n = true) increments start := by
  induction increments generalizing start with
  | nil => trivial
  | cons increment increments ih =>
    simp only [stepsOver, Bool.and_eq_true, Nat.beq_eq] at steps
    obtain ⟨⟨whole, gap⟩, steps⟩ := steps
    refine ⟨fun n above below holds => ?_, ih (fun n holds => ?_) steps⟩
    · obtain ⟨strides, rfl⟩ := exists_strides (residue n holds) (Nat.le_of_lt above)
      have some_strides : strides ≠ 0 := by
        rintro rfl
        simp at above
      have one := Nat.mul_le_mul_right stride (Nat.one_le_iff_ne_zero.mpr some_strides)
      have inside : strides ≤ (increment - 1) / stride := (Nat.le_div_iff_mul_le positive).mpr (by omega)
      have none := noneSelected_upto (n := start + strides * stride) gap (by simp) (by omega)
        (by have strides_le := Nat.mul_le_mul_right stride inside; omega)
      simp [none] at holds
    · rw [Nat.add_mod, whole, Nat.add_zero, Nat.mod_mod, residue n holds]

theorem StepsOver.mono {selected' : Nat → Prop} {increments : List Nat}
    (steps : StepsOver selected increments start) (less : ∀ n, start < n → selected' n → selected n) :
    StepsOver selected' increments start := by
  induction increments generalizing start with
  | nil => trivial
  | cons increment increments ih =>
    exact ⟨fun n above below holds => steps.1 n above below (less n above holds),
      ih steps.2 fun n above => less n (by omega)⟩

end Walks

namespace Enumerates

variable {selected : Nat → Prop} {start middle stop : Nat} {table rest : List Nat}

theorem getElem (enumerates : Enumerates selected start stop table) {i : Nat}
    (inside : i < table.length) : start ≤ table[i] ∧ table[i] < stop ∧ selected table[i] :=
  (enumerates.mem_iff _).mp (List.getElem_mem inside)

theorem exists_index (enumerates : Enumerates selected start stop table) {n : Nat} (lower : start ≤ n)
    (upper : n < stop) (holds : selected n) : ∃ i, ∃ inside : i < table.length, table[i] = n := by
  have member := (enumerates.mem_iff n).mpr ⟨lower, upper, holds⟩
  obtain ⟨i, inside, same⟩ := List.getElem_of_mem member
  exact ⟨i, inside, same⟩

theorem congr {selected' : Nat → Prop} (enumerates : Enumerates selected start stop table)
    (same : ∀ n, start ≤ n → n < stop → (selected n ↔ selected' n)) :
    Enumerates selected' start stop table := by
  refine ⟨enumerates.sorted, fun n => ?_⟩
  rw [enumerates.mem_iff]
  constructor
  · rintro ⟨lower, upper, holds⟩
    exact ⟨lower, upper, (same n lower upper).mp holds⟩
  · rintro ⟨lower, upper, holds⟩
    exact ⟨lower, upper, (same n lower upper).mpr holds⟩

/-- Tables of neighbouring ranges. -/
theorem append (enumerates : Enumerates selected start middle table)
    (later : Enumerates selected middle stop rest) (lower : start ≤ middle) (upper : middle ≤ stop) :
    Enumerates selected start stop (table ++ rest) := by
  refine ⟨?_, fun n => ?_⟩
  · refine List.pairwise_append.mpr ⟨enumerates.sorted, later.sorted, fun x front y back => ?_⟩
    have below := (enumerates.mem_iff x).mp front
    have above := (later.mem_iff y).mp back
    omega
  · rw [List.mem_append, enumerates.mem_iff, later.mem_iff]
    rcases Nat.lt_or_ge n middle with below | above
    · simp [below, Nat.lt_of_lt_of_le below upper, Nat.not_le.mpr below]
    · simp [above, Nat.le_trans lower above, Nat.not_lt.mpr above]

/-- Between an entry and the next one, or the end of the range, nothing is selected. -/
theorem not_between (enumerates : Enumerates selected start stop table) {i n : Nat}
    (inside : i < table.length) (above : table[i] < n) (below : n < table.getD (i + 1) stop) :
    ¬ selected n := by
  intro holds
  have first := enumerates.getElem inside
  have upper : n < stop := by
    by_cases more : i + 1 < table.length
    · have second := enumerates.getElem more
      simp only [List.getD_eq_getElem?_getD, List.getElem?_eq_getElem more, Option.getD_some] at below
      omega
    · simpa [List.getD_eq_getElem?_getD, List.getElem?_eq_none (Nat.le_of_not_lt more)] using below
  obtain ⟨j, insideJ, rfl⟩ := enumerates.exists_index (by omega) upper holds
  have later := (getElem_lt_iff enumerates.sorted inside insideJ).mp above
  have more : i + 1 < table.length := by omega
  simp only [List.getD_eq_getElem?_getD, List.getElem?_eq_getElem more, Option.getD_some] at below
  have earlier := (getElem_lt_iff enumerates.sorted insideJ more).mp below
  omega

end Enumerates

end Quickstep.Lib

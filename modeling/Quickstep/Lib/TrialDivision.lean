import Quickstep.Lib.SortedTables
import Mathlib.Data.Nat.Prime.Basic
import Mathlib.Data.Nat.GCD.Basic
import Mathlib.Data.List.Prime
import Mathlib.Algebra.BigOperators.Group.List.Basic

/-!
# Trial division with a wheel

A number that no prime divides up to its square root is prime. A wheel lists the residues that are
coprime to its circumference, so that its spokes are the only places of further primes, and of further
prime divisors.
-/

namespace Quickstep.Lib

/-! ## Divisors -/

def NoPrimeBelow (bound number : Nat) : Prop := ∀ p, p.Prime → p < bound → ¬ p ∣ number

section Divisors

variable {bound next number : Nat}

/-- The square root has been passed. -/
theorem NoPrimeBelow.prime (none : NoPrimeBelow bound number) (large : 2 ≤ number)
    (passed : number < bound * bound) : number.Prime := by
  by_contra composite
  have square : number.minFac * number.minFac ≤ number := by
    rw [← Nat.pow_two]
    exact Nat.minFac_sq_le_self (by omega) composite
  have small : number.minFac < bound := by
    by_contra order
    have above := Nat.mul_le_mul (Nat.le_of_not_lt order) (Nat.le_of_not_lt order)
    omega
  exact none number.minFac (Nat.minFac_prime (by omega)) small (Nat.minFac_dvd number)

/-- The next divisor, if there is no prime in between. -/
theorem NoPrimeBelow.step (none : NoPrimeBelow bound number) (not_dvd : ¬ bound ∣ number)
    (between : ∀ p, bound < p → p < next → ¬ p.Prime) : NoPrimeBelow next number := by
  intro p prime below
  rcases Nat.lt_trichotomy p bound with before | rfl | behind
  · exact none p prime before
  · exact not_dvd
  · exact absurd prime (between p behind below)

/-- A divisor that is not past the square root is a proper one. -/
theorem not_prime_of_dvd {divisor : Nat} (proper : 2 ≤ divisor) (square : divisor * divisor ≤ number)
    (dvd : divisor ∣ number) : ¬ number.Prime := by
  intro prime
  rcases (Nat.dvd_prime prime).mp dvd with one | same
  · omega
  · have larger := Nat.mul_le_mul_right divisor proper
    omega

/-- **One stage of a sieve**: up to the square of its bound, what is coprime to the primes of a table are
the next primes. -/
theorem Enumerates.sieve {stop : Nat} {divisors rest : List Nat}
    (primes : Enumerates Nat.Prime 0 bound divisors)
    (coprimes : Enumerates (fun n => n.Coprime divisors.prod) bound stop rest) (large : 2 ≤ bound)
    (le : bound ≤ stop) (square : stop ≤ bound * bound) :
    Enumerates Nat.Prime 0 stop (divisors ++ rest) := by
  refine primes.append (coprimes.congr fun n lower upper => ⟨fun coprime => ?_, fun prime => ?_⟩)
    (Nat.zero_le _) le
  · have none_below : NoPrimeBelow bound n := by
      intro p prime below dvd
      have member := (primes.mem_iff p).mpr ⟨Nat.zero_le p, below, prime⟩
      exact Nat.not_coprime_of_dvd_of_dvd prime.one_lt dvd (List.dvd_prod member) coprime
    exact none_below.prime (by omega) (by omega)
  · refine (Nat.Prime.coprime_iff_not_dvd prime).mpr fun dvd => ?_
    obtain ⟨divisor, member, dvd⟩ := (Prime.dvd_prod_iff prime.prime).mp dvd
    have small := (primes.mem_iff divisor).mp member
    have divisor_ge := Nat.le_of_dvd small.2.2.pos dvd
    omega

end Divisors

/-! ## Wheels -/

/-- The spokes are the residues that are coprime to the circumference. -/
def IsWheel (circumference : Nat) (spokes : List Nat) : Prop :=
  Enumerates (fun residue => residue.Coprime circumference) 0 circumference spokes

/-- The number on a spoke of a turn. -/
def spoke (circumference : Nat) (spokes : List Nat) (turn index : Nat) : Nat :=
  turn * circumference + spokes.getD index 0

/-- Coprime numbers are known by their residue. -/
theorem coprime_mod_iff {number modulus : Nat} :
    (number % modulus).Coprime modulus ↔ number.Coprime modulus := by
  conv => rhs; rw [← Nat.div_add_mod number modulus]
  exact (Nat.coprime_mul_left_add_left _ _ _).symm

section Wheels

variable {circumference turn turn' index index' : Nat} {spokes : List Nat}

theorem spoke_eq (inside : index < spokes.length) :
    spoke circumference spokes turn index = turn * circumference + spokes[index] := by
  simp [spoke, inside]

namespace IsWheel

theorem spoke_lt (wheel : IsWheel circumference spokes) (inside : index < spokes.length) :
    spoke circumference spokes turn index < (turn + 1) * circumference := by
  have entry := wheel.getElem inside
  rw [spoke_eq inside, Nat.succ_mul]
  omega

theorem spoke_coprime (wheel : IsWheel circumference spokes) (inside : index < spokes.length) :
    (spoke circumference spokes turn index).Coprime circumference := by
  rw [spoke_eq inside, Nat.coprime_mul_right_add_left]
  exact (wheel.getElem inside).2.2

/-- Every number that is coprime to the circumference lies on a spoke. -/
theorem exists_spoke (wheel : IsWheel circumference spokes) (positive : 0 < circumference)
    {number : Nat} (coprime : number.Coprime circumference) :
    ∃ index, index < spokes.length ∧
      spoke circumference spokes (number / circumference) index = number := by
  obtain ⟨index, inside, same⟩ := wheel.exists_index (Nat.zero_le _)
    (Nat.mod_lt number positive) (coprime_mod_iff.mpr coprime)
  refine ⟨index, inside, ?_⟩
  rw [spoke_eq inside, same, Nat.div_add_mod']

/-- Spokes are ordered by the turn, then by the index. -/
theorem spoke_lt_iff (wheel : IsWheel circumference spokes) (inside : index < spokes.length)
    (inside' : index' < spokes.length) :
    spoke circumference spokes turn index < spoke circumference spokes turn' index' ↔
      turn < turn' ∨ turn = turn' ∧ index < index' := by
  have one := wheel.getElem inside
  have other := wheel.getElem inside'
  have order := getElem_lt_iff wheel.sorted inside inside'
  rw [spoke_eq inside, spoke_eq inside']
  rcases Nat.lt_trichotomy turn turn' with before | rfl | behind
  · have turns := Nat.mul_le_mul_right circumference (Nat.succ_le_of_lt before)
    rw [Nat.succ_mul] at turns
    omega
  · omega
  · have turns := Nat.mul_le_mul_right circumference (Nat.succ_le_of_lt behind)
    rw [Nat.succ_mul] at turns
    omega

theorem spoke_le_iff (wheel : IsWheel circumference spokes) (inside : index < spokes.length)
    (inside' : index' < spokes.length) :
    spoke circumference spokes turn index ≤ spoke circumference spokes turn' index' ↔
      turn < turn' ∨ turn = turn' ∧ index ≤ index' := by
  have order := @spoke_lt_iff _ turn' turn _ _ _ wheel inside' inside
  omega

/-- The residue of a number picks the spokes behind it on its turn. -/
theorem residue_le_iff (inside : index < spokes.length) (number : Nat) :
    number - number / circumference * circumference ≤ spokes[index] ↔
      number ≤ spoke circumference spokes (number / circumference) index := by
  rw [spoke_eq inside]
  omega

theorem le_residue_iff (inside : index < spokes.length) (number : Nat) :
    spokes[index] ≤ number - number / circumference * circumference ↔
      spoke circumference spokes (number / circumference) index ≤ number := by
  have turns := Nat.div_mul_le_self number circumference
  rw [spoke_eq inside]
  omega

/-- **The first spoke that is not before a number** is on the turn of the number. -/
theorem lowerBound_ok (wheel : IsWheel circumference spokes) (positive : 0 < circumference)
    (number : Nat) :
    ∃ index, lowerBound spokes (number - number / circumference * circumference) = .ok index ∧
      index < spokes.length ∧ number ≤ spoke circumference spokes (number / circumference) index ∧
      ∀ turn' index', index' < spokes.length → number ≤ spoke circumference spokes turn' index' →
        spoke circumference spokes (number / circumference) index ≤
          spoke circumference spokes turn' index' := by
  obtain ⟨position, run, le_length, before⟩ :=
    Lib.lowerBound_ok wheel.sorted (number - number / circumference * circumference)
  -- The last residue is coprime to the circumference.
  have coprime : (circumference - 1).Coprime circumference := by
    have next := (Nat.coprime_self_add_right (m := circumference - 1) (n := 1)).mpr (by simp)
    rwa [Nat.sub_add_cancel positive] at next
  obtain ⟨last, inside_last, last_eq⟩ :=
    wheel.exists_index (Nat.zero_le _) (Nat.sub_lt positive Nat.one_pos) coprime
  have residue_lt : number - number / circumference * circumference < circumference := by
    have turns := Nat.div_add_mod' number circumference
    have residue := Nat.mod_lt number positive
    omega
  have inside : position < spokes.length := by
    have before_last := before last inside_last
    omega
  have at_position := before position inside
  refine ⟨position, run, inside, (residue_le_iff inside number).mp (by omega), ?_⟩
  intro turn' index' inside' above
  have turn_le : number / circumference ≤ turn' := by
    have below := @IsWheel.spoke_lt _ turn' _ _ wheel inside'
    have turn_lt := (Nat.div_lt_iff_lt_mul positive).mpr (Nat.lt_of_le_of_lt above below)
    omega
  refine (wheel.spoke_le_iff inside inside').mpr ?_
  rcases Nat.eq_or_lt_of_le turn_le with rfl | later
  · have residue_le := (residue_le_iff inside' number).mpr above
    have before_index := before index' inside'
    omega
  · exact .inl later

/-- **The spokes that are not behind a number** end on its turn. -/
theorem upperBound_ok (wheel : IsWheel circumference spokes) (positive : 0 < circumference)
    (number : Nat) :
    ∃ position, upperBound spokes (number - number / circumference * circumference) = .ok position ∧
      position ≤ spokes.length ∧ ∀ turn index, index < spokes.length →
        (turn < number / circumference ∨ turn = number / circumference ∧ index < position ↔
          spoke circumference spokes turn index ≤ number) := by
  obtain ⟨position, run, le_length, before⟩ :=
    Lib.upperBound_ok wheel.sorted (number - number / circumference * circumference)
  refine ⟨position, run, le_length, fun turn index inside => ?_⟩
  have turns := Nat.div_mul_le_self number circumference
  have below := @IsWheel.spoke_lt _ turn _ _ wheel inside
  rcases Nat.lt_trichotomy turn (number / circumference) with earlier | rfl | later
  · have turn_le := Nat.mul_le_mul_right circumference (show turn + 1 ≤ number / circumference from earlier)
    simp [earlier]
    omega
  · rw [← le_residue_iff inside, before index inside]
    simp
  · have number_lt := (Nat.div_lt_iff_lt_mul positive).mp later
    have above : turn * circumference ≤ spoke circumference spokes turn index := Nat.le_add_right _ _
    omega

end IsWheel

/-- Increments that step over no coprime number on one turn do so on every turn. -/
theorem StepsOver.on_turn {increments : List Nat} {start start' : Nat}
    (steps : StepsOver (fun n => n.Coprime circumference) increments start)
    (same : start' % circumference = start % circumference) :
    StepsOver (fun n => n.Coprime circumference) increments start' := by
  have moved (distance : Nat) : (start' + distance) % circumference = (start + distance) % circumference := by
    rw [Nat.add_mod, same, ← Nat.add_mod]
  induction increments generalizing start start' with
  | nil => trivial
  | cons increment increments ih =>
    refine ⟨fun n above below coprime => ?_, ih steps.2 (moved increment) fun distance => ?_⟩
    · have residues := moved (n - start')
      rw [show start' + (n - start') = n by omega] at residues
      refine steps.1 (start + (n - start')) (by omega) (by omega) ?_
      dsimp only at coprime ⊢
      rw [← coprime_mod_iff, ← residues]
      exact coprime_mod_iff.mpr coprime
    · rw [Nat.add_mod, moved increment, ← Nat.add_mod]

/-- A prime that is larger than the circumference lies on a spoke. -/
theorem coprime_of_prime {p : Nat} (prime : p.Prime) (positive : 0 < circumference)
    (larger : circumference < p) : p.Coprime circumference :=
  (Nat.Prime.coprime_iff_not_dvd prime).mpr fun dvd =>
    absurd (Nat.le_of_dvd positive dvd) (Nat.not_le.mpr larger)

end Wheels

end Quickstep.Lib

import Quickstep.Lib.BoundedWords
import Quickstep.Utility.PrimeTables
import Mathlib.Tactic.NormNum.Prime
import Mathlib.Tactic.IntervalCases

/-!
# The search for primes

`get_next_prime_number` and `get_previous_prime_number` of `utility/PrimeNumber.cpp`. Small numbers are
looked up. From a larger one the search moves along the wheel of potential primes and divides each of
them, first by the small primes and then by the numbers that the increments reach. Every index into a
table is checked, and the arithmetic of `size_t` is a parameter.
-/

namespace Quickstep.Utility
open Quickstep.Lib

/-! ## The functions -/

/-- What the trial divisions of a number end with: it is returned, or `found_factor` is set. -/
inductive Verdict where
  | prime
  | foundFactor
  deriving DecidableEq, Repr

section Functions

variable (arithmetic : WordArithmetic 64)

/-- One trial division, which both loops over divisors make. -/
def tryDivisor (number divisor : Nat) : Exec (Option Verdict) := do
  let quotient ← divide number divisor
  if quotient < divisor then pure (some .prime)
  else
    let product ← arithmetic.mul quotient divisor
    if number = product then pure (some .foundFactor) else pure none

def trySmallPrime (number smallPrimeIdx : Nat) : Exec (Option Verdict) := do
  let smallPrime ← readAt kSmallPrimes smallPrimeIdx
  tryDivisor arithmetic number smallPrime

/-- The search for factors amongst the small primes, from 17. -/
def trySmallPrimes (number : Nat) : Exec (Option Verdict) :=
  forReturn (trySmallPrime arithmetic number) (kSmallPrimes.length - 6) 6

/-- The loop over the increments. It returns the potential prime after the last of them. -/
def tryIncrements (number : Nat) : List Nat → Nat → Exec (Verdict ⊕ Nat)
  | [], potentialPrime => pure (.inr potentialPrime)
  | increment :: increments, potentialPrime => do
    match ← tryDivisor arithmetic number potentialPrime with
    | some verdict => pure (.inl verdict)
    | none =>
      let potentialPrime ← arithmetic.add potentialPrime increment
      tryIncrements number increments potentialPrime

/-- `while (!found_factor)`. -/
def tryPotentialPrimes (number : Nat) : Nat → Nat → Exec Verdict
  | 0, _ => .error .outOfFuel
  | fuel + 1, potentialPrime => do
    match ← tryIncrements arithmetic number kPotentialPrimeIncrements potentialPrime with
    | .inl verdict => pure verdict
    | .inr potentialPrime => tryPotentialPrimes number fuel potentialPrime

def tryDivisors (fuel number : Nat) : Exec Verdict := do
  match ← trySmallPrimes arithmetic number with
  | some verdict => pure verdict
  | none => tryPotentialPrimes arithmetic number fuel kFirstNonSmallPrime

/-- `k * kFirstPrimesProduct + kAdditiveIndices[idx]`. -/
def numberAt (k idx : Nat) : Exec Nat := do
  let turns ← arithmetic.mul k kFirstPrimesProduct
  let additiveIndex ← readAt kAdditiveIndices idx
  arithmetic.add turns additiveIndex

/-- The next potential prime. -/
def nextPosition (k idx : Nat) : Exec (Nat × Nat) := do
  let idx ← arithmetic.add idx 1
  if idx = kAdditiveIndices.length then
    let k ← arithmetic.add k 1
    pure (k, 0)
  else pure (k, idx)

/-- The previous potential prime. `DCHECK_GT(k, 0u)` fails where there is none. -/
def previousPosition (k idx : Nat) : Exec (Nat × Nat) := do
  if idx = 0 then
    -- In its loop the source decrements `idx` here as well, and overwrites the result.
    let positive ← guarded (0 < k) k
    let k ← arithmetic.sub positive 1
    pure (k, kAdditiveIndices.length - 1)
  else
    let idx ← arithmetic.sub idx 1
    pure (k, idx)

/-- `for (;;)`: the two searches differ in how they move on from a number with a factor. -/
def search (move : Nat → Nat → Exec (Nat × Nat)) (fuel : Nat) : Nat → Nat → Nat → Exec Nat
  | 0, _, _ => .error .outOfFuel
  | rounds + 1, k, idx => do
    let number ← numberAt arithmetic k idx
    match ← tryDivisors arithmetic fuel number with
    | .prime => pure number
    | .foundFactor =>
      let position ← move k idx
      search move fuel rounds position.1 position.2

/-- `get_next_prime_number`. -/
def getNextPrimeNumber (fuel number : Nat) : Exec Nat := do
  let lastSmallPrime ← readAt kSmallPrimes (kSmallPrimes.length - 1)
  if number ≤ lastSmallPrime then
    let position ← lowerBound kSmallPrimes number
    readAt kSmallPrimes position
  else
    let k ← divide number kFirstPrimesProduct
    let turns ← arithmetic.mul k kFirstPrimesProduct
    let residue ← arithmetic.sub number turns
    let idx ← lowerBound kAdditiveIndices residue
    search arithmetic (nextPosition arithmetic) fuel fuel k idx

/-- `get_previous_prime_number`. -/
def getPreviousPrimeNumber (fuel number : Nat) : Exec Nat := do
  let firstSmallPrime ← readAt kSmallPrimes 0
  if number < firstSmallPrime then pure 0
  else if number < kFirstNonSmallPrime then
    let position ← upperBound kSmallPrimes number
    let before ← guarded (0 < position) (position - 1)
    readAt kSmallPrimes before
  else
    let k ← divide number kFirstPrimesProduct
    let turns ← arithmetic.mul k kFirstPrimesProduct
    let residue ← arithmetic.sub number turns
    let idx ← upperBound kAdditiveIndices residue
    let position ← previousPosition arithmetic k idx
    search arithmetic (previousPosition arithmetic) fuel fuel position.1 position.2

end Functions

/-! ## Trial division -/

def Verdict.Decides (verdict : Verdict) (number : Nat) : Prop := verdict = .prime ↔ number.Prime

section TrialDivision

variable (arithmetic : WordArithmetic 64) {number : Nat}

/-- A divisor up to the square root of a word is half a word. -/
theorem lt_of_square_le {divisor : Nat} (square : divisor * divisor ≤ number)
    (word : number < 2 ^ 64) : divisor < 2 ^ 32 := by
  by_contra order
  have squares := Nat.mul_le_mul (Nat.le_of_not_lt order) (Nat.le_of_not_lt order)
  omega

theorem tryDivisor_eq {divisor : Nat} (positive : 0 < divisor) (word : number < 2 ^ 64) :
    tryDivisor arithmetic number divisor =
      .ok (if number < divisor * divisor then some .prime
        else if divisor ∣ number then some .foundFactor else none) := by
  have multiple := Nat.div_mul_le_self number divisor
  rw [tryDivisor, divide_ok positive, Exec.ok_bind]
  simp only [Nat.div_lt_iff_lt_mul positive]
  by_cases passed : number < divisor * divisor
  · rw [if_pos passed, if_pos passed]
    rfl
  · rw [if_neg passed, if_neg passed, arithmetic.mul_ok (by omega), Exec.ok_bind]
    by_cases dvd : divisor ∣ number
    · rw [if_pos (Nat.div_mul_cancel dvd).symm, if_pos dvd]
      rfl
    · rw [if_neg fun same => dvd (Dvd.intro_left _ same.symm), if_neg dvd]
      rfl

/-- A trial division decides about a number, or excludes one more divisor. -/
theorem tryDivisor_cases {divisor : Nat} (proper : 2 ≤ divisor) (large : 2 ≤ number)
    (word : number < 2 ^ 64) (none_below : NoPrimeBelow divisor number) :
    (∃ verdict, tryDivisor arithmetic number divisor = .ok (some verdict) ∧ verdict.Decides number) ∨
      (tryDivisor arithmetic number divisor = .ok none ∧ divisor * divisor ≤ number ∧
        ¬ divisor ∣ number) := by
  rw [tryDivisor_eq arithmetic (by omega) word]
  by_cases passed : number < divisor * divisor
  · rw [if_pos passed]
    have prime := none_below.prime large passed
    exact .inl ⟨.prime, rfl, by simp [Verdict.Decides, prime]⟩
  · rw [if_neg passed]
    by_cases dvd : divisor ∣ number
    · rw [if_pos dvd]
      have composite := not_prime_of_dvd proper (Nat.le_of_not_lt passed) dvd
      exact .inl ⟨.foundFactor, rfl, by simp [Verdict.Decides, composite]⟩
    · rw [if_neg dvd]
      exact .inr ⟨rfl, Nat.le_of_not_lt passed, dvd⟩

/-- The primes in front of the first one that is tried. -/
theorem noPrimeBelow_seventeen (coprime : number.Coprime kFirstPrimesProduct) :
    NoPrimeBelow 17 number := by
  intro p prime below dvd
  have first : p ∣ kFirstPrimesProduct := by
    rw [show kFirstPrimesProduct = 30030 from rfl]
    interval_cases p <;> revert prime <;> norm_num
  exact Nat.not_coprime_of_dvd_of_dvd prime.one_lt dvd first coprime

/-- **The small primes** decide about a potential prime, or none of them divides it. -/
theorem trySmallPrimes_cases (coprime : number.Coprime kFirstPrimesProduct) (large : 2 ≤ number)
    (word : number < 2 ^ 64) :
    (∃ verdict, trySmallPrimes arithmetic number = .ok (some verdict) ∧ verdict.Decides number) ∨
      (trySmallPrimes arithmetic number = .ok none ∧ NoPrimeBelow kFirstNonSmallPrime number) := by
  let Inv (idx : Nat) : Prop := NoPrimeBelow (kSmallPrimes.getD idx kFirstNonSmallPrime) number
  have start : Inv 6 := noPrimeBelow_seventeen coprime
  have count : 6 + (kSmallPrimes.length - 6) = kSmallPrimes.length := by rw [kSmallPrimes_length]
  have step : ∀ idx, 6 ≤ idx → idx < 6 + (kSmallPrimes.length - 6) → Inv idx →
      (∃ verdict, trySmallPrime arithmetic number idx = .ok (some verdict) ∧ verdict.Decides number) ∨
        (trySmallPrime arithmetic number idx = .ok none ∧ Inv (idx + 1)) := by
    intro idx lower upper inv
    have inside : idx < kSmallPrimes.length := by omega
    have entry := kSmallPrimes_enumerates.getElem inside
    simp only [Inv, List.getD_eq_getElem?_getD, List.getElem?_eq_getElem inside, Option.getD_some] at inv
    rw [trySmallPrime, readAt_of_lt inside, Exec.ok_bind]
    rcases tryDivisor_cases arithmetic entry.2.2.two_le large word inv with decided | ⟨run, _, not_dvd⟩
    · exact .inl decided
    · refine .inr ⟨run, inv.step not_dvd fun p above below => ?_⟩
      exact kSmallPrimes_enumerates.not_between inside above below
  rcases forReturn_rule Inv (Verdict.Decides · number) start step with decided | ⟨run, inv⟩
  · exact .inl decided
  · refine .inr ⟨run, ?_⟩
    simpa [Inv, count] using inv

/-! ## The increments -/

theorem tryIncrements_cases {increments : List Nat} {potentialPrime : Nat}
    (steps : StepsOver (fun n => n.Coprime kFirstPrimesProduct) increments potentialPrime)
    (small : increments.sum ≤ kFirstPrimesProduct) (beyond : kFirstPrimesProduct < potentialPrime)
    (large : 2 ≤ number) (word : number < 2 ^ 64) (none_below : NoPrimeBelow potentialPrime number) :
    (∃ verdict, tryIncrements arithmetic number increments potentialPrime = .ok (.inl verdict) ∧
      verdict.Decides number) ∨
      (tryIncrements arithmetic number increments potentialPrime =
          .ok (.inr (potentialPrime + increments.sum)) ∧
        NoPrimeBelow (potentialPrime + increments.sum) number ∧
        (increments ≠ [] → potentialPrime < 2 ^ 32)) := by
  have product : kFirstPrimesProduct = 30030 := rfl
  induction increments generalizing potentialPrime with
  | nil => exact .inr ⟨rfl, none_below, fun some_left => absurd rfl some_left⟩
  | cons increment increments ih =>
    rw [List.sum_cons] at small
    rw [tryIncrements, List.sum_cons, ← Nat.add_assoc]
    rcases tryDivisor_cases arithmetic (by omega) large word none_below with
      ⟨verdict, run, decides⟩ | ⟨run, square, not_dvd⟩
    · rw [run]
      exact .inl ⟨verdict, rfl, decides⟩
    · have half := lt_of_square_le square word
      have next : NoPrimeBelow (potentialPrime + increment) number := by
        refine none_below.step not_dvd fun p above below prime => ?_
        exact steps.1 p above below (coprime_of_prime prime (by omega) (by omega))
      rw [run, Exec.ok_bind]
      dsimp only
      rw [arithmetic.add_ok (by omega), Exec.ok_bind]
      rcases ih steps.2 (by omega) (by omega) next with decided | ⟨rest, none_below', _⟩
      · exact .inl decided
      · exact .inr ⟨rest, none_below', fun _ => half⟩

/-- **Turn after turn**, until the square root is passed. -/
theorem tryPotentialPrimes_ok {fuel potentialPrime : Nat}
    (turn : potentialPrime % kFirstPrimesProduct = kFirstNonSmallPrime % kFirstPrimesProduct)
    (beyond : kFirstPrimesProduct < potentialPrime) (near : potentialPrime < 2 ^ 32 + kFirstPrimesProduct)
    (enough : 2 ^ 32 + kFirstPrimesProduct ≤ potentialPrime + fuel * kFirstPrimesProduct)
    (large : 2 ≤ number) (word : number < 2 ^ 64) (none_below : NoPrimeBelow potentialPrime number) :
    ∃ verdict, tryPotentialPrimes arithmetic number fuel potentialPrime = .ok verdict ∧
      verdict.Decides number := by
  have some_increments : kPotentialPrimeIncrements ≠ [] := by
    intro empty
    have sum := kPotentialPrimeIncrements_sum
    rw [empty] at sum
    cases sum
  induction fuel generalizing potentialPrime with
  | zero => omega
  | succ fuel ih =>
    have steps := kPotentialPrimeIncrements_stepsOver.on_turn turn
    rw [tryPotentialPrimes]
    rcases tryIncrements_cases arithmetic steps (Nat.le_of_eq kPotentialPrimeIncrements_sum) beyond
      large word none_below with ⟨verdict, run, decides⟩ | ⟨run, none_below', half⟩
    · rw [run]
      exact ⟨verdict, rfl, decides⟩
    · rw [kPotentialPrimeIncrements_sum] at run none_below'
      have below := half some_increments
      rw [run, Exec.ok_bind]
      refine ih ?_ (by omega) (by omega) ?_ none_below'
      · rw [Nat.add_mod_right, turn]
      · rw [Nat.succ_mul] at enough
        omega

/-- **The trial divisions decide** about every potential prime. -/
theorem tryDivisors_ok {fuel : Nat} (enough : 2 ^ 64 ≤ fuel)
    (coprime : number.Coprime kFirstPrimesProduct) (large : 2 ≤ number) (word : number < 2 ^ 64) :
    ∃ verdict, tryDivisors arithmetic fuel number = .ok verdict ∧ verdict.Decides number := by
  have product : kFirstPrimesProduct = 30030 := rfl
  have first : kFirstNonSmallPrime = 65537 := rfl
  rw [tryDivisors]
  rcases trySmallPrimes_cases arithmetic coprime large word with ⟨verdict, run, decides⟩ | ⟨run, none_below⟩
  · rw [run]
    exact ⟨verdict, rfl, decides⟩
  · rw [run, Exec.ok_bind]
    have turns : 2 ^ 32 + kFirstPrimesProduct ≤ kFirstNonSmallPrime + fuel * kFirstPrimesProduct := by
      rw [product]
      omega
    exact tryPotentialPrimes_ok arithmetic rfl (by omega) (by omega) turns large word none_below

end TrialDivision

/-! ## The positions of potential primes -/

section Positions

variable (arithmetic : WordArithmetic 64) {number k idx : Nat}

/-- The potential prime at a position. -/
def potentialPrime (k idx : Nat) : Nat := spoke kFirstPrimesProduct kAdditiveIndices k idx

theorem turns_le_potentialPrime (k idx : Nat) : 30030 * k ≤ potentialPrime k idx := by
  rw [potentialPrime, spoke, show kFirstPrimesProduct = 30030 from rfl]
  omega

theorem potentialPrime_coprime (inside : idx < kAdditiveIndices.length) :
    (potentialPrime k idx).Coprime kFirstPrimesProduct :=
  kAdditiveIndices_wheel.spoke_coprime inside

/-- Potential primes are ordered by the turn, then by the index. -/
theorem potentialPrime_lt_iff {l j : Nat} (inside : idx < kAdditiveIndices.length)
    (inside' : j < kAdditiveIndices.length) :
    potentialPrime k idx < potentialPrime l j ↔ k < l ∨ k = l ∧ idx < j :=
  kAdditiveIndices_wheel.spoke_lt_iff inside inside'

theorem potentialPrime_le_iff {l j : Nat} (inside : idx < kAdditiveIndices.length)
    (inside' : j < kAdditiveIndices.length) :
    potentialPrime k idx ≤ potentialPrime l j ↔ k < l ∨ k = l ∧ idx ≤ j :=
  kAdditiveIndices_wheel.spoke_le_iff inside inside'

/-- A prime behind the small ones is a potential prime. -/
theorem exists_potentialPrime {p : Nat} (prime : p.Prime) (beyond : kFirstNonSmallPrime ≤ p) :
    ∃ k idx, idx < kAdditiveIndices.length ∧ potentialPrime k idx = p := by
  have larger : kFirstPrimesProduct < p := Nat.lt_of_lt_of_le (by decide) beyond
  have coprime := coprime_of_prime prime (by decide) larger
  obtain ⟨idx, inside, same⟩ := kAdditiveIndices_wheel.exists_spoke (by decide) coprime
  exact ⟨_, idx, inside, same⟩

theorem numberAt_ok (inside : idx < kAdditiveIndices.length) (word : potentialPrime k idx < 2 ^ 64) :
    numberAt arithmetic k idx = .ok (potentialPrime k idx) := by
  have sum : potentialPrime k idx = k * kFirstPrimesProduct + kAdditiveIndices[idx] := spoke_eq inside
  rw [numberAt, arithmetic.mul_ok (by omega), Exec.ok_bind, readAt_of_lt inside, Exec.ok_bind,
    arithmetic.add_ok (by omega), sum]

/-- **The next position** is the least of those behind. -/
theorem nextPosition_ok (inside : idx < kAdditiveIndices.length)
    (word : potentialPrime k idx < 2 ^ 64) :
    ∃ k' idx', nextPosition arithmetic k idx = .ok (k', idx') ∧ idx' < kAdditiveIndices.length ∧
      ∀ l j, j < kAdditiveIndices.length →
        (potentialPrime k idx < potentialPrime l j ↔ potentialPrime k' idx' ≤ potentialPrime l j) := by
  have length := kAdditiveIndices_length
  have turns := turns_le_potentialPrime k idx
  rw [nextPosition, arithmetic.add_ok (by omega), Exec.ok_bind]
  by_cases last : idx + 1 = kAdditiveIndices.length
  · rw [if_pos last, arithmetic.add_ok (by omega), Exec.ok_bind]
    refine ⟨k + 1, 0, rfl, by omega, fun l j inside' => ?_⟩
    rw [potentialPrime_lt_iff inside inside', potentialPrime_le_iff (by omega) inside']
    omega
  · rw [if_neg last]
    refine ⟨k, idx + 1, rfl, by omega, fun l j inside' => ?_⟩
    rw [potentialPrime_lt_iff inside inside', potentialPrime_le_iff (by omega) inside']
    omega

/-- **The previous position** is the greatest of those before, also from the end of the table. -/
theorem previousPosition_ok (word : k < 2 ^ 64) (within : idx ≤ kAdditiveIndices.length)
    (positive : 0 < k ∨ 0 < idx) :
    ∃ k' idx', previousPosition arithmetic k idx = .ok (k', idx') ∧ idx' < kAdditiveIndices.length ∧
      ∀ l j, j < kAdditiveIndices.length →
        (l < k ∨ l = k ∧ j < idx ↔ potentialPrime l j ≤ potentialPrime k' idx') := by
  have length := kAdditiveIndices_length
  rw [previousPosition]
  by_cases first : idx = 0
  · rw [if_pos first, guarded_ok (by omega), Exec.ok_bind, arithmetic.sub_ok (by omega) word, Exec.ok_bind]
    refine ⟨k - 1, kAdditiveIndices.length - 1, rfl, by omega, fun l j inside' => ?_⟩
    rw [potentialPrime_le_iff inside' (by omega)]
    omega
  · rw [if_neg first, arithmetic.sub_ok (by omega) (by omega), Exec.ok_bind]
    refine ⟨k, idx - 1, rfl, by omega, fun l j inside' => ?_⟩
    rw [potentialPrime_le_iff inside' (by omega)]
    omega

end Positions

/-! ## The search -/

section Search

variable (arithmetic : WordArithmetic 64) {fuel target n : Nat}

/-- **The rule for the search**: moving on comes closer to the only prime that it can find. -/
theorem search_ok {move : Nat → Nat → Exec (Nat × Nat)} (Inv : Nat → Nat → Prop) (rank : Nat → Nat → Nat)
    (enough : 2 ^ 64 ≤ fuel)
    (candidate : ∀ k idx, Inv k idx → idx < kAdditiveIndices.length ∧ 2 ≤ potentialPrime k idx ∧
      potentialPrime k idx < 2 ^ 64 ∧ ((potentialPrime k idx).Prime → potentialPrime k idx = target))
    (step : ∀ k idx, Inv k idx → ¬ (potentialPrime k idx).Prime → ∃ k' idx',
      move k idx = .ok (k', idx') ∧ Inv k' idx' ∧ rank k' idx' < rank k idx)
    {rounds k idx : Nat} (start : Inv k idx) (rounds_left : rank k idx < rounds) :
    search arithmetic move fuel rounds k idx = .ok target := by
  induction rounds generalizing k idx with
  | zero => omega
  | succ rounds ih =>
    obtain ⟨inside, large, word, only⟩ := candidate k idx start
    obtain ⟨verdict, run, decides⟩ :=
      tryDivisors_ok arithmetic enough (potentialPrime_coprime inside) large word
    rw [search, numberAt_ok arithmetic inside word, Exec.ok_bind, run, Exec.ok_bind]
    cases verdict with
    | prime => exact congrArg Except.ok (only (decides.mp rfl))
    | foundFactor =>
      obtain ⟨k', idx', moved, inv, closer⟩ := step k idx start fun prime => nomatch decides.mpr prime
      have left : rank k' idx' < rounds := by omega
      dsimp only
      rw [moved, Exec.ok_bind]
      exact ih inv left

/-- Upwards to the least prime. -/
theorem search_next_ok (enough : 2 ^ 64 ≤ fuel) (large : 2 ≤ n) (beyond : kFirstNonSmallPrime ≤ target)
    (word : target < 2 ^ 64) (least : IsLeast {p | p.Prime ∧ n ≤ p} target) {k idx : Nat}
    (inside : idx < kAdditiveIndices.length) (from_n : n ≤ potentialPrime k idx)
    (before : potentialPrime k idx ≤ target) :
    search arithmetic (nextPosition arithmetic) fuel fuel k idx = .ok target := by
  obtain ⟨l, j, insideJ, same⟩ := exists_potentialPrime least.1.1 beyond
  let Inv (k idx : Nat) : Prop := idx < kAdditiveIndices.length ∧ n ≤ potentialPrime k idx ∧
    potentialPrime k idx ≤ target
  let rank (k idx : Nat) : Nat := target - potentialPrime k idx
  have rounds_left : rank k idx < fuel := by
    dsimp only [rank]
    omega
  refine search_ok arithmetic Inv rank enough ?_ ?_ ⟨inside, from_n, before⟩ rounds_left
  · rintro k idx ⟨inside, from_n, before⟩
    refine ⟨inside, by omega, by omega, fun prime => ?_⟩
    exact Nat.le_antisymm before (least.2 ⟨prime, from_n⟩)
  · rintro k idx ⟨inside, from_n, before⟩ composite
    have strictly : potentialPrime k idx < target := by
      refine Nat.lt_of_le_of_ne before fun found => composite ?_
      rw [found]
      exact least.1.1
    have word' : potentialPrime k idx < 2 ^ 64 := by omega
    obtain ⟨k', idx', moved, inside', behind⟩ := nextPosition_ok arithmetic inside word'
    have on := (behind l j insideJ).mp (by omega)
    have increases := (behind k' idx' inside').mpr (Nat.le_refl _)
    have closer : rank k' idx' < rank k idx := by
      dsimp only [rank]
      omega
    exact ⟨k', idx', moved, ⟨inside', by omega, by omega⟩, closer⟩

/-- Downwards to the greatest prime, which is not passed. -/
theorem search_previous_ok (enough : 2 ^ 64 ≤ fuel) (beyond : kFirstNonSmallPrime ≤ target)
    (word : n < 2 ^ 64) (greatest : IsGreatest {p | p.Prime ∧ p ≤ n} target) {k idx : Nat}
    (inside : idx < kAdditiveIndices.length) (upto_n : potentialPrime k idx ≤ n)
    (behind : target ≤ potentialPrime k idx) :
    search arithmetic (previousPosition arithmetic) fuel fuel k idx = .ok target := by
  obtain ⟨l, j, insideJ, same⟩ := exists_potentialPrime greatest.1.1 beyond
  have first : kFirstNonSmallPrime = 65537 := rfl
  let Inv (k idx : Nat) : Prop := idx < kAdditiveIndices.length ∧ potentialPrime k idx ≤ n ∧
    target ≤ potentialPrime k idx
  let rank (k idx : Nat) : Nat := potentialPrime k idx - target
  have rounds_left : rank k idx < fuel := by
    dsimp only [rank]
    omega
  refine search_ok arithmetic Inv rank enough ?_ ?_ ⟨inside, upto_n, behind⟩ rounds_left
  · rintro k idx ⟨inside, upto_n, behind⟩
    refine ⟨inside, by omega, by omega, fun prime => ?_⟩
    exact Nat.le_antisymm (greatest.2 ⟨prime, upto_n⟩) behind
  · rintro k idx ⟨inside, upto_n, behind⟩ composite
    have strictly : target < potentialPrime k idx := by
      refine Nat.lt_of_le_of_ne behind fun found => composite ?_
      rw [← found]
      exact greatest.1.1
    have turns := turns_le_potentialPrime k idx
    have target_before : l < k ∨ l = k ∧ j < idx :=
      (potentialPrime_lt_iff insideJ inside).mp (by omega)
    obtain ⟨k', idx', moved, inside', before⟩ :=
      previousPosition_ok arithmetic (k := k) (by omega) (Nat.le_of_lt inside) (by omega)
    have on := (before l j insideJ).mp target_before
    have decreases :=
      (potentialPrime_lt_iff inside' inside).mpr ((before k' idx' inside').mpr (Nat.le_refl _))
    have closer : rank k' idx' < rank k idx := by
      dsimp only [rank]
      omega
    exact ⟨k', idx', moved, ⟨inside', by omega, by omega⟩, closer⟩

end Search

/-! ## The least prime behind, the greatest before -/

section Results

variable (arithmetic : WordArithmetic 64) {fuel number : Nat}

/-- The small primes end with the greatest prime below the first one that is not small. -/
theorem le_lastSmallPrime {p : Nat} (prime : p.Prime) (small : p < kFirstNonSmallPrime) :
    p ≤ kSmallPrimes.getD (kSmallPrimes.length - 1) 0 := by
  have length := kSmallPrimes_length
  obtain ⟨i, inside, rfl⟩ := kSmallPrimes_enumerates.exists_index (Nat.zero_le p) small prime
  have last : kSmallPrimes.length - 1 < kSmallPrimes.length := by omega
  rw [List.getD_eq_getElem?_getD, List.getElem?_eq_getElem last, Option.getD_some]
  by_contra order
  have behind := (getElem_lt_iff kSmallPrimes_enumerates.sorted last inside).mp (Nat.lt_of_not_le order)
  omega

/-- **`get_next_prime_number`** finds the least prime from the number on, if it is a word. -/
theorem getNextPrimeNumber_ok (enough : 2 ^ 64 ≤ fuel) {target : Nat} (word : target < 2 ^ 64)
    (least : IsLeast {p | p.Prime ∧ number ≤ p} target) :
    getNextPrimeNumber arithmetic fuel number = .ok target := by
  have length := kSmallPrimes_length
  have product : kFirstPrimesProduct = 30030 := rfl
  have first : kFirstNonSmallPrime = 65537 := rfl
  have last : kSmallPrimes.length - 1 < kSmallPrimes.length := by omega
  have last_entry := kSmallPrimes_enumerates.getElem last
  have from_number : number ≤ target := least.1.2
  rw [getNextPrimeNumber, readAt_of_lt last, Exec.ok_bind]
  by_cases small : number ≤ kSmallPrimes[kSmallPrimes.length - 1]
  · rw [if_pos small]
    obtain ⟨position, run, _, before⟩ := lowerBound_ok kSmallPrimes_enumerates.sorted number
    have inside : position < kSmallPrimes.length := by
      have before_last := before _ last
      omega
    have entry := kSmallPrimes_enumerates.getElem inside
    have above := before position inside
    have target_le := least.2 (⟨entry.2.2, by omega⟩ : kSmallPrimes[position] ∈ {p | p.Prime ∧ number ≤ p})
    obtain ⟨i, insideI, same⟩ :=
      kSmallPrimes_enumerates.exists_index (Nat.zero_le target) (by omega) least.1.1
    have order := getElem_lt_iff kSmallPrimes_enumerates.sorted insideI inside
    have before_target := before i insideI
    rw [run, Exec.ok_bind, readAt_of_lt inside]
    exact congrArg Except.ok (by omega)
  · rw [if_neg small]
    have beyond : kFirstNonSmallPrime ≤ target := by
      by_contra order
      have le := le_lastSmallPrime least.1.1 (Nat.lt_of_not_le order)
      rw [List.getD_eq_getElem?_getD, List.getElem?_eq_getElem last, Option.getD_some] at le
      omega
    obtain ⟨idx, run, inside, from_n, first_spoke⟩ :=
      kAdditiveIndices_wheel.lowerBound_ok (by decide) number
    obtain ⟨l, j, insideJ, same⟩ := exists_potentialPrime least.1.1 beyond
    have before : potentialPrime (number / kFirstPrimesProduct) idx ≤ target := by
      rw [← same]
      exact first_spoke l j insideJ (by rw [← potentialPrime, same]; exact from_number)
    have turns := Nat.div_mul_le_self number kFirstPrimesProduct
    rw [divide_ok (by decide), Exec.ok_bind, arithmetic.mul_ok (by omega), Exec.ok_bind,
      arithmetic.sub_ok turns (by omega), Exec.ok_bind, run, Exec.ok_bind]
    have large : 2 ≤ number := by
      have two_le := last_entry.2.2.two_le
      omega
    exact search_next_ok arithmetic enough large beyond word least inside from_n before

/-- **`get_previous_prime_number`** finds the greatest prime up to the number. -/
theorem getPreviousPrimeNumber_ok (enough : 2 ^ 64 ≤ fuel) (word : number < 2 ^ 64) {target : Nat}
    (greatest : IsGreatest {p | p.Prime ∧ p ≤ number} target) :
    getPreviousPrimeNumber arithmetic fuel number = .ok target := by
  have length := kSmallPrimes_length
  have product : kFirstPrimesProduct = 30030 := rfl
  have first : kFirstNonSmallPrime = 65537 := rfl
  have upto_number : target ≤ number := greatest.1.2
  have two_le : 2 ≤ number := Nat.le_trans greatest.1.1.two_le upto_number
  have two : readAt kSmallPrimes 0 = .ok 2 := rfl
  rw [getPreviousPrimeNumber, two, Exec.ok_bind, if_neg (by omega)]
  by_cases small : number < kFirstNonSmallPrime
  · rw [if_pos small]
    obtain ⟨position, run, le_length, upto⟩ := upperBound_ok kSmallPrimes_enumerates.sorted number
    obtain ⟨i, insideI, same⟩ :=
      kSmallPrimes_enumerates.exists_index (Nat.zero_le target) (by omega) greatest.1.1
    have upto_target := upto i insideI
    have positive : 0 < position := by omega
    have inside : position - 1 < kSmallPrimes.length := by omega
    have entry := kSmallPrimes_enumerates.getElem inside
    have upto_entry := upto (position - 1) inside
    have le_target := greatest.2
      (⟨entry.2.2, by omega⟩ : kSmallPrimes[position - 1] ∈ {p | p.Prime ∧ p ≤ number})
    have order := getElem_lt_iff kSmallPrimes_enumerates.sorted inside insideI
    rw [run, Exec.ok_bind, guarded_ok positive, Exec.ok_bind, readAt_of_lt inside]
    exact congrArg Except.ok (by omega)
  · rw [if_neg small]
    have beyond : kFirstNonSmallPrime ≤ target := by
      have prime : kFirstNonSmallPrime.Prime := by
        rw [show kFirstNonSmallPrime = 65537 from rfl]
        norm_num
      exact greatest.2 ⟨prime, Nat.le_of_not_lt small⟩
    have turns := Nat.div_mul_le_self number kFirstPrimesProduct
    have turn_le := Nat.div_le_self number kFirstPrimesProduct
    have turn_positive : 0 < number / kFirstPrimesProduct := Nat.div_pos (by omega) (by decide)
    obtain ⟨position, run, le_length, upto⟩ :=
      kAdditiveIndices_wheel.upperBound_ok (by decide) number
    obtain ⟨k, idx, moved, inside, before⟩ :=
      previousPosition_ok arithmetic (k := number / kFirstPrimesProduct) (by omega) le_length
        (.inl turn_positive)
    have upto_n : potentialPrime k idx ≤ number :=
      (upto k idx inside).mp ((before k idx inside).mpr (Nat.le_refl _))
    have behind : target ≤ potentialPrime k idx := by
      obtain ⟨l, j, insideJ, rfl⟩ := exists_potentialPrime greatest.1.1 beyond
      exact (before l j insideJ).mp ((upto l j insideJ).mpr upto_number)
    rw [divide_ok (by decide), Exec.ok_bind, arithmetic.mul_ok (by omega), Exec.ok_bind,
      arithmetic.sub_ok turns (by omega), Exec.ok_bind, run, Exec.ok_bind, moved, Exec.ok_bind]
    exact search_previous_ok arithmetic enough beyond word greatest inside upto_n behind

theorem getPreviousPrimeNumber_zero (small : number < 2) :
    getPreviousPrimeNumber arithmetic fuel number = .ok 0 := by
  have two : readAt kSmallPrimes 0 = .ok 2 := rfl
  rw [getPreviousPrimeNumber, two, Exec.ok_bind, if_pos small]
  rfl

theorem exists_isLeast_prime (bound : Nat) (some_prime : ∃ p, p.Prime ∧ number ≤ p ∧ p < bound) :
    ∃ target, target < bound ∧ IsLeast {p | p.Prime ∧ number ≤ p} target := by
  obtain ⟨p, prime, le, lt⟩ := some_prime
  have found : ∃ p, p.Prime ∧ number ≤ p := ⟨p, prime, le⟩
  refine ⟨Nat.find found, ?_, Nat.find_spec found, fun q member => Nat.find_min' found member⟩
  exact Nat.lt_of_le_of_lt (Nat.find_min' found ⟨prime, le⟩) lt

theorem exists_isGreatest_prime (large : 2 ≤ number) :
    ∃ target, IsGreatest {p | p.Prime ∧ p ≤ number} target :=
  ⟨Nat.findGreatest Nat.Prime number,
    ⟨Nat.findGreatest_spec large Nat.prime_two, Nat.findGreatest_le number⟩,
    fun _ member => Nat.le_findGreatest member.2 member.1⟩

/-- **The search for primes**: with enough fuel both functions return the prime, in the wrapping arithmetic
of the machine and in the checked one, where an index out of its table and a result that wraps are
faults. -/
theorem primeSearch_correct (arithmetic : WordArithmetic 64) (number : Nat) (word : number < 2 ^ 64) :
    ((∃ p, p.Prime ∧ number ≤ p ∧ p < 2 ^ 64) →
      ∃ target, IsLeast {p | p.Prime ∧ number ≤ p} target ∧
        ∀ fuel, 2 ^ 64 ≤ fuel → getNextPrimeNumber arithmetic fuel number = .ok target) ∧
    (number < 2 → ∀ fuel, 2 ^ 64 ≤ fuel → getPreviousPrimeNumber arithmetic fuel number = .ok 0) ∧
    (2 ≤ number → ∃ target, IsGreatest {p | p.Prime ∧ p ≤ number} target ∧
      ∀ fuel, 2 ^ 64 ≤ fuel → getPreviousPrimeNumber arithmetic fuel number = .ok target) := by
  refine ⟨fun some_prime => ?_, fun small fuel _ => ?_, fun large => ?_⟩
  · obtain ⟨target, lt, least⟩ := exists_isLeast_prime _ some_prime
    exact ⟨target, least, fun fuel enough => getNextPrimeNumber_ok arithmetic enough lt least⟩
  · exact getPreviousPrimeNumber_zero arithmetic small
  · obtain ⟨target, greatest⟩ := exists_isGreatest_prime large
    exact ⟨target, greatest, fun fuel enough =>
      getPreviousPrimeNumber_ok arithmetic enough word greatest⟩

/-- Around a million, where the wheel is used. -/
theorem primeSearch_correct_million :
    1000000 < 2 ^ 64 ∧
      getNextPrimeNumber (.checked 64) (2 ^ 64) 1000000 = .ok 1000003 ∧
      getPreviousPrimeNumber (.checked 64) (2 ^ 64) 1000000 = .ok 999983 := by
  have prime : Nat.Prime 1000003 := by norm_num
  have prime' : Nat.Prime 999983 := by norm_num
  obtain ⟨next, _, previous⟩ := primeSearch_correct (.checked 64) 1000000 (by norm_num)
  obtain ⟨target, least, run⟩ := next ⟨1000003, prime, by norm_num, by norm_num⟩
  obtain ⟨target', greatest, run'⟩ := previous (by norm_num)
  have target_eq : target = 1000003 := by
    have le := least.2 (⟨prime, by norm_num⟩ : 1000003 ∈ {p | p.Prime ∧ 1000000 ≤ p})
    obtain ⟨is_prime, ge⟩ := least.1
    clear least run
    interval_cases target <;> first | rfl | norm_num at is_prime
  have target_eq' : target' = 999983 := by
    have ge := greatest.2 (⟨prime', by norm_num⟩ : 999983 ∈ {p | p.Prime ∧ p ≤ 1000000})
    obtain ⟨is_prime, le⟩ := greatest.1
    clear greatest run'
    interval_cases target' <;> first | rfl | norm_num at is_prime
  refine ⟨by norm_num, ?_, ?_⟩
  · rw [← target_eq]
    exact run _ (Nat.le_refl _)
  · rw [← target_eq']
    exact run' _ (Nat.le_refl _)

end Results

end Quickstep.Utility

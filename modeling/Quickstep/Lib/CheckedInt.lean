import Mathlib.Algebra.Group.Int.Defs
import Mathlib.Algebra.Group.Nat.Defs
import Quickstep.Lib.WhileLoop

/-!
# Checked signed arithmetic

A result of signed arithmetic that does not fit in its type is undefined behaviour. A computation
on integers checks every result, so that it has a value only if no step overflows.
-/

namespace Quickstep.Lib

/-- The numbers of a signed type of `width` bits. -/
def InSigned (width : Nat) (value : Int) : Prop :=
  -2 ^ (width - 1) ≤ value ∧ value < 2 ^ (width - 1)

instance (width : Nat) (value : Int) : Decidable (InSigned width value) :=
  inferInstanceAs (Decidable (_ ∧ _))

/-- The result of signed arithmetic in `width` bits. -/
def checked (width : Nat) (value : Int) : Exec Int :=
  if InSigned width value then .ok value else .error .undefinedBehaviour

/-- A result of `int`. -/
def int32 (value : Int) : Exec Int := checked 32 value

/-- A result of a 64-bit signed type. -/
def int64 (value : Int) : Exec Int := checked 64 value

/-- Conversion to `int`. -/
def toInt32 (value : Int) : Int := value.bmod (2 ^ 32)

/-- An element of a table by a signed index. -/
def tableAt {α : Type} (table : List α) (index : Int) : Exec α :=
  if 0 ≤ index then readAt table index.toNat else .error .undefinedBehaviour

section

variable {value result : Int}

theorem inSigned_32 : InSigned 32 value ↔ -2147483648 ≤ value ∧ value < 2147483648 := Iff.rfl

theorem inSigned_64 :
    InSigned 64 value ↔ -9223372036854775808 ≤ value ∧ value < 9223372036854775808 := Iff.rfl

theorem int32_ok (lower : -2147483648 ≤ value) (upper : value < 2147483648) :
    int32 value = .ok value := if_pos ⟨lower, upper⟩

theorem int64_ok (lower : -9223372036854775808 ≤ value) (upper : value < 9223372036854775808) :
    int64 value = .ok value := if_pos ⟨lower, upper⟩

theorem toInt32_of_fits (lower : -2147483648 ≤ value) (upper : value < 2147483648) :
    toInt32 value = value := by
  rw [toInt32, Int.bmod_def]
  omega

theorem checked_eq_ok {width : Nat} :
    checked width value = .ok result ↔ result = value ∧ InSigned width value := by
  unfold checked
  split
  · rename_i fits
    refine ⟨fun same => ?_, fun same => by rw [same.1]⟩
    cases same
    exact ⟨rfl, fits⟩
  · rename_i overflow
    exact ⟨nofun, fun same => absurd same.2 overflow⟩

end

/-- Truncating division of a number that is not positive. -/
theorem tdiv_of_nonpos {dividend : Int} (nonpos : dividend ≤ 0) (divisor : Int) :
    dividend.tdiv divisor = -(-dividend / divisor) := by
  rw [← Int.tdiv_eq_ediv_of_nonneg (by omega), Int.neg_tdiv, Int.neg_neg]

/-- The low bits of a number. -/
theorem ofInt_and_three (value : Int) : BitVec.ofInt 64 value &&& 3#64 = 0#64 ↔ value % 4 = 0 := by
  rw [← BitVec.toNat_inj, BitVec.toNat_and, BitVec.toNat_ofInt]
  have mask := Nat.and_two_pow_sub_one_eq_mod (value % ((2 ^ 64 : Nat) : Int)).toNat 2
  rw [show (3#64).toNat = 2 ^ 2 - 1 from rfl, mask]
  show _ = 0 ↔ _
  omega

end Quickstep.Lib

import Mathlib.Algebra.Order.Ring.Nat

set_option autoImplicit false

namespace Foundation

-- The first power of two that is no float.
@[irreducible] def floatLimit : Nat := 2 ^ 1024

-- The float nearest to a natural number, ties to even, where there is one.
def floatOfNat (value : Nat) : Option Nat :=
  let unit := 2 ^ (value.log2 - 52)
  let down := value / unit
  let rest := value % unit
  let rounded := (if unit < 2 * rest ∨ unit = 2 * rest ∧ down % 2 = 1 then down + 1 else down) * unit
  if rounded < floatLimit then some rounded else none

theorem float_of_nat_pos (value rounded : Nat) (positive : 0 < value) (exact_ : floatOfNat value = some rounded) :
    0 < rounded := by
  have unit : 0 < 2 ^ (value.log2 - 52) := Nat.two_pow_pos _
  have small : 2 ^ (value.log2 - 52) ≤ value := by
    calc 2 ^ (value.log2 - 52) ≤ 2 ^ value.log2 := Nat.pow_le_pow_right (by omega) (by omega)
      _ ≤ value := Nat.log2_self_le (by omega)
  have down : 0 < value / 2 ^ (value.log2 - 52) := Nat.div_pos small unit
  simp only [floatOfNat, Option.ite_none_right_eq_some, Option.some.injEq] at exact_
  rw [← exact_.2]
  apply Nat.mul_pos _ unit
  split
  · omega
  · exact down

end Foundation

import Mathlib.Algebra.Order.Floor.Div
import Mathlib.Tactic.Ring

/-!
# Powers of two and of ten

Which of `10 ^ p` and `2 ^ k` is greater is settled by the digits of log₁₀ 2, for numbers that are too large
to be written down. A `Bracket` holds two multiples of a power of ten on either side of a number; it is
squared with the digits past the leading ones cut off outward. Eighty squarings from `2` give log₁₀ 2 in units
of `2⁻⁸⁰` (`logTwo`), and with it `ten_pow_le_two_pow` and `two_pow_lt_ten_pow`.
-/

namespace SchemaBridge

/-! ## Brackets -/

/-- Multiples of a power of ten. -/
structure Bracket where
  low : Nat
  high : Nat
  exponent : Nat

namespace Bracket

/-- The number is between the two multiples. -/
structure Holds (b : Bracket) (x : Nat) : Prop where
  low_le : b.low * 10 ^ b.exponent ≤ x
  le_high : x ≤ b.high * 10 ^ b.exponent

/-- The digits that are cut off, so that 30 to 60 of them are left. -/
def excess (n : Nat) : Nat :=
  if n < 10 ^ 60 then 0 else if n < 10 ^ 90 then 30 else 60

/-- A bracket of the square, its last digits cut off. -/
def square (b : Bracket) : Bracket :=
  let cut := excess (b.high * b.high)
  ⟨b.low * b.low / 10 ^ cut, (b.high * b.high) ⌈/⌉ 10 ^ cut, 2 * b.exponent + cut⟩

theorem sq_mul_ten_pow (m e : Nat) : m * m * 10 ^ (2 * e) = (m * 10 ^ e) ^ 2 := by
  rw [two_mul, pow_add]
  ring

theorem Holds.square {b : Bracket} {x : Nat} (h : b.Holds x) : b.square.Holds (x ^ 2) := by
  generalize hcut : excess (b.high * b.high) = cut
  have hsquare : b.square =
      ⟨b.low * b.low / 10 ^ cut, (b.high * b.high) ⌈/⌉ 10 ^ cut, 2 * b.exponent + cut⟩ := by
    rw [← hcut]
    rfl
  have hpos : 0 < 10 ^ cut := Nat.pow_pos (by decide)
  rw [hsquare]
  constructor
  · calc b.low * b.low / 10 ^ cut * 10 ^ (2 * b.exponent + cut)
        = b.low * b.low / 10 ^ cut * 10 ^ cut * 10 ^ (2 * b.exponent) := by rw [pow_add]; ring
      _ ≤ b.low * b.low * 10 ^ (2 * b.exponent) :=
          Nat.mul_le_mul_right _ (Nat.div_mul_le_self ..)
      _ = (b.low * 10 ^ b.exponent) ^ 2 := sq_mul_ten_pow ..
      _ ≤ x ^ 2 := Nat.pow_le_pow_left h.low_le 2
  · calc x ^ 2 ≤ (b.high * 10 ^ b.exponent) ^ 2 := Nat.pow_le_pow_left h.le_high 2
      _ = b.high * b.high * 10 ^ (2 * b.exponent) := (sq_mul_ten_pow ..).symm
      _ ≤ 10 ^ cut * ((b.high * b.high) ⌈/⌉ 10 ^ cut) * 10 ^ (2 * b.exponent) :=
          Nat.mul_le_mul_right _ (le_smul_ceilDiv hpos)
      _ = (b.high * b.high) ⌈/⌉ 10 ^ cut * 10 ^ (2 * b.exponent + cut) := by rw [pow_add]; ring

/-- A bracket of `2 ^ 2 ^ j`. -/
def tower : Nat → Bracket
  | 0 => ⟨2, 2, 0⟩
  | j + 1 => (tower j).square

theorem holds_tower (j : Nat) : (tower j).Holds (2 ^ 2 ^ j) := by
  induction j with
  | zero => exact ⟨by decide, by decide⟩
  | succ j ih =>
    rw [pow_succ 2 j, pow_mul]
    exact ih.square

section
variable {j d p k : Nat}

/-- The exponent of the bracket is log₁₀ 2 in units of `2⁻ʲ`, cut off. -/
theorem ten_pow_le_of_tower (hlow : 0 < (tower j).low) (h : 2 ^ j * p ≤ (tower j).exponent * k) :
    10 ^ p ≤ 2 ^ k := by
  have hexponent : 10 ^ (tower j).exponent ≤ 2 ^ 2 ^ j :=
    (Nat.le_mul_of_pos_left _ hlow).trans (holds_tower j).low_le
  refine (Nat.pow_le_pow_iff_left (Nat.two_pow_pos j).ne').1 ?_
  calc (10 ^ p) ^ 2 ^ j = 10 ^ (2 ^ j * p) := (pow_mul' ..).symm
    _ ≤ 10 ^ ((tower j).exponent * k) := Nat.pow_le_pow_right (by decide) h
    _ = (10 ^ (tower j).exponent) ^ k := pow_mul ..
    _ ≤ (2 ^ 2 ^ j) ^ k := Nat.pow_le_pow_left hexponent k
    _ = (2 ^ k) ^ 2 ^ j := Nat.pow_right_comm ..

/-- It falls short by the digits that stand before it, at most. -/
theorem two_pow_lt_of_tower (hhigh : (tower j).high ≤ 10 ^ d)
    (h : ((tower j).exponent + d) * k < 2 ^ j * p) : 2 ^ k < 10 ^ p := by
  have hexponent : 2 ^ 2 ^ j ≤ 10 ^ ((tower j).exponent + d) := by
    rw [Nat.add_comm, pow_add]
    exact (holds_tower j).le_high.trans (Nat.mul_le_mul_right _ hhigh)
  refine (Nat.pow_lt_pow_iff_left (Nat.two_pow_pos j).ne').1 ?_
  calc (2 ^ k) ^ 2 ^ j = (2 ^ 2 ^ j) ^ k := Nat.pow_right_comm ..
    _ ≤ (10 ^ ((tower j).exponent + d)) ^ k := Nat.pow_le_pow_left hexponent k
    _ = 10 ^ (((tower j).exponent + d) * k) := (pow_mul ..).symm
    _ < 10 ^ (2 ^ j * p) := Nat.pow_lt_pow_right (by decide) h
    _ = (10 ^ p) ^ 2 ^ j := pow_mul' ..

end

end Bracket

/-! ## The logarithm of two -/

/-- log₁₀ 2 in units of `2⁻⁸⁰`, less at most 60 of them. -/
def logTwo : Nat := 363922934236666733021070

theorem tower_eighty : 0 < (Bracket.tower 80).low ∧ (Bracket.tower 80).high ≤ 10 ^ 60 ∧
    (Bracket.tower 80).exponent = logTwo := by
  decide +kernel

/-- All numbers of `p` digits fit `k` bits if `p` is below `k` log₁₀ 2. -/
theorem ten_pow_le_two_pow {p k : Nat} (h : 2 ^ 80 * p ≤ logTwo * k) : 10 ^ p ≤ 2 ^ k := by
  obtain ⟨hlow, -, hexponent⟩ := tower_eighty
  exact Bracket.ten_pow_le_of_tower hlow (by rwa [hexponent])

/-- Some number of `p` digits does not fit `k` bits if `p` is above `k` log₁₀ 2. -/
theorem two_pow_lt_ten_pow {p k : Nat} (h : (logTwo + 60) * k < 2 ^ 80 * p) : 2 ^ k < 10 ^ p := by
  obtain ⟨-, hhigh, hexponent⟩ := tower_eighty
  exact Bracket.two_pow_lt_of_tower hhigh (by rwa [hexponent])

end SchemaBridge

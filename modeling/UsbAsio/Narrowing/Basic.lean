import Mathlib.Tactic

/-!
# Narrowing conversions

What is left of an integer in a type of `w` bits, with a sign and without. A conversion keeps an
integer exactly when the type can hold it, and keeps a list of integers exactly when their types can
hold all of them.
-/

namespace Narrowing

/-- The conversion to `w` bits in two's complement. -/
def signed (w : ℕ) (n : ℤ) : ℤ := n.bmod (2 ^ w)

/-- The conversion to `w` bits without a sign. -/
def unsigned (w : ℕ) (n : ℤ) : ℤ := n % 2 ^ w

variable {w : ℕ} {n : ℤ}

lemma signed_mem (w : ℕ) (n : ℤ) : -2 ^ w ≤ signed (w + 1) n ∧ signed (w + 1) n < 2 ^ w := by
  have hpow : (2 ^ (w + 1) : ℕ) = 2 * 2 ^ w := Nat.pow_succ'
  have hpos : 0 < 2 * 2 ^ w := by positivity
  have hle := Int.le_bmod (x := n) hpos
  have hlt := Int.bmod_lt (x := n) hpos
  have hcast : ((2 ^ w : ℕ) : ℤ) = 2 ^ w := by norm_cast
  rw [signed, hpow]
  constructor <;> omega

/-- A signed type keeps the integers that it can hold. -/
theorem signed_eq_self_iff : signed (w + 1) n = n ↔ -2 ^ w ≤ n ∧ n < 2 ^ w := by
  constructor
  · intro h
    rw [← h]
    exact signed_mem w n
  · rintro ⟨hle, hlt⟩
    apply Int.bmod_eq_of_le_mul_two <;> push_cast [pow_succ] <;> omega

/-- An unsigned type keeps the integers that it can hold. -/
theorem unsigned_eq_self_iff : unsigned w n = n ↔ 0 ≤ n ∧ n < 2 ^ w := by
  have hpos : (0 : ℤ) < 2 ^ w := by positivity
  constructor
  · intro h
    rw [← h]
    exact ⟨Int.emod_nonneg n hpos.ne', Int.emod_lt_of_pos n hpos⟩
  · rintro ⟨hle, hlt⟩
    exact Int.emod_eq_of_lt hle hlt

/-! ### Integer types -/

/-- An integer type; its width does not count the sign. -/
inductive IntType where
  | signed (w : ℕ)
  | unsigned (w : ℕ)
  deriving DecidableEq

namespace IntType

def convert : IntType → ℤ → ℤ
  | .signed w, n   => Narrowing.signed (w + 1) n
  | .unsigned w, n => Narrowing.unsigned w n

def Holds : IntType → ℤ → Prop
  | .signed w, n   => -2 ^ w ≤ n ∧ n < 2 ^ w
  | .unsigned w, n => 0 ≤ n ∧ n < 2 ^ w

instance (type : IntType) (n : ℤ) : Decidable (type.Holds n) :=
  match type with
  | .signed _ | .unsigned _ => inferInstanceAs (Decidable (_ ∧ _))

theorem convert_eq_self_iff {type : IntType} : type.convert n = n ↔ type.Holds n :=
  match type with
  | .signed _   => signed_eq_self_iff
  | .unsigned _ => unsigned_eq_self_iff

end IntType

/-- An integer and the type that it is converted to. -/
structure Number where
  type : IntType
  value : ℤ
  deriving DecidableEq

def Number.converted (x : Number) : ℤ := x.type.convert x.value

def Number.Fits (x : Number) : Prop := x.type.Holds x.value

instance (x : Number) : Decidable x.Fits := inferInstanceAs (Decidable (x.type.Holds x.value))

/-- A list of integers is kept when all of them fit. -/
theorem map_converted_eq_iff {numbers : List Number} :
    numbers.map Number.converted = numbers.map Number.value ↔ ∀ x ∈ numbers, x.Fits := by
  rw [List.map_inj_left]
  exact forall₂_congr fun x _ => IntType.convert_eq_self_iff

end Narrowing

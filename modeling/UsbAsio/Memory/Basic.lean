import Mathlib.Tactic

/-!
# Bytes in memory

Allocated blocks of memory that are read and written at absolute addresses, where an access
that is not inside the block has no result, and the little-endian bytes of a number.
-/

namespace Memory

/-! ### Blocks -/

/-- An allocation: the address of its first byte, and its bytes. -/
structure Block where
  base : ℕ
  bytes : List UInt8
  deriving DecidableEq

namespace Block

variable {b c : Block} {addr len : ℕ} {data : List UInt8}

/-- The `len` bytes from `addr` on lie inside the block. -/
def Contains (b : Block) (addr len : ℕ) : Prop :=
  b.base ≤ addr ∧ addr + len ≤ b.base + b.bytes.length

instance : Decidable (b.Contains addr len) := inferInstanceAs (Decidable (_ ∧ _))

def read (b : Block) (addr len : ℕ) : Option (List UInt8) :=
  if b.Contains addr len then some ((b.bytes.drop (addr - b.base)).take len) else none

def write (b : Block) (addr : ℕ) (data : List UInt8) : Option Block :=
  if b.Contains addr data.length then
    some { b with bytes := b.bytes.take (addr - b.base) ++ data ++
                    b.bytes.drop (addr - b.base + data.length) }
  else none

/-- An access fails exactly when it leaves the block. -/
lemma read_eq_none_iff : b.read addr len = none ↔ ¬ b.Contains addr len := by
  simp [read]

/-- A write at the start of the block replaces its first bytes. -/
lemma write_base (h : data.length ≤ b.bytes.length) :
    b.write b.base data = some { b with bytes := data ++ b.bytes.drop data.length } := by
  have hin : b.Contains b.base data.length := ⟨le_rfl, Nat.add_le_add_left h _⟩
  simp [write, hin]

/-- The whole block. -/
lemma read_base : b.read b.base b.bytes.length = some b.bytes := by
  have hin : b.Contains b.base b.bytes.length := ⟨le_rfl, le_rfl⟩
  simp [read, hin]

end Block

/-! ### Little-endian numbers -/

/-- The `w` low bytes of `n`, lowest first. -/
def toLittleEndian : ℕ → ℕ → List UInt8
  | 0,     _ => []
  | w + 1, n => UInt8.ofNat n :: toLittleEndian w (n / 256)

def ofLittleEndian : List UInt8 → ℕ
  | []        => 0
  | b :: rest => b.toNat + 256 * ofLittleEndian rest

@[simp] lemma length_toLittleEndian (w n : ℕ) : (toLittleEndian w n).length = w := by
  induction w generalizing n with
  | zero => rfl
  | succ w ih => rw [toLittleEndian, List.length_cons, ih]

/-- What is read back is what the bytes can hold of a number. -/
lemma ofLittleEndian_toLittleEndian_eq_mod (w n : ℕ) :
    ofLittleEndian (toLittleEndian w n) = n % 256 ^ w := by
  induction w generalizing n with
  | zero => rw [pow_zero, Nat.mod_one, toLittleEndian, ofLittleEndian]
  | succ w ih =>
    have hlow : (UInt8.ofNat n).toNat = n % 256 := UInt8.toNat_ofNat' ..
    rw [toLittleEndian, ofLittleEndian, ih, hlow, pow_succ', Nat.mod_mul]

end Memory

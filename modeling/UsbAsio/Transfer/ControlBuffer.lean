import UsbAsio.Transfer.Control

/-!
# The size of a control transfer buffer

The constructor of `usb_control_transfer_buffer` rounds the requested size up to 16-bit words and
adds `LIBUSB_CONTROL_SETUP_SIZE` words for the header, which is eight bytes long: the payload has
always eight bytes more than the least even size that was asked for. The subtraction in front of
the rounding wraps at 0, and there is no buffer of that size at all.
-/

namespace UsbAsio.Transfer

/-- `max_size()` of a `std::vector<std::uint16_t>`: its bytes are counted by `std::ptrdiff_t`. -/
def maxWords : ℕ := (2 ^ 63 - 1) / 2

/-- `size - 1u`, of a `std::size_t`. -/
def sizePred (size : ℕ) : ℕ := (size + (2 ^ 64 - 1)) % 2 ^ 64

namespace ControlTransferBuffer

/-- `usb_control_transfer_buffer{size}` with memory at `base`; without a result, the vector has
thrown `std::length_error`. -/
def tryConstruct (base size : ℕ) : Option ControlTransferBuffer :=
  if dataWords size ≤ maxWords then some (construct base size) else none

/-! ### The property -/

/-- Nothing wraps, and the payload is the storage behind the header. -/
structure Split (size : ℕ) (b : ControlTransferBuffer) : Prop where
  noWrap : (sizePred size : ℤ) = size - 1
  payload : b.payload.data = b.storage.base + controlSetupSize
  storage : b.storage.bytes.length = controlSetupSize + b.size

/-- The payload has the least even size that is not below the requested one. -/
structure SizeLaw (size : ℕ) (b : ControlTransferBuffer) : Prop extends Split size b where
  least : IsLeast {n | Even n ∧ size ≤ n} b.size

/-- The payload has eight bytes more. -/
structure Oversized (size : ℕ) (b : ControlTransferBuffer) : Prop extends Split size b where
  least : IsLeast {n | Even n ∧ size + controlSetupSize ≤ n} b.size

/-- A buffer for `size` bytes can be constructed, and obeys the law. -/
def Lawful (base size : ℕ) : Prop := ∃ b, tryConstruct base size = some b ∧ SizeLaw size b

/-! ### Every size -/

lemma isLeast_even (n : ℕ) : IsLeast {m | Even m ∧ n ≤ m} (2 * ((n + 1) / 2)) := by
  refine ⟨⟨even_two_mul _, by omega⟩, ?_⟩
  rintro m ⟨⟨k, rfl⟩, hle⟩
  omega

lemma dataWords_eq (size : ℕ) : dataWords size = sizePred size / 2 + 1 + controlSetupSize := rfl

/-- Nothing but 0 wraps. -/
lemma sizePred_of_pos {size : ℕ} (h₀ : 0 < size) (h : size < 2 ^ 64) :
    sizePred size = size - 1 := by
  have hsum : size + (2 ^ 64 - 1) = size - 1 + 2 ^ 64 := by omega
  rw [sizePred, hsum, Nat.add_mod_right, Nat.mod_eq_of_lt (by omega)]

/-- After the wrap there are too many words for any vector. -/
lemma tryConstruct_zero (base : ℕ) : tryConstruct base 0 = none := if_neg (by decide)

/-- The words of the header make 16 bytes. -/
lemma size_construct (base : ℕ) {size : ℕ} (h₀ : 0 < size) (h : size < 2 ^ 64) :
    (construct base size).size = 2 * ((size + controlSetupSize + 1) / 2) := by
  have hbytes := (construct base size).size_add_setupSize
  have hlen : (construct base size).storage.bytes.length = 2 * dataWords size :=
    (construct base size).length_storage
  rw [hlen, dataWords_eq, sizePred_of_pos h₀ h] at hbytes
  simp only [controlSetupSize] at hbytes ⊢
  omega

lemma oversized_construct (base : ℕ) {size : ℕ} (h₀ : 0 < size) (h : size < 2 ^ 64) :
    Oversized size (construct base size) where
  noWrap := by
    rw [sizePred_of_pos h₀ h, Nat.cast_pred h₀]
  payload := rfl
  storage := by
    rw [← size_add_setupSize, Nat.add_comm]
  least := by
    rw [size_construct base h₀ h]
    exact isLeast_even _

/-- A payload cannot have two sizes. -/
lemma Oversized.not_sizeLaw {size : ℕ} {b : ControlTransferBuffer} (h : Oversized size b) :
    ¬ SizeLaw size b := by
  intro hlaw
  have hpos : 0 < controlSetupSize := by decide
  obtain ⟨heven, hle⟩ : Even b.size ∧ size + controlSetupSize ≤ b.size := h.least.1
  -- an even size that is eight bytes smaller would do
  have hsmaller : b.size ≤ b.size - controlSetupSize := by
    apply hlaw.least.2
    refine ⟨?_, Nat.le_sub_of_add_le hle⟩
    exact (Nat.even_sub (by omega)).mpr (iff_of_true heven (by decide))
  omega

/-- No size gets a buffer that obeys the law. For a size of 0, and for one that is too large for a
vector, the constructor throws; for any other, the payload has eight bytes too many. -/
theorem not_lawful (base size : ℕ) (h : size < 2 ^ 64) :
    ¬ Lawful base size ∧
      if size = 0 ∨ maxWords < dataWords size then tryConstruct base size = none
      else ∃ b, tryConstruct base size = some b ∧ Oversized size b := by
  rcases Nat.eq_zero_or_pos size with rfl | hpos
  · have hnone := tryConstruct_zero base
    refine ⟨?_, by rwa [if_pos (.inl rfl)]⟩
    rintro ⟨b, heq, -⟩
    rw [hnone] at heq
    cases heq
  · have hover := oversized_construct base hpos h
    constructor
    · rintro ⟨b, heq, hlaw⟩
      obtain ⟨-, rfl⟩ := Option.ite_some_none_eq_some.mp heq
      exact hover.not_sizeLaw hlaw
    · split_ifs with hlarge
      · rcases hlarge with rfl | hlarge
        · exact absurd hpos (lt_irrefl 0)
        · exact if_neg hlarge.not_ge
      · push Not at hlarge
        exact ⟨_, if_pos hlarge.2, hover⟩

/-- The 18 bytes of a device descriptor. -/
theorem not_lawful_descriptor : ¬ Lawful 4096 18 := (not_lawful 4096 18 (by decide)).1

/-- There is room for 18 bytes and a header, and the payload has 26. -/
theorem not_forall_lawful :
    ¬ ∀ base size : ℕ, size + controlSetupSize ≤ 2 * maxWords → Lawful base size := by
  intro h
  obtain ⟨b, heq, hlaw⟩ := h 4096 18 (by decide)
  obtain ⟨-, rfl⟩ := Option.ite_some_none_eq_some.mp heq
  have hle : (construct 4096 18).size ≤ 18 := hlaw.least.2 ⟨by decide, le_rfl⟩
  revert hle
  decide

end ControlTransferBuffer

end UsbAsio.Transfer

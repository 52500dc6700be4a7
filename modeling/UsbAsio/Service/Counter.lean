import Mathlib.Tactic

/-!
# The device counter

`open_devices_`, a `std::atomic<std::size_t>`.
-/

namespace UsbAsio

/-- `open_devices_.fetch_add(1)`. -/
def incrementDevices (n : ℕ) : ℕ := (n + 1) % 2 ^ 64

/-- `--open_devices_`. -/
def decrementDevices (n : ℕ) : ℕ := (n + (2 ^ 64 - 1)) % 2 ^ 64

lemma incrementDevices_of_lt {n : ℕ} (h : n + 1 < 2 ^ 64) : incrementDevices n = n + 1 :=
  Nat.mod_eq_of_lt h

/-- A positive counter does not wrap. -/
lemma decrementDevices_succ {n : ℕ} (h : n + 1 < 2 ^ 64) : decrementDevices (n + 1) = n := by
  have hsum : n + 1 + (2 ^ 64 - 1) = n + 2 ^ 64 := by omega
  rw [decrementDevices, hsum, Nat.add_mod_right]
  exact Nat.mod_eq_of_lt (Nat.lt_of_succ_lt h)

end UsbAsio

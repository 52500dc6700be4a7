import UsbAsio.Error
import UsbAsio.Loop.Basic
import UsbAsio.Transfer.Basic

/-!
# Port numbers

`usb_device_info::port_numbers` asks for the port path of a device with a vector of seven bytes,
and with one of twice the size as long as libusb says that the path is longer.
-/

namespace UsbAsio.PortNumbers

open Loop

/-- What `libusb_get_port_numbers` returns, and what it stores from the start of its buffer on. -/
structure Answer where
  retCode : ℤ
  written : List UInt8

/-- A call of `libusb_get_port_numbers`: the bytes that `ports` has, and those it is said to
have. -/
structure Call where
  allocated : ℕ
  len : ℤ
  deriving DecidableEq

structure State where
  ports : List UInt8
  calls : List Call

/-- `std::vector::resize`. -/
def resize (v : List UInt8) (n : ℕ) : List UInt8 := v.take n ++ List.replicate (n - v.length) 0

/-- libusb keeps inside the buffer. -/
def store (written ports : List UInt8) : List UInt8 :=
  written.take ports.length ++ ports.drop written.length

/-- `max_depth`. -/
def maxDepth : ℕ := 7

def start : State := ⟨List.replicate maxDepth 0, []⟩

/-- After one more call that has stored `written`. -/
def State.call (s : State) (written : List UInt8) : State :=
  ⟨store written s.ports, s.calls ++ [⟨s.ports.length, toInt32 s.ports.length⟩]⟩

/-- `ports.resize(2 * ports.size())`. -/
def State.grow (s : State) : State := { s with ports := resize s.ports (2 * s.ports.length) }

/-- The body of `while (true)`. The answer of libusb depends on the number of the call, counted
from zero, and on the length it is given. -/
def turn (libusb : ℕ → ℤ → Answer) (s : State) :
    Turn State (Except ErrorCode (List UInt8) × List Call) :=
  let answer := libusb s.calls.length (toInt32 s.ports.length)
  let s := s.call answer.written
  let (ec, numPorts) := libusbTry answer.retCode
  if ec.isError then
    if ec = UsbErrc.overflow.errorCode then .again s.grow
    else .exit (.error ec, s.calls)  -- `throw system_error{ec}`
  else .exit (.ok (resize s.ports numPorts), s.calls)

/-- `port_numbers()` with at most `fuel` calls: the vector or the exception, and the calls. -/
def portNumbers (libusb : ℕ → ℤ → Answer) (fuel : ℕ) :
    Option (Except ErrorCode (List UInt8) × List Call) :=
  run (turn libusb) fuel start

/-! ### The assumption and the property -/

/-- libusb, for a device whose port path is `path`. -/
def Documented (libusb : ℕ → ℤ → Answer) (path : List UInt8) : Prop :=
  ∀ i len, 0 < len →
    if len < path.length then (libusb i len).retCode = UsbErrc.overflow.value
    else libusb i len = ⟨path.length, path⟩

/-- A length to which seven is doubled fits an `int`, and the path fits that. -/
def Fits (path : List UInt8) : Prop :=
  ∃ k, path.length ≤ maxDepth * 2 ^ k ∧ maxDepth * 2 ^ k < 2 ^ 31

/-- The calls have been told what is allocated. -/
def Honest (calls : List Call) : Prop := ∀ c ∈ calls, c.len = c.allocated

/-- `port_numbers()` ends, with `result`. -/
def EndsWith (libusb : ℕ → ℤ → Answer) (result : Except ErrorCode (List UInt8))
    (calls : List Call) : Prop :=
  ∃ fuel, portNumbers libusb fuel = some (result, calls)

/-! ### Vectors -/

@[simp] lemma length_resize (v : List UInt8) (n : ℕ) : (resize v n).length = n := by
  simp only [resize, List.length_append, List.length_take, List.length_replicate]
  omega

@[simp] lemma length_store (written ports : List UInt8) :
    (store written ports).length = ports.length := by
  simp only [store, List.length_append, List.length_take, List.length_drop]
  omega

/-- What has been stored is what is left when the vector is cut back to it. -/
lemma resize_store {written ports : List UInt8} (h : written.length ≤ ports.length) :
    resize (store written ports) written.length = written := by
  have htake : written.take ports.length = written := List.take_of_length_le h
  rw [resize, length_store, Nat.sub_eq_zero_of_le h, List.replicate_zero, List.append_nil, store,
    htake, List.take_left]

/-! ### One turn -/

section Turn

variable {libusb : ℕ → ℤ → Answer} {s : State}

/-- The answer to the next call. -/
def State.answer (libusb : ℕ → ℤ → Answer) (s : State) : Answer :=
  libusb s.calls.length (toInt32 s.ports.length)

lemma turn_of_overflow (h : (s.answer libusb).retCode = UsbErrc.overflow.value) :
    turn libusb s = .again (s.call (s.answer libusb).written).grow := by
  have hretry : (libusbTry (s.answer libusb).retCode).1.isError = true ∧
      (libusbTry (s.answer libusb).retCode).1 = UsbErrc.overflow.errorCode := by
    rw [h, libusbTry_value]
    exact ⟨rfl, rfl⟩
  simp only [State.answer] at hretry ⊢
  simp only [turn, hretry.1, if_true]
  exact if_pos hretry.2

lemma turn_of_error (hneg : (s.answer libusb).retCode < 0)
    (hne : (s.answer libusb).retCode ≠ UsbErrc.overflow.value) : turn libusb s =
      .exit (.error (makeErrorCode (s.answer libusb).retCode),
        (s.call (s.answer libusb).written).calls) := by
  have htry : libusbTry (s.answer libusb).retCode =
      (makeErrorCode (s.answer libusb).retCode, 0) := if_pos hneg
  have herr := isError_makeErrorCode hneg
  have hother : makeErrorCode (s.answer libusb).retCode ≠ UsbErrc.overflow.errorCode := by
    intro heq
    exact hne (congrArg ErrorCode.value heq)
  simp only [State.answer] at htry herr hother ⊢
  simp only [turn, htry, herr, hother, if_true, if_false]

lemma turn_of_ok (hret : 0 ≤ (s.answer libusb).retCode) : turn libusb s =
    .exit (.ok (resize (store (s.answer libusb).written s.ports) (s.answer libusb).retCode.toNat),
      (s.call (s.answer libusb).written).calls) := by
  have htry : libusbTry (s.answer libusb).retCode =
      (.clear, (s.answer libusb).retCode.toNat) := if_neg (not_lt.mpr hret)
  simp only [State.answer] at htry ⊢
  simp only [turn, htry, ErrorCode.isError_clear, Bool.false_eq_true, if_false]
  rfl

end Turn

/-! ### The whole path -/

/-- All calls so far have been told what is allocated; so will the next one. -/
structure Inv (s : State) : Prop where
  pos : 0 < s.ports.length
  honest : Honest s.calls
  fits : (s.ports.length : ℤ) < 2 ^ 31
  doubled : ∃ i, s.ports.length = maxDepth * 2 ^ i

lemma inv_start : Inv start := ⟨by decide, nofun, by decide, 0, rfl⟩

variable {libusb : ℕ → ℤ → Answer} {path : List UInt8} {s : State}

lemma Inv.len_eq (h : Inv s) : toInt32 s.ports.length = s.ports.length :=
  toInt32_eq_self_iff.mpr ⟨by omega, h.fits⟩

lemma Inv.honest_call (h : Inv s) (written : List UInt8) : Honest (s.call written).calls := by
  intro c hc
  rcases List.mem_append.mp hc with hc | hc
  · exact h.honest c hc
  · obtain rfl := List.mem_singleton.mp hc
    dsimp only
    exact h.len_eq

lemma Inv.grow (h : Inv s) (hfits : Fits path) (hlt : s.ports.length < path.length)
    (written : List UInt8) : Inv (s.call written).grow := by
  have hlen : (s.call written).grow.ports.length = 2 * s.ports.length := by
    simp [State.grow, State.call]
  obtain ⟨k, hle, hk⟩ := hfits
  obtain ⟨i, hi⟩ := h.doubled
  have hdouble : 2 * s.ports.length = maxDepth * 2 ^ (i + 1) := by
    rw [hi, pow_succ]
    ring
  have hik : i < k := by
    by_contra hge
    have hpow : 2 ^ k ≤ 2 ^ i := Nat.pow_le_pow_right two_pos (not_lt.mp hge)
    have hmul := Nat.mul_le_mul_left maxDepth hpow
    omega
  have hnext : maxDepth * 2 ^ (i + 1) ≤ maxDepth * 2 ^ k :=
    Nat.mul_le_mul_left maxDepth (Nat.pow_le_pow_right two_pos hik)
  have hpos := h.pos
  constructor
  · omega
  · exact h.honest_call written
  · omega
  · exact ⟨i + 1, hlen.trans hdouble⟩

/-- For a path that fits, the loop ends and returns all of it. -/
lemma exists_endsWith_path (hlib : Documented libusb path) (hfits : Fits path) :
    ∃ calls, EndsWith libusb (.ok path) calls ∧ Honest calls := by
  have hanswer : ∀ s, Inv s →
      if s.ports.length < path.length then (s.answer libusb).retCode = UsbErrc.overflow.value
      else s.answer libusb = ⟨path.length, path⟩ := by
    intro s h
    have hpos := h.pos
    have hdoc := hlib s.calls.length s.ports.length (by omega)
    rw [State.answer, h.len_eq]
    exact_mod_cast hdoc
  -- an overflow doubles a vector that is too short, so less of the path is missing
  have hagain : ∀ s t, Inv s → turn libusb s = .again t →
      Inv t ∧ path.length - t.ports.length < path.length - s.ports.length := by
    intro s t h ht
    have hdoc := hanswer s h
    split_ifs at hdoc with hlt
    · rw [turn_of_overflow hdoc] at ht
      cases ht
      have hpos := h.pos
      have hlen : (s.call (s.answer libusb).written).grow.ports.length = 2 * s.ports.length := by
        simp [State.grow, State.call]
      refine ⟨h.grow hfits hlt _, ?_⟩
      omega
    · rw [turn_of_ok (by rw [hdoc]; exact Int.natCast_nonneg _)] at ht
      cases ht
  have hexit : ∀ s b, Inv s → turn libusb s = .exit b → b.1 = .ok path ∧ Honest b.2 := by
    intro s b h hb
    have hdoc := hanswer s h
    split_ifs at hdoc with hlt
    · rw [turn_of_overflow hdoc] at hb
      cases hb
    · rw [turn_of_ok (by rw [hdoc]; exact Int.natCast_nonneg _), hdoc] at hb
      cases hb
      refine ⟨?_, h.honest_call path⟩
      rw [Int.toNat_natCast, resize_store (not_lt.mp hlt)]
  obtain ⟨⟨result, calls⟩, hends, hresult, hcalls⟩ :=
    exists_ends (fun s => path.length - s.ports.length) hagain hexit inv_start
  obtain rfl : result = .ok path := hresult
  exact ⟨calls, hends, hcalls⟩

/-! ### Other errors -/

/-- The call after `i` retries. -/
def callAfter (i : ℕ) : Call := ⟨maxDepth * 2 ^ i, toInt32 (maxDepth * 2 ^ i : ℕ)⟩

/-- `e` is what libusb answers after `retries` overflows. -/
def AnswersAfter (libusb : ℕ → ℤ → Answer) (retries : ℕ) (e : ℤ) : Prop :=
  (∀ i < retries, (libusb i (callAfter i).len).retCode = UsbErrc.overflow.value) ∧
    (libusb retries (callAfter retries).len).retCode = e

/-- The state after a number of retries. -/
def stateAfter (libusb : ℕ → ℤ → Answer) : ℕ → State
  | 0     => start
  | i + 1 =>
    let s := stateAfter libusb i
    (s.call (s.answer libusb).written).grow

lemma length_stateAfter (libusb : ℕ → ℤ → Answer) (i : ℕ) :
    (stateAfter libusb i).ports.length = maxDepth * 2 ^ i := by
  induction i with
  | zero => rfl
  | succ i ih =>
    simp only [stateAfter, State.grow, State.call, length_resize, length_store, ih, pow_succ]
    ring

lemma calls_stateAfter (libusb : ℕ → ℤ → Answer) (i : ℕ) :
    (stateAfter libusb i).calls = (List.range i).map callAfter := by
  induction i with
  | zero => rfl
  | succ i ih =>
    rw [List.range_succ, List.map_append, ← ih, List.map_singleton, callAfter,
      ← length_stateAfter libusb i]
    simp only [stateAfter, State.grow, State.call]

lemma answer_stateAfter (libusb : ℕ → ℤ → Answer) (i : ℕ) :
    (stateAfter libusb i).answer libusb = libusb i (callAfter i).len := by
  rw [State.answer, calls_stateAfter, length_stateAfter, List.length_map, List.length_range,
    callAfter]

/-- Any other error ends the loop at once, however many calls have gone before. -/
lemma endsWith_error {retries : ℕ} {e : ℤ} (hlib : AnswersAfter libusb retries e) (hneg : e < 0)
    (hne : e ≠ UsbErrc.overflow.value) :
    EndsWith libusb (.error (makeErrorCode e)) ((List.range (retries + 1)).map callAfter) := by
  obtain ⟨hretries, rfl⟩ := hlib
  rw [← answer_stateAfter libusb] at hneg hne ⊢
  have hexit := turn_of_error hneg hne
  have hcalls : ((stateAfter libusb retries).call
      ((stateAfter libusb retries).answer libusb).written).calls =
        (List.range (retries + 1)).map callAfter := calls_stateAfter libusb (retries + 1)
  rw [hcalls] at hexit
  refine ends_of_turns (s := stateAfter libusb) (fun i hi => ?_) hexit
  apply turn_of_overflow
  rw [answer_stateAfter]
  exact hretries i hi

/-! ### Every device -/

/-- However many calls it is given, `port_numbers()` has one end at most. -/
theorem EndsWith.unique {libusb : ℕ → ℤ → Answer} {r r' : Except ErrorCode (List UInt8)}
    {calls calls' : List Call} (h : EndsWith libusb r calls) (h' : EndsWith libusb r' calls') :
    r = r' ∧ calls = calls' :=
  Prod.mk.inj (Ends.unique h h')

/-- `port_numbers` ends: for a device whose path fits it returns the whole path, and on any error
but an overflow it throws that error, after no further call. -/
theorem endsWith_path_or_error (libusb : ℕ → ℤ → Answer) :
    (∀ path, Documented libusb path → Fits path →
      ∃ calls, EndsWith libusb (.ok path) calls ∧ Honest calls) ∧
    ∀ retries e, AnswersAfter libusb retries e → e < 0 → e ≠ UsbErrc.overflow.value →
      EndsWith libusb (.error (makeErrorCode e)) ((List.range (retries + 1)).map callAfter) :=
  ⟨fun _ => exists_endsWith_path, fun _ _ => endsWith_error⟩

/-- A path that is longer than any hub allows: one retry. A device that is gone when the second
call is made. -/
theorem endsWith_nine_ports :
    let path : List UInt8 := [1, 2, 3, 4, 5, 6, 7, 8, 9]
    let libusb : ℕ → ℤ → Answer := fun _ len => if len < 9 then ⟨-8, [9]⟩ else ⟨9, path⟩
    let unplugged : ℕ → ℤ → Answer := fun i _ => if i = 0 then ⟨-8, []⟩ else ⟨-4, []⟩
    (∃ calls, EndsWith libusb (.ok path) calls ∧ Honest calls) ∧
      EndsWith unplugged (.error (makeErrorCode (-4))) [⟨7, 7⟩, ⟨14, 14⟩] := by
  intro path libusb unplugged
  have hlib : Documented libusb path := by
    intro i len _
    by_cases hlt : len < 9
    · simp [libusb, path, hlt, UsbErrc.value]
    · simp [libusb, path, hlt]
  have hgone : AnswersAfter unplugged 1 (-4) := ⟨by decide, rfl⟩
  exact ⟨(endsWith_path_or_error libusb).1 path hlib ⟨1, by decide, by decide⟩,
    (endsWith_path_or_error unplugged).2 1 (-4) hgone (by decide) (by decide)⟩

end UsbAsio.PortNumbers

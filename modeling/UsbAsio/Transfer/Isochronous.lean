import UsbAsio.Transfer.Constructors
import UsbAsio.Transfer.Deferred

/-!
# Isochronous packets and the buffer

libusb lays the packets of an isochronous transfer one behind the other from `handle->buffer` on,
with the lengths that the constructor has set, and pays no attention to `handle->length`. The
packets lie inside the buffer of an operation only if the program has chosen the two to fit.
-/

namespace UsbAsio.Transfer.Deferred

open Transition

variable {E R : Type*}

/-! ### The property and the condition -/

/-- The sum of `iso_packet_desc[i].length` over all `i < num_iso_packets`. -/
def isoTotal (t : LibusbTransfer) : ℕ := (t.isoPacketLengths.take t.numIsoPackets.toNat).sum

/-- The sum of the packet sizes that a constructor was given, in 32 bits each, as many of them as
their number in 32 bits says. -/
def packetTotal (c : Constructor E) : ℕ :=
  ((c.packetSizes.map fun size => toUnsigned size).take (toInt32 c.packetSizes.length).toNat).sum

lemma isoTotal_construct {c : Constructor E} {memory : Bool} {t : UsbTransfer E}
    (h : c.construct memory = some t) : isoTotal t.handle = packetTotal c := by
  obtain ⟨hlengths, hnum⟩ := Constructor.packets_construct h
  rw [isoTotal, packetTotal, hlengths, hnum]

/-- The packets lie inside `handle->length` and inside the buffer of the operation. -/
def InsideBuffer (t : LibusbTransfer) (w : World R) (op : ℕ) : Prop :=
  ∀ c ∈ w.calls[op]?, (isoTotal t : ℤ) ≤ w.transfer.args.length ∧ isoTotal t ≤ c.buffer.size

instance (t : LibusbTransfer) (w : World R) (op : ℕ) : Decidable (InsideBuffer t w op) :=
  inferInstanceAs (Decidable (∀ c ∈ w.calls[op]?, _))

/-- The packets fit into the length that the latest call has set, and into the buffer of the
operation. -/
def Fits (c₀ : Constructor E) (w : World R) (op : ℕ) : Prop :=
  ∀ c ∈ w.calls[op]?, ∀ latest ∈ w.calls.getLast?,
    (packetTotal c₀ : ℤ) ≤ latest.args.length ∧ packetTotal c₀ ≤ c.buffer.size

instance (c₀ : Constructor E) (w : World R) (op : ℕ) : Decidable (Fits c₀ w op) :=
  inferInstanceAs (Decidable (∀ c ∈ w.calls[op]?, _))

/-- The packets fit into the buffer of a call, also when its size is narrowed to an `int`. -/
def Roomy (c₀ : Constructor E) (c : Call) : Prop :=
  (packetTotal c₀ : ℤ) ≤ c.args.length ∧ packetTotal c₀ ≤ c.buffer.size

variable [Inhabited R]

/-- An operation is started with a buffer that is large enough, when the earlier ones have
submitted the transfer. -/
def RoomyEager (c₀ : Constructor E) (w : World R) : Action R → Prop
  | .call c  => Roomy c₀ c ∧ Eager w (.call c)
  | .other _ => True

/-! ### Buffers that are large enough -/

/-- All buffers so far have been large enough. -/
structure RoomyInv (c₀ : Constructor E) (w : World R) : Prop extends EagerInv w where
  roomy : ∀ c ∈ w.calls, Roomy c₀ c

lemma roomyInv_step {c₀ : Constructor E} {w w' : World R} {a : Action R} (h : RoomyInv c₀ w)
    (ha : RoomyEager c₀ w a) (hstep : step w a = some w') : RoomyInv c₀ w' := by
  have heager : Eager w a := by
    cases a with
    | call c => exact ha.2
    | other b => trivial
  refine ⟨eagerInv_step h.toEagerInv heager hstep, ?_⟩
  rcases step_cases hstep with ⟨c, t, rfl, ht, rfl⟩ | ⟨b, t, rfl, hb, ht, rfl⟩
  · intro c' hc'
    rcases List.mem_append.mp hc' with hc' | hc'
    · exact h.roomy c' hc'
    · rw [List.mem_singleton.mp hc']
      exact ha.1
  · exact h.roomy

omit [Inhabited R] in
lemma RoomyInv.fits {c₀ : Constructor E} {w : World R} (h : RoomyInv c₀ w) (op : ℕ) :
    Fits c₀ w op :=
  fun c hc latest hlatest => ⟨(h.roomy latest (List.mem_of_getLast? hlatest)).1,
    (h.roomy c (List.mem_of_getElem? hc)).2⟩

/-! ### Every run -/

/-- The packets of an isochronous transfer stay inside the buffer exactly when, at every
submission, their total size is at most that of the operation's buffer and at most the length
that the latest call has set; and this is so when every operation is started with a buffer that is
large enough, and initiated before the next one is called. -/
theorem along_insideBuffer_iff_fits {c₀ : Constructor E} {memory : Bool} {t : UsbTransfer E}
    (h : c₀.construct memory = some t) (as : List (Action R)) :
    (Along step (AtSubmit (InsideBuffer t.handle)) (init R) as ↔
      Along step (AtSubmit (Fits c₀)) (init R) as) ∧
    (Along step (RoomyEager c₀) (init R) as →
      Along step (AtSubmit (InsideBuffer t.handle)) (init R) as) := by
  have htotal := isoTotal_construct h
  have hmp : ∀ (w : World R) op, Inv w → InsideBuffer t.handle w op → Fits c₀ w op := by
    intro w op hw hinside c hc latest hlatest
    rw [← htotal, ← hw.latest latest hlatest]
    exact hinside c hc
  have hmpr : ∀ (w : World R) op, Inv w → Fits c₀ w op → InsideBuffer t.handle w op := by
    intro w op hw hfits c hc
    obtain ⟨latest, hlatest, hargs⟩ := hw.exists_latest hc
    rw [htotal, hargs]
    exact hfits c hc latest hlatest
  refine ⟨⟨along_atSubmit hmp, along_atSubmit hmpr⟩, fun hroomy => along_atSubmit hmpr ?_⟩
  have hinit : RoomyInv c₀ (init R) := ⟨⟨inv_init, by simp [Waiting, init, Transfer.init]⟩, nofun⟩
  refine along_of_invariant (fun _ _ _ => roomyInv_step) ?_ hinit hroomy
  intro w a w' hw _ _
  unfold AtSubmit
  split
  · exact hw.fits _
  · trivial

/-- Two packets of 512 bytes, and a buffer of 1024. -/
theorem insideBuffer_two_packets :
    let as : List (Action ℕ) :=
      [.call (.asyncReadSome ⟨4096, 1024⟩), .other (.initiate 0), .other (.submit 0 0)]
    ∃ t, (Constructor.isochronousUniform () ⟨none, ()⟩ 0x81 2 512 0).construct true = some t ∧
      (exec step (init ℕ) as).isSome ∧
        Along step (AtSubmit (InsideBuffer t.handle)) (init ℕ) as := by
  intro as
  let c₀ : Constructor Unit := .isochronousUniform () ⟨none, ()⟩ 0x81 2 512 0
  have hconstruct : c₀.construct true = some _ := rfl
  exact ⟨_, hconstruct, by decide, (along_insideBuffer_iff_fits hconstruct _).1.mpr (by decide)⟩

/-- Two packets of 512 bytes, and a buffer of 512. -/
theorem not_insideBuffer_small :
    ¬ ∀ (c₀ : Constructor Unit) (memory : Bool) (t : UsbTransfer Unit) (as : List (Action ℕ)),
      c₀.construct memory = some t →
        Along step (AtSubmit (InsideBuffer t.handle)) (init ℕ) as := by
  intro h
  let c₀ : Constructor Unit := .isochronousUniform () ⟨none, ()⟩ 0x81 2 512 0
  have hnot : ∀ t, c₀.construct true = some t →
      ¬ Along step (AtSubmit (InsideBuffer t.handle)) (init ℕ)
        [.call (.asyncReadSome ⟨4096, 512⟩), .other (.initiate 0), .other (.submit 0 0)] := by
    rintro t ⟨⟩
    decide
  exact hnot _ rfl (h c₀ true _ _ rfl)

end UsbAsio.Transfer.Deferred

import UsbAsio.Error
import UsbAsio.Transition.Basic
import UsbAsio.UniquePtr.Basic

/-!
# Lifetimes of transfers and contexts

A `basic_usb_transfer` owns two things on the heap: the `libusb_transfer`, and the completion
context that the `user_data` of this transfer points to. Its moves carry both along; its destructor
and its move assignment, both implicit, free both, whatever libusb is doing with the transfer.
The callback goes the other way: from the transfer, over the raw pointer, to the context.

The state below has all objects of a program, the heap, and what libusb holds. A step is one
operation on one object, or the start or the end of a callback.
-/

namespace UsbAsio.Transfer.Lifetime

open Transition UniquePtr

/-- The objects are named by `ι`, the transfers by `τ` and the contexts by `κ`. -/
structure World (ι τ κ : Type*) where
  live : Finset ι
  /-- `handle_` of each object. -/
  handles : Pool ι τ
  /-- `completion_context_` of each object. -/
  contexts : Pool ι κ
  userData : τ → Option κ
  /-- What the calls so far have captured for their initiations. -/
  calls : Finset (τ × κ)
  inFlight : Finset τ
  /-- The transfers whose `completion_callback` is running. -/
  callbacks : Finset τ

variable {ι τ κ : Type*}

/-- No object exists; what the memory of future objects holds does not matter. -/
def init (handle : ι → Option τ) (context : ι → Option κ) (userData : τ → Option κ) :
    World ι τ κ :=
  ⟨∅, ⟨handle, ∅⟩, ⟨context, ∅⟩, userData, ∅, ∅, ∅⟩

/-! ### Operations -/

namespace World

variable [DecidableEq ι] [DecidableEq τ] [DecidableEq κ] (w : World ι τ κ)

/-- libusb has the transfer, or is just reporting its completion. -/
def Held (t : τ) : Prop := t ∈ w.inFlight ∨ t ∈ w.callbacks

instance (t : τ) : Decidable (w.Held t) := inferInstanceAs (Decidable (_ ∨ _))

/-- The constructors: `libusb_alloc_transfer`, `make_unique`, and a `libusb_fill_*_transfer`. When
an allocation fails, what has been made is freed again. -/
def construct (d : ι) : Option τ → Option κ → World ι τ κ
  | some t, some c =>
    { w with
      live := insert d w.live
      handles := w.handles.make d t
      contexts := w.contexts.make d c
      userData := Function.update w.userData t (some c) }
  | _, _           => w

/-- `basic_usb_transfer(basic_usb_transfer&&)`, member by member. -/
def moveConstruct (d src : ι) : World ι τ κ :=
  { w with
    live := insert d w.live
    handles := w.handles.moveConstruct d src
    contexts := w.contexts.moveConstruct d src }

/-- `operator=(basic_usb_transfer&&)`, member by member. -/
def moveAssign (d src : ι) : World ι τ κ :=
  { w with
    handles := w.handles.moveAssign d src
    contexts := w.contexts.moveAssign d src }

/-- `~basic_usb_transfer()`. -/
def destroy (d : ι) : World ι τ κ :=
  { w with
    live := w.live.erase d
    handles := w.handles.destroy d
    contexts := w.contexts.destroy d }

/-- libusb refuses a transfer that is in flight; otherwise `retCode` is its answer. -/
def libusbSubmitTransfer (t : τ) (retCode : ℤ) : ℤ :=
  if t ∈ w.inFlight then UsbErrc.busy.value else retCode

/-- The initiation in `async_submit_impl`, which works on the pointers that the call captured. The
handler that it stores in the captured context changes no owner and no lifetime, so that this
context is not an argument. -/
def initiate (t : τ) (retCode : ℤ) : World ι τ κ :=
  let ec := (libusbTry (w.libusbSubmitTransfer t retCode)).1
  if ec.isError then w else { w with inFlight := insert t w.inFlight }

/-- libusb is done with the transfer and calls `completion_callback`. -/
def beginCallback (t : τ) : World ι τ κ :=
  { w with inFlight := w.inFlight.erase t, callbacks := insert t w.callbacks }

end World

/-! ### Steps -/

inductive Action (ι τ κ : Type*) where
  | construct (d : ι) (alloc : Option τ) (context : Option κ)
  | moveConstruct (d src : ι)
  | moveAssign (d src : ι)
  | destroy (d : ι)
  | call (d : ι)
  | initiate (t : τ) (c : κ) (retCode : ℤ)
  | cancel (d : ι)
  | beginCallback (t : τ)
  | endCallback (t : τ)

variable [DecidableEq ι] [DecidableEq τ] [DecidableEq κ]

/-- What an allocation returns is new, and libusb does not hold it. -/
def World.Fresh (w : World ι τ κ) (alloc : Option τ) (context : Option κ) : Prop :=
  (∀ t ∈ alloc, t ∉ w.handles.allocated ∧ ¬ w.Held t) ∧ ∀ c ∈ context, c ∉ w.contexts.allocated

instance (w : World ι τ κ) (alloc : Option τ) (context : Option κ) :
    Decidable (w.Fresh alloc context) :=
  inferInstanceAs (Decidable (_ ∧ _))

/-- Objects are constructed where there is none, and used only while they live. A call and
`cancel` dereference `handle()`, which must not be null. -/
def step (w : World ι τ κ) : Action ι τ κ → Option (World ι τ κ)
  | .construct d alloc context =>
    if d ∉ w.live ∧ w.Fresh alloc context then some (w.construct d alloc context) else none
  | .moveConstruct d src =>
    if d ∉ w.live ∧ src ∈ w.live then some (w.moveConstruct d src) else none
  | .moveAssign d src => if d ∈ w.live ∧ src ∈ w.live then some (w.moveAssign d src) else none
  | .destroy d => if d ∈ w.live then some (w.destroy d) else none
  | .call d =>
    if d ∈ w.live then
      match w.handles.get d, w.contexts.get d with
      | some t, some c => some { w with calls := insert (t, c) w.calls }
      | _, _           => none
    else none
  | .initiate t c retCode => if (t, c) ∈ w.calls then some (w.initiate t retCode) else none
  | .cancel d => if d ∈ w.live ∧ (w.handles.get d).isSome then some w else none
  | .beginCallback t =>
    if t ∈ w.inFlight ∧ t ∉ w.callbacks then some (w.beginCallback t) else none
  | .endCallback t =>
    if t ∈ w.callbacks then some { w with callbacks := w.callbacks.erase t } else none

/-! ### The property and the condition -/

/-- What `completion_callback` needs: the transfer has not been freed, and its `user_data` is
the living context of the one object that owns the transfer. -/
structure Found (w : World ι τ κ) (t : τ) : Prop where
  allocated : t ∈ w.handles.allocated
  owner : ∃! d, d ∈ w.live ∧ w.handles.get d = some t
  context : ∃ c ∈ w.contexts.allocated, w.userData t = some c ∧
    ∀ d ∈ w.live, w.handles.get d = some t → w.contexts.get d = some c

def AllFound (w : World ι τ κ) : Prop := ∀ t ∈ w.callbacks, Found w t

/-- Every callback that runs finds its context, and so does every callback that libusb may
start now. -/
structure Served (w : World ι τ κ) : Prop where
  running : AllFound w
  next : ∀ t w', step w (.beginCallback t) = some w' → AllFound w'

/-- libusb does not hold the transfer of `d`. -/
def World.Idle (w : World ι τ κ) (d : ι) : Prop := ∀ t ∈ w.handles.get d, ¬ w.Held t

/-- No object is destroyed or overwritten while libusb holds its transfer, and what libusb accepts
is a transfer that is allocated, be it by now another one at the same address. -/
def Careful (w : World ι τ κ) : Action ι τ κ → Prop
  | .destroy d            => w.Idle d
  | .moveAssign d src     => d = src ∨ w.Idle d
  | .initiate t _ retCode => 0 ≤ w.libusbSubmitTransfer t retCode → t ∈ w.handles.allocated
  | .construct _ _ _ | .moveConstruct _ _ | .call _ | .cancel _ | .beginCallback _
  | .endCallback _        => True

/-! ### The invariant -/

structure Inv (w : World ι τ κ) : Prop where
  handles : w.handles.Owned w.live
  contexts : w.contexts.Owned w.live
  /-- An object has the context that the `user_data` of its transfer points to. -/
  paired : ∀ d ∈ w.live, w.contexts.get d = (w.handles.get d).bind w.userData
  filled : ∀ t ∈ w.handles.allocated, (w.userData t).isSome
  held : ∀ t, w.Held t → t ∈ w.handles.allocated

omit [DecidableEq ι] [DecidableEq τ] [DecidableEq κ] in
lemma inv_init (handle : ι → Option τ) (context : ι → Option κ) (userData : τ → Option κ) :
    Inv (init handle context userData) := by
  refine ⟨Ownership.owns_empty _, Ownership.owns_empty _, ?_, ?_, ?_⟩
  · intro d hd
    exact absurd hd (Finset.notMem_empty d)
  · intro t ht
    exact absurd ht (Finset.notMem_empty t)
  · intro t ht
    rcases ht with ht | ht <;> exact absurd ht (Finset.notMem_empty t)

variable {w w' : World ι τ κ} {d src : ι} {t : τ} {c : κ}

omit [DecidableEq ι] [DecidableEq τ] [DecidableEq κ] in
/-- The way from a transfer to its context is the way from its owner to the context. -/
lemma Inv.found (h : Inv w) (ht : w.Held t) : Found w t := by
  have halloc := h.held t ht
  obtain ⟨c, hc⟩ := Option.isSome_iff_exists.mp (h.filled t halloc)
  have hcontext : ∀ d ∈ w.live, w.handles.get d = some t → w.contexts.get d = some c := by
    intro d hd hdt
    rw [h.paired d hd, hdt, Option.bind_some, hc]
  obtain ⟨d, ⟨hd, hdt⟩, hunique⟩ := h.handles.existsUnique halloc
  have hlive := h.contexts.mem d hd c (hcontext d hd hdt)
  exact ⟨halloc, ⟨d, ⟨hd, hdt⟩, hunique⟩, c, hlive, hc, hcontext⟩

/-! ### What an operation preserves -/

lemma Inv.construct (h : Inv w) (hd : d ∉ w.live) (alloc : Option τ) (context : Option κ)
    (hfresh : w.Fresh alloc context) : Inv (w.construct d alloc context) := by
  cases alloc with
  | none => exact h
  | some t =>
    cases context with
    | none => exact h
    | some c =>
      obtain ⟨ht, hheld⟩ := hfresh.1 t rfl
      refine ⟨h.handles.make hd ht, h.contexts.make hd (hfresh.2 c rfl), ?_, ?_, ?_⟩
      · intro k hk
        by_cases hkd : k = d
        · simp [World.construct, Pool.make, hkd]
        · -- the transfers of the other objects are not the new one
          have hklive := Finset.mem_of_mem_insert_of_ne hk hkd
          have hne : ∀ t' ∈ w.handles.get k, t' ≠ t := by
            rintro t' ht' rfl
            exact ht (h.handles.mem k hklive _ ht')
          simp only [World.construct, Pool.get_make_of_ne hkd, h.paired k hklive]
          cases hget : w.handles.get k with
          | none => rfl
          | some t' => simp [Function.update_of_ne (hne t' hget)]
      · intro t' ht'
        by_cases heq : t' = t
        · simp [World.construct, heq]
        · have hold := Finset.mem_of_mem_insert_of_ne ht' heq
          simp [World.construct, Function.update_of_ne heq, h.filled t' hold]
      · intro t' ht'
        exact Finset.mem_insert_of_mem (h.held t' ht')

lemma Inv.moveConstruct (h : Inv w) (hd : d ∉ w.live) (hsrc : src ∈ w.live) :
    Inv (w.moveConstruct d src) := by
  refine ⟨h.handles.moveConstruct hd hsrc, h.contexts.moveConstruct hd hsrc, ?_, h.filled,
    h.held⟩
  intro k hk
  simp only [World.moveConstruct, Pool.get_moveConstruct]
  split_ifs with hkd hks
  · exact h.paired src hsrc
  · rfl
  · exact h.paired k (Finset.mem_of_mem_insert_of_ne hk hkd)

lemma Inv.moveAssign (h : Inv w) (hd : d ∈ w.live) (hsrc : src ∈ w.live)
    (hidle : d = src ∨ w.Idle d) : Inv (w.moveAssign d src) := by
  refine ⟨h.handles.moveAssign hd hsrc, h.contexts.moveAssign hd hsrc, ?_, ?_, ?_⟩
  · intro k hk
    simp only [World.moveAssign, Pool.get_moveAssign]
    split_ifs
    · exact h.paired src hsrc
    · rfl
    · exact h.paired k hk
  · intro t ht
    exact h.filled t (Pool.mem_moveAssign.mp ht).1
  · intro t ht
    refine Pool.mem_moveAssign.mpr ⟨h.held t ht, hidle.imp_right ?_⟩
    intro hidle hget
    exact hidle t hget ht

lemma Inv.destroy (h : Inv w) (hd : d ∈ w.live) (hidle : w.Idle d) : Inv (w.destroy d) := by
  refine ⟨h.handles.destroy hd, h.contexts.destroy hd, ?_, ?_, ?_⟩
  · intro k hk
    obtain ⟨hkd, hk⟩ := Finset.mem_erase.mp hk
    simp only [World.destroy, Pool.get_destroy_of_ne hkd]
    exact h.paired k hk
  · intro t ht
    exact h.filled t (Pool.mem_destroy.mp ht).1
  · intro t ht
    exact Pool.mem_destroy.mpr ⟨h.held t ht, fun hget => hidle t hget ht⟩

omit [DecidableEq ι] [DecidableEq κ] in
lemma initiate_of_refused {retCode : ℤ} (hret : w.libusbSubmitTransfer t retCode < 0) :
    w.initiate t retCode = w := by
  simp [World.initiate, hret]

omit [DecidableEq ι] [DecidableEq κ] in
lemma initiate_of_accepted {retCode : ℤ} (hret : 0 ≤ w.libusbSubmitTransfer t retCode) :
    w.initiate t retCode = { w with inFlight := insert t w.inFlight } := by
  simp [World.initiate, not_lt.mpr hret]

omit [DecidableEq ι] [DecidableEq κ] in
lemma Inv.initiate (h : Inv w) {retCode : ℤ}
    (ht : 0 ≤ w.libusbSubmitTransfer t retCode → t ∈ w.handles.allocated) :
    Inv (w.initiate t retCode) := by
  by_cases hret : 0 ≤ w.libusbSubmitTransfer t retCode
  · rw [initiate_of_accepted hret]
    refine ⟨h.handles, h.contexts, h.paired, h.filled, ?_⟩
    intro t' ht'
    rcases ht' with hfly | hcb
    · rcases Finset.mem_insert.mp hfly with rfl | hfly
      · exact ht hret
      · exact h.held t' (Or.inl hfly)
    · exact h.held t' (Or.inr hcb)
  · rw [initiate_of_refused (not_le.mp hret)]
    exact h

omit [DecidableEq ι] [DecidableEq κ] in
lemma held_of_beginCallback {t' : τ} (ht : t ∈ w.inFlight) (h : (w.beginCallback t).Held t') :
    w.Held t' := by
  rcases h with hfly | hcb
  · exact Or.inl (Finset.mem_of_mem_erase hfly)
  · rcases Finset.mem_insert.mp hcb with rfl | hcb
    · exact Or.inl ht
    · exact Or.inr hcb

omit [DecidableEq ι] [DecidableEq κ] in
lemma Inv.beginCallback (h : Inv w) (ht : t ∈ w.inFlight) : Inv (w.beginCallback t) :=
  ⟨h.handles, h.contexts, h.paired, h.filled,
    fun t' ht' => h.held t' (held_of_beginCallback ht ht')⟩

omit [DecidableEq ι] [DecidableEq κ] in
lemma Inv.endCallback (h : Inv w) : Inv { w with callbacks := w.callbacks.erase t } :=
  ⟨h.handles, h.contexts, h.paired, h.filled,
    fun t' ht' => h.held t' (ht'.imp_right Finset.mem_of_mem_erase)⟩

/-- A careful step keeps every context where its callback looks for it. -/
lemma Inv.step (w : World ι τ κ) (a : Action ι τ κ) (w' : World ι τ κ) (h : Inv w)
    (hcareful : Careful w a) (hstep : step w a = some w') : Inv w' := by
  cases a with
  | construct d alloc context =>
    obtain ⟨⟨hd, hfresh⟩, rfl⟩ := Option.ite_some_none_eq_some.mp hstep
    exact h.construct hd alloc context hfresh
  | moveConstruct d src =>
    obtain ⟨⟨hd, hsrc⟩, rfl⟩ := Option.ite_some_none_eq_some.mp hstep
    exact h.moveConstruct hd hsrc
  | moveAssign d src =>
    obtain ⟨⟨hd, hsrc⟩, rfl⟩ := Option.ite_some_none_eq_some.mp hstep
    exact h.moveAssign hd hsrc hcareful
  | destroy d =>
    obtain ⟨hd, rfl⟩ := Option.ite_some_none_eq_some.mp hstep
    exact h.destroy hd hcareful
  | call d =>
    obtain ⟨hd, hcall⟩ := Option.ite_none_right_eq_some.mp hstep
    split at hcall <;> cases hcall
    exact ⟨h.handles, h.contexts, h.paired, h.filled, h.held⟩
  | initiate t c retCode =>
    obtain ⟨-, rfl⟩ := Option.ite_some_none_eq_some.mp hstep
    exact h.initiate hcareful
  | cancel d =>
    obtain ⟨-, rfl⟩ := Option.ite_some_none_eq_some.mp hstep
    exact h
  | beginCallback t =>
    obtain ⟨⟨ht, -⟩, rfl⟩ := Option.ite_some_none_eq_some.mp hstep
    exact h.beginCallback ht
  | endCallback t =>
    obtain ⟨-, rfl⟩ := Option.ite_some_none_eq_some.mp hstep
    exact h.endCallback

lemma Inv.served (w : World ι τ κ) (h : Inv w) : Served w := by
  constructor
  · intro t ht
    exact h.found (Or.inr ht)
  · intro t w' hstep t' ht'
    obtain ⟨⟨ht, -⟩, rfl⟩ := Option.ite_some_none_eq_some.mp hstep
    exact (h.beginCallback ht).found (Or.inr ht')

/-! ### What a careless step breaks -/

/-- The callback of a freed transfer may run, and will find nothing. -/
lemma not_served_of_freed (ht : w.Held t) (hfreed : t ∉ w.handles.allocated) : ¬ Served w := by
  intro h
  by_cases hcb : t ∈ w.callbacks
  · exact hfreed (h.running t hcb).allocated
  · have hfly := ht.resolve_right hcb
    have hbegin : step w (.beginCallback t) = some (w.beginCallback t) := if_pos ⟨hfly, hcb⟩
    exact hfreed (h.next t _ hbegin t (Finset.mem_insert_self t _)).allocated

lemma not_served_of_careless (w : World ι τ κ) (a : Action ι τ κ) (w' : World ι τ κ)
    (hcareless : ¬ Careful w a) (hstep : step w a = some w') : ¬ Served w' := by
  cases a with
  | construct | moveConstruct | call | cancel | beginCallback | endCallback =>
    exact absurd trivial hcareless
  | moveAssign d src =>
    obtain ⟨-, rfl⟩ := Option.ite_some_none_eq_some.mp hstep
    obtain ⟨hne, hidle⟩ := not_or.mp hcareless
    obtain ⟨t, hget, ht⟩ : ∃ t ∈ w.handles.get d, w.Held t := by
      simpa [World.Idle] using hidle
    refine not_served_of_freed ht fun hmem => ?_
    rcases (Pool.mem_moveAssign.mp hmem).2 with heq | hother
    · exact hne heq
    · exact hother hget
  | destroy d =>
    obtain ⟨-, rfl⟩ := Option.ite_some_none_eq_some.mp hstep
    obtain ⟨t, hget, ht⟩ : ∃ t ∈ w.handles.get d, w.Held t := by
      simpa [Careful, World.Idle] using hcareless
    exact not_served_of_freed ht fun hmem => (Pool.mem_destroy.mp hmem).2 hget
  | initiate t c retCode =>
    obtain ⟨-, rfl⟩ := Option.ite_some_none_eq_some.mp hstep
    obtain ⟨hret, hfreed⟩ := Classical.not_imp.mp hcareless
    rw [initiate_of_accepted hret]
    exact not_served_of_freed (t := t) (Or.inl (Finset.mem_insert_self t _)) hfreed

/-- The callbacks find their contexts on exactly those runs that destroy or overwrite no object
while libusb holds its transfer, and submit no freed transfer. -/
theorem served_iff_careful (handle : ι → Option τ) (context : ι → Option κ)
    (userData : τ → Option κ) (as : List (Action ι τ κ)) :
    Always step Served (init handle context userData) as ↔
      Along step Careful (init handle context userData) as :=
  always_iff_along Inv.step (fun w a w' _ => not_served_of_careless w a w') Inv.served
    (inv_init handle context userData)

/-- A transfer object goes out of scope while its operation is in flight; then the operation
completes. -/
theorem not_allFound_out_of_scope :
    ¬ Always step AllFound (init (fun _ : ℕ => none) (fun _ => none) (fun _ => none))
      [.construct 0 (some 0) (some 0), .call 0, .initiate 0 0 0, .destroy 0,
        .beginCallback 0] := by
  intro h
  have hlast := h.last rfl 0 (by decide)
  exact absurd hlast.allocated (by decide)

end UsbAsio.Transfer.Lifetime

import UsbAsio.Ownership.Basic
import UsbAsio.RefPtr.Basic
import UsbAsio.Transition.Basic

/-!
# Conservation of references

The library holds as many references on a device as there are live objects that point to it, and
gives back none that it does not hold. One thing breaks this: the copy of an empty object, which
passes a null pointer on to `libusb_ref_device`.
-/

namespace UsbAsio.RefPtr

open Transition Ownership Ledger

variable {ι δ : Type*} [DecidableEq ι] [DecidableEq δ]

/-! ### The property and the condition -/

def World.events (w : World ι δ) : List (Event δ) := w.log.filterMap Call.event

/-- No call names a null pointer, every reference given back was held, and what has been taken
and not given back is what the live objects point to. -/
structure Conserved (w : World ι δ) : Prop where
  nonnull : ∀ c ∈ w.log, c ≠ .ref none ∧ c ≠ .unref none
  solvent : Solvent w.events
  counted : ∀ p, w.events.count (.acquire p) = w.events.count (.release p) + tally w.live w.ptr p

/-- No empty object is copied. -/
def CopiesNonempty (w : World ι δ) : Action ι δ → Prop
  | .copyConstruct _ src | .copyAssign _ src => w.ptr src ≠ none
  | .construct _ | .fromPointer _ _ | .adopt _ _ | .moveConstruct _ _ | .moveAssign _ _
  | .reset _ | .destroy _ | .parent _ _ _ => True

instance (w : World ι δ) (a : Action ι δ) : Decidable (CopiesNonempty w a) :=
  match a with
  | .copyConstruct _ _ | .copyAssign _ _ => inferInstanceAs (Decidable (_ ≠ _))
  | .construct _ | .fromPointer _ _ | .adopt _ _ | .moveConstruct _ _ | .moveAssign _ _
  | .reset _ | .destroy _ | .parent _ _ _ => inferInstanceAs (Decidable True)

/-! ### The invariant -/

/-- Inside an operation one reference may be held outside of the live objects, by a parameter or
a member under construction: `other`. -/
structure Inv (w : World ι δ) (other : Option δ) : Prop where
  nonnull : ∀ c ∈ w.log, c ≠ .ref none ∧ c ≠ .unref none
  solvent : Solvent w.events
  counted : ∀ p, w.events.count (.acquire p) =
    w.events.count (.release p) + (tally w.live w.ptr p + if other = some p then 1 else 0)

omit [DecidableEq ι] in
lemma inv_init (ptr : ι → Option δ) : Inv (init ptr) none :=
  ⟨fun _ h => by simp [init] at h, trivial, fun _ => rfl⟩

omit [DecidableEq ι] in
lemma Inv.conserved {w : World ι δ} (h : Inv w none) : Conserved w :=
  ⟨h.nonnull, h.solvent, h.counted⟩

section Members

variable {w : World ι δ} {d src : ι} {other p : Option δ} {q : δ}

omit [DecidableEq ι] in
lemma Inv.ref (h : Inv w none) (q : δ) : Inv (w.call (.ref (some q))) (some q) := by
  have hevents : (w.call (.ref (some q))).events = .acquire q :: w.events := rfl
  constructor
  · intro c hc
    rcases List.mem_cons.mp hc with rfl | hc
    · exact ⟨nofun, nofun⟩
    · exact h.nonnull c hc
  · rw [hevents]
    exact h.solvent
  · intro p
    have hp := h.counted p
    rw [hevents, count_acquire_acquire, count_release_acquire, hp]
    simp only [reduceCtorEq, if_false, Option.some.injEq, World.call]
    omega

omit [DecidableEq ι] in
lemma Inv.adopt (h : Inv w none) (q : δ) : Inv (w.call (.adopt q)) (some q) := by
  have href := h.ref q
  refine ⟨?_, href.solvent, href.counted⟩
  intro c hc
  rcases List.mem_cons.mp hc with rfl | hc
  · exact ⟨nofun, nofun⟩
  · exact h.nonnull c hc

/-- A new object takes the reference. -/
lemma Inv.emplace (h : Inv w other) (hd : d ∉ w.live) : Inv (w.emplace d other) none := by
  refine ⟨h.nonnull, h.solvent, fun p => ?_⟩
  have hrest : tally w.live (Function.update w.ptr d other) p = tally w.live w.ptr p := by
    apply tally_congr
    intro i hi
    have hid : i ≠ d := by
      rintro rfl
      exact hd hi
    exact Function.update_of_ne hid other w.ptr
  have htally : tally (insert d w.live) (Function.update w.ptr d other) p =
      tally w.live w.ptr p + if other = some p then 1 else 0 := by
    rw [tally_insert _ hd, hrest, Function.update_self]
  exact (h.counted p).trans (by rw [← htally]; rfl)

/-- An object exchanges its reference with the one outside. -/
lemma Inv.setPtr (h : Inv w other) (hd : d ∈ w.live) : Inv (w.setPtr d other) (w.ptr d) := by
  refine ⟨h.nonnull, h.solvent, fun p => ?_⟩
  have hupdate := tally_update w.ptr hd other p
  have hp := h.counted p
  simp only [World.setPtr, World.events] at hp ⊢
  omega

omit [DecidableEq ι] in
/-- The reference outside is given back. -/
lemma Inv.delete (h : Inv w other) : Inv (w.delete other) none := by
  cases other with
  | none => exact h
  | some q =>
    have hevents : (w.delete (some q)).events = .release q :: w.events := rfl
    constructor
    · intro c hc
      rcases List.mem_cons.mp hc with rfl | hc
      · exact ⟨nofun, nofun⟩
      · exact h.nonnull c hc
    · have hq := h.counted q
      rw [if_pos rfl] at hq
      rw [hevents]
      exact ⟨by omega, h.solvent⟩
    · intro p
      have hp := h.counted p
      have hlive : tally (w.delete (some q)).live (w.delete (some q)).ptr p =
          tally w.live w.ptr p := rfl
      rw [hevents, count_acquire_release, count_release_release, hp, hlive]
      simp only [reduceCtorEq, if_false, Option.some.injEq]
      omega

/-- The reference of an object outlives it. -/
lemma Inv.erase (h : Inv w none) (hd : d ∈ w.live) :
    Inv { w with live := w.live.erase d } (w.ptr d) :=
  ⟨h.nonnull, h.solvent, fun p => by rw [← tally_eq_erase w.ptr hd p]; exact h.counted p⟩

/-! ### Operations -/

lemma Inv.fromPointer (h : Inv w none) (hd : d ∉ w.live) (q : δ) :
    Inv (w.fromPointer d (some q)) none :=
  (h.ref q).emplace hd

lemma Inv.assign (h : Inv w other) (hd : d ∈ w.live) : Inv (w.assign d other) none :=
  (h.setPtr hd).delete

end Members

/-- Every step keeps the invariant, unless an empty object is copied. -/
theorem inv_step {w w' : World ι δ} {a : Action ι δ} (h : Inv w none) (ha : CopiesNonempty w a)
    (hstep : step w a = some w') : Inv w' none := by
  obtain ⟨-, hstep⟩ := Option.ite_none_left_eq_some.mp hstep
  -- the reference that a member has in its hands meanwhile is the second argument of `Inv`
  cases a with
  | construct d =>
    obtain ⟨hd, rfl⟩ := Option.ite_some_none_eq_some.mp hstep
    exact h.emplace hd
  | fromPointer d q =>
    obtain ⟨hd, rfl⟩ := Option.ite_some_none_eq_some.mp hstep
    exact h.fromPointer hd q
  | adopt d q =>
    obtain ⟨hd, rfl⟩ := Option.ite_some_none_eq_some.mp hstep
    exact (h.adopt q).emplace hd
  | copyConstruct d src =>
    obtain ⟨⟨hd, -⟩, rfl⟩ := Option.ite_some_none_eq_some.mp hstep
    obtain ⟨q, hq⟩ := Option.ne_none_iff_exists'.mp ha
    rw [World.copyConstruct, hq]
    exact h.fromPointer hd q
  | moveConstruct d src =>
    obtain ⟨⟨hd, hsrc⟩, rfl⟩ := Option.ite_some_none_eq_some.mp hstep
    exact (h.setPtr hsrc).emplace hd
  | copyAssign d src =>
    obtain ⟨⟨hd, -⟩, rfl⟩ := Option.ite_some_none_eq_some.mp hstep
    obtain ⟨q, hq⟩ := Option.ne_none_iff_exists'.mp ha
    rw [World.copyAssign, hq]
    exact (h.ref q).assign hd
  | moveAssign d src =>
    obtain ⟨⟨hd, hsrc⟩, rfl⟩ := Option.ite_some_none_eq_some.mp hstep
    exact (h.setPtr hsrc).assign hd
  | reset d =>
    obtain ⟨hd, rfl⟩ := Option.ite_some_none_eq_some.mp hstep
    exact h.assign hd
  | destroy d =>
    obtain ⟨hd, rfl⟩ := Option.ite_some_none_eq_some.mp hstep
    exact (h.erase hd).delete
  | parent d src parentHandle =>
    obtain ⟨⟨hd, -, -⟩, rfl⟩ := Option.ite_some_none_eq_some.mp hstep
    cases parentHandle with
    | none => exact h
    | some q => exact h.fromPointer hd q

/-- A copy of an empty object calls `libusb_ref_device` with a null pointer. -/
lemma not_conserved_of_copy {w w' : World ι δ} {a : Action ι δ} (ha : ¬ CopiesNonempty w a)
    (hstep : step w a = some w') : ¬ Conserved w' := by
  obtain ⟨-, hstep⟩ := Option.ite_none_left_eq_some.mp hstep
  suffices hnull : .ref none ∈ w'.log from fun h => (h.nonnull _ hnull).1 rfl
  cases a with
  | copyConstruct d src =>
    obtain ⟨-, rfl⟩ := Option.ite_some_none_eq_some.mp hstep
    rw [World.copyConstruct, not_not.mp ha]
    exact List.mem_cons_self
  | copyAssign d src =>
    obtain ⟨-, rfl⟩ := Option.ite_some_none_eq_some.mp hstep
    rw [World.copyAssign, not_not.mp ha, World.assign, World.delete]
    split_ifs <;> simp [World.call, World.setPtr]
  | construct | fromPointer | adopt | moveConstruct | moveAssign | reset | destroy | parent =>
    exact absurd trivial ha

/-! ### Every run -/

/-- References are conserved on exactly the runs that copy no empty object. -/
theorem conserved_iff_copiesNonempty (ptr : ι → Option δ) (as : List (Action ι δ)) :
    Always step Conserved (init ptr) as ↔ Along step CopiesNonempty (init ptr) as :=
  always_iff_along (I := fun w => Inv w none) (fun _ _ _ h ha => inv_step h ha)
    (fun _ _ _ _ ha => not_conserved_of_copy ha) (fun _ h => h.conserved) (inv_init ptr)

/-- A pointer is moved from, and then copied. -/
theorem not_conserved_moved_from :
    ¬ ∀ (ptr : ℕ → Option ℕ) (as : List (Action ℕ ℕ)),
      Always step Conserved (init ptr) as := by
  intro h
  have hlog : (exec step (init fun _ : ℕ => (none : Option ℕ))
      [.fromPointer 0 7, .moveConstruct 1 0, .copyConstruct 2 0]).map (·.log) =
        some [.ref none, .ref (some 7)] := by decide
  obtain ⟨w, hw, hw'⟩ := Option.map_eq_some_iff.mp hlog
  have hnonnull := ((h _ _).last hw).nonnull (.ref none) (by simp [hw'])
  exact hnonnull.1 rfl

end UsbAsio.RefPtr

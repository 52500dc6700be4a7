import UsbAsio.BlockingOp.Basic
import UsbAsio.Interface.Frame

/-!
# The target of a queued operation

`async_unclaim` and `async_set_alt_setting` are initiated for the interface that the object has
claimed, and read the fields of the object when the blocking thread comes to them. The two agree as
long as the user leaves an object alone while functions of it are queued or running, but for further
operations, and starts no `async_set_alt_setting` behind an `async_unclaim`.
-/

namespace UsbAsio.BlockingOp

open Transition Interface

variable {ι δ σ : Type*}

/-! ### The property and the condition -/

/-- The call that a task issues, if it issues one, names what the operation was initiated for. -/
def Task.NamesTarget (task : Task ι) : Prop :=
  ∀ x ∈ task.target, ∀ c ∈ task.call, c.interface = some (some x.2.device, x.2.number)

/-- Every call of a queued operation is on its target. -/
def NamesTarget (w : World ι δ σ) : Action ι δ σ → Prop
  | .run _ => ∀ task ∈ w.tasks.head?, task.NamesTarget
  | _      => True

instance : DecidablePred (@Task.NamesTarget ι) := fun task =>
  inferInstanceAs (Decidable (∀ x ∈ task.target, _))

instance (w : World ι δ σ) (a : Action ι δ σ) : Decidable (NamesTarget w a) :=
  match a with
  | .run _ => inferInstanceAs (Decidable (∀ task ∈ w.tasks.head?, task.NamesTarget))
  | .device _ | .construct .. | .constructClaim .. | .claim .. | .unclaim .. | .detach _
  | .moveAssign .. | .destroy .. | .reuse .. | .asyncDevice .. | .asyncUnclaim ..
  | .asyncSetAltSetting .. => inferInstanceAs (Decidable True)

/-- The objects whose fields a step of the user may change. -/
def Action.touches : Action ι δ σ → List ι
  | .construct d _ | .constructClaim d _ _ _ _ _ _ | .claim d _ _ _ _ _ | .unclaim d _ _
  | .detach d | .destroy d _ | .reuse d _ => [d]
  | .moveAssign d src _ => [d, src]
  | .device _ | .asyncDevice _ _ | .asyncUnclaim _ _ | .asyncSetAltSetting _ _ | .run _ => []

/-- The interface on which a step starts `async_set_alt_setting`. -/
def Action.reconfigures : Action ι δ σ → Option ι
  | .asyncSetAltSetting d _ => some d
  | _                       => none

/-- The user touches no object that a task is meant for, and sets nothing on an object that is going
to be unclaimed. -/
def LeftAlone (w : World ι δ σ) (a : Action ι δ σ) : Prop :=
  ∀ task ∈ w.tasks,
    (∀ d ∈ a.touches, ∀ x ∈ task.target, x.1 ≠ d) ∧ ∀ d ∈ a.reconfigures, task.ends ≠ some d

instance [DecidableEq ι] (w : World ι δ σ) (a : Action ι δ σ) : Decidable (LeftAlone w a) :=
  inferInstanceAs (Decidable (∀ task ∈ w.tasks, _))

/-! ### The invariant -/

/-- `unclaim` has not begun. -/
def Task.Unbegun (d : ι) (task : Task ι) : Prop := ∃ reattach p, task = .unclaim d reattach p

/-- The object records what the task is meant for, and so does what has been read; an object that
`unclaim` finds unclaimed will do as well. -/
def Task.OnTarget (iface : ι → UsbInterface) : Task ι → Prop
  | .device _ _                   => True
  | .unclaim d _ p                => (iface d).record = none ∨ (iface d).record = some p
  | .readHandle _ d p             => (iface d).record = some p
  | .readNumber _ d p handle      => (iface d).record = some p ∧ handle = some p.device
  | .issue _ d p handle number    =>
    (iface d).record = some p ∧ handle = some p.device ∧ number = p.number
  | .detach d p                   => (iface d).record = some p
  | .clearNumber d _              => (iface d).record = none

/-- Every task comes to its target, and behind a task that leaves its object unclaimed nothing but
another `unclaim` waits for the object. -/
structure Aligned (w : World ι δ σ) : Prop where
  onTarget : ∀ task ∈ w.tasks, task.OnTarget w.ifaces.iface
  last : w.tasks.Pairwise fun task later =>
    ∀ d ∈ task.ends, ∀ x ∈ later.target, x.1 = d → later.Unbegun d

lemma aligned_init (dev : δ → Device.UsbDevice σ) (iface : ι → UsbInterface) :
    Aligned (init dev iface) :=
  ⟨nofun, List.Pairwise.nil⟩

lemma record_eq_some_iff {x : UsbInterface} {p : Claim} :
    x.record = some p ↔ x.deviceHandle = some p.device ∧ x.number = p.number := by
  obtain ⟨device, number⟩ := p
  cases h : x.deviceHandle <;> simp [UsbInterface.record, h]

lemma record_eq_none_iff {x : UsbInterface} : x.record = none ↔ x.deviceHandle = none :=
  Option.map_eq_none_iff

lemma Task.OnTarget.namesTarget {iface : ι → UsbInterface} {task : Task ι}
    (h : task.OnTarget iface) : task.NamesTarget := by
  cases task with
  | device | unclaim | readHandle | readNumber | detach | clearNumber => exact nofun
  | issue fn d p handle number =>
    obtain ⟨-, rfl, rfl⟩ := h
    rintro x ⟨⟩ c ⟨⟩
    exact fn.interface_call ..

/-- Only the object that a task is meant for counts. -/
lemma Task.OnTarget.congr {iface iface' : ι → UsbInterface} {task : Task ι}
    (h : task.OnTarget iface) (hsame : ∀ x ∈ task.target, iface' x.1 = iface x.1) :
    task.OnTarget iface' := by
  cases task with
  | device => trivial
  | unclaim d _ p | readHandle _ d p | readNumber _ d p | issue _ d p | detach d p
  | clearNumber d p =>
    simp only [OnTarget, hsame _ rfl]
    exact h

lemma Aligned.namesTarget {w : World ι δ σ} (h : Aligned w) (a : Action ι δ σ) :
    NamesTarget w a := by
  cases a with
  | run retCode =>
    exact fun task htask => (h.onTarget task (List.mem_of_mem_head? htask)).namesTarget
  | _ => trivial

variable {w w' : World ι δ σ}

/-! ### One step -/

lemma Aligned.post (h : Aligned w) {task : Task ι} (honTarget : task.OnTarget w.ifaces.iface)
    (hlast : ∀ earlier ∈ w.tasks, ∀ d ∈ earlier.ends, ∀ x ∈ task.target, x.1 = d →
      task.Unbegun d) : Aligned (w.post task) := by
  constructor
  · intro t ht
    rcases List.mem_append.mp ht with ht | ht
    · exact h.onTarget t ht
    · rw [List.mem_singleton.mp ht]
      exact honTarget
  · refine List.pairwise_append.mpr ⟨h.last, List.pairwise_singleton _ _, ?_⟩
    intro earlier hearlier t ht
    rw [List.mem_singleton.mp ht]
    exact hlast earlier hearlier

/-- What remains of a task is still on its target. -/
lemma Task.OnTarget.rest {iface : ι → UsbInterface} {task task' : Task ι}
    (h : task.OnTarget iface) {retCode : ℤ} (hrest : task.rest iface retCode = some task')
    (hdetach : ∀ d p, task ≠ .detach d p) : task'.OnTarget iface := by
  cases task with
  | device | clearNumber => cases hrest
  | detach d p => exact absurd rfl (hdetach d p)
  | unclaim d reattach p =>
    simp only [Task.rest] at hrest
    split_ifs at hrest with hclaimed
    cases hrest
    exact h.resolve_left fun hnone => hclaimed (record_eq_none_iff.mp hnone)
  | readHandle fn d p =>
    cases hrest
    exact ⟨h, (record_eq_some_iff.mp h).1⟩
  | readNumber fn d p handle =>
    cases hrest
    exact ⟨h.1, h.2, (record_eq_some_iff.mp h.1).2⟩
  | issue fn d p handle number =>
    obtain ⟨-, rfl | rfl⟩ := InterfaceFn.rest_eq_some hrest <;> exact h.1

variable [DecidableEq ι]

/-- The fields of an object are cleared when only an `unclaim` that has not begun waits for it. -/
lemma Task.OnTarget.clear {ifaces : Interface.World ι} {task : Task ι}
    (h : task.OnTarget ifaces.iface) {d : ι}
    (hunbegun : ∀ x ∈ task.target, x.1 = d → task.Unbegun d)
    (number : UInt8) : task.OnTarget (ifaces.setIface d ⟨none, number⟩).iface := by
  by_cases hd : ∃ p, task.target = some (d, p)
  · obtain ⟨p, hp⟩ := hd
    obtain ⟨reattach, p', rfl⟩ := hunbegun _ hp rfl
    exact .inl (by simp [World.setIface, UsbInterface.record])
  · refine h.congr fun x hx => World.iface_setIface _ ?_
    rintro rfl
    exact hd ⟨x.2, hx⟩

lemma Aligned.run (h : Aligned w) {task : Task ι} {tasks : List (Task ι)}
    (htasks : w.tasks = task :: tasks) (retCode : ℤ) : Aligned (w.run task tasks retCode) := by
  obtain ⟨honTarget, hlast⟩ := h
  rw [htasks] at honTarget hlast
  obtain ⟨hends, hlast⟩ := List.pairwise_cons.mp hlast
  obtain ⟨hfirst, hothers⟩ := List.forall_mem_cons.mp honTarget
  -- the tasks behind the first one
  have hbehind : ∀ t ∈ tasks, t.OnTarget (w.run task tasks retCode).ifaces.iface := by
    intro t ht
    cases task with
    | device | unclaim | readHandle | readNumber | issue => exact hothers t ht
    | detach d p => exact (hothers t ht).clear (hends t ht d rfl) _
    | clearNumber d p =>
      have hnull : (w.ifaces.iface d).deviceHandle = none := record_eq_none_iff.mp hfirst
      have hclear := (hothers t ht).clear (hends t ht d rfl) 0
      rw [← hnull] at hclear
      exact hclear
  -- what remains of it
  have hrest : ∀ t, task.rest w.ifaces.iface retCode = some t →
      t.OnTarget (w.run task tasks retCode).ifaces.iface := by
    intro t ht
    cases task with
    | device | clearNumber => cases ht
    | unclaim | readHandle | readNumber | issue => exact hfirst.rest ht nofun
    | detach d p =>
      cases ht
      simp [Task.OnTarget, World.run, Interface.World.setIface, UsbInterface.record]
  constructor
  · intro t ht
    rcases List.mem_append.mp ht with ht | ht
    · exact hrest t (Option.mem_toList.mp ht)
    · exact hbehind t ht
  · cases hnext : task.rest w.ifaces.iface retCode with
    | none =>
      have htasks' : (w.run task tasks retCode).tasks = tasks := by simp [World.run, hnext]
      rw [htasks']
      exact hlast
    | some task' =>
      have htasks' : (w.run task tasks retCode).tasks = task' :: tasks := by
        simp [World.run, hnext]
      rw [htasks', List.pairwise_cons, (Task.rest_eq_some hnext).2]
      exact ⟨hends, hlast⟩

variable [DecidableEq δ]

/-- An operation leaves the fields of the objects that it does not touch alone. -/
lemma Operation.iface {a : Action ι δ σ}
    {op : Interface.World ι → Interface.World ι} (hop : Operation w a op)
    (ifaces : Interface.World ι) {d' : ι} (hd' : d' ∉ a.touches) :
    (op ifaces).iface d' = ifaces.iface d' := by
  cases hop with
  | construct d deviceHandle => exact World.iface_setIface _ (List.ne_of_not_mem_cons hd')
  | constructClaim d deviceHandle device number releaseRet claimRet destroyRet h =>
    exact World.iface_constructClaim deviceHandle _ releaseRet claimRet destroyRet
      (List.ne_of_not_mem_cons hd')
  | claim d device number detachDriver releaseRet claimRet h =>
    exact World.iface_claim _ detachDriver releaseRet claimRet (List.ne_of_not_mem_cons hd')
  | unclaim d reattach retCode =>
    exact iface_unclaim reattach retCode (List.ne_of_not_mem_cons hd')
  | detach d => exact World.iface_setIface _ (List.ne_of_not_mem_cons hd')
  | moveAssign d src retCode =>
    obtain ⟨hne, hne'⟩ : d' ≠ d ∧ d' ≠ src := by simpa [Action.touches] using hd'
    exact World.iface_moveAssign retCode hne hne'
  | destroy d retCode => exact World.iface_destroy retCode (List.ne_of_not_mem_cons hd')
  | reuse d x => exact World.iface_setIface x (List.ne_of_not_mem_cons hd')

lemma Aligned.operate (h : Aligned w) {a : Action ι δ σ}
    {op : Interface.World ι → Interface.World ι} (hop : Operation w a op)
    (halone : LeftAlone w a) : Aligned (w.operate op) := by
  refine ⟨fun task htask => (h.onTarget task htask).congr fun x hx => ?_, h.last⟩
  have hx' : x.1 ∉ a.touches := fun hmem => (halone task htask).1 _ hmem x hx rfl
  exact hop.iface { w.ifaces with log := [] } hx'

variable [DecidableEq σ]

theorem aligned_step {a : Action ι δ σ} (h : Aligned w)
    (halone : LeftAlone w a) (hstep : step w a = some w') : Aligned w' := by
  cases Rule.of_step hstep with
  | device => exact ⟨h.onTarget, h.last⟩
  | operate a op hop => exact h.operate hop halone
  | asyncDevice => exact h.post trivial nofun
  | asyncUnclaim d reattach p hclaimed =>
    obtain ⟨-, hrecord⟩ := Option.ite_none_right_eq_some.mp hclaimed
    refine h.post (.inr hrecord) ?_
    rintro earlier - d' - x ⟨⟩ rfl
    exact ⟨reattach, p, rfl⟩
  | asyncSetAltSetting d altSetting p hclaimed =>
    obtain ⟨-, hrecord⟩ := Option.ite_none_right_eq_some.mp hclaimed
    refine h.post hrecord ?_
    rintro earlier hearlier d' hends x ⟨⟩ rfl
    exact absurd hends ((halone earlier hearlier).2 d rfl)
  | run task tasks retCode htasks => exact h.run htasks retCode

/-! ### What goes wrong otherwise -/

/-- The object records something else by the time that a call reads its fields. -/
lemma not_along_namesTarget {fn : InterfaceFn} {d : ι} {p : Claim} {tasks : List (Task ι)}
    (htasks : w.tasks = .readHandle fn d p :: tasks)
    (hrecord : (w.ifaces.iface d).record ≠ some p) :
    ¬ Along step NamesTarget w [.run 0, .run 0, .run 0] := by
  intro halong
  let w₁ := w.run (.readHandle fn d p) tasks 0
  let w₂ := w₁.run (.readNumber fn d p (w.ifaces.iface d).deviceHandle) tasks 0
  have hstep : step w (.run 0) = some w₁ := by simp [step, htasks, w₁]
  have hstep' : step w₁ (.run 0) = some w₂ := rfl
  have hnames : NamesTarget w₂ (.run 0) :=
    ((along_cons_iff.mp ((along_cons_iff.mp ((along_cons_iff.mp halong _ hstep).2) _ hstep').2))
      _ rfl).1
  have hinterface := hnames _ rfl _ rfl _ rfl
  rw [InterfaceFn.interface_call] at hinterface
  obtain ⟨hhandle, hnumber⟩ := Prod.mk.inj (Option.some.inj hinterface)
  exact hrecord (record_eq_some_iff.mpr ⟨hhandle, hnumber⟩)

/-- `detach()` by the user. -/
lemma not_along_detach {fn : InterfaceFn} {d : ι} {p : Claim} {tasks : List (Task ι)}
    (htasks : w.tasks = .readHandle fn d p :: tasks) (hd : d ∈ w.ifaces.live) :
    ¬ Along step NamesTarget w [.detach d, .run 0, .run 0, .run 0] := by
  have hstep : step w (.detach d) = some (w.operate (·.detach d)) := if_pos hd
  intro halong
  refine not_along_namesTarget (w := w.operate (·.detach d)) htasks ?_
    (along_cons_iff.mp halong _ hstep).2
  simp [World.operate, World.detach, World.clear, World.setIface, UsbInterface.record]

/-- A successful claim of another interface. -/
lemma not_along_claim {fn : InterfaceFn} {d : ι} {p : Claim} {tasks : List (Task ι)}
    (htasks : w.tasks = .readHandle fn d p :: tasks) (hd : d ∈ w.ifaces.live) {device : δ}
    {h : DeviceHandle} (hopen : openHandle w device = some h) {number : UInt8}
    (hne : (⟨h, number⟩ : Claim) ≠ p) (detachDriver : Bool) {releaseRet claimRet : ℤ}
    (hrelease : 0 ≤ releaseRet) (hclaim : 0 ≤ claimRet) :
    ¬ Along step NamesTarget w
      [.claim d device number detachDriver releaseRet claimRet, .run 0, .run 0, .run 0] := by
  let op : Interface.World ι → Interface.World ι := fun ifaces =>
    (ifaces.claim d ⟨h, number⟩ detachDriver releaseRet claimRet).1
  have hstep : step w (.claim d device number detachDriver releaseRet claimRet) =
      some (w.operate op) := by
    simp [step, hd, hopen, op]
  have hreleased : ∀ ifaces : Interface.World ι,
      (ifaces.unclaim d true releaseRet).2.isError = false := by
    intro ifaces
    refine World.unclaim_rec (fun _ => rfl) ?_ ?_
    · exact fun _ _ hlt => absurd hlt (not_lt.mpr hrelease)
    · intro p hp hle
      simp [not_lt.mpr hle]
  have hrecord : ((w.operate op).ifaces.iface d).record = some ⟨h, number⟩ := by
    simp only [World.operate, op]
    rw [World.claim_fst]
    simp [hreleased, not_lt.mpr hclaim, World.setIface, UsbInterface.record]
  intro halong
  refine not_along_namesTarget (w := w.operate op) htasks ?_ (along_cons_iff.mp halong _ hstep).2
  rw [hrecord]
  exact fun heq => hne (Option.some.inj heq)

/-! ### Every run -/

/-- A queued operation acts on the interface that it was initiated for as long as the user leaves
the object alone. Where the user clears it or claims another interface with it when a call is about
to read its fields, the call is on something else. -/
theorem along_namesTarget_of_leftAlone (dev : δ → Device.UsbDevice σ) (iface : ι → UsbInterface)
    (as : List (Action ι δ σ)) (halone : Along step LeftAlone (init dev iface) as) :
    Along step NamesTarget (init dev iface) as ∧
      ∀ w, exec step (init dev iface) as = some w →
        ∀ fn d p tasks, w.tasks = .readHandle fn d p :: tasks → d ∈ w.ifaces.live →
          ¬ Along step NamesTarget w [.detach d, .run 0, .run 0, .run 0] ∧
          ∀ device h number detachDriver releaseRet claimRet, openHandle w device = some h →
            (⟨h, number⟩ : Claim) ≠ p → 0 ≤ releaseRet → 0 ≤ claimRet →
              ¬ Along step NamesTarget w
                [.claim d device number detachDriver releaseRet claimRet, .run 0, .run 0,
                  .run 0] := by
  refine ⟨?_, ?_⟩
  · exact along_of_invariant (fun _ _ _ => aligned_step) (fun _ a _ h _ _ => h.namesTarget a)
      (aligned_init dev iface) halone
  · intro w _ fn d p tasks htasks hd
    refine ⟨not_along_detach htasks hd, ?_⟩
    intro device h number detachDriver releaseRet claimRet hopen hne hrelease hclaim
    exact not_along_claim htasks hd hopen hne detachDriver hrelease hclaim

/-- An interface is reconfigured and unclaimed by the blocking thread, twice unclaimed in fact, and
then destroyed. -/
theorem along_namesTarget_one_interface :
    let w : World ℕ ℕ Unit := init (fun _ => ⟨none, ()⟩) (fun _ => ⟨none, 0⟩)
    let as : List (Action ℕ ℕ Unit) :=
      [.device (.constructOpen 0 () 0 ⟨4096, by decide, by decide⟩),
        .construct 0 none, .claim 0 0 1 true 0 0, .asyncSetAltSetting 0 3, .asyncUnclaim 0 true,
        .asyncUnclaim 0 true] ++ List.replicate 13 (.run 0) ++ [.destroy 0 0]
    (exec step w as).isSome ∧ Along step NamesTarget w as :=
  ⟨by decide, (along_namesTarget_of_leftAlone _ _ _ (by decide)).1⟩

/-- A setting is queued for interface 1, the object claims interface 2, and the blocking thread
reconfigures interface 2. -/
theorem not_namesTarget_claimed_another :
    ¬ ∀ (dev : ℕ → Device.UsbDevice Unit) (iface : ℕ → UsbInterface)
        (as : List (Action ℕ ℕ Unit)), Along step NamesTarget (init dev iface) as := by
  intro h
  have hnot : ¬ Along step NamesTarget
      (init (fun _ => ⟨none, ()⟩) (fun _ => ⟨none, 0⟩) : World ℕ ℕ Unit)
      [.device (.constructOpen 0 () 0 ⟨4096, by decide, by decide⟩), .construct 0 none,
        .claim 0 0 1 true 0 0, .asyncSetAltSetting 0 3, .claim 0 0 2 true 0 0, .run 0, .run 0,
        .run 0] := by
    decide
  exact hnot (h _ _ _)

end UsbAsio.BlockingOp

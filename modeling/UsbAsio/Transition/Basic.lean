import Mathlib.Tactic

/-!
# Runs of guarded transition systems

A system is a partial step function `step : σ → α → Option σ`: an action carries everything
the outside decides (which thread moves, what a call returns), and `none` says that the
action is not enabled. A run is a list of actions.

`Always` and `Along` speak about a whole run: about the states it visits, and about the steps
it takes. The rules at the end turn a fact about one step into a fact about every run.
-/

namespace Transition

variable {σ α : Type*}

/-- Execute a list of actions; `none` as soon as one of them is not enabled. -/
def exec (step : σ → α → Option σ) : σ → List α → Option σ
  | s, []      => some s
  | s, a :: as =>
    match step s a with
    | none   => none
    | some t => exec step t as

/-- `s` is the state after some run from `s₀`. -/
def Reachable (step : σ → α → Option σ) (s₀ s : σ) : Prop :=
  ∃ as, exec step s₀ as = some s

/-- `P` holds in every state that the run of `as` from `s` visits. -/
def Always (step : σ → α → Option σ) (P : σ → Prop) : σ → List α → Prop
  | s, []      => P s
  | s, a :: as => P s ∧
    match step s a with
    | none   => True
    | some t => Always step P t as

/-- Every step that the run of `as` from `s` takes meets the condition `C`. -/
def Along (step : σ → α → Option σ) (C : σ → α → Prop) : σ → List α → Prop
  | _, []      => True
  | s, a :: as =>
    match step s a with
    | none   => True
    | some t => C s a ∧ Along step C t as

instance decidableAlong (step : σ → α → Option σ) (C : σ → α → Prop)
    [∀ s a, Decidable (C s a)] : ∀ s as, Decidable (Along step C s as)
  | _, []      => inferInstanceAs (Decidable True)
  | s, a :: as =>
    match h : step s a with
    | none   => isTrue (by simp only [Along, h])
    | some t =>
      have := decidableAlong step C t as
      decidable_of_iff (C s a ∧ Along step C t as) (by simp only [Along, h])

variable {step : σ → α → Option σ} {P : σ → Prop} {C D : σ → α → Prop}

/-! ### One step at a time -/

@[simp] lemma exec_nil (s : σ) : exec step s ([] : List α) = some s := rfl

lemma exec_cons_some {s t : σ} {a : α} (h : step s a = some t) (as : List α) :
    exec step s (a :: as) = exec step t as := by
  simp only [exec, h]

lemma exec_cons_eq_some_iff {s u : σ} {a : α} {as : List α} :
    exec step s (a :: as) = some u ↔ ∃ t, step s a = some t ∧ exec step t as = some u := by
  cases h : step s a <;> simp [exec, h]

lemma exec_append {s t : σ} {as : List α} (h : exec step s as = some t) (bs : List α) :
    exec step s (as ++ bs) = exec step t bs := by
  induction as generalizing s with
  | nil => cases h; rfl
  | cons a as ih =>
    obtain ⟨u, hu, hrest⟩ := exec_cons_eq_some_iff.mp h
    rw [List.cons_append, exec_cons_some hu, ih hrest]

lemma along_cons_iff {s : σ} {a : α} {as : List α} :
    Along step C s (a :: as) ↔ ∀ t, step s a = some t → C s a ∧ Along step C t as := by
  cases h : step s a <;> simp [Along, h]

lemma always_cons_iff {s : σ} {a : α} {as : List α} :
    Always step P s (a :: as) ↔ P s ∧ ∀ t, step s a = some t → Always step P t as := by
  cases h : step s a <;> simp [Always, h]

lemma Along.imp (hCD : ∀ s a, C s a → D s a) {s : σ} {as : List α} (h : Along step C s as) :
    Along step D s as := by
  induction as generalizing s with
  | nil => trivial
  | cons a as ih =>
    refine along_cons_iff.mpr fun t ht => ?_
    obtain ⟨hCa, hCas⟩ := along_cons_iff.mp h t ht
    exact ⟨hCD s a hCa, ih hCas⟩

lemma Along.and {s : σ} {as : List α} (hC : Along step C s as) (hD : Along step D s as) :
    Along step (fun s a => C s a ∧ D s a) s as := by
  induction as generalizing s with
  | nil => trivial
  | cons a as ih =>
    refine along_cons_iff.mpr fun t ht => ?_
    obtain ⟨hCa, hCas⟩ := along_cons_iff.mp hC t ht
    obtain ⟨hDa, hDas⟩ := along_cons_iff.mp hD t ht
    exact ⟨⟨hCa, hDa⟩, ih hCas hDas⟩

lemma Always.head {s : σ} {as : List α} (h : Always step P s as) : P s := by
  cases as with
  | nil => exact h
  | cons a as => exact h.1

/-- What always holds on a run holds at its end. -/
lemma Always.last {s t : σ} {as : List α} (h : Always step P s as)
    (hrun : exec step s as = some t) : P t := by
  induction as generalizing s with
  | nil => cases hrun; exact h
  | cons a as ih =>
    obtain ⟨u, hu, hrest⟩ := exec_cons_eq_some_iff.mp hrun
    exact ih ((always_cons_iff.mp h).2 u hu) hrest

/-! ### From one step to every run -/

variable {I : σ → Prop}

/-- An invariant that every step meeting `C` preserves holds all along a run whose steps
meet `C`. -/
theorem always_of_invariant (hstep : ∀ s a t, I s → C s a → step s a = some t → I t)
    (hP : ∀ s, I s → P s) {s : σ} {as : List α} (hs : I s) (hC : Along step C s as) :
    Always step P s as := by
  induction as generalizing s with
  | nil => exact hP s hs
  | cons a as ih =>
    refine always_cons_iff.mpr ⟨hP s hs, fun t ht => ?_⟩
    obtain ⟨hCa, hCas⟩ := along_cons_iff.mp hC t ht
    exact ih (hstep s a t hs hCa ht) hCas

/-- Under such an invariant, a run whose steps meet `C` has steps that meet `D`, if this is so for
one step. -/
theorem along_of_invariant (hstep : ∀ s a t, I s → C s a → step s a = some t → I t)
    (hD : ∀ s a t, I s → C s a → step s a = some t → D s a) {s : σ} {as : List α} (hs : I s)
    (hC : Along step C s as) : Along step D s as := by
  induction as generalizing s with
  | nil => trivial
  | cons a as ih =>
    refine along_cons_iff.mpr fun t ht => ?_
    obtain ⟨hCa, hCas⟩ := along_cons_iff.mp hC t ht
    exact ⟨hD s a t hs hCa ht, ih (hstep s a t hs hCa ht) hCas⟩

/-- When moreover a step that misses `C` breaks `P` at once, the runs on which `P` always
holds are exactly the runs whose steps all meet `C`. -/
theorem always_iff_along (hstep : ∀ s a t, I s → C s a → step s a = some t → I t)
    (hbad : ∀ s a t, I s → ¬ C s a → step s a = some t → ¬ P t)
    (hP : ∀ s, I s → P s) {s : σ} {as : List α} (hs : I s) :
    Always step P s as ↔ Along step C s as := by
  refine ⟨?_, always_of_invariant hstep hP hs⟩
  intro h
  induction as generalizing s with
  | nil => trivial
  | cons a as ih =>
    refine along_cons_iff.mpr fun t ht => ?_
    have hrest := (always_cons_iff.mp h).2 t ht
    have hCa : C s a := by
      by_contra hCa
      exact hbad s a t hs hCa ht hrest.head
    exact ⟨hCa, ih (hstep s a t hs hCa ht) hrest⟩

/-- An invariant that every step preserves holds all along every run. -/
theorem always_of_preserved (hstep : ∀ s a t, I s → step s a = some t → I t)
    (hP : ∀ s, I s → P s) {s : σ} (hs : I s) (as : List α) : Always step P s as := by
  induction as generalizing s with
  | nil => exact hP s hs
  | cons a as ih => exact always_cons_iff.mpr ⟨hP s hs, fun t ht => ih (hstep s a t hs ht)⟩

/-- Under such an invariant, all steps of all runs meet `D`, if this is so for one step. -/
theorem along_of_preserved (hstep : ∀ s a t, I s → step s a = some t → I t)
    (hD : ∀ s a t, I s → step s a = some t → D s a) {s : σ} (hs : I s) (as : List α) :
    Along step D s as := by
  induction as generalizing s with
  | nil => trivial
  | cons a as ih =>
    exact along_cons_iff.mpr fun t ht => ⟨hD s a t hs ht, ih (hstep s a t hs ht)⟩

/-- An invariant that every step preserves holds in every reachable state. -/
theorem Reachable.invariant (hstep : ∀ s a t, I s → step s a = some t → I t) {s₀ s : σ}
    (h₀ : I s₀) (h : Reachable step s₀ s) : I s := by
  obtain ⟨as, has⟩ := h
  exact (always_of_preserved hstep (fun _ h => h) h₀ as).last has

end Transition

import UsbAsio.Transition.Basic

/-!
# Runs that come to rest

A measure that some steps use up and others fill bounds the steps of the first kind by those of
the second. When every step of some kind uses it up, the steps of this kind can go on from any
state only until none of them is enabled.
-/

namespace Transition

variable {σ α : Type*} {step : σ → α → Option σ} {C : σ → α → Prop} {I : σ → Prop}

/-- No step meeting `C` is enabled. -/
def Stuck (step : σ → α → Option σ) (C : σ → α → Prop) (s : σ) : Prop :=
  ∀ a, C s a → step s a = none

/-- The sum of what the steps of a run cost. -/
def total (step : σ → α → Option σ) (cost : σ → α → ℕ) : σ → List α → ℕ
  | _, []      => 0
  | s, a :: as =>
    match step s a with
    | none   => 0
    | some t => cost s a + total step cost t as

lemma total_cons_some {cost : σ → α → ℕ} {s t : σ} {a : α} (h : step s a = some t) (as : List α) :
    total step cost s (a :: as) = cost s a + total step cost t as := by
  simp only [total, h]

lemma total_mul (k : ℕ) (cost : σ → α → ℕ) (s : σ) (as : List α) :
    total step (fun s a => k * cost s a) s as = k * total step cost s as := by
  induction as generalizing s with
  | nil => rfl
  | cons a as ih =>
    cases h : step s a with
    | none => simp [total, h]
    | some t => rw [total_cons_some h, total_cons_some h, ih, Nat.mul_add]

/-- A cost that only depends on the action. -/
lemma total_eq_sum {cost : α → ℕ} {s t : σ} {as : List α} (hrun : exec step s as = some t) :
    total step (fun _ a => cost a) s as = (as.map cost).sum := by
  induction as generalizing s with
  | nil => rfl
  | cons a as ih =>
    obtain ⟨u, hu, hrest⟩ := exec_cons_eq_some_iff.mp hrun
    rw [total_cons_some hu, ih hrest, List.map_cons, List.sum_cons]

/-- What a run spends is what it starts with and what it gains. -/
theorem total_le {measure : σ → ℕ} {spend gain : σ → α → ℕ}
    (hstep : ∀ s a t, I s → C s a → step s a = some t → I t)
    (hmeasure : ∀ s a t, I s → C s a → step s a = some t →
      measure t + spend s a ≤ measure s + gain s a)
    {s t : σ} {as : List α} (hs : I s) (hC : Along step C s as) (hrun : exec step s as = some t) :
    measure t + total step spend s as ≤ measure s + total step gain s as := by
  induction as generalizing s with
  | nil =>
    cases hrun
    exact le_rfl
  | cons a as ih =>
    obtain ⟨u, hu, hrest⟩ := exec_cons_eq_some_iff.mp hrun
    obtain ⟨hCa, hCas⟩ := along_cons_iff.mp hC u hu
    have hone := hmeasure s a u hs hCa hu
    have hmany := ih (hstep s a u hs hCa hu) hCas hrest
    rw [total_cons_some hu, total_cons_some hu]
    omega

theorem spend_le {measure : σ → ℕ} {spend gain : α → ℕ}
    (hstep : ∀ s a t, I s → C s a → step s a = some t → I t)
    (hmeasure : ∀ s a t, I s → C s a → step s a = some t →
      measure t + spend a ≤ measure s + gain a)
    {s t : σ} {as : List α} (hs : I s) (hC : Along step C s as) (hrun : exec step s as = some t) :
    measure t + (as.map spend).sum ≤ measure s + (as.map gain).sum := by
  rw [← total_eq_sum hrun, ← total_eq_sum hrun]
  exact total_le hstep hmeasure hs hC hrun

/-- When each step meeting `C` uses up some of the measure, a run of them is no longer than the
measure of the state it starts from. -/
theorem length_le_measure {measure : σ → ℕ}
    (hstep : ∀ s a t, I s → C s a → step s a = some t → I t ∧ measure t < measure s)
    {s t : σ} {as : List α} (hs : I s) (hC : Along step C s as) (hrun : exec step s as = some t) :
    I t ∧ as.length ≤ measure s := by
  have hkept : ∀ s a t, I s → C s a → step s a = some t → I t :=
    fun s a t h hCa ht => (hstep s a t h hCa ht).1
  refine ⟨(always_of_invariant hkept (fun _ h => h) hs hC).last hrun, ?_⟩
  have hspent : measure t + (as.map fun _ => 1).sum ≤ measure s + (as.map fun _ => 0).sum :=
    spend_le hkept (fun s a t h hCa ht => (hstep s a t h hCa ht).2) hs hC hrun
  simp only [List.map_const', List.sum_replicate, smul_eq_mul, mul_one, mul_zero] at hspent
  omega

/-- From every state, steps meeting `C` lead to a state in which none of them is enabled, when each
of them uses up some of the measure. -/
theorem exists_stuck {measure : σ → ℕ}
    (hstep : ∀ s a t, I s → C s a → step s a = some t → I t ∧ measure t < measure s)
    {s : σ} (hs : I s) :
    ∃ as t, exec step s as = some t ∧ Along step C s as ∧ I t ∧ Stuck step C t := by
  induction hn : measure s using Nat.strong_induction_on generalizing s with
  | h n ih =>
    by_cases hstuck : Stuck step C s
    · exact ⟨[], s, rfl, trivial, hs, hstuck⟩
    · simp only [Stuck, not_forall] at hstuck
      obtain ⟨a, hCa, hsome⟩ := hstuck
      obtain ⟨u, hu⟩ := Option.ne_none_iff_exists'.mp hsome
      obtain ⟨hIu, hlt⟩ := hstep s a u hs hCa hu
      obtain ⟨as, t, hrun, hCas, hIt, ht⟩ := ih (measure u) (hn ▸ hlt) hIu rfl
      refine ⟨a :: as, t, ?_, ?_, hIt, ht⟩
      · rw [exec_cons_some hu, hrun]
      · refine along_cons_iff.mpr fun u' hu' => ?_
        obtain rfl : u = u' := Option.some.inj (hu.symm.trans hu')
        exact ⟨hCa, hCas⟩

end Transition

import UsbAsio.Transition.Basic

/-!
# Observed runs and simulations

An observer sees some of the steps of a system as events and misses the others. A specification
is a system whose actions are these events. The system simulates into the specification when
what is seen of a step is allowed there, and it realizes the specification when what is allowed
there can be seen.
-/

namespace Transition

variable {σ τ α β : Type*}

/-- What is seen of the run of `as` from `s`. -/
def trace (step : σ → α → Option σ) (obs : σ → α → Option β) : σ → List α → List β
  | _, []      => []
  | s, a :: as =>
    match step s a with
    | none   => []
    | some t => (obs s a).toList ++ trace step obs t as

variable {step : σ → α → Option σ} {obs : σ → α → Option β} {C : σ → α → Prop}

@[simp] lemma trace_nil (s : σ) : trace step obs s [] = [] := rfl

lemma trace_cons_some {s t : σ} {a : α} (h : step s a = some t) (as : List α) :
    trace step obs s (a :: as) = (obs s a).toList ++ trace step obs t as := by
  simp only [trace, h]

lemma trace_append {s t : σ} {as : List α} (h : exec step s as = some t) (bs : List α) :
    trace step obs s (as ++ bs) = trace step obs s as ++ trace step obs t bs := by
  induction as generalizing s with
  | nil => cases h; rfl
  | cons a as ih =>
    obtain ⟨u, hu, hrest⟩ := exec_cons_eq_some_iff.mp h
    rw [List.cons_append, trace_cons_some hu, trace_cons_some hu, ih hrest, List.append_assoc]

lemma along_append {s t : σ} {as bs : List α} (h : exec step s as = some t)
    (has : Along step C s as) (hbs : Along step C t bs) : Along step C s (as ++ bs) := by
  induction as generalizing s with
  | nil => cases h; exact hbs
  | cons a as ih =>
    obtain ⟨u, hu, hrest⟩ := exec_cons_eq_some_iff.mp h
    rw [List.cons_append, along_cons_iff]
    intro t' ht'
    obtain rfl : u = t' := Option.some.inj (hu.symm.trans ht')
    obtain ⟨hCa, hCas⟩ := along_cons_iff.mp has u hu
    exact ⟨hCa, ih hrest hCas⟩

/-- Nothing is seen of a run whose steps are not seen. -/
lemma trace_of_unseen {s : σ} {as : List α} (h : Along step (fun s a => obs s a = none) s as) :
    trace step obs s as = [] := by
  induction as generalizing s with
  | nil => rfl
  | cons a as ih =>
    rw [trace]
    split
    · rfl
    · next t ht =>
      obtain ⟨ha, has⟩ := along_cons_iff.mp h t ht
      rw [ha, ih has]
      rfl

/-! ### From the system to its specification -/

/-- What is seen of a step meeting `C` from related states is allowed in the specification, and
leads to related states. -/
def Simulates (step : σ → α → Option σ) (C : σ → α → Prop) (obs : σ → α → Option β)
    (spec : τ → β → Option τ) (Rel : σ → τ → Prop) : Prop :=
  ∀ s a t u, Rel s u → C s a → step s a = some t →
    ∃ v, exec spec u (obs s a).toList = some v ∧ Rel t v

variable {spec : τ → β → Option τ} {Rel : σ → τ → Prop}

/-- What is seen of a run is a run of the specification. -/
theorem Simulates.exec_trace (h : Simulates step C obs spec Rel) {s t : σ} {u : τ} {as : List α}
    (hrel : Rel s u) (hC : Along step C s as) (hrun : exec step s as = some t) :
    ∃ v, exec spec u (trace step obs s as) = some v ∧ Rel t v := by
  induction as generalizing s u with
  | nil =>
    cases hrun
    exact ⟨u, rfl, hrel⟩
  | cons a as ih =>
    obtain ⟨s', hs', hrest⟩ := exec_cons_eq_some_iff.mp hrun
    obtain ⟨hCa, hCas⟩ := along_cons_iff.mp hC s' hs'
    obtain ⟨u', hu', hrel'⟩ := h s a s' u hrel hCa hs'
    obtain ⟨v, hv, hrelv⟩ := ih hrel' hCas hrest
    refine ⟨v, ?_, hrelv⟩
    rw [trace_cons_some hs', exec_append hu']
    exact hv

/-! ### From the specification to the system -/

/-- Some steps meeting `C` show the event `b`, and nothing else. -/
def Shows (step : σ → α → Option σ) (C : σ → α → Prop) (obs : σ → α → Option β) (s : σ)
    (bs : List β) (t : σ) : Prop :=
  ∃ as, exec step s as = some t ∧ Along step C s as ∧ trace step obs s as = bs

lemma Shows.nil (s : σ) : Shows step C obs s [] s := ⟨[], rfl, trivial, rfl⟩

lemma Shows.append {s t u : σ} {bs cs : List β} (h : Shows step C obs s bs t)
    (h' : Shows step C obs t cs u) : Shows step C obs s (bs ++ cs) u := by
  obtain ⟨as, hrun, hC, htrace⟩ := h
  obtain ⟨as', hrun', hC', htrace'⟩ := h'
  refine ⟨as ++ as', ?_, along_append hrun hC hC', ?_⟩
  · rw [exec_append hrun, hrun']
  · rw [trace_append hrun, htrace, htrace']

/-- A step on its own. -/
lemma Shows.single {s t : σ} {a : α} (hstep : step s a = some t) (hC : C s a) :
    Shows step C obs s (obs s a).toList t := by
  refine ⟨[a], ?_, ?_, ?_⟩
  · rw [exec_cons_some hstep, exec_nil]
  · refine along_cons_iff.mpr fun t' _ => ?_
    exact ⟨hC, trivial⟩
  · rw [trace_cons_some hstep, trace_nil, List.append_nil]

/-- What the specification allows can be seen. -/
def Realizes (step : σ → α → Option σ) (C : σ → α → Prop) (obs : σ → α → Option β)
    (spec : τ → β → Option τ) (Rel : σ → τ → Prop) : Prop :=
  ∀ s u b v, Rel s u → spec u b = some v → ∃ t, Shows step C obs s [b] t ∧ Rel t v

/-- Every run of the specification is what is seen of some run. -/
theorem Realizes.shows (h : Realizes step C obs spec Rel) {s : σ} {u v : τ} {bs : List β}
    (hrel : Rel s u) (hrun : exec spec u bs = some v) : ∃ t, Shows step C obs s bs t ∧ Rel t v := by
  induction bs generalizing s u with
  | nil =>
    cases hrun
    exact ⟨s, .nil s, hrel⟩
  | cons b bs ih =>
    obtain ⟨u', hu', hrest⟩ := exec_cons_eq_some_iff.mp hrun
    obtain ⟨s', hs', hrel'⟩ := h s u b u' hrel hu'
    obtain ⟨t, ht, hrelv⟩ := ih hrel' hrest
    exact ⟨t, hs'.append ht, hrelv⟩

end Transition

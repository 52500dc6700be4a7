import UsbAsio.Effects.Basic

/-!
# Programs that ignore answers

A program that throws the answers of some calls away goes the same way whatever they are. Two
machines are alike when they hold the same object and have made the same calls; from alike
machines, such a program ends alike, provided that the calls that matter are answered alike.
-/

namespace Effects

variable {κ ρ ε σ α β : Type}

/-- The same object, after the same calls. -/
structure Alike (m m' : Machine κ ρ σ) : Prop where
  object : m'.object = m.object
  calls : m'.log.map Prod.fst = m.log.map Prod.fst

/-- `answers` answers the calls of `log` as they were answered, those that are ignored excepted. -/
def Gives (ignored : κ → Bool) (answers : ℕ → ρ) : List (κ × ρ) → Prop
  | []            => True
  | (c, a) :: log => (ignored c = false → answers log.length = a) ∧ Gives ignored answers log

/-- The same value or the same exception, and machines that are alike. -/
inductive AlikeResults : EStateM.Result (Stop ε) (Machine κ ρ σ) α →
    EStateM.Result (Stop ε) (Machine κ ρ σ) α → Prop where
  | ok (a : α) {m m' : Machine κ ρ σ} (h : Alike m m') : AlikeResults (.ok a m) (.ok a m')
  | error (e : Stop ε) {m m' : Machine κ ρ σ} (h : Alike m m') :
      AlikeResults (.error e m) (.error e m')

/-- What `p` does depends on the object, and on the answers of the calls that are not ignored. -/
structure Insensitive (ignored : κ → Bool) (p : Program κ ρ ε σ α) : Prop where
  answers : ∀ m, (final (p.run m)).answers = m.answers
  log : ∀ m, m.log <:+ (final (p.run m)).log
  alike : ∀ m m', Alike m m' → Gives ignored m'.answers (final (p.run m)).log →
    AlikeResults (p.run m) (p.run m')

variable {ignored : κ → Bool} {m m' : Machine κ ρ σ}

lemma Alike.length_log (h : Alike m m') : m'.log.length = m.log.length := by
  have hlength := congrArg List.length h.calls
  rwa [List.length_map, List.length_map] at hlength

/-- Answers to a log answer what was on it earlier. -/
lemma Gives.of_suffix {answers : ℕ → ρ} {log log' : List (κ × ρ)} (h : Gives ignored answers log')
    (hsuffix : log <:+ log') : Gives ignored answers log := by
  obtain ⟨later, rfl⟩ := hsuffix
  induction later with
  | nil => exact h
  | cons e later ih => exact ih h.2

/-- The machines at the end are alike. -/
lemma AlikeResults.final {r r' : EStateM.Result (Stop ε) (Machine κ ρ σ) α}
    (h : AlikeResults r r') : Alike (final r) (final r') := by
  cases h with
  | ok a h => exact h
  | error e h => exact h

namespace Insensitive

/-! ### Rules -/

lemma pure (a : α) : Insensitive ignored (Pure.pure a : Program κ ρ ε σ α) where
  answers _ := rfl
  log _ := List.suffix_rfl
  alike _ _ h _ := .ok a h

lemma getObject : Insensitive ignored (getObject : Program κ ρ ε σ σ) where
  answers _ := rfl
  log _ := List.suffix_rfl
  alike m m' h _ := by
    simp only [run_getObject, h.object]
    exact .ok _ h

lemma modifyObject (f : σ → σ) :
    Insensitive ignored (modifyObject f : Program κ ρ ε σ Unit) where
  answers _ := rfl
  log _ := List.suffix_rfl
  alike _ _ h _ := .ok () ⟨congrArg f h.object, h.calls⟩

lemma bind {p : Program κ ρ ε σ α} {f : α → Program κ ρ ε σ β} (hp : Insensitive ignored p)
    (hf : ∀ a, Insensitive ignored (f a)) : Insensitive ignored (p >>= f) where
  answers m := by
    have hanswers := hp.answers m
    cases hrun : p.run m with
    | error e m₁ => rw [hrun] at hanswers; rw [run_bind_of_error hrun]; exact hanswers
    | ok a m₁ => rw [hrun] at hanswers; rw [run_bind_of_ok hrun, (hf a).answers]; exact hanswers
  log m := by
    have hlog := hp.log m
    cases hrun : p.run m with
    | error e m₁ => rw [hrun] at hlog; rw [run_bind_of_error hrun]; exact hlog
    | ok a m₁ => rw [hrun] at hlog; rw [run_bind_of_ok hrun]; exact hlog.trans ((hf a).log m₁)
  alike m m' h hgives := by
    have hresults := hp.alike m m' h
    have hanswers := hp.answers m'
    generalize hrun' : p.run m' = r' at hresults hanswers
    cases hrun : p.run m with
    | error e m₁ =>
      rw [run_bind_of_error hrun] at hgives ⊢
      rw [hrun] at hresults
      cases hresults hgives with
      | error _ h₁ =>
        rw [run_bind_of_error hrun']
        exact .error e h₁
    | ok a m₁ =>
      rw [run_bind_of_ok hrun] at hgives ⊢
      rw [hrun] at hresults
      -- the first part has been answered on the way
      cases hresults (hgives.of_suffix ((hf a).log m₁)) with
      | ok _ h₁ =>
        rw [run_bind_of_ok hrun']
        exact (hf a).alike _ _ h₁ (hanswers ▸ hgives)

lemma ite {c : Prop} [Decidable c] {p q : Program κ ρ ε σ α} (hp : Insensitive ignored p)
    (hq : Insensitive ignored q) : Insensitive ignored (if c then p else q) := by
  split_ifs
  · exact hp
  · exact hq

lemma noexcept {p : Program κ ρ ε σ α} (hp : Insensitive ignored p) :
    Insensitive ignored (noexcept p) where
  answers m := by
    have hanswers := hp.answers m
    cases hrun : p.run m with
    | error e m₁ => rw [hrun] at hanswers; rwa [run_noexcept_of_error hrun]
    | ok a m₁ => rw [hrun] at hanswers; rwa [run_noexcept_of_ok hrun]
  log m := by
    have hlog := hp.log m
    cases hrun : p.run m with
    | error e m₁ => rw [hrun] at hlog; rwa [run_noexcept_of_error hrun]
    | ok a m₁ => rw [hrun] at hlog; rwa [run_noexcept_of_ok hrun]
  alike m m' h hgives := by
    have hresults := hp.alike m m' h
    cases hrun : p.run m with
    | error e m₁ =>
      rw [run_noexcept_of_error hrun] at hgives ⊢
      rw [hrun] at hresults
      generalize hrun' : p.run m' = r' at hresults
      cases hresults hgives with
      | error _ h₁ =>
        rw [run_noexcept_of_error hrun']
        exact .error _ h₁
    | ok a m₁ =>
      rw [run_noexcept_of_ok hrun] at hgives ⊢
      rw [hrun] at hresults
      generalize hrun' : p.run m' = r' at hresults
      cases hresults hgives with
      | ok _ h₁ =>
        rw [run_noexcept_of_ok hrun']
        exact .ok _ h₁

/-- A call whose answer matters. -/
lemma call {c : κ} (hc : ignored c = false) :
    Insensitive ignored (call c : Program κ ρ ε σ ρ) where
  answers _ := rfl
  log _ := List.suffix_cons ..
  alike m m' h hgives := by
    have hanswer : m'.answers m'.log.length = m.answers m.log.length := by
      rw [h.length_log]
      exact hgives.1 hc
    rw [run_call, run_call, hanswer]
    refine .ok _ ⟨h.object, ?_⟩
    rw [List.map_cons, List.map_cons, h.calls]

/-- A call whose answer is thrown away. -/
lemma callIgnored (c : κ) {p : Program κ ρ ε σ α} (hp : Insensitive ignored p) :
    Insensitive ignored (Effects.call c >>= fun _ => p) where
  answers m := hp.answers _
  log m := (List.suffix_cons ..).trans
    (hp.log { m with log := (c, m.answers m.log.length) :: m.log })
  alike m m' h hgives := by
    rw [run_bind_of_ok (run_call c m)] at hgives ⊢
    rw [run_bind_of_ok (run_call c m')]
    refine hp.alike _ _ ⟨h.object, ?_⟩ hgives
    rw [List.map_cons, List.map_cons, h.calls]

end Insensitive

/-! ### One program after the other -/

/-- The machine after some programs, however they end. -/
def afterAll (m : Machine κ ρ σ) : List (Program κ ρ ε σ α) → Machine κ ρ σ
  | []      => m
  | p :: ps => afterAll (final (p.run m)) ps

variable {ps : List (Program κ ρ ε σ α)}

lemma answers_afterAll (h : ∀ p ∈ ps, Insensitive ignored p) (m : Machine κ ρ σ) :
    (afterAll m ps).answers = m.answers := by
  induction ps generalizing m with
  | nil => rfl
  | cons p ps ih =>
    rw [afterAll, ih fun q hq => h q (List.mem_cons_of_mem p hq)]
    exact (h p List.mem_cons_self).answers m

lemma log_afterAll (h : ∀ p ∈ ps, Insensitive ignored p) (m : Machine κ ρ σ) :
    m.log <:+ (afterAll m ps).log := by
  induction ps generalizing m with
  | nil => exact List.suffix_rfl
  | cons p ps ih =>
    have hlog := (h p List.mem_cons_self).log m
    exact hlog.trans (ih (fun q hq => h q (List.mem_cons_of_mem p hq)) _)

lemma Alike.afterAll (h : ∀ p ∈ ps, Insensitive ignored p) (hm : Alike m m')
    (hgives : Gives ignored m'.answers (afterAll m ps).log) :
    Alike (afterAll m ps) (afterAll m' ps) := by
  induction ps generalizing m m' with
  | nil => exact hm
  | cons p ps ih =>
    have hp := h p List.mem_cons_self
    have hps := fun q hq => h q (List.mem_cons_of_mem p hq)
    have hfirst := hp.alike m m' hm (hgives.of_suffix (log_afterAll hps _))
    exact ih hps hfirst.final (by rw [hp.answers]; exact hgives)

end Effects

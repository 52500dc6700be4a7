import Mathlib.Tactic

/-!
# Loops

A loop is given by what one turn of it does: it changes the state and goes round again, or leaves
the loop with a result. Such a loop need not end, so it is run with a bound on the number of turns;
that it ends at all is shown with a variant, that it ends well with an invariant.
-/

namespace Loop

/-- What a turn leads to. -/
inductive Turn (σ β : Type*) where
  | again (s : σ)
  | exit (b : β)

variable {σ β : Type*}

/-- Run a loop for at most `fuel` turns. -/
def run (body : σ → Turn σ β) : ℕ → σ → Option β
  | 0, _        => none
  | fuel + 1, s =>
    match body s with
    | .again t => run body fuel t
    | .exit b  => some b

/-- The loop that begins in `s` is left with `b`, some time. -/
def Ends (body : σ → Turn σ β) (s : σ) (b : β) : Prop := ∃ fuel, run body fuel s = some b

variable {body : σ → Turn σ β} {s t : σ} {b c : β}

lemma run_succ_of_again (h : body s = .again t) (fuel : ℕ) :
    run body (fuel + 1) s = run body fuel t := by
  simp only [run, h]

lemma run_succ_of_exit (h : body s = .exit b) (fuel : ℕ) : run body (fuel + 1) s = some b := by
  simp only [run, h]

/-- More turns do no harm. -/
lemma run_add {fuel : ℕ} (h : run body fuel s = some b) (more : ℕ) :
    run body (fuel + more) s = some b := by
  induction fuel generalizing s with
  | zero => cases h
  | succ fuel ih =>
    rw [Nat.succ_add]
    cases hbody : body s with
    | again t =>
      rw [run_succ_of_again hbody] at h ⊢
      exact ih h
    | exit b' =>
      rw [run_succ_of_exit hbody] at h ⊢
      exact h

/-- A loop has one result at most. -/
lemma Ends.unique (hb : Ends body s b) (hc : Ends body s c) : b = c := by
  obtain ⟨n, hn⟩ := hb
  obtain ⟨k, hk⟩ := hc
  have hnk := run_add hn k
  rw [Nat.add_comm, run_add hk n] at hnk
  exact (Option.some.inj hnk).symm

lemma ends_of_exit (h : body s = .exit b) : Ends body s b := ⟨1, run_succ_of_exit h 0⟩

lemma Ends.of_again (h : body s = .again t) (ht : Ends body t b) : Ends body s b := by
  obtain ⟨fuel, hfuel⟩ := ht
  exact ⟨fuel + 1, (run_succ_of_again h fuel).trans hfuel⟩

/-- The rule for loops: every turn keeps the invariant `I` and makes the variant smaller, or
leaves the loop with a result in `Q`. -/
theorem exists_ends {I : σ → Prop} {Q : β → Prop} (variant : σ → ℕ)
    (hagain : ∀ s t, I s → body s = .again t → I t ∧ variant t < variant s)
    (hexit : ∀ s b, I s → body s = .exit b → Q b) (hs : I s) : ∃ b, Ends body s b ∧ Q b := by
  induction hn : variant s using Nat.strong_induction_on generalizing s with
  | _ n ih =>
    subst hn
    cases hbody : body s with
    | again t =>
      obtain ⟨ht, hlt⟩ := hagain s t hs hbody
      obtain ⟨b, hends, hb⟩ := ih (variant t) hlt ht rfl
      exact ⟨b, hends.of_again hbody, hb⟩
    | exit b => exact ⟨b, ends_of_exit hbody, hexit s b hs hbody⟩

/-- The rule for a known number of turns: `s` is the state before each of them. -/
theorem ends_of_turns {s : ℕ → σ} {n : ℕ} (hagain : ∀ i < n, body (s i) = .again (s (i + 1)))
    (hexit : body (s n) = .exit b) : Ends body (s 0) b := by
  induction n generalizing s with
  | zero => exact ends_of_exit hexit
  | succ n ih =>
    refine Ends.of_again (hagain 0 n.succ_pos) ?_
    exact ih (s := fun i => s (i + 1)) (fun i hi => hagain (i + 1) (Nat.succ_lt_succ hi)) hexit

end Loop

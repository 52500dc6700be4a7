import UsbAsio.Effects.Embedding
import UsbAsio.Effects.Unwinding

/-!
# Preconditions and postconditions

Hoare triples for programs with exceptions: what holds when a program returns, and what holds when
it is stopped, with a rule for each way to put programs together.
-/

namespace Effects

open Std.Do

variable {κ ρ ε σ α β : Type}

/-- From a machine in `P`, the program returns as `Q` says, or is stopped as `E` says. -/
abbrev Ensures (P : Machine κ ρ σ → Prop) (p : Program κ ρ ε σ α)
    (Q : α → Machine κ ρ σ → Prop) (E : Stop ε → Machine κ ρ σ → Prop) : Prop :=
  ⦃fun m => ⌜P m⌝⦄ p ⦃(fun a m => ⌜Q a m⌝, fun s m => ⌜E s m⌝, ⟨⟩)⦄

/-- What is said of the end of a run. -/
def Meets (Q : α → Machine κ ρ σ → Prop) (E : Stop ε → Machine κ ρ σ → Prop) :
    EStateM.Result (Stop ε) (Machine κ ρ σ) α → Prop
  | .ok a m    => Q a m
  | .error s m => E s m

variable {P P' : Machine κ ρ σ → Prop} {p : Program κ ρ ε σ α} {Q Q' : α → Machine κ ρ σ → Prop}
  {E E' : Stop ε → Machine κ ρ σ → Prop}

lemma ensures_iff : Ensures P p Q E ↔ ∀ m, P m → Meets Q E (p.run m) := by
  refine forall_congr' fun m => imp_congr Iff.rfl ?_
  simp only [WP.wp, PredTrans.apply]
  cases p.run m <;> rfl

lemma Meets.mono {r : EStateM.Result (Stop ε) (Machine κ ρ σ) α} (h : Meets Q E r)
    (hQ : ∀ a m, Q a m → Q' a m) (hE : ∀ s m, E s m → E' s m) : Meets Q' E' r := by
  cases r with
  | ok a m => exact hQ a m h
  | error s m => exact hE s m h

namespace Ensures

lemma mono (h : Ensures P' p Q' E') (hP : ∀ m, P m → P' m) (hQ : ∀ a m, Q' a m → Q a m)
    (hE : ∀ s m, E' s m → E s m) : Ensures P p Q E :=
  ensures_iff.mpr fun m hm => (ensures_iff.mp h m (hP m hm)).mono hQ hE

lemma pre (h : Ensures P' p Q E) (hP : ∀ m, P m → P' m) : Ensures P p Q E :=
  h.mono hP (fun _ _ => id) (fun _ _ => id)

lemma and (h : Ensures P p Q E) (h' : Ensures P' p Q' E') :
    Ensures (fun m => P m ∧ P' m) p (fun a m => Q a m ∧ Q' a m) fun s m => E s m ∧ E' s m := by
  refine ensures_iff.mpr fun m ⟨hm, hm'⟩ => ?_
  have hrun := ensures_iff.mp h m hm
  have hrun' := ensures_iff.mp h' m hm'
  generalize p.run m = r at hrun hrun' ⊢
  cases r with
  | ok a m' => exact ⟨hrun, hrun'⟩
  | error s m' => exact ⟨hrun, hrun'⟩

lemma or (h : Ensures P p Q E) (h' : Ensures P' p Q' E') :
    Ensures (fun m => P m ∨ P' m) p (fun a m => Q a m ∨ Q' a m) fun s m => E s m ∨ E' s m :=
  ensures_iff.mpr fun m hm => hm.elim
    (fun hm => (ensures_iff.mp h m hm).mono (fun _ _ => .inl) fun _ _ => .inl)
    (fun hm => (ensures_iff.mp h' m hm).mono (fun _ _ => .inr) fun _ _ => .inr)

/-- A program that does not fail, where something that it keeps may be true instead. -/
lemma or_invariant {R : Machine κ ρ σ → Prop} (h : Ensures P p Q fun _ _ => False)
    (hR : Ensures R p (fun _ => R) fun _ => R) (hE : ∀ s m, R m → E s m) :
    Ensures (fun m => P m ∨ R m) p (fun a m => Q a m ∨ R m) E :=
  (h.or hR).mono (fun _ => id) (fun _ _ => id) fun s m hm => hE s m (hm.resolve_left id)

lemma of_exists {ι : Type} {P : ι → Machine κ ρ σ → Prop} (h : ∀ i, Ensures (P i) p Q E) :
    Ensures (fun m => ∃ i, P i m) p Q E :=
  ensures_iff.mpr fun m ⟨i, hm⟩ => ensures_iff.mp (h i) m hm

/-! ### The rules -/

lemma pure (a : α) (h : ∀ m, P m → Q a m) : Ensures P (Pure.pure a) Q E :=
  ensures_iff.mpr h

lemma throw (s : Stop ε) (h : ∀ m, P m → E s m) :
    Ensures P (throw s : Program κ ρ ε σ α) Q E :=
  ensures_iff.mpr h

lemma call (c : κ) {Q : ρ → Machine κ ρ σ → Prop}
    (h : ∀ m, P m → Q (m.answers m.log.length)
      { m with log := (c, m.answers m.log.length) :: m.log }) :
    Ensures P (call c : Program κ ρ ε σ ρ) Q E :=
  ensures_iff.mpr h

lemma getObject {Q : σ → Machine κ ρ σ → Prop} (h : ∀ m, P m → Q m.object m) :
    Ensures P (getObject : Program κ ρ ε σ σ) Q E :=
  ensures_iff.mpr h

lemma modifyObject (f : σ → σ) {Q : Unit → Machine κ ρ σ → Prop}
    (h : ∀ m, P m → Q () { m with object := f m.object }) :
    Ensures P (modifyObject f : Program κ ρ ε σ Unit) Q E :=
  ensures_iff.mpr h

lemma bind {f : α → Program κ ρ ε σ β} {R : β → Machine κ ρ σ → Prop}
    (hp : Ensures P p Q E) (hf : ∀ a, Ensures (Q a) (f a) R E) : Ensures P (p >>= f) R E :=
  Triple.bind p f hp hf

lemma ite {c : Prop} [Decidable c] {q : Program κ ρ ε σ α}
    (hp : c → Ensures P p Q E) (hq : ¬ c → Ensures P q Q E) :
    Ensures P (if c then p else q) Q E := by
  split_ifs with h
  · exact hp h
  · exact hq h

/-- Whatever is true of every round of a loop. -/
lemma forM {l : List β} {f : β → Program κ ρ ε σ PUnit}
    (h : ∀ b ∈ l, Ensures P (f b) (fun _ => P) E) :
    Ensures P (forM l f) (fun _ => P) E := by
  induction l with
  | nil => exact pure PUnit.unit fun _ => id
  | cons b l ih =>
    obtain ⟨hb, hl⟩ := List.forall_mem_cons.mp h
    rw [List.forM_cons]
    exact hb.bind fun _ => ih hl

/-- An exception becomes a termination. -/
lemma noexcept (h : Ensures P p Q fun _ => E .terminated) : Ensures P (noexcept p) Q E := by
  refine ensures_iff.mpr fun m hm => ?_
  have hrun := ensures_iff.mp h m hm
  generalize hr : p.run m = r at hrun
  cases r with
  | ok a m' =>
    rw [run_noexcept_of_ok hr]
    exact hrun
  | error s m' =>
    rw [run_noexcept_of_error hr]
    exact hrun

/-- The cleanup finds what the exceptions of `p` leave. -/
lemma onUnwind {cleanup : Program κ ρ ε σ Unit} {D : Stop ε → Machine κ ρ σ → Prop}
    (hp : Ensures P p Q D)
    (hcleanup : ∀ e, Ensures (D (.thrown e)) cleanup (fun _ => E (.thrown e))
      fun _ => E .terminated)
    (hterminated : ∀ m, D .terminated m → E .terminated m) :
    Ensures P (onUnwind cleanup p) Q E := by
  refine ensures_iff.mpr fun m hm => ?_
  have hrun := ensures_iff.mp hp m hm
  generalize hr : p.run m = r at hrun
  cases r with
  | ok a m' =>
    rw [run_onUnwind_of_ok hr]
    exact hrun
  | error s m' =>
    cases s with
    | thrown e =>
      have hrethrow : Ensures (D (.thrown e))
          (Effects.noexcept cleanup >>= fun _ => MonadExcept.throw (.thrown e)) Q E :=
        (noexcept (E := E) (hcleanup e)).bind fun _ => throw _ fun _ => id
      have hmeets := ensures_iff.mp hrethrow m' hrun
      simp only [Effects.onUnwind, EStateM.run] at hr hmeets ⊢
      rw [hr]
      exact hmeets
    | terminated =>
      have hend : (Effects.onUnwind cleanup p).run m = .error .terminated m' := by
        simp only [Effects.onUnwind, EStateM.run] at hr ⊢
        rw [hr]
      rw [hend]
      exact hterminated m' hrun

/-- The cleanup is run on either way out. -/
lemma withCleanup {cleanup : Program κ ρ ε σ Unit} {R : α → Machine κ ρ σ → Prop}
    {D : Stop ε → Machine κ ρ σ → Prop} (hp : Ensures P p R D)
    (hreturn : ∀ a, Ensures (R a) cleanup (fun _ => Q a) fun _ => E .terminated)
    (hcleanup : ∀ e, Ensures (D (.thrown e)) cleanup (fun _ => E (.thrown e))
      fun _ => E .terminated)
    (hterminated : ∀ m, D .terminated m → E .terminated m) :
    Ensures P (withCleanup cleanup p) Q E :=
  (onUnwind hp hcleanup hterminated).bind fun a =>
    (noexcept (E := E) (hreturn a)).bind fun _ => pure a fun _ => id

/-! ### Programs inside larger ones -/

lemma within {κ' ρ' ε' τ : Type} {e : Embedding κ ρ ε κ' ρ' ε'} {part : Part τ σ}
    {P : Machine κ' ρ' τ → Prop} {Q : α → Machine κ' ρ' τ → Prop}
    {E : Stop ε' → Machine κ' ρ' τ → Prop}
    (h : ∀ m, P m → Meets (fun a m' => Q a (e.widen part m m'))
      (fun s m' => E (s.map e.raise) (e.widen part m m')) (p.run (e.narrow part m))) :
    Ensures P (e.within part p) Q E := by
  refine ensures_iff.mpr fun m hm => ?_
  have hrun := h m hm
  generalize hr : p.run (e.narrow part m) = r at hrun
  simp only [EStateM.run, Embedding.within] at hr ⊢
  rw [hr]
  cases r with
  | ok a m' => exact hrun
  | error s m' => exact hrun

end Ensures

end Effects

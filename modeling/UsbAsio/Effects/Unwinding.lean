import UsbAsio.Effects.Basic

/-!
# Scopes

Objects whose lifetime is a part of a program: a cleanup that an exception runs on its way out, and
one that runs in any case.
-/

namespace Effects

variable {κ ρ ε σ α : Type}

/-- If an exception leaves `p`, the cleanup runs first. It must not throw itself. -/
def onUnwind (cleanup : Program κ ρ ε σ Unit) (p : Program κ ρ ε σ α) : Program κ ρ ε σ α :=
  fun m => match p.run m with
    | .ok a m               => .ok a m
    | .error (.thrown e) m  => (noexcept cleanup >>= fun _ => throw (.thrown e)).run m
    | .error .terminated m  => .error .terminated m

/-- The cleanup runs when `p` is left, also by an exception. -/
def withCleanup (cleanup : Program κ ρ ε σ Unit) (p : Program κ ρ ε σ α) : Program κ ρ ε σ α := do
  let a ← onUnwind cleanup p
  noexcept cleanup
  return a

variable {cleanup : Program κ ρ ε σ Unit} {p : Program κ ρ ε σ α} {m m₁ m₂ : Machine κ ρ σ}
  {a : α} {e : ε}

lemma run_onUnwind_of_ok (h : p.run m = .ok a m₁) :
    (onUnwind cleanup p).run m = .ok a m₁ := by
  simp only [onUnwind, EStateM.run] at h ⊢
  rw [h]

lemma run_onUnwind_of_thrown (h : p.run m = .error (.thrown e) m₁)
    (hcleanup : cleanup.run m₁ = .ok () m₂) :
    (onUnwind cleanup p).run m = .error (.thrown e) m₂ := by
  have hthrow : (noexcept cleanup >>= fun _ => throw (.thrown e) : Program κ ρ ε σ α).run m₁ =
      .error (.thrown e) m₂ := run_bind_of_ok (run_noexcept_of_ok hcleanup)
  simp only [onUnwind, EStateM.run] at h hthrow ⊢
  rw [h]
  exact hthrow

lemma run_withCleanup_of_ok (h : p.run m = .ok a m₁) (hcleanup : cleanup.run m₁ = .ok () m₂) :
    (withCleanup cleanup p).run m = .ok a m₂ := by
  rw [withCleanup, run_bind_of_ok (run_onUnwind_of_ok h),
    run_bind_of_ok (run_noexcept_of_ok hcleanup)]
  rfl

lemma run_withCleanup_of_thrown (h : p.run m = .error (.thrown e) m₁)
    (hcleanup : cleanup.run m₁ = .ok () m₂) :
    (withCleanup cleanup p).run m = .error (.thrown e) m₂ :=
  run_bind_of_error (run_onUnwind_of_thrown h hcleanup)

end Effects

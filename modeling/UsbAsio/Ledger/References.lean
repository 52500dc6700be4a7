import UsbAsio.Ledger.Basic

/-!
# References that are left

Ledgers of counted references together with the references that have not been given back.
-/

namespace Ledger

variable {ρ : Type*} [DecidableEq ρ]

/-- Every use is of something to which a reference is left. -/
def Covered : List (Event ρ) → Prop
  | []                => True
  | .acquire _ :: log => Covered log
  | .release _ :: log => Covered log
  | .use r :: log     => log.count (.release r) < log.count (.acquire r) ∧ Covered log

/-- The log is in order, and it leaves the references `rs`. -/
structure Lent (log : List (Event ρ)) (rs : List ρ) : Prop where
  solvent : Solvent log
  covered : Covered log
  counted : ∀ r, log.count (.acquire r) = log.count (.release r) + rs.count r

variable {log : List (Event ρ)} {r : ρ} {rs : List ρ}

lemma Lent.lt_of_mem (h : Lent log rs) (hr : r ∈ rs) :
    log.count (.release r) < log.count (.acquire r) := by
  have hcount : 0 < rs.count r := List.count_pos_iff.mpr hr
  have hlog := h.counted r
  omega

lemma Lent.use (h : Lent log rs) (hr : r ∈ rs) : Lent (.use r :: log) rs := by
  refine ⟨h.solvent, ⟨h.lt_of_mem hr, h.covered⟩, fun q => ?_⟩
  have hacquire : Event.use r ≠ .acquire q := fun heq => by cases heq
  have hrelease : Event.use r ≠ .release q := fun heq => by cases heq
  rw [List.count_cons_of_ne hacquire, List.count_cons_of_ne hrelease, h.counted]

lemma Lent.release (h : Lent log (r :: rs)) : Lent (.release r :: log) rs := by
  refine ⟨⟨h.lt_of_mem List.mem_cons_self, h.solvent⟩, h.covered, fun q => ?_⟩
  have hq := h.counted q
  rw [List.count_cons] at hq
  rw [count_acquire_release, count_release_release, hq]
  simp only [beq_iff_eq]
  omega

/-- Without a use, it is enough to count. -/
lemma covered_of_forall (h : ∀ r, .use r ∉ log) : Covered log := by
  induction log with
  | nil => trivial
  | cons e log ih =>
    have hlog := ih fun r hr => h r (List.mem_cons_of_mem e hr)
    cases e with
    | acquire q => exact hlog
    | release q => exact hlog
    | use q => exact absurd List.mem_cons_self (h q)

end Ledger

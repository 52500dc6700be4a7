import Mathlib.Tactic

/-!
# Ledgers of resources

A log of the resources that have been acquired, released, or named by a call that changed
nothing, latest entry first. `held` is what has been acquired and not released since; a log is
`Legal` when every release, and every other use, names a resource that was held at the time, and
`Fresh` when no acquisition does.

Where one resource can be acquired several times over, what counts is the number of times it was
acquired and released: such a log is `Solvent` when nothing is released more often than it was
acquired.
-/

namespace Ledger

variable {ρ : Type*} [DecidableEq ρ]

inductive Event (ρ : Type*) where
  | acquire (r : ρ)
  | release (r : ρ)
  | use (r : ρ)
  deriving DecidableEq

def held : List (Event ρ) → Finset ρ
  | []                => ∅
  | .acquire r :: log => insert r (held log)
  | .release r :: log => (held log).erase r
  | .use _ :: log     => held log

def Legal : List (Event ρ) → Prop
  | []                => True
  | .acquire _ :: log => Legal log
  | .release r :: log => r ∈ held log ∧ Legal log
  | .use r :: log     => r ∈ held log ∧ Legal log

/-- Nothing is acquired while it is held. -/
def Fresh : List (Event ρ) → Prop
  | []                => True
  | .acquire r :: log => r ∉ held log ∧ Fresh log
  | .release _ :: log => Fresh log
  | .use _ :: log     => Fresh log

variable {log : List (Event ρ)} {r : ρ}

@[simp] lemma held_nil : held ([] : List (Event ρ)) = ∅ := rfl

@[simp] lemma held_acquire : held (.acquire r :: log) = insert r (held log) := rfl

@[simp] lemma held_release : held (.release r :: log) = (held log).erase r := rfl

@[simp] lemma held_use : held (.use r :: log) = held log := rfl

/-- A release of something that is not held stays on the books. -/
lemma not_legal_release (h : r ∉ held log) : ¬ Legal (.release r :: log) :=
  fun hlegal => h hlegal.1

lemma not_legal_use (h : r ∉ held log) : ¬ Legal (.use r :: log) :=
  fun hlegal => h hlegal.1

/-- What has been wrong stays so. -/
lemma Legal.of_append {es : List (Event ρ)} (h : Legal (es ++ log)) : Legal log := by
  induction es with
  | nil => exact h
  | cons e es ih =>
    cases e with
    | acquire q => exact ih h
    | release q => exact ih h.2
    | use q => exact ih h.2

@[simp] lemma held_uses (rs : List ρ) (log : List (Event ρ)) :
    held (rs.map .use ++ log) = held log := by
  induction rs with
  | nil => rfl
  | cons r rs ih => exact ih

lemma legal_uses_iff (rs : List ρ) (log : List (Event ρ)) :
    Legal (rs.map .use ++ log) ↔ (∀ r ∈ rs, r ∈ held log) ∧ Legal log := by
  induction rs with
  | nil => simp
  | cons r rs ih =>
    have hcons : Legal ((r :: rs).map .use ++ log) ↔
        r ∈ held (rs.map .use ++ log) ∧ Legal (rs.map .use ++ log) := Iff.rfl
    rw [hcons, held_uses, ih, List.forall_mem_cons, and_assoc]

/-- What has been acquired has been released once, unless it is still held. -/
lemma count_acquire (hlegal : Legal log) (hfresh : Fresh log) (r : ρ) :
    log.count (.acquire r) = log.count (.release r) + if r ∈ held log then 1 else 0 := by
  induction log with
  | nil => rfl
  | cons e log ih =>
    cases e with
    | acquire q =>
      have hrest := ih hlegal hfresh.2
      by_cases hq : q = r
      · have hnot : r ∉ held log := hq ▸ hfresh.1
        simp [hq, hrest, hnot]
      · have hq' : r ≠ q := Ne.symm hq
        simp [hq, hq', hrest]
    | release q =>
      have hrest := ih hlegal.2 hfresh
      by_cases hq : q = r
      · have hin : r ∈ held log := hq ▸ hlegal.1
        simp [hq, hrest, hin]
      · have hq' : r ≠ q := Ne.symm hq
        simp [hq, hq', hrest]
    | use q =>
      have hacquire : Event.use q ≠ .acquire r := nofun
      have hrelease : Event.use q ≠ .release r := nofun
      rw [List.count_cons_of_ne hacquire, List.count_cons_of_ne hrelease]
      exact ih hlegal.2 hfresh

/-! ### Counted references -/

def Solvent : List (Event ρ) → Prop
  | []                => True
  | .acquire _ :: log => Solvent log
  | .release r :: log => log.count (.release r) < log.count (.acquire r) ∧ Solvent log
  | .use _ :: log     => Solvent log

lemma count_acquire_acquire (q r : ρ) : (Event.acquire q :: log).count (.acquire r) =
    log.count (.acquire r) + if q = r then 1 else 0 := by
  simp [List.count_cons]

lemma count_release_acquire (q r : ρ) :
    (Event.acquire q :: log).count (.release r) = log.count (.release r) := by
  have hne : Event.acquire q ≠ .release r := nofun
  exact List.count_cons_of_ne hne

lemma count_release_release (q r : ρ) : (Event.release q :: log).count (.release r) =
    log.count (.release r) + if q = r then 1 else 0 := by
  simp [List.count_cons]

lemma count_acquire_release (q r : ρ) :
    (Event.release q :: log).count (.acquire r) = log.count (.acquire r) := by
  have hne : Event.release q ≠ .acquire r := nofun
  exact List.count_cons_of_ne hne

/-! ### Several references at once -/

lemma count_acquire_acquires (rs : List ρ) (log : List (Event ρ)) (r : ρ) :
    (rs.map Event.acquire ++ log).count (.acquire r) = rs.count r + log.count (.acquire r) := by
  have hinjective : Function.Injective (Event.acquire : ρ → Event ρ) := fun _ _ h => by cases h; rfl
  rw [List.count_append, List.count_map_of_injective _ _ hinjective]

lemma count_release_acquires (rs : List ρ) (log : List (Event ρ)) (r : ρ) :
    (rs.map Event.acquire ++ log).count (.release r) = log.count (.release r) := by
  rw [List.count_append, List.count_eq_zero_of_not_mem (by simp), zero_add]

lemma count_release_releases (rs : List ρ) (log : List (Event ρ)) (r : ρ) :
    (rs.map Event.release ++ log).count (.release r) = rs.count r + log.count (.release r) := by
  have hinjective : Function.Injective (Event.release : ρ → Event ρ) := fun _ _ h => by cases h; rfl
  rw [List.count_append, List.count_map_of_injective _ _ hinjective]

lemma count_acquire_releases (rs : List ρ) (log : List (Event ρ)) (r : ρ) :
    (rs.map Event.release ++ log).count (.acquire r) = log.count (.acquire r) := by
  rw [List.count_append, List.count_eq_zero_of_not_mem (by simp), zero_add]

lemma solvent_acquires (rs : List ρ) (h : Solvent log) : Solvent (rs.map .acquire ++ log) := by
  induction rs with
  | nil => exact h
  | cons r rs ih => exact ih

/-- What has been acquired often enough can be released. -/
lemma solvent_releases (rs : List ρ) (h : Solvent log)
    (hrs : ∀ r, log.count (.release r) + rs.count r ≤ log.count (.acquire r)) :
    Solvent (rs.map .release ++ log) := by
  induction rs with
  | nil => exact h
  | cons q rs ih =>
    have hlt : (rs.map Event.release ++ log).count (.release q) <
        (rs.map Event.release ++ log).count (.acquire q) := by
      have hq := hrs q
      rw [List.count_cons_self] at hq
      rw [count_release_releases, count_acquire_releases]
      omega
    refine ⟨hlt, ih fun r => ?_⟩
    have hr := hrs r
    rw [List.count_cons] at hr
    omega

/-- References are borrowed and given back, while others are taken and kept. -/
def borrow (borrowed kept : List ρ) : List (Event ρ) :=
  borrowed.map .release ++ (kept.map .acquire ++ borrowed.map .acquire)

lemma solvent_borrow (borrowed kept : List ρ) : Solvent (borrow borrowed kept) := by
  have hborrowed : Solvent (borrowed.map Event.acquire) := by
    have hnil : Solvent (borrowed.map Event.acquire ++ []) := solvent_acquires borrowed trivial
    rwa [List.append_nil] at hnil
  refine solvent_releases _ (solvent_acquires _ hborrowed) fun r => ?_
  have hacquired := count_acquire_acquires borrowed [] r
  have hreleased := count_release_acquires borrowed [] r
  rw [List.append_nil, List.count_nil] at hacquired hreleased
  rw [count_release_acquires, count_acquire_acquires, hacquired, hreleased]
  omega

lemma count_acquire_borrow (borrowed kept : List ρ) (r : ρ) :
    (borrow borrowed kept).count (.acquire r) =
      (borrow borrowed kept).count (.release r) + kept.count r := by
  have hacquired := count_acquire_acquires borrowed [] r
  have hreleased := count_release_acquires borrowed [] r
  rw [List.append_nil, List.count_nil] at hacquired hreleased
  rw [borrow, count_acquire_releases, count_acquire_acquires, hacquired, count_release_releases,
    count_release_acquires, hreleased]
  omega

end Ledger

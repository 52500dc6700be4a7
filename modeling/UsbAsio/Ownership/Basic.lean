import Mathlib.Combinatorics.Enumerative.DoubleCounting
import Mathlib.Tactic

/-!
# Objects that hold resources

Finitely many live objects, each of which holds at most one resource. `Owns` says that the
resources in use are exactly those the live objects hold, and that no two objects hold the
same one; `tally` counts the live objects with a given label.

Both come with one rule for each way a population of objects changes: an object is created or
destroyed, takes a resource, gives one up, or hands one over to another object.
-/

namespace Ownership

variable {ι ρ κ : Type*}

/-! ### Ownership -/

/-- The resources `res` in use and the objects that hold them. -/
structure Owns (live : Finset ι) (holds : ι → Option ρ) (res : Finset ρ) : Prop where
  mem : ∀ i ∈ live, ∀ r, holds i = some r → r ∈ res
  unique : ∀ i ∈ live, ∀ j ∈ live, ∀ r, holds i = some r → holds j = some r → i = j
  held : ∀ r ∈ res, ∃ i ∈ live, holds i = some r

variable {live : Finset ι} {holds : ι → Option ρ} {res : Finset ρ} {i j : ι} {r : ρ}

lemma owns_empty (holds : ι → Option ρ) : Owns ∅ holds (∅ : Finset ρ) :=
  ⟨fun _ h => by simp at h, fun _ h => by simp at h, fun _ h => by simp at h⟩

/-- A resource in use is held by exactly one object. -/
lemma Owns.existsUnique (h : Owns live holds res) (hr : r ∈ res) :
    ∃! i, i ∈ live ∧ holds i = some r := by
  obtain ⟨i, hi, hholds⟩ := h.held r hr
  exact ⟨i, ⟨hi, hholds⟩, fun j hj => h.unique j hj.1 i hi r hj.2 hholds⟩

/-- Only the live objects matter. -/
lemma Owns.congr {holds' : ι → Option ρ} (h : Owns live holds res)
    (heq : ∀ i ∈ live, holds' i = holds i) : Owns live holds' res := by
  constructor
  · intro i hi r hr
    exact h.mem i hi r (heq i hi ▸ hr)
  · intro i hi j hj r hir hjr
    exact h.unique i hi j hj r (heq i hi ▸ hir) (heq j hj ▸ hjr)
  · intro r hr
    obtain ⟨i, hi, hir⟩ := h.held r hr
    exact ⟨i, hi, (heq i hi).trans hir⟩

variable [DecidableEq ι]

/-- A new object holds nothing. -/
lemma Owns.create (h : Owns live holds res) (hi : i ∉ live) :
    Owns (insert i live) (Function.update holds i none) res := by
  have hmem : ∀ k ∈ insert i live, ∀ r, Function.update holds i none k = some r →
      k ∈ live ∧ holds k = some r := by
    intro k hk r hr
    by_cases hki : k = i
    · simp [hki] at hr
    · rw [Function.update_of_ne hki] at hr
      exact ⟨Finset.mem_of_mem_insert_of_ne hk hki, hr⟩
  constructor
  · intro k hk r hr
    obtain ⟨hk, hr⟩ := hmem k hk r hr
    exact h.mem k hk r hr
  · intro k hk k' hk' r hr hr'
    obtain ⟨hk, hr⟩ := hmem k hk r hr
    obtain ⟨hk', hr'⟩ := hmem k' hk' r hr'
    exact h.unique k hk k' hk' r hr hr'
  · intro r hr
    obtain ⟨k, hk, hholds⟩ := h.held r hr
    have hki : k ≠ i := by
      rintro rfl
      exact hi hk
    exact ⟨k, Finset.mem_insert_of_mem hk, by rw [Function.update_of_ne hki, hholds]⟩

/-- An object that holds nothing can be destroyed. -/
lemma Owns.destroy (h : Owns live holds res) (hi : holds i = none) :
    Owns (live.erase i) holds res := by
  constructor
  · intro k hk
    exact h.mem k (Finset.mem_of_mem_erase hk)
  · intro k hk k' hk'
    exact h.unique k (Finset.mem_of_mem_erase hk) k' (Finset.mem_of_mem_erase hk')
  · intro r hr
    obtain ⟨k, hk, hholds⟩ := h.held r hr
    have hki : k ≠ i := by
      rintro rfl
      simp [hi] at hholds
    exact ⟨k, Finset.mem_erase.mpr ⟨hki, hk⟩, hholds⟩

variable [DecidableEq ρ]

/-- An object takes a resource that nobody has. -/
lemma Owns.take (h : Owns live holds res) (hi : i ∈ live) (hnone : holds i = none)
    (hr : r ∉ res) : Owns live (Function.update holds i (some r)) (insert r res) := by
  constructor
  · intro k hk r' hr'
    by_cases hki : k = i
    · rw [hki, Function.update_self, Option.some.injEq] at hr'
      exact hr' ▸ Finset.mem_insert_self _ _
    · rw [Function.update_of_ne hki] at hr'
      exact Finset.mem_insert_of_mem (h.mem k hk r' hr')
  · intro k hk k' hk' r' hr' hr''
    by_cases hki : k = i <;> by_cases hki' : k' = i
    · rw [hki, hki']
    · -- the old holder would have `r` in use already
      rw [hki, Function.update_self, Option.some.injEq] at hr'
      rw [Function.update_of_ne hki'] at hr''
      exact absurd (hr' ▸ h.mem k' hk' r' hr'') hr
    · rw [hki', Function.update_self, Option.some.injEq] at hr''
      rw [Function.update_of_ne hki] at hr'
      exact absurd (hr'' ▸ h.mem k hk r' hr') hr
    · rw [Function.update_of_ne hki] at hr'
      rw [Function.update_of_ne hki'] at hr''
      exact h.unique k hk k' hk' r' hr' hr''
  · intro r' hr'
    rcases Finset.mem_insert.mp hr' with rfl | hold
    · exact ⟨i, hi, Function.update_self ..⟩
    · obtain ⟨k, hk, hholds⟩ := h.held r' hold
      have hki : k ≠ i := by
        rintro rfl
        simp [hnone] at hholds
      exact ⟨k, hk, by rw [Function.update_of_ne hki, hholds]⟩

/-- An object gives up what it holds. -/
lemma Owns.drop (h : Owns live holds res) (hi : i ∈ live) (hr : holds i = some r) :
    Owns live (Function.update holds i none) (res.erase r) := by
  have hmem : ∀ k r', Function.update holds i none k = some r' → k ≠ i ∧ holds k = some r' := by
    intro k r' hr'
    by_cases hki : k = i
    · simp [hki] at hr'
    · exact ⟨hki, by rwa [Function.update_of_ne hki] at hr'⟩
  constructor
  · intro k hk r' hr'
    obtain ⟨hki, hr'⟩ := hmem k r' hr'
    refine Finset.mem_erase.mpr ⟨?_, h.mem k hk r' hr'⟩
    rintro rfl
    exact hki (h.unique k hk i hi _ hr' hr)
  · intro k hk k' hk' r' hr' hr''
    exact h.unique k hk k' hk' r' (hmem k r' hr').2 (hmem k' r' hr'').2
  · intro r' hr'
    obtain ⟨hne, hold⟩ := Finset.mem_erase.mp hr'
    obtain ⟨k, hk, hholds⟩ := h.held r' hold
    have hki : k ≠ i := by
      rintro rfl
      exact hne (Option.some.inj (hholds.symm.trans hr))
    exact ⟨k, hk, by rw [Function.update_of_ne hki, hholds]⟩

/-- An object hands what it holds, if anything, over to an object that holds nothing. -/
lemma Owns.handOver (h : Owns live holds res) (hi : i ∈ live) (hj : j ∈ live) (hij : i ≠ j)
    (hnone : holds i = none) :
    Owns live (Function.update (Function.update holds j none) i (holds j)) res := by
  cases hr : holds j with
  | none =>
    refine h.congr fun k _ => ?_
    rw [← hr, Function.update_eq_self, hr, ← hnone, Function.update_eq_self]
  | some r =>
    have hdrop := h.drop hj hr
    have hi' : Function.update holds j none i = none := by
      rw [Function.update_of_ne hij, hnone]
    have htake := hdrop.take hi hi' (Finset.notMem_erase r res)
    rwa [Finset.insert_erase (h.mem j hj r hr)] at htake

/-- An object gives up what it holds, if anything. -/
lemma Owns.vacate (h : Owns live holds res) (hi : i ∈ live) :
    Owns live (Function.update holds i none) (res \ (holds i).toFinset) := by
  cases hr : holds i with
  | none =>
    rw [← hr, Function.update_eq_self, hr, Option.toFinset_none, Finset.sdiff_empty]
    exact h
  | some r =>
    rw [Option.toFinset_some, Finset.sdiff_singleton_eq_erase]
    exact h.drop hi hr

/-- An object takes over what another one holds, and gives up its own. -/
lemma Owns.replace (h : Owns live holds res) (hi : i ∈ live) (hj : j ∈ live) (hij : i ≠ j) :
    Owns live (Function.update (Function.update holds j none) i (holds j))
      (res \ (holds i).toFinset) := by
  have hvacate := (h.vacate hi).handOver hi hj hij (Function.update_self ..)
  rwa [Function.update_of_ne hij.symm, Function.update_comm hij, Function.update_idem] at hvacate

/-! ### Counting -/

variable [DecidableEq κ]

/-- The number of live objects with label `k`. -/
def tally (live : Finset ι) (label : ι → Option κ) (k : κ) : ℕ :=
  {i ∈ live | label i = some k}.card

variable {label : ι → Option κ}

omit [DecidableEq ι] in
lemma tally_congr {label' : ι → Option κ} (heq : ∀ i ∈ live, label' i = label i) (k : κ) :
    tally live label' k = tally live label k := by
  rw [tally, tally, Finset.filter_congr fun i hi => by rw [heq i hi]]

/-- The contribution of one object. -/
lemma tally_eq_erase (label : ι → Option κ) (hi : i ∈ live) (k : κ) : tally live label k =
    tally (live.erase i) label k + if label i = some k then 1 else 0 := by
  rw [tally, tally, ← Finset.insert_erase hi, Finset.filter_insert, Finset.erase_insert
    (Finset.notMem_erase i live)]
  split_ifs with h
  · exact Finset.card_insert_of_notMem (by simp)
  · rfl

lemma tally_insert (label : ι → Option κ) (hi : i ∉ live) (k : κ) : tally (insert i live) label k =
    tally live label k + if label i = some k then 1 else 0 := by
  rw [tally_eq_erase label (Finset.mem_insert_self i live), Finset.erase_insert hi]

/-- Relabelling an object moves its contribution. -/
lemma tally_update (label : ι → Option κ) (hi : i ∈ live) (o : Option κ) (k : κ) :
    tally live (Function.update label i o) k + (if label i = some k then 1 else 0) =
      tally live label k + if o = some k then 1 else 0 := by
  have hrest : tally (live.erase i) (Function.update label i o) k =
      tally (live.erase i) label k :=
    tally_congr (fun j hj => Function.update_of_ne (Finset.ne_of_mem_erase hj) _ _) k
  rw [tally_eq_erase _ hi, tally_eq_erase label hi, hrest, Function.update_self]
  omega

/-- Two objects exchange labels. -/
lemma tally_handOver (hi : i ∈ live) (hj : j ∈ live) (hij : i ≠ j) (hnone : label i = none)
    (k : κ) :
    tally live (Function.update (Function.update label j none) i (label j)) k =
      tally live label k := by
  have hdrop := tally_update label hj none k
  have htake := tally_update (Function.update label j none) hi (label j) k
  rw [Function.update_of_ne hij, hnone] at htake
  simp only [reduceCtorEq, if_false, Nat.add_zero] at hdrop htake
  rw [htake, hdrop]

omit [DecidableEq ι] [DecidableEq ρ] in
/-- There are at most as many labelled objects as resources, when only holders have a label. -/
lemma Owns.tally_le (h : Owns live holds res)
    (hlabel : ∀ i ∈ live, ∀ k, label i = some k → (holds i).isSome) (k : κ) :
    tally live label k ≤ res.card := by
  refine Finset.card_le_card_of_forall_subsingleton (fun i r => holds i = some r) ?_ ?_
  · intro i hi
    obtain ⟨hlive, hk⟩ := Finset.mem_filter.mp hi
    obtain ⟨r, hr⟩ := Option.isSome_iff_exists.mp (hlabel i hlive k hk)
    exact ⟨r, h.mem i hlive r hr, hr⟩
  · rintro r - i ⟨hi, hir⟩ j ⟨hj, hjr⟩
    exact h.unique i (Finset.mem_filter.mp hi).1 j (Finset.mem_filter.mp hj).1 r hir hjr

omit [DecidableEq ι] [DecidableEq ρ] in
/-- With no resource in use, every count is zero. -/
lemma Owns.tally_eq_zero (h : Owns live holds (∅ : Finset ρ))
    (hlabel : ∀ i ∈ live, ∀ k, label i = some k → (holds i).isSome) (k : κ) :
    tally live label k = 0 :=
  Nat.le_zero.mp (h.tally_le hlabel k)

end Ownership

import Mathlib.Tactic

/-!
# Multimaps

A sequence of pairs in the order of their keys. A new pair goes behind all pairs with the same key,
so that the values of a key come out in the order in which they went in.
-/

namespace Multimap

variable {κ υ : Type*} [LinearOrder κ]

/-- Put a pair before the first one with a greater key. -/
def insert (k : κ) (v : υ) : List (κ × υ) → List (κ × υ)
  | []     => [(k, v)]
  | p :: l => if k < p.1 then (k, v) :: p :: l else p :: insert k v l

/-- The keys are in order. -/
def Sorted (l : List (κ × υ)) : Prop := l.Pairwise fun p q => p.1 ≤ q.1

lemma mem_insert {k : κ} {v : υ} {l : List (κ × υ)} {p : κ × υ} :
    p ∈ insert k v l ↔ p = (k, v) ∨ p ∈ l := by
  induction l with
  | nil => simp [insert]
  | cons q l ih =>
    by_cases hlt : k < q.1
    · simp [insert, hlt]
    · simp only [insert, hlt, if_false, List.mem_cons, ih]
      tauto

lemma Sorted.insert {l : List (κ × υ)} (h : Sorted l) (k : κ) (v : υ) :
    Sorted (Multimap.insert k v l) := by
  induction l with
  | nil => exact List.pairwise_singleton _ _
  | cons q l ih =>
    obtain ⟨hq, hl⟩ := List.pairwise_cons.mp h
    by_cases hlt : k < q.1
    · simp only [Multimap.insert, hlt, if_true]
      refine List.pairwise_cons.mpr ⟨?_, h⟩
      intro p hp
      rcases List.mem_cons.mp hp with rfl | hp
      · exact hlt.le
      · exact hlt.le.trans (hq p hp)
    · simp only [Multimap.insert, hlt, if_false]
      refine List.pairwise_cons.mpr ⟨?_, ih hl⟩
      intro p hp
      rcases mem_insert.mp hp with rfl | hp
      · exact not_lt.mp hlt
      · exact hq p hp

end Multimap

/-- A multimap, as the sequence of its pairs. -/
structure Multimap (κ υ : Type*) [LinearOrder κ] where
  entries : List (κ × υ)
  sorted : Multimap.Sorted entries

namespace Multimap

variable {κ υ : Type*} [LinearOrder κ]

def empty : Multimap κ υ := ⟨[], List.Pairwise.nil⟩

def emplace (m : Multimap κ υ) (k : κ) (v : υ) : Multimap κ υ :=
  ⟨insert k v m.entries, m.sorted.insert k v⟩

/-- The pairs from the first whose key is not less than `k` up to the first whose key is greater. -/
def equalRange (m : Multimap κ υ) (k : κ) : List (κ × υ) :=
  (m.entries.dropWhile (·.1 < k)).takeWhile (·.1 ≤ k)

/-- The values of a key. -/
def values (m : Multimap κ υ) (k : κ) : List υ := (m.equalRange k).map Prod.snd

/-! ### What is found -/

/-- Where no key is less than `k`, the pairs of `k` come first. -/
lemma Sorted.takeWhile_eq_filter {l : List (κ × υ)} (h : Sorted l) {k : κ}
    (hle : ∀ p ∈ l, k ≤ p.1) : l.takeWhile (·.1 ≤ k) = l.filter (·.1 = k) := by
  induction l with
  | nil => rfl
  | cons p l ih =>
    obtain ⟨hp, hl⟩ := List.pairwise_cons.mp h
    obtain ⟨hkp, hkl⟩ := List.forall_mem_cons.mp hle
    rcases hkp.eq_or_lt with heq | hlt
    · simp [heq.symm, ih hl hkl]
    · have hnone : ∀ q ∈ l, ¬ q.1 = k := fun q hq => (hlt.trans_le (hp q hq)).ne'
      simpa [hlt.not_ge, hlt.ne'] using hnone

lemma Sorted.range_eq_filter {l : List (κ × υ)} (h : Sorted l) (k : κ) :
    (l.dropWhile (·.1 < k)).takeWhile (·.1 ≤ k) = l.filter (·.1 = k) := by
  induction l with
  | nil => rfl
  | cons p l ih =>
    obtain ⟨hp, hl⟩ := List.pairwise_cons.mp h
    by_cases hlt : p.1 < k
    · simp [hlt, hlt.ne, ih hl]
    · have hle : ∀ q ∈ p :: l, k ≤ q.1 := by
        refine List.forall_mem_cons.mpr ⟨not_lt.mp hlt, ?_⟩
        intro q hq
        exact (not_lt.mp hlt).trans (hp q hq)
      rw [List.dropWhile_cons_of_neg (by simpa using hlt), h.takeWhile_eq_filter hle]

lemma equalRange_eq_filter (m : Multimap κ υ) (k : κ) :
    m.equalRange k = m.entries.filter (·.1 = k) := m.sorted.range_eq_filter k

lemma filter_insert {l : List (κ × υ)} (h : Sorted l) (k k' : κ) (v : υ) :
    (insert k' v l).filter (·.1 = k) =
      l.filter (·.1 = k) ++ if k' = k then [(k', v)] else [] := by
  induction l with
  | nil => by_cases heq : k' = k <;> simp [insert, heq]
  | cons p l ih =>
    obtain ⟨hp, hl⟩ := List.pairwise_cons.mp h
    by_cases hlt : k' < p.1
    · simp only [insert, hlt, if_true]
      by_cases heq : k' = k
      · -- no pair behind the new one has its key
        subst heq
        have hnone : (p :: l).filter (·.1 = k') = [] := by
          refine List.filter_eq_nil_iff.mpr (List.forall_mem_cons.mpr ⟨?_, ?_⟩)
          · simpa using hlt.ne'
          · intro q hq
            simpa using (hlt.trans_le (hp q hq)).ne'
        rw [List.filter_cons_of_pos (by simp), hnone, if_pos rfl, List.nil_append]
      · simp [heq]
    · simp only [insert, hlt, if_false, List.filter_cons, ih hl]
      split_ifs <;> rfl

@[simp] lemma values_empty (k : κ) : (empty : Multimap κ υ).values k = [] := rfl

/-- A new value comes behind the values of its key, and no other key sees it. -/
lemma values_emplace (m : Multimap κ υ) (k k' : κ) (v : υ) :
    (m.emplace k' v).values k = m.values k ++ if k' = k then [v] else [] := by
  rw [values, values, equalRange_eq_filter, equalRange_eq_filter, emplace,
    filter_insert m.sorted, List.map_append]
  split_ifs <;> rfl

end Multimap

import Mathlib.Tactic

/-!
# Regions of memory

A region of cells that nobody checks the bounds of: a write behind its end changes none of its
cells, and is remembered. A loop that fills a region with a list keeps inside exactly when the list
is not longer than the region.
-/

namespace Memory

structure Region (α : Type*) where
  cells : List α
  /-- There has been a write behind the end. -/
  overrun : Bool := false

namespace Region

variable {α β : Type*}

/-- `n` cells with `x` in each. -/
def alloc (n : ℕ) (x : α) : Region α := { cells := List.replicate n x }

def modify (r : Region α) (i : ℕ) (f : α → α) : Region α :=
  if i < r.cells.length then { r with cells := r.cells.modify i f } else { r with overrun := true }

/-- A loop that updates one cell after the other, from `i` on. -/
def fill (f : β → α → α) (r : Region α) (i : ℕ) : List β → Region α
  | []      => r
  | x :: xs => fill f (r.modify i (f x)) (i + 1) xs

variable {f : β → α → α} {r : Region α} {i : ℕ} {g : α → α}

@[simp] lemma cells_alloc (n : ℕ) (x : α) : (alloc n x).cells = List.replicate n x := rfl

@[simp] lemma overrun_alloc (n : ℕ) (x : α) : (alloc n x).overrun = false := rfl

@[simp] lemma length_modify : (r.modify i g).cells.length = r.cells.length := by
  rw [modify]
  split_ifs <;> simp

lemma overrun_modify :
    (r.modify i g).overrun = true ↔ r.overrun = true ∨ r.cells.length ≤ i := by
  rw [modify]
  split_ifs with hi
  · simp [hi]
  · simp [Nat.le_of_not_lt hi]

/-- A loop leaves the region exactly when it goes on too long. -/
theorem overrun_fill (xs : List β) : (fill f r i xs).overrun = true ↔
    r.overrun = true ∨ xs ≠ [] ∧ r.cells.length < i + xs.length := by
  induction xs generalizing r i with
  | nil => simp [fill]
  | cons x xs ih =>
    rw [fill, ih, overrun_modify, length_modify, List.length_cons, or_assoc]
    refine or_congr_right ⟨?_, ?_⟩
    · rintro (hle | ⟨-, hlt⟩)
      · exact ⟨List.cons_ne_nil x xs, by omega⟩
      · exact ⟨List.cons_ne_nil x xs, by omega⟩
    · rintro ⟨-, hlt⟩
      cases xs with
      | nil => exact .inl (by simpa using Nat.le_of_lt_succ hlt)
      | cons y ys => exact .inr ⟨List.cons_ne_nil y ys, by omega⟩

lemma modify_append (pre : List α) (y : α) (rest : List α) (overrun : Bool) :
    modify ⟨pre ++ y :: rest, overrun⟩ pre.length g = ⟨pre ++ g y :: rest, overrun⟩ := by
  have hcells : (pre ++ y :: rest).modify pre.length g = pre ++ g y :: rest := by
    induction pre with
    | nil => rfl
    | cons z pre ih => simp [ih]
  rw [modify, if_pos (by simp), hcells]

/-- A loop over the cells behind `pre`. -/
lemma fill_append (pre rest : List α) (overrun : Bool) {xs : List β}
    (h : xs.length = rest.length) :
    fill f ⟨pre ++ rest, overrun⟩ pre.length xs = ⟨pre ++ List.zipWith f xs rest, overrun⟩ := by
  induction xs generalizing pre rest with
  | nil =>
    rw [List.length_nil, eq_comm, List.length_eq_zero_iff] at h
    rw [h]
    rfl
  | cons x xs ih =>
    cases rest with
    | nil => simp at h
    | cons y rest =>
      have hpre : pre ++ f x y :: rest = (pre ++ [f x y]) ++ rest := by simp
      have hlength : pre.length + 1 = (pre ++ [f x y]).length := by simp
      rw [fill, modify_append, hpre, hlength, ih _ _ (Nat.succ.inj h)]
      simp

/-- A loop with as many turns as there are cells updates each of them once. -/
theorem fill_of_length_eq {xs : List β} (h : xs.length = r.cells.length) :
    fill f r 0 xs = { r with cells := List.zipWith f xs r.cells } :=
  fill_append [] r.cells r.overrun h

end Region

end Memory

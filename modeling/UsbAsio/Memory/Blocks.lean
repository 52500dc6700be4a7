import Mathlib.Data.List.GetD
import Mathlib.Tactic

/-!
# Cells at addresses

A memory that gives every address its cell: the cells from an address on, a list that is written
there, and lists that are written one behind the other, each into a space of its own.
-/

namespace Memory

variable {α : Type*}

/-- The `n` cells from `addr` on. -/
def cellsAt (memory : ℕ → α) (addr n : ℕ) : List α := (List.range n).map fun i => memory (addr + i)

/-- `data` is written from `addr` on. -/
def store (memory : ℕ → α) (addr : ℕ) (data : List α) : ℕ → α := fun a =>
  if addr ≤ a then data.getD (a - addr) (memory a) else memory a

/-- Where space `i` begins, when spaces of these lengths stand one behind the other. -/
def offset (lengths : List ℕ) (i : ℕ) : ℕ := (lengths.take i).sum

/-- `data i` is written into space `i`, from its first cell on. -/
def scatter (memory : ℕ → α) (addr : ℕ) : List ℕ → (ℕ → List α) → ℕ → α
  | [], _              => memory
  | n :: lengths, data =>
    scatter (store memory addr (data 0)) (addr + n) lengths fun i => data (i + 1)

/-- No list is longer than its space. -/
def Fits (lengths : List ℕ) (data : ℕ → List α) : Prop :=
  ∀ i < lengths.length, (data i).length ≤ lengths.getD i 0

instance (lengths : List ℕ) (data : ℕ → List α) : Decidable (Fits lengths data) :=
  inferInstanceAs (Decidable (∀ i < lengths.length, _))

variable {memory memory' : ℕ → α} {addr a n : ℕ} {data : List α}

/-! ### One list -/

@[simp] lemma length_cellsAt (memory : ℕ → α) (addr n : ℕ) :
    (cellsAt memory addr n).length = n := by
  simp [cellsAt]

lemma cellsAt_congr (h : ∀ a, addr ≤ a → a < addr + n → memory' a = memory a) :
    cellsAt memory' addr n = cellsAt memory addr n := by
  refine List.map_congr_left fun i hi => ?_
  exact h _ (Nat.le_add_right _ _) (Nat.add_lt_add_left (List.mem_range.mp hi) _)

/-- What has been written is there. -/
lemma cellsAt_store : cellsAt (store memory addr data) addr data.length = data := by
  apply List.ext_getElem
  · rw [length_cellsAt]
  · intro i hi _
    rw [length_cellsAt] at hi
    simp [cellsAt, store, hi]

lemma store_of_outside (h : a < addr ∨ addr + data.length ≤ a) :
    store memory addr data a = memory a := by
  unfold store
  split_ifs with hle
  · exact List.getD_eq_default _ _ (by omega)
  · rfl

/-! ### Lists one behind the other -/

lemma fits_cons {lengths : List ℕ} {data : ℕ → List α} :
    Fits (n :: lengths) data ↔ (data 0).length ≤ n ∧ Fits lengths fun i => data (i + 1) := by
  constructor
  · intro h
    refine ⟨h 0 (Nat.succ_pos _), fun i hi => ?_⟩
    exact h (i + 1) (Nat.succ_lt_succ hi)
  · rintro ⟨hzero, hrest⟩ i hi
    cases i with
    | zero => exact hzero
    | succ i => exact hrest i (Nat.lt_of_succ_lt_succ hi)

@[simp] lemma offset_zero (lengths : List ℕ) : offset lengths 0 = 0 := rfl

@[simp] lemma offset_cons_succ (lengths : List ℕ) (i : ℕ) :
    offset (n :: lengths) (i + 1) = n + offset lengths i := by
  simp [offset]

/-- A list that fits ends where its space ends, and within all of them. -/
lemma Fits.offset_add_le {lengths : List ℕ} {data : ℕ → List α} (h : Fits lengths data) {i : ℕ}
    (hi : i < lengths.length) : offset lengths i + (data i).length ≤ lengths.sum := by
  induction lengths generalizing i data with
  | nil => cases hi
  | cons n lengths ih =>
    obtain ⟨hzero, hrest⟩ := fits_cons.mp h
    rw [List.sum_cons]
    cases i with
    | zero =>
      rw [offset_zero, Nat.zero_add]
      exact hzero.trans (Nat.le_add_right _ _)
    | succ i =>
      rw [offset_cons_succ, Nat.add_assoc]
      exact Nat.add_le_add_left (ih hrest (Nat.lt_of_succ_lt_succ hi)) n

/-- Nothing is written but in the spaces. -/
lemma scatter_of_outside {lengths : List ℕ} {data : ℕ → List α} (hfits : Fits lengths data)
    (h : a < addr ∨ addr + lengths.sum ≤ a) : scatter memory addr lengths data a = memory a := by
  induction lengths generalizing memory addr data with
  | nil => rfl
  | cons n lengths ih =>
    obtain ⟨hzero, hrest⟩ := fits_cons.mp hfits
    rw [List.sum_cons] at h
    rw [scatter, ih hrest (by omega), store_of_outside (by omega)]

/-- Each list is where its space begins. -/
theorem cellsAt_scatter {lengths : List ℕ} {data : ℕ → List α} (hfits : Fits lengths data) {i : ℕ}
    (hi : i < lengths.length) :
    cellsAt (scatter memory addr lengths data) (addr + offset lengths i) (data i).length =
      data i := by
  induction lengths generalizing memory addr data i with
  | nil => cases hi
  | cons n lengths ih =>
    obtain ⟨hzero, hrest⟩ := fits_cons.mp hfits
    cases i with
    | zero =>
      -- the other lists are written behind the first space
      have hfirst : ∀ a, addr ≤ a → a < addr + (data 0).length →
          scatter memory addr (n :: lengths) data a = store memory addr (data 0) a :=
        fun a _ ha => scatter_of_outside hrest (.inl (by omega))
      rw [offset_zero, Nat.add_zero, cellsAt_congr hfirst, cellsAt_store]
    | succ i =>
      rw [scatter, offset_cons_succ, ← Nat.add_assoc]
      exact ih hrest (Nat.lt_of_succ_lt_succ hi)

end Memory

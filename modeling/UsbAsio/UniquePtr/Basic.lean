import UsbAsio.Ownership.Basic

/-!
# Owning pointers

A population of `std::unique_ptr`s, one in each object: what each of them points to, and what is
allocated. Destroying or overwriting a pointer frees what it pointed to, and a move leaves null
behind, so that what is allocated is always what the pointers of the live objects point to.
-/

namespace UniquePtr

open Ownership

/-- The objects are named by `ι`, what is allocated by `ρ`. -/
structure Pool (ι ρ : Type*) where
  get : ι → Option ρ
  allocated : Finset ρ

variable {ι ρ : Type*}

/-- Everything allocated is in the pointer of exactly one live object. -/
def Pool.Owned (live : Finset ι) (m : Pool ι ρ) : Prop := Owns live m.get m.allocated

namespace Pool

variable [DecidableEq ι] [DecidableEq ρ] (m : Pool ι ρ) {live : Finset ι} {i j k : ι} {r : ρ}

/-! ### Operations -/

/-- A new pointer to the new `r`. -/
def make (i : ι) (r : ρ) : Pool ι ρ :=
  ⟨Function.update m.get i (some r), insert r m.allocated⟩

/-- What `release()` leaves. -/
def release (i : ι) : Pool ι ρ := { m with get := Function.update m.get i none }

/-- `reset(p)`: what the pointer pointed to is freed. -/
def reset (i : ι) (p : Option ρ) : Pool ι ρ :=
  ⟨Function.update m.get i p, m.allocated \ (m.get i).toFinset⟩

/-- `unique_ptr(unique_ptr&&)`. -/
def moveConstruct (i j : ι) : Pool ι ρ :=
  { m with get := Function.update (m.release j).get i (m.get j) }

/-- `operator=(unique_ptr&&)`: `reset(src.release())`. -/
def moveAssign (i j : ι) : Pool ι ρ := (m.release j).reset i (m.get j)

/-- `~unique_ptr()`. -/
def destroy (i : ι) : Pool ι ρ := m.reset i none

variable {m}

/-! ### What the pointers hold -/

lemma get_make_of_ne (h : k ≠ i) : (m.make i r).get k = m.get k := Function.update_of_ne h _ _

omit [DecidableEq ρ] in
lemma get_moveConstruct : (m.moveConstruct i j).get k =
    if k = i then m.get j else if k = j then none else m.get k := by
  simp only [moveConstruct, release, Function.update_apply]

/-- This holds for a self-assignment too. -/
lemma get_moveAssign : (m.moveAssign i j).get k =
    if k = i then m.get j else if k = j then none else m.get k := by
  simp only [moveAssign, release, reset, Function.update_apply]

lemma get_destroy_of_ne (h : k ≠ i) : (m.destroy i).get k = m.get k := Function.update_of_ne h _ _

lemma moveAssign_self : m.moveAssign i i = m := by
  simp [moveAssign, release, reset]

/-! ### What stays allocated -/

lemma mem_destroy : r ∈ (m.destroy i).allocated ↔ r ∈ m.allocated ∧ m.get i ≠ some r := by
  simp [destroy, reset]

lemma mem_moveAssign : r ∈ (m.moveAssign i j).allocated ↔
    r ∈ m.allocated ∧ (i = j ∨ m.get i ≠ some r) := by
  by_cases h : i = j
  · simp [h, moveAssign_self]
  · simp [h, moveAssign, release, reset]

/-! ### Ownership -/

lemma Owned.make (h : Owned live m) (hi : i ∉ live) (hr : r ∉ m.allocated) :
    Owned (insert i live) (m.make i r) := by
  have htake := (h.create hi).take (Finset.mem_insert_self i live) (Function.update_self ..) hr
  rwa [Function.update_idem] at htake

lemma Owned.moveConstruct (h : Owned live m) (hi : i ∉ live) (hj : j ∈ live) :
    Owned (insert i live) (m.moveConstruct i j) := by
  have hij : i ≠ j := by
    rintro rfl
    exact hi hj
  have hover := (h.create hi).handOver (Finset.mem_insert_self i live)
    (Finset.mem_insert_of_mem hj) hij (Function.update_self ..)
  rwa [Function.update_of_ne hij.symm, Function.update_comm hij, Function.update_idem] at hover

lemma Owned.moveAssign (h : Owned live m) (hi : i ∈ live) (hj : j ∈ live) :
    Owned live (m.moveAssign i j) := by
  by_cases hij : i = j
  · rwa [hij, moveAssign_self]
  · have hget : (m.release j).get i = m.get i := Function.update_of_ne hij _ _
    rw [Owned, Pool.moveAssign, Pool.reset, hget]
    exact h.replace hi hj hij

lemma Owned.destroy (h : Owned live m) (hi : i ∈ live) : Owned (live.erase i) (m.destroy i) :=
  (h.vacate hi).destroy (Function.update_self ..)

end Pool

end UniquePtr

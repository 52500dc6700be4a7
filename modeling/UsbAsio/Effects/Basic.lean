import Mathlib.Tactic

/-!
# Programs that call a library

Programs with exceptions that work on one object and call the functions of a library. The library
is on the outside: each call is put on a log, and its answer is the next one of a sequence that is
fixed beforehand. So a run is a function of the object and of the answers, and two programs can be
compared call by call.
-/

namespace Effects

/-- Why a program does not return: an exception left it, or the process was terminated. -/
inductive Stop (ε : Type) where
  | thrown (e : ε)
  | terminated
  deriving DecidableEq

/-- The calls are named by `κ` and answered by `ρ`; the object is a `σ`. -/
structure Machine (κ ρ σ : Type) where
  answers : ℕ → ρ
  /-- The calls so far and their answers; the latest stands first. -/
  log : List (κ × ρ)
  object : σ

abbrev Program (κ ρ ε σ : Type) := EStateM (Stop ε) (Machine κ ρ σ)

variable {κ ρ ε σ α : Type}

/-- Before the first call. -/
def Machine.start (answers : ℕ → ρ) (object : σ) : Machine κ ρ σ := ⟨answers, [], object⟩

def call (c : κ) : Program κ ρ ε σ ρ :=
  modifyGet fun m =>
    let answer := m.answers m.log.length
    (answer, { m with log := (c, answer) :: m.log })

def getObject : Program κ ρ ε σ σ := modifyGet fun m => (m.object, m)

def modifyObject (f : σ → σ) : Program κ ρ ε σ Unit :=
  modify fun m => { m with object := f m.object }

/-- No exception leaves a `noexcept` function: the process is terminated instead. -/
def noexcept (p : Program κ ρ ε σ α) : Program κ ρ ε σ α := fun m =>
  match p.run m with
  | .ok a m    => .ok a m
  | .error _ m => .error .terminated m

/-- The run ends with a value. -/
def Returns (p : Program κ ρ ε σ α) (m : Machine κ ρ σ) : Prop := ∃ a m', p.run m = .ok a m'

/-- The machine at the end of a run. -/
def final : EStateM.Result (Stop ε) (Machine κ ρ σ) α → Machine κ ρ σ
  | .ok _ m    => m
  | .error _ m => m

/-! ### Runs -/

variable {p : Program κ ρ ε σ α} {m m' : Machine κ ρ σ} {a : α}

@[simp] lemma run_call (c : κ) (m : Machine κ ρ σ) : (call c : Program κ ρ ε σ ρ).run m =
    .ok (m.answers m.log.length)
      { m with log := (c, m.answers m.log.length) :: m.log } := rfl

@[simp] lemma run_getObject (m : Machine κ ρ σ) :
    (getObject : Program κ ρ ε σ σ).run m = .ok m.object m := rfl

@[simp] lemma run_modifyObject (f : σ → σ) (m : Machine κ ρ σ) :
    (modifyObject f : Program κ ρ ε σ Unit).run m = .ok () { m with object := f m.object } := rfl

@[simp] lemma run_map {β : Type} (f : α → β) (p : Program κ ρ ε σ α) (m : Machine κ ρ σ) :
    (f <$> p).run m = match p.run m with
      | .ok a m    => .ok (f a) m
      | .error e m => .error e m := by
  rw [map_eq_pure_bind, EStateM.run_bind]
  cases p.run m <;> rfl

lemma run_bind_of_ok {β : Type} {f : α → Program κ ρ ε σ β} (h : p.run m = .ok a m') :
    (p >>= f).run m = (f a).run m' := by
  rw [EStateM.run_bind, h]

lemma run_bind_of_error {β : Type} {f : α → Program κ ρ ε σ β} {e : Stop ε}
    (h : p.run m = .error e m') : (p >>= f).run m = .error e m' := by
  rw [EStateM.run_bind, h]

lemma run_noexcept_of_ok (h : p.run m = .ok a m') : (noexcept p).run m = .ok a m' := by
  simp only [noexcept, EStateM.run] at h ⊢
  rw [h]

lemma run_noexcept_of_error {e : Stop ε} (h : p.run m = .error e m') :
    (noexcept p).run m = .error .terminated m' := by
  simp only [noexcept, EStateM.run] at h ⊢
  rw [h]

/-- A second `noexcept` changes nothing. -/
lemma noexcept_noexcept (p : Program κ ρ ε σ α) : noexcept (noexcept p) = noexcept p := by
  funext m
  cases hp : p.run m with
  | ok a m' => exact (run_noexcept_of_ok (run_noexcept_of_ok hp)).trans (run_noexcept_of_ok hp).symm
  | error e m' =>
    have hnoexcept := run_noexcept_of_error hp
    exact (run_noexcept_of_error hnoexcept).trans hnoexcept.symm

end Effects

import UsbAsio.Effects.Basic

/-!
# Programs on parts of an object

A program that works on one part of an object leaves the rest of it alone, and makes the calls
that it makes on the part by itself.
-/

namespace Effects

variable {κ ρ ε σ τ α : Type}

/-- A part of type `σ` of the objects of type `τ`. -/
structure Part (τ σ : Type) where
  get : τ → σ
  set : τ → σ → τ
  get_set : ∀ x y, get (set x y) = y
  set_get : ∀ x, set x (get x) = x

/-- The component `a` of a family, with the laws of a part. -/
def Part.component {ι : Type} [DecidableEq ι] {τ : Type} (family : Part τ (ι → σ)) (a : ι) :
    Part τ σ where
  get x := family.get x a
  set x y := family.set x (Function.update (family.get x) a y)
  get_set x y := by rw [family.get_set, Function.update_self]
  set_get x := by rw [Function.update_eq_self, family.set_get]

/-- The machine as the part sees it. -/
def Part.narrow (part : Part τ σ) (m : Machine κ ρ τ) : Machine κ ρ σ :=
  { m with object := part.get m.object }

/-- The machine of which the part has become that of `m'`. -/
def Part.widen (part : Part τ σ) (m : Machine κ ρ τ) (m' : Machine κ ρ σ) : Machine κ ρ τ :=
  { m' with object := part.set m.object m'.object }

/-- Work on a part. -/
def onPart (part : Part τ σ) (p : Program κ ρ ε σ α) : Program κ ρ ε τ α := fun m =>
  match p.run (part.narrow m) with
  | .ok a m'    => .ok a (part.widen m m')
  | .error e m' => .error e (part.widen m m')

variable {part : Part τ σ} {p : Program κ ρ ε σ α} {m : Machine κ ρ τ}

lemma run_onPart_of_ok {m' : Machine κ ρ σ} {a : α} (h : p.run (part.narrow m) = .ok a m') :
    (onPart part p).run m = .ok a (part.widen m m') := by
  simp only [onPart, EStateM.run] at h ⊢
  rw [h]

/-- A program that does not touch the object does the same anywhere. -/
lemma Part.widen_of_same {log : List (κ × ρ)} :
    part.widen m { part.narrow m with log := log } = { m with log := log } := by
  have hobject : part.set m.object (part.narrow m).object = m.object := part.set_get m.object
  rw [Part.widen]
  exact congrArg (Machine.mk m.answers log) hobject

end Effects

import UsbAsio.Effects.Parts

/-!
# Programs inside larger ones

A program as a part of one that makes other calls too, throws other exceptions, and works on a
larger object.
-/

namespace Effects

variable {κ κ' ρ ρ' ε ε' σ τ α β : Type}

/-- How the calls, the answers and the exceptions of a program are those of a larger one. -/
structure Embedding (κ ρ ε κ' ρ' ε' : Type) where
  call : κ → κ'
  answer : Part ρ' ρ
  raise : ε → ε'

def Stop.map (f : ε → ε') : Stop ε → Stop ε'
  | .thrown e   => .thrown (f e)
  | .terminated => .terminated

namespace Embedding

variable (e : Embedding κ ρ ε κ' ρ' ε')

/-- The log of a program that began after `n` calls of the larger one. -/
def relog (answers : ℕ → ρ') (n : ℕ) : List (κ × ρ) → List (κ' × ρ')
  | []            => []
  | entry :: log  =>
    (e.call entry.1, e.answer.set (answers (n + log.length)) entry.2) :: relog answers n log

/-- The machine as the smaller program sees it: nothing has been called yet. -/
def narrow (part : Part τ σ) (m : Machine κ' ρ' τ) : Machine κ ρ σ :=
  .start (fun i => e.answer.get (m.answers (m.log.length + i))) (part.get m.object)

/-- The machine after the run of the smaller program has ended in `m'`. -/
def widen (part : Part τ σ) (m : Machine κ' ρ' τ) (m' : Machine κ ρ σ) : Machine κ' ρ' τ :=
  ⟨m.answers, e.relog m.answers m.log.length m'.log ++ m.log, part.set m.object m'.object⟩

/-- The smaller program. -/
def within (part : Part τ σ) (p : Program κ ρ ε σ α) : Program κ' ρ' ε' τ α := fun m =>
  match p.run (e.narrow part m) with
  | .ok a m'    => .ok a (e.widen part m m')
  | .error s m' => .error (s.map e.raise) (e.widen part m m')

variable {e} {part : Part τ σ} {p : Program κ ρ ε σ α} {m : Machine κ' ρ' τ}

@[simp] lemma object_widen (m' : Machine κ ρ σ) :
    (e.widen part m m').object = part.set m.object m'.object := rfl

/-- What the entries of a log say is what those of the smaller program say. -/
lemma flatMap_relog {f : κ' × ρ' → List β} {g : κ × ρ → List β}
    (h : ∀ c answer, f (e.call c, answer) = g (c, e.answer.get answer)) (answers : ℕ → ρ') (n : ℕ)
    (log : List (κ × ρ)) : (e.relog answers n log).flatMap f = log.flatMap g := by
  induction log with
  | nil => rfl
  | cons entry log ih =>
    rw [relog, List.flatMap_cons, List.flatMap_cons, ih, h, e.answer.get_set]

lemma flatMap_widen {f : κ' × ρ' → List β} {g : κ × ρ → List β}
    (h : ∀ c answer, f (e.call c, answer) = g (c, e.answer.get answer)) (m' : Machine κ ρ σ) :
    (e.widen part m m').log.flatMap f = m'.log.flatMap g ++ m.log.flatMap f := by
  rw [widen, List.flatMap_append, flatMap_relog h]

end Embedding

end Effects

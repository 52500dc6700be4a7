import Mathlib.Tactic

/-!
# Forests given by parents

Some nodes, each of which may have a parent. The nodes from which one comes to a root by going from
parent to parent, without leaving the given nodes, form a forest, and a walk that goes down from
each root visits every one of them once. Written down with the depths, the walk can be read back:
the parent of a node is the last one above it that is less deep.

Nothing is said of the other nodes; there may be cycles among them.
-/

namespace Forest

variable {α : Type*}

/-- From `x` one comes to a root in `n` steps, through the nodes. -/
inductive At (parent : α → Option α) (nodes : List α) : α → ℕ → Prop where
  | root {x : α} (hx : x ∈ nodes) (hparent : parent x = none) : At parent nodes x 0
  | child {x p : α} {n : ℕ} (hx : x ∈ nodes) (hparent : parent x = some p)
      (hp : At parent nodes p n) : At parent nodes x (n + 1)

variable [DecidableEq α]

def roots (parent : α → Option α) (nodes : List α) : List α := nodes.filter (parent · = none)

def children (parent : α → Option α) (nodes : List α) (p : α) : List α :=
  nodes.filter (parent · = some p)

/-- `x` and what is below it, as far down as `fuel` reaches. -/
def walk (parent : α → Option α) (nodes : List α) : ℕ → ℕ → α → List (α × ℕ)
  | 0, _, _            => []
  | fuel + 1, depth, x =>
    (x, depth) :: (children parent nodes x).flatMap (walk parent nodes fuel (depth + 1))

/-- All that is below a root. -/
def preorder (parent : α → Option α) (nodes : List α) : List (α × ℕ) :=
  (roots parent nodes).flatMap (walk parent nodes nodes.length 0)

/-- The last node of a list that is less deep than `n`. -/
def lastAbove (l : List (α × ℕ)) (n : ℕ) : Option α := (l.reverse.find? (·.2 < n)).map Prod.fst

/-- In a list that goes on after `before`, the parent of each node is the last one above it that is
less deep. -/
def Legible (parent : α → Option α) : List (α × ℕ) → List (α × ℕ) → Prop
  | _, []               => True
  | before, (x, n) :: l => lastAbove before n = parent x ∧ Legible parent (before ++ [(x, n)]) l

variable {parent : α → Option α} {nodes : List α} {x y : α} {n m : ℕ}

/-! ### Depth -/

omit [DecidableEq α] in
lemma At.unique (h : At parent nodes x n) (h' : At parent nodes x m) : n = m := by
  induction h generalizing m with
  | root _ hparent =>
    cases h' with
    | root => rfl
    | child _ hparent' =>
      rw [hparent] at hparent'
      cases hparent'
  | child _ hparent _ ih =>
    cases h' with
    | root _ hparent' =>
      rw [hparent] at hparent'
      cases hparent'
    | child _ hparent' hp' =>
      rw [hparent] at hparent'
      cases hparent'
      rw [ih hp']

omit [DecidableEq α] in
/-- The nodes on the way to the root. -/
lemma At.exists_path (h : At parent nodes x n) : ∃ path : List α, path.length = n + 1 ∧
    path.Nodup ∧ path ⊆ nodes ∧ ∀ y ∈ path, ∃ m ≤ n, At parent nodes y m := by
  induction h with
  | root hx hparent =>
    refine ⟨[_], rfl, List.nodup_singleton _, List.cons_subset.mpr ⟨hx, List.nil_subset _⟩, ?_⟩
    intro y hy
    rw [List.mem_singleton.mp hy]
    exact ⟨0, le_rfl, .root hx hparent⟩
  | @child x p n hx hparent hp ih =>
    obtain ⟨path, hlength, hnodup, hsub, hat⟩ := ih
    have hchild : At parent nodes x (n + 1) := .child hx hparent hp
    refine ⟨x :: path, by rw [List.length_cons, hlength], ?_, List.cons_subset.mpr ⟨hx, hsub⟩, ?_⟩
    · refine List.nodup_cons.mpr ⟨?_, hnodup⟩
      intro hmem
      obtain ⟨m, hm, hatm⟩ := hat x hmem
      have heq := hchild.unique hatm
      omega
    · intro y hy
      rcases List.mem_cons.mp hy with rfl | hy
      · exact ⟨n + 1, le_rfl, hchild⟩
      · obtain ⟨m, hm, hatm⟩ := hat y hy
        exact ⟨m, hm.trans n.le_succ, hatm⟩

omit [DecidableEq α] in
/-- No node is deeper than there are nodes. -/
lemma At.lt_length (h : At parent nodes x n) : n < nodes.length := by
  obtain ⟨path, hlength, hnodup, hsub, -⟩ := h.exists_path
  have hle := (List.subperm_of_subset hnodup hsub).length_le
  omega

lemma mem_children {p : α} : x ∈ children parent nodes p ↔ x ∈ nodes ∧ parent x = some p := by
  simp [children]

omit [DecidableEq α] in
lemma mem_roots : x ∈ roots parent nodes ↔ x ∈ nodes ∧ parent x = none := by
  simp [roots]

lemma At.of_children {p : α} (hp : At parent nodes p n) (hx : x ∈ children parent nodes p) :
    At parent nodes x (n + 1) := .child (mem_children.mp hx).1 (mem_children.mp hx).2 hp

omit [DecidableEq α] in
lemma At.of_roots (hx : x ∈ roots parent nodes) : At parent nodes x 0 :=
  .root (mem_roots.mp hx).1 (mem_roots.mp hx).2

/-! ### What a walk visits -/

lemma mem_walk_succ {fuel depth : ℕ} : (y, m) ∈ walk parent nodes (fuel + 1) depth x ↔
    y = x ∧ m = depth ∨
      ∃ c ∈ children parent nodes x, (y, m) ∈ walk parent nodes fuel (depth + 1) c := by
  simp [walk]

/-- A walk visits no node but at its depth. -/
lemma at_of_mem_walk {fuel depth : ℕ} (hx : At parent nodes x depth)
    (h : (y, m) ∈ walk parent nodes fuel depth x) : At parent nodes y m := by
  induction fuel generalizing x depth with
  | zero => cases h
  | succ fuel ih =>
    rcases mem_walk_succ.mp h with ⟨rfl, rfl⟩ | ⟨c, hc, hmem⟩
    · exact hx
    · exact ih (hx.of_children hc) hmem

/-- A walk goes on to the children of a node that it visits. -/
lemma mem_walk_of_child {fuel depth : ℕ} {c : α} (h : (y, m) ∈ walk parent nodes fuel depth x)
    (hc : c ∈ children parent nodes y) (hfuel : m + 1 < fuel + depth) :
    (c, m + 1) ∈ walk parent nodes fuel depth x := by
  induction fuel generalizing x depth with
  | zero => cases h
  | succ fuel ih =>
    rcases mem_walk_succ.mp h with ⟨rfl, rfl⟩ | ⟨d, hd, hmem⟩
    · obtain ⟨fuel, rfl⟩ : ∃ k, fuel = k + 1 := ⟨fuel - 1, by omega⟩
      exact mem_walk_succ.mpr (.inr ⟨c, hc, mem_walk_succ.mpr (.inl ⟨rfl, rfl⟩)⟩)
    · exact mem_walk_succ.mpr (.inr ⟨d, hd, ih hmem (by omega)⟩)

/-- The walk from all roots visits exactly the nodes of the forest. -/
theorem mem_preorder : (x, n) ∈ preorder parent nodes ↔ At parent nodes x n := by
  simp only [preorder, List.mem_flatMap]
  constructor
  · rintro ⟨r, hr, hmem⟩
    exact at_of_mem_walk (.of_roots hr) hmem
  · intro h
    induction h with
    | @root x hx hparent =>
      refine ⟨x, mem_roots.mpr ⟨hx, hparent⟩, ?_⟩
      obtain ⟨fuel, hfuel⟩ : ∃ k, nodes.length = k + 1 :=
        ⟨nodes.length - 1, by have := List.length_pos_of_mem hx; omega⟩
      rw [hfuel]
      exact mem_walk_succ.mpr (.inl ⟨rfl, rfl⟩)
    | @child x p n hx hparent hp ih =>
      obtain ⟨r, hr, hmem⟩ := ih
      have hlt := (At.child hx hparent hp).lt_length
      exact ⟨r, hr, mem_walk_of_child hmem (mem_children.mpr ⟨hx, hparent⟩) (by omega)⟩

/-- A walk with more fuel than there are nodes is no longer. -/
lemma walk_succ {fuel depth : ℕ} (hx : At parent nodes x depth)
    (hfuel : nodes.length ≤ fuel + depth) :
    walk parent nodes (fuel + 1) depth x = walk parent nodes fuel depth x := by
  induction fuel generalizing x depth with
  | zero =>
    have hlt := hx.lt_length
    omega
  | succ fuel ih =>
    have hrest : ∀ c ∈ children parent nodes x, walk parent nodes (fuel + 1) (depth + 1) c =
        walk parent nodes fuel (depth + 1) c := by
      intro c hc
      exact ih (hx.of_children hc) (by omega)
    rw [walk, walk, List.flatMap_congr hrest]

lemma preorder_eq {fuel : ℕ} (hfuel : nodes.length ≤ fuel) :
    (roots parent nodes).flatMap (walk parent nodes fuel 0) = preorder parent nodes := by
  induction fuel, hfuel using Nat.le_induction with
  | base => rfl
  | succ fuel hfuel ih =>
    rw [← ih]
    refine List.flatMap_congr fun r hr => ?_
    exact walk_succ (.of_roots hr) (by omega)

/-! ### No node is visited twice -/

/-- `n` times to the parent. -/
def ancestor (parent : α → Option α) : ℕ → α → Option α
  | 0, x     => some x
  | n + 1, x => (ancestor parent n x).bind parent

/-- A walk stays below its node. -/
lemma exists_ancestor_of_mem_walk {fuel depth : ℕ} (h : (y, m) ∈ walk parent nodes fuel depth x) :
    ∃ n, m = depth + n ∧ ancestor parent n y = some x := by
  induction fuel generalizing x depth with
  | zero => cases h
  | succ fuel ih =>
    rcases mem_walk_succ.mp h with ⟨rfl, rfl⟩ | ⟨c, hc, hmem⟩
    · exact ⟨0, rfl, rfl⟩
    · obtain ⟨n, rfl, hn⟩ := ih hmem
      refine ⟨n + 1, by omega, ?_⟩
      rw [ancestor, hn]
      exact (mem_children.mp hc).2

/-- The walks from different nodes of one depth have nothing in common. -/
lemma disjoint_walk {fuel depth : ℕ} {c d : α} (hne : c ≠ d) :
    List.Disjoint (walk parent nodes fuel depth c) (walk parent nodes fuel depth d) := by
  rintro ⟨y, m⟩ hc hd
  obtain ⟨n, hn, hanc⟩ := exists_ancestor_of_mem_walk hc
  obtain ⟨n', hn', hand⟩ := exists_ancestor_of_mem_walk hd
  obtain rfl : n = n' := by omega
  rw [hanc] at hand
  exact hne (Option.some.inj hand)

lemma nodup_flatMap_walk {fuel depth : ℕ} {l : List α} (hl : l.Nodup)
    (hwalk : ∀ x ∈ l, (walk parent nodes fuel depth x).Nodup) :
    (l.flatMap (walk parent nodes fuel depth)).Nodup :=
  List.nodup_flatMap.mpr ⟨hwalk, hl.imp fun hne => disjoint_walk hne⟩

lemma nodup_walk (hnodes : nodes.Nodup) (fuel depth : ℕ) (x : α) :
    (walk parent nodes fuel depth x).Nodup := by
  induction fuel generalizing x depth with
  | zero => exact List.nodup_nil
  | succ fuel ih =>
    refine List.nodup_cons.mpr ⟨?_, nodup_flatMap_walk (hnodes.filter _) fun c _ => ih _ c⟩
    intro hmem
    obtain ⟨c, -, hc⟩ := List.mem_flatMap.mp hmem
    obtain ⟨n, hn, -⟩ := exists_ancestor_of_mem_walk hc
    omega

theorem nodup_preorder (hnodes : nodes.Nodup) : ((preorder parent nodes).map Prod.fst).Nodup := by
  refine List.Nodup.map_on ?_ ?_
  · rintro ⟨x, n⟩ hx ⟨y, m⟩ hy rfl
    rw [(mem_preorder.mp hx).unique (mem_preorder.mp hy)]
  · exact nodup_flatMap_walk (hnodes.filter _) fun r _ => nodup_walk hnodes _ 0 r

/-! ### A walk can be read back -/

omit [DecidableEq α] in
lemma lastAbove_append {before l : List (α × ℕ)} (h : ∀ p ∈ l, n ≤ p.2) :
    lastAbove (before ++ l) n = lastAbove before n := by
  have hnone : l.reverse.find? (·.2 < n) = none := by
    rw [List.find?_eq_none]
    intro p hp
    simpa using h p (List.mem_reverse.mp hp)
  rw [lastAbove, lastAbove, List.reverse_append, List.find?_append, hnone, Option.none_or]

omit [DecidableEq α] in
lemma lastAbove_child (before : List (α × ℕ)) :
    lastAbove (before ++ [(x, n)]) (n + 1) = some x := by
  simp [lastAbove]

omit [DecidableEq α] in
lemma legible_append {before l l' : List (α × ℕ)} :
    Legible parent before (l ++ l') ↔
      Legible parent before l ∧ Legible parent (before ++ l) l' := by
  induction l generalizing before with
  | nil => simp [Legible]
  | cons p l ih => simp [Legible, ih, and_assoc]

lemma legible_flatMap {fuel depth : ℕ} (hwalk : ∀ before c, lastAbove before depth = parent c →
    Legible parent before (walk parent nodes fuel depth c)) {l : List α}
    {before : List (α × ℕ)} (hl : ∀ c ∈ l, lastAbove before depth = parent c) :
    Legible parent before (l.flatMap (walk parent nodes fuel depth)) := by
  induction l generalizing before with
  | nil => trivial
  | cons c l ih =>
    obtain ⟨hc, hl⟩ := List.forall_mem_cons.mp hl
    refine legible_append.mpr ⟨hwalk before c hc, ih ?_⟩
    intro d hd
    rw [← hl d hd]
    refine lastAbove_append ?_
    rintro ⟨y, m⟩ hy
    obtain ⟨n, rfl, -⟩ := exists_ancestor_of_mem_walk hy
    exact Nat.le_add_right _ _

lemma legible_walk (fuel : ℕ) {depth : ℕ} {before : List (α × ℕ)} {x : α}
    (h : lastAbove before depth = parent x) :
    Legible parent before (walk parent nodes fuel depth x) := by
  induction fuel generalizing x depth before with
  | zero => trivial
  | succ fuel ih =>
    refine ⟨h, legible_flatMap (fun _ _ h => ih h) ?_⟩
    intro c hc
    rw [lastAbove_child, (mem_children.mp hc).2]

theorem legible_preorder : Legible parent [] (preorder parent nodes) := by
  refine legible_flatMap (fun _ _ h => legible_walk _ h) ?_
  intro r hr
  exact (mem_roots.mp hr).2.symm

end Forest

/-!
# Ordered — ordered forests and their pre-order

A forest of labels in which siblings have an order, with the two ways it changes: a leaf is
grafted under a label, and labels are pruned, their children taking their place.

* **`preorder`** — the labels, a parent before its children and siblings in their order.
* **`graft` / `upTo` / `beyond`** — a graft under a label comes right after its subtree in
  pre-order; `upTo` is what comes before, `beyond` what comes after.
* **`prune`** — filters the pre-order.
* **`find?_graft` …** — what becomes of the first label with a property.
-/

namespace Ordered

inductive Forest (A : Type) where
  | nil
  | node (label : A) (children rest : Forest A)

namespace Forest

variable {A : Type}

def preorder : Forest A → List A
  | nil => []
  | node a children rest => a :: (children.preorder ++ rest.preorder)

/-- The trees of one forest, then those of another. -/
def append : Forest A → Forest A → Forest A
  | nil, g => g
  | node a children rest, g => node a children (rest.append g)

/-- A tree of one label. -/
def leaf (b : A) : Forest A := node b nil nil

@[simp] theorem preorder_nil : (nil : Forest A).preorder = [] := rfl

@[simp] theorem preorder_node (a : A) (children rest : Forest A) :
    (node a children rest).preorder = a :: (children.preorder ++ rest.preorder) := rfl

@[simp] theorem preorder_leaf (b : A) : (leaf b).preorder = [b] := rfl

@[simp] theorem preorder_append (f g : Forest A) :
    (f.append g).preorder = f.preorder ++ g.preorder := by
  induction f with
  | nil => rfl
  | node a children rest _ ih => simp [append, ih]

/-! ## Grafting

A new tree goes under a node. In preorder it comes behind what was below that node already. -/

variable (p : A → Bool)

/-- A new last child of the first label that satisfies `p`; where there is none, a new last
root. -/
def graft (b : A) : Forest A → Forest A
  | nil => leaf b
  | node a children rest =>
    if p a then node a (children.append (leaf b)) rest
    else if children.preorder.any p then node a (children.graft b) rest
    else node a children (rest.graft b)

/-- The pre-order up to the end of the subtree of the first label that satisfies `p`. -/
def upTo : Forest A → List A
  | nil => []
  | node a children rest =>
    if p a then a :: children.preorder
    else if children.preorder.any p then a :: children.upTo
    else a :: (children.preorder ++ rest.upTo)

/-- The pre-order from the end of the subtree of the first label that satisfies `p`. -/
def beyond : Forest A → List A
  | nil => []
  | node a children rest =>
    if p a then rest.preorder
    else if children.preorder.any p then children.beyond ++ rest.preorder
    else rest.beyond

theorem upTo_append_beyond (f : Forest A) : f.upTo p ++ f.beyond p = f.preorder := by
  induction f with
  | nil => rfl
  | node a children rest ihc ihr =>
    unfold upTo beyond
    split
    · rfl
    split
    · rw [preorder_node, List.cons_append, ← List.append_assoc, ihc]
    · rw [preorder_node, List.cons_append, List.append_assoc, ihr]

/-- **Where a graft comes.** -/
theorem preorder_graft (b : A) (f : Forest A) :
    (f.graft p b).preorder = f.upTo p ++ b :: f.beyond p := by
  induction f with
  | nil => rfl
  | node a children rest ihc ihr =>
    unfold graft upTo beyond
    split
    · simp
    split
    · simp [ihc]
    · simp [ihr]

/-- The labels after a graft. -/
theorem mem_graft {b x : A} {f : Forest A} :
    x ∈ (f.graft p b).preorder ↔ x = b ∨ x ∈ f.preorder := by
  rw [preorder_graft, ← upTo_append_beyond p f]
  simp only [List.mem_append, List.mem_cons]
  exact or_left_comm

variable {p}

/-- A graft with a property that nothing before it has is the first to have it. -/
theorem find?_graft_new {q : A → Bool} {b : A} {f : Forest A} (hb : q b)
    (h : ∀ x ∈ f.upTo p, q x = false) : (f.graft p b).preorder.find? q = some b := by
  rw [preorder_graft, List.find?_append, List.find?_eq_none.mpr fun x hx => by simp [h x hx]]
  simp [hb]

/-- A graft behind a label with a property is not the first to have it. -/
theorem find?_graft_behind {q : A → Bool} (b : A) {f : Forest A} {x : A} (hx : x ∈ f.upTo p)
    (hq : q x) : (f.graft p b).preorder.find? q = f.preorder.find? q := by
  have hfound : ((f.upTo p).find? q).isSome := List.find?_isSome.mpr ⟨x, hx, hq⟩
  obtain ⟨y, hy⟩ := Option.isSome_iff_exists.mp hfound
  rw [preorder_graft, ← upTo_append_beyond p f, List.find?_append, List.find?_append, hy]
  rfl

/-- A graft without a property is not the first to have it. -/
theorem find?_graft_other {q : A → Bool} {b : A} (f : Forest A) (hb : q b = false) :
    (f.graft p b).preorder.find? q = f.preorder.find? q := by
  rw [preorder_graft, ← upTo_append_beyond p f, List.find?_append, List.find?_append,
    List.find?_cons_of_neg (by simp [hb])]

/-! ## Pruning

A node goes, and its children take its place; the order of the others stays. -/

variable (p)

/-- The labels that satisfy `p` leave, and their children take their place. -/
def prune : Forest A → Forest A
  | nil => nil
  | node a children rest =>
    if p a then children.prune.append rest.prune else node a children.prune rest.prune

theorem preorder_prune (f : Forest A) : (f.prune p).preorder = f.preorder.filter (!p ·) := by
  induction f with
  | nil => rfl
  | node a children rest ihc ihr =>
    unfold prune
    split <;> simp_all

/-- The parent of the first label that satisfies `p`, where `above` is the parent of the roots. -/
def parent (above : Option A) : Forest A → Option A
  | nil => none
  | node a children rest =>
    if p a then above
    else if children.preorder.any p then children.parent (some a)
    else rest.parent above

variable {p}

/-- A parent is a label of the forest. -/
theorem mem_of_parent {above : Option A} {f : Forest A} {y : A}
    (h : f.parent p above = some y) : y ∈ f.preorder ∨ above = some y := by
  induction f generalizing above with
  | nil => cases h
  | node a children rest ihc ihr =>
    unfold parent at h
    split at h
    · exact .inr h
    split at h
    · rcases ihc h with hy | hy
      · simp [hy]
      · simp [Option.some.inj hy]
    · rcases ihr h with hy | hy
      · simp [hy]
      · exact .inr hy

/-- The first label with a property stays the first unless it is pruned. -/
theorem find?_prune {q : A → Bool} {f : Forest A} {x : A} (h : f.preorder.find? q = some x)
    (hx : p x = false) : (f.prune p).preorder.find? q = some x := by
  obtain ⟨hq, before, after, hsplit, hbefore⟩ := List.find?_eq_some_iff_append.mp h
  refine List.find?_eq_some_iff_append.mpr
    ⟨hq, before.filter (!p ·), after.filter (!p ·), ?_, fun y hy => ?_⟩
  · rw [preorder_prune, hsplit, List.filter_append, List.filter_cons_of_pos (by simp [hx])]
  · exact hbefore y (List.mem_filter.mp hy).1

end Forest

end Ordered

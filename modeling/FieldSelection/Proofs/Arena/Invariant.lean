import Mathlib.Logic.ExistsUnique
import FieldSelection.Selection.Arena
/-!
# The representation invariant of the arena

An arena keeps the children of a node twice: as the list of their ids and as the index from
their literals to those ids, and the two are updated separately. `Arena.WellFormed` says that
they agree and that the ids form a tree under the root: the index of every node files exactly
the literals of its children under their ids; the children of a node are distinct ids of
nodes, all above its own; and every node but the root is a child of exactly one node.

Putting a field under a node either changes marks only, when the index already files its
literal, or appends a fresh node at the next id and files it under its parent
(`Arena.addChild_cases`); changing marks changes marks only. No change of marks touches the
invariant (`Arena.SameShape`), and appending keeps it because the new id is above every id
there is and its literal was not filed (`Arena.WellFormed.grow`).

* `Arena.Reachable.wellFormed`: every arena reached from the synthetic root by putting fields
  under any of its nodes, changing the marks of any of its nodes, and giving nodes their
  `base` children, in any order, is well formed.
* `Arena.WellFormed.tree_eq_some`: in a well-formed arena reading a node back ends within as
  many levels as there are nodes above it, since every step down goes to a higher id.
-/

namespace FieldSelection

namespace Arena

/-- The ids of the children of the node `i`; none when `i` names no node. -/
def children (a : Arena) (i : Nat) : List Nat := (a.nodes[i]?.map (·.children)).getD []

/-- The index of the node `i`; empty when `i` names no node. -/
def index (a : Arena) (i : Nat) : List (String × Nat) := (a.nodes[i]?.map (·.byName)).getD []

/-- The literal of the node `i`, if `i` names a node. -/
def key? (a : Arena) (i : Nat) : Option String := a.nodes[i]?.map (·.matcher.literal)

section Accessors

variable {a : Arena} {i : Nat} {n : ArenaNode}

theorem children_of_getElem? (found : a.nodes[i]? = some n) : a.children i = n.children := by
  simp [children, found]

theorem index_of_getElem? (found : a.nodes[i]? = some n) : a.index i = n.byName := by
  simp [index, found]

theorem key?_of_getElem? (found : a.nodes[i]? = some n) : a.key? i = some n.matcher.literal := by
  simp [key?, found]

theorem lt_size_of_getElem? (found : a.nodes[i]? = some n) : i < a.nodes.size :=
  (Array.getElem?_eq_some_iff.1 found).1

theorem lt_size_of_key? {k : String} (keyed : a.key? i = some k) : i < a.nodes.size := by
  rcases Nat.lt_or_ge i a.nodes.size with inside | beyond
  · exact inside
  · simp [key?, Array.getElem?_eq_none beyond] at keyed

end Accessors

/-! ## Arenas of one shape -/

/-- Two arenas of one shape: the same ids, children, index and literals, whatever the marks. -/
structure SameShape (a b : Arena) : Prop where
  size : b.nodes.size = a.nodes.size
  children : b.children = a.children
  index : b.index = a.index
  key? : b.key? = a.key?

theorem SameShape.trans {a b c : Arena} (first : SameShape a b) (second : SameShape b c) :
    SameShape a c :=
  ⟨second.size.trans first.size, second.children.trans first.children,
    second.index.trans first.index, second.key?.trans first.key?⟩

/-- A change of one node that keeps its matcher, children and index keeps the shape. -/
theorem sameShape_modify (a : Arena) (i : Nat) {g : ArenaNode → ArenaNode}
    (matcher : ∀ n, (g n).matcher = n.matcher) (children : ∀ n, (g n).children = n.children)
    (byName : ∀ n, (g n).byName = n.byName) : SameShape a ⟨a.nodes.modify i g⟩ where
  size := Array.size_modify
  children := funext fun j => by
    simp only [Arena.children, Array.getElem?_modify]
    split <;> cases a.nodes[j]? <;> simp [children]
  index := funext fun j => by
    simp only [Arena.index, Array.getElem?_modify]
    split <;> cases a.nodes[j]? <;> simp [byName]
  key? := funext fun j => by
    simp only [Arena.key?, Array.getElem?_modify]
    split <;> cases a.nodes[j]? <;> simp [matcher]

theorem sameShape_merge (a : Arena) (i : Nat) (f : NodeMarks) :
    SameShape a ⟨a.nodes.modify i (·.merge f)⟩ :=
  sameShape_modify a i (fun _ => rfl) (fun _ => rfl) (fun _ => rfl)

theorem sameShape_undot (a : Arena) (i : Nat) : SameShape a ⟨a.nodes.modify i (·.undot)⟩ :=
  sameShape_modify a i (fun _ => rfl) (fun _ => rfl) (fun _ => rfl)

theorem sameShape_marks (a : Arena) (i : Nat) (g : NodeMarks → NodeMarks) :
    SameShape a ⟨a.nodes.modify i fun n => { n with marks := g n.marks }⟩ :=
  sameShape_modify a i (fun _ => rfl) (fun _ => rfl) (fun _ => rfl)

/-! ## The invariant -/

/-- The representation invariant of an arena: the root exists; the index of every node files
exactly the literals of its children under their ids; the children of a node are distinct ids
of nodes, all above its own; and every node but the root is a child of exactly one node. -/
structure WellFormed (a : Arena) : Prop where
  root : 0 < a.nodes.size
  indexed : ∀ p k i, (a.index p).lookup k = some i ↔ i ∈ a.children p ∧ a.key? i = some k
  distinct : ∀ p, (a.children p).Nodup
  above : ∀ p, ∀ i ∈ a.children p, p < i ∧ i < a.nodes.size
  oneParent : ∀ i, 0 < i → i < a.nodes.size → ∃! p, i ∈ a.children p

theorem WellFormed.of_sameShape {a b : Arena} (wf : a.WellFormed) (same : SameShape a b) :
    b.WellFormed where
  root := same.size ▸ wf.root
  indexed := by rw [same.index, same.children, same.key?]; exact wf.indexed
  distinct := by rw [same.children]; exact wf.distinct
  above := by rw [same.children, same.size]; exact wf.above
  oneParent := by rw [same.children, same.size]; exact wf.oneParent

theorem wellFormed_new : Arena.new.WellFormed where
  root := by decide
  indexed p k i := by
    rcases p with _ | p <;> simp [new, index, children, ArenaNode.fresh]
  distinct p := by
    rcases p with _ | p <;> simp [new, children, ArenaNode.fresh]
  above p i mem := by
    rcases p with _ | p <;> simp [new, children, ArenaNode.fresh] at mem
  oneParent i positive inside := by
    simp only [new, List.size_toArray, List.length_singleton] at inside
    omega

/-! ## Appending a node -/

/-- The arena with the fresh node of `m` and `f` appended at the next id and adopted by
`parent`. -/
def grow (a : Arena) (parent : Nat) (m : NameMatcher) (f : NodeMarks) : Arena :=
  ⟨(a.nodes.push (.fresh m f)).modify parent (·.adopt m.literal a.nodes.size)⟩

section Grow

variable {a : Arena} {parent : Nat} {m : NameMatcher} {f : NodeMarks}

@[simp] theorem size_grow : (a.grow parent m f).nodes.size = a.nodes.size + 1 := by
  simp [grow]

theorem children_grow (parentInside : parent < a.nodes.size) (j : Nat) :
    (a.grow parent m f).children j =
      if j = parent then a.children parent ++ [a.nodes.size] else a.children j := by
  simp only [grow, children, Array.getElem?_modify, Array.getElem?_push]
  by_cases here : j = parent
  · subst here
    simp [Nat.ne_of_lt parentInside, ArenaNode.adopt, Array.getElem?_eq_getElem parentInside]
  · rw [if_neg (Ne.symm here), if_neg here]
    split
    · rename_i fresh
      subst fresh
      simp [ArenaNode.fresh]
    · rfl

theorem index_grow (parentInside : parent < a.nodes.size) (j : Nat) :
    (a.grow parent m f).index j =
      if j = parent then (m.literal, a.nodes.size) :: a.index parent else a.index j := by
  simp only [grow, index, Array.getElem?_modify, Array.getElem?_push]
  by_cases here : j = parent
  · subst here
    simp [Nat.ne_of_lt parentInside, ArenaNode.adopt, Array.getElem?_eq_getElem parentInside]
  · rw [if_neg (Ne.symm here), if_neg here]
    split
    · rename_i fresh
      subst fresh
      simp [ArenaNode.fresh]
    · rfl

theorem key?_grow (j : Nat) :
    (a.grow parent m f).key? j = if j = a.nodes.size then some m.literal else a.key? j := by
  simp only [grow, key?, Array.getElem?_modify, Array.getElem?_push]
  split <;> split <;> simp_all [ArenaNode.adopt, ArenaNode.fresh, Function.comp_def]

theorem key?_grow_of_lt {j : Nat} (older : j < a.nodes.size) :
    (a.grow parent m f).key? j = a.key? j := by
  rw [key?_grow, if_neg (Nat.ne_of_lt older)]

theorem mem_children_grow (parentInside : parent < a.nodes.size) {p i : Nat} :
    i ∈ (a.grow parent m f).children p ↔ i ∈ a.children p ∨ p = parent ∧ i = a.nodes.size := by
  rw [children_grow parentInside]
  split
  · rename_i here
    simp [here]
  · rename_i here
    simp [here]

/-- The index of `parent` files the new node under its literal, in front of the old entries;
when none of these is under that literal, a lookup finds an old entry or the new node. -/
theorem lookup_index_grow (parentInside : parent < a.nodes.size)
    (absent : (a.index parent).lookup m.literal = none) (p : Nat) (k : String) (i : Nat) :
    ((a.grow parent m f).index p).lookup k = some i ↔
      (a.index p).lookup k = some i ∨ p = parent ∧ k = m.literal ∧ i = a.nodes.size := by
  rw [index_grow parentInside]
  by_cases here : p = parent
  · subst here
    by_cases same : k = m.literal
    · subst same
      simp only [if_true, List.lookup_cons, beq_self_eq_true, Option.some.injEq, absent,
        reduceCtorEq, true_and, false_or]
      exact eq_comm
    · simp [List.lookup_cons, beq_eq_false_iff_ne.2 same, same]
  · simp [here]

/-- A child of `p` with literal `k` in the grown arena is one from before, or the new node
under `parent`: the old children are below the new id, so their literals stay. -/
theorem WellFormed.keyed_child_grow (wf : a.WellFormed) (parentInside : parent < a.nodes.size)
    (p : Nat) (k : String) (i : Nat) :
    i ∈ (a.grow parent m f).children p ∧ (a.grow parent m f).key? i = some k ↔
      i ∈ a.children p ∧ a.key? i = some k ∨ p = parent ∧ k = m.literal ∧ i = a.nodes.size := by
  rw [mem_children_grow parentInside]
  constructor
  · rintro ⟨old | ⟨here, rfl⟩, keyed⟩
    · exact .inl ⟨old, by rwa [key?_grow_of_lt (wf.above _ _ old).2] at keyed⟩
    · rw [key?_grow, if_pos rfl, Option.some.injEq] at keyed
      exact .inr ⟨here, keyed.symm, rfl⟩
  · rintro (⟨old, keyed⟩ | ⟨here, rfl, rfl⟩)
    · exact ⟨.inl old, by rwa [key?_grow_of_lt (wf.above _ _ old).2]⟩
    · exact ⟨.inr ⟨here, rfl⟩, by rw [key?_grow, if_pos rfl]⟩

theorem WellFormed.distinct_grow (wf : a.WellFormed) (parentInside : parent < a.nodes.size)
    (p : Nat) : ((a.grow parent m f).children p).Nodup := by
  rw [children_grow parentInside]
  split
  · refine List.nodup_append.2 ⟨wf.distinct parent,
      List.nodup_cons.2 ⟨List.not_mem_nil, List.nodup_nil⟩, fun x mem y fresh => ?_⟩
    rw [List.mem_singleton.1 fresh]
    exact Nat.ne_of_lt (wf.above _ _ mem).2
  · exact wf.distinct p

/-- The new node has `parent` alone for its parent, and every other node keeps its own. -/
theorem WellFormed.oneParent_grow (wf : a.WellFormed) (parentInside : parent < a.nodes.size)
    (i : Nat) (positive : 0 < i) (inside : i < (a.grow parent m f).nodes.size) :
    ∃! p, i ∈ (a.grow parent m f).children p := by
  rw [size_grow] at inside
  rcases Nat.lt_or_ge i a.nodes.size with older | fresh
  · obtain ⟨p, mem, only⟩ := wf.oneParent i positive older
    refine ⟨p, (mem_children_grow parentInside).2 (.inl mem), fun q mem' => only q ?_⟩
    rcases (mem_children_grow parentInside).1 mem' with mem' | ⟨-, rfl⟩
    · exact mem'
    · exact absurd older (Nat.lt_irrefl _)
  · obtain rfl : i = a.nodes.size := by omega
    refine ⟨parent, (mem_children_grow parentInside).2 (.inr ⟨rfl, rfl⟩), fun q mem' => ?_⟩
    rcases (mem_children_grow parentInside).1 mem' with mem' | ⟨here, -⟩
    · exact absurd (wf.above _ _ mem').2 (Nat.lt_irrefl _)
    · exact here

/-- Appending a node under `parent` keeps the arena well formed when the index of `parent`
does not file its literal: the new id is above every id there is, so it is a child of
`parent` alone and no other node's children or index change. -/
theorem WellFormed.grow (wf : a.WellFormed) (parentInside : parent < a.nodes.size)
    (m : NameMatcher) (f : NodeMarks) (absent : (a.index parent).lookup m.literal = none) :
    (a.grow parent m f).WellFormed where
  root := by simp
  indexed p k i := by
    rw [lookup_index_grow parentInside absent, wf.keyed_child_grow parentInside, wf.indexed]
  distinct := wf.distinct_grow parentInside
  above p i mem := by
    rw [size_grow]
    rcases (mem_children_grow parentInside).1 mem with old | ⟨rfl, rfl⟩
    · exact ⟨(wf.above _ _ old).1, Nat.lt_succ_of_lt (wf.above _ _ old).2⟩
    · exact ⟨parentInside, Nat.lt_succ_self _⟩
  oneParent := wf.oneParent_grow parentInside

end Grow

/-! ## What putting a field and changing marks can do -/

/-- Putting a field under `parent` succeeds only at a node, and either merges it into the
child `id` its index files under the field's literal, changing marks only, or appends the
fresh node at the next id; then the parent's dot-path mark is settled on the child. -/
theorem addChild_cases {a b : Arena} {parent id : Nat} {m : NameMatcher} {f : NodeMarks}
    (added : a.addChild parent m f = some (b, id)) :
    ∃ p, a.nodes[parent]? = some p ∧ ∃ nodes child, nodes[id]? = some child ∧
      b = ⟨if child.marks.dotPathed then nodes else nodes.modify parent (·.undot)⟩ ∧
      ((p.byName.lookup m.literal = some id ∧ id < a.nodes.size ∧
          nodes = a.nodes.modify id (·.merge f)) ∨
        (p.byName.lookup m.literal = none ∧ id = a.nodes.size ∧
          nodes = (a.grow parent m f).nodes)) := by
  unfold addChild at added
  simp only [Option.bind_eq_bind] at added
  obtain ⟨p, found, added⟩ := Option.bind_eq_some_iff.1 added
  refine ⟨p, found, ?_⟩
  split at added
  · rename_i existing filed
    split at added
    · rename_i inside
      simp only [Option.bind_some] at added
      obtain ⟨c, child, settled⟩ := Option.bind_eq_some_iff.1 added
      simp only [Option.some.injEq, Prod.mk.injEq] at settled
      obtain ⟨rfl, rfl⟩ := settled
      exact ⟨_, c, child, rfl, .inl ⟨filed, inside, rfl⟩⟩
    · simp at added
  · rename_i filed
    simp only [Option.bind_some] at added
    obtain ⟨c, child, settled⟩ := Option.bind_eq_some_iff.1 added
    simp only [Option.some.injEq, Prod.mk.injEq] at settled
    obtain ⟨rfl, rfl⟩ := settled
    exact ⟨_, c, child, rfl, .inr ⟨filed, rfl, rfl⟩⟩

theorem modifyMarks_eq_some {a b : Arena} {id : Nat} {g : NodeMarks → NodeMarks}
    (changed : a.modifyMarks id g = some b) :
    id < a.nodes.size ∧ b = ⟨a.nodes.modify id fun n => { n with marks := g n.marks }⟩ := by
  unfold modifyMarks at changed
  split at changed
  · rename_i inside
    exact ⟨inside, (Option.some.inj changed).symm⟩
  · cases changed

/-- Putting a field under a node keeps the arena well formed. -/
theorem WellFormed.addChild {a b : Arena} (wf : a.WellFormed) {parent id : Nat}
    {m : NameMatcher} {f : NodeMarks} (added : a.addChild parent m f = some (b, id)) :
    b.WellFormed := by
  obtain ⟨p, found, nodes, child, -, rfl, branch⟩ := addChild_cases added
  have settled : ∀ c : Arena, c.WellFormed → c.nodes = nodes →
      (Arena.mk (if child.marks.dotPathed then nodes else nodes.modify parent (·.undot))).WellFormed :=
    fun c wfc same => by
      subst same
      split
      · exact wfc
      · exact wfc.of_sameShape (sameShape_undot c parent)
  rcases branch with ⟨-, -, rfl⟩ | ⟨absent, -, rfl⟩
  · exact settled _ (wf.of_sameShape (sameShape_merge a id f)) rfl
  · have parentInside : parent < a.nodes.size := by
      rcases Nat.lt_or_ge parent a.nodes.size with inside | beyond
      · exact inside
      · simp [Array.getElem?_eq_none beyond] at found
    rw [← index_of_getElem? found] at absent
    exact settled _ (wf.grow parentInside m f absent) rfl

theorem WellFormed.modifyMarks {a b : Arena} (wf : a.WellFormed) {id : Nat}
    {g : NodeMarks → NodeMarks} (changed : a.modifyMarks id g = some b) : b.WellFormed := by
  obtain ⟨-, rfl⟩ := modifyMarks_eq_some changed
  exact wf.of_sameShape (sameShape_marks a id g)

theorem addBase_cases {a b : Arena} {parent : Nat} (added : a.addBase parent = some b) :
    ∃ p id, a.nodes[parent]? = some p ∧
      a.addChild parent (.exact "base") { dotPathed := p.marks.dotPathed } = some (b, id) := by
  unfold addBase at added
  simp only [Option.bind_eq_bind] at added
  obtain ⟨p, found, added⟩ := Option.bind_eq_some_iff.1 added
  obtain ⟨⟨b', id⟩, child, settled⟩ := Option.bind_eq_some_iff.1 added
  obtain rfl := Option.some.inj settled
  exact ⟨p, id, found, child⟩

/-! ## Reachable arenas -/

/-- The arenas that building an expression can reach from the synthetic root: a field put
under any node, the marks of any node changed in any way, one change after another. -/
inductive Reachable : Arena → Prop
  | new : Reachable Arena.new
  | addChild {a b : Arena} {parent id : Nat} {m : NameMatcher} {f : NodeMarks} :
      Reachable a → a.addChild parent m f = some (b, id) → Reachable b
  | modifyMarks {a b : Arena} {id : Nat} {g : NodeMarks → NodeMarks} :
      Reachable a → a.modifyMarks id g = some b → Reachable b

/-- Giving nodes their `base` children puts fields under them one after another. -/
theorem Reachable.foldlM_addBase : ∀ (pending : List Nat) {a b : Arena}, a.Reachable →
    pending.foldlM addBase a = some b → b.Reachable
  | [], _, _, reached, done => by
    simp only [List.foldlM_nil, Option.pure_def, Option.some.injEq] at done
    exact done ▸ reached
  | parent :: pending, a, b, reached, done => by
    simp only [List.foldlM_cons, Option.bind_eq_bind] at done
    obtain ⟨a', added, done⟩ := Option.bind_eq_some_iff.1 done
    obtain ⟨_, _, -, child⟩ := addBase_cases added
    exact foldlM_addBase pending (reached.addChild child) done

theorem Reachable.analyze {a b : Arena} (reached : a.Reachable) {root : Nat}
    (analyzed : a.analyze root = some b) : b.Reachable := by
  unfold Arena.analyze at analyzed
  simp only [Option.bind_eq_bind] at analyzed
  obtain ⟨ids, -, analyzed⟩ := Option.bind_eq_some_iff.1 analyzed
  exact foldlM_addBase ids reached analyzed

/-- Every reachable arena is well formed. -/
theorem Reachable.wellFormed {a : Arena} (reached : a.Reachable) : a.WellFormed := by
  induction reached with
  | new => exact wellFormed_new
  | addChild _ added ih => exact ih.addChild added
  | modifyMarks _ changed ih => exact ih.modifyMarks changed

/-! ## Reading back ends -/

theorem mapM_eq_some_of_forall {α β : Type} {f : α → Option β} :
    ∀ (l : List α), (∀ x ∈ l, ∃ y, f x = some y) → ∃ ys, l.mapM f = some ys
  | [], _ => ⟨[], rfl⟩
  | x :: l, each => by
    obtain ⟨y, first⟩ := each x List.mem_cons_self
    obtain ⟨ys, rest⟩ := mapM_eq_some_of_forall l fun x' mem => each x' (List.mem_cons_of_mem _ mem)
    exact ⟨y :: ys, by simp [List.mapM_cons, first, rest]⟩

/-- In a well-formed arena, reading the node `i` back ends within as many levels as there are
ids from `i` on: each step down goes to a higher id of a node. The induction is on the
levels allowed. -/
theorem WellFormed.tree_eq_some {a : Arena} (wf : a.WellFormed) :
    ∀ (fuel i : Nat), i < a.nodes.size → a.nodes.size ≤ i + fuel → ∃ d, a.tree fuel i = some d
  | 0, i, inside, enough => absurd inside (by omega)
  | fuel + 1, i, inside, enough => by
    obtain ⟨n, found⟩ : ∃ n, a.nodes[i]? = some n := ⟨_, Array.getElem?_eq_getElem inside⟩
    obtain ⟨ds, read⟩ := mapM_eq_some_of_forall (f := a.tree fuel) n.children fun c mem => by
      have bounds := wf.above i c (by rw [children_of_getElem? found]; exact mem)
      exact wf.tree_eq_some fuel c bounds.2 (by omega)
    exact ⟨.mk n.matcher n.marks ds, by simp [tree, found, read]⟩

/-- Freezing the children of a node of a well-formed arena ends. -/
theorem WellFormed.freezeChildren_eq_some {a : Arena} (wf : a.WellFormed) {i : Nat}
    (inside : i < a.nodes.size) : ∃ ns, a.freezeChildren i = some ns := by
  obtain ⟨d, read⟩ := wf.tree_eq_some a.nodes.size i inside (Nat.le_add_left _ _)
  exact ⟨d.compile, by simp [freezeChildren, read]⟩

end Arena

end FieldSelection

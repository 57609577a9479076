import FieldSelection.Proofs.Arena.Invariant
import FieldSelection.Proofs.Selection.Siblings
/-!
# A well-formed arena is a tree

`Arena.Holds a i d` says that the arena holds the draft `d` at the node `i`: the node has the
draft's matcher and marks, and its children hold the draft's children in order. This is the
view in which the arena is the tree the rest of the library reads.

In a well-formed arena the ids grow along every step down (`WellFormed.le_of_below`), and the
nodes above a node form a chain, since each node has one parent (`WellFormed.below_total`). So
two children of one node have no node below them both (`WellFormed.eq_of_below_siblings`):
the arena is a tree, and a change to one part of it leaves the drafts held elsewhere as they
were (`Holds.transport`).

* `WellFormed.keyed`: a draft a well-formed arena holds has distinct keys among the children
  of every node, because the index files each literal under one id.
* `WellFormed.freezeChildren_eq_compile`: freezing the children of a node that holds a draft
  gives the draft's compiled forest.
* `WellFormed.nodeAt?_of_descent`, `WellFormed.descent_of_nodeAt?`: following literals through
  the index reaches the node that the same path names in the held draft.
-/

namespace FieldSelection

namespace Arena

variable {a : Arena}

/-! ## Nodes below a node -/

/-- The node `j` is the node `i` or lies below it. -/
inductive Below (a : Arena) (i : Nat) : Nat → Prop
  | refl : Below a i i
  | child {j k : Nat} : Below a i j → k ∈ a.children j → Below a i k

theorem Below.trans {i j k : Nat} (first : a.Below i j) (second : a.Below j k) : a.Below i k := by
  induction second with
  | refl => exact first
  | child _ mem ih => exact ih.child mem

theorem Below.of_child {i j : Nat} (mem : j ∈ a.children i) : a.Below i j := Below.refl.child mem

section WellFormed

variable (wf : a.WellFormed)
include wf

theorem WellFormed.le_of_below {i j : Nat} (below : a.Below i j) : i ≤ j := by
  induction below with
  | refl => exact Nat.le_refl _
  | child _ mem ih => exact Nat.le_trans ih (wf.above _ _ mem).1.le

/-- A node lies below none of its children. -/
theorem WellFormed.not_below_of_child {p c : Nat} (mem : c ∈ a.children p) : ¬ a.Below c p :=
  fun down => absurd (wf.le_of_below down) (Nat.not_le.2 (wf.above _ _ mem).1)

theorem WellFormed.lt_size_of_below {i j : Nat} (inside : i < a.nodes.size) (below : a.Below i j) :
    j < a.nodes.size := by
  cases below with
  | refl => exact inside
  | child _ mem => exact (wf.above _ _ mem).2

theorem WellFormed.parent_unique {p q k : Nat} (mem : k ∈ a.children p) (mem' : k ∈ a.children q) :
    p = q := by
  have bounds := wf.above p k mem
  obtain ⟨r, -, only⟩ := wf.oneParent k (by omega) bounds.2
  exact (only p mem).trans (only q mem').symm

/-- The nodes above a node form a chain: of two nodes that a third lies below, one lies below
the other. The induction is on the first descent; both end in a step from the one parent. -/
theorem WellFormed.below_total {u v j : Nat} (first : a.Below u j) (second : a.Below v j) :
    a.Below u v ∨ a.Below v u := by
  induction first generalizing v with
  | refl => exact .inr second
  | child under mem ih =>
    cases second with
    | refl => exact .inl (under.child mem)
    | child under' mem' =>
      obtain rfl := wf.parent_unique mem mem'
      exact ih under'

/-- A child lies below a sibling only when it is that sibling: ids grow along descents. -/
theorem WellFormed.eq_of_child_below {p c c' : Nat} (mem : c ∈ a.children p)
    (mem' : c' ∈ a.children p) (down : a.Below c c') : c = c' := by
  cases down with
  | refl => rfl
  | child under child =>
    obtain rfl := wf.parent_unique child mem'
    exact absurd under (wf.not_below_of_child mem)

/-- No node lies below two children of one node. -/
theorem WellFormed.eq_of_below_siblings {p c c' j : Nat} (mem : c ∈ a.children p)
    (mem' : c' ∈ a.children p) (under : a.Below c j) (under' : a.Below c' j) : c = c' := by
  rcases wf.below_total under under' with down | down
  · exact wf.eq_of_child_below mem mem' down
  · exact (wf.eq_of_child_below mem' mem down).symm

/-- The index files a literal under one child only. -/
theorem WellFormed.eq_of_key? {p c c' : Nat} {k : String} (mem : c ∈ a.children p)
    (mem' : c' ∈ a.children p) (keyed : a.key? c = some k) (keyed' : a.key? c' = some k) :
    c = c' := by
  have filed := (wf.indexed p k c).2 ⟨mem, keyed⟩
  rw [(wf.indexed p k c').2 ⟨mem', keyed'⟩] at filed
  exact (Option.some.inj filed).symm

end WellFormed

/-! ## The drafts an arena holds -/

mutual

/-- The arena holds the draft `d` at the node `i`: the node has the draft's matcher and marks,
and its children hold the draft's children in order. -/
inductive Holds (a : Arena) : Nat → Draft → Prop
  | mk {i : Nat} {n : ArenaNode} {ds : List Draft} :
      a.nodes[i]? = some n → HoldsAll a n.children ds → Holds a i (.mk n.matcher n.marks ds)

/-- The arena holds the drafts `ds` at the nodes `is`, one by one. -/
inductive HoldsAll (a : Arena) : List Nat → List Draft → Prop
  | nil : HoldsAll a [] []
  | cons {i : Nat} {is : List Nat} {d : Draft} {ds : List Draft} :
      Holds a i d → HoldsAll a is ds → HoldsAll a (i :: is) (d :: ds)

end

theorem Holds.key? {i : Nat} {d : Draft} (holds : a.Holds i d) : a.key? i = some d.key := by
  cases holds with
  | mk found _ => exact key?_of_getElem? found

theorem Holds.exists_node {i : Nat} {d : Draft} (holds : a.Holds i d) :
    ∃ n, a.nodes[i]? = some n ∧ d.matcher = n.matcher ∧ d.marks = n.marks ∧
      a.HoldsAll n.children d.children := by
  cases holds with
  | mk found below => exact ⟨_, found, rfl, rfl, below⟩

mutual

theorem Holds.unique : ∀ {i : Nat} {d d' : Draft}, a.Holds i d → a.Holds i d' → d = d'
  | _, _, _, .mk found below, .mk found' below' => by
    obtain rfl := Option.some.inj (found.symm.trans found')
    rw [HoldsAll.unique below below']

theorem HoldsAll.unique : ∀ {is : List Nat} {ds ds' : List Draft},
    a.HoldsAll is ds → a.HoldsAll is ds' → ds = ds'
  | _, _, _, .nil, .nil => rfl
  | _, _, _, .cons here rest, .cons here' rest' => by
    rw [Holds.unique here here', HoldsAll.unique rest rest']

end

theorem HoldsAll.append {is is' : List Nat} {ds ds' : List Draft} :
    a.HoldsAll is ds → a.HoldsAll is' ds' → a.HoldsAll (is ++ is') (ds ++ ds')
  | .nil, rest => rest
  | .cons here more, rest => .cons here (more.append rest)

/-- Drafts held one by one, each changed by `g` where another arena holds it changed. -/
theorem HoldsAll.map {b : Arena} {g : Draft → Draft} :
    ∀ {is : List Nat} {ds : List Draft}, a.HoldsAll is ds →
      (∀ i ∈ is, ∀ d, a.Holds i d → b.Holds i (g d)) → b.HoldsAll is (ds.map g)
  | _, _, .nil, _ => .nil
  | _, _, .cons here rest, each =>
    .cons (each _ List.mem_cons_self _ here)
      (rest.map fun i mem => each i (List.mem_cons_of_mem _ mem))

theorem HoldsAll.exists_of_mem {is : List Nat} {ds : List Draft} {d : Draft} :
    a.HoldsAll is ds → d ∈ ds → ∃ i ∈ is, a.Holds i d
  | .nil, mem => by cases mem
  | .cons here rest, mem => by
    rcases List.mem_cons.1 mem with rfl | later
    · exact ⟨_, List.mem_cons_self, here⟩
    · obtain ⟨i, mem', holds⟩ := rest.exists_of_mem later
      exact ⟨i, List.mem_cons_of_mem _ mem', holds⟩

mutual

/-- A draft held at a node stays held in an arena that agrees at every node below it. -/
theorem Holds.transport {b : Arena} : ∀ {i : Nat} {d : Draft},
    (∀ j, a.Below i j → b.nodes[j]? = a.nodes[j]?) → a.Holds i d → b.Holds i d
  | i, _, agree, .mk found below =>
    .mk ((agree i .refl).trans found) (HoldsAll.transport (fun c mem j under =>
      agree j ((Below.of_child (by rw [children_of_getElem? found]; exact mem)).trans under)) below)

theorem HoldsAll.transport {b : Arena} : ∀ {is : List Nat} {ds : List Draft},
    (∀ c ∈ is, ∀ j, a.Below c j → b.nodes[j]? = a.nodes[j]?) → a.HoldsAll is ds → b.HoldsAll is ds
  | _, _, _, .nil => .nil
  | _, _, agree, .cons here rest =>
    .cons (here.transport (agree _ List.mem_cons_self))
      (rest.transport fun c mem => agree c (List.mem_cons_of_mem _ mem))

end

/-! ## Held drafts are keyed -/

/-- Drafts held at distinct children of one node have distinct keys. The induction is on the
children. -/
theorem WellFormed.nodup_keys (wf : a.WellFormed) {p : Nat} : ∀ {is : List Nat} {ds : List Draft},
    a.HoldsAll is ds → is.Nodup → (∀ i ∈ is, i ∈ a.children p) → (ds.map Draft.key).Nodup
  | _, _, .nil, _, _ => List.nodup_nil
  | i :: is, d :: ds, .cons here rest, distinct, inside => by
    refine List.nodup_cons.2 ⟨fun mem => ?_, wf.nodup_keys rest (List.nodup_cons.1 distinct).2
      fun j mem => inside j (List.mem_cons_of_mem _ mem)⟩
    obtain ⟨d', mem', same⟩ := List.mem_map.1 mem
    obtain ⟨j, memj, held⟩ := rest.exists_of_mem mem'
    have equal := wf.eq_of_key? (inside i List.mem_cons_self) (inside j (List.mem_cons_of_mem _ memj))
      here.key? (by rw [held.key?, same])
    subst equal
    exact (List.nodup_cons.1 distinct).1 memj

mutual

/-- Every draft a well-formed arena holds is keyed. -/
theorem WellFormed.keyed (wf : a.WellFormed) : ∀ {i : Nat} {d : Draft}, a.Holds i d → d.Keyed
  | i, _, .mk found below =>
    .mk (wf.nodup_keys below (by rw [← children_of_getElem? found]; exact wf.distinct i)
        fun j mem => by rw [children_of_getElem? found]; exact mem)
      (WellFormed.keyedAll wf below)

theorem WellFormed.keyedAll (wf : a.WellFormed) : ∀ {is : List Nat} {ds : List Draft},
    a.HoldsAll is ds → ∀ d ∈ ds, d.Keyed
  | _, _, .nil => fun _ mem => by cases mem
  | _, _, .cons here rest => List.forall_mem_cons.2 ⟨wf.keyed here, WellFormed.keyedAll wf rest⟩

end

/-! ## Reading back -/

/-- Children read back one by one are held one by one, when what one level finds is held. -/
theorem holdsAll_of_mapM {fuel : Nat} (each : ∀ {i : Nat} {d : Draft}, a.tree fuel i = some d → a.Holds i d) :
    ∀ {is : List Nat} {ds : List Draft}, is.mapM (a.tree fuel) = some ds → a.HoldsAll is ds
  | [], ds, read => by
    obtain rfl := Option.some.inj read
    exact .nil
  | c :: cs, ds, read => by
    simp only [List.mapM_cons, Option.bind_eq_bind] at read
    obtain ⟨d, first, read⟩ := Option.bind_eq_some_iff.1 read
    obtain ⟨ds', rest, read⟩ := Option.bind_eq_some_iff.1 read
    obtain rfl := Option.some.inj read
    exact .cons (each first) (holdsAll_of_mapM each rest)

/-- What reading back finds within any number of levels is held there. The induction is on
the levels. -/
theorem holds_of_tree : ∀ {fuel i : Nat} {d : Draft}, a.tree fuel i = some d → a.Holds i d
  | 0, _, _, read => by simp [tree] at read
  | fuel + 1, i, d, read => by
    simp only [tree, Option.bind_eq_bind] at read
    obtain ⟨n, found, read⟩ := Option.bind_eq_some_iff.1 read
    obtain ⟨ds, children, read⟩ := Option.bind_eq_some_iff.1 read
    obtain rfl := Option.some.inj read
    exact .mk found (holdsAll_of_mapM holds_of_tree children)

/-- Freezing the children of a node that holds a draft gives the draft's compiled forest. -/
theorem WellFormed.freezeChildren_eq_compile (wf : a.WellFormed) {i : Nat} {d : Draft}
    (holds : a.Holds i d) : a.freezeChildren i = some d.compile := by
  obtain ⟨n, found, -⟩ := holds.exists_node
  have inside : i < a.nodes.size := lt_size_of_getElem? found
  obtain ⟨d', read⟩ := wf.tree_eq_some a.nodes.size i inside (Nat.le_add_left _ _)
  rw [freezeChildren, read, (holds_of_tree read).unique holds]
  rfl

example : ((Arena.new.addChild 0 (.exact "c") {}).bind fun r =>
    (r.1.addChild 0 (.exact "a") {}).bind fun r => (r.1.addChild 0 (.exact "b") {}).bind fun r =>
      (r.1.addChild 0 (.exact "a") {}).bind fun r => r.1.freezeChildren 0).map (·.map Node.name) =
    some ["c", "a", "b"] := by
  decide

/-! ## Paths through the index -/

/-- Following the literals of `path` from the node `i` through the index leads to the node
`j`. -/
inductive Descent (a : Arena) : Nat → List String → Nat → Prop
  | nil {i : Nat} : Descent a i [] i
  | cons {i c j : Nat} {k : String} {ks : List String} :
      (a.index i).lookup k = some c → Descent a c ks j → Descent a i (k :: ks) j

theorem Descent.append {i j l : Nat} {p q : List String} :
    a.Descent i p j → a.Descent j q l → a.Descent i (p ++ q) l
  | .nil, rest => rest
  | .cons filed more, rest => .cons filed (more.append rest)

theorem WellFormed.below_of_descent (wf : a.WellFormed) {i j : Nat} {p : List String} :
    a.Descent i p j → a.Below i j
  | .nil => .refl
  | .cons filed rest =>
    (Below.of_child ((wf.indexed _ _ _).1 filed).1).trans (wf.below_of_descent rest)

/-- Every node of a well-formed arena lies at a path from the root: its one parent does, and
the parent's index files it under its literal. The induction is on the id. -/
theorem WellFormed.exists_descent (wf : a.WellFormed) (j : Nat) (inside : j < a.nodes.size) :
    ∃ p, a.Descent 0 p j := by
  induction j using Nat.strongRecOn with
  | ind j ih =>
    rcases Nat.eq_zero_or_pos j with rfl | positive
    · exact ⟨[], .nil⟩
    · obtain ⟨p, mem, -⟩ := wf.oneParent j positive inside
      have bounds := wf.above p j mem
      obtain ⟨path, reach⟩ := ih p bounds.1 (by omega)
      obtain ⟨n, found⟩ : ∃ n, a.nodes[j]? = some n := ⟨_, Array.getElem?_eq_getElem inside⟩
      exact ⟨path ++ [n.matcher.literal],
        reach.append (.cons ((wf.indexed p _ j).2 ⟨mem, key?_of_getElem? found⟩) .nil)⟩

theorem HoldsAll.exists_of_mem_ids {is : List Nat} {ds : List Draft} {i : Nat} :
    a.HoldsAll is ds → i ∈ is → ∃ d ∈ ds, a.Holds i d
  | .nil, mem => by cases mem
  | .cons here rest, mem => by
    rcases List.mem_cons.1 mem with rfl | later
    · exact ⟨_, List.mem_cons_self, here⟩
    · obtain ⟨d, mem', holds⟩ := rest.exists_of_mem_ids later
      exact ⟨d, List.mem_cons_of_mem _ mem', holds⟩

section Children

variable (wf : a.WellFormed) {i : Nat} {n : ArenaNode} {ds : List Draft}
  (found : a.nodes[i]? = some n) (below : a.HoldsAll n.children ds)
include wf found below

/-- The child the index of a node files under a literal holds the first child of that key among
the drafts its children hold. -/
theorem WellFormed.find?_of_lookup {k : String} {c : Nat} (filed : (a.index i).lookup k = some c) :
    ∃ d, ds.find? (·.key == k) = some d ∧ a.Holds c d := by
  obtain ⟨mem, keyed⟩ := (wf.indexed i k c).1 filed
  rw [children_of_getElem? found] at mem
  obtain ⟨d, present, holds⟩ := below.exists_of_mem_ids mem
  have any : ds.any (·.key == k) = true :=
    List.any_eq_true.2 ⟨d, present, by rw [beq_iff_eq, ← Option.some.inj (holds.key?.symm.trans keyed)]⟩
  obtain ⟨d', first, present', same⟩ := Draft.exists_find_of_any any
  obtain ⟨c', mem', holds'⟩ := below.exists_of_mem present'
  have equal : c' = c := by
    refine wf.eq_of_key? (p := i) ?_ ?_ (by rw [holds'.key?, same]) keyed
    · rw [children_of_getElem? found]; exact mem'
    · rw [children_of_getElem? found]; exact mem
  exact ⟨d', first, equal ▸ holds'⟩

/-- The first child of a key among the drafts the children of a node hold is held at the child
the index files under that key. -/
theorem WellFormed.lookup_of_find? {k : String} {d : Draft} (first : ds.find? (·.key == k) = some d) :
    ∃ c, (a.index i).lookup k = some c ∧ a.Holds c d := by
  obtain ⟨c, mem, holds⟩ := below.exists_of_mem (List.mem_of_find?_eq_some first)
  have keyed : d.key = k := by simpa using List.find?_some first
  refine ⟨c, (wf.indexed i k c).2 ⟨?_, by rw [holds.key?, keyed]⟩, holds⟩
  rw [children_of_getElem? found]
  exact mem

end Children

/-- Following a path through the index from a node that holds a draft reaches the node that
holds what the path names in the draft. The induction is on the path. -/
theorem WellFormed.nodeAt?_of_descent (wf : a.WellFormed) {i j : Nat} {p : List String} :
    a.Descent i p j → ∀ {d : Draft}, a.Holds i d → ∃ d', Draft.nodeAt? p d = some d' ∧ a.Holds j d'
  | .nil, d, holds => ⟨d, rfl, holds⟩
  | .cons filed rest, d, holds => by
    obtain ⟨n, found, -, -, below⟩ := holds.exists_node
    obtain ⟨dc, first, holdsc⟩ := wf.find?_of_lookup found below filed
    obtain ⟨d', named, held⟩ := wf.nodeAt?_of_descent rest holdsc
    exact ⟨d', by rw [Draft.nodeAt?_cons, first, Option.bind_some, named], held⟩

/-- What a path names in a draft held at a node is held where following the path through the
index leads. The induction is on the path. -/
theorem WellFormed.descent_of_nodeAt? (wf : a.WellFormed) :
    ∀ (p : List String) {i : Nat} {d d' : Draft}, a.Holds i d → Draft.nodeAt? p d = some d' →
      ∃ j, a.Descent i p j ∧ a.Holds j d'
  | [], i, d, d', holds, named => by
    obtain rfl := Option.some.inj named
    exact ⟨i, .nil, holds⟩
  | k :: ks, i, d, d', holds, named => by
    rw [Draft.nodeAt?_cons] at named
    obtain ⟨dc, first, named⟩ := Option.bind_eq_some_iff.1 named
    obtain ⟨n, found, -, -, below⟩ := holds.exists_node
    obtain ⟨c, filed, holdsc⟩ := wf.lookup_of_find? found below first
    obtain ⟨j, reach, held⟩ := wf.descent_of_nodeAt? ks holdsc named
    exact ⟨j, .cons filed reach, held⟩

end Arena

end FieldSelection

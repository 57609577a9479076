import Mathlib.Data.List.Forall2
import FieldSelection.Proofs.Arena.Tree
/-!
# The arena refines the draft tree

Every operation on a well-formed arena does to the draft it holds at the root what the
matching operation on drafts does, at the path that leads through the index to the node it is
made at.

* `WellFormed.addChild_refines`: putting a field under the node at a path puts it under the
  node the path names in the held draft, and the id it answers lies at the path it answers.
* `WellFormed.modifyMarks_refines`: changing the marks of the node at a path changes them in
  the held draft.
* `WellFormed.analyze_refines`: the nodes `Arena.analyze` gives a `base` child are those the
  draft's base fallback gives one, in the same order, so it holds the draft's base fallback.
* `Reachable.holds`: every reachable arena holds a reachable draft at the root.

The change an operation makes at a node reaches the root along the path unchanged
(`WellFormed.holds_modifyAt`): the nodes beside the path lie below other children, and a node
below two children of one node does not exist.
-/

namespace FieldSelection

namespace Arena

variable {a b : Arena}

theorem getElem?_modify_of_ne {xs : Array ArenaNode} {i j : Nat} (g : ArenaNode → ArenaNode)
    (other : j ≠ i) : (Arena.mk (xs.modify i g)).nodes[j]? = xs[j]? := by
  simp [Array.getElem?_modify, Ne.symm other]

/-! ## A change at one node, seen from above -/

theorem WellFormed.lt_of_descent_cons (wf : a.WellFormed) {z x c : Nat} {k : String}
    {ks : List String} (filed : (a.index z).lookup k = some c) (rest : a.Descent c ks x) : z < x :=
  Nat.lt_of_lt_of_le (wf.above z c ((wf.indexed z k c).1 filed).1).1
    (wf.le_of_below (wf.below_of_descent rest))

/-- A change at the node `x` that leaves every node not below `x` as it was changes the draft
held at a node above `x` only at the path that leads to `x`. The induction is on the path; the
drafts beside it are held below other children, so nothing of theirs changed. -/
theorem WellFormed.holds_modifyAt (wf : a.WellFormed) {g : Draft → Draft}
    (keyKept : ∀ d, (g d).key = d.key) {x : Nat}
    (agree : ∀ j, j < a.nodes.size → ¬ a.Below x j → b.nodes[j]? = a.nodes[j]?)
    (here : ∀ d, a.Holds x d → b.Holds x (g d)) :
    ∀ {z : Nat} {path : List String}, a.Descent z path x → ∀ {d : Draft}, a.Holds z d →
      b.Holds z (Draft.modifyAt g path d)
  | _, _, .nil, d, holds => here d holds
  | z, k :: ks, .cons (c := c) filed rest, _, .mk found below => by
    have mem : c ∈ a.children z := ((wf.indexed z k c).1 filed).1
    have keyed : a.key? c = some k := ((wf.indexed z k c).1 filed).2
    have under : a.Below c x := wf.below_of_descent rest
    have above : z < x := wf.lt_of_descent_cons filed rest
    have inside : z < a.nodes.size := lt_size_of_getElem? found
    simp only [Draft.modifyAt]
    refine .mk ((agree z inside fun down => absurd (wf.le_of_below down) (Nat.not_le.2 above)).trans
      found) (below.map fun c' mem' dc held => ?_)
    rw [← children_of_getElem? found] at mem'
    by_cases same : c' = c
    · subst same
      rw [if_pos (by rw [beq_iff_eq]; exact Option.some.inj (held.key?.symm.trans keyed))]
      exact wf.holds_modifyAt keyKept agree here rest held
    · have other : dc.key ≠ k := fun equal =>
        same (wf.eq_of_key? mem' mem (by rw [held.key?, equal]) keyed)
      rw [if_neg (by rw [beq_iff_eq]; exact other)]
      refine held.transport fun j down =>
        agree j (wf.lt_size_of_below (wf.above z c' mem').2 down) fun down' => same ?_
      exact wf.eq_of_below_siblings mem' mem down (under.trans down')

/-! ## Changes at one node -/

/-- Changing the marks of one node changes the marks of the draft held there and nothing held
below it. -/
theorem WellFormed.holds_setMarks (wf : a.WellFormed) (x : Nat) (h : NodeMarks → NodeMarks)
    {d : Draft} (holds : a.Holds x d) :
    (Arena.mk (a.nodes.modify x fun n => { n with marks := h n.marks })).Holds x
      (.mk d.matcher (h d.marks) d.children) := by
  obtain ⟨n, found, matcher, marks, below⟩ := holds.exists_node
  have changed : (a.nodes.modify x fun n => { n with marks := h n.marks })[x]? =
      some { n with marks := h n.marks } := by
    simp [Array.getElem?_modify, found]
  have agree : ∀ c ∈ n.children, ∀ j, a.Below c j →
      (Arena.mk (a.nodes.modify x fun n => { n with marks := h n.marks })).nodes[j]? =
        a.nodes[j]? := fun c mem j down => getElem?_modify_of_ne _ fun same => by
    rw [← children_of_getElem? found] at mem
    subst same
    exact wf.not_below_of_child mem down
  rw [matcher, marks]
  exact .mk changed (below.transport agree)

/-- Settling the parent's dot-path mark on the child changes the marks of the draft held at the
parent as putting a field among a draft's children does. -/
theorem WellFormed.holds_settle (wf : a.WellFormed) {x : Nat} {dotted : Bool} {dm : NameMatcher}
    {df : NodeMarks} {cs : List Draft} (holds : a.Holds x (.mk dm df cs)) :
    (Arena.mk (if dotted then a.nodes else a.nodes.modify x (·.undot))).Holds x
      (.mk dm (if dotted then df else { df with dotPathed := false }) cs) := by
  cases dotted with
  | true => exact holds
  | false => exact wf.holds_setMarks x (fun f => { f with dotPathed := false }) holds

/-- Appending a fresh node under `x` appends its draft to the children of the draft held at
`x`. -/
theorem WellFormed.holds_grow (wf : a.WellFormed) {x : Nat} (inside : x < a.nodes.size)
    (m : NameMatcher) (f : NodeMarks) {p : ArenaNode} {ds : List Draft}
    (found : a.nodes[x]? = some p) (below : a.HoldsAll p.children ds) :
    (a.grow x m f).Holds x (.mk p.matcher p.marks (ds ++ [.mk m f []])) := by
  have parent : (a.grow x m f).nodes[x]? = some (p.adopt m.literal a.nodes.size) := by
    simp [Arena.grow, Array.getElem?_modify, Array.getElem?_push, Nat.ne_of_lt inside, found]
  have fresh : (a.grow x m f).nodes[a.nodes.size]? = some (.fresh m f) := by
    rw [Arena.grow, Array.getElem?_modify, if_neg (Nat.ne_of_lt inside), Array.getElem?_push,
      if_pos rfl]
  refine .mk (n := p.adopt m.literal a.nodes.size) parent (HoldsAll.append (below.transport fun c mem j down => ?_)
    (.cons (.mk fresh .nil) .nil))
  rw [← children_of_getElem? found] at mem
  have bounds := wf.above x c mem
  have lower := wf.le_of_below down
  have upper := wf.lt_size_of_below bounds.2 down
  simp [Arena.grow, Array.getElem?_modify, Array.getElem?_push, Nat.ne_of_lt upper,
    show x ≠ j by omega]

/-- Merging a field into the child `e` of `x` merges it into the child of its key of the draft
held at `x`. -/
theorem WellFormed.holds_merge (wf : a.WellFormed) {x e : Nat} {m : NameMatcher} (f : NodeMarks)
    {p : ArenaNode} {ds : List Draft} (found : a.nodes[x]? = some p) (below : a.HoldsAll p.children ds)
    (filed : p.byName.lookup m.literal = some e) :
    (Arena.mk (a.nodes.modify e (·.merge f))).Holds x
      (.mk p.matcher p.marks (ds.map (Draft.mergeInto m f))) := by
  rw [← index_of_getElem? found] at filed
  obtain ⟨child, keyed⟩ := (wf.indexed x m.literal e).1 filed
  have above := (wf.above x e child).1
  refine .mk ((getElem?_modify_of_ne _ (Nat.ne_of_lt above)).trans found)
    (below.map fun c mem dc held => ?_)
  rw [← children_of_getElem? found] at mem
  by_cases same : c = e
  · subst same
    cases held with
    | mk foundc belowc =>
      rw [Draft.mergeInto_of_eq (c := Draft.mk _ _ _) f
        (Option.some.inj (keyed.symm.trans (key?_of_getElem? foundc))).symm]
      refine .mk (n := ArenaNode.merge f _) (by simp [Array.getElem?_modify, foundc]) ?_
      refine belowc.transport fun c' mem' j down => getElem?_modify_of_ne _ fun equal => ?_
      replace mem' : c' ∈ a.children c := by
        rw [children_of_getElem? foundc]
        exact mem'
      subst equal
      exact wf.not_below_of_child mem' down
  · have other : dc.key ≠ m.literal := fun equal =>
      same (wf.eq_of_key? mem child (by rw [held.key?, equal]) keyed)
    rw [Draft.mergeInto_of_ne f other]
    exact held.transport fun j down => getElem?_modify_of_ne _ fun equal =>
      same (wf.eq_of_child_below mem child (equal ▸ down))

/-! ## Putting a field -/

theorem sameShape_settle (nodes : Array ArenaNode) (x : Nat) (dotted : Bool) :
    SameShape ⟨nodes⟩ ⟨if dotted then nodes else nodes.modify x (·.undot)⟩ := by
  cases dotted with
  | true => exact ⟨rfl, rfl, rfl, rfl⟩
  | false => exact sameShape_undot ⟨nodes⟩ x

/-- Putting a field under `x` changes only `x` and the child that now stands for the field,
which is a child of `x` or the next id. -/
theorem WellFormed.addChild_frame (wf : a.WellFormed) {x y : Nat} {m : NameMatcher}
    {f : NodeMarks} (added : a.addChild x m f = some (b, y)) :
    (y ∈ a.children x ∨ y = a.nodes.size) ∧
      ∀ j, j < a.nodes.size → j ≠ x → j ≠ y → b.nodes[j]? = a.nodes[j]? := by
  obtain ⟨p, found, nodes, child, -, rfl, branch⟩ := addChild_cases added
  have settled : ∀ j, j ≠ x → (Arena.mk (if child.marks.dotPathed then nodes
      else nodes.modify x (·.undot))).nodes[j]? = nodes[j]? := fun j other => by
    split
    · rfl
    · exact getElem?_modify_of_ne _ other
  rcases branch with ⟨filed, -, rfl⟩ | ⟨-, rfl, rfl⟩
  · rw [← index_of_getElem? found] at filed
    refine ⟨.inl ((wf.indexed x m.literal y).1 filed).1, fun j _ notParent notChild => ?_⟩
    rw [settled j notParent]
    exact getElem?_modify_of_ne _ notChild
  · refine ⟨.inr rfl, fun j inside notParent _ => ?_⟩
    rw [settled j notParent]
    simp [Arena.grow, Array.getElem?_modify, Ne.symm notParent, Array.getElem?_push,
      Nat.ne_of_lt inside]

/-- Putting a field files its literal at the node it was put under and keeps every literal
the index filed before. -/
theorem WellFormed.addChild_index {x y : Nat} {m : NameMatcher} {f : NodeMarks}
    (added : a.addChild x m f = some (b, y)) :
    (b.index x).lookup m.literal = some y ∧
      ∀ j k c, (a.index j).lookup k = some c → (b.index j).lookup k = some c := by
  obtain ⟨p, found, nodes, child, -, rfl, branch⟩ := addChild_cases added
  have settled := sameShape_settle nodes x child.marks.dotPathed
  rcases branch with ⟨filed, -, rfl⟩ | ⟨absent, rfl, rfl⟩
  · have same := (sameShape_merge a y f).trans settled
    rw [same.index, index_of_getElem? found]
    exact ⟨filed, fun _ _ _ old => old⟩
  · have inside : x < a.nodes.size := lt_size_of_getElem? found
    rw [← index_of_getElem? found] at absent
    rw [settled.index, show Arena.mk (a.grow x m f).nodes = a.grow x m f from rfl]
    exact ⟨(lookup_index_grow inside absent x m.literal _).2 (.inr ⟨rfl, rfl, rfl⟩),
      fun j k c old => (lookup_index_grow inside absent j k c).2 (.inl old)⟩

theorem Descent.mono (grows : ∀ j k c, (a.index j).lookup k = some c → (b.index j).lookup k = some c) :
    ∀ {i j : Nat} {p : List String}, a.Descent i p j → b.Descent i p j
  | _, _, _, .nil => .nil
  | _, _, _, .cons filed rest => .cons (grows _ _ _ filed) (Descent.mono grows rest)

/-- A draft a field is added to keeps its dot-path mark when the child that now stands for the
field has it, and loses it otherwise. -/
theorem addHere_eq_of_childMarks? {dm m : NameMatcher} {df f c : NodeMarks} {ds : List Draft}
    (marks : Draft.childMarks? (Draft.placeChild ds m f) m.literal = some c) :
    Draft.addHere (.mk dm df ds) m f =
      .mk dm (if c.dotPathed then df else { df with dotPathed := false })
        (Draft.placeChild ds m f) := by
  simp only [Draft.addHere, marks, Option.map_some, Option.getD_some]

/-- Merging a field into the child `e` that the index of `x` files under its literal puts it
among the children of the draft held at `x`. -/
theorem WellFormed.holds_addChild_merge (wf : a.WellFormed) {x e : Nat} {m : NameMatcher}
    {f : NodeMarks} {p : ArenaNode} {ds : List Draft} (found : a.nodes[x]? = some p)
    (below : a.HoldsAll p.children ds) (filed : p.byName.lookup m.literal = some e)
    {child : ArenaNode} (childFound : (a.nodes.modify e (·.merge f))[e]? = some child) :
    (Arena.mk (if child.marks.dotPathed then a.nodes.modify e (·.merge f)
      else (a.nodes.modify e (·.merge f)).modify x (·.undot))).Holds x
        ((Draft.mk p.matcher p.marks ds).addHere m f) := by
  obtain ⟨dy, first, heldy⟩ :=
    wf.find?_of_lookup found below (by rw [index_of_getElem? found]; exact filed)
  obtain ⟨ny, foundy, -, marksy, -⟩ := heldy.exists_node
  have any : ds.any (·.key == m.literal) = true :=
    List.any_eq_true.2 ⟨dy, List.mem_of_find?_eq_some first, by simpa using List.find?_some first⟩
  have childMarks : child.marks = Draft.mergeMarks dy.marks f := by
    simp [Array.getElem?_modify, foundy] at childFound
    rw [← childFound, marksy]
    rfl
  have marks : Draft.childMarks? (Draft.placeChild ds m f) m.literal = some child.marks := by
    rw [Draft.childMarks?_placeChild, childMarks]
    simp [Draft.childMarks?, first]
  rw [addHere_eq_of_childMarks? marks, Draft.placeChild_of_any f any]
  exact (wf.of_sameShape (sameShape_merge a e f)).holds_settle (wf.holds_merge f found below filed)

/-- Appending a node under `x`, whose index files no child under the literal, puts the field
among the children of the draft held at `x`. -/
theorem WellFormed.holds_addChild_grow (wf : a.WellFormed) {x : Nat} {m : NameMatcher}
    {f : NodeMarks} {p : ArenaNode} {ds : List Draft} (found : a.nodes[x]? = some p)
    (below : a.HoldsAll p.children ds) (absent : p.byName.lookup m.literal = none)
    {child : ArenaNode} (childFound : (a.grow x m f).nodes[a.nodes.size]? = some child) :
    (Arena.mk (if child.marks.dotPathed then (a.grow x m f).nodes
      else (a.grow x m f).nodes.modify x (·.undot))).Holds x
        ((Draft.mk p.matcher p.marks ds).addHere m f) := by
  have inside : x < a.nodes.size := lt_size_of_getElem? found
  rw [← index_of_getElem? found] at absent
  have unfiled : ds.find? (·.key == m.literal) = none := by
    cases first : ds.find? (·.key == m.literal) with
    | none => rfl
    | some d =>
      obtain ⟨c, filed, -⟩ := wf.lookup_of_find? found below first
      rw [absent] at filed
      cases filed
  have missingKey : ds.any (·.key == m.literal) = false :=
    List.any_eq_false.2 fun d mem => by simpa using List.find?_eq_none.1 unfiled d mem
  have childFresh : child = .fresh m f := by
    rw [Arena.grow, Array.getElem?_modify, if_neg (Nat.ne_of_lt inside), Array.getElem?_push,
      if_pos rfl] at childFound
    exact (Option.some.inj childFound).symm
  have marks : Draft.childMarks? (Draft.placeChild ds m f) m.literal = some child.marks := by
    rw [Draft.childMarks?_placeChild, childFresh, Draft.childMarks?, unfiled]
    rfl
  rw [addHere_eq_of_childMarks? marks, Draft.placeChild_of_not_any f missingKey]
  exact (wf.grow inside m f absent).holds_settle (wf.holds_grow inside m f found below)

/-- Putting a field under `x` puts it among the children of the draft held at `x`. -/
theorem WellFormed.holds_addChild (wf : a.WellFormed) {x y : Nat} {m : NameMatcher}
    {f : NodeMarks} (added : a.addChild x m f = some (b, y)) {d : Draft} (holds : a.Holds x d) :
    b.Holds x (d.addHere m f) := by
  obtain ⟨p, found, nodes, child, childFound, rfl, branch⟩ := addChild_cases added
  cases holds with
  | @mk _ n ds found' below =>
    obtain rfl : p = n := Option.some.inj (found.symm.trans found')
    rcases branch with ⟨filed, -, rfl⟩ | ⟨absent, rfl, rfl⟩
    · exact wf.holds_addChild_merge found below filed childFound
    · exact wf.holds_addChild_grow found below absent childFound

/-- Putting a field under a node of a well-formed arena succeeds. -/
theorem WellFormed.exists_addChild (wf : a.WellFormed) {x : Nat} (inside : x < a.nodes.size)
    (m : NameMatcher) (f : NodeMarks) : ∃ b y, a.addChild x m f = some (b, y) := by
  suffices known : (a.addChild x m f).isSome by
    obtain ⟨⟨b, y⟩, added⟩ := Option.isSome_iff_exists.1 known
    exact ⟨b, y, added⟩
  obtain ⟨p, found⟩ : ∃ p, a.nodes[x]? = some p := ⟨_, Array.getElem?_eq_getElem inside⟩
  cases filed : p.byName.lookup m.literal with
  | some e =>
    have mem := ((wf.indexed x m.literal e).1 (by rw [index_of_getElem? found]; exact filed)).1
    simp [Arena.addChild, found, filed, (wf.above x e mem).2, Array.getElem?_modify]
  | none => simp [Arena.addChild, found, filed, Array.getElem?_modify]

/-- **Putting a field refines.** Putting a field under the node a path leads to puts it under
the node the path names in the draft held at the root, and the id answered lies at the path
answered. -/
theorem WellFormed.addChild_refines (wf : a.WellFormed) {d : Draft} (holds : a.Holds 0 d)
    {path : List String} {x y : Nat} (reach : a.Descent 0 path x) {m : NameMatcher}
    {f : NodeMarks} (added : a.addChild x m f = some (b, y)) :
    b.Holds 0 (d.addChild path m f).1 ∧ b.Descent 0 (d.addChild path m f).2 y := by
  obtain ⟨child, frame⟩ := wf.addChild_frame added
  obtain ⟨filed, grows⟩ := WellFormed.addChild_index added
  have agree : ∀ j, j < a.nodes.size → ¬ a.Below x j → b.nodes[j]? = a.nodes[j]? :=
    fun j inside outside => frame j inside (fun same => outside (same ▸ .refl)) fun same => by
      subst same
      rcases child with mem | fresh
      · exact outside (.of_child mem)
      · exact Nat.lt_irrefl _ (fresh ▸ inside)
  exact ⟨wf.holds_modifyAt (fun d => Draft.key_addHere d m f) agree
      (fun _ held => wf.holds_addChild added held) reach holds,
    (reach.mono grows).append (.cons filed .nil)⟩

/-! ## Changing marks -/

/-- Changing the marks of any node there is succeeds. -/
theorem exists_modifyMarks {x : Nat} (inside : x < a.nodes.size)
    (g : NodeMarks → NodeMarks) : ∃ b, a.modifyMarks x g = some b :=
  ⟨_, by unfold Arena.modifyMarks; exact if_pos inside⟩

/-- **Changing marks refines.** Changing the marks of the node a path leads to changes them at
the node the path names in the draft held at the root, and every path leads where it did. -/
theorem WellFormed.modifyMarks_refines (wf : a.WellFormed) {d : Draft} (holds : a.Holds 0 d)
    {path : List String} {x : Nat} (reach : a.Descent 0 path x) {g : NodeMarks → NodeMarks}
    (changed : a.modifyMarks x g = some b) :
    b.Holds 0 (d.modifyMarks path g) ∧
      ∀ {i j : Nat} {p : List String}, a.Descent i p j → b.Descent i p j := by
  obtain ⟨-, rfl⟩ := modifyMarks_eq_some changed
  refine ⟨?_, Descent.mono fun j k c old => by rw [(sameShape_marks a x g).index]; exact old⟩
  refine wf.holds_modifyAt (fun n => by cases n; rfl)
    (fun j _ outside => getElem?_modify_of_ne _ fun same => outside (same ▸ .refl))
    (fun d' held => ?_) reach holds
  cases d' with
  | mk m f cs => exact wf.holds_setMarks x g held

/-! ## Giving nodes their base children -/

theorem HoldsAll.length_eq {is : List Nat} {ds : List Draft} (holds : a.HoldsAll is ds) :
    is.length = ds.length := by
  induction is generalizing ds with
  | nil =>
    cases holds
    rfl
  | cons _ _ ih =>
    cases holds with
    | cons _ rest => simp [ih rest]

/-- The nodes of held children, read one by one, have the marks of the drafts they hold. -/
theorem HoldsAll.mapM_nodes {is : List Nat} {ds : List Draft} (holds : a.HoldsAll is ds) :
    ∃ kids, is.mapM (a.nodes[·]?) = some kids ∧ kids.map (·.marks) = ds.map (·.marks) := by
  induction is generalizing ds with
  | nil =>
    cases holds
    exact ⟨[], rfl, rfl⟩
  | cons _ _ ih =>
    cases holds with
    | cons here rest =>
      obtain ⟨n, found, -, marks, -⟩ := here.exists_node
      obtain ⟨kids, read, same⟩ := ih rest
      exact ⟨n :: kids, by simp [List.mapM_cons, found, read], by simp [marks, same]⟩

/-- Collecting below held children one after another finds the paths the draft's search lists
below the drafts they hold, when collecting below each child does. -/
theorem collect_children {fuel : Nat} {path : List String} {inside : Nat → Prop}
    (each : ∀ c d, inside c → a.Holds c d → ∃ ids, a.collect fuel c = some ids ∧
      List.Forall₂ (a.Descent 0) (Draft.exclusionParents (path ++ [d.key]) d) ids) :
    ∀ {is : List Nat} {ds : List Draft}, a.HoldsAll is ds → (∀ c ∈ is, inside c) →
      ∃ belows, is.mapM (a.collect fuel) = some belows ∧
        List.Forall₂ (a.Descent 0) (Draft.exclusionParentsIn path ds) belows.flatten
  | _, _, .nil, _ => ⟨[], rfl, by simp [Draft.exclusionParentsIn]⟩
  | c :: _, d :: _, .cons here rest, within => by
    obtain ⟨ids, first, related⟩ := each c d (within c List.mem_cons_self) here
    obtain ⟨belows, read, relatedRest⟩ :=
      collect_children each rest fun c' mem => within c' (List.mem_cons_of_mem _ mem)
    refine ⟨ids :: belows, by simp [List.mapM_cons, first, read], ?_⟩
    rw [Draft.exclusionParentsIn, List.flatten_cons]
    exact List.rel_append related relatedRest

/-- Children read from the arena, with the marks of the drafts they hold, are all exclusions
exactly when those drafts are, when there are some. -/
theorem all_exclusions_of_marks {kids : List ArenaNode} {ds : List Draft} (dm : NameMatcher)
    (df : NodeMarks) (marks : kids.map (·.marks) = ds.map (·.marks)) (nonEmpty : ds ≠ []) :
    (kids.all fun c => c.marks.negated || c.marks.negativeParent) =
      (Draft.mk dm df ds).onlyExclusions := by
  have alike := congrArg (List.all · fun f => f.negated || f.negativeParent) marks
  simp only [List.all_map, Function.comp_def] at alike
  simp [Draft.onlyExclusions, List.isEmpty_eq_false_iff.2 nonEmpty, alike]

/-- Collecting below a held node finds, in the same order, the nodes at the paths the draft's
own search lists: those with children and only exclusions among them. The induction is on the
levels allowed, which suffice since ids grow downwards. -/
theorem WellFormed.collect_eq (wf : a.WellFormed) : ∀ (fuel : Nat) {i : Nat} {d : Draft}
    {path : List String}, a.Holds i d → a.Descent 0 path i → a.nodes.size ≤ i + fuel →
      ∃ ids, a.collect fuel i = some ids ∧
        List.Forall₂ (a.Descent 0) (Draft.exclusionParents path d) ids
  | 0, _, _, _, holds, _, enough => absurd (lt_size_of_key? holds.key?) (by omega)
  | fuel + 1, i, _, path, @Holds.mk _ _ n ds found below, reach, enough => by
    have each : ∀ c d, c ∈ a.children i → a.Holds c d → ∃ ids, a.collect fuel c = some ids ∧
        List.Forall₂ (a.Descent 0) (Draft.exclusionParents (path ++ [d.key]) d) ids :=
      fun c d mem held => wf.collect_eq fuel held
        (reach.append (.cons ((wf.indexed i d.key c).2 ⟨mem, held.key?⟩) .nil))
        (by have := (wf.above i c mem).1; omega)
    rw [Draft.exclusionParents.eq_1]
    simp only [collect, found, Option.bind_eq_bind, Option.bind_some]
    split
    · rename_i empty
      rw [List.isEmpty_iff] at empty
      rw [empty] at below
      cases below
      exact ⟨[], rfl, by simp [Draft.onlyExclusions, Draft.exclusionParentsIn]⟩
    · rename_i filled
      obtain ⟨kids, read, marks⟩ := below.mapM_nodes
      obtain ⟨belows, readBelow, related⟩ := collect_children each below
        fun c mem => by rw [children_of_getElem? found]; exact mem
      have nonEmpty : ds ≠ [] := by
        rw [← List.length_pos_iff, ← below.length_eq]
        rw [List.isEmpty_iff] at filled
        exact List.length_pos_iff.2 filled
      rw [read, readBelow]
      refine ⟨_, rfl, ?_⟩
      rw [all_exclusions_of_marks n.matcher n.marks marks nonEmpty]
      refine List.rel_append ?_ related
      split
      · exact .cons reach .nil
      · exact .nil

theorem WellFormed.foldlM_addBase_refines : ∀ {c : Arena} {paths : List (List String)}
    {ids : List Nat}, c.WellFormed → List.Forall₂ (c.Descent 0) paths ids → ∀ {t : Draft},
      c.Holds 0 t → ∃ b, ids.foldlM addBase c = some b ∧ b.WellFormed ∧
        b.Holds 0 (paths.foldl (fun t path => (t.addChild path (.exact "base")
          { dotPathed := ((Draft.nodeAt? path t).map (·.marks.dotPathed)).getD false }).1) t)
  | c, [], [], wf, .nil, t, holds => ⟨c, rfl, wf, holds⟩
  | c, path :: paths, id :: ids, wf, .cons reach rest, t, holds => by
    obtain ⟨dt, named, heldt⟩ := wf.nodeAt?_of_descent reach holds
    obtain ⟨n, found, -, marks, -⟩ := heldt.exists_node
    have inside : id < c.nodes.size := lt_size_of_getElem? found
    obtain ⟨b, y, added⟩ := wf.exists_addChild inside (.exact "base") { dotPathed := n.marks.dotPathed }
    have heldb := (wf.addChild_refines holds reach added).1
    have restb := rest.imp fun _ _ r => r.mono (WellFormed.addChild_index added).2
    obtain ⟨e, done, wfe, helde⟩ := (wf.addChild added).foldlM_addBase_refines restb heldb
    refine ⟨e, ?_, wfe, ?_⟩
    · simp [List.foldlM_cons, addBase, found, added, done]
    · simpa only [List.foldl_cons, named, Option.map_some, Option.getD_some, marks] using helde

/-- **Giving base children refines.** On a well-formed arena `analyze` succeeds, keeps it well
formed and gives the draft held at the root its base fallback. -/
theorem WellFormed.analyze_refines (wf : a.WellFormed) {d : Draft} (holds : a.Holds 0 d) :
    ∃ b, a.analyze 0 = some b ∧ b.WellFormed ∧ b.Holds 0 d.withBaseFallback := by
  obtain ⟨ids, collected, related⟩ := wf.collect_eq a.nodes.size holds .nil (Nat.le_add_left _ _)
  obtain ⟨b, done, wfb, heldb⟩ := wf.foldlM_addBase_refines related holds
  exact ⟨b, by simp [analyze, collected, done], wfb, heldb⟩

/-! ## Reachable arenas hold reachable drafts -/

theorem holds_new : Arena.new.Holds 0 Draft.root :=
  .mk (n := .fresh (.exact "root") { dotPathed := true }) rfl .nil

/-- Every reachable arena holds at the root a draft that the matching operations on drafts
reach: each operation at a node is made on drafts at a path that leads there. -/
theorem Reachable.holds {a : Arena} (reached : a.Reachable) : ∃ d : Draft, d.Reachable ∧ a.Holds 0 d := by
  induction reached with
  | new => exact ⟨Draft.root, .root, holds_new⟩
  | addChild reachedA added ih =>
    obtain ⟨d, reachedD, holds⟩ := ih
    have wf := reachedA.wellFormed
    obtain ⟨p, found, -⟩ := addChild_cases added
    obtain ⟨path, reach⟩ := wf.exists_descent _ (lt_size_of_getElem? found)
    exact ⟨_, .addChild path _ _ reachedD, (wf.addChild_refines holds reach added).1⟩
  | modifyMarks reachedA changed ih =>
    obtain ⟨d, reachedD, holds⟩ := ih
    have wf := reachedA.wellFormed
    obtain ⟨inside, -⟩ := modifyMarks_eq_some changed
    obtain ⟨path, reach⟩ := wf.exists_descent _ inside
    exact ⟨_, .modifyMarks path _ reachedD, (wf.modifyMarks_refines holds reach changed).1⟩

/-! ## The invariant and what it gives -/

/-- **The arena's invariant.** Every arena reachable from the synthetic root, by putting fields
under any of its nodes and changing the marks of any of its nodes, is well formed: the index of
every node files exactly the literals of its children under their ids, the children of a node
are distinct ids above its own, and every node but the root is the child of exactly one node.
Such an arena holds at the root a draft that the same operations on drafts reach; giving its
nodes their base children succeeds and reaches another such arena; and freezing the children of
its root ends, in the draft's compiled forest, with distinct names at the top level and among
the children of every node. The forest of every expression that compiles has distinct names
likewise. -/
theorem reachable_wellFormed_freezes :
    (∀ a : Arena, a.Reachable →
      a.WellFormed ∧
        (∃ d : Draft, d.Reachable ∧ a.Holds 0 d ∧ a.freezeChildren 0 = some d.compile ∧
          ∃ b, a.analyze 0 = some b ∧ b.Reachable ∧ b.Holds 0 d.withBaseFallback) ∧
        ∃ ns, a.freezeChildren 0 = some ns ∧ (ns.map Node.name).Nodup ∧
          ∀ n ∈ Node.preorder ns, (n.children.map Node.name).Nodup) ∧
      ∀ (text : String) (ns : List Node), Selection.parse text = .ok ns →
        (ns.map Node.name).Nodup ∧ ∀ n ∈ Node.preorder ns, (n.children.map Node.name).Nodup := by
  refine ⟨fun a reached => ?_, Selection.parse_names_distinct⟩
  have wf := reached.wellFormed
  obtain ⟨d, reachedD, holds⟩ := reached.holds
  obtain ⟨b, analyzed, -, heldb⟩ := wf.analyze_refines holds
  have frozen := wf.freezeChildren_eq_compile holds
  exact ⟨wf, ⟨d, reachedD, holds, frozen, b, analyzed, reached.analyze analyzed, heldb⟩,
    d.compile, frozen, Draft.compile_names_distinct (wf.keyed holds)⟩

/-- Putting `a`, then `b`, then `a` again under the root reaches an arena with all that the
invariant gives, and `a[x],b,a[y]` compiles to a forest of distinct names. -/
theorem repeated_field_arena :
    ∃ a₁ a₂ a₃ : Arena, Arena.new.addChild 0 (.exact "a") {} = some (a₁, 1) ∧
      a₁.addChild 0 (.exact "b") {} = some (a₂, 2) ∧ a₂.addChild 0 (.exact "a") {} = some (a₃, 1) ∧
      a₃.Reachable ∧
      (a₃.WellFormed ∧
        (∃ d : Draft, d.Reachable ∧ a₃.Holds 0 d ∧ a₃.freezeChildren 0 = some d.compile ∧
          ∃ b, a₃.analyze 0 = some b ∧ b.Reachable ∧ b.Holds 0 d.withBaseFallback) ∧
        ∃ ns, a₃.freezeChildren 0 = some ns ∧ (ns.map Node.name).Nodup ∧
          ∀ n ∈ Node.preorder ns, (n.children.map Node.name).Nodup) ∧
      ∃ ns, Selection.parse "a[x],b,a[y]" = .ok ns ∧ (ns.map Node.name).Nodup ∧
        ∀ n ∈ Node.preorder ns, (n.children.map Node.name).Nodup := by
  have reached := @Reachable.addChild _ _ 0 1 (.exact "a") {}
    (@Reachable.addChild _ _ 0 2 (.exact "b") {}
      (@Reachable.addChild _ _ 0 1 (.exact "a") {} .new rfl) rfl) rfl
  exact ⟨_, _, _, rfl, rfl, rfl, reached, reachable_wellFormed_freezes.1 _ reached,
    _, rfl, reachable_wellFormed_freezes.2 "a[x],b,a[y]" _ rfl⟩

end Arena

end FieldSelection

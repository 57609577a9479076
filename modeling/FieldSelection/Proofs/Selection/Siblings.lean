import FieldSelection.Proofs.Selection.Flags
/-!
# Siblings have distinct names

While an expression is read, a field whose literal is already the key of a child of the node it
is put under merges into that child instead of standing beside it (`Draft.placeChild`), and no
other change to the tree touches keys. So at every moment the children of every node have
distinct keys (`Draft.Keyed`): the key a field is filed under names at most one child, and the
search by key that `placeChild` and `nodeAt?` make finds exactly that child
(`Draft.Keyed.find?_eq_some_iff`). Being a tree, the draft has no node below two parents and no
cycle, so freezing it is structural recursion.

* `Draft.keyed_of_reachable`: every tree reached from the synthetic root by putting any field
  under any node and changing the marks of any node, in any order, is keyed.
* `Draft.nodeAt?_addChild_child`, `Draft.nodeAt?_addChild`, `Draft.nodeAt?_modifyMarks`: the
  path that putting a field under a node hands back names a node, and no change of the tree
  stops a path from naming one, so the paths the reader keeps always lead somewhere.
* `Selection.parse_names_distinct`: the forest an expression compiles to has distinct names at
  the top level and among the nested nodes of every node.
-/

namespace FieldSelection

namespace Draft

/-- The children of every node have distinct keys. -/
inductive Keyed : Draft → Prop
  | mk {m : NameMatcher} {f : NodeMarks} {cs : List Draft} :
      (cs.map key).Nodup → (∀ c ∈ cs, Keyed c) → Keyed (.mk m f cs)

namespace Keyed

theorem nodup {d : Draft} (keyed : Keyed d) : (d.children.map key).Nodup := by
  cases keyed with
  | mk nodup _ => exact nodup

theorem inner {d : Draft} (keyed : Keyed d) : ∀ c ∈ d.children, Keyed c := by
  cases keyed with
  | mk _ inner => exact inner

/-- Whether a node is keyed reads only its children. -/
theorem of_children {d : Draft} (nodup : (d.children.map key).Nodup)
    (inner : ∀ c ∈ d.children, Keyed c) : Keyed d := by
  cases d with
  | mk m f cs => exact .mk nodup inner

theorem leaf (m : NameMatcher) (f : NodeMarks) : Keyed (.mk m f []) :=
  .mk List.nodup_nil fun _ mem => by cases mem

/-- Among keyed children, the search by key finds exactly the child of that key. -/
theorem find?_eq_some_iff {m : NameMatcher} {f : NodeMarks} {cs : List Draft}
    (keyed : Keyed (.mk m f cs)) (k : String) (c : Draft) :
    cs.find? (·.key == k) = some c ↔ c ∈ cs ∧ c.key = k := by
  constructor
  · intro found
    exact ⟨List.mem_of_find?_eq_some found, by simpa using List.find?_some found⟩
  · rintro ⟨mem, rfl⟩
    have present : cs.any (·.key == c.key) = true := List.any_eq_true.2 ⟨c, mem, by simp⟩
    obtain ⟨c', found, mem', same⟩ := exists_find_of_any present
    rw [found, List.inj_on_of_nodup_map keyed.nodup mem' mem same]

end Keyed

theorem keyed_root : Keyed Draft.root := Keyed.leaf _ _

/-- Putting a field among keyed children keeps the node keyed: the field merges into the child
of its key, which keeps its children, or comes last as a leaf of a new key. -/
theorem keyed_addHere {n : Draft} (keyed : Keyed n) (m : NameMatcher) (f : NodeMarks) :
    Keyed (addHere n m f) := by
  cases n with
  | mk dm df cs =>
    refine Keyed.of_children ?_ fun c mem => ?_
    · rw [children_addHere]
      exact nodup_placeChild keyed.nodup m f
    · rw [children_addHere] at mem
      rcases mem_placeChild mem with ⟨old, -⟩ | ⟨c₀, present, -, rfl⟩ | rfl
      · exact keyed.inner c old
      · have keyed₀ := keyed.inner c₀ present
        exact Keyed.of_children keyed₀.nodup keyed₀.inner
      · exact Keyed.leaf m f

/-- A change at the nodes a path leads to, which keeps keys and keeps keyed nodes keyed, keeps
the tree keyed. The induction is on the path. -/
theorem keyed_modifyAt {g : Draft → Draft} (keyKept : ∀ n, (g n).key = n.key)
    (keeps : ∀ n, Keyed n → Keyed (g n)) :
    ∀ (path : List String) {d : Draft}, Keyed d → Keyed (modifyAt g path d)
  | [], _, keyed => keeps _ keyed
  | k :: ks, .mk m f cs, keyed => by
    refine .mk ?_ fun c mem => ?_
    · rw [keys_modifyAt_children keyKept k ks cs]
      exact keyed.nodup
    · obtain ⟨c₀, present, rfl⟩ := List.mem_map.1 mem
      split
      · exact keyed_modifyAt keyKept keeps ks (keyed.inner c₀ present)
      · exact keyed.inner c₀ present

theorem keyed_addChild {d : Draft} (keyed : Keyed d) (path : List String) (m : NameMatcher)
    (f : NodeMarks) : Keyed (d.addChild path m f).1 :=
  keyed_modifyAt (fun n => key_addHere n m f) (fun _ keyed' => keyed_addHere keyed' m f) path keyed

theorem keyed_modifyMarks {d : Draft} (keyed : Keyed d) (path : List String)
    (g : NodeMarks → NodeMarks) : Keyed (d.modifyMarks path g) := by
  unfold modifyMarks
  refine keyed_modifyAt (fun n => ?_) (fun n keyed' => ?_) path keyed
  · cases n
    rfl
  · cases n with
    | mk m f cs => exact Keyed.of_children keyed'.nodup keyed'.inner

/-- The trees that building an expression can reach from the synthetic root: any field put
under the nodes of any path, and the marks of the nodes of any path changed in any way, one
change after another. -/
inductive Reachable : Draft → Prop
  | root : Reachable Draft.root
  | addChild {d : Draft} (path : List String) (m : NameMatcher) (f : NodeMarks) :
      Reachable d → Reachable (d.addChild path m f).1
  | modifyMarks {d : Draft} (path : List String) (g : NodeMarks → NodeMarks) :
      Reachable d → Reachable (d.modifyMarks path g)

/-- Every reachable tree is keyed: the invariant holds at the root and each change keeps it. -/
theorem keyed_of_reachable {d : Draft} (reached : Reachable d) : Keyed d := by
  induction reached with
  | root => exact keyed_root
  | addChild path m f _ ih => exact keyed_addChild ih path m f
  | modifyMarks path g _ ih => exact keyed_modifyMarks ih path g

/-- A sound tree, the invariant the reader keeps, is keyed. -/
theorem Sound.keyed {pending : List String} {d : Draft} (sound : Sound pending d) : Keyed d := by
  induction sound with
  | mk nodup _ _ _ _ _ ih => exact .mk nodup ih

/-! ## Paths name nodes -/

/-- Below the node it starts from, a path is looked up among the children by its first key. -/
theorem nodeAt?_cons (k : String) (ks : List String) (d : Draft) :
    nodeAt? (k :: ks) d = (d.children.find? (·.key == k)).bind (nodeAt? ks) := by
  cases d with
  | mk m f cs =>
    rw [children_mk]
    cases found : cs.find? (·.key == k) with
    | none => simp only [nodeAt?, found, Option.bind_none]
    | some c => simp only [nodeAt?, found, Option.bind_some]

theorem exists_of_nodeAt?_cons {k : String} {ks : List String} {d : Draft}
    (named : (nodeAt? (k :: ks) d).isSome) :
    ∃ c, d.children.find? (·.key == k) = some c ∧ (nodeAt? ks c).isSome := by
  rw [nodeAt?_cons] at named
  cases found : d.children.find? (·.key == k) with
  | none => simp [found] at named
  | some c => exact ⟨c, rfl, by simpa [found] using named⟩

/-- Which paths name a node below a node reads only its children. -/
theorem nodeAt?_of_children {d d' : Draft} (same : d'.children = d.children) :
    ∀ p, (nodeAt? p d).isSome → (nodeAt? p d').isSome
  | [], _ => rfl
  | k :: ks, named => by
    rw [nodeAt?_cons, same, ← nodeAt?_cons]
    exact named

/-- Putting a field among the children of a node keeps every path naming a node: the child of
the field's key merges it and keeps its children, or the field comes last. -/
theorem nodeAt?_addHere (n : Draft) (m : NameMatcher) (f : NodeMarks) :
    ∀ p, (nodeAt? p n).isSome → (nodeAt? p (addHere n m f)).isSome
  | [], _ => rfl
  | k :: ks, named => by
    obtain ⟨c, found, below⟩ := exists_of_nodeAt?_cons named
    rw [nodeAt?_cons, children_addHere]
    cases present : n.children.any (·.key == m.literal) with
    | true =>
      have sameKey : ((·.key == k) ∘ mergeInto m f) = (·.key == k) :=
        funext fun c => by simp [key_mergeInto]
      rw [placeChild_of_any f present, List.find?_map, sameKey, found, Option.map_some,
        Option.bind_some]
      exact nodeAt?_of_children (by cases c; simp only [mergeInto]; split <;> rfl) ks below
    | false =>
      rw [placeChild_of_not_any f present, List.find?_append, found, Option.some_or,
        Option.bind_some]
      exact below

/-- A change at the nodes a path leads to, which keeps keys and keeps every path below the
changed nodes naming a node, keeps every path naming a node. The induction is on the path of the
change. -/
theorem nodeAt?_modifyAt {g : Draft → Draft} (keyKept : ∀ n, (g n).key = n.key)
    (keeps : ∀ n p, (nodeAt? p n).isSome → (nodeAt? p (g n)).isSome) :
    ∀ (q p : List String) (d : Draft), (nodeAt? p d).isSome → (nodeAt? p (modifyAt g q d)).isSome
  | [], p, d, named => keeps d p named
  | _ :: _, [], _, _ => rfl
  | k' :: ks', k :: ks, .mk m f cs, named => by
    obtain ⟨c, found, below⟩ := exists_of_nodeAt?_cons named
    have sameKey : ((·.key == k) ∘ fun c => if c.key == k' then modifyAt g ks' c else c) =
        (·.key == k) :=
      funext fun c => by simp only [Function.comp_apply, key_modifyAt_child keyKept k' ks' c]
    rw [nodeAt?_cons]
    simp only [modifyAt, children_mk]
    rw [List.find?_map, sameKey]
    simp only [children_mk] at found
    rw [found, Option.map_some, Option.bind_some]
    split
    · exact nodeAt?_modifyAt keyKept keeps ks' ks c below
    · exact below

/-- Putting a field under any node keeps every path naming a node. -/
theorem nodeAt?_addChild {d : Draft} (path : List String) (m : NameMatcher) (f : NodeMarks)
    {p : List String} (named : (nodeAt? p d).isSome) : (nodeAt? p (d.addChild path m f).1).isSome :=
  nodeAt?_modifyAt (fun n => key_addHere n m f) (fun n => nodeAt?_addHere n m f) path p d named

/-- Changing the marks of any node keeps every path naming a node. -/
theorem nodeAt?_modifyMarks {d : Draft} (path : List String) (g : NodeMarks → NodeMarks)
    {p : List String} (named : (nodeAt? p d).isSome) :
    (nodeAt? p (d.modifyMarks path g)).isSome := by
  unfold modifyMarks
  refine nodeAt?_modifyAt (fun n => ?_) (fun n => nodeAt?_of_children ?_) path p d named
  · cases n
    rfl
  · cases n
    rfl

/-- The path that putting a field under a node hands back names a node: the child of the field's
key. The induction is on the path of the parent. -/
theorem nodeAt?_addChild_child (m : NameMatcher) (f : NodeMarks) :
    ∀ (path : List String) (d : Draft), (nodeAt? path d).isSome →
      (nodeAt? (d.addChild path m f).2 (d.addChild path m f).1).isSome
  | [], d, _ => by
    obtain ⟨c, found, -, -⟩ := exists_find_of_any (any_placeChild d.children m f)
    simp only [addChild, List.nil_append, modifyAt]
    rw [nodeAt?_cons, children_addHere, found, Option.bind_some]
    rfl
  | k :: ks, .mk m' f' cs, named => by
    obtain ⟨c, found, below⟩ := exists_of_nodeAt?_cons named
    simp only [children_mk] at found
    have keyed : c.key = k := by simpa using List.find?_some found
    have sameKey : ((·.key == k) ∘ fun c => if c.key == k then modifyAt (addHere · m f) ks c
        else c) = (·.key == k) :=
      funext fun c => by
        simp only [Function.comp_apply, key_modifyAt_child (fun n => key_addHere n m f) k ks c]
    have deeper := nodeAt?_addChild_child m f ks c below
    simp only [addChild] at deeper ⊢
    rw [List.cons_append, nodeAt?_cons]
    simp only [modifyAt, children_mk]
    rw [List.find?_map, sameKey, found, Option.map_some, Option.bind_some, if_pos (by simp [keyed])]
    exact deeper

/-! ## Frozen names -/

theorem name_freeze (next : Nat) (d : Draft) : (freeze next d).1.name = d.key := by
  cases d
  rfl

/-- Frozen siblings are named by their keys, in order. -/
theorem names_freezeList (next : Nat) (cs : List Draft) :
    (freezeList next cs).1.map Node.name = cs.map key := by
  induction cs generalizing next with
  | nil => rfl
  | cons c cs ih => simp only [freezeList, List.map_cons, name_freeze, ih]

mutual

/-- Freezing a keyed node gives a node whose nested nodes have distinct names, at every depth. -/
theorem freeze_names_distinct : ∀ (next : Nat) (d : Draft), Keyed d →
    ∀ n ∈ (freeze next d).1.subtree, (n.children.map Node.name).Nodup
  | next, .mk m f cs, keyed => by
    have below := freezeList_names_distinct (next + 1) cs keyed.inner
    have named := names_freezeList (next + 1) cs
    rcases frozen : freezeList (next + 1) cs with ⟨children, after⟩
    rw [frozen] at below named
    simp only [freeze, frozen, Node.subtree_eq, Node.children_mk, List.mem_cons]
    rintro n (rfl | deeper)
    · rw [Node.children_mk, named]
      exact keyed.nodup
    · exact below n deeper

/-- Freezing keyed siblings gives nodes whose nested nodes have distinct names, at every
depth. -/
theorem freezeList_names_distinct : ∀ (next : Nat) (cs : List Draft), (∀ c ∈ cs, Keyed c) →
    ∀ n ∈ Node.preorder (freezeList next cs).1, (n.children.map Node.name).Nodup
  | _, [], _ => by simp [freezeList]
  | next, c :: cs, keyed => by
    have here := freeze_names_distinct next c (keyed c List.mem_cons_self)
    rcases frozen : freeze next c with ⟨n, after⟩
    rw [frozen] at here
    have rest := freezeList_names_distinct after cs fun c' mem => keyed c' (List.mem_cons_of_mem _ mem)
    rcases frozenRest : freezeList after cs with ⟨ns, last⟩
    rw [frozenRest] at rest
    simp only [freezeList, frozen, frozenRest, Node.preorder_cons, List.mem_append]
    rintro n' (top | deeper)
    · exact here n' top
    · exact rest n' deeper

end

/-- A keyed tree compiles to a forest with distinct names at the top level and among the
nested nodes of every node. -/
theorem compile_names_distinct {d : Draft} (keyed : Keyed d) :
    (d.compile.map Node.name).Nodup ∧
      ∀ n ∈ Node.preorder d.compile, (n.children.map Node.name).Nodup := by
  refine ⟨?_, freezeList_names_distinct 1 d.children keyed.inner⟩
  rw [compile, names_freezeList]
  exact keyed.nodup

end Draft

namespace Selection

/-- The forest any expression compiles to has distinct names at the top level and among the
nested nodes of every node: the reader keeps its tree sound, so keyed. -/
theorem parse_names_distinct (text : String) (ns : List Node) (parsed : parse text = .ok ns) :
    (ns.map Node.name).Nodup ∧ ∀ n ∈ Node.preorder ns, (n.children.map Node.name).Nodup := by
  by_cases blank : Text.trimBlanks text.toList = []
  · simp only [parse, blank, List.isEmpty_nil, if_true, Except.ok.injEq] at parsed
    subst parsed
    simp
  · obtain ⟨r', ran, rfl⟩ := (parse_eq_ok_iff blank).1 parsed
    have sound := (Reader.expressionList_marks _ Draft.Sound.root ran).1.withBaseFallback
    exact Draft.compile_names_distinct sound.keyed

end Selection

end FieldSelection

import FieldSelection.Selection.Draft
/-!
# Putting a field where it already stands

`Draft.addChild` merges a field into the child of the same key. Two facts about it carry the
law that a field written twice reads as the join of its nested parts:

* putting a field twice is putting it once with the two marks merged (`addChild_addChild`);
* once a field has been read with a nested list, its node is braced and has lost every mark an
  incoming field could still clear, and its parent is no longer dot-pathed (`Settled`); putting
  the field again, or bracing its node again, then changes nothing (`addChild_of_settled`,
  `brace_of_settled`), and this lasts while the node's own subtree grows
  (`Settled.modifyAt_below`).

A path may lead to several nodes when siblings share a key; `AllAt` asks a property of every
node the path leads to, the way `modifyAt` changes all of them.
-/

namespace FieldSelection.Draft

/-! ## Marks -/

theorem mergeMarks_assoc (a b c : NodeMarks) :
    mergeMarks (mergeMarks a b) c = mergeMarks a (mergeMarks b c) := by
  simp only [mergeMarks, Bool.or_assoc, Bool.and_assoc]

@[simp] theorem key_mk (m : NameMatcher) (f : NodeMarks) (cs : List Draft) :
    (Draft.mk m f cs).key = m.literal := rfl

@[simp] theorem matcher_mk (m : NameMatcher) (f : NodeMarks) (cs : List Draft) :
    (Draft.mk m f cs).matcher = m := rfl

@[simp] theorem marks_mk (m : NameMatcher) (f : NodeMarks) (cs : List Draft) :
    (Draft.mk m f cs).marks = f := rfl

@[simp] theorem children_mk (m : NameMatcher) (f : NodeMarks) (cs : List Draft) :
    (Draft.mk m f cs).children = cs := rfl

/-! ## Changing the nodes a path leads to -/

/-- Changing the nodes at a path changes the keys of none of the nodes along it. -/
theorem key_modifyAt {g : Draft → Draft} (keyed : ∀ d, (g d).key = d.key) :
    ∀ (path : List String) (d : Draft), (modifyAt g path d).key = d.key
  | [], d => keyed d
  | _ :: _, .mk _ _ _ => rfl

/-- A change at a nonempty path keeps the marks of the node it starts from. -/
theorem marks_modifyAt_cons (g : Draft → Draft) (k : String) (ks : List String) (d : Draft) :
    (modifyAt g (k :: ks) d).marks = d.marks := by
  cases d
  rfl

theorem modifyAt_append (g : Draft → Draft) :
    ∀ (p q : List String) (d : Draft), modifyAt g (p ++ q) d = modifyAt (modifyAt g q) p d
  | [], _, _ => rfl
  | k :: ks, q, .mk m f cs => by
    simp only [List.cons_append, modifyAt]
    congr 1
    apply List.map_congr_left
    intro c _
    split
    · exact modifyAt_append g ks q c
    · rfl

/-- Two changes at one path are one change, when the first keeps keys. -/
theorem modifyAt_modifyAt {g h : Draft → Draft} (keyed : ∀ d, (g d).key = d.key) :
    ∀ (path : List String) (d : Draft),
      modifyAt h path (modifyAt g path d) = modifyAt (fun n => h (g n)) path d
  | [], _ => rfl
  | k :: ks, .mk m f cs => by
    simp only [modifyAt, List.map_map]
    congr 1
    apply List.map_congr_left
    intro c _
    by_cases here : c.key = k
    · simp only [Function.comp, here, beq_self_eq_true, if_true, key_modifyAt keyed]
      exact modifyAt_modifyAt keyed ks c
    · have other : (c.key == k) = false := by simpa using here
      simp only [Function.comp, other, Bool.false_eq_true, if_false]

/-- Every node that `path` leads to in `d`, as `modifyAt` finds them, has `P`. -/
def AllAt (P : Draft → Prop) : List String → Draft → Prop
  | [], d => P d
  | k :: ks, .mk _ _ cs => ∀ c ∈ cs, c.key = k → AllAt P ks c

theorem AllAt.mono {P Q : Draft → Prop} (weaker : ∀ d, P d → Q d) :
    ∀ {path : List String} {d : Draft}, AllAt P path d → AllAt Q path d
  | [], _, holds => weaker _ holds
  | _ :: _, .mk _ _ _, holds => fun c mem same => AllAt.mono weaker (holds c mem same)

theorem AllAt.of_forall {P : Draft → Prop} (always : ∀ d, P d) :
    ∀ (path : List String) (d : Draft), AllAt P path d
  | [], d => always d
  | _ :: _, .mk _ _ _ => fun c _ _ => AllAt.of_forall always _ c

/-- A change that leaves every node it reaches as it is leaves the tree as it is. -/
theorem modifyAt_eq_self {g : Draft → Draft} :
    ∀ {path : List String} {d : Draft}, AllAt (fun n => g n = n) path d → modifyAt g path d = d
  | [], _, fixed => fixed
  | k :: ks, .mk m f cs, fixed => by
    simp only [modifyAt]
    congr 1
    refine (List.map_congr_left fun c mem => ?_).trans (List.map_id cs)
    split
    · rename_i here
      exact modifyAt_eq_self (fixed c mem (by simpa using here))
    · rfl

/-- What the changed nodes have after a change that keeps keys, every node the path leads to
has. -/
theorem allAt_modifyAt {g : Draft → Draft} {P : Draft → Prop} (keyed : ∀ d, (g d).key = d.key) :
    ∀ {path : List String} {d : Draft}, AllAt (fun n => P (g n)) path d →
      AllAt P path (modifyAt g path d)
  | [], _, holds => holds
  | k :: ks, .mk m f cs, holds => by
    simp only [modifyAt, AllAt, List.mem_map]
    rintro _ ⟨c, mem, rfl⟩ same
    by_cases here : c.key = k
    · simp only [here, beq_self_eq_true, if_true] at same ⊢
      exact allAt_modifyAt keyed (holds c mem here)
    · have other : (c.key == k) = false := by simpa using here
      simp only [other, Bool.false_eq_true, if_false] at same
      exact absurd same here

theorem mk_eta (d : Draft) : Draft.mk d.matcher d.marks d.children = d := by
  cases d
  rfl

/-! ## Putting a field twice -/

/-- A child, with the field `m` merged into it when their keys match. -/
def mergeInto (m : NameMatcher) (f : NodeMarks) : Draft → Draft
  | .mk cm cf ccs => if cm.literal = m.literal then .mk cm (mergeMarks cf f) ccs else .mk cm cf ccs

theorem key_mergeInto (m : NameMatcher) (f : NodeMarks) (c : Draft) :
    (mergeInto m f c).key = c.key := by
  cases c with
  | mk cm cf ccs =>
  by_cases same : cm.literal = m.literal
  · simp [mergeInto, same]
  · simp [mergeInto, same]

theorem mergeInto_of_eq {m : NameMatcher} (f : NodeMarks) {c : Draft} (same : c.key = m.literal) :
    mergeInto m f c = .mk c.matcher (mergeMarks c.marks f) c.children := by
  cases c
  simp_all [mergeInto]

theorem mergeInto_of_ne {m : NameMatcher} (f : NodeMarks) {c : Draft} (other : c.key ≠ m.literal) :
    mergeInto m f c = c := by
  cases c
  simp_all [mergeInto]

theorem mergeInto_mergeInto (m : NameMatcher) (f g : NodeMarks) (c : Draft) :
    mergeInto m g (mergeInto m f c) = mergeInto m (mergeMarks f g) c := by
  cases c with
  | mk cm cf ccs =>
  by_cases same : cm.literal = m.literal
  · simp [mergeInto, same, mergeMarks_assoc]
  · simp [mergeInto, same]

/-- Among children with one of its key, a field merges into each of them. -/
theorem placeChild_of_any {cs : List Draft} {m : NameMatcher} (f : NodeMarks)
    (found : cs.any (·.key == m.literal) = true) : placeChild cs m f = cs.map (mergeInto m f) := by
  simp only [placeChild, found, if_true]
  apply List.map_congr_left
  intro c _
  cases c
  simp [mergeInto]

/-- Among children with none of its key, a field is put last. -/
theorem placeChild_of_not_any {cs : List Draft} {m : NameMatcher} (f : NodeMarks)
    (missing : cs.any (·.key == m.literal) = false) : placeChild cs m f = cs ++ [.mk m f []] := by
  simp [placeChild, missing]

theorem any_placeChild (cs : List Draft) (m : NameMatcher) (f : NodeMarks) :
    (placeChild cs m f).any (·.key == m.literal) = true := by
  cases found : cs.any (·.key == m.literal) with
  | true =>
    rw [placeChild_of_any f found]
    simpa [List.any_map, Function.comp_def, key_mergeInto] using found
  | false =>
    rw [placeChild_of_not_any f found]
    simp

/-- The first child of a key a list has, when it has one. -/
theorem exists_find_of_any {cs : List Draft} {k : String} (found : cs.any (·.key == k) = true) :
    ∃ c, cs.find? (·.key == k) = some c ∧ c ∈ cs ∧ c.key = k := by
  obtain ⟨c, first⟩ := Option.isSome_iff_exists.1 (List.find?_isSome.2 (List.any_eq_true.1 found))
  exact ⟨c, first, List.mem_of_find?_eq_some first, by simpa using List.find?_some first⟩

/-- Putting a field twice among children is putting it once with the marks merged; the
children of other keys are left as they were. -/
theorem placeChild_placeChild (cs : List Draft) (m : NameMatcher) (f g : NodeMarks) :
    placeChild (placeChild cs m f) m g = placeChild cs m (mergeMarks f g) := by
  cases found : cs.any (·.key == m.literal) with
  | true =>
    have stillFound := any_placeChild cs m f
    rw [placeChild_of_any f found] at stillFound ⊢
    rw [placeChild_of_any g stillFound, placeChild_of_any _ found, List.map_map]
    apply List.map_congr_left
    intro c _
    exact mergeInto_mergeInto m f g c
  | false =>
    have nowFound := any_placeChild cs m f
    rw [placeChild_of_not_any f found] at nowFound ⊢
    rw [placeChild_of_any g nowFound, placeChild_of_not_any _ found, List.map_append]
    congr 1
    · refine (List.map_congr_left fun c mem => mergeInto_of_ne g fun same => ?_).trans
        (List.map_id cs)
      have other := List.any_eq_false.1 found c mem
      simp [same] at other
    · simp [mergeInto]

/-- After a field is put, the first child of its key has its marks merged in, or has them. -/
theorem childMarks?_placeChild (cs : List Draft) (m : NameMatcher) (f : NodeMarks) :
    childMarks? (placeChild cs m f) m.literal =
      some (((childMarks? cs m.literal).map (mergeMarks · f)).getD f) := by
  cases found : cs.any (·.key == m.literal) with
  | true =>
    obtain ⟨c, first, -, same⟩ := exists_find_of_any found
    rw [placeChild_of_any f found]
    simp only [childMarks?, List.find?_map, Function.comp_def, key_mergeInto, first,
      Option.map_some, Option.getD_some, mergeInto_of_eq f same, marks_mk]
  | false =>
    have none : cs.find? (·.key == m.literal) = none := by
      rw [List.find?_eq_none]
      intro c mem
      simpa using List.any_eq_false.1 found c mem
    rw [placeChild_of_not_any f found]
    simp [childMarks?, List.find?_append, none]

theorem key_addHere (d : Draft) (m : NameMatcher) (f : NodeMarks) : (addHere d m f).key = d.key := by
  cases d
  rfl

/-- Adding a field twice to a node is adding it once with the marks merged; the node stays
dot-pathed only while the child it merges into does. -/
theorem addHere_addHere (d : Draft) (m : NameMatcher) (f g : NodeMarks) :
    addHere (addHere d m f) m g = addHere d m (mergeMarks f g) := by
  cases d with
  | mk dm df cs =>
  simp only [addHere, placeChild_placeChild, childMarks?_placeChild, Option.map_some,
    Option.getD_some]
  have merged : ((childMarks? cs m.literal).map (mergeMarks · (mergeMarks f g))).getD
      (mergeMarks f g) = mergeMarks (((childMarks? cs m.literal).map (mergeMarks · f)).getD f) g := by
    cases childMarks? cs m.literal <;> simp [mergeMarks_assoc]
  rw [merged]
  generalize ((childMarks? cs m.literal).map (mergeMarks · f)).getD f = A
  have dotted : (mergeMarks A g).dotPathed = (A.dotPathed && g.dotPathed) := rfl
  rw [dotted]
  cases A.dotPathed <;> cases g.dotPathed <;> rfl

/-- Putting a field twice is putting it once, with the two marks merged. -/
theorem addChild_addChild (d : Draft) (path : List String) (m : NameMatcher) (f g : NodeMarks) :
    ((d.addChild path m f).1.addChild path m g).1 = (d.addChild path m (mergeMarks f g)).1 := by
  simp only [addChild]
  rw [modifyAt_modifyAt (fun n => key_addHere n m f)]
  congr 1
  funext n
  exact addHere_addHere n m f g

/-! ## A settled field -/

/-- Marks that hold none of the marks a merge can clear: neither empty-nested, dot-pathed nor a
negative parent. -/
def Cleared (f : NodeMarks) : Prop :=
  f.emptyNested = false ∧ f.dotPathed = false ∧ f.negativeParent = false

/-- Marks that a field merged into them leaves as they are: braced and cleared. -/
def SettledMarks (f : NodeMarks) : Prop :=
  f.braced = true ∧ Cleared f

theorem mergeMarks_cleared (e : NodeMarks) {f : NodeMarks} (cleared : Cleared f) :
    Cleared (mergeMarks e f) := by
  obtain ⟨empty, undotted, positive⟩ := cleared
  simp [Cleared, mergeMarks, empty, undotted, positive]

theorem mergeMarks_of_settled {e : NodeMarks} (settled : SettledMarks e) (f : NodeMarks) :
    mergeMarks e f = e := by
  obtain ⟨braced, empty, undotted, positive⟩ := settled
  cases e
  simp_all [mergeMarks]

/-- Putting a field with cleared marks leaves every child of its key cleared. -/
theorem placeChild_cleared {cs : List Draft} {m : NameMatcher} {f : NodeMarks}
    (cleared : Cleared f) : ∀ c ∈ placeChild cs m f, c.key = m.literal → Cleared c.marks := by
  cases found : cs.any (·.key == m.literal) with
  | true =>
    rw [placeChild_of_any f found]
    intro c' mem same
    obtain ⟨c, -, rfl⟩ := List.mem_map.1 mem
    rw [key_mergeInto] at same
    rw [mergeInto_of_eq f same]
    exact mergeMarks_cleared _ cleared
  | false =>
    rw [placeChild_of_not_any f found]
    intro c mem same
    rcases List.mem_append.1 mem with old | new
    · have other := List.any_eq_false.1 found c old
      simp [same] at other
    · rw [List.mem_singleton.1 new]
      exact cleared

/-- A node with its own marks braced, as reading a nested list leaves it. -/
def braceNode : Draft → Draft
  | .mk m f cs => .mk m { f with braced := true } cs

theorem key_braceNode (d : Draft) : (braceNode d).key = d.key := by
  cases d
  rfl

theorem modifyMarks_brace (d : Draft) (path : List String) :
    d.modifyMarks path (fun f => { f with braced := true }) = modifyAt braceNode path d := rfl

theorem settledMarks_braceNode {c : Draft} (cleared : Cleared c.marks) :
    SettledMarks (braceNode c).marks := by
  cases c
  exact ⟨rfl, cleared⟩

theorem settledMarks_addHere {d : Draft} (settled : SettledMarks d.marks) (m : NameMatcher)
    (f : NodeMarks) : SettledMarks (addHere d m f).marks := by
  cases d with
  | mk dm df cs =>
  obtain ⟨braced, empty, undotted, positive⟩ := settled
  simp only [addHere, marks_mk]
  split
  · exact ⟨braced, empty, undotted, positive⟩
  · exact ⟨braced, empty, rfl, positive⟩

/-- A node that is not dot-pathed, has a child of key `k`, and whose children of that key all
have settled marks. -/
def SettledAt (k : String) (d : Draft) : Prop :=
  d.marks.dotPathed = false ∧ d.children.any (·.key == k) = true ∧
    ∀ c ∈ d.children, c.key = k → SettledMarks c.marks

/-- The field `m` stands settled under every node that `parent` leads to. -/
def Settled (parent : List String) (m : NameMatcher) (d : Draft) : Prop :=
  AllAt (SettledAt m.literal) parent d

/-- Where the field stands settled, putting it again leaves the node as it is. -/
theorem addHere_of_settledAt {m : NameMatcher} {d : Draft} (settled : SettledAt m.literal d)
    (f : NodeMarks) : addHere d m f = d := by
  cases d with
  | mk dm df cs =>
  obtain ⟨undotted, found, marks⟩ := settled
  simp only [marks_mk, children_mk] at undotted found marks
  have kept : placeChild cs m f = cs := by
    rw [placeChild_of_any f found]
    refine (List.map_congr_left fun c mem => ?_).trans (List.map_id cs)
    by_cases same : c.key = m.literal
    · rw [mergeInto_of_eq f same, mergeMarks_of_settled (marks c mem same), mk_eta]
      rfl
    · exact mergeInto_of_ne f same
  obtain ⟨c, first, mem, same⟩ := exists_find_of_any found
  have childUndotted : c.marks.dotPathed = false := (marks c mem same).2.2.1
  simp only [addHere, kept, childMarks?, first, Option.map_some, Option.getD_some, childUndotted,
    Bool.false_eq_true, if_false]
  cases df
  simp_all

/-- Where the field stands settled, putting it again leaves the tree as it is. -/
theorem addChild_of_settled {parent : List String} {m : NameMatcher} {d : Draft}
    (settled : Settled parent m d) (f : NodeMarks) : (d.addChild parent m f).1 = d :=
  modifyAt_eq_self (settled.mono fun _ here => addHere_of_settledAt here f)

/-- Bracing a node's children of a key that are braced already leaves the node as it is. -/
theorem brace_of_settledAt {k : String} {d : Draft} (settled : SettledAt k d) :
    modifyAt braceNode [k] d = d := by
  cases d with
  | mk dm df cs =>
  obtain ⟨-, -, marks⟩ := settled
  simp only [modifyAt]
  congr 1
  refine (List.map_congr_left fun c mem => ?_).trans (List.map_id cs)
  split
  · rename_i same
    cases c with
    | mk cm cf ccs =>
    have braced : cf.braced = true := (marks _ mem (by simpa using same)).1
    cases cf
    simp_all [braceNode]
  · rfl

/-- Where the field stands settled, bracing it again leaves the tree as it is. -/
theorem brace_of_settled {parent : List String} {m : NameMatcher} {d : Draft}
    (settled : Settled parent m d) :
    d.modifyMarks (parent ++ [m.literal]) (fun f => { f with braced := true }) = d := by
  rw [modifyMarks_brace, modifyAt_append]
  exact modifyAt_eq_self (settled.mono fun _ here => brace_of_settledAt here)

theorem key_modifyAt_child {g : Draft → Draft} (keyed : ∀ d, (g d).key = d.key) (k : String)
    (ks : List String) (c : Draft) : (if c.key == k then modifyAt g ks c else c).key = c.key := by
  split
  · exact key_modifyAt keyed ks c
  · rfl

/-- A change below the children of key `k` leaves a node settled for `k` when the children it
reaches end with settled marks. -/
theorem settledAt_modifyAt {g : Draft → Draft} (keyed : ∀ d, (g d).key = d.key) {k : String}
    {ks : List String} {d : Draft} (undotted : d.marks.dotPathed = false)
    (found : d.children.any (·.key == k) = true)
    (marks : ∀ c ∈ d.children, c.key = k → SettledMarks (modifyAt g ks c).marks) :
    SettledAt k (modifyAt g (k :: ks) d) := by
  cases d with
  | mk dm df cs =>
  simp only [marks_mk, children_mk] at undotted found marks
  refine ⟨undotted, ?_, ?_⟩
  · simp only [modifyAt, children_mk, List.any_map, Function.comp_def, key_modifyAt_child keyed]
    exact found
  · simp only [modifyAt, children_mk, List.mem_map]
    rintro _ ⟨c, mem, rfl⟩ same
    rw [key_modifyAt_child keyed] at same
    simp only [same, beq_self_eq_true, if_true]
    exact marks c mem same

theorem settledMarks_modifyAt {g : Draft → Draft}
    (kept : ∀ d, SettledMarks d.marks → SettledMarks (g d).marks) :
    ∀ (ks : List String) (c : Draft), SettledMarks c.marks → SettledMarks (modifyAt g ks c).marks
  | [], c, settled => kept c settled
  | _ :: _, c, settled => by
    rw [marks_modifyAt_cons]
    exact settled

/-- Changes in the subtrees of settled children, that keep keys and settled marks, keep the
node settled. -/
theorem SettledAt.modifyAt_below {g : Draft → Draft} (keyed : ∀ d, (g d).key = d.key)
    (kept : ∀ d, SettledMarks d.marks → SettledMarks (g d).marks) {k : String} {d : Draft}
    (settled : SettledAt k d) (ks : List String) : SettledAt k (modifyAt g (k :: ks) d) :=
  settledAt_modifyAt keyed settled.1 settled.2.1 fun c mem same =>
    settledMarks_modifyAt kept ks c (settled.2.2 c mem same)

/-- A settled field stays settled while the tree grows below it. -/
theorem Settled.modifyAt_below {g : Draft → Draft} (keyed : ∀ d, (g d).key = d.key)
    (kept : ∀ d, SettledMarks d.marks → SettledMarks (g d).marks) {parent : List String}
    {m : NameMatcher} {d : Draft} (settled : Settled parent m d) (ks : List String) :
    Settled parent m (modifyAt g (parent ++ m.literal :: ks) d) := by
  unfold Settled
  rw [modifyAt_append]
  exact allAt_modifyAt (key_modifyAt keyed _)
    (settled.mono fun _ here => here.modifyAt_below keyed kept ks)

/-- A settled field stays settled while fields are put below it. -/
theorem Settled.addChild {parent : List String} {m : NameMatcher} {d : Draft}
    (settled : Settled parent m d) {path : List String} (below : parent ++ [m.literal] <+: path)
    (m' : NameMatcher) (f : NodeMarks) : Settled parent m (d.addChild path m' f).1 := by
  obtain ⟨ks, rfl⟩ := below
  simp only [Draft.addChild, List.append_assoc, List.singleton_append]
  exact settled.modifyAt_below (fun n => key_addHere n m' f)
    (fun _ kept => settledMarks_addHere kept m' f) ks

/-- A settled field stays settled while the marks of nodes below it change in ways that keep
settled marks settled. -/
theorem Settled.modifyMarks {parent : List String} {m : NameMatcher} {d : Draft}
    (settled : Settled parent m d) {path : List String} (below : parent ++ [m.literal] <+: path)
    {g : NodeMarks → NodeMarks} (kept : ∀ f, SettledMarks f → SettledMarks (g f)) :
    Settled parent m (d.modifyMarks path g) := by
  obtain ⟨ks, rfl⟩ := below
  simp only [Draft.modifyMarks, List.append_assoc, List.singleton_append]
  refine settled.modifyAt_below (fun n => ?_) (fun n settledN => ?_) ks
  · cases n
    rfl
  · cases n
    exact kept _ settledN

/-- Putting a field and bracing it, as reading it with a nested list begins, settles it. -/
theorem settledAt_brace_addHere (d : Draft) (m : NameMatcher) :
    SettledAt m.literal (modifyAt braceNode [m.literal] (addHere d m {})) := by
  cases d with
  | mk dm df cs =>
  have childUndotted :
      (((childMarks? cs m.literal).map (mergeMarks · {})).getD {}).dotPathed = false := by
    cases childMarks? cs m.literal <;> simp [mergeMarks]
  refine settledAt_modifyAt key_braceNode ?_ (any_placeChild cs m {}) fun c mem same =>
    settledMarks_braceNode (placeChild_cleared ⟨rfl, rfl, rfl⟩ c mem same)
  simp [addHere, childMarks?_placeChild, childUndotted]

theorem settled_brace_addChild (d : Draft) (parent : List String) (m : NameMatcher) :
    Settled parent m ((d.addChild parent m {}).1.modifyMarks (parent ++ [m.literal])
      (fun f => { f with braced := true })) := by
  rw [modifyMarks_brace]
  simp only [addChild]
  rw [modifyAt_append, modifyAt_modifyAt (fun n => key_addHere n m {})]
  exact allAt_modifyAt (fun n => (key_modifyAt key_braceNode [m.literal] _).trans (key_addHere n m {}))
    (AllAt.of_forall (fun n => settledAt_brace_addHere n m) _ _)

end FieldSelection.Draft

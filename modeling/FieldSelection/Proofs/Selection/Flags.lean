import FieldSelection.Proofs.Selection.Broadcast
import FieldSelection.Proofs.Selection.Compiled
import FieldSelection.Proofs.Selection.Merging
/-!
# The marks of a compiled node agree with its nested nodes

Every node an expression compiles to has marks that agree with its nested nodes: it is braced
exactly when it has nested nodes, an empty-nested node has none, and a negative parent has some
and is not negated.

While the reader builds the tree these agreements hold in two halves. The consistent half holds
of every node at every moment (`NodeMarks.Consistent`): a node with children is braced, a braced
node is not empty-nested, a negative parent is not negated. The resolved half (`NodeMarks.Resolved`:
a braced node has children, a negative parent is braced) fails only at the node whose nested
part is being read: it is braced before its children are read, and an inner step of a negated
path is put before it is braced. `Draft.Sound pending d` says that below `d` siblings have
distinct keys, every node is consistent, and every node is resolved but the last of the nodes
the path `pending` leads to, all of which exist and are braced.

Each change the reader makes keeps `Sound` with the pending path moved as the reading moves:
putting a field under the pending node (`Sound.addChild`), putting it and bracing it to read its
nested part (`Sound.addChild_brace`), putting the last step of a negated path
(`Sound.addChild_negate`), and going back up once a nested part is read (`Sound.close`).
-/

namespace FieldSelection

namespace NodeMarks

/-- Marks that every node has while it is built, `filled` telling whether it has children: a
node with children is braced, a braced node is not empty-nested, and a negative parent is not
negated. -/
structure Consistent (f : NodeMarks) (filled : Prop) : Prop where
  braced : filled → f.braced = true
  notEmpty : f.braced = true → f.emptyNested = false
  positive : f.negativeParent = true → f.negated = false

/-- Marks that a node has once its nested part is read: a braced node has children, and a
negative parent is braced. -/
structure Resolved (f : NodeMarks) (filled : Prop) : Prop where
  filled : f.braced = true → filled
  braced : f.negativeParent = true → f.braced = true

/-- Marks that agree with whether the node has children (`filled`): braced exactly when it has,
never when empty-nested, and with children and not negated when a negative parent. -/
structure Agree (f : NodeMarks) (filled : Prop) : Prop where
  braced : f.braced = true ↔ filled
  emptyNested : f.emptyNested = true → ¬filled
  negativeParent : f.negativeParent = true → filled ∧ f.negated = false

/-- The two halves the reader keeps apart make up agreement exactly. -/
theorem agree_iff {f : NodeMarks} {filled : Prop} :
    f.Agree filled ↔ f.Consistent filled ∧ f.Resolved filled := by
  constructor
  · intro agree
    refine ⟨⟨agree.braced.2, fun braced => ?_, fun negative => (agree.negativeParent negative).2⟩,
      ⟨agree.braced.1, fun negative => agree.braced.2 (agree.negativeParent negative).1⟩⟩
    cases empty : f.emptyNested
    · rfl
    · exact absurd (agree.braced.1 braced) (agree.emptyNested empty)
  · rintro ⟨consistent, resolved⟩
    refine ⟨⟨resolved.filled, consistent.braced⟩, fun empty full => ?_, fun negative =>
      ⟨resolved.filled (resolved.braced negative), consistent.positive negative⟩⟩
    have cleared := consistent.notEmpty (consistent.braced full)
    rw [empty] at cleared
    cases cleared

end NodeMarks

namespace Draft

/-- A node with consistent marks. -/
def Consistent (d : Draft) : Prop := d.marks.Consistent (d.children ≠ [])

/-- A node with resolved marks. -/
def Resolved (d : Draft) : Prop := d.marks.Resolved (d.children ≠ [])

/-- The pending path below the child of key `k`: its rest when it goes through that child. -/
def pendingBelow (pending : List String) (k : String) : List String :=
  if pending.head? = some k then pending.tail else []

@[simp] theorem pendingBelow_nil (k : String) : pendingBelow [] k = [] := rfl

@[simp] theorem pendingBelow_self (k : String) (ks : List String) :
    pendingBelow (k :: ks) k = ks := by
  simp [pendingBelow]

theorem pendingBelow_of_ne {k k' : String} (other : k' ≠ k) (ks : List String) :
    pendingBelow (k :: ks) k' = [] := by
  simp [pendingBelow, Ne.symm other]

/-- Below a node, its own marks apart: siblings have distinct keys, every node is consistent,
and every node is resolved but the last of those the path `pending` leads to; these exist and
are braced. -/
inductive Sound : List String → Draft → Prop
  | mk {pending : List String} {m : NameMatcher} {f : NodeMarks} {cs : List Draft} :
      (cs.map key).Nodup →
      (∀ c ∈ cs, Consistent c) →
      (∀ c ∈ cs, pending = [c.key] ∨ Resolved c) →
      (∀ k ∈ pending.head?, ∃ c ∈ cs, c.key = k) →
      (∀ c ∈ cs, pending.head? = some c.key → c.marks.braced = true) →
      (∀ c ∈ cs, Sound (pendingBelow pending c.key) c) →
      Sound pending (.mk m f cs)

namespace Sound

variable {pending : List String}

theorem nodup {m : NameMatcher} {f : NodeMarks} {cs : List Draft}
    (sound : Sound pending (.mk m f cs)) : (cs.map key).Nodup := by
  cases sound with
  | mk nodup _ _ _ _ _ => exact nodup

theorem consistent {m : NameMatcher} {f : NodeMarks} {cs : List Draft}
    (sound : Sound pending (.mk m f cs)) : ∀ c ∈ cs, Consistent c := by
  cases sound with
  | mk _ consistent _ _ _ _ => exact consistent

theorem resolved {m : NameMatcher} {f : NodeMarks} {cs : List Draft}
    (sound : Sound pending (.mk m f cs)) : ∀ c ∈ cs, pending = [c.key] ∨ Resolved c := by
  cases sound with
  | mk _ _ resolved _ _ _ => exact resolved

theorem reached {m : NameMatcher} {f : NodeMarks} {cs : List Draft}
    (sound : Sound pending (.mk m f cs)) : ∀ k ∈ pending.head?, ∃ c ∈ cs, c.key = k := by
  cases sound with
  | mk _ _ _ reached _ _ => exact reached

theorem braced {m : NameMatcher} {f : NodeMarks} {cs : List Draft}
    (sound : Sound pending (.mk m f cs)) :
    ∀ c ∈ cs, pending.head? = some c.key → c.marks.braced = true := by
  cases sound with
  | mk _ _ _ _ braced _ => exact braced

theorem inner {m : NameMatcher} {f : NodeMarks} {cs : List Draft}
    (sound : Sound pending (.mk m f cs)) : ∀ c ∈ cs, Sound (pendingBelow pending c.key) c := by
  cases sound with
  | mk _ _ _ _ _ inner => exact inner

/-- Soundness below a node does not read the node's own matcher and marks. -/
theorem of_children {d d' : Draft} (sound : Sound pending d) (same : d'.children = d.children) :
    Sound pending d' := by
  cases d
  cases d' with
  | mk m f cs =>
    rw [children_mk] at same
    subst same
    exact .mk sound.nodup sound.consistent sound.resolved sound.reached sound.braced sound.inner

/-- With nothing pending, every node below is consistent, resolved and sound. -/
theorem children {m : NameMatcher} {f : NodeMarks} {cs : List Draft}
    (sound : Sound [] (.mk m f cs)) : ∀ c ∈ cs, Consistent c ∧ Resolved c ∧ Sound [] c := by
  intro c mem
  refine ⟨sound.consistent c mem, ?_, by simpa using sound.inner c mem⟩
  rcases sound.resolved c mem with never | resolved
  · cases never
  · exact resolved

/-- A node with consistent, resolved and sound children is sound with nothing pending. -/
theorem of_forall {m : NameMatcher} {f : NodeMarks} {cs : List Draft} (nodup : (cs.map key).Nodup)
    (children : ∀ c ∈ cs, Consistent c ∧ Resolved c ∧ Sound [] c) : Sound [] (.mk m f cs) :=
  .mk nodup (fun c mem => (children c mem).1) (fun c mem => .inr (children c mem).2.1)
    (fun _ none => by cases none) (fun _ _ none => by cases none)
    (fun c mem => by simpa using (children c mem).2.2)

theorem root : Sound [] Draft.root :=
  of_forall List.nodup_nil fun _ mem => by cases mem

end Sound

/-! ## Putting a field among children -/

theorem mem_placeChild {cs : List Draft} {m : NameMatcher} {f : NodeMarks} {c' : Draft}
    (mem : c' ∈ placeChild cs m f) :
    (c' ∈ cs ∧ c'.key ≠ m.literal) ∨
      (∃ c ∈ cs, c.key = m.literal ∧ c' = .mk c.matcher (mergeMarks c.marks f) c.children) ∨
      c' = .mk m f [] := by
  cases found : cs.any (·.key == m.literal) with
  | true =>
    rw [placeChild_of_any f found] at mem
    obtain ⟨c, present, rfl⟩ := List.mem_map.1 mem
    by_cases same : c.key = m.literal
    · exact .inr (.inl ⟨c, present, same, mergeInto_of_eq f same⟩)
    · rw [mergeInto_of_ne f same]
      exact .inl ⟨present, same⟩
  | false =>
    rw [placeChild_of_not_any f found] at mem
    rcases List.mem_append.1 mem with old | new
    · refine .inl ⟨old, fun same => ?_⟩
      have other := List.any_eq_false.1 found c' old
      simp [same] at other
    · exact .inr (.inr (List.mem_singleton.1 new))

theorem nodup_placeChild {cs : List Draft} (nodup : (cs.map key).Nodup) (m : NameMatcher)
    (f : NodeMarks) : ((placeChild cs m f).map key).Nodup := by
  cases found : cs.any (·.key == m.literal) with
  | true =>
    rw [placeChild_of_any f found, List.map_map]
    have sameKeys : key ∘ mergeInto m f = key := funext (key_mergeInto m f)
    rwa [sameKeys]
  | false =>
    rw [placeChild_of_not_any f found, List.map_append]
    refine List.nodup_append.2 ⟨nodup, by simp, ?_⟩
    intro k old k' new
    rw [List.mem_singleton.1 new]
    obtain ⟨c, present, rfl⟩ := List.mem_map.1 old
    intro same
    have other := List.any_eq_false.1 found c present
    simp [same] at other

/-- What the child of a field's key is once the field, without braces, is put among consistent,
resolved and sound children. -/
structure Placed (f : NodeMarks) (c : Draft) : Prop where
  consistent : Consistent c
  filled : c.marks.braced = true → c.children ≠ []
  negativeParent : c.marks.negativeParent = true → f.negativeParent = true
  emptyNested : c.marks.emptyNested = true → f.emptyNested = true
  sound : Sound [] c

/-- The child that putting a plain field leaves under its key is consistent and sound, and a
negative parent or nesting nothing only when the field is, whether the field was merged into a
child of that key or put as a new leaf. -/
theorem placed {cs : List Draft} (children : ∀ c ∈ cs, Consistent c ∧ Resolved c ∧ Sound [] c)
    {m : NameMatcher} {f : NodeMarks} (plain : f.braced = false)
    (positive : f.negativeParent = true → f.negated = false) {c' : Draft}
    (mem : c' ∈ placeChild cs m f) (keyed : c'.key = m.literal) : Placed f c' := by
  rcases mem_placeChild mem with ⟨-, other⟩ | ⟨c, present, -, rfl⟩ | rfl
  · exact absurd keyed other
  · obtain ⟨consistent, resolved, sound⟩ := children c present
    refine ⟨⟨fun filled => ?_, fun braced => ?_, fun negative => ?_⟩, fun braced => ?_,
      fun negative => ?_, fun empty => ?_, sound.of_children rfl⟩
    · simp [mergeMarks, consistent.braced filled]
    · simp only [marks_mk, mergeMarks, plain, Bool.or_false] at braced
      simp [mergeMarks, consistent.notEmpty braced]
    · simp only [marks_mk, mergeMarks, Bool.and_eq_true] at negative
      exact consistent.positive negative.1
    · simp only [marks_mk, mergeMarks, plain, Bool.or_false] at braced
      exact resolved.filled braced
    · simp only [marks_mk, mergeMarks, Bool.and_eq_true] at negative
      exact negative.2
    · simp only [marks_mk, mergeMarks, Bool.and_eq_true] at empty
      exact empty.2
  · refine ⟨⟨fun filled => absurd rfl filled, fun braced => ?_, positive⟩,
      fun braced => ?_, id, id, Sound.of_forall List.nodup_nil fun _ mem => by cases mem⟩
    · rw [marks_mk, plain] at braced
      cases braced
    · rw [marks_mk, plain] at braced
      cases braced

theorem mem_placeChild_of_ne {cs : List Draft} {m : NameMatcher} {f : NodeMarks} {c' : Draft}
    (mem : c' ∈ placeChild cs m f) (other : c'.key ≠ m.literal) : c' ∈ cs := by
  rcases mem_placeChild mem with ⟨old, -⟩ | ⟨c, -, same, rfl⟩ | rfl
  · exact old
  · exact absurd same other
  · exact absurd rfl other

theorem placeChild_ne_nil (cs : List Draft) (m : NameMatcher) (f : NodeMarks) :
    placeChild cs m f ≠ [] := by
  intro empty
  have found := any_placeChild cs m f
  rw [empty] at found
  cases found

/-! ## Changes at one node -/

/-- A node made the last step of a negated path: negated, and no negative parent. -/
def negateNode : Draft → Draft
  | .mk m f cs => .mk m { f with negated := true, negativeParent := false } cs

theorem modifyMarks_negate (d : Draft) (path : List String) :
    d.modifyMarks path (fun f => { f with negated := true, negativeParent := false }) =
      modifyAt negateNode path d := rfl

@[simp] theorem key_negateNode (d : Draft) : (negateNode d).key = d.key := by
  cases d
  rfl

@[simp] theorem marks_braceNode (d : Draft) : (braceNode d).marks = { d.marks with braced := true } := by
  cases d
  rfl

@[simp] theorem children_braceNode (d : Draft) : (braceNode d).children = d.children := by
  cases d
  rfl

@[simp] theorem marks_negateNode (d : Draft) :
    (negateNode d).marks = { d.marks with negated := true, negativeParent := false } := by
  cases d
  rfl

@[simp] theorem children_negateNode (d : Draft) : (negateNode d).children = d.children := by
  cases d
  rfl

theorem braceNode_of_braced {d : Draft} (braced : d.marks.braced = true) : braceNode d = d := by
  cases d with
  | mk m f cs =>
    simp only [braceNode, marks_mk] at braced ⊢
    cases f
    simp_all

/-- A change at a path below a node keeps the node's marks and whether it has children. -/
theorem modifyAt_cons_children (g : Draft → Draft) (k : String) (ks : List String) (d : Draft) :
    (modifyAt g (k :: ks) d).children ≠ [] ↔ d.children ≠ [] := by
  cases d
  simp [modifyAt]

theorem consistent_modifyAt_cons {g : Draft → Draft} {k : String} {ks : List String} {d : Draft} :
    Consistent (modifyAt g (k :: ks) d) ↔ Consistent d := by
  unfold Consistent
  rw [marks_modifyAt_cons, modifyAt_cons_children]

theorem resolved_modifyAt_cons {g : Draft → Draft} {k : String} {ks : List String} {d : Draft} :
    Resolved (modifyAt g (k :: ks) d) ↔ Resolved d := by
  unfold Resolved
  rw [marks_modifyAt_cons, modifyAt_cons_children]

/-- Putting a field under a braced, consistent node leaves it consistent, resolved and braced. -/
theorem settles_addHere {n : Draft} (braced : n.marks.braced = true) (consistent : Consistent n)
    (m : NameMatcher) (f : NodeMarks) :
    Consistent (addHere n m f) ∧ Resolved (addHere n m f) ∧ (addHere n m f).marks.braced = true := by
  cases n with
  | mk dm df cs =>
  have filled := placeChild_ne_nil cs m f
  simp only [marks_mk] at braced
  obtain ⟨-, notEmpty, positive⟩ := consistent
  simp only [marks_mk] at notEmpty positive
  simp only [addHere]
  split <;>
    exact ⟨⟨fun _ => braced, fun _ => notEmpty braced, positive⟩, ⟨fun _ => filled, fun _ => braced⟩,
      braced⟩

theorem snd_addChild (d : Draft) (path : List String) (m : NameMatcher) (f : NodeMarks) :
    (d.addChild path m f).2 = path ++ [m.literal] := rfl

theorem children_addHere (n : Draft) (m : NameMatcher) (f : NodeMarks) :
    (addHere n m f).children = placeChild n.children m f := by
  cases n
  rfl

/-- Every node a field was just put under has children. -/
theorem allAt_filled_addChild (d : Draft) (path : List String) (m : NameMatcher) (f : NodeMarks) :
    AllAt (fun n => n.children ≠ []) path (d.addChild path m f).1 :=
  allAt_modifyAt (fun n => key_addHere n m f) (AllAt.of_forall
    (fun n => by rw [children_addHere]; exact placeChild_ne_nil _ m f) path d)

/-- A change below a node settles it as far as the change at the node itself does. -/
theorem settles_modifyAt_cons {g : Draft → Draft} (k : String) {n : Draft}
    (settles : Consistent n ∧ Resolved n ∧ n.marks.braced = true) :
    Consistent (modifyAt g [k] n) ∧ Resolved (modifyAt g [k] n) ∧
      (modifyAt g [k] n).marks.braced = true :=
  ⟨consistent_modifyAt_cons.2 settles.1, resolved_modifyAt_cons.2 settles.2.1,
    by rw [marks_modifyAt_cons]; exact settles.2.2⟩

theorem pendingBelow_singleton (k k' : String) : pendingBelow [k] k' = [] := by
  unfold pendingBelow
  split <;> rfl

/-- A change below some children keeps their keys. -/
theorem keys_modifyAt_children {g : Draft → Draft} (keyed : ∀ n, (g n).key = n.key) (k : String)
    (ks : List String) (cs : List Draft) :
    (cs.map fun c => if (c.key == k) = true then modifyAt g ks c else c).map key = cs.map key := by
  rw [List.map_map]
  refine List.map_congr_left fun c _ => ?_
  simp only [Function.comp_apply]
  split
  · exact key_modifyAt keyed ks c
  · rfl

namespace Sound

/-- Putting a field that is neither braced nor a negative parent keeps a node sound. -/
theorem addHere {n : Draft} (sound : Sound [] n) (m : NameMatcher) {f : NodeMarks}
    (plain : f.braced = false) (positive : f.negativeParent = false) : Sound [] (addHere n m f) := by
  cases n with
  | mk dm df cs =>
  have children := sound.children
  simp only [Draft.addHere]
  refine Sound.of_forall (nodup_placeChild sound.nodup m f) fun c mem => ?_
  by_cases keyed : c.key = m.literal
  · have placed := placed children plain (fun negative => by rw [positive] at negative; cases negative)
      mem keyed
    refine ⟨placed.consistent, ⟨placed.filled, fun negative => ?_⟩, placed.sound⟩
    have := placed.negativeParent negative
    rw [positive] at this
    cases this
  · exact children c (mem_placeChild_of_ne mem keyed)

/-- Putting a field without braces and bracing it to read its nested part leaves a node sound
with the field pending. -/
theorem addHere_brace {n : Draft} (sound : Sound [] n) (m : NameMatcher) {f : NodeMarks}
    (plain : f.braced = false) (notEmpty : f.emptyNested = false)
    (positive : f.negativeParent = true → f.negated = false) :
    Sound [m.literal] (modifyAt braceNode [m.literal] (Draft.addHere n m f)) := by
  cases n with
  | mk dm df cs =>
  have children := sound.children
  simp only [Draft.addHere, modifyAt]
  refine .mk ((keys_modifyAt_children key_braceNode _ [] _).symm ▸ nodup_placeChild sound.nodup m f)
    ?_ ?_ ?_ ?_ ?_
  all_goals simp only [List.mem_map, forall_exists_index, and_imp, forall_apply_eq_imp_iff₂]
  · intro c mem
    split
    · rename_i keyed
      have placed := placed children plain positive mem (by simpa using keyed)
      refine ⟨fun _ => by simp, fun _ => ?_, fun negative => ?_⟩
      · cases empty : c.marks.emptyNested with
        | false => simp [empty]
        | true => rw [placed.emptyNested empty] at notEmpty; cases notEmpty
      · simpa using placed.consistent.positive (by simpa using negative)
    · rename_i keyed
      exact (children c (mem_placeChild_of_ne mem (by simpa using keyed))).1
  · intro c mem
    split
    · rename_i keyed
      exact .inl (by rw [key_braceNode, beq_iff_eq.1 keyed])
    · rename_i keyed
      exact .inr (children c (mem_placeChild_of_ne mem (by simpa using keyed))).2.1
  · intro k known
    obtain ⟨c, mem, keyed⟩ := exists_find_of_any (any_placeChild cs m f) |>.imp fun _ h => h.2
    refine ⟨_, ⟨c, mem, rfl⟩, ?_⟩
    simp only [List.head?_cons, Option.mem_def, Option.some.injEq] at known
    simp [keyed, key_braceNode, known]
  · intro c mem
    split
    · intro _
      simp
    · rename_i keyed
      intro same
      simp only [List.head?_cons, Option.some.injEq] at same
      exact absurd same.symm (by simpa using keyed)
  · intro c mem
    split
    · rename_i keyed
      have placed := placed children plain positive mem (by simpa using keyed)
      rw [show c.braceNode.key = m.literal by rw [key_braceNode]; simpa using keyed,
        pendingBelow_self]
      exact placed.sound.of_children (children_braceNode c)
    · rename_i keyed
      rw [pendingBelow_of_ne (by simpa using keyed)]
      exact (children c (mem_placeChild_of_ne mem (by simpa using keyed))).2.2

/-- Putting the last step of a negated path, without braces, and negating it keeps a node
sound. -/
theorem addHere_negate {n : Draft} (sound : Sound [] n) (m : NameMatcher) {f : NodeMarks}
    (plain : f.braced = false) (positive : f.negativeParent = true → f.negated = false) :
    Sound [] (modifyAt negateNode [m.literal] (Draft.addHere n m f)) := by
  cases n with
  | mk dm df cs =>
  have children := sound.children
  simp only [Draft.addHere, modifyAt]
  refine Sound.of_forall
    ((keys_modifyAt_children key_negateNode _ [] _).symm ▸ nodup_placeChild sound.nodup m f) ?_
  simp only [List.mem_map, forall_exists_index, and_imp, forall_apply_eq_imp_iff₂]
  intro c mem
  split
  · rename_i keyed
    have placed := placed children plain positive mem (by simpa using keyed)
    have consistent := placed.consistent
    refine ⟨⟨fun filled => ?_, fun braced => ?_, fun never => by simp at never⟩,
      ⟨fun braced => ?_, fun never => by simp at never⟩,
      placed.sound.of_children (children_negateNode c)⟩
    · simpa using consistent.braced (by simpa using filled)
    · simpa using consistent.notEmpty (by simpa using braced)
    · simpa using placed.filled (by simpa using braced)
  · rename_i keyed
    exact children c (mem_placeChild_of_ne mem (by simpa using keyed))

/-- A change at the pending nodes that keeps their keys, leaves them consistent, resolved and
braced, and leaves below them a tree sound with `q` pending, leaves the tree sound with `q`
pending below the pending path. The induction is on the pending path. -/
theorem modifyAt {T : Draft → Draft} (keyed : ∀ n, (T n).key = n.key)
    (settles : ∀ n, n.marks.braced = true → Consistent n →
      Consistent (T n) ∧ Resolved (T n) ∧ (T n).marks.braced = true)
    {q : List String} (changes : ∀ n, Sound [] n → Sound q (T n)) :
    ∀ {pending : List String} {d : Draft}, Sound pending d →
      Sound (pending ++ q) (Draft.modifyAt T pending d)
  | [], d, sound => changes d sound
  | k :: ks, .mk m f cs, sound => by
    simp only [Draft.modifyAt, List.cons_append]
    refine .mk ((keys_modifyAt_children keyed k ks cs).symm ▸ sound.nodup) ?_ ?_ ?_ ?_ ?_
    · simp only [List.mem_map, forall_exists_index, and_imp, forall_apply_eq_imp_iff₂]
      intro c mem
      split
      · rename_i here
        cases ks with
        | nil =>
          exact (settles c (sound.braced c mem (by simp [beq_iff_eq.1 here]))
            (sound.consistent c mem)).1
        | cons k' ks' => exact consistent_modifyAt_cons.2 (sound.consistent c mem)
      · exact sound.consistent c mem
    · simp only [List.mem_map, forall_exists_index, and_imp, forall_apply_eq_imp_iff₂]
      intro c mem
      have resolved : ks ≠ [] ∨ c.key ≠ k → Resolved c := fun offPath => by
        rcases sound.resolved c mem with onPath | resolved
        · simp only [List.cons.injEq] at onPath
          rcases offPath with deeper | other
          · exact absurd onPath.2 deeper
          · exact absurd onPath.1.symm other
        · exact resolved
      refine .inr ?_
      split
      · rename_i here
        cases ks with
        | nil =>
          exact (settles c (sound.braced c mem (by simp [beq_iff_eq.1 here]))
            (sound.consistent c mem)).2.1
        | cons k' ks' => exact resolved_modifyAt_cons.2 (resolved (.inl (List.cons_ne_nil _ _)))
      · exact resolved (.inr (by simpa using ‹¬(c.key == k) = true›))
    · intro k' known
      simp only [List.head?_cons, Option.mem_def, Option.some.injEq] at known
      subst known
      obtain ⟨c, mem, here⟩ := sound.reached k rfl
      refine ⟨_, List.mem_map_of_mem mem, ?_⟩
      simp [here, key_modifyAt keyed]
    · simp only [List.mem_map, forall_exists_index, and_imp, forall_apply_eq_imp_iff₂]
      intro c mem
      split
      · rename_i here
        intro _
        have onPath := sound.braced c mem (by simp [beq_iff_eq.1 here])
        cases ks with
        | nil => exact (settles c onPath (sound.consistent c mem)).2.2
        | cons k' ks' => rwa [marks_modifyAt_cons]
      · rename_i other
        intro same
        simp only [List.head?_cons, Option.some.injEq] at same
        exact absurd same.symm (by simpa using other)
    · simp only [List.mem_map, forall_exists_index, and_imp, forall_apply_eq_imp_iff₂]
      intro c mem
      split
      · rename_i here
        rw [key_modifyAt keyed, beq_iff_eq.1 here, pendingBelow_self]
        have inner := sound.inner c mem
        rw [beq_iff_eq.1 here, pendingBelow_self] at inner
        exact modifyAt keyed settles changes inner
      · rename_i other
        have inner := sound.inner c mem
        rw [pendingBelow_of_ne (by simpa using other)] at inner ⊢
        exact inner

variable {pending : List String} {d : Draft}

/-- Putting a field that is neither braced nor a negative parent under the pending nodes. -/
theorem addChild (sound : Sound pending d) (m : NameMatcher) {f : NodeMarks}
    (plain : f.braced = false) (positive : f.negativeParent = false) :
    Sound pending (d.addChild pending m f).1 := by
  have changed := Sound.modifyAt (T := fun n => Draft.addHere n m f) (fun n => key_addHere n m f)
    (fun _ braced consistent => settles_addHere braced consistent m f) (q := [])
    (fun _ sound => sound.addHere m plain positive) sound
  rwa [List.append_nil] at changed

/-- Putting a field without braces under the pending nodes and bracing it to read its nested
part leaves the field pending. -/
theorem addChild_brace (sound : Sound pending d) (m : NameMatcher) {f : NodeMarks}
    (plain : f.braced = false) (notEmpty : f.emptyNested = false)
    (positive : f.negativeParent = true → f.negated = false) :
    Sound (pending ++ [m.literal])
      (Draft.modifyAt braceNode (pending ++ [m.literal]) (d.addChild pending m f).1) := by
  rw [modifyAt_append]
  show Sound _ (Draft.modifyAt (Draft.modifyAt braceNode [m.literal]) pending
    (Draft.modifyAt (fun n => Draft.addHere n m f) pending d))
  rw [modifyAt_modifyAt (fun n => key_addHere n m f)]
  exact Sound.modifyAt (T := fun n => Draft.modifyAt braceNode [m.literal] (Draft.addHere n m f))
    (fun n => by rw [key_modifyAt key_braceNode, key_addHere])
    (fun _ braced consistent => settles_modifyAt_cons _ (settles_addHere braced consistent m f))
    (fun _ sound => sound.addHere_brace m plain notEmpty positive) sound

/-- Putting the last step of a negated path under the pending nodes and negating it. -/
theorem addChild_negate (sound : Sound pending d) (m : NameMatcher) {f : NodeMarks}
    (plain : f.braced = false) (positive : f.negativeParent = true → f.negated = false) :
    Sound pending (Draft.modifyAt negateNode (pending ++ [m.literal]) (d.addChild pending m f).1) := by
  rw [modifyAt_append]
  show Sound _ (Draft.modifyAt (Draft.modifyAt negateNode [m.literal]) pending
    (Draft.modifyAt (fun n => Draft.addHere n m f) pending d))
  rw [modifyAt_modifyAt (fun n => key_addHere n m f)]
  have changed := Sound.modifyAt (q := [])
    (T := fun n => Draft.modifyAt negateNode [m.literal] (Draft.addHere n m f))
    (fun n => by rw [key_modifyAt key_negateNode, key_addHere])
    (fun _ braced consistent => settles_modifyAt_cons _ (settles_addHere braced consistent m f))
    (fun _ sound => sound.addHere_negate m plain positive) sound
  rwa [List.append_nil] at changed

/-- The pending nodes are braced. -/
theorem allAt_braced : ∀ {pending : List String} {d : Draft}, Sound pending d → pending ≠ [] →
    AllAt (fun n => n.marks.braced = true) pending d
  | [], _, _, nonEmpty => absurd rfl nonEmpty
  | k :: ks, .mk m f cs, sound, _ => by
    intro c mem here
    cases ks with
    | nil => exact sound.braced c mem (by simp [here])
    | cons k' ks' =>
      have inner := sound.inner c mem
      rw [here, pendingBelow_self] at inner
      exact allAt_braced inner (List.cons_ne_nil _ _)

/-- Bracing the pending nodes changes nothing that soundness reads. -/
theorem brace (sound : Sound pending d) : Sound pending (Draft.modifyAt braceNode pending d) := by
  cases pending with
  | nil => exact sound.of_children (children_braceNode d)
  | cons k ks =>
    rw [modifyAt_eq_self ((sound.allAt_braced (List.cons_ne_nil _ _)).mono
      fun _ braced => braceNode_of_braced braced)]
    exact sound

/-- The nodes along the pending path above the last have children. -/
theorem filled : ∀ {pending : List String} {d : Draft} {k : String} {q : List String},
    Sound (pending ++ k :: q) d → AllAt (fun n => n.children ≠ []) pending d
  | [], .mk m f cs, k, q, sound => by
    obtain ⟨c, mem, -⟩ := sound.reached k rfl
    exact List.ne_nil_of_mem mem
  | k₀ :: ks, .mk m f cs, k, q, sound => by
    intro c mem here
    have inner := sound.inner c mem
    rw [here, List.cons_append, pendingBelow_self] at inner
    exact filled inner

/-- Once the nodes the pending path leads to have children, the reading goes back up: they
are resolved, and their parents pending. -/
theorem close : ∀ {pending : List String} {d : Draft} {k : String},
    Sound (pending ++ [k]) d → AllAt (fun n => n.children ≠ []) (pending ++ [k]) d →
    Sound pending d
  | [], .mk m f cs, k, sound, filled => by
    refine Sound.of_forall sound.nodup fun c mem => ⟨sound.consistent c mem, ?_, ?_⟩
    · rcases sound.resolved c mem with onPath | resolved
      · simp only [List.nil_append, List.cons.injEq, and_true] at onPath
        have braced := sound.braced c mem (by simp [onPath])
        exact ⟨fun _ => filled c mem onPath.symm, fun _ => braced⟩
      · exact resolved
    · simpa [pendingBelow_singleton] using sound.inner c mem
  | k₀ :: ks, .mk m f cs, k, sound, filled => by
    refine .mk sound.nodup sound.consistent (fun c mem => .inr ?_) sound.reached sound.braced
      (fun c mem => ?_)
    · rcases sound.resolved c mem with onPath | resolved
      · simp at onPath
      · exact resolved
    · have inner := sound.inner c mem
      by_cases here : c.key = k₀
      · rw [here, List.cons_append, pendingBelow_self] at inner
        rw [here, pendingBelow_self]
        exact close inner (filled c mem here)
      · rw [List.cons_append, pendingBelow_of_ne here] at inner
        rw [pendingBelow_of_ne here]
        exact inner

/-- Going back up a whole path once the nodes it leads to have children. The induction is on
the path below the node the reading goes back to. -/
theorem close_append : ∀ (q : List String) {pending : List String} {d : Draft},
    Sound (pending ++ q) d → AllAt (fun n => n.children ≠ []) (pending ++ q) d →
    Sound pending d ∧ AllAt (fun n => n.children ≠ []) pending d
  | [], _, _, sound, filled => by simpa using And.intro sound filled
  | k :: q, pending, d, sound, filled => by
    have up : Sound (pending ++ [k]) d ∧ AllAt (fun n => n.children ≠ []) (pending ++ [k]) d :=
      close_append q (by simpa using sound) (by simpa using filled)
    exact ⟨close up.1 up.2, Sound.filled sound⟩

/-- Putting fields that are neither braced nor negative parents one after another under the
pending nodes. -/
theorem foldl_addChild {marks : NodeMarks} (plain : marks.braced = false)
    (positive : marks.negativeParent = false) :
    ∀ (fields : List Selection.Field) {d : Draft}, Sound pending d →
      Sound pending (fields.foldl (fun t f => (t.addChild pending f.matcher marks).1) d) ∧
        (fields ≠ [] → AllAt (fun n => n.children ≠ []) pending
          (fields.foldl (fun t f => (t.addChild pending f.matcher marks).1) d))
  | [], _, sound => ⟨sound, fun nonEmpty => absurd rfl nonEmpty⟩
  | f :: fields, d, sound => by
    have rest := foldl_addChild plain positive fields (sound.addChild f.matcher plain positive)
    refine ⟨rest.1, fun _ => ?_⟩
    cases fields with
    | nil => exact allAt_filled_addChild d pending f.matcher marks
    | cons g fields => exact rest.2 (List.cons_ne_nil _ _)

end Sound

/-! ## The base fallback keeps the tree sound -/

/-- `path` leads through nodes of the tree to a node with children. -/
def Leads : List String → Draft → Prop
  | [], d => d.children ≠ []
  | k :: ks, .mk _ _ cs => ∃ c ∈ cs, c.key = k ∧ Leads ks c

/-- Where a path leads reads only the children. -/
theorem Leads.of_children : ∀ {path : List String} {d d' : Draft}, Leads path d →
    d'.children = d.children → Leads path d'
  | [], _, d', leads, same => by
    show d'.children ≠ []
    rw [same]
    exact leads
  | _ :: _, .mk _ _ _, .mk _ _ _, leads, same => by
    rw [children_mk, children_mk] at same
    subst same
    exact leads

theorem Leads.ne_nil : ∀ {path : List String} {d : Draft}, Leads path d → d.children ≠ []
  | [], _, leads => leads
  | _ :: _, .mk _ _ _, leads => by
    obtain ⟨c, mem, -⟩ := leads
    exact List.ne_nil_of_mem mem

/-- Putting a field among children keeps every child's key and children, merged into or not. -/
theorem exists_placeChild {cs : List Draft} {c : Draft} (mem : c ∈ cs) (m : NameMatcher)
    (f : NodeMarks) : ∃ c' ∈ placeChild cs m f, c'.key = c.key ∧ c'.children = c.children := by
  cases found : cs.any (·.key == m.literal) with
  | true =>
    rw [placeChild_of_any f found]
    refine ⟨mergeInto m f c, List.mem_map_of_mem mem, key_mergeInto m f c, ?_⟩
    by_cases same : c.key = m.literal
    · rw [mergeInto_of_eq f same, children_mk]
    · rw [mergeInto_of_ne f same]
  | false =>
    rw [placeChild_of_not_any f found]
    exact ⟨c, List.mem_append_left _ mem, rfl, rfl⟩

/-- Putting a field at a node keeps every path that leads somewhere leading there. -/
theorem Leads.addHere (m : NameMatcher) (f : NodeMarks) :
    ∀ (path : List String) (n : Draft), Leads path n → Leads path (n.addHere m f)
  | [], n, _ => by
    show (n.addHere m f).children ≠ []
    rw [children_addHere]
    exact placeChild_ne_nil _ m f
  | _ :: _, .mk _ _ cs, leads => by
    obtain ⟨c, mem, here, below⟩ := leads
    obtain ⟨c', mem', same, children⟩ := exists_placeChild mem m f
    exact ⟨c', mem', same.trans here, below.of_children children⟩

/-- A change that keeps keys and keeps every path leading somewhere, made at any node, keeps
every path leading somewhere. The induction is on the path of the change. -/
theorem Leads.modifyAt {g : Draft → Draft} (keyed : ∀ n, (g n).key = n.key)
    (keeps : ∀ (path : List String) (n : Draft), Leads path n → Leads path (g n)) :
    ∀ (q path : List String) (d : Draft), Leads path d → Leads path (Draft.modifyAt g q d)
  | [], path, d, leads => keeps path d leads
  | k :: ks, [], d, leads => (modifyAt_cons_children g k ks d).2 leads
  | k :: ks, _ :: _, .mk _ _ cs, leads => by
    obtain ⟨c, mem, here, below⟩ := leads
    refine ⟨if c.key == k then Draft.modifyAt g ks c else c, List.mem_map_of_mem mem, ?_, ?_⟩
    · rw [key_modifyAt_child keyed k ks c, here]
    · split
      · exact Leads.modifyAt keyed keeps ks _ c below
      · exact below

theorem Leads.addChild {path : List String} {d : Draft} (leads : Leads path d) (q : List String)
    (m : NameMatcher) (f : NodeMarks) : Leads path (d.addChild q m f).1 :=
  Leads.modifyAt (fun n => key_addHere n m f) (Leads.addHere m f) q path d leads

/-- A sound tree is sound with any path pending that leads to a node with children: the nodes
along it have children, so they are braced. -/
theorem Sound.lift : ∀ {path : List String} {d : Draft}, Sound [] d → Leads path d → Sound path d
  | [], _, sound, _ => sound
  | k :: ks, .mk m f cs, sound, leads => by
    obtain ⟨c, mem, here, below⟩ := leads
    have only : ∀ c' ∈ cs, c'.key = k → c' = c := fun c' mem' same =>
      List.inj_on_of_nodup_map sound.nodup mem' mem (same.trans here.symm)
    refine .mk sound.nodup sound.consistent (fun c' mem' => .inr (sound.children c' mem').2.1)
      (fun _ first => ⟨c, mem, here.trans (Option.mem_some_iff.1 first)⟩)
      (fun c' mem' first => ?_) (fun c' mem' => ?_)
    · rw [only c' mem' (Option.some.inj first).symm]
      exact (sound.consistent c mem).braced below.ne_nil
    · by_cases same : c'.key = k
      · rw [only c' mem' same, ← here, pendingBelow_self]
        exact Sound.lift (sound.children c mem).2.2 below
      · rw [pendingBelow_of_ne same]
        exact (sound.children c' mem').2.2

/-- Putting a field, neither braced nor a negative parent, under a node with children that a
sound tree leads to keeps it sound. -/
theorem Sound.addChild_leads {path : List String} {d : Draft} (sound : Sound [] d)
    (leads : Leads path d) (m : NameMatcher) {f : NodeMarks} (plain : f.braced = false)
    (positive : f.negativeParent = false) : Sound [] (d.addChild path m f).1 :=
  (Sound.close_append path (by simpa using (sound.lift leads).addChild m plain positive)
    (by simpa using allAt_filled_addChild d path m f)).1

/-- Putting fields, neither braced nor negative parents, one after another under nodes with
children that a sound tree leads to keeps it sound. -/
theorem Sound.foldl_leads (m : NameMatcher) (marks : Draft → List String → NodeMarks)
    (plain : ∀ t path, (marks t path).braced = false)
    (positive : ∀ t path, (marks t path).negativeParent = false) :
    ∀ (paths : List (List String)) {d : Draft}, Sound [] d → (∀ path ∈ paths, Leads path d) →
      Sound [] (paths.foldl (fun t path => (t.addChild path m (marks t path)).1) d)
  | [], _, sound, _ => sound
  | path :: paths, d, sound, leads =>
    Sound.foldl_leads m marks plain positive paths
      (sound.addChild_leads (leads path List.mem_cons_self) m (plain d path) (positive d path))
      fun p mem => (leads p (List.mem_cons_of_mem _ mem)).addChild path m (marks d path)

mutual

/-- The nodes with only exclusions as children lie below where the search starts, and have
children. -/
theorem leads_of_mem_exclusionParents : ∀ (path : List String) (d : Draft) {p : List String},
    p ∈ exclusionParents path d → ∃ q, p = path ++ q ∧ Leads q d
  | path, .mk m f cs, p, mem => by
    simp only [exclusionParents, List.mem_append] at mem
    rcases mem with here | below
    · split at here
      · rename_i only
        obtain rfl := List.mem_singleton.1 here
        refine ⟨[], (List.append_nil _).symm, ?_⟩
        show cs ≠ []
        simp only [onlyExclusions, children_mk, Bool.and_eq_true, Bool.not_eq_true',
          List.isEmpty_eq_false_iff] at only
        exact only.1
      · cases here
    · obtain ⟨c, mem, q, rfl, leads⟩ := leads_of_mem_exclusionParentsIn path cs below
      exact ⟨c.key :: q, rfl, c, mem, rfl, leads⟩

theorem leads_of_mem_exclusionParentsIn : ∀ (path : List String) (cs : List Draft)
    {p : List String}, p ∈ exclusionParentsIn path cs →
    ∃ c ∈ cs, ∃ q, p = path ++ c.key :: q ∧ Leads q c
  | _, [], _, mem => by cases mem
  | path, c :: cs, p, mem => by
    simp only [exclusionParentsIn, List.mem_append] at mem
    rcases mem with first | rest
    · obtain ⟨q, rfl, leads⟩ := leads_of_mem_exclusionParents (path ++ [c.key]) c first
      exact ⟨c, List.mem_cons_self, q, by simp, leads⟩
    · obtain ⟨c', mem', q, rfl, leads⟩ := leads_of_mem_exclusionParentsIn path cs rest
      exact ⟨c', List.mem_cons_of_mem _ mem', q, rfl, leads⟩

end

/-- The base fallback keeps a sound tree sound: it puts a plain child under nodes that have
children. -/
theorem Sound.withBaseFallback {d : Draft} (sound : Sound [] d) : Sound [] d.withBaseFallback :=
  sound.foldl_leads (.exact "base")
    (fun t path => { dotPathed := ((nodeAt? path t).map (·.marks.dotPathed)).getD false })
    (fun _ _ => rfl) (fun _ _ => rfl) _ fun p mem => by
      obtain ⟨q, rfl, leads⟩ := leads_of_mem_exclusionParents [] d mem
      simpa using leads

/-! ## Compiled nodes -/

theorem freezeList_ne_nil (next : Nat) : ∀ (cs : List Draft), (freezeList next cs).1 ≠ [] ↔ cs ≠ []
  | [] => by simp [freezeList]
  | c :: cs => by
    rcases frozen : freeze next c with ⟨n, after⟩
    rcases frozenRest : freezeList after cs with ⟨ns, last⟩
    simp [freezeList, frozen, frozenRest]

mutual

/-- Freezing a consistent, resolved and sound node gives nodes whose marks agree with their
nested nodes, at every depth. -/
theorem freeze_agree : ∀ (next : Nat) (d : Draft), Consistent d → Resolved d → Sound [] d →
    ∀ n ∈ (freeze next d).1.subtree, n.marks.Agree (n.children ≠ [])
  | next, .mk m f cs, consistent, resolved, sound => by
    have below := freezeList_agree (next + 1) cs sound.children
    have filled := freezeList_ne_nil (next + 1) cs
    rcases frozen : freezeList (next + 1) cs with ⟨children, after⟩
    rw [frozen] at below filled
    simp only [freeze, frozen, Node.subtree_eq, Node.children_mk, List.mem_cons]
    rintro n (rfl | deeper)
    · rw [Node.marks_mk, Node.children_mk, filled]
      exact NodeMarks.agree_iff.2 ⟨consistent, resolved⟩
    · exact below n deeper

/-- Freezing consistent, resolved and sound siblings gives nodes whose marks agree with their
nested nodes, at every depth. -/
theorem freezeList_agree : ∀ (next : Nat) (cs : List Draft),
    (∀ c ∈ cs, Consistent c ∧ Resolved c ∧ Sound [] c) →
    ∀ n ∈ Node.preorder (freezeList next cs).1, n.marks.Agree (n.children ≠ [])
  | _, [], _ => by simp [freezeList]
  | next, c :: cs, children => by
    obtain ⟨consistent, resolved, sound⟩ := children c List.mem_cons_self
    have here := freeze_agree next c consistent resolved sound
    rcases frozen : freeze next c with ⟨n, after⟩
    rw [frozen] at here
    have rest := freezeList_agree after cs fun c' mem => children c' (List.mem_cons_of_mem _ mem)
    rcases frozenRest : freezeList after cs with ⟨ns, last⟩
    rw [frozenRest] at rest
    simp only [freezeList, frozen, frozenRest, Node.preorder_cons, List.mem_append]
    rintro n' (top | deeper)
    · exact here n' top
    · exact rest n' deeper

end

/-- A sound tree compiles to nodes whose marks agree with their nested nodes. -/
theorem compile_agree {d : Draft} (sound : Sound [] d) :
    ∀ n ∈ Node.preorder d.compile, n.marks.Agree (n.children ≠ []) := by
  cases d with
  | mk m f cs => exact freezeList_agree 1 cs sound.children

end Draft

namespace Selection

namespace Reader

/-! ## The reader keeps the tree sound -/

@[simp] theorem run_brace_bind {α : Type} (path : List String) (k : PUnit → ReadM α)
    (r : Reading) :
    (brace path >>= k).run r = (k ⟨⟩).run { r with tree := Draft.modifyAt Draft.braceNode path r.tree } :=
  rfl

theorem run_negate (path : List String) (r : Reading) :
    (mark path fun f => { f with negated := true, negativeParent := false }).run r =
      .ok (⟨⟩, { r with tree := Draft.modifyAt Draft.negateNode path r.tree }) := rfl

/-- Putting fields under a node one after another is a fold over them. -/
theorem run_forIn_addChild (parent : List String) (marks : NodeMarks) :
    ∀ (fields : List Selection.Field) (r : Reading),
      (forIn (m := ReadM) fields PUnit.unit fun f _ => do
        let _ ← addChild parent f.matcher marks
        pure (ForInStep.yield PUnit.unit)).run r =
      .ok (PUnit.unit,
        { r with tree := fields.foldl (fun t f => (t.addChild parent f.matcher marks).1) r.tree })
  | [], _ => rfl
  | f :: fs, r => by
    have step := forIn_addChild_cons_bind parent marks f fs pure r
    simp only [bind_pure] at step
    rw [step, run_forIn_addChild parent marks fs]
    rfl

/-- Reading a path leaves the tree as it is. -/
theorem path_tree {r r' : Reading} {fs : List Selection.Field} (h : path.run r = .ok (fs, r')) :
    r'.tree = r.tree := by
  obtain ⟨-, -, -, -, -, tree, -⟩ := path_along
    (Tails.refl (T := []) fun _ none => by cases none) r ⟨r.cursor.rest, by simp, by simp⟩ h
    List.nil_suffix
  exact tree

/-- Reading a field list leaves the tree as it is. -/
theorem fieldList_tree {fuel : Nat} {acc : List Selection.Field} {r r' : Reading} {fs : List Selection.Field}
    (short : r.cursor.rest.length < fuel) (h : (fieldList fuel acc).run r = .ok (fs, r')) :
    r'.tree = r.tree := by
  obtain ⟨-, -, -, -, -, tree, -⟩ := fieldList_along
    (Tails.refl (T := []) fun _ none => by cases none) fuel fuel acc acc (C := r.cursor.rest) r (by simp)
    (by simp) short short rfl h List.nil_suffix
  exact tree

/-- The steps of a path before its last, put and braced one below the other, leave the last of
them pending. -/
theorem pathPrefix_marks : ∀ (fs : List Selection.Field) {parent node : List String} {r r' : Reading},
    Draft.Sound parent r.tree → (pathPrefix parent fs).run r = .ok (node, r') →
    ∃ q, node = parent ++ q ∧ Draft.Sound node r'.tree
  | [], parent, node, r, r', sound, h => by
    obtain ⟨rfl, rfl⟩ := Prod.mk.inj (Except.ok.inj h)
    exact ⟨[], by simp, sound⟩
  | f :: rest, parent, node, r, r', sound, h => by
    obtain ⟨q, rfl, sound'⟩ := pathPrefix_marks rest
      (sound.addChild_brace f.matcher (f := { dotPathed := true }) rfl rfl fun never => by
        cases never) h
    exact ⟨f.matcher.literal :: q, by simp, sound'⟩

/-- The steps of a negated path, put under the pending nodes once these are braced: each inner
step pending in turn, the last negated, and back up. -/
theorem negatedSteps_marks : ∀ (fs : List Selection.Field) {parent : List String} {r r' : Reading},
    fs ≠ [] → Draft.Sound parent (Draft.modifyAt Draft.braceNode parent r.tree) →
    (negatedSteps parent fs).run r = .ok ((), r') →
    Draft.Sound parent r'.tree ∧ Draft.AllAt (fun n => n.children ≠ []) parent r'.tree
  | [], _, _, _, nonEmpty, _, _ => absurd rfl nonEmpty
  | [f], parent, r, r', _, sound, h => by
    simp only [negatedSteps, run_brace_bind, run_addChild_bind, run_negate, Except.ok.injEq,
      Prod.mk.injEq] at h
    obtain ⟨-, rfl⟩ := h
    refine ⟨sound.addChild_negate f.matcher (f := { negativeParent := true, dotPathed := true })
      rfl fun _ => rfl, ?_⟩
    rw [Draft.snd_addChild, Draft.modifyAt_append]
    exact Draft.allAt_modifyAt (Draft.key_modifyAt Draft.key_negateNode [_])
      ((Draft.allAt_filled_addChild _ parent _ _).mono fun n filled =>
        (Draft.modifyAt_cons_children _ _ _ n).2 filled)
  | f :: g :: rest, parent, r, r', _, sound, h => by
    simp only [negatedSteps, run_brace_bind, run_addChild_bind] at h
    have inner := negatedSteps_marks (g :: rest) (List.cons_ne_nil _ _)
      ((sound.addChild_brace f.matcher (f := { negativeParent := true, dotPathed := true }) rfl rfl
        fun _ => rfl)) h
    exact ⟨Draft.Sound.close inner.1 inner.2, Draft.Sound.filled inner.1⟩

/-- A negated field or path leaves the pending nodes filled and the tree sound. -/
theorem negated_marks {parent : List String} {r r' : Reading} (sound : Draft.Sound parent r.tree)
    (h : (negated parent).run r = .ok ((), r')) :
    Draft.Sound parent r'.tree ∧ Draft.AllAt (fun n => n.children ≠ []) parent r'.tree := by
  simp only [negated, run_pos_bind, run_bind_eq_ok] at h
  obtain ⟨fs, r₁, ranPath, h⟩ := h
  have sound₁ : Draft.Sound parent r₁.tree := path_tree ranPath ▸ sound
  split at h
  · simp only [run_failAt_bind, reduceCtorEq] at h
  · split at h
    · simp only [run_addChild_bind, run_peek_bind] at h
      split at h <;> simp only [run_pos_bind, run_failAt, run_pure, reduceCtorEq, Except.ok.injEq,
        Prod.mk.injEq] at h
      obtain ⟨-, rfl⟩ := h
      exact ⟨sound₁.addChild _ rfl rfl, Draft.allAt_filled_addChild _ parent _ _⟩
    · rw [run_bind_eq_ok] at h
      obtain ⟨⟨⟩, r₂, ranSteps, h⟩ := h
      have nonEmpty : fs ≠ [] := by
        rintro rfl
        obtain ⟨ts, _, separated, -, -, marks⟩ := path_sound ranPath
        exact separated.ne_nil (by simpa using marks.symm)
      have put := negatedSteps_marks fs nonEmpty sound₁.brace ranSteps
      simp only [run_peek_bind] at h
      split at h <;> simp only [run_pos_bind, run_failAt, run_pure, reduceCtorEq, Except.ok.injEq,
        Prod.mk.injEq] at h
      obtain ⟨-, rfl⟩ := h
      exact put

/-! ## Every expression leaves its parent filled -/

mutual

/-- Reading an expression list under the pending nodes leaves the tree sound and every pending
node filled. -/
theorem expressionList_marks : ∀ (fuel : Nat) {parent : List String} {close : Option Char}
    {r r' : Reading}, Draft.Sound parent r.tree →
    (expressionList parent close fuel).run r = .ok ((), r') →
    Draft.Sound parent r'.tree ∧ Draft.AllAt (fun n => n.children ≠ []) parent r'.tree
  | 0, _, _, _, _, _, h => by simp only [expressionList, run_failUnexpected, reduceCtorEq] at h
  | fuel + 1, parent, close, r, r', sound, h => by
    simp only [expressionList] at h
    rw [run_bind_eq_ok] at h
    obtain ⟨⟨⟩, r₁, ranExpr, h⟩ := h
    have put := expression_marks fuel sound ranExpr
    simp only [run_peek_bind] at h
    split at h
    · simp only [run_bump_bind] at h
      exact expressionList_marks fuel (by exact put.1) h
    · split at h
      · simp only [run_bump, Except.ok.injEq, Prod.mk.injEq] at h
        obtain ⟨-, rfl⟩ := h
        exact put
      · simp only [run_failUnexpected, reduceCtorEq] at h
    · split at h
      · simp only [run_pure, Except.ok.injEq, Prod.mk.injEq] at h
        obtain ⟨-, rfl⟩ := h
        exact put
      · simp only [run_failUnexpected, reduceCtorEq] at h

/-- Reading one expression under the pending nodes leaves the tree sound and every pending node
filled. -/
theorem expression_marks : ∀ (fuel : Nat) {parent : List String} {r r' : Reading},
    Draft.Sound parent r.tree → (expression parent fuel).run r = .ok ((), r') →
    Draft.Sound parent r'.tree ∧ Draft.AllAt (fun n => n.children ≠ []) parent r'.tree
  | 0, _, _, _, _, h => by simp only [expression, run_failUnexpected, reduceCtorEq] at h
  | fuel + 1, parent, r, r', sound, h => by
    simp only [expression, run_peek_bind] at h
    split at h
    · simp only [run_bump_bind] at h
      exact negated_marks (by exact sound) h
    · simp only [run_bump_bind, run_get_bind] at h
      rw [run_bind_eq_ok] at h
      obtain ⟨fields, r₁, ranFields, h⟩ := h
      obtain ⟨ts, rest₁, separated, -, -, count⟩ := fieldList_sound (by simp) ranFields
      have nonEmpty : fields ≠ [] := by
        rintro rfl
        exact separated.ne_nil (List.length_eq_zero_iff.1 (by simpa using count.symm))
      have sound₁ : Draft.Sound parent r₁.tree := by
        rw [fieldList_tree (by simp) ranFields]
        exact sound
      exact attach_marks fuel nonEmpty sound₁ h
    · rw [run_bind_eq_ok] at h
      obtain ⟨steps, r₁, ranPath, h⟩ := h
      have sound₁ : Draft.Sound parent r₁.tree := path_tree ranPath ▸ sound
      split at h
      · simp only [run_failUnexpected, reduceCtorEq] at h
      · split at h
        · exact attach_marks fuel (List.cons_ne_nil _ _) sound₁ h
        · simp only [run_brace_bind] at h
          rw [run_bind_eq_ok] at h
          obtain ⟨node, r₂, ranPrefix, h⟩ := h
          obtain ⟨q, rfl, sound₂⟩ := pathPrefix_marks _ sound₁.brace ranPrefix
          have put := attach_marks fuel (List.cons_ne_nil _ _) sound₂ h
          exact Draft.Sound.close_append q put.1 put.2

/-- Attaching fields under the pending nodes, with or without a nested part, leaves the tree
sound and every pending node filled. -/
theorem attach_marks : ∀ (fuel : Nat) {parent : List String} {fields : List Selection.Field}
    {r r' : Reading}, fields ≠ [] → Draft.Sound parent r.tree →
    (attach parent fields fuel).run r = .ok ((), r') →
    Draft.Sound parent r'.tree ∧ Draft.AllAt (fun n => n.children ≠ []) parent r'.tree
  | 0, _, _, _, _, _, _, h => by simp only [attach, run_failUnexpected, reduceCtorEq] at h
  | fuel + 1, parent, fields, r, r', nonEmpty, sound, h => by
    simp only [attach, run_peek_bind] at h
    split at h
    · rw [run_bind_of_ok (run_forIn_addChild parent {} fields _)] at h
      simp only [run_pure, Except.ok.injEq, Prod.mk.injEq] at h
      obtain ⟨-, rfl⟩ := h
      have put := sound.foldl_addChild (show ({} : NodeMarks).braced = false from rfl) rfl fields
      exact ⟨put.1, put.2 nonEmpty⟩
    · simp only [run_bump_bind, run_get_bind, run_peek_bind] at h
      split at h
      · rw [run_bind_of_ok (run_forIn_addChild parent _ fields _)] at h
        simp only [run_bump, Except.ok.injEq, Prod.mk.injEq] at h
        obtain ⟨-, rfl⟩ := h
        have put := sound.foldl_addChild
          (show ({ emptyNested := true } : NodeMarks).braced = false from rfl) rfl fields
        exact ⟨put.1, put.2 nonEmpty⟩
      · exact nestedEach_marks fuel nonEmpty (by exact sound) h

/-- Reading the nested list once under each field in turn leaves the tree sound and every
pending node filled. -/
theorem nestedEach_marks : ∀ (fuel : Nat) {parent : List String} {close : Char} {start : Cursor}
    {fields : List Selection.Field} {r r' : Reading}, fields ≠ [] → Draft.Sound parent r.tree →
    (nestedEach parent close start fields fuel).run r = .ok ((), r') →
    Draft.Sound parent r'.tree ∧ Draft.AllAt (fun n => n.children ≠ []) parent r'.tree
  | _, _, _, _, [], _, _, nonEmpty, _, _ => absurd rfl nonEmpty
  | 0, _, _, _, _ :: _, _, _, _, _, h => by
    simp only [nestedEach, run_failUnexpected, reduceCtorEq] at h
  | fuel + 1, parent, close, start, f :: more, r, r', _, sound, h => by
    simp only [nestedEach, run_addChild_bind, run_modify_bind, run_brace_bind] at h
    rw [run_bind_eq_ok] at h
    obtain ⟨⟨⟩, r₁, ranList, h⟩ := h
    have inner := expressionList_marks fuel
      (Draft.Sound.addChild_brace sound f.matcher (f := {}) rfl rfl fun never => by cases never)
      ranList
    have sound₁ : Draft.Sound parent r₁.tree := Draft.Sound.close inner.1 inner.2
    cases more with
    | nil =>
      simp only [nestedEach, run_pure, Except.ok.injEq, Prod.mk.injEq] at h
      obtain ⟨-, rfl⟩ := h
      exact ⟨sound₁, Draft.Sound.filled inner.1⟩
    | cons g more => exact nestedEach_marks fuel (List.cons_ne_nil _ _) sound₁ h

end

end Reader

/-- Every node a text compiles to, at every depth, has marks that agree with its nested nodes. -/
theorem parse_agree {text : String} {ns : List Node} (parsed : parse text = .ok ns) :
    ∀ n ∈ Node.preorder ns, n.marks.Agree (n.children ≠ []) := by
  dsimp only [parse] at parsed
  split at parsed
  · cases parsed
    simp
  · dsimp only [parseTrimmed] at parsed
    cases ran : (Reader.expressionList [] none (4 * (Text.trimBlanks text.toList).length + 8)).run
        ⟨⟨Text.trimBlanks text.toList, 0⟩, Draft.root⟩ with
    | error e => simp [ran, Bind.bind, Except.bind] at parsed
    | ok result =>
      obtain ⟨⟨⟩, r⟩ := result
      simp only [ran, Bind.bind, Except.bind, pure, Except.pure, Except.ok.injEq] at parsed
      rw [← parsed]
      exact Draft.compile_agree (Reader.expressionList_marks _ Draft.Sound.root ran).1.withBaseFallback

/-- The marks of every node an expression compiles to, at every depth, agree with its nested
nodes: it is braced exactly when it has some, an empty-nested node has none, and a negative
parent has some and is not negated. -/
theorem parse_marks_agree {text : String} {ns : List Node} (parsed : parse text = .ok ns) :
    ∀ n ∈ Node.preorder ns, (n.marks.braced = true ↔ n.children ≠ []) ∧
      (n.marks.emptyNested = true → n.children = []) ∧
      (n.marks.negativeParent = true → n.children ≠ [] ∧ n.marks.negated = false) := by
  intro n mem
  obtain ⟨braced, emptyNested, negativeParent⟩ := parse_agree parsed n mem
  exact ⟨braced, fun empty => not_not.1 (emptyNested empty), negativeParent⟩

/-- `a[],a.b`: the dot-path takes the empty brackets off `a`, which then has a nested node. -/
theorem empty_then_dotted_marks_agree : ∃ ns, parse "a[],a.b" = .ok ns ∧
    ∀ n ∈ Node.preorder ns, (n.marks.braced = true ↔ n.children ≠ []) ∧
      (n.marks.emptyNested = true → n.children = []) ∧
      (n.marks.negativeParent = true → n.children ≠ [] ∧ n.marks.negated = false) :=
  ⟨_, rfl, @parse_marks_agree "a[],a.b" _ rfl⟩

end Selection

end FieldSelection

import FieldSelection.Proofs.Selection.Flags
import FieldSelection.Proofs.Selection.Locality
/-!
# Trees alike but for how their nodes were written

Whether a node was reached through dot-paths alone is a mark of how the expression was written,
not of what it selects. `Draft.erase` forgets it, and also sets the braced mark of every node
with children, which every tree the reader leaves has set anyway (`Draft.Sound`) but a tree in
the middle of a reading may not have yet.

Every step that builds a tree treats trees with one erasure alike (`Draft.keeps_erase`): each is
a change at one node, and each change at a node reads the node only through its erasure
(`Draft.erase_modifyAt`). The base fallback and compilation do too
(`Draft.erase_withBaseFallback_congr`, `Draft.compile_erase`), so trees with one erasure compile
to forests with one erasure (`Draft.compile_congr`). On the forests an expression compiles to,
this erasure forgets the dot-path marks and nothing else (`Node.eraseList_eq_forgetDotsList`).
-/

namespace FieldSelection

namespace NodeMarks

/-- The marks with the dot-path mark forgotten, braced when the node has children. -/
def erase (f : NodeMarks) (filled : Bool) : NodeMarks :=
  { f with dotPathed := false, braced := f.braced || filled }

@[simp] theorem negated_erase (f : NodeMarks) (filled : Bool) :
    (f.erase filled).negated = f.negated := rfl

@[simp] theorem negativeParent_erase (f : NodeMarks) (filled : Bool) :
    (f.erase filled).negativeParent = f.negativeParent := rfl

@[simp] theorem erase_erase (f : NodeMarks) (filled : Bool) :
    (f.erase filled).erase filled = f.erase filled := by
  simp [erase]

/-- Marks erased as those of a node with children forget whether it was braced. -/
theorem erase_erase_true (f : NodeMarks) (filled : Bool) :
    (f.erase filled).erase true = f.erase true := by
  simp [erase]

/-- Merging marks, then erasing them, reads each side only through its erasure. -/
theorem erase_mergeMarks (e f : NodeMarks) (filled : Bool) :
    (Draft.mergeMarks e f).erase filled = Draft.mergeMarks (e.erase filled) (f.erase false) := by
  cases e
  cases f
  simp only [Draft.mergeMarks, erase, Bool.or_false, Bool.false_and, mk.injEq, true_and]
  constructor
  · cases filled <;> simp
  · trivial

end NodeMarks

namespace Draft

mutual

/-- The tree with the dot-path marks forgotten and every node with children braced. -/
def erase : Draft → Draft
  | .mk m f cs => .mk m (f.erase !cs.isEmpty) (eraseList cs)

/-- `erase` over siblings. -/
def eraseList : List Draft → List Draft
  | [] => []
  | c :: cs => erase c :: eraseList cs

end

theorem eraseList_eq_map : ∀ cs : List Draft, eraseList cs = cs.map erase
  | [] => rfl
  | c :: cs => by rw [eraseList, eraseList_eq_map cs, List.map_cons]

@[simp] theorem erase_mk (m : NameMatcher) (f : NodeMarks) (cs : List Draft) :
    erase (.mk m f cs) = .mk m (f.erase !cs.isEmpty) (cs.map erase) := by
  rw [erase, eraseList_eq_map]

@[simp] theorem key_erase (d : Draft) : (erase d).key = d.key := by
  cases d
  simp

@[simp] theorem marks_erase (d : Draft) : (erase d).marks = d.marks.erase !d.children.isEmpty := by
  cases d
  simp

@[simp] theorem children_erase (d : Draft) : (erase d).children = d.children.map erase := by
  cases d
  simp

theorem isEmpty_eraseList (cs : List Draft) : (eraseList cs).isEmpty = cs.isEmpty := by
  cases cs <;> rfl

mutual

@[simp] theorem erase_erase : ∀ d : Draft, erase (erase d) = erase d
  | .mk m f cs => by
    simp only [erase, eraseList_eraseList cs, isEmpty_eraseList, NodeMarks.erase_erase]

theorem eraseList_eraseList : ∀ cs : List Draft, eraseList (eraseList cs) = eraseList cs
  | [] => rfl
  | c :: cs => by rw [eraseList, eraseList, erase_erase c, eraseList_eraseList cs]

end

/-! ## Changes at one node -/

/-- A change at a node that reads the node only through its erasure, made at any path, reads the
tree only through its erasure. The induction is on the path. -/
theorem erase_modifyAt {g₁ g₂ : Draft → Draft} (agree : ∀ n, erase (g₁ (erase n)) = erase (g₂ n)) :
    ∀ (path : List String) (d : Draft),
      erase (modifyAt g₁ path (erase d)) = erase (modifyAt g₂ path d)
  | [], d => agree d
  | k :: ks, .mk m f cs => by
    simp only [erase_mk, modifyAt, List.isEmpty_map, NodeMarks.erase_erase, List.map_map,
      mk.injEq, true_and]
    refine List.map_congr_left fun c _ => ?_
    simp only [Function.comp_apply, key_erase]
    split
    · exact erase_modifyAt agree ks c
    · exact erase_erase c

theorem erase_modifyAt_congr {g₁ g₂ : Draft → Draft}
    (agree : ∀ n, erase (g₁ (erase n)) = erase (g₂ n))
    (absorbs : ∀ n, erase (g₁ (erase n)) = erase (g₁ n)) (path : List String) {t₁ t₂ : Draft}
    (same : erase t₁ = erase t₂) : erase (modifyAt g₁ path t₁) = erase (modifyAt g₂ path t₂) := by
  rw [← erase_modifyAt absorbs, same, erase_modifyAt agree]

theorem erase_mergeInto (m : NameMatcher) (f : NodeMarks) (c : Draft) :
    erase (mergeInto m f c) = mergeInto m (f.erase false) (erase c) := by
  by_cases same : c.key = m.literal
  · rw [mergeInto_of_eq f same, mergeInto_of_eq _ (by rw [key_erase]; exact same)]
    cases c
    simp [NodeMarks.erase_mergeMarks]
  · rw [mergeInto_of_ne f same, mergeInto_of_ne _ (by rw [key_erase]; exact same)]

/-- Erased, the children after a field is put among them are those after the field, with its
dot-path mark forgotten, is put among the erased children. -/
theorem map_erase_placeChild (cs : List Draft) (m : NameMatcher) (f : NodeMarks) :
    (placeChild cs m f).map erase = placeChild (cs.map erase) m (f.erase false) := by
  have sameAny : (cs.map erase).any (·.key == m.literal) = cs.any (·.key == m.literal) := by
    simp [List.any_map, Function.comp_def]
  cases found : cs.any (·.key == m.literal) with
  | true =>
    rw [placeChild_of_any f found, placeChild_of_any _ (sameAny.trans found), List.map_map,
      List.map_map]
    exact List.map_congr_left fun c _ => erase_mergeInto m f c
  | false =>
    rw [placeChild_of_not_any f found, placeChild_of_not_any _ (sameAny.trans found),
      List.map_append]
    simp

/-- Erased, a node after a field is put at it: braced, with the field put among its erased
children. -/
theorem erase_addHere (n : Draft) (m : NameMatcher) (f : NodeMarks) :
    erase (addHere n m f) =
      .mk n.matcher (n.marks.erase true) (placeChild (n.children.map erase) m (f.erase false)) := by
  cases n with
  | mk dm df cs =>
    have filled : (placeChild cs m f).isEmpty = false :=
      List.isEmpty_eq_false_iff.2 (placeChild_ne_nil cs m f)
    simp only [addHere, erase_mk, filled, Bool.not_false, map_erase_placeChild, matcher_mk,
      marks_mk, children_mk, mk.injEq, true_and, and_true]
    split <;> simp [NodeMarks.erase]

theorem erase_braceNode (n : Draft) : erase (braceNode n) = braceNode (erase n) := by
  cases n
  simp [braceNode, NodeMarks.erase]

theorem erase_negateNode (n : Draft) : erase (negateNode n) = negateNode (erase n) := by
  cases n
  simp [negateNode, NodeMarks.erase]

/-- Putting a field reads the node and the field's marks only through their erasure. -/
theorem erase_addHere_congr {n₁ n₂ : Draft} (same : erase n₁ = erase n₂) (m : NameMatcher)
    {f₁ f₂ : NodeMarks} (sameMarks : f₁.erase false = f₂.erase false) :
    erase (addHere n₁ m f₁) = erase (addHere n₂ m f₂) := by
  cases n₁ with
  | mk m₁ e₁ cs₁ =>
  cases n₂ with
  | mk m₂ e₂ cs₂ =>
  simp only [erase_mk, mk.injEq] at same
  obtain ⟨rfl, marks, children⟩ := same
  rw [erase_addHere, erase_addHere, sameMarks]
  simp only [matcher_mk, marks_mk, children_mk, children, mk.injEq, true_and, and_true]
  rw [← NodeMarks.erase_erase_true e₁, marks, NodeMarks.erase_erase_true]

theorem erase_addChild_congr {t₁ t₂ : Draft} (same : erase t₁ = erase t₂) (path : List String)
    (m : NameMatcher) {f₁ f₂ : NodeMarks} (sameMarks : f₁.erase false = f₂.erase false) :
    erase (t₁.addChild path m f₁).1 = erase (t₂.addChild path m f₂).1 :=
  erase_modifyAt_congr (fun n => erase_addHere_congr (erase_erase n) m sameMarks)
    (fun n => erase_addHere_congr (erase_erase n) m rfl) path same

/-- Every step that builds a tree treats trees with one erasure alike. -/
theorem keeps_erase (base : List String) :
    Selection.Keeps (fun t₁ t₂ => erase t₁ = erase t₂) base where
  addChild path m f _ same := erase_addChild_congr same path m rfl
  brace path _ same := by
    rw [modifyMarks_brace, modifyMarks_brace]
    refine erase_modifyAt_congr (fun n => ?_) (fun n => ?_) path same <;>
      rw [erase_braceNode, erase_braceNode, erase_erase]
  negate path _ _ same := by
    rw [modifyMarks_negate, modifyMarks_negate]
    refine erase_modifyAt_congr (fun n => ?_) (fun n => ?_) path same <;>
      rw [erase_negateNode, erase_negateNode, erase_erase]

/-! ## The base fallback and compilation -/

theorem onlyExclusions_erase (d : Draft) : onlyExclusions (erase d) = onlyExclusions d := by
  simp [onlyExclusions, List.all_map, Function.comp_def]

mutual

/-- The nodes with only exclusions as children are found alike in the erased tree. -/
theorem exclusionParents_erase : ∀ (path : List String) (d : Draft),
    exclusionParents path (erase d) = exclusionParents path d
  | path, .mk m f cs => by
    have only := onlyExclusions_erase (.mk m f cs)
    rw [erase] at only ⊢
    simp only [exclusionParents, only, exclusionParentsIn_eraseList path cs]

theorem exclusionParentsIn_eraseList : ∀ (path : List String) (cs : List Draft),
    exclusionParentsIn path (eraseList cs) = exclusionParentsIn path cs
  | _, [] => rfl
  | path, c :: cs => by
    simp only [eraseList, exclusionParentsIn, key_erase, exclusionParents_erase (path ++ [c.key]) c,
      exclusionParentsIn_eraseList path cs]

end

/-- Putting one field after another, with marks alike up to the dot-path mark, treats trees with
one erasure alike. -/
theorem erase_foldl_addChild_congr (m : NameMatcher) {marks₁ marks₂ : Draft → List String → NodeMarks}
    (sameMarks : ∀ t₁ t₂ path, (marks₁ t₁ path).erase false = (marks₂ t₂ path).erase false) :
    ∀ (paths : List (List String)) {t₁ t₂ : Draft}, erase t₁ = erase t₂ →
      erase (paths.foldl (fun t path => (t.addChild path m (marks₁ t path)).1) t₁) =
        erase (paths.foldl (fun t path => (t.addChild path m (marks₂ t path)).1) t₂)
  | [], _, _, same => same
  | path :: paths, t₁, t₂, same =>
    erase_foldl_addChild_congr m sameMarks paths
      (erase_addChild_congr same path m (sameMarks t₁ t₂ path))

/-- The base fallback treats trees with one erasure alike: it puts the fallback under the same
nodes, dot-pathed or not. -/
theorem erase_withBaseFallback_congr {t₁ t₂ : Draft} (same : erase t₁ = erase t₂) :
    erase t₁.withBaseFallback = erase t₂.withBaseFallback := by
  have parents : exclusionParents [] t₁ = exclusionParents [] t₂ := by
    rw [← exclusionParents_erase [] t₁, same, exclusionParents_erase]
  unfold withBaseFallback
  rw [parents]
  refine erase_foldl_addChild_congr (.exact "base") (fun _ _ _ => ?_) _ same
  rfl

end Draft

namespace Node

mutual

/-- The forest with the dot-path marks forgotten and every node with nested nodes braced. -/
def erase : Node → Node
  | .mk m f s cs => .mk m (f.erase !cs.isEmpty) s (eraseList cs)

/-- `erase` over siblings. -/
def eraseList : List Node → List Node
  | [] => []
  | n :: ns => erase n :: eraseList ns

end

mutual

/-- The node with the dot-path marks forgotten, at every depth. -/
def forgetDots : Node → Node
  | .mk m f s cs => .mk m { f with dotPathed := false } s (forgetDotsList cs)

/-- `forgetDots` over siblings. -/
def forgetDotsList : List Node → List Node
  | [] => []
  | n :: ns => forgetDots n :: forgetDotsList ns

end

mutual

/-- Where a node is braced exactly when it has nested nodes, erasing forgets only the dot-path
marks. -/
theorem erase_eq_forgetDots : ∀ n : Node,
    (∀ n' ∈ n.subtree, n'.marks.braced = true ↔ n'.children ≠ []) → n.erase = n.forgetDots
  | .mk m f s cs, agree => by
    have here := agree (.mk m f s cs) (by rw [subtree]; exact List.mem_cons_self)
    have below := eraseList_eq_forgetDotsList cs fun n' mem =>
      agree n' (by rw [subtree]; exact List.mem_cons_of_mem _ mem)
    rw [marks_mk, children_mk] at here
    rw [erase, forgetDots, below, mk.injEq]
    refine ⟨rfl, ?_, rfl, rfl⟩
    cases cs with
    | nil => simp [NodeMarks.erase]
    | cons c cs => simp [NodeMarks.erase, here.2 (List.cons_ne_nil c cs)]

theorem eraseList_eq_forgetDotsList : ∀ ns : List Node,
    (∀ n ∈ preorder ns, n.marks.braced = true ↔ n.children ≠ []) → eraseList ns = forgetDotsList ns
  | [], _ => rfl
  | n :: ns, agree => by
    rw [eraseList, forgetDotsList,
      erase_eq_forgetDots n fun n' mem => agree n' (by rw [preorder_cons]; exact List.mem_append_left _ mem),
      eraseList_eq_forgetDotsList ns fun n' mem =>
        agree n' (by rw [preorder_cons]; exact List.mem_append_right _ mem)]

end

end Node

namespace Draft

theorem isEmpty_freezeList (next : Nat) (cs : List Draft) :
    (freezeList next cs).1.isEmpty = cs.isEmpty := by
  have filled := freezeList_ne_nil next cs
  cases frozen : (freezeList next cs).1 with
  | nil => rw [frozen] at filled; simpa using filled
  | cons n ns =>
    rw [frozen] at filled
    cases cs with
    | nil => exact absurd rfl (filled.1 (List.cons_ne_nil n ns))
    | cons c cs => rfl

mutual

/-- Freezing the erased tree is erasing the frozen one; the numbering does not change. -/
theorem freeze_erase : ∀ (next : Nat) (d : Draft),
    freeze next (erase d) = ((freeze next d).1.erase, (freeze next d).2)
  | next, .mk m f cs => by
    have below := freezeList_erase (next + 1) cs
    have filled := isEmpty_freezeList (next + 1) cs
    rw [erase]
    rcases frozen : freezeList (next + 1) cs with ⟨children, after⟩
    rw [frozen] at below filled
    simp only [freeze, below, frozen, Node.erase, filled]

theorem freezeList_erase : ∀ (next : Nat) (cs : List Draft),
    freezeList next (eraseList cs) = (Node.eraseList (freezeList next cs).1, (freezeList next cs).2)
  | next, [] => rfl
  | next, c :: cs => by
    have here := freeze_erase next c
    rcases frozen : freeze next c with ⟨n, after⟩
    rw [frozen] at here
    have rest := freezeList_erase after cs
    rcases frozenRest : freezeList after cs with ⟨ns, last⟩
    rw [frozenRest] at rest
    simp only [eraseList, freezeList, here, rest, frozen, frozenRest, Node.eraseList]

end

theorem compile_erase (d : Draft) : (erase d).compile = Node.eraseList d.compile := by
  cases d with
  | mk m f cs => exact congrArg Prod.fst (freezeList_erase 1 cs)

/-- Trees with one erasure compile, with their fallbacks, to forests with one erasure. -/
theorem compile_congr {t₁ t₂ : Draft} (same : erase t₁ = erase t₂) :
    Node.eraseList t₁.withBaseFallback.compile = Node.eraseList t₂.withBaseFallback.compile := by
  rw [← compile_erase, ← compile_erase, erase_withBaseFallback_congr same]

end Draft

end FieldSelection

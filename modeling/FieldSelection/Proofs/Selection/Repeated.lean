import FieldSelection.Proofs.Selection.Follow
import FieldSelection.Proofs.Selection.Merging
/-!
# A field written twice reads as one with the join of its nested parts

A field written twice in one list, `a N₁, a N₂`, with nested parts that are absent, empty
brackets or lists in brackets, reads as the field written once with the join of the two parts
(`NestedPart.join`): two lists are joined by a comma, a list absorbs anything else, and empty
brackets survive only empty brackets. At every place of an expression, the two texts either
both fail to compile or compile to the same forest (`parse_repeated_field_joins`). The errors
of the two texts may differ: the text written twice is longer, so it fails later
(`repeated_field_error_differs`).

The reader puts the field twice; the tree algebra of `Draft.addChild` carries the law:

* a field with a nested part, read under `parent`, takes the tree `τ` to the tree `τ'` it
  `Puts` there, whatever follows it (`Reader.expression_puts`, `Reader.expression_of_puts`);
* putting a field twice merges its marks (`Draft.addChild_addChild`), and once a field has read
  a nested list it stands settled, so putting it again or reading a further list into it from
  where it stands is reading the joined list (`puts_join`, `puts_split`).
-/

namespace FieldSelection.Selection

/-- What may stand after a field as its nested part: nothing, empty brackets, or a list in
brackets. -/
inductive NestedPart
  | absent
  | empty
  | list (items : List Char)
  deriving DecidableEq, Repr

namespace NestedPart

/-- The nested part as written. -/
def text : NestedPart → List Char
  | absent => []
  | empty => ['[', ']']
  | list items => '[' :: (items ++ [']'])

/-- The nested part that a field written first with `N₁` and then with `N₂` stands for. -/
def join : NestedPart → NestedPart → NestedPart
  | list xs, list ys => list (xs ++ ',' :: ys)
  | list xs, _ => list xs
  | _, list ys => list ys
  | empty, empty => empty
  | _, _ => absent

/-- A list in brackets holds a whole expression list. -/
def WellFormed : NestedPart → Prop
  | list items => ExprList items []
  | _ => True

theorem WellFormed.nest : ∀ {N : NestedPart}, N.WellFormed → Nest N.text []
  | absent, _ => .none
  | empty, _ => .empty (.inl ⟨rfl, rfl⟩) (Blanks.refl _) (Blanks.refl _)
  | list _, items =>
    .list (.inl ⟨rfl, rfl⟩) (Blanks.refl _) (items.append_end (follows_close (.inl rfl) []))
      (Blanks.refl _)

end NestedPart

/-- A list ending before a comma goes on with the list after the comma. -/
theorem ExprList.extend {Z : List Char} :
    ∀ {cs rest : List Char}, ExprList cs rest → Punct ',' rest Z → ExprList Z [] → ExprList cs []
  | _, _, .last expr, comma, more => .step expr comma more
  | _, _, .step expr punct list, comma, more => .step expr punct (ExprList.extend list comma more)
termination_by cs _ => cs.length
decreasing_by exact Nat.lt_trans punct.length_lt expr.length_lt

/-- Two whole lists joined by a comma are a whole list. -/
theorem ExprList.comma {xs ys : List Char} (left : ExprList xs []) (right : ExprList ys []) :
    ExprList (xs ++ ',' :: ys) [] :=
  (left.append_end (follows_comma ys)).extend (Blanks.refl _) right

theorem NestedPart.WellFormed.join : ∀ {N₁ N₂ : NestedPart}, N₁.WellFormed → N₂.WellFormed →
    (N₁.join N₂).WellFormed
  | .list _, .list _, left, right => ExprList.comma left right
  | .list _, .absent, left, _ | .list _, .empty, left, _ => left
  | .absent, .list _, _, right | .empty, .list _, _, right => right
  | .absent, .absent, _, _ | .absent, .empty, _, _ | .empty, .absent, _, _
  | .empty, .empty, _, _ => trivial

/-! ## What a field with a nested part puts in the tree -/

/-- Reading the list `xs`, closed by a bracket, into `node` takes the tree `σ` to `σ'`. -/
def ReadsInto (node : List String) (xs : List Char) (σ σ' : Draft) : Prop :=
  ∃ fuel r', (Reader.expressionList node (some ']') fuel).run ⟨⟨xs ++ [']'], 0⟩, σ⟩ = .ok ((), r') ∧
    r'.tree = σ'

/-- The field `m` with the nested part `N`, read under `parent`, takes the tree `τ` to `τ'`: a
field alone or with empty brackets is put with its marks; a field with a list is put, braced, and
the list is read into it. -/
def Puts (parent : List String) (m : NameMatcher) : NestedPart → Draft → Draft → Prop
  | .absent, τ, τ' => τ' = (τ.addChild parent m {}).1
  | .empty, τ, τ' => τ' = (τ.addChild parent m { emptyNested := true }).1
  | .list xs, τ, τ' => ReadsInto (parent ++ [m.literal]) xs
      ((τ.addChild parent m {}).1.modifyMarks (parent ++ [m.literal])
        fun f => { f with braced := true }) τ'

namespace Reader

/-- A list read up to its closing bracket stops right past it. -/
theorem closedList_end {node : List String} {xs S : List Char} (items : ExprList xs [])
    {fuel : Nat} {r r' : Reading} (here : r.cursor.rest = xs ++ ']' :: S)
    (h : (expressionList node (some ']') fuel).run r = .ok ((), r')) : r'.cursor.rest = S := by
  obtain ⟨rest, list, closed⟩ := expressionList_sound fuel h
  rw [ends_some] at closed
  exact closed_end_unique (.inl rfl) (by rwa [here] at list) closed
    (items.append_end (follows_close (.inl rfl) S)) (Blanks.refl _)

/-- A list read up to its closing bracket is read alike whatever follows the bracket. -/
theorem closedList_follow {node : List String} {xs S₁ S₂ : List Char} (items : ExprList xs [])
    {fuel : Nat} {r₁ r₂ r₁' : Reading} (here₁ : r₁.cursor.rest = xs ++ ']' :: S₁)
    (here₂ : r₂.cursor.rest = xs ++ ']' :: S₂) (tree : r₁.tree = r₂.tree)
    (h : (expressionList node (some ']') fuel).run r₁ = .ok ((), r₁')) :
    ∃ r₂', (expressionList node (some ']') fuel).run r₂ = .ok ((), r₂') ∧
      r₂'.cursor.rest = S₂ ∧ r₂'.tree = r₁'.tree := by
  obtain ⟨r₂', ran, ends, same⟩ := closedList_along (keeps_eq []) fuel List.nil_prefix (.inl rfl)
    (C := xs ++ [']']) (by simpa using here₁) (by simpa using here₂) tree h
    (closedList_end items here₁ h)
  exact ⟨r₂', ran, ends, same.symm⟩

/-- A settled field stays settled while its node's subtree is built, the trees kept equal. -/
theorem keeps_settled (parent : List String) (m : NameMatcher) :
    Keeps (fun t₁ t₂ => t₁ = t₂ ∧ Draft.Settled parent m t₁) (parent ++ [m.literal]) where
  addChild _ m' f below rel := ⟨by rw [rel.1], Draft.Settled.addChild rel.2 below m' f⟩
  brace _ below rel := ⟨by rw [rel.1], Draft.Settled.modifyMarks rel.2 below fun _ settled =>
    ⟨rfl, settled.2⟩⟩
  negate _ below _ rel := ⟨by rw [rel.1], Draft.Settled.modifyMarks rel.2 below fun _ settled =>
    ⟨settled.1, settled.2.1, settled.2.2.1, rfl⟩⟩

end Reader

/-- Once a field has read a nested list, it stands settled. -/
theorem settled_of_puts_list {parent : List String} {m : NameMatcher} {xs : List Char}
    (items : ExprList xs []) {τ τ' : Draft} (puts : Puts parent m (.list xs) τ τ') :
    Draft.Settled parent m τ' := by
  obtain ⟨fuel, r', ran, rfl⟩ := puts
  obtain ⟨-, -, -, -, settled⟩ := Reader.closedList_along (Reader.keeps_settled parent m) fuel
    (List.prefix_refl _) (.inl rfl) (C := xs ++ [']'])
    (show (⟨⟨xs ++ [']'], 0⟩, _⟩ : Reading).cursor.rest = xs ++ [']'] ++ [] by simp)
    (show (⟨⟨xs ++ [']'], 0⟩, _⟩ : Reading).cursor.rest = xs ++ [']'] ++ [] by simp)
    ⟨rfl, Draft.settled_brace_addChild τ parent m⟩ ran (Reader.closedList_end items rfl ran)
  exact settled

/-- A field read after a nested list put it changes nothing, when it has no list of its own:
that field is settled. -/
theorem puts_of_settled {parent : List String} {m : NameMatcher} {τ : Draft}
    (settled : Draft.Settled parent m τ) :
    Puts parent m .absent τ τ ∧ Puts parent m .empty τ τ :=
  ⟨(Draft.addChild_of_settled settled {}).symm, (Draft.addChild_of_settled settled _).symm⟩

/-- A nested list read into a settled field is read into the tree as it stands. -/
theorem puts_list_of_settled {parent : List String} {m : NameMatcher} {ys : List Char}
    {τ τ' : Draft} (settled : Draft.Settled parent m τ) :
    Puts parent m (.list ys) τ τ' ↔ ReadsInto (parent ++ [m.literal]) ys τ τ' := by
  simp only [Puts]
  rw [Draft.addChild_of_settled settled, Draft.brace_of_settled settled]

/-- A field with a nested part, read after the field with a nested list, reads as the field with
the join of the two. -/
theorem puts_join {parent : List String} {m : NameMatcher} {N₁ N₂ : NestedPart}
    (wf₁ : N₁.WellFormed) {τ τ₁ τ₂ : Draft} (first : Puts parent m N₁ τ τ₁)
    (second : Puts parent m N₂ τ₁ τ₂) : Puts parent m (N₁.join N₂) τ τ₂ := by
  cases N₁ with
  | list xs =>
    have settled := settled_of_puts_list wf₁ first
    cases N₂ with
    | list ys =>
      obtain ⟨fuel, ra, ranA, rfl⟩ := first
      obtain ⟨fuelZ, rb, ranB, rfl⟩ := (puts_list_of_settled settled).1 second
      obtain ⟨fuel', ry, ranY, -, treeY⟩ := Reader.list_join (.inl rfl) fuel wf₁
        (show (⟨⟨xs ++ [']'], 0⟩, _⟩ : Reading).cursor.rest = xs ++ ']' :: [] from rfl) ranA
        (show (⟨⟨ys ++ [']'], 0⟩, ra.tree⟩ : Reading).cursor.rest = ys ++ [']'] from rfl) rfl ranB
        (show (⟨⟨(xs ++ ',' :: ys) ++ [']'], 0⟩, _⟩ : Reading).cursor.rest =
          xs ++ ',' :: (ys ++ [']']) by simp) rfl
      exact ⟨fuel', ry, ranY, treeY⟩
    | absent =>
      rw [show τ₂ = τ₁ from second.trans (Draft.addChild_of_settled settled _)]
      exact first
    | empty =>
      rw [show τ₂ = τ₁ from second.trans (Draft.addChild_of_settled settled _)]
      exact first
  | absent =>
    cases N₂ with
    | list ys =>
      simp only [Puts] at first second ⊢
      rwa [first, Draft.addChild_addChild] at second
    | absent | empty =>
      simp only [Puts] at first second ⊢
      rw [second, first, Draft.addChild_addChild]
      rfl
  | empty =>
    cases N₂ with
    | list ys =>
      simp only [Puts] at first second ⊢
      rwa [first, Draft.addChild_addChild] at second
    | absent | empty =>
      simp only [Puts] at first second ⊢
      rw [second, first, Draft.addChild_addChild]
      rfl

/-- A field with the join of two nested parts reads as the field with the first, then with the
second. -/
theorem puts_split {parent : List String} {m : NameMatcher} {N₁ N₂ : NestedPart}
    (wf₁ : N₁.WellFormed) {τ τ' : Draft} (joined : Puts parent m (N₁.join N₂) τ τ') :
    ∃ τ₁, Puts parent m N₁ τ τ₁ ∧ Puts parent m N₂ τ₁ τ' := by
  cases N₁ with
  | list xs =>
    cases N₂ with
    | list ys =>
      obtain ⟨fuel, ry, ranY, rfl⟩ := joined
      obtain ⟨fuel', ra, ranA, -, rest⟩ := Reader.list_split (.inl rfl) fuel wf₁
        (show (⟨⟨(xs ++ ',' :: ys) ++ [']'], 0⟩, _⟩ : Reading).cursor.rest =
          xs ++ ',' :: (ys ++ [']']) by simp) ranY
        (show (⟨⟨xs ++ [']'], 0⟩, _⟩ : Reading).cursor.rest = xs ++ ']' :: [] from rfl) rfl
      have first : Puts parent m (.list xs) τ ra.tree := ⟨fuel', ra, ranA, rfl⟩
      obtain ⟨fuelZ, rb, ranZ, -, treeZ⟩ :=
        rest (show (⟨⟨ys ++ [']'], 0⟩, ra.tree⟩ : Reading).cursor.rest = ys ++ [']'] from rfl) rfl
      exact ⟨ra.tree, first,
        (puts_list_of_settled (settled_of_puts_list wf₁ first)).2 ⟨fuelZ, rb, ranZ, treeZ⟩⟩
    | absent => exact ⟨τ', joined, (puts_of_settled (settled_of_puts_list wf₁ joined)).1⟩
    | empty => exact ⟨τ', joined, (puts_of_settled (settled_of_puts_list wf₁ joined)).2⟩
  | absent =>
    refine ⟨(τ.addChild parent m {}).1, rfl, ?_⟩
    cases N₂ with
    | list ys =>
      simp only [Puts, NestedPart.join] at joined ⊢
      rwa [Draft.addChild_addChild]
    | absent | empty =>
      simp only [Puts, NestedPart.join] at joined ⊢
      rw [joined, Draft.addChild_addChild]
      rfl
  | empty =>
    refine ⟨(τ.addChild parent m { emptyNested := true }).1, rfl, ?_⟩
    cases N₂ with
    | list ys =>
      simp only [Puts, NestedPart.join] at joined ⊢
      rwa [Draft.addChild_addChild]
    | absent | empty =>
      simp only [Puts, NestedPart.join] at joined ⊢
      rw [joined, Draft.addChild_addChild]
      rfl

/-! ## Reading a field with a nested part -/

namespace Reader

/-- With nothing nested ahead, a field is put as a leaf. -/
theorem attach_absent {node : List String} {f : Field} {fuel : Nat} {r : Reading} {W : List Char}
    (follows : Follows W) (here : Text.dropBlanks r.cursor.rest = Text.dropBlanks W) :
    (attach node [f] (fuel + 1)).run r =
      .ok ((), ⟨r.cursor.skipBlanks, (r.tree.addChild node f.matcher {}).1⟩) := by
  simp only [attach, run_peek_bind, here, closer_of_follows follows]
  rfl

/-- With empty brackets ahead, a field is put marked empty-nested, the reading past them. -/
theorem attach_empty {node : List String} {f : Field} {fuel : Nat} {r : Reading} {W : List Char}
    (here : Text.dropBlanks r.cursor.rest = '[' :: ']' :: W) :
    (attach node [f] (fuel + 1)).run r =
      .ok ((), ⟨r.cursor.skipBlanks.bump.skipBlanks.bump,
        (r.tree.addChild node f.matcher { emptyNested := true }).1⟩) := by
  have shut : Text.dropBlanks (']' :: W) = ']' :: W := dropBlanks_cons_of_plain (by decide) W
  simp only [attach, run_peek_bind, here, List.head?_cons, closer_of_pair (.inl ⟨rfl, rfl⟩),
    run_bump_bind, run_get_bind, Cursor.bump_rest, Cursor.skipBlanks_rest, List.tail_cons, shut,
    beq_self_eq_true, if_true]
  rfl

/-- With a list in brackets ahead, a field is put and braced, and the list is read into it from
right past the opening bracket. -/
theorem attach_list {node : List String} {f : Field} {fuel : Nat} {r : Reading} {L : List Char}
    (opened : Text.dropBlanks r.cursor.rest = '[' :: L)
    (full : (Text.dropBlanks L).head? ≠ some ']') :
    (attach node [f] (fuel + 2)).run r =
      (expressionList (node ++ [f.matcher.literal]) (some ']') fuel).run
        ⟨r.cursor.skipBlanks.bump, (r.tree.addChild node f.matcher {}).1.modifyMarks
          (node ++ [f.matcher.literal]) fun g => { g with braced := true }⟩ := by
  rw [attach_nested (.inl ⟨rfl, rfl⟩) opened full, nestedEach_cons_succ]
  simp only [run_addChild_bind, run_modify_bind, brace, mark, nestedEach, bind_pure_unit]
  rfl

/-- The text ahead of a field with a list: the list runs up to its bracket. -/
theorem list_ahead {xs W : List Char} (items : ExprList xs []) {r : Reading}
    (here : Text.dropBlanks r.cursor.rest = Text.dropBlanks ((NestedPart.list xs).text ++ W)) :
    Text.dropBlanks r.cursor.rest = '[' :: (xs ++ ']' :: W) ∧
      (Text.dropBlanks (xs ++ ']' :: W)).head? ≠ some ']' := by
  have opened := dropBlanks_cons_of_plain (c := '[') (by decide) (xs ++ ']' :: W)
  refine ⟨by simpa [here, NestedPart.text] using opened, ?_⟩
  exact (items.append_end (follows_close (.inl rfl) W)).head_ne
    (BracketPair.not_opensExpr (.inl ⟨rfl, rfl⟩))

/-- What attaching a nested part to one field reads, the field `Puts` in the tree, and the
reading stops before what follows. -/
theorem attach_puts {N : NestedPart} {W : List Char} (wf : N.WellFormed) (follows : Follows W)
    {node : List String} {f : Field} {fuel : Nat} {r r' : Reading}
    (here : Text.dropBlanks r.cursor.rest = Text.dropBlanks (N.text ++ W))
    (h : (attach node [f] fuel).run r = .ok ((), r')) :
    Puts node f.matcher N r.tree r'.tree ∧ Text.dropBlanks r'.cursor.rest = Text.dropBlanks W := by
  cases fuel with
  | zero => simp only [attach, run_failUnexpected, reduceCtorEq] at h
  | succ fuel =>
  cases N with
  | absent =>
    rw [attach_absent follows (by simpa [NestedPart.text] using here), Except.ok.injEq,
      Prod.mk.injEq] at h
    obtain ⟨-, rfl⟩ := h
    exact ⟨rfl, by simpa [NestedPart.text, dropBlanks_dropBlanks] using here⟩
  | empty =>
    have opened : Text.dropBlanks r.cursor.rest = '[' :: ']' :: W := by
      simpa [here, NestedPart.text] using dropBlanks_cons_of_plain (c := '[') (by decide) (']' :: W)
    rw [attach_empty opened, Except.ok.injEq, Prod.mk.injEq] at h
    obtain ⟨-, rfl⟩ := h
    refine ⟨rfl, ?_⟩
    simp [opened, dropBlanks_cons_of_plain (c := ']') (by decide) W]
  | list xs =>
    obtain ⟨opened, full⟩ := list_ahead wf here
    cases fuel with
    | zero =>
      rw [attach_nested (.inl ⟨rfl, rfl⟩) opened full] at h
      simp only [nestedEach, run_failUnexpected, reduceCtorEq] at h
    | succ fuel =>
      rw [attach_list opened full] at h
      have start : ∀ σ : Draft, (⟨r.cursor.skipBlanks.bump, σ⟩ : Reading).cursor.rest =
          xs ++ ']' :: W := fun _ => by simp [opened]
      obtain ⟨r₂', ran, -, tree⟩ := closedList_follow wf (start _)
        (show (⟨⟨xs ++ [']'], 0⟩, _⟩ : Reading).cursor.rest = xs ++ ']' :: [] from rfl) rfl h
      exact ⟨⟨fuel, r₂', ran, tree⟩, by rw [closedList_end wf (start _) h]⟩

/-- What a field `Puts` in the tree, attaching its nested part to it reads, the reading stopping
before what follows. -/
theorem attach_of_puts {N : NestedPart} {W : List Char} (wf : N.WellFormed) (follows : Follows W)
    {node : List String} {f : Field} {r : Reading} {τ' : Draft}
    (here : Text.dropBlanks r.cursor.rest = Text.dropBlanks (N.text ++ W))
    (puts : Puts node f.matcher N r.tree τ') :
    ∃ fuel r', (attach node [f] fuel).run r = .ok ((), r') ∧ r'.tree = τ' ∧
      Text.dropBlanks r'.cursor.rest = Text.dropBlanks W := by
  cases N with
  | absent =>
    refine ⟨1, _, attach_absent follows (by simpa [NestedPart.text] using here), puts.symm, ?_⟩
    simpa [NestedPart.text, dropBlanks_dropBlanks] using here
  | empty =>
    have opened : Text.dropBlanks r.cursor.rest = '[' :: ']' :: W := by
      simpa [here, NestedPart.text] using dropBlanks_cons_of_plain (c := '[') (by decide) (']' :: W)
    refine ⟨1, _, attach_empty opened, puts.symm, ?_⟩
    simp [opened, dropBlanks_cons_of_plain (c := ']') (by decide) W]
  | list xs =>
    obtain ⟨opened, full⟩ := list_ahead wf here
    obtain ⟨fuel, r', ran, tree⟩ := puts
    have start : ∀ σ : Draft, (⟨r.cursor.skipBlanks.bump, σ⟩ : Reading).cursor.rest =
        xs ++ ']' :: W := fun _ => by simp [opened]
    obtain ⟨r₂', ran₂, ends, same⟩ := closedList_follow wf
      (show (⟨⟨xs ++ [']'], 0⟩, _⟩ : Reading).cursor.rest = xs ++ ']' :: [] from rfl) (start _) rfl
      ran
    exact ⟨fuel + 2, r₂', by rw [attach_list opened full]; exact ran₂, same.trans tree,
      by rw [ends]⟩

/-- A field token with a nested part, read as an expression before what may follow one, takes
the tree to what the field `Puts` there. -/
theorem expression_puts {t W : List Char} {m : NameMatcher} {N : NestedPart}
    (tok : FieldToken t t []) (reads : Reads t m) (wf : N.WellFormed) (follows : Follows W)
    {parent : List String} {fuel : Nat} {r r' : Reading}
    (here : Text.dropBlanks r.cursor.rest = t ++ (N.text ++ W))
    (h : (expression parent fuel).run r = .ok ((), r')) :
    Puts parent m N r.tree r'.tree ∧ Text.dropBlanks r'.cursor.rest = Text.dropBlanks W := by
  have nest := wf.nest
  have written : Text.dropBlanks r.cursor.rest = Text.dropBlanks (t ++ (N.text ++ W)) := by
    rw [here, tok.dropBlanks_append, List.nil_append]
  have notMinus : (Text.dropBlanks r.cursor.rest).head? ≠ some '-' := by
    rw [written, head_dropBlanks_append tok.solid]
    exact tok.head_ne (by decide)
  obtain ⟨f, rm, ranHead, named, after, tree⟩ :=
    head_single tok reads (stop_of_nest nest follows) (nest.noDot follows) parent written
  obtain ⟨g, node, fields, rm', rfl, ranHead', ranAttach⟩ := expression_parts notMinus h
  rw [ranHead, Except.ok.injEq, Prod.mk.injEq, Prod.mk.injEq] at ranHead'
  obtain ⟨⟨rfl, rfl⟩, rfl⟩ := ranHead'
  obtain ⟨puts, ends⟩ := attach_puts wf follows (by rw [after, dropBlanks_dropBlanks]) ranAttach
  rw [named, tree] at puts
  exact ⟨puts, ends⟩

/-- What a field token with a nested part `Puts` in the tree, reading it as an expression
before what may follow one reads. -/
theorem expression_of_puts {t W : List Char} {m : NameMatcher} {N : NestedPart}
    (tok : FieldToken t t []) (reads : Reads t m) (wf : N.WellFormed) (follows : Follows W)
    {parent : List String} {r : Reading} {τ' : Draft}
    (here : Text.dropBlanks r.cursor.rest = t ++ (N.text ++ W))
    (puts : Puts parent m N r.tree τ') :
    ∃ fuel r', (expression parent fuel).run r = .ok ((), r') ∧ r'.tree = τ' ∧
      Text.dropBlanks r'.cursor.rest = Text.dropBlanks W := by
  have nest := wf.nest
  have written : Text.dropBlanks r.cursor.rest = Text.dropBlanks (t ++ (N.text ++ W)) := by
    rw [here, tok.dropBlanks_append, List.nil_append]
  have notMinus : (Text.dropBlanks r.cursor.rest).head? ≠ some '-' := by
    rw [written, head_dropBlanks_append tok.solid]
    exact tok.head_ne (by decide)
  obtain ⟨f, rm, ranHead, named, after, tree⟩ :=
    head_single tok reads (stop_of_nest nest follows) (nest.noDot follows) parent written
  rw [← named, ← tree] at puts
  obtain ⟨fuel, r', ranAttach, same, ends⟩ :=
    attach_of_puts wf follows (by rw [after, dropBlanks_dropBlanks]) puts
  exact ⟨fuel + 1, r', expression_of_parts notMinus ranHead ranAttach, same, ends⟩

/-! ## The field written twice against the field written once -/

/-- A field token with a nested part starts with no blank, whatever follows. -/
theorem dropBlanks_field {t : List Char} (tok : FieldToken t t []) (Z : List Char) :
    Text.dropBlanks (t ++ Z) = t ++ Z := by
  rw [tok.dropBlanks_append, List.nil_append]

/-- A field written twice, with two nested parts, may stand for the field written once with
their join, at the start of a list. -/
theorem swap_repeated_joined {t : List Char} {m : NameMatcher} {N₁ N₂ : NestedPart}
    (tok : FieldToken t t []) (reads : Reads t m) (wf₁ : N₁.WellFormed) (wf₂ : N₂.WellFormed) :
    Swap Eq (t ++ N₁.text ++ ',' :: (t ++ N₂.text)) (t ++ (N₁.join N₂).text) := by
  intro fuel parent close T r₁ r₂ r₁' _ follows here₁ here₂ rel h
  obtain ⟨f, ra, rfl, ranFirst, ranTail⟩ := expressionList_parts h
  obtain ⟨putsFirst, endsFirst⟩ := expression_puts tok reads wf₁
    (follows_comma (t ++ (N₂.text ++ T))) (by simp [here₁, dropBlanks_field tok]) ranFirst
  rw [dropBlanks_comma] at endsFirst
  rw [listTail_comma endsFirst] at ranTail
  obtain ⟨g, rb, rfl, ranSecond, ranEnd⟩ := expressionList_parts ranTail
  obtain ⟨putsSecond, endsSecond⟩ := expression_puts tok reads wf₂ follows
    (by simp [endsFirst, dropBlanks_field tok]) ranSecond
  have joined := puts_join wf₁ putsFirst putsSecond
  rw [rel] at joined
  obtain ⟨fuelJ, rc, ranJoined, treeJ, endsJ⟩ := expression_of_puts tok reads (wf₁.join wf₂)
    follows (by simp [here₂, dropBlanks_field tok]) joined
  obtain ⟨r₂', ranEnd₂, sameEnd, sameTree⟩ := listTail_blanks
    (show Text.dropBlanks rb.cursor.rest = Text.dropBlanks rc.cursor.rest by rw [endsSecond, endsJ])
    treeJ.symm ranEnd
  exact ⟨_, r₂', expressionList_of_parts ranJoined ranEnd₂, sameEnd, sameTree⟩

/-- The field written once with the join of two nested parts may stand for the field written
twice with them, at the start of a list. -/
theorem swap_joined_repeated {t : List Char} {m : NameMatcher} {N₁ N₂ : NestedPart}
    (tok : FieldToken t t []) (reads : Reads t m) (wf₁ : N₁.WellFormed) (wf₂ : N₂.WellFormed) :
    Swap Eq (t ++ (N₁.join N₂).text) (t ++ N₁.text ++ ',' :: (t ++ N₂.text)) := by
  intro fuel parent close T r₁ r₂ r₁' _ follows here₁ here₂ rel h
  obtain ⟨f, rc, rfl, ranJoined, ranEnd⟩ := expressionList_parts h
  obtain ⟨putsJ, endsJ⟩ := expression_puts tok reads (wf₁.join wf₂) follows
    (by simp [here₁, dropBlanks_field tok]) ranJoined
  obtain ⟨τ₁, putsFirst, putsSecond⟩ := puts_split wf₁ putsJ
  rw [rel] at putsFirst
  obtain ⟨fuelA, ra, ranFirst, treeA, endsFirst⟩ := expression_of_puts tok reads wf₁
    (follows_comma (t ++ (N₂.text ++ T))) (by simp [here₂, dropBlanks_field tok]) putsFirst
  rw [dropBlanks_comma] at endsFirst
  rw [← treeA] at putsSecond
  obtain ⟨fuelB, rb, ranSecond, treeB, endsSecond⟩ := expression_of_puts tok reads wf₂ follows
    (show Text.dropBlanks ({ ra with cursor := ra.cursor.skipBlanks.bump } : Reading).cursor.rest =
      _ by simp [endsFirst, dropBlanks_field tok]) putsSecond
  obtain ⟨r₂', ranEnd₂, sameEnd, sameTree⟩ := listTail_blanks
    (show Text.dropBlanks rc.cursor.rest = Text.dropBlanks rb.cursor.rest by rw [endsJ, endsSecond])
    treeB.symm ranEnd
  have ranTail₂ : (listTail parent close (max fuelB f + 1)).run ra = .ok ((), r₂') := by
    rw [listTail_comma endsFirst]
    exact expressionList_of_parts ranSecond ranEnd₂
  exact ⟨_, r₂', expressionList_of_parts ranFirst ranTail₂, sameEnd, sameTree⟩

end Reader

/-! ## Whole texts -/

/-- Two texts that may stand for each other at the start of a list, both ways, compile alike at
every place of an expression: both fail, or both compile to the same forest. -/
theorem parse_toOption_eq_of_swaps {pre post x y : List Char} (place : Opening pre)
    (follows : Follows post) (forward : Reader.Swap Eq x y) (backward : Reader.Swap Eq y x)
    (opensX : Opens x) (opensY : Opens y) (lastX : ∀ c ∈ x.getLast?, Text.isBlank c = false)
    (lastY : ∀ c ∈ y.getLast?, Text.isBlank c = false) :
    (parse (String.ofList (pre ++ x ++ post))).toOption =
      (parse (String.ofList (pre ++ y ++ post))).toOption := by
  have compiles : ∀ t₁ t₂ : Draft, t₁ = t₂ →
      t₁.withBaseFallback.compile = t₂.withBaseFallback.compile := fun _ _ same => by rw [same]
  cases compiled : parse (String.ofList (pre ++ x ++ post)) with
  | ok ns =>
    obtain ⟨ns', compiled', rfl⟩ := parse_of_swap (keeps_eq []) rfl compiles place follows forward
      opensX opensY lastX lastY compiled
    rw [compiled']
  | error e =>
    cases compiled' : parse (String.ofList (pre ++ y ++ post)) with
    | ok ns' =>
      obtain ⟨ns, again, -⟩ := parse_of_swap (keeps_eq []) rfl compiles place follows backward
        opensY opensX lastY lastX compiled'
      rw [compiled] at again
      cases again
    | error e' => rfl

/-- Both texts open with the field and end with no blank. -/
theorem repeated_texts_ends {t : List Char} (tok : FieldToken t t []) {N₁ N₂ : NestedPart}
    (wf₁ : N₁.WellFormed) (wf₂ : N₂.WellFormed) :
    Opens (t ++ N₁.text ++ ',' :: (t ++ N₂.text)) ∧ Opens (t ++ (N₁.join N₂).text) ∧
      (∀ c ∈ (t ++ N₁.text ++ ',' :: (t ++ N₂.text)).getLast?, Text.isBlank c = false) ∧
      (∀ c ∈ (t ++ (N₁.join N₂).text).getLast?, Text.isBlank c = false) := by
  have lastSecond := last_append tok.last wf₂.nest.last
  refine ⟨by simpa using tok.opens.append (N₁.text ++ ',' :: (t ++ N₂.text)),
    tok.opens.append _, ?_, last_append tok.last (wf₁.join wf₂).nest.last⟩
  rw [show t ++ N₁.text ++ ',' :: (t ++ N₂.text) = (t ++ N₁.text ++ [',']) ++ (t ++ N₂.text) by
    simp]
  exact last_append (by simp; decide) lastSecond

/-- A field written twice in a list reads as the field written once with the join of its two
nested parts: at every place of an expression, the text `t N₁,t N₂` of a field token `t` with
nested parts that are absent, empty brackets or whole lists in brackets, and the text
`t (N₁ ⊔ N₂)`, either both fail to compile or compile to the same forest. -/
theorem parse_repeated_field_joins {pre post t : List Char} {N₁ N₂ : NestedPart}
    (place : Opening pre) (follows : Follows post) (tok : FieldToken t t [])
    (wf₁ : N₁.WellFormed) (wf₂ : N₂.WellFormed) :
    (parse (String.ofList (pre ++ (t ++ N₁.text ++ ',' :: (t ++ N₂.text)) ++ post))).toOption =
      (parse (String.ofList (pre ++ (t ++ (N₁.join N₂).text) ++ post))).toOption := by
  obtain ⟨m, reads⟩ := tok.reads
  obtain ⟨opensX, opensY, lastX, lastY⟩ := repeated_texts_ends tok wf₁ wf₂
  exact parse_toOption_eq_of_swaps place follows (Reader.swap_repeated_joined tok reads wf₁ wf₂)
    (Reader.swap_joined_repeated tok reads wf₁ wf₂) opensX opensY lastX lastY

/-- `a[x],a[y]` compiles as `a[x,y]`. -/
theorem repeated_lists_join :
    (parse (String.ofList ([] ++ (['a'] ++ (NestedPart.list ['x']).text ++
      ',' :: (['a'] ++ (NestedPart.list ['y']).text)) ++ []))).toOption =
      (parse (String.ofList
        ([] ++ (['a'] ++ ((NestedPart.list ['x']).join (.list ['y'])).text) ++ []))).toOption := by
  have name : ∀ c : Char, isNameStart c = true → FieldToken [c] [c] [] := fun c start =>
    .name (Blanks.refl _) start (by simp) (by simp)
  have single : ∀ c : Char, isNameStart c = true → ExprList [c] [] := fun c start =>
    .last (.path (.last (name c start)) (by simp [anyDeepText]) .none)
  exact parse_repeated_field_joins .start (by intro c mem; simp [Text.dropBlanks] at mem)
    (name 'a' (by decide)) (single 'x' (by decide)) (single 'y' (by decide))

/-- The two texts need not fail alike: before `,!`, the field written twice, `a,a[]`, fails at
the `!` six characters in, and the field written once, `a`, two characters in. -/
theorem repeated_field_error_differs :
    parse (String.ofList ([] ++ (['a'] ++ NestedPart.absent.text ++
      ',' :: (['a'] ++ NestedPart.empty.text)) ++ [',', '!'])) ≠
      parse (String.ofList ([] ++ (['a'] ++ (NestedPart.absent.join .empty).text) ++ [',', '!'])) := by
  intro same
  have positions := congrArg (fun result => match result with
    | .error e => e.position
    | .ok _ => 0) same
  exact absurd positions (by decide)

end FieldSelection.Selection

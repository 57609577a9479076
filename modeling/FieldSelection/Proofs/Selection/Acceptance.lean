import FieldSelection.Proofs.Selection.Reading
/-!
# The reader accepts exactly the grammar

`Selection.parse_ok_iff_derives`: a text compiles if and only if, trimmed of blanks, it is empty
or an expression list of the grammar (`Derives`).

The expression readers are one mutual recursion on fuel, and so are both directions here:

* soundness (`Reader.expressionList_sound` and its three partners): whatever a reader accepts
  is derived, up to the blanks its last look-ahead skipped;
* completeness (`Reader.expressionList_complete` and its partners): whatever is derived is
  accepted, when what follows may follow it and the fuel is at least four for every
  character. Each nesting level costs the reader four steps of fuel and each field of a field
  list one more, so the fuel `4 * length + 8` the reader is given always suffices.
-/

namespace FieldSelection.Selection

/-- How an expression list ends: at the closing bracket it was opened with, which is read, or
at the end of the text. -/
def Ends : Option Char → List Char → List Char → Prop
  | some k, rest, after => Punct k rest after
  | none, rest, after => Blanks rest after ∧ after = []

@[simp] theorem ends_some (k : Char) (rest after : List Char) :
    Ends (some k) rest after ↔ Punct k rest after := Iff.rfl

@[simp] theorem ends_none (rest after : List Char) :
    Ends none rest after ↔ Blanks rest after ∧ after = [] := Iff.rfl

theorem Ends.follows {close : Option Char} {rest after : List Char} (ends : Ends close rest after)
    (closing : ∀ k ∈ close, k = ']' ∨ k = '}') : Follows rest := by
  intro c first
  cases close with
  | none =>
    obtain ⟨skipped, rfl⟩ := ends
    rw [skipped.dropBlanks_eq] at first
    cases first
  | some k =>
    have bracket := closing k rfl
    rw [ends_some, punct_iff (by rcases bracket with rfl | rfl <;> decide)] at ends
    rw [ends, List.head?_cons, Option.mem_def, Option.some.injEq] at first
    subst first
    exact .inr bracket

namespace Reader

theorem closer_eq_some {o : Option Char} {c : Char} (opened : closer o = some c) :
    ∃ b, o = some b ∧ BracketPair b c := by
  unfold closer at opened
  split at opened
  · cases opened
    exact ⟨'[', rfl, .inl ⟨rfl, rfl⟩⟩
  · cases opened
    exact ⟨'{', rfl, .inr ⟨rfl, rfl⟩⟩
  · cases opened

theorem closer_of_pair {o c : Char} (pair : BracketPair o c) : closer (some o) = some c := by
  rcases pair with ⟨rfl, rfl⟩ | ⟨rfl, rfl⟩ <;> rfl

theorem closer_of_follows {cs : List Char} (follows : Follows cs) :
    closer (Text.dropBlanks cs).head? = none := by
  cases first : (Text.dropBlanks cs).head? with
  | none => rfl
  | some c =>
    rcases follows c first with rfl | rfl | rfl <;> rfl

theorem treeOnly_forIn_addChild (parent : List String) (marks : NodeMarks) (fields : List Field) :
    TreeOnly (forIn fields PUnit.unit fun f _ => do
      let _ ← addChild parent f.matcher marks
      pure (ForInStep.yield PUnit.unit)) :=
  TreeOnly.forIn (fun _ _ => (treeOnly_addChild _ _ _).bind fun _ => TreeOnly.pure _) fields _

/-! ## Soundness -/

mutual

theorem expressionList_sound : ∀ (fuel : Nat) {parent : List String} {close : Option Char}
    {r r' : Reading}, (expressionList parent close fuel).run r = .ok ((), r') →
    ∃ rest, ExprList r.cursor.rest rest ∧ Ends close rest r'.cursor.rest
  | 0, _, _, _, _, h => by simp only [expressionList, run_failUnexpected, reduceCtorEq] at h
  | fuel + 1, parent, close, r, r', h => by
    simp only [expressionList] at h
    rw [run_bind_eq_ok] at h
    obtain ⟨⟨⟩, r₁, ranExpr, h⟩ := h
    obtain ⟨rest₁, expr, skipped⟩ := expression_sound fuel ranExpr
    simp only [run_peek_bind] at h
    split at h
    · rename_i comma
      simp only [run_bump_bind] at h
      obtain ⟨rest, list, ends⟩ := expressionList_sound fuel h
      exact ⟨rest, .step expr ((punct_of_head comma).of_blanks skipped) (by simpa using list), ends⟩
    · rename_i c _ first
      split at h
      · rename_i closing
        simp only [run_bump, Except.ok.injEq, Prod.mk.injEq] at h
        obtain ⟨-, rfl⟩ := h
        rw [beq_iff_eq] at closing
        subst closing
        exact ⟨rest₁, .last expr, by simpa using (punct_of_head first).of_blanks skipped⟩
      · simp only [run_failUnexpected, reduceCtorEq] at h
    · rename_i atEnd
      split at h
      · simp only [run_pure, Except.ok.injEq, Prod.mk.injEq] at h
        obtain ⟨-, rfl⟩ := h
        have ended : Text.dropBlanks r₁.cursor.rest = [] := List.head?_eq_none_iff.1 atEnd
        refine ⟨rest₁, .last expr, ?_, by simpa using ended⟩
        simpa [ended] using skipped.trans (blanks_dropBlanks r₁.cursor.rest)
      · simp only [run_failUnexpected, reduceCtorEq] at h

/-- What one expression reads is an expression of the grammar, followed by blanks; the steps
of a path before its last only build the tree. -/
theorem expression_sound : ∀ (fuel : Nat) {parent : List String} {r r' : Reading},
    (expression parent fuel).run r = .ok ((), r') →
    ∃ rest, Expr r.cursor.rest rest ∧ Blanks rest r'.cursor.rest
  | 0, _, _, _, h => by simp only [expression, run_failUnexpected, reduceCtorEq] at h
  | fuel + 1, parent, r, r', h => by
    simp only [expression, run_peek_bind] at h
    split at h
    · rename_i minus
      simp only [run_bump_bind] at h
      obtain ⟨ts, rest, separated, plain, skipped⟩ := negated_sound h
      exact ⟨rest, .negated (punct_of_head minus) (by simpa using separated) plain, skipped⟩
    · rename_i paren
      simp only [run_bump_bind, run_get_bind] at h
      rw [run_bind_eq_ok] at h
      obtain ⟨fields, r₁, ranFields, h⟩ := h
      obtain ⟨ts, rest₁, separated, plain, closed, count⟩ := fieldList_sound (by simp) ranFields
      have nonEmpty : fields ≠ [] := by
        rintro rfl
        exact separated.ne_nil (List.length_eq_zero_iff.1 (by simpa using count.symm))
      obtain ⟨rest, nest, skipped⟩ := attach_sound fuel nonEmpty h
      exact ⟨rest, .fields (punct_of_head paren) (by simpa using separated) plain closed nest, skipped⟩
    · rw [run_bind_eq_ok] at h
      obtain ⟨steps, r₁, ranPath, h⟩ := h
      obtain ⟨ts, rest₁, separated, skipped₁, allowed, marks⟩ := path_sound ranPath
      split at h
      · simp only [run_failUnexpected, reduceCtorEq] at h
      · obtain ⟨_, tree, h⟩ : ∃ node tree, (attach node [_] fuel).run { r₁ with tree := tree } = .ok ((), r') := by
          split at h
          · exact ⟨_, _, h⟩
          · obtain ⟨_, tree, h⟩ := (treeOnly_brace _).run_bind_eq_ok h
            obtain ⟨node, tree', h⟩ := (treeOnly_pathPrefix _ _).run_bind_eq_ok h
            exact ⟨node, tree', h⟩
        obtain ⟨rest₂, nest, skipped₂⟩ := attach_sound fuel (List.cons_ne_nil _ _) h
        obtain ⟨rest, nest, skipped⟩ := Nest.of_blanks skipped₁ nest
        refine ⟨rest, ?_, skipped.trans skipped₂⟩
        replace separated := separated.of_blanks (blanks_dropBlanks r.cursor.rest)
        rcases allowed with plain | rfl
        · exact .path separated plain nest
        · obtain ⟨_, tok, ⟨-, rfl⟩ | ⟨_, _, more⟩⟩ := separated_cons_iff.1 separated
          · exact .anyDeep tok nest
          · exact absurd rfl more.ne_nil

theorem attach_sound : ∀ (fuel : Nat) {parent : List String} {fields : List Field}
    {r r' : Reading}, fields ≠ [] → (attach parent fields fuel).run r = .ok ((), r') →
    ∃ rest, Nest r.cursor.rest rest ∧ Blanks rest r'.cursor.rest
  | 0, _, _, _, _, _, h => by simp only [attach, run_failUnexpected, reduceCtorEq] at h
  | fuel + 1, parent, fields, r, r', nonEmpty, h => by
    simp only [attach, run_peek_bind] at h
    split at h
    · obtain ⟨_, tree, h⟩ := (treeOnly_forIn_addChild _ _ _).run_bind_eq_ok h
      simp only [run_pure, Except.ok.injEq, Prod.mk.injEq] at h
      obtain ⟨-, rfl⟩ := h
      exact ⟨r.cursor.rest, .none, blanks_dropBlanks _⟩
    · rename_i close opened
      obtain ⟨o, first, pair⟩ := closer_eq_some opened
      simp only [run_bump_bind, run_get_bind, run_peek_bind] at h
      split at h
      · rename_i empty
        obtain ⟨_, tree, h⟩ := (treeOnly_forIn_addChild _ _ _).run_bind_eq_ok h
        simp only [run_bump, Except.ok.injEq, Prod.mk.injEq] at h
        obtain ⟨-, rfl⟩ := h
        refine ⟨_, .empty pair (punct_of_head first) ?_, .refl _⟩
        simpa using punct_of_head (beq_iff_eq.1 empty)
      · obtain ⟨rest, list, closed⟩ := nestedEach_sound fuel nonEmpty h
        exact ⟨r'.cursor.rest, .list pair (punct_of_head first) (by simpa using list) closed, .refl _⟩

/-- Reading a nested list into each of several fields reads one list of the grammar and its
closing bracket: every field reads the same text from its start, and the last reading is
what remains. -/
theorem nestedEach_sound : ∀ (fuel : Nat) {parent : List String} {close : Char} {start : Cursor}
    {fields : List Field} {r r' : Reading}, fields ≠ [] →
    (nestedEach parent close start fields fuel).run r = .ok ((), r') →
    ∃ rest, ExprList start.rest rest ∧ Punct close rest r'.cursor.rest
  | _, _, _, _, [], _, _, nonEmpty, _ => absurd rfl nonEmpty
  | 0, _, _, _, _ :: _, _, _, _, h => by simp only [nestedEach, run_failUnexpected, reduceCtorEq] at h
  | fuel + 1, parent, close, start, f :: more, r, r', _, h => by
    simp only [nestedEach] at h
    obtain ⟨node, tree, h⟩ := (treeOnly_addChild _ _ _).run_bind_eq_ok h
    simp only [run_modify_bind] at h
    obtain ⟨_, tree', h⟩ := (treeOnly_brace node).run_bind_eq_ok h
    rw [run_bind_eq_ok] at h
    obtain ⟨⟨⟩, r₁, ranList, h⟩ := h
    cases more with
    | nil =>
      simp only [nestedEach, run_pure, Except.ok.injEq, Prod.mk.injEq] at h
      obtain ⟨-, rfl⟩ := h
      simpa using expressionList_sound fuel ranList
    | cons g more => exact nestedEach_sound fuel (List.cons_ne_nil _ _) h

end

/-! ## Completeness -/

mutual

theorem expressionList_complete : ∀ (fuel : Nat) (parent : List String) {close : Option Char}
    {r : Reading} {rest after : List Char}, ExprList r.cursor.rest rest → Ends close rest after →
    (∀ k ∈ close, k = ']' ∨ k = '}') → 4 * r.cursor.rest.length + 3 ≤ fuel →
    ∃ r', (expressionList parent close fuel).run r = .ok ((), r') ∧ r'.cursor.rest = after
  | 0, _, _, _, _, _, _, _, _, enough => absurd enough (by omega)
  | fuel + 1, parent, close, r, rest, after, list, ends, closing, enough => by
    simp only [expressionList]
    cases list with
    | last expr =>
      have shorter := expr.length_lt
      obtain ⟨r₁, ran, same⟩ := expression_complete fuel expr (Ends.follows ends closing) (by omega)
      rw [run_bind_of_ok ran]
      simp only [run_peek_bind, same]
      cases close with
      | none =>
        obtain ⟨skipped, rfl⟩ := ends
        have ended : Text.dropBlanks rest = [] := skipped.dropBlanks_eq
        simp only [ended, List.head?_nil, run_pure]
        exact ⟨_, rfl, by simp [same, ended]⟩
      | some k =>
        have bracket := closing k rfl
        have closed : Text.dropBlanks rest = k :: after :=
          (punct_iff (by rcases bracket with rfl | rfl <;> decide)).1 ends
        refine ⟨{ r₁ with cursor := r₁.cursor.skipBlanks.bump }, ?_, by simp [same, closed]⟩
        rcases bracket with rfl | rfl <;> simp [closed]
    | step expr punct more =>
      rename_i r₁ r₂
      have shorter := expr.length_lt
      have shorter' := punct.length_lt
      have comma : Text.dropBlanks r₁ = ',' :: r₂ := (punct_iff (by decide)).1 punct
      have follows : Follows r₁ := fun c first => by
        rw [comma, List.head?_cons, Option.mem_def, Option.some.injEq] at first
        exact .inl first.symm
      obtain ⟨r₃, ran, same⟩ := expression_complete fuel expr follows (by omega)
      rw [run_bind_of_ok ran]
      simp only [run_peek_bind, same, comma, List.head?_cons, run_bump_bind]
      exact expressionList_complete fuel parent (by simpa [same, comma] using more) ends closing
        (by simp [same, comma]; omega)

/-- Every expression of the grammar followed by what may follow one is read, up to the blanks
after it, given fuel past four times the text's length; a path or the any-deep name has
what is nested attached to its last step. -/
theorem expression_complete : ∀ (fuel : Nat) {parent : List String} {r : Reading}
    {rest : List Char}, Expr r.cursor.rest rest → Follows rest → 4 * r.cursor.rest.length + 2 ≤ fuel →
    ∃ r', (expression parent fuel).run r = .ok ((), r') ∧
      Text.dropBlanks r'.cursor.rest = Text.dropBlanks rest
  | 0, _, _, _, _, _, enough => absurd enough (by omega)
  | fuel + 1, parent, r, rest, expr, follows, enough => by
    have viaPath : ∀ {ts : List (List Char)} {r₁ : List Char}, Separated '.' r.cursor.rest ts r₁ →
        (anyDeepText ∉ ts ∨ ts = [anyDeepText]) → Nest r₁ rest →
        ∃ r', (expression parent (fuel + 1)).run r = .ok ((), r') ∧
          Text.dropBlanks r'.cursor.rest = Text.dropBlanks rest := by
      intro ts r₁ separated allowed nest
      have notMinus := separated.head_ne (k := '-') (by decide)
      have notParen := separated.head_ne (k := '(') (by decide)
      have shorter := separated.length_lt
      obtain ⟨fs, r₂, ran, after, marks⟩ := path_complete (r := { r with cursor := r.cursor.skipBlanks })
        (by simpa using separated.dropBlanks) allowed (nest.head_ne_dot follows)
      obtain ⟨last, before, reversed⟩ : ∃ last before, fs.reverse = last :: before := by
        have nonEmpty : fs ≠ [] := by
          rintro rfl
          exact separated.ne_nil (List.map_eq_nil_iff.1 marks.symm)
        exact List.exists_cons_of_ne_nil (by simpa using nonEmpty)
      have same : Text.dropBlanks r₂.cursor.rest = Text.dropBlanks r₁ := by
        rw [after, dropBlanks_dropBlanks]
      simp only [expression, run_peek_bind]
      rw [run_bind_of_ok ran]
      simp only [reversed]
      split
      · simp only [run_pure_bind]
        exact attach_complete fuel nest same follows (List.cons_ne_nil _ _) (by simp; omega)
      · refine (treeOnly_brace _).run_bind_unit fun _ tree => ?_
        refine (treeOnly_pathPrefix _ _).run_bind_unit fun _ tree' => ?_
        exact attach_complete fuel nest same follows (List.cons_ne_nil _ _) (by simp; omega)
    cases expr with
    | negated minus separated plain =>
      rename_i r₁ ts
      have first : Text.dropBlanks r.cursor.rest = '-' :: r₁ := (punct_iff (by decide)).1 minus
      simp only [expression, run_peek_bind, first, List.head?_cons, run_bump_bind]
      obtain ⟨r', ran, final⟩ := negated_complete parent
        (r := { r with cursor := r.cursor.skipBlanks.bump }) (by simpa [first] using separated)
        plain follows
      exact ⟨r', ran, by rw [final, dropBlanks_dropBlanks]⟩
    | fields paren separated plain closed nest =>
      rename_i r₁ r₂ r₃ ts
      have first : Text.dropBlanks r.cursor.rest = '(' :: r₁ := (punct_iff (by decide)).1 paren
      have counted := separated.length_le
      have shorter := paren.length_lt
      have shorter' := closed.length_lt
      obtain ⟨fields, r₄, ran, after, count⟩ := fieldList_complete separated plain closed
        (r₁.length + 1) [] { r with cursor := r.cursor.skipBlanks.bump } (by simp [first])
        (by omega)
      simp only [expression, run_peek_bind, first, List.head?_cons, run_bump_bind, run_get_bind,
        Cursor.bump_rest, Cursor.skipBlanks_rest, List.tail_cons]
      rw [run_bind_of_ok ran]
      have nonEmpty : fields ≠ [] := by
        rintro rfl
        exact separated.ne_nil (List.length_eq_zero_iff.1 (by simpa using count.symm))
      exact attach_complete fuel nest (by rw [after]) follows nonEmpty (by simp at count; omega)
    | path separated plain nest => exact viaPath separated (.inl plain) nest
    | anyDeep tok nest => exact viaPath (.last tok) (.inr rfl) nest

theorem attach_complete : ∀ (fuel : Nat) {parent : List String} {fields : List Field}
    {r : Reading} {cs rest : List Char}, Nest cs rest →
    Text.dropBlanks r.cursor.rest = Text.dropBlanks cs → Follows rest → fields ≠ [] →
    fields.length + 4 * cs.length + 3 ≤ fuel →
    ∃ r', (attach parent fields fuel).run r = .ok ((), r') ∧
      Text.dropBlanks r'.cursor.rest = Text.dropBlanks rest
  | 0, _, _, _, _, _, _, _, _, _, enough => absurd enough (by omega)
  | fuel + 1, parent, fields, r, cs, rest, nest, same, follows, nonEmpty, enough => by
    simp only [attach, run_peek_bind, same]
    cases nest with
    | none =>
      simp only [closer_of_follows follows]
      refine (treeOnly_forIn_addChild _ _ _).run_bind_unit fun _ tree => ?_
      exact ⟨_, rfl, by simp [same, dropBlanks_dropBlanks]⟩
    | empty pair opened closed =>
      rename_i r₁ o c
      have first : Text.dropBlanks cs = o :: r₁ := (punct_iff (BracketPair.plain pair).1).1 opened
      have shut : Text.dropBlanks r₁ = c :: rest := (punct_iff (BracketPair.plain pair).2).1 closed
      simp only [first, List.head?_cons, closer_of_pair pair, run_bump_bind, run_get_bind,
        run_peek_bind, Cursor.bump_rest, Cursor.skipBlanks_rest, same, List.tail_cons, shut,
        beq_self_eq_true, if_true]
      refine (treeOnly_forIn_addChild _ _ _).run_bind_unit fun _ tree => ?_
      exact ⟨_, rfl, by simp [same, first, shut]⟩
    | list pair opened list closed =>
      rename_i r₁ r₂ o c
      have first : Text.dropBlanks cs = o :: r₁ := (punct_iff (BracketPair.plain pair).1).1 opened
      have notEmpty : (Text.dropBlanks r₁).head? ≠ some c := list.head_ne (BracketPair.not_opensExpr pair)
      have shorter := opened.length_lt
      simp only [first, List.head?_cons, closer_of_pair pair, run_bump_bind, run_get_bind,
        run_peek_bind, Cursor.bump_rest, Cursor.skipBlanks_rest, same, List.tail_cons]
      simp only [beq_iff_eq, notEmpty, if_false]
      refine (nestedEach_complete fuel parent r.cursor.skipBlanks.bump nonEmpty
        (by simpa [same, first] using list) closed (BracketPair.closing pair)
        (by simp [same, first]; omega)).imp fun r' done => ⟨done.1, by rw [done.2]⟩

/-- A list of the grammar closed by its bracket is read into each of the fields in turn, the
reading ending past the bracket: every field reads the same text from its start. -/
theorem nestedEach_complete : ∀ (fuel : Nat) (parent : List String) {close : Char}
    (start : Cursor) {fields : List Field} {r : Reading} {rest after : List Char}, fields ≠ [] →
    ExprList start.rest rest → Punct close rest after → (close = ']' ∨ close = '}') →
    fields.length + 4 * start.rest.length + 3 ≤ fuel →
    ∃ r', (nestedEach parent close start fields fuel).run r = .ok ((), r') ∧ r'.cursor.rest = after
  | _, _, _, _, [], _, _, _, nonEmpty, _, _, _, _ => absurd rfl nonEmpty
  | 0, _, _, _, _ :: _, _, _, _, _, _, _, _, enough => absurd enough (by simp)
  | fuel + 1, parent, close, start, f :: more, r, rest, after, _, list, closed, closing, enough => by
    simp only [nestedEach]
    refine (treeOnly_addChild _ _ _).run_bind_unit fun node tree => ?_
    simp only [run_modify_bind]
    refine (treeOnly_brace node).run_bind_unit fun _ tree' => ?_
    obtain ⟨r₁, ran, final⟩ := expressionList_complete fuel node
      (r := { cursor := start, tree := tree' }) list ((ends_some _ _ _).2 closed)
      (by rcases closing with rfl | rfl <;> simp) (by simp at enough ⊢; omega)
    rw [run_bind_of_ok ran]
    cases more with
    | nil => exact ⟨r₁, by rw [nestedEach]; rfl, final⟩
    | cons g more =>
      exact nestedEach_complete fuel parent start (List.cons_ne_nil _ _) list closed closing
        (by simp at enough ⊢; omega)

end

end Reader

/-! ## Compiling a text -/

/-- Trimmed text ends with no blank. -/
theorem trimBlanks_getLast? (cs : List Char) :
    ∀ c ∈ (Text.trimBlanks cs).getLast?, Text.isBlank c = false := by
  intro c last
  rw [Text.trimBlanks, List.getLast?_reverse, Option.mem_def] at last
  have stops := List.head?_dropWhile_not Text.isBlank (Text.dropBlanks cs).reverse
  rw [← Text.dropBlanks, last] at stops
  exact stops

/-- What is left after reading a prefix of trimmed text, if it is all blanks, is nothing. -/
theorem eq_nil_of_blanks_suffix {cs rest : List Char} (suffix : rest <:+ Text.trimBlanks cs)
    (blank : Blanks rest []) : rest = [] := by
  obtain ⟨bl, blanks, rfl⟩ := blank
  rcases List.eq_nil_or_concat bl with rfl | ⟨front, b, rfl⟩
  · rfl
  · obtain ⟨pre, joined⟩ := suffix
    have last := trimBlanks_getLast? cs b (by rw [← joined]; simp)
    rw [blanks b (by simp)] at last
    cases last

theorem parseTrimmed_ok_iff (cs : List Char) :
    (∃ ns, parseTrimmed cs = .ok ns) ↔
      ∃ r', (Reader.expressionList [] none (4 * cs.length + 8)).run ⟨⟨cs, 0⟩, Draft.root⟩ =
        .ok ((), r') := by
  simp only [parseTrimmed]
  cases ran : (Reader.expressionList [] none (4 * cs.length + 8)).run ⟨⟨cs, 0⟩, Draft.root⟩ with
  | error e => simp [Bind.bind, Except.bind]
  | ok result =>
    obtain ⟨⟨⟩, r'⟩ := result
    simp [Bind.bind, Except.bind, pure, Except.pure]

/-- The reader accepts exactly the expressions of the grammar: a text compiles if and only if,
trimmed of blanks, it is empty or an expression list. -/
theorem parse_ok_iff_derives (text : String) :
    (∃ ns, parse text = .ok ns) ↔
      Text.trimBlanks text.toList = [] ∨ Derives (Text.trimBlanks text.toList) := by
  unfold parse
  by_cases blank : Text.trimBlanks text.toList = []
  · simp [blank]
  · simp only [blank, List.isEmpty_iff, if_false, false_or, parseTrimmed_ok_iff]
    constructor
    · rintro ⟨r', ran⟩
      obtain ⟨rest, list, ends⟩ := Reader.expressionList_sound _ ran
      obtain ⟨skipped, final⟩ := (ends_none _ _).1 ends
      rw [final] at skipped
      rw [eq_nil_of_blanks_suffix list.suffix skipped] at list
      exact list
    · intro derived
      obtain ⟨r', ran, -⟩ := Reader.expressionList_complete
        (4 * (Text.trimBlanks text.toList).length + 8) [] (r := ⟨⟨Text.trimBlanks text.toList, 0⟩, Draft.root⟩)
        derived ((ends_none [] []).2 ⟨Blanks.refl [], rfl⟩) (by simp)
        (show 4 * (Text.trimBlanks text.toList).length + 3 ≤ _ by omega)
      exact ⟨r', ran⟩

end FieldSelection.Selection

import FieldSelection.Proofs.Selection.Places
/-!
# A field list broadcasts its nested part

A field list shares its nested part among its fields: `(a,b)[x]` reads as `a[x],b[x]`. For
fields `t₁ … tₖ`, none of them the any-deep name, and a nested part `N` that is absent, empty or a
list in brackets, the text `(t₁,…,tₖ)N` (`fieldListText`) and the text `t₁N,…,tₖN` (`eachText`)
may stand for each other at every place of an expression (`parse_fieldList_broadcasts`): either
both fail to compile, or both compile to the same forest.

The reader attaches a nested part to the fields of a list by reading the nested text again for
every field, rewinding to its start each time. Two facts carry the proof:

* attaching to several fields is attaching to the first, then to the others
  (`Reader.attach_split`, `Reader.attach_join`);
* a nested part is read alike whatever may follow it (`Reader.attach_follow`), since a nested
  list ends at its closing bracket (`Reader.closedList_along`).

The text `t₁N,…,tₖN` is then read field by field (`Reader.list_of_attach`,
`Reader.attach_of_list`), which gives a swap in both directions at the start of a list, and so at
every place.
-/

namespace FieldSelection.Selection

/-- The field list `(t₁,…,tₖ)` as written. -/
def fieldListText (ts : List (List Char)) : List Char :=
  '(' :: ([','].intercalate ts ++ [')'])

/-- Each field followed by the nested part, separated by commas: `t₁N,…,tₖN`. -/
def eachText (ts : List (List Char)) (N : List Char) : List Char :=
  [','].intercalate (ts.map (· ++ N))

/-- A field written alone, standing for the matcher `m`: one field token that is not the any-deep
name, read as `m` before anything that does not go on with it. -/
structure Written (t : List Char) (m : NameMatcher) : Prop where
  token : FieldToken t t []
  notAnyDeep : m.isAnyDeep = false
  reads : ∀ {r : Reading} {W : List Char}, (∀ c ∈ W.head?, isNameChar c = false) →
    Text.dropBlanks r.cursor.rest = t ++ W →
    ∃ f r', Reader.field.run r = .ok (f, r') ∧ f.matcher = m ∧ r'.cursor.rest = W ∧ r'.tree = r.tree

/-- Every field token but the any-deep name, written alone, stands for one matcher. -/
theorem written_of_token {t : List Char} (tok : FieldToken t t []) (plain : t ≠ anyDeepText) :
    ∃ m, Written t m := by
  obtain ⟨tk, text, skipped, read⟩ := tok.token
  obtain ⟨f, r', ran, -, named⟩ := Reader.field_complete (r := ⟨⟨t, 0⟩, Draft.root⟩) tok
  have alone := Reader.field_reads_text
    (show Text.dropBlanks (⟨⟨t, 0⟩, Draft.root⟩ : Reading).cursor.rest = tk.text ++ [] from skipped) read
  rw [ran] at alone
  have matcherOf : tk.matcher? = some f.matcher := by
    cases found : tk.matcher? with
    | none => simp [found, Except.toOption] at alone
    | some m =>
      simp only [found, Except.toOption, Option.map_some, Option.some.injEq, Prod.mk.injEq] at alone
      rw [alone.1]
  refine ⟨f.matcher, tok, ?_, ?_⟩
  · cases anyDeep : f.matcher.isAnyDeep with
    | false => rfl
    | true => exact absurd (named.1 anyDeep) plain
  · intro r W stop here
    have readW : tk.Read W := by simpa using read.append stop
    have found := Reader.field_reads_text
      (show Text.dropBlanks r.cursor.rest = tk.text ++ W by rw [here, text]) readW
    rw [matcherOf] at found
    obtain ⟨⟨f', r''⟩, ran', same⟩ := Except.exists_ok_of_toOption_map found
    simp only [Prod.mk.injEq] at same
    exact ⟨f', r'', ran', same.1, same.2.1, same.2.2⟩

/-- A field token standing alone may open a list. -/
theorem FieldToken.opens {t : List Char} (tok : FieldToken t t []) : Opens t := by
  obtain ⟨c, more, first, start⟩ := tok.head
  refine ⟨c, more, first, ?_, ?_⟩ <;>
    · rintro rfl
      rcases start with same | same | named
      · cases same
      · cases same
      · cases named

/-- A field token standing alone ends with no blank. -/
theorem FieldToken.last {t : List Char} (tok : FieldToken t t []) :
    ∀ c ∈ t.getLast?, Text.isBlank c = false := by
  obtain ⟨tk, text, -, read⟩ := tok.token
  rw [← text]
  exact read.last_not_blank

namespace Written

variable {t : List Char} {m : NameMatcher}

/-- A field written alone starts with no blank. -/
theorem dropBlanks_append (written : Written t m) (Z : List Char) :
    Text.dropBlanks (t ++ Z) = t ++ Z := by
  obtain ⟨tk, text, skipped, read⟩ := written.token.token
  have plainT : Text.dropBlanks t = t := by rw [skipped, List.append_nil, text]
  have nonEmpty : Text.dropBlanks t ≠ [] := by
    rw [plainT, ← text]
    exact read.text_ne_nil
  rw [dropBlanks_append_of_ne_nil nonEmpty, plainT]

theorem ne_nil (written : Written t m) : t ≠ [] := by
  obtain ⟨tk, text, -, read⟩ := written.token.token
  rw [← text]
  exact read.text_ne_nil

/-- A field written alone starts with a name or a delimiter, past no blank, whatever follows. -/
theorem head_ne (written : Written t m) {k : Char}
    (punctuation : k ≠ '~' ∧ k ≠ '/' ∧ isNameStart k = false) (Z : List Char) :
    (Text.dropBlanks (t ++ Z)).head? ≠ some k := by
  have first := written.token.head_ne punctuation
  have plainT : Text.dropBlanks t = t := by simpa using written.dropBlanks_append []
  rw [plainT] at first
  rw [written.dropBlanks_append, List.head?_append_of_ne_nil _ written.ne_nil]
  exact first

/-- A field written alone may open a list. -/
theorem opens (written : Written t m) : Opens t := written.token.opens

/-- A field written alone ends with no blank. -/
theorem last (written : Written t m) : ∀ c ∈ t.getLast?, Text.isBlank c = false :=
  written.token.last

end Written

/-- What follows a field, a nested part or what may follow an expression, does not go on with the
field. -/
theorem stop_of_nest {N W : List Char} (nest : Nest N []) (follows : Follows W) :
    ∀ c ∈ (N ++ W).head?, isNameChar c = false := by
  intro c first
  cases blank : Text.isBlank c with
  | true => exact isNameChar_of_isBlank blank
  | false =>
    have skipped : (Text.dropBlanks (N ++ W)).head? = some c := by
      obtain ⟨rest, split⟩ := List.head?_eq_some_iff.1 first
      rw [split]
      simp [Text.dropBlanks, blank]
    cases nest with
    | none =>
      rcases follows c (by simpa using skipped) with rfl | rfl | rfl <;> decide
    | empty pair opened | list pair opened =>
      rw [(punct_iff pair.plain.1).1 (opened.append W), List.head?_cons, Option.some.injEq] at skipped
      subst skipped
      rcases pair with ⟨rfl, -⟩ | ⟨rfl, -⟩ <;> decide

theorem eachText_singleton (t N : List Char) : eachText [t] N = t ++ N := by
  simp [eachText]

theorem eachText_cons_cons (t t' : List Char) (ts : List (List Char)) (N : List Char) :
    eachText (t :: t' :: ts) N = t ++ (N ++ ',' :: eachText (t' :: ts) N) := by
  simp [eachText, List.intercalate_cons_cons]

/-- Written out, the fields start with the first of them. -/
theorem eachText_cons (t : List Char) (ts : List (List Char)) (N : List Char) :
    ∃ Z, eachText (t :: ts) N = t ++ Z := by
  cases ts with
  | nil => exact ⟨N, eachText_singleton t N⟩
  | cons t' ts => exact ⟨_, eachText_cons_cons t t' ts N⟩

theorem dropBlanks_comma (X : List Char) : Text.dropBlanks (',' :: X) = ',' :: X :=
  List.dropWhile_cons_of_neg (by decide)

theorem follows_comma (X : List Char) : Follows (',' :: X) := by
  intro c first
  rw [dropBlanks_comma, List.head?_cons, Option.mem_def, Option.some.injEq] at first
  exact .inl first.symm

theorem dropBlanks_fieldListText (ts : List (List Char)) (Z : List Char) :
    Text.dropBlanks (fieldListText ts ++ Z) = fieldListText ts ++ Z :=
  List.dropWhile_cons_of_neg (by decide)

/-- After a nested part comes no dot, when what may follow an expression follows it. -/
theorem Nest.noDot {N W : List Char} (nest : Nest N []) (follows : Follows W) :
    (Text.dropBlanks (N ++ W)).head? ≠ some '.' := by
  cases nest with
  | none => simpa using follows.head_ne (c := '.') (by decide)
  | empty pair opened | list pair opened =>
    rw [(punct_iff pair.plain.1).1 (opened.append W)]
    rcases pair with ⟨rfl, -⟩ | ⟨rfl, -⟩ <;> simp

/-- A nested part ends with its closing bracket, when there is one. -/
theorem Nest.last {N : List Char} (nest : Nest N []) : ∀ c ∈ N.getLast?, Text.isBlank c = false := by
  cases nest with
  | none => simp
  | empty pair opened closed =>
    rename_i o k
    obtain ⟨bl, -, rfl⟩ := opened
    obtain ⟨bl', -, rfl⟩ := closed
    intro c mem
    rw [show bl ++ o :: (bl' ++ [k]) = (bl ++ o :: bl') ++ [k] by simp, List.getLast?_concat,
      Option.mem_def, Option.some.injEq] at mem
    rw [← mem]
    exact pair.plain.2
  | list pair opened list closed =>
    rename_i o k
    obtain ⟨bl, -, rfl⟩ := opened
    obtain ⟨P, rfl⟩ := list.suffix
    obtain ⟨bl', -, rfl⟩ := closed
    intro c mem
    rw [show bl ++ o :: (P ++ (bl' ++ [k])) = (bl ++ o :: (P ++ bl')) ++ [k] by simp,
      List.getLast?_concat, Option.mem_def, Option.some.injEq] at mem
    rw [← mem]
    exact pair.plain.2

/-- A text ends with no blank when both its parts do. -/
theorem last_append {A B : List Char} (lastA : ∀ c ∈ A.getLast?, Text.isBlank c = false)
    (lastB : ∀ c ∈ B.getLast?, Text.isBlank c = false) :
    ∀ c ∈ (A ++ B).getLast?, Text.isBlank c = false := by
  intro c mem
  rw [List.getLast?_append] at mem
  cases lastOf : B.getLast? with
  | none =>
    rw [lastOf, Option.none_or] at mem
    exact lastA c mem
  | some b =>
    rw [lastOf, Option.some_or] at mem
    exact lastB c (by rw [lastOf]; exact mem)

theorem stop_cons {c : Char} (plain : isNameChar c = false) (W : List Char) :
    ∀ x ∈ (c :: W).head?, isNameChar x = false := by
  intro x first
  simp only [List.head?_cons, Option.mem_def, Option.some.injEq] at first
  subst first
  exact plain

namespace Reader

/-! ## Reading a field written alone -/

/-- A field that is not the any-deep name, followed by no dot, is a path of one step. -/
theorem path_single {r r₁ : Reading} {f : Field} (ranField : field.run r = .ok (f, r₁))
    (notAnyDeep : f.matcher.isAnyDeep = false)
    (noDot : (Text.dropBlanks r₁.cursor.rest).head? ≠ some '.') :
    path.run r = .ok ([f], { r₁ with cursor := r₁.cursor.skipBlanks }) := by
  simp only [path]
  rw [run_bind_of_ok ranField]
  simp only [notAnyDeep, Bool.false_eq_true, if_false, run_get_bind, pathSteps, run_peek_bind,
    noDot, beq_iff_eq]
  rfl

/-- A field written alone, followed by neither a dot nor more of a name, is read as a path of one
step, up to what follows it past blanks. -/
theorem head_field {t : List Char} {m : NameMatcher} (written : Written t m) (parent : List String)
    {r : Reading} {W : List Char} (here : Text.dropBlanks r.cursor.rest = t ++ W)
    (stop : ∀ c ∈ W.head?, isNameChar c = false) (noDot : (Text.dropBlanks W).head? ≠ some '.') :
    ∃ f r', (head parent).run r = .ok ((parent, [f]), r') ∧ f.matcher = m ∧
      r'.cursor.rest = Text.dropBlanks W ∧ r'.tree = r.tree := by
  obtain ⟨f, r₁, ranField, named, after, tree⟩ :=
    written.reads (r := { r with cursor := r.cursor.skipBlanks }) stop
      (by simpa [dropBlanks_dropBlanks] using here)
  have notParen : (Text.dropBlanks r.cursor.rest).head? ≠ some '(' := by
    have first := written.head_ne (k := '(') (by decide) W
    rwa [written.dropBlanks_append, ← here] at first
  have ranPath := path_single ranField (named ▸ written.notAnyDeep) (by rwa [after])
  simp only [head, run_peek_bind]
  rw [run_bind_of_ok ranPath]
  simp only [List.reverse_singleton, stepsBefore, List.isEmpty_nil, if_true, run_pure_bind,
    run_pure]
  exact ⟨f, _, rfl, named, by simp [after], tree⟩

/-- The fields of a field list, each written alone, are read with their matchers up to the
closing parenthesis, the cursor right past it. -/
theorem fieldList_reads {ts : List (List Char)} {ms : List NameMatcher}
    (written : List.Forall₂ Written ts ms) (nonEmpty : ts ≠ []) :
    ∀ (fuel : Nat) (acc : List Field) {r : Reading} {W : List Char},
      ([','].intercalate ts).length < fuel →
      r.cursor.rest = [','].intercalate ts ++ ')' :: W →
      ∃ fs r', (fieldList fuel acc).run r = .ok (acc.reverse ++ fs, r') ∧
        fs.map (·.matcher) = ms ∧ r'.cursor.rest = W ∧ r'.tree = r.tree := by
  induction written with
  | nil => exact absurd rfl nonEmpty
  | @cons t m ts ms first rest ih =>
    intro fuel acc r W enough here
    obtain ⟨fuel, rfl⟩ : ∃ k, fuel = k + 1 := ⟨fuel - 1, by omega⟩
    have long := first.ne_nil
    cases rest with
    | nil =>
      rw [List.intercalate_singleton] at here
      obtain ⟨f, r₁, ranField, named, after, tree⟩ :=
        first.reads (stop_cons (c := ')') (by decide) W) (by rw [here, first.dropBlanks_append])
      have paren : Text.dropBlanks r₁.cursor.rest = ')' :: W := by
        rw [after]
        exact List.dropWhile_cons_of_neg (by decide)
      simp only [fieldList]
      rw [run_bind_of_ok ranField]
      simp only [named ▸ first.notAnyDeep, Bool.false_eq_true, if_false, run_peek_bind, paren,
        List.head?_cons, run_bump_bind, run_pure]
      exact ⟨[f], { r₁ with cursor := r₁.cursor.skipBlanks.bump }, by simp, by simp [named],
        by simp [paren], tree⟩
    | cons next more =>
      rename_i t' m' ts' ms'
      rw [List.intercalate_cons_cons] at here enough
      simp only [List.append_assoc, List.cons_append, List.nil_append] at here
      obtain ⟨f, r₁, ranField, named, after, tree⟩ :=
        first.reads (stop_cons (c := ',') (by decide) _) (by rw [here, first.dropBlanks_append])
      have comma : Text.dropBlanks r₁.cursor.rest =
          ',' :: ([','].intercalate (t' :: ts') ++ ')' :: W) := by
        rw [after]
        exact List.dropWhile_cons_of_neg (by decide)
      obtain ⟨fs, r', ran, namedRest, final, treeRest⟩ :=
        ih (List.cons_ne_nil _ _) fuel (f :: acc) (r := { r₁ with cursor := r₁.cursor.skipBlanks.bump })
          (W := W)
          (by simp only [List.length_append, List.length_cons, List.length_nil] at enough
              have := List.length_pos_of_ne_nil long
              omega)
          (by simp [comma])
      simp only [fieldList]
      rw [run_bind_of_ok ranField]
      simp only [named ▸ first.notAnyDeep, Bool.false_eq_true, if_false, run_peek_bind, comma,
        List.head?_cons, run_bump_bind]
      refine ⟨f :: fs, r', by simpa using ran, by simp [named, namedRest], final, ?_⟩
      rw [treeRest, ← tree]

/-- A field list whose fields are each written alone is read as their matchers, up to what
follows the parenthesis. -/
theorem head_fieldList {ts : List (List Char)} {ms : List NameMatcher}
    (written : List.Forall₂ Written ts ms) (nonEmpty : ts ≠ []) (parent : List String)
    {r : Reading} {W : List Char} (here : Text.dropBlanks r.cursor.rest = fieldListText ts ++ W) :
    ∃ fs r', (head parent).run r = .ok ((parent, fs), r') ∧ fs.map (·.matcher) = ms ∧
      r'.cursor.rest = W ∧ r'.tree = r.tree := by
  obtain ⟨fs, r', ran, named, after, tree⟩ := fieldList_reads written nonEmpty
    (([','].intercalate ts ++ ')' :: W).length + 1) [] (r := { r with cursor := r.cursor.skipBlanks.bump })
    (W := W)
    (by simp only [List.length_append, List.length_cons]; omega) (by simp [here, fieldListText])
  simp only [head, run_peek_bind, here, fieldListText, List.cons_append, List.head?_cons,
    run_bump_bind, run_get_bind]
  rw [show r.cursor.skipBlanks.bump.rest = [','].intercalate ts ++ ')' :: W by
    simp [here, fieldListText], run_bind_of_ok ran]
  exact ⟨fs, r', rfl, named, after, tree⟩

/-! ## Attaching a nested part to several fields -/

theorem run_addChild_bind {α : Type} (path : List String) (m : NameMatcher) (marks : NodeMarks)
    (k : List String → ReadM α) (r : Reading) :
    (addChild path m marks >>= k).run r =
      (k (r.tree.addChild path m marks).2).run { r with tree := (r.tree.addChild path m marks).1 } :=
  rfl

/-- Putting the first of several fields as a child, then the others. -/
theorem forIn_addChild_cons_bind {α : Type} (parent : List String) (marks : NodeMarks) (f : Field)
    (fs : List Field) (k : PUnit → ReadM α) (r : Reading) :
    ((forIn (f :: fs) PUnit.unit fun f _ => do
        let _ ← addChild parent f.matcher marks
        pure (ForInStep.yield PUnit.unit)) >>= k).run r =
      ((forIn fs PUnit.unit fun f _ => do
        let _ ← addChild parent f.matcher marks
        pure (ForInStep.yield PUnit.unit)) >>= k).run
        { r with tree := (r.tree.addChild parent f.matcher marks).1 } := by
  rw [List.forIn_cons]
  rfl

theorem nestedEach_cons_succ (parent : List String) (close : Char) (start : Cursor) (f : Field)
    (fs : List Field) (fuel : Nat) :
    nestedEach parent close start (f :: fs) (fuel + 1) = (do
      let node ← addChild parent f.matcher {}
      modify fun r => { r with cursor := start }
      brace node
      expressionList node (some close) fuel
      nestedEach parent close start fs fuel) :=
  rfl

/-- Reading a nested list into fields starts by rewinding to its start, wherever the reading
stood. -/
theorem nestedEach_rewinds {parent : List String} {close : Char} {start : Cursor} {f : Field}
    {fs : List Field} {fuel : Nat} (r : Reading) (c : Cursor) :
    (nestedEach parent close start (f :: fs) (fuel + 1)).run { r with cursor := c } =
      (nestedEach parent close start (f :: fs) (fuel + 1)).run r :=
  rfl

/-- Attaching a nested part to several fields is attaching it to the first, then to the others
from the same place, on the tree the first left. -/
theorem attach_split {parent : List String} {f g : Field} {gs : List Field} {fuel : Nat}
    {r r' : Reading} (h : (attach parent (f :: g :: gs) fuel).run r = .ok ((), r')) :
    ∃ rm, (attach parent [f] fuel).run r = .ok ((), rm) ∧
      (attach parent (g :: gs) fuel).run { r with tree := rm.tree } = .ok ((), r') := by
  cases fuel with
  | zero => simp only [attach, run_failUnexpected, reduceCtorEq] at h
  | succ fuel =>
    simp only [attach, run_peek_bind] at h ⊢
    cases opened : closer (Text.dropBlanks r.cursor.rest).head? with
    | none =>
      simp only [opened] at h ⊢
      rw [forIn_addChild_cons_bind] at h
      refine ⟨⟨r.cursor.skipBlanks, (r.tree.addChild parent f.matcher {}).1⟩, ?_, h⟩
      rw [forIn_addChild_cons_bind, List.forIn_nil]
      rfl
    | some close =>
      simp only [opened, run_bump_bind, run_get_bind, run_peek_bind] at h ⊢
      by_cases empty : ((Text.dropBlanks r.cursor.skipBlanks.bump.rest).head? == some close) = true
      · simp only [if_pos empty] at h ⊢
        rw [forIn_addChild_cons_bind] at h
        refine ⟨⟨r.cursor.skipBlanks.bump.skipBlanks.bump,
          (r.tree.addChild parent f.matcher { emptyNested := true }).1⟩, ?_, h⟩
        rw [forIn_addChild_cons_bind, List.forIn_nil]
        rfl
      · simp only [if_neg empty] at h ⊢
        cases fuel with
        | zero => simp only [nestedEach, run_failUnexpected, reduceCtorEq] at h
        | succ fuel =>
          rw [nestedEach_cons_succ] at h
          simp only [run_addChild_bind, run_modify_bind, brace, mark] at h
          rw [run_bind_eq_ok] at h
          obtain ⟨⟨⟩, ra, ranList, rest⟩ := h
          refine ⟨ra, ?_, (nestedEach_rewinds ra _).trans (nestedEach_mono (Nat.le_succ fuel) rest)⟩
          rw [nestedEach_cons_succ]
          simp only [run_addChild_bind, run_modify_bind, brace, mark]
          rw [run_bind_of_ok ranList]
          simp only [nestedEach, run_pure]

/-- Attaching a nested part to the first field, then to the others from the same place on the
tree the first left, is attaching it to all of them. -/
theorem attach_join {parent : List String} {f g : Field} {gs : List Field} {fuel₁ fuel₂ : Nat}
    {r rm r' : Reading} (first : (attach parent [f] fuel₁).run r = .ok ((), rm))
    (rest : (attach parent (g :: gs) fuel₂).run { r with tree := rm.tree } = .ok ((), r')) :
    (attach parent (f :: g :: gs) (max fuel₁ fuel₂ + 1)).run r = .ok ((), r') := by
  obtain ⟨fuel, same⟩ : ∃ fuel, max fuel₁ fuel₂ = fuel + 1 := by
    cases fuel₁ with
    | zero => simp only [attach, run_failUnexpected, reduceCtorEq] at first
    | succ k => exact ⟨max (k + 1) fuel₂ - 1, by omega⟩
  have first' := attach_mono (le_max_left fuel₁ fuel₂) first
  have rest' := attach_mono (le_max_right fuel₁ fuel₂) rest
  rw [same] at first' rest' ⊢
  simp only [attach, run_peek_bind] at first' rest' ⊢
  cases opened : closer (Text.dropBlanks r.cursor.rest).head? with
  | none =>
    simp only [opened] at first' rest' ⊢
    rw [forIn_addChild_cons_bind, List.forIn_nil] at first'
    simp only [run_pure_bind, run_pure, Except.ok.injEq, Prod.mk.injEq] at first'
    obtain ⟨-, rfl⟩ := first'
    rw [forIn_addChild_cons_bind]
    exact rest'
  | some close =>
    simp only [opened, run_bump_bind, run_get_bind, run_peek_bind] at first' rest' ⊢
    by_cases empty : ((Text.dropBlanks r.cursor.skipBlanks.bump.rest).head? == some close) = true
    · simp only [if_pos empty] at first' rest' ⊢
      rw [forIn_addChild_cons_bind, List.forIn_nil] at first'
      simp only [run_pure_bind, run_bump, Except.ok.injEq, Prod.mk.injEq] at first'
      obtain ⟨-, rfl⟩ := first'
      rw [forIn_addChild_cons_bind]
      exact rest'
    · simp only [if_neg empty] at first' rest' ⊢
      cases fuel with
      | zero => simp only [nestedEach, run_failUnexpected, reduceCtorEq] at first'
      | succ fuel =>
        rw [nestedEach_cons_succ] at first' ⊢
        simp only [run_addChild_bind, run_modify_bind, brace, mark] at first' ⊢
        rw [run_bind_eq_ok] at first'
        obtain ⟨⟨⟩, ra, ranList, done⟩ := first'
        simp only [nestedEach, run_pure, Except.ok.injEq, Prod.mk.injEq] at done
        obtain ⟨-, rfl⟩ := done
        rw [run_bind_of_ok (expressionList_mono (Nat.le_succ fuel) ranList)]
        exact (nestedEach_rewinds ra _).symm.trans rest'

/-! ## A nested part is read alike whatever follows it -/

/-- A nested list that closes right before `W₁` is read into each field alike from the same list
before `W₂`: the trees grow alike, and every reading stops right past the closing bracket. -/
theorem nestedEach_follow {L rest W₁ W₂ : List Char} {close : Char}
    (closing : close = ']' ∨ close = '}') (list : ExprList L rest) (closed : Punct close rest [])
    {start₁ start₂ : Cursor} (here₁ : start₁.rest = L ++ W₁) (here₂ : start₂.rest = L ++ W₂) :
    ∀ (fields : List Field) (fuel : Nat) {parent : List String} {r₁ r₂ r₁' : Reading},
      fields ≠ [] → r₁.tree = r₂.tree →
      (nestedEach parent close start₁ fields fuel).run r₁ = .ok ((), r₁') →
      ∃ r₂', (nestedEach parent close start₂ fields fuel).run r₂ = .ok ((), r₂') ∧
        r₂'.tree = r₁'.tree ∧ r₁'.cursor.rest = W₁ ∧ r₂'.cursor.rest = W₂
  | [], _, _, _, _, _, nonEmpty, _, _ => absurd rfl nonEmpty
  | _ :: _, 0, _, _, _, _, _, _, h => by
    simp only [nestedEach, run_failUnexpected, reduceCtorEq] at h
  | f :: more, fuel + 1, parent, r₁, r₂, r₁', _, same, h => by
    rw [nestedEach_cons_succ] at h ⊢
    simp only [run_addChild_bind, run_modify_bind, brace, mark] at h ⊢
    rw [← same]
    rw [run_bind_eq_ok] at h
    obtain ⟨⟨⟩, ra, ranList, h⟩ := h
    have ends : ra.cursor.rest = W₁ := by
      obtain ⟨rest', list', closed'⟩ := expressionList_sound fuel ranList
      rw [ends_some] at closed'
      exact closed_end_unique closing (by simpa [here₁] using list') closed'
        (list.append closed.ne_nil W₁) (by simpa using closed.append W₁)
    obtain ⟨rb, ranList₂, ends₂, sameB⟩ := closedList_along (keeps_eq []) fuel List.nil_prefix
      closing (show ({ cursor := start₁, tree := _ } : Reading).cursor.rest = L ++ W₁ from here₁)
      (show ({ cursor := start₂, tree := _ } : Reading).cursor.rest = L ++ W₂ from here₂) rfl
      ranList ends
    rw [run_bind_of_ok ranList₂]
    cases more with
    | nil =>
      simp only [nestedEach, run_pure, Except.ok.injEq, Prod.mk.injEq] at h
      obtain ⟨-, rfl⟩ := h
      exact ⟨rb, by simp only [nestedEach, run_pure], sameB.symm, ends, ends₂⟩
    | cons g more =>
      exact nestedEach_follow closing list closed here₁ here₂ (g :: more) fuel
        (List.cons_ne_nil _ _) sameB h

/-- Attaching a nested part reads it alike whatever may follow it: the trees grow alike, and both
readings stop right past it. -/
theorem attach_follow {N W₁ W₂ : List Char} (nest : Nest N []) (follows₁ : Follows W₁)
    (follows₂ : Follows W₂) {parent : List String} {fields : List Field} {fuel : Nat}
    {r₁ r₂ r₁' : Reading} (here₁ : Text.dropBlanks r₁.cursor.rest = Text.dropBlanks (N ++ W₁))
    (here₂ : Text.dropBlanks r₂.cursor.rest = Text.dropBlanks (N ++ W₂)) (same : r₁.tree = r₂.tree)
    (nonEmpty : fields ≠ []) (h : (attach parent fields fuel).run r₁ = .ok ((), r₁')) :
    ∃ r₂', (attach parent fields fuel).run r₂ = .ok ((), r₂') ∧ r₂'.tree = r₁'.tree ∧
      Text.dropBlanks r₁'.cursor.rest = Text.dropBlanks W₁ ∧
      Text.dropBlanks r₂'.cursor.rest = Text.dropBlanks W₂ := by
  cases fuel with
  | zero => simp only [attach, run_failUnexpected, reduceCtorEq] at h
  | succ fuel =>
  cases nest with
  | none =>
    rw [List.nil_append] at here₁ here₂
    simp only [attach, run_peek_bind, here₁, here₂, closer_of_follows follows₁,
      closer_of_follows follows₂] at h ⊢
    obtain ⟨_, t₁, t₂, -, ran₁, ran₂, rel⟩ :=
      (kept_forIn_addChild (keeps_eq []) List.nil_prefix {} fields).run_bind
        { r₁ with cursor := r₁.cursor.skipBlanks } { r₂ with cursor := r₂.cursor.skipBlanks } same
    rw [ran₁] at h
    rw [ran₂]
    simp only [run_pure, Except.ok.injEq, Prod.mk.injEq] at h
    obtain ⟨-, rfl⟩ := h
    exact ⟨_, rfl, rel.symm, by simp [here₁, dropBlanks_dropBlanks],
      by simp [here₂, dropBlanks_dropBlanks]⟩
  | empty pair opened closed =>
    rename_i mid o c
    have open₁ := (punct_iff pair.plain.1).1 (opened.append W₁)
    have open₂ := (punct_iff pair.plain.1).1 (opened.append W₂)
    have shut₁ : Text.dropBlanks (mid ++ W₁) = c :: W₁ := by
      simpa using (punct_iff pair.plain.2).1 (closed.append W₁)
    have shut₂ : Text.dropBlanks (mid ++ W₂) = c :: W₂ := by
      simpa using (punct_iff pair.plain.2).1 (closed.append W₂)
    simp only [attach, run_peek_bind, here₁, here₂, open₁, open₂, List.head?_cons,
      closer_of_pair pair, run_bump_bind, run_get_bind, Cursor.bump_rest, Cursor.skipBlanks_rest,
      List.tail_cons, shut₁, shut₂, beq_self_eq_true, if_true] at h ⊢
    obtain ⟨_, t₁, t₂, -, ran₁, ran₂, rel⟩ :=
      (kept_forIn_addChild (keeps_eq []) List.nil_prefix { emptyNested := true } fields).run_bind
        { cursor := r₁.cursor.skipBlanks.bump.skipBlanks, tree := r₁.tree }
        { cursor := r₂.cursor.skipBlanks.bump.skipBlanks, tree := r₂.tree } same
    rw [ran₁] at h
    rw [ran₂]
    simp only [run_bump, Except.ok.injEq, Prod.mk.injEq] at h
    obtain ⟨-, rfl⟩ := h
    exact ⟨_, run_bump _, rel.symm, by simp [here₁, open₁, shut₁], by simp [here₂, open₂, shut₂]⟩
  | list pair opened list closed =>
    rename_i mid inner o c
    have open₁ := (punct_iff pair.plain.1).1 (opened.append W₁)
    have open₂ := (punct_iff pair.plain.1).1 (opened.append W₂)
    have full : ∀ W, (Text.dropBlanks (mid ++ W)).head? ≠ some c := fun W =>
      (list.append closed.ne_nil W).head_ne pair.not_opensExpr
    rw [attach_nested pair (here₁.trans open₁) (full W₁)] at h
    rw [attach_nested pair (here₂.trans open₂) (full W₂)]
    obtain ⟨r₂', ran, tree, ends₁, ends₂⟩ := nestedEach_follow pair.closing list closed
      (show r₁.cursor.skipBlanks.bump.rest = mid ++ W₁ by simp [here₁, open₁])
      (show r₂.cursor.skipBlanks.bump.rest = mid ++ W₂ by simp [here₂, open₂])
      fields fuel nonEmpty
      (show ({ r₁ with cursor := r₁.cursor.skipBlanks.bump.skipBlanks } : Reading).tree =
        ({ r₂ with cursor := r₂.cursor.skipBlanks.bump.skipBlanks } : Reading).tree from same) h
    exact ⟨r₂', ran, tree, by rw [ends₁], by rw [ends₂]⟩

/-- The end of a list is read alike from readings that differ only in the blanks ahead. -/
theorem listTail_blanks {parent : List String} {close : Option Char} {fuel : Nat}
    {r₁ r₂ r₁' : Reading} (same : Text.dropBlanks r₁.cursor.rest = Text.dropBlanks r₂.cursor.rest)
    (tree : r₁.tree = r₂.tree) (h : (listTail parent close fuel).run r₁ = .ok ((), r₁')) :
    ∃ r₂', (listTail parent close fuel).run r₂ = .ok ((), r₂') ∧
      r₂'.cursor.rest = r₁'.cursor.rest ∧ r₁'.tree = r₂'.tree := by
  have skips : ∀ r : Reading, (listTail parent close fuel).run r =
      (listTail parent close fuel).run { r with cursor := r.cursor.skipBlanks } := by
    intro r
    simp only [listTail, run_peek_bind, Cursor.skipBlanks_rest, dropBlanks_dropBlanks,
      Cursor.skipBlanks_skipBlanks]
  rw [skips] at h
  rw [skips]
  exact listTail_along (keeps_eq []) List.nil_prefix
    (show ({ r₁ with cursor := r₁.cursor.skipBlanks } : Reading).cursor.rest =
      ({ r₂ with cursor := r₂.cursor.skipBlanks } : Reading).cursor.rest by simpa using same) tree h

/-! ## A field list against its fields written out -/

/-- The matchers of fields, one for each field written alone. -/
theorem fields_cons {fields : List Field} {m : NameMatcher} {ms : List NameMatcher}
    (named : fields.map (·.matcher) = m :: ms) :
    ∃ f fs, fields = f :: fs ∧ f.matcher = m ∧ fs.map (·.matcher) = ms := by
  cases fields with
  | nil => cases named
  | cons f fs =>
    simp only [List.map_cons, List.cons.injEq] at named
    exact ⟨f, fs, rfl, named.1, named.2⟩

/-- What attaching a nested part to the fields of a field list reads, and the list after it, the
fields written out one by one with the nested part read to the same end and the same tree. The
induction is on the fields; each is read off its own copy of the nested part, which reads alike
before the comma of the next field as before what follows the list. -/
theorem list_of_attach {N T : List Char} (nest : Nest N []) (follows : Follows T)
    {parent : List String} {close : Option Char} {ts : List (List Char)} {ms : List NameMatcher}
    (written : List.Forall₂ Written ts ms) (nonEmpty : ts ≠ []) :
    ∀ {fields : List Field} {fuel fuelTail : Nat} {rm ra r₁' r₂ : Reading},
      fields.map (·.matcher) = ms → Text.dropBlanks rm.cursor.rest = Text.dropBlanks (N ++ T) →
      (attach parent fields fuel).run rm = .ok ((), ra) →
      (listTail parent close fuelTail).run ra = .ok ((), r₁') →
      r₂.cursor.rest = eachText ts N ++ T → r₂.tree = rm.tree →
      ∃ fuel' r₂', (expressionList parent close fuel').run r₂ = .ok ((), r₂') ∧
        r₂'.cursor.rest = r₁'.cursor.rest ∧ r₁'.tree = r₂'.tree := by
  induction written with
  | nil => exact absurd rfl nonEmpty
  | @cons t m ts ms first rest ih =>
    intro fields fuel fuelTail rm ra r₁' r₂ named here ranAttach ranTail text tree
    obtain ⟨f, fs, rfl, named₁, namedRest⟩ := fields_cons named
    cases rest with
    | nil =>
      obtain rfl : fs = [] := List.map_eq_nil_iff.1 namedRest
      rw [eachText_singleton, List.append_assoc] at text
      have skipped : Text.dropBlanks r₂.cursor.rest = t ++ (N ++ T) := by
        rw [text, first.dropBlanks_append]
      have notMinus : (Text.dropBlanks r₂.cursor.rest).head? ≠ some '-' := by
        rw [skipped, ← first.dropBlanks_append]
        exact first.head_ne (by decide) _
      obtain ⟨f', rb, ranHead, named', afterHead, treeHead⟩ :=
        head_field first parent skipped (stop_of_nest nest follows) (nest.noDot follows)
      obtain ⟨rc, ranAttach₂, treeC, endsA, endsC⟩ := attach_follow nest follows follows here
        (show Text.dropBlanks rb.cursor.rest = Text.dropBlanks (N ++ T) by
          rw [afterHead, dropBlanks_dropBlanks])
        (by rw [treeHead, tree]) (List.cons_ne_nil _ _) ranAttach
      rw [← attach_congr (show [f'].map (·.matcher) = [f].map (·.matcher) by simp [named', named₁])]
        at ranAttach₂
      obtain ⟨r₂', ranTail₂, sameEnd, sameTree⟩ := listTail_blanks
        (show Text.dropBlanks ra.cursor.rest = Text.dropBlanks rc.cursor.rest by rw [endsA, endsC])
        treeC.symm ranTail
      exact ⟨_, r₂', expressionList_of_parts (expression_of_parts notMinus ranHead ranAttach₂)
        ranTail₂, sameEnd, sameTree⟩
    | cons next more =>
      rename_i t' m' ts' ms'
      obtain ⟨g, gs, rfl, -, -⟩ := fields_cons namedRest
      obtain ⟨rmid, ranFirst, ranRest⟩ := attach_split ranAttach
      rw [eachText_cons_cons, List.append_assoc] at text
      have skipped : Text.dropBlanks r₂.cursor.rest =
          t ++ (N ++ ',' :: (eachText (t' :: ts') N ++ T)) := by
        rw [text, first.dropBlanks_append]
        simp
      have notMinus : (Text.dropBlanks r₂.cursor.rest).head? ≠ some '-' := by
        rw [skipped, ← first.dropBlanks_append]
        exact first.head_ne (by decide) _
      obtain ⟨f', rb, ranHead, named', afterHead, treeHead⟩ := head_field first parent skipped
        (stop_of_nest nest (follows_comma _)) (nest.noDot (follows_comma _))
      obtain ⟨rc, ranAttach₂, treeC, -, endsC⟩ := attach_follow nest follows (follows_comma _) here
        (show Text.dropBlanks rb.cursor.rest =
            Text.dropBlanks (N ++ ',' :: (eachText (t' :: ts') N ++ T)) by
          rw [afterHead, dropBlanks_dropBlanks])
        (by rw [treeHead, tree]) (List.cons_ne_nil _ _) ranFirst
      rw [← attach_congr (show [f'].map (·.matcher) = [f].map (·.matcher) by simp [named', named₁])]
        at ranAttach₂
      rw [dropBlanks_comma] at endsC
      obtain ⟨fuelRest, r₂', ranRest₂, sameEnd, sameTree⟩ := ih (List.cons_ne_nil _ _) namedRest
        (show Text.dropBlanks ({ rm with tree := rmid.tree } : Reading).cursor.rest = _ from here)
        ranRest ranTail
        (show ({ rc with cursor := rc.cursor.skipBlanks.bump } : Reading).cursor.rest =
          eachText (t' :: ts') N ++ T by simp [endsC])
        treeC
      have ranTail₂ : (listTail parent close fuelRest).run rc = .ok ((), r₂') := by
        simp only [listTail, run_peek_bind, endsC, List.head?_cons, run_bump_bind]
        exact ranRest₂
      exact ⟨_, r₂', expressionList_of_parts (expression_of_parts notMinus ranHead ranAttach₂)
        ranTail₂, sameEnd, sameTree⟩

/-- What the fields written out one by one with the nested part read, attaching the nested part
to the fields of the field list reads, and the list after it, to the same end and the same
tree. The induction is on the fields, as for `list_of_attach`. -/
theorem attach_of_list {N T : List Char} (nest : Nest N []) (follows : Follows T)
    {parent : List String} {close : Option Char} {ts : List (List Char)} {ms : List NameMatcher}
    (written : List.Forall₂ Written ts ms) (nonEmpty : ts ≠ []) :
    ∀ {fields : List Field} {fuel : Nat} {rm r₂ r₂' : Reading},
      fields.map (·.matcher) = ms → Text.dropBlanks rm.cursor.rest = Text.dropBlanks (N ++ T) →
      r₂.cursor.rest = eachText ts N ++ T → r₂.tree = rm.tree →
      (expressionList parent close fuel).run r₂ = .ok ((), r₂') →
      ∃ fuelA fuelT ra r₁', (attach parent fields fuelA).run rm = .ok ((), ra) ∧
        (listTail parent close fuelT).run ra = .ok ((), r₁') ∧
        r₁'.cursor.rest = r₂'.cursor.rest ∧ r₁'.tree = r₂'.tree := by
  induction written with
  | nil => exact absurd rfl nonEmpty
  | @cons t m ts ms first rest ih =>
    intro fields fuel rm r₂ r₂' named here text tree h
    obtain ⟨f, fs, rfl, named₁, namedRest⟩ := fields_cons named
    have notMinus : ∀ Z, r₂.cursor.rest = t ++ Z →
        (Text.dropBlanks r₂.cursor.rest).head? ≠ some '-' := by
      intro Z split
      rw [split]
      exact first.head_ne (by decide) _
    obtain ⟨Z, split⟩ := eachText_cons t ts N
    rw [split, List.append_assoc] at text
    obtain ⟨fuelE, rx, rfl, ranExpr, ranTail⟩ := expressionList_parts h
    obtain ⟨fuelH, node, flds, ry, rfl, ranHead, ranAttach⟩ :=
      expression_parts (notMinus _ text) ranExpr
    rw [← List.append_assoc, ← split] at text
    cases rest with
    | nil =>
      obtain rfl : fs = [] := List.map_eq_nil_iff.1 namedRest
      rw [eachText_singleton, List.append_assoc] at text
      obtain ⟨f', rb, ranHead', named', afterHead, treeHead⟩ := head_field first parent
        (by rw [text, first.dropBlanks_append]) (stop_of_nest nest follows) (nest.noDot follows)
      rw [ranHead'] at ranHead
      simp only [Except.ok.injEq, Prod.mk.injEq] at ranHead
      obtain ⟨⟨rfl, rfl⟩, rfl⟩ := ranHead
      obtain ⟨rc, ranAttach₁, treeC, endsX, endsC⟩ := attach_follow nest follows follows
        (show Text.dropBlanks rb.cursor.rest = Text.dropBlanks (N ++ T) by
          rw [afterHead, dropBlanks_dropBlanks])
        here (by rw [treeHead, tree]) (List.cons_ne_nil _ _) ranAttach
      rw [attach_congr (show [f'].map (·.matcher) = [f].map (·.matcher) by simp [named', named₁])]
        at ranAttach₁
      obtain ⟨r₁', ranTail₁, sameEnd, sameTree⟩ := listTail_blanks
        (show Text.dropBlanks rx.cursor.rest = Text.dropBlanks rc.cursor.rest by rw [endsX, endsC])
        treeC.symm ranTail
      exact ⟨fuelH, _, rc, r₁', ranAttach₁, ranTail₁, sameEnd, sameTree.symm⟩
    | cons next more =>
      rename_i t' m' ts' ms'
      obtain ⟨g, gs, rfl, -, -⟩ := fields_cons namedRest
      rw [eachText_cons_cons, List.append_assoc] at text
      have skipped : Text.dropBlanks r₂.cursor.rest =
          t ++ (N ++ ',' :: (eachText (t' :: ts') N ++ T)) := by
        rw [text, first.dropBlanks_append]
        simp
      obtain ⟨f', rb, ranHead', named', afterHead, treeHead⟩ := head_field first parent skipped
        (stop_of_nest nest (follows_comma _)) (nest.noDot (follows_comma _))
      rw [ranHead'] at ranHead
      simp only [Except.ok.injEq, Prod.mk.injEq] at ranHead
      obtain ⟨⟨rfl, rfl⟩, rfl⟩ := ranHead
      obtain ⟨rc, ranAttach₁, treeC, endsX, -⟩ := attach_follow nest (follows_comma _) follows
        (show Text.dropBlanks rb.cursor.rest =
            Text.dropBlanks (N ++ ',' :: (eachText (t' :: ts') N ++ T)) by
          rw [afterHead, dropBlanks_dropBlanks])
        here (by rw [treeHead, tree]) (List.cons_ne_nil _ _) ranAttach
      rw [attach_congr (show [f'].map (·.matcher) = [f].map (·.matcher) by simp [named', named₁])]
        at ranAttach₁
      rw [dropBlanks_comma] at endsX
      simp only [listTail, run_peek_bind, endsX, List.head?_cons, run_bump_bind] at ranTail
      obtain ⟨fuelA, fuelT, ra, r₁', ranRest, ranTail₁, sameEnd, sameTree⟩ :=
        ih (List.cons_ne_nil _ _) namedRest
          (show Text.dropBlanks ({ rm with tree := rc.tree } : Reading).cursor.rest = _ from here)
          (show ({ rx with cursor := rx.cursor.skipBlanks.bump } : Reading).cursor.rest =
            eachText (t' :: ts') N ++ T by simp [endsX])
          treeC.symm ranTail
      exact ⟨_, fuelT, ra, r₁', attach_join ranAttach₁ ranRest, ranTail₁, sameEnd, sameTree⟩

/-- Written out, fields written alone start with no blank. -/
theorem dropBlanks_eachText {N : List Char} {ts : List (List Char)} {ms : List NameMatcher}
    (written : List.Forall₂ Written ts ms) (nonEmpty : ts ≠ []) (Z : List Char) :
    Text.dropBlanks (eachText ts N ++ Z) = eachText ts N ++ Z := by
  cases written with
  | nil => exact absurd rfl nonEmpty
  | @cons t m ts ms first _ =>
    obtain ⟨Y, split⟩ := eachText_cons t ts N
    rw [split, List.append_assoc, first.dropBlanks_append]

/-- A field list with a nested part may stand for its fields written out, each with the nested
part, at the start of a list. -/
theorem swap_fieldList_eachText {N : List Char} (nest : Nest N []) {ts : List (List Char)}
    {ms : List NameMatcher} (written : List.Forall₂ Written ts ms) (nonEmpty : ts ≠ []) :
    Swap Eq (fieldListText ts ++ N) (eachText ts N) := by
  intro fuel parent close T r₁ r₂ r₁' _ follows here₁ here₂ rel h
  have text₁ : Text.dropBlanks r₁.cursor.rest = fieldListText ts ++ (N ++ T) := by
    rw [here₁, List.append_assoc, dropBlanks_fieldListText, dropBlanks_fieldListText]
  have notMinus : (Text.dropBlanks r₁.cursor.rest).head? ≠ some '-' := by
    simp [text₁, fieldListText]
  obtain ⟨f, ra, rfl, ranExpr, ranTail⟩ := expressionList_parts h
  obtain ⟨g, node, fields, rm, rfl, ranHead, ranAttach⟩ := expression_parts notMinus ranExpr
  obtain ⟨fs, rm', ranHead', named, afterHead, treeHead⟩ :=
    head_fieldList written nonEmpty parent text₁
  rw [ranHead'] at ranHead
  simp only [Except.ok.injEq, Prod.mk.injEq] at ranHead
  obtain ⟨⟨rfl, rfl⟩, rfl⟩ := ranHead
  exact list_of_attach nest follows written nonEmpty named (by rw [afterHead]) ranAttach ranTail
    (by rw [here₂, dropBlanks_eachText written nonEmpty]) (by rw [treeHead, rel])

/-- The fields written out, each with the nested part, may stand for the field list with it, at
the start of a list. -/
theorem swap_eachText_fieldList {N : List Char} (nest : Nest N []) {ts : List (List Char)}
    {ms : List NameMatcher} (written : List.Forall₂ Written ts ms) (nonEmpty : ts ≠ []) :
    Swap Eq (eachText ts N) (fieldListText ts ++ N) := by
  intro fuel parent close T r₁ r₂ r₁' _ follows here₁ here₂ rel h
  have text₂ : Text.dropBlanks r₂.cursor.rest = fieldListText ts ++ (N ++ T) := by
    rw [here₂, List.append_assoc, dropBlanks_fieldListText, dropBlanks_fieldListText]
  have notMinus : (Text.dropBlanks r₂.cursor.rest).head? ≠ some '-' := by
    simp [text₂, fieldListText]
  obtain ⟨fs, rm, ranHead, named, afterHead, treeHead⟩ :=
    head_fieldList written nonEmpty parent text₂
  obtain ⟨fuelA, fuelT, ra, r₂', ranAttach, ranTail, sameEnd, sameTree⟩ :=
    attach_of_list nest follows written nonEmpty named (by rw [afterHead])
      (by rw [here₁, dropBlanks_eachText written nonEmpty]) (by rw [treeHead, rel]) h
  exact ⟨_, r₂', expressionList_of_parts (expression_of_parts notMinus ranHead ranAttach) ranTail,
    sameEnd, sameTree.symm⟩

end Reader

/-! ## Whole texts -/

/-- Fields that are field tokens standing alone, none the any-deep name, are written alone. -/
theorem exists_written {ts : List (List Char)}
    (fields : ∀ t ∈ ts, FieldToken t t [] ∧ t ≠ anyDeepText) :
    ∃ ms, List.Forall₂ Written ts ms := by
  induction ts with
  | nil => exact ⟨[], .nil⟩
  | cons t ts ih =>
    obtain ⟨tok, plain⟩ := fields t List.mem_cons_self
    obtain ⟨m, written⟩ := written_of_token tok plain
    obtain ⟨ms, rest⟩ := ih fun t' mem => fields t' (List.mem_cons_of_mem t mem)
    exact ⟨m :: ms, .cons written rest⟩

theorem opens_fieldListText (ts : List (List Char)) (N : List Char) :
    Opens (fieldListText ts ++ N) :=
  ⟨'(', _, by rw [dropBlanks_fieldListText]; rfl, by decide, by decide⟩

theorem opens_eachText {N : List Char} {ts : List (List Char)} {ms : List NameMatcher}
    (written : List.Forall₂ Written ts ms) (nonEmpty : ts ≠ []) : Opens (eachText ts N) := by
  cases written with
  | nil => exact absurd rfl nonEmpty
  | @cons t m ts ms first _ =>
    obtain ⟨Z, split⟩ := eachText_cons t ts N
    rw [split]
    exact first.opens.append Z

theorem last_fieldListText {N : List Char} (nest : Nest N []) (ts : List (List Char)) :
    ∀ c ∈ (fieldListText ts ++ N).getLast?, Text.isBlank c = false := by
  refine last_append ?_ nest.last
  intro c mem
  rw [fieldListText, ← List.cons_append, List.getLast?_concat, Option.mem_def,
    Option.some.injEq] at mem
  rw [← mem]
  decide

/-- Written out, the fields end with the nested part of the last, or the last itself. -/
theorem last_eachText {N : List Char} (nest : Nest N []) {ts : List (List Char)}
    {ms : List NameMatcher} (written : List.Forall₂ Written ts ms) :
    ∀ c ∈ (eachText ts N).getLast?, Text.isBlank c = false := by
  induction written with
  | nil => simp [eachText]
  | @cons t m ts ms first rest ih =>
    cases rest with
    | nil =>
      rw [eachText_singleton]
      exact last_append first.last nest.last
    | cons next more =>
      rename_i t' m' ts' ms'
      obtain ⟨Z, split⟩ := eachText_cons t' ts' N
      have nonEmpty : eachText (t' :: ts') N ≠ [] := by
        rw [split]
        exact fun empty => next.ne_nil (List.append_eq_nil_iff.1 empty).1
      rw [eachText_cons_cons,
        show t ++ (N ++ ',' :: eachText (t' :: ts') N) = t ++ N ++ [','] ++ eachText (t' :: ts') N by
          simp,
        List.getLast?_append_of_ne_nil _ nonEmpty]
      exact ih

/-- A field list shares its nested part among its fields: at every place of an expression, the
list `(t₁,…,tₖ)N` of fields that are field tokens, none the any-deep name, followed by a nested
part that is absent, empty or a list in brackets, compiles as the fields written out one by one
with the nested part, `t₁N,…,tₖN`: both fail, or both compile to the same forest. -/
theorem parse_fieldList_broadcasts {pre post N : List Char} {ts : List (List Char)}
    (place : Opening pre) (follows : Follows post) (nonEmpty : ts ≠ [])
    (fields : ∀ t ∈ ts, FieldToken t t [] ∧ t ≠ anyDeepText) (nest : Nest N []) :
    (parse (String.ofList (pre ++ (fieldListText ts ++ N) ++ post))).toOption =
      (parse (String.ofList (pre ++ eachText ts N ++ post))).toOption := by
  obtain ⟨ms, written⟩ := exists_written fields
  have compiles : ∀ t₁ t₂ : Draft, t₁ = t₂ →
      t₁.withBaseFallback.compile = t₂.withBaseFallback.compile := fun _ _ same => by rw [same]
  have forward : ∀ {ns}, parse (String.ofList (pre ++ (fieldListText ts ++ N) ++ post)) = .ok ns →
      ∃ ns', parse (String.ofList (pre ++ eachText ts N ++ post)) = .ok ns' ∧ ns = ns' :=
    parse_of_swap (keeps_eq []) rfl compiles place follows
      (Reader.swap_fieldList_eachText nest written nonEmpty) (opens_fieldListText ts N)
      (opens_eachText written nonEmpty) (last_fieldListText nest ts) (last_eachText nest written)
  have backward : ∀ {ns}, parse (String.ofList (pre ++ eachText ts N ++ post)) = .ok ns →
      ∃ ns', parse (String.ofList (pre ++ (fieldListText ts ++ N) ++ post)) = .ok ns' ∧ ns = ns' :=
    parse_of_swap (keeps_eq []) rfl compiles place follows
      (Reader.swap_eachText_fieldList nest written nonEmpty) (opens_eachText written nonEmpty)
      (opens_fieldListText ts N) (last_eachText nest written) (last_fieldListText nest ts)
  cases compiled : parse (String.ofList (pre ++ (fieldListText ts ++ N) ++ post)) with
  | ok ns =>
    obtain ⟨ns', compiled', rfl⟩ := forward compiled
    rw [compiled']
  | error e =>
    cases compiled' : parse (String.ofList (pre ++ eachText ts N ++ post)) with
    | ok ns' =>
      obtain ⟨ns, again, -⟩ := backward compiled'
      rw [compiled] at again
      cases again
    | error e' => rfl

/-- `(a,b)[x]` compiles as `a[x],b[x]`. -/
theorem pair_broadcasts_nested :
    (parse (String.ofList ([] ++ (fieldListText [['a'], ['b']] ++ ['[', 'x', ']']) ++ []))).toOption =
      (parse (String.ofList ([] ++ eachText [['a'], ['b']] ['[', 'x', ']'] ++ []))).toOption := by
  have name : ∀ c : Char, isNameStart c = true → FieldToken [c] [c] [] := fun c start =>
    .name (Blanks.refl _) start (by simp) (by simp)
  have fields : ∀ t ∈ [['a'], ['b']], FieldToken t t [] ∧ t ≠ anyDeepText := by
    intro t mem
    simp only [List.mem_cons, List.not_mem_nil, or_false] at mem
    rcases mem with rfl | rfl
    · exact ⟨name 'a' (by decide), by decide⟩
    · exact ⟨name 'b' (by decide), by decide⟩
  have inner : FieldToken ['x', ']'] ['x'] [']'] :=
    .name (Blanks.refl _) (by decide) (by simp) (stop_cons (c := ']') (by decide) [])
  have nested : Nest ['[', 'x', ']'] [] :=
    .list (.inl ⟨rfl, rfl⟩) (Blanks.refl _) (.last (.path (.last inner) (by decide) .none))
      (Blanks.refl _)
  exact parse_fieldList_broadcasts .start (by intro c mem; simp [Text.dropBlanks] at mem)
    (List.cons_ne_nil _ _) fields nested

end FieldSelection.Selection

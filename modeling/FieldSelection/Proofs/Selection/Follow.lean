import FieldSelection.Proofs.Selection.Broadcast
import Mathlib.Data.List.Forall2
/-!
# An expression is read alike whatever follows it

What follows an expression reaches the reader only through the first character after it: a field
token stops before it, a path looks there for a dot, and an expression for an opening bracket.
None of these tells apart the texts that may follow an expression: a comma, a closing bracket or
the end. So an expression is read into the tree alike whatever may follow it
(`Reader.expression_follow`), and a list may be cut where one of its expressions ends: reading a
list `X` up to its closing bracket and then a list `Z` into the same node is reading `X,Z` in one
go (`Reader.list_join`, `Reader.list_split`).

The readings are taken token by token: a field token stands for one matcher wherever it is
written (`FieldToken.reads`), so paths and field lists are read as the matchers of their tokens
(`Reader.path_matchers`, `Reader.fieldList_matchers`).
-/

namespace FieldSelection.Selection

/-! ## Field tokens -/

/-- The field token `t` is read as the matcher `m` wherever it stands before a character that
does not go on with it. -/
structure Reads (t : List Char) (m : NameMatcher) : Prop where
  anyDeep : m.isAnyDeep = true ↔ t = anyDeepText
  reads : ∀ {r : Reading} {W : List Char}, (∀ c ∈ W.head?, isNameChar c = false) →
    Text.dropBlanks r.cursor.rest = t ++ W →
    ∃ f r', Reader.field.run r = .ok (f, r') ∧ f.matcher = m ∧ r'.cursor.rest = W ∧
      r'.tree = r.tree

theorem Reads.notAnyDeep {t : List Char} {m : NameMatcher} (reads : Reads t m)
    (other : t ≠ anyDeepText) : m.isAnyDeep = false := by
  cases anyDeep : m.isAnyDeep with
  | false => rfl
  | true => exact absurd (reads.anyDeep.1 anyDeep) other

/-- A field token stands for one matcher, wherever it is written. -/
theorem FieldToken.reads {cs t rest : List Char} (tok : FieldToken cs t rest) :
    ∃ m, Reads t m := by
  obtain ⟨tk, text, skipped, read⟩ := tok.token
  obtain ⟨f, r', ran, -, named⟩ := Reader.field_complete (r := ⟨⟨cs, 0⟩, Draft.root⟩) tok
  have found := Reader.field_reads_text
    (show Text.dropBlanks (⟨⟨cs, 0⟩, Draft.root⟩ : Reading).cursor.rest = tk.text ++ rest from
      skipped) read
  rw [ran] at found
  have matcherOf : tk.matcher? = some f.matcher := by
    cases known : tk.matcher? with
    | none => simp [known, Except.toOption] at found
    | some m =>
      simp only [known, Except.toOption, Option.map_some, Option.some.injEq, Prod.mk.injEq] at found
      rw [found.1]
  have alone : tk.Read [] := Token.Read.of_append (show tk.Read ([] ++ rest) from read)
  refine ⟨f.matcher, named, fun {r W} stop here => ?_⟩
  have foundW := Reader.field_reads_text
    (show Text.dropBlanks r.cursor.rest = tk.text ++ W by rw [here, text])
    (by simpa using alone.append stop)
  rw [matcherOf] at foundW
  obtain ⟨⟨f', r''⟩, ran', same⟩ := Except.exists_ok_of_toOption_map foundW
  simp only [Prod.mk.injEq] at same
  exact ⟨f', r'', ran', same.1, same.2.1, same.2.2⟩

/-- The tokens of a dot-path or a field list each stand for one matcher. -/
theorem Separated.reads {sep : Char} {cs rest : List Char} {ts : List (List Char)}
    (separated : Separated sep cs ts rest) : ∃ ms, List.Forall₂ Reads ts ms := by
  induction separated with
  | last tok =>
    obtain ⟨m, reads⟩ := tok.reads
    exact ⟨[m], .cons reads .nil⟩
  | step tok _ _ ih =>
    obtain ⟨m, reads⟩ := tok.reads
    obtain ⟨ms, more⟩ := ih
    exact ⟨m :: ms, .cons reads more⟩

theorem FieldToken.solid {cs t rest : List Char} (tok : FieldToken cs t rest) :
    Text.dropBlanks cs ≠ [] := by
  obtain ⟨c, more, first, -⟩ := tok.head
  rw [first]
  exact List.cons_ne_nil _ _

theorem Separated.solid {sep : Char} {cs rest : List Char} {ts : List (List Char)}
    (separated : Separated sep cs ts rest) : Text.dropBlanks cs ≠ [] := by
  cases separated with
  | last tok | step tok => exact tok.solid

theorem Head.solid {h N : List Char} (hd : Head h N) : Text.dropBlanks h ≠ [] := by
  cases hd with
  | fields paren => simp [(punct_iff (by decide)).1 paren]
  | path separated => exact separated.solid
  | anyDeep tok => exact tok.solid

/-- Past blanks, text that is not all blanks starts alike whatever follows it. -/
theorem head_dropBlanks_append {x : List Char} (solid : Text.dropBlanks x ≠ []) (W : List Char) :
    (Text.dropBlanks (x ++ W)).head? = (Text.dropBlanks x).head? := by
  rw [dropBlanks_append_of_ne_nil solid, List.head?_append_of_ne_nil _ solid]

/-- Past the blanks before a field token stand the token and what follows it. -/
theorem FieldToken.dropBlanks_append {cs t rest : List Char} (tok : FieldToken cs t rest)
    (W : List Char) : Text.dropBlanks (cs ++ W) = t ++ (rest ++ W) := by
  obtain ⟨tk, text, skipped, -⟩ := tok.token
  rw [dropBlanks_append_of_ne_nil tok.solid, skipped, text, List.append_assoc]

/-- Punctuation that no name goes on with, after blanks, stops a field token. -/
theorem Punct.stop {c : Char} (plain : isNameChar c = false) {cs rest : List Char}
    (punct : Punct c cs rest) : ∀ x ∈ cs.head?, isNameChar x = false := by
  obtain ⟨bl, blank, rfl⟩ := punct
  intro x first
  cases bl with
  | nil =>
    simp only [List.nil_append, List.head?_cons, Option.mem_def, Option.some.injEq] at first
    subst first
    exact plain
  | cons b bl =>
    simp only [List.cons_append, List.head?_cons, Option.mem_def, Option.some.injEq] at first
    subst first
    exact isNameChar_of_isBlank (blank b List.mem_cons_self)

/-- A token of a dot-path or a field list is stopped by the separator after it, or by what
follows the last one. -/
theorem SepTail.stop {sep : Char} (plain : isNameChar sep = false) {cs rest W : List Char}
    {ts : List (List Char)} (tail : SepTail sep cs ts rest)
    (stop : ∀ x ∈ (rest ++ W).head?, isNameChar x = false) :
    ∀ x ∈ (cs ++ W).head?, isNameChar x = false := by
  obtain ⟨-, rfl⟩ | ⟨r₂, punct, -⟩ := tail
  · exact stop
  · exact (punct.append W).stop plain

theorem dropBlanks_cons_of_plain {c : Char} (plain : Text.isBlank c = false) (S : List Char) :
    Text.dropBlanks (c :: S) = c :: S :=
  List.dropWhile_cons_of_neg (by simp [plain])

/-- A closing bracket may follow an expression. -/
theorem follows_close {k : Char} (closing : k = ']' ∨ k = '}') (S : List Char) :
    Follows (k :: S) := by
  intro c first
  rw [dropBlanks_cons_of_plain (by rcases closing with rfl | rfl <;> decide), List.head?_cons,
    Option.mem_def, Option.some.injEq] at first
  subst first
  rcases closing with rfl | rfl
  · exact .inr (.inl rfl)
  · exact .inr (.inr rfl)

/-- A comma after blanks may follow an expression. -/
theorem Punct.follows {cs rest : List Char} (punct : Punct ',' cs rest) : Follows cs := by
  intro c first
  rw [(punct_iff (by decide)).1 punct, List.head?_cons, Option.mem_def, Option.some.injEq] at first
  exact .inl first.symm

/-! ## A complete text stays complete before what may follow it -/

theorem FieldToken.append_stop {cs t : List Char} (tok : FieldToken cs t []) {W : List Char}
    (stop : ∀ x ∈ W.head?, isNameChar x = false) : FieldToken (cs ++ W) t W := by
  cases tok with
  | name skipped start named =>
    exact .name (by simpa using skipped.append W) start named stop
  | regex skipped delim body nonEmpty onlyI _ compiles =>
    refine .regex (by simpa using skipped.append W) delim body nonEmpty onlyI (fun x first => ?_)
      compiles
    cases letter : isAsciiLetter x with
    | false => rfl
    | true =>
      have named := isNameChar_of_isAsciiLetter letter
      rw [stop x first] at named
      cases named

theorem Separated.append_stop {sep : Char} {W : List Char}
    (stop : ∀ x ∈ W.head?, isNameChar x = false) :
    ∀ {cs : List Char} {ts : List (List Char)}, Separated sep cs ts [] → Separated sep (cs ++ W) ts W
  | _, _, .last tok => .last (tok.append_stop stop)
  | _, _, .step tok punct more =>
    .step (tok.append punct.ne_nil W) (punct.append W) (Separated.append_stop stop more)

theorem Nest.append_end {cs : List Char} (nest : Nest cs []) (W : List Char) :
    Nest (cs ++ W) W := by
  cases nest with
  | none => exact .none
  | empty pair opened closed => exact .empty pair (opened.append W) (closed.append W)
  | list pair opened list closed =>
    exact .list pair (opened.append W) (list.append closed.ne_nil W) (closed.append W)

theorem Expr.append_end {cs W : List Char} (expr : Expr cs []) (follows : Follows W) :
    Expr (cs ++ W) W := by
  have stop : ∀ x ∈ W.head?, isNameChar x = false := by simpa using stop_of_nest .none follows
  cases expr with
  | negated minus separated plain => exact .negated (minus.append W) (separated.append_stop stop) plain
  | fields paren separated plain closed nest =>
    exact .fields (paren.append W) (separated.append closed.ne_nil W) plain (closed.append W)
      (nest.append_end W)
  | path separated plain nest =>
    rename_i N ts
    by_cases empty : N = []
    · subst empty
      exact .path (separated.append_stop stop) plain (nest.append_end W)
    · exact .path (separated.append empty W) plain (nest.append_end W)
  | anyDeep tok nest =>
    rename_i N
    by_cases empty : N = []
    · subst empty
      exact .anyDeep (tok.append_stop stop) (nest.append_end W)
    · exact .anyDeep (tok.append empty W) (nest.append_end W)

/-- A whole expression list is still a list before what may follow one. -/
theorem ExprList.append_end {W : List Char} (follows : Follows W) :
    ∀ {cs : List Char}, ExprList cs [] → ExprList (cs ++ W) W
  | _, .last expr => .last (expr.append_end follows)
  | _, .step expr punct list =>
    .step (expr.append punct.ne_nil W) (punct.append W) (ExprList.append_end follows list)
termination_by cs _ => cs.length
decreasing_by exact Nat.lt_trans punct.length_lt expr.length_lt

namespace Reader

/-! ## Paths and field lists, read as the matchers of their tokens -/

/-- The steps of a dot-path after its first, each a dot and a token, are read as the matchers of
their tokens, up to what follows the path past blanks. -/
theorem pathSteps_matchers {rest W : List Char}
    (stop : ∀ x ∈ (rest ++ W).head?, isNameChar x = false)
    (noDot : (Text.dropBlanks (rest ++ W)).head? ≠ some '.') :
    ∀ {more : List (List Char)} {ms : List NameMatcher}, List.Forall₂ Reads more ms →
      anyDeepText ∉ more → ∀ (fuel : Nat) (acc : List Field) {cs : List Char} {r : Reading},
      SepTail '.' cs more rest → Text.dropBlanks r.cursor.rest = Text.dropBlanks (cs ++ W) →
      more.length < fuel →
      ∃ fs r', (pathSteps fuel acc).run r = .ok (acc.reverse ++ fs, r') ∧
        fs.map (·.matcher) = ms ∧ r'.cursor.rest = Text.dropBlanks (rest ++ W) ∧ r'.tree = r.tree := by
  intro more ms reads
  induction reads with
  | nil =>
    intro _ fuel acc cs r tail here short
    obtain ⟨fuel, rfl⟩ : ∃ k, fuel = k + 1 := ⟨fuel - 1, by simp only [List.length_nil] at short; omega⟩
    obtain ⟨-, rfl⟩ | ⟨_, _, separated⟩ := tail
    · simp only [pathSteps, run_peek_bind, here, noDot, beq_iff_eq, if_false, run_pure]
      exact ⟨[], { r with cursor := r.cursor.skipBlanks }, by simp, rfl, by simp [here], rfl⟩
    · exact absurd rfl separated.ne_nil
  | @cons t m more ms first others ih =>
    intro plain fuel acc cs r tail here short
    obtain ⟨fuel, rfl⟩ : ∃ k, fuel = k + 1 :=
      ⟨fuel - 1, by simp only [List.length_cons] at short; omega⟩
    obtain ⟨h, -⟩ | ⟨r₂, punct, separated⟩ := tail
    · cases h
    obtain ⟨r₃, tok, tail'⟩ := separated_cons_iff.1 separated
    have dot : Text.dropBlanks (cs ++ W) = '.' :: (r₂ ++ W) :=
      (punct_iff (by decide)).1 (punct.append W)
    obtain ⟨f, r₄, ranField, named, after, tree⟩ :=
      first.reads (r := { r with cursor := r.cursor.skipBlanks.bump }) (tail'.stop (by decide) stop)
        (by simp only [Cursor.bump_rest, Cursor.skipBlanks_rest, here, dot, List.tail_cons]
            exact tok.dropBlanks_append W)
    simp only [pathSteps, run_peek_bind, here, dot, List.head?_cons, beq_self_eq_true, if_true,
      run_bump_bind]
    rw [run_bind_of_ok ranField]
    simp only [named, first.notAnyDeep (List.ne_of_not_mem_cons plain).symm, Bool.false_eq_true,
      if_false]
    obtain ⟨fs, r', ran, namedRest, final, treeRest⟩ :=
      ih (fun mem => plain (List.mem_cons_of_mem _ mem)) fuel (f :: acc) tail' (by rw [after])
        (by simp only [List.length_cons] at short; omega)
    exact ⟨f :: fs, r', by simpa using ran, by simp [named, namedRest], final,
      by rw [treeRest, tree]⟩

/-- A dot-path, or the any-deep name alone, is read as the matchers of its tokens, up to what
follows it past blanks. -/
theorem path_matchers {cs rest W : List Char} {ts : List (List Char)} {ms : List NameMatcher}
    (separated : Separated '.' cs ts rest) (reads : List.Forall₂ Reads ts ms)
    (allowed : anyDeepText ∉ ts ∨ ts = [anyDeepText])
    (stop : ∀ x ∈ (rest ++ W).head?, isNameChar x = false)
    (noDot : (Text.dropBlanks (rest ++ W)).head? ≠ some '.') {r : Reading}
    (here : Text.dropBlanks r.cursor.rest = Text.dropBlanks (cs ++ W)) :
    ∃ fs r', path.run r = .ok (fs, r') ∧ fs.map (·.matcher) = ms ∧
      r'.cursor.rest = Text.dropBlanks (rest ++ W) ∧ r'.tree = r.tree := by
  obtain ⟨t, more, rfl⟩ := List.exists_cons_of_ne_nil separated.ne_nil
  obtain ⟨r₁, tok, tail⟩ := separated_cons_iff.1 separated
  cases reads with
  | cons first others =>
  obtain ⟨f, r₂, ranField, named, after, tree⟩ :=
    first.reads (r := r) (tail.stop (by decide) stop) (by rw [here, tok.dropBlanks_append])
  simp only [path]
  rw [run_bind_of_ok ranField]
  rcases allowed with plain | single
  · simp only [named, first.notAnyDeep (List.ne_of_not_mem_cons plain).symm, Bool.false_eq_true,
      if_false, run_get_bind]
    obtain ⟨fs, r', ran, namedRest, final, treeRest⟩ :=
      pathSteps_matchers stop noDot others (fun mem => plain (List.mem_cons_of_mem _ mem))
        (r₂.cursor.rest.length + 1) [f] tail (by rw [after])
        (by have := tail.length_le; rw [after, List.length_append]; omega)
    exact ⟨f :: fs, r', by simpa using ran, by simp [named, namedRest], final,
      by rw [treeRest, tree]⟩
  · obtain ⟨rfl, rfl⟩ := List.cons_eq_cons.1 single
    obtain ⟨-, rfl⟩ | ⟨_, _, separated'⟩ := tail
    · cases others
      have anyDeep : f.matcher.isAnyDeep = true := named ▸ first.anyDeep.2 rfl
      simp only [anyDeep, if_true, run_peek_bind, after, noDot, beq_iff_eq, if_false, run_pure]
      exact ⟨[f], _, rfl, by simp [named], by simp [after], tree⟩
    · exact absurd rfl separated'.ne_nil

/-- The fields of a field list are read as the matchers of their tokens, up to the closing
parenthesis, the cursor right past it. -/
theorem fieldList_matchers {after : List Char} :
    ∀ {cs rest : List Char} {ts : List (List Char)} {ms : List NameMatcher},
      Separated ',' cs ts rest → List.Forall₂ Reads ts ms → anyDeepText ∉ ts →
      Punct ')' rest after → ∀ (fuel : Nat) (acc : List Field) {r : Reading},
      Text.dropBlanks r.cursor.rest = Text.dropBlanks cs → ts.length ≤ fuel →
      ∃ fs r', (fieldList fuel acc).run r = .ok (acc.reverse ++ fs, r') ∧ fs.map (·.matcher) = ms ∧
        r'.cursor.rest = after ∧ r'.tree = r.tree := by
  intro cs rest ts ms separated
  induction separated generalizing ms with
  | last tok =>
    rename_i cs' t rest'
    intro reads plain closed fuel acc r here enough
    cases reads with
    | cons first others =>
    cases others
    obtain ⟨fuel, rfl⟩ : ∃ k, fuel = k + 1 :=
      ⟨fuel - 1, by simp only [List.length_singleton] at enough; omega⟩
    obtain ⟨f, r₁, ranField, named, ends, tree⟩ :=
      first.reads (r := r) (closed.stop (by decide)) (by simpa [here] using tok.dropBlanks_append [])
    have paren : Text.dropBlanks r₁.cursor.rest = ')' :: after := by
      rw [ends]
      exact (punct_iff (by decide)).1 closed
    simp only [fieldList]
    rw [run_bind_of_ok ranField]
    simp only [named, first.notAnyDeep (List.ne_of_not_mem_cons plain).symm, Bool.false_eq_true,
      if_false, run_peek_bind, paren, List.head?_cons, run_bump_bind, run_pure]
    exact ⟨[f], { r₁ with cursor := r₁.cursor.skipBlanks.bump }, by simp, by simp [named],
      by simp [paren], tree⟩
  | step tok punct separated ih =>
    rename_i cs' t r₁ r₂ rest' ts'
    intro reads plain closed fuel acc r here enough
    cases reads with
    | cons first others =>
    obtain ⟨fuel, rfl⟩ : ∃ k, fuel = k + 1 :=
      ⟨fuel - 1, by simp only [List.length_cons] at enough; omega⟩
    obtain ⟨f, ra, ranField, named, ends, tree⟩ :=
      first.reads (r := r) (punct.stop (by decide)) (by simpa [here] using tok.dropBlanks_append [])
    have comma : Text.dropBlanks ra.cursor.rest = ',' :: r₂ := by
      rw [ends]
      exact (punct_iff (by decide)).1 punct
    obtain ⟨fs, r', ran, namedRest, final, treeRest⟩ :=
      ih others (fun mem => plain (List.mem_cons_of_mem _ mem)) closed fuel (f :: acc)
        (r := { ra with cursor := ra.cursor.skipBlanks.bump }) (by simp [comma])
        (by simp only [List.length_cons] at enough; omega)
    simp only [fieldList]
    rw [run_bind_of_ok ranField]
    simp only [named, first.notAnyDeep (List.ne_of_not_mem_cons plain).symm, Bool.false_eq_true,
      if_false, run_peek_bind, comma, List.head?_cons, run_bump_bind]
    exact ⟨f :: fs, r', by simpa using ran, by simp [named, namedRest], final,
      by rw [treeRest]; exact tree⟩

/-- Fields with the matchers of the tokens of a list are as many as the tokens. -/
theorem ne_nil_of_matchers {ts : List (List Char)} {ms : List NameMatcher} {fs : List Field}
    (reads : List.Forall₂ Reads ts ms) (named : fs.map (·.matcher) = ms) (nonEmpty : ts ≠ []) :
    fs ≠ [] := by
  rintro rfl
  have counted := reads.length_eq
  rw [← named] at counted
  exact nonEmpty (List.eq_nil_of_length_eq_zero (by simpa using counted))

/-- Fields with the matchers of tokens none of which is the any-deep name are none of them
any-deep. -/
theorem matchers_plain : ∀ {ts : List (List Char)} {ms : List NameMatcher},
    List.Forall₂ Reads ts ms → anyDeepText ∉ ts → ∀ {fs : List Field},
    fs.map (·.matcher) = ms → fs.any (·.matcher.isAnyDeep) = false
  | _, _, .nil, _, [], _ => rfl
  | _, _, .cons first others, plain, f :: fs, named => by
    simp only [List.map_cons, List.cons.injEq] at named
    simp only [List.any_cons, named.1, first.notAnyDeep (List.ne_of_not_mem_cons plain).symm,
      Bool.false_or]
    exact matchers_plain others (fun mem => plain (List.mem_cons_of_mem _ mem)) named.2
  | _, _, .nil, _, _ :: _, named => by simp at named
  | _, _, .cons _ _, _, [], named => by simp at named

/-! ## Heads and negated paths -/

/-- A head that is no field list is a path, then the steps of the path before its last put under
`parent`. -/
theorem head_of_path (parent : List String) {r ra : Reading} {fs : List Field} {last : Field}
    {before : List Field} (notParen : (Text.dropBlanks r.cursor.rest).head? ≠ some '(')
    (ran : path.run { r with cursor := r.cursor.skipBlanks } = .ok (fs, ra))
    (reversed : fs.reverse = last :: before) :
    (head parent).run r = (stepsBefore parent before >>= fun node => pure (node, [last])).run ra := by
  simp only [head, run_peek_bind]
  rw [run_bind_of_ok ran]
  simp only [reversed]

/-- A field token alone, before what goes on with neither a name nor a dot, is a head of one
step: the node is the parent itself. -/
theorem head_single {t W : List Char} {m : NameMatcher} (tok : FieldToken t t []) (reads : Reads t m)
    (stop : ∀ x ∈ W.head?, isNameChar x = false) (noDot : (Text.dropBlanks W).head? ≠ some '.')
    (parent : List String) {r : Reading}
    (here : Text.dropBlanks r.cursor.rest = Text.dropBlanks (t ++ W)) :
    ∃ f r', (head parent).run r = .ok ((parent, [f]), r') ∧ f.matcher = m ∧
      r'.cursor.rest = Text.dropBlanks W ∧ r'.tree = r.tree := by
  have allowed : anyDeepText ∉ [t] ∨ [t] = [anyDeepText] := by
    by_cases same : t = anyDeepText
    · exact .inr (by rw [same])
    · exact .inl (by simpa [eq_comm] using same)
  obtain ⟨fs, ra, ran, named, after, tree⟩ :=
    path_matchers (r := { r with cursor := r.cursor.skipBlanks }) (.last tok) (.cons reads .nil)
      allowed (by simpa using stop) (by simpa using noDot)
      (by simpa [dropBlanks_dropBlanks] using here)
  obtain ⟨f, rfl⟩ : ∃ f, fs = [f] := by
    cases fs with
    | nil => cases named
    | cons f more =>
      cases more with
      | nil => exact ⟨f, rfl⟩
      | cons g more => simp at named
  have notParen : (Text.dropBlanks r.cursor.rest).head? ≠ some '(' := by
    rw [here, head_dropBlanks_append tok.solid]
    exact tok.head_ne (by decide)
  rw [head_of_path parent notParen ran List.reverse_singleton]
  simp only [stepsBefore, List.isEmpty_nil, if_true, run_pure_bind, run_pure]
  exact ⟨f, ra, rfl, by simpa using named, by simpa using after, tree⟩

/-- The head of an expression is read alike whatever may follow the expression: the same node,
fields with the same matchers, the same tree, each reading right before the nested part. -/
theorem head_follow {h N W₁ W₂ : List Char} (hd : Head h N) (nest : Nest N [])
    (follows₁ : Follows W₁) (follows₂ : Follows W₂) (parent : List String) {r₁ r₂ : Reading}
    (here₁ : Text.dropBlanks r₁.cursor.rest = Text.dropBlanks (h ++ W₁))
    (here₂ : Text.dropBlanks r₂.cursor.rest = Text.dropBlanks (h ++ W₂)) (same : r₁.tree = r₂.tree) :
    ∃ node fs₁ fs₂ r₁' r₂', (head parent).run r₁ = .ok ((node, fs₁), r₁') ∧
      (head parent).run r₂ = .ok ((node, fs₂), r₂') ∧ fs₁.map (·.matcher) = fs₂.map (·.matcher) ∧
      fs₁ ≠ [] ∧ r₁'.tree = r₂'.tree ∧
      Text.dropBlanks r₁'.cursor.rest = Text.dropBlanks (N ++ W₁) ∧
      Text.dropBlanks r₂'.cursor.rest = Text.dropBlanks (N ++ W₂) := by
  have viaPath : ∀ {ts : List (List Char)}, Separated '.' h ts N →
      (anyDeepText ∉ ts ∨ ts = [anyDeepText]) →
      ∃ node fs₁ fs₂ r₁' r₂', (head parent).run r₁ = .ok ((node, fs₁), r₁') ∧
        (head parent).run r₂ = .ok ((node, fs₂), r₂') ∧ fs₁.map (·.matcher) = fs₂.map (·.matcher) ∧
        fs₁ ≠ [] ∧ r₁'.tree = r₂'.tree ∧
        Text.dropBlanks r₁'.cursor.rest = Text.dropBlanks (N ++ W₁) ∧
        Text.dropBlanks r₂'.cursor.rest = Text.dropBlanks (N ++ W₂) := by
    intro ts separated allowed
    obtain ⟨ms, reads⟩ := separated.reads
    have notParen : ∀ {r : Reading} {W : List Char},
        Text.dropBlanks r.cursor.rest = Text.dropBlanks (h ++ W) →
        (Text.dropBlanks r.cursor.rest).head? ≠ some '(' := by
      intro r W here
      rw [here, head_dropBlanks_append separated.solid]
      exact separated.head_ne (by decide)
    obtain ⟨fs₁, ra, ran₁, named₁, after₁, tree₁⟩ :=
      path_matchers (r := { r₁ with cursor := r₁.cursor.skipBlanks }) separated reads allowed
        (stop_of_nest nest follows₁) (nest.noDot follows₁)
        (by simpa [dropBlanks_dropBlanks] using here₁)
    obtain ⟨fs₂, rb, ran₂, named₂, after₂, tree₂⟩ :=
      path_matchers (r := { r₂ with cursor := r₂.cursor.skipBlanks }) separated reads allowed
        (stop_of_nest nest follows₂) (nest.noDot follows₂)
        (by simpa [dropBlanks_dropBlanks] using here₂)
    have nonEmpty : fs₁.reverse ≠ [] := by
      rw [Ne, List.reverse_eq_nil_iff]
      exact ne_nil_of_matchers reads named₁ separated.ne_nil
    obtain ⟨last₁, before₁, reversed₁⟩ := List.exists_cons_of_ne_nil nonEmpty
    obtain ⟨last₂, before₂, reversed₂, sameLast, sameBefore⟩ :=
      exists_reverse_of_matchers (named₁.trans named₂.symm) reversed₁
    rw [head_of_path parent (notParen here₁) ran₁ reversed₁,
      head_of_path parent (notParen here₂) ran₂ reversed₂, ← stepsBefore_congr parent sameBefore]
    obtain ⟨node, t₁, t₂, -, put₁, put₂, sameTree⟩ :=
      (kept_stepsBefore (keeps_eq []) List.nil_prefix before₁).run_bind ra rb
        (by rw [tree₁, tree₂, same])
    rw [put₁, put₂]
    simp only [run_pure]
    exact ⟨node, [last₁], [last₂], _, _, rfl, rfl, by simp [sameLast], List.cons_ne_nil _ _,
      sameTree, by simp [after₁, dropBlanks_dropBlanks], by simp [after₂, dropBlanks_dropBlanks]⟩
  cases hd with
  | fields paren separated plain closed =>
    rename_i p₁ p₂ ts
    obtain ⟨ms, reads⟩ := separated.reads
    have viaList : ∀ {r : Reading} {W : List Char},
        Text.dropBlanks r.cursor.rest = Text.dropBlanks (h ++ W) →
        ∃ fs r', (head parent).run r = .ok ((parent, fs), r') ∧ fs.map (·.matcher) = ms ∧
          r'.cursor.rest = N ++ W ∧ r'.tree = r.tree := by
      intro r W here
      have opened : Text.dropBlanks r.cursor.rest = '(' :: (p₁ ++ W) := by
        rw [here]
        exact (punct_iff (by decide)).1 (paren.append W)
      obtain ⟨fs, r', ran, named, after, tree⟩ :=
        fieldList_matchers (separated.append closed.ne_nil W) reads plain (closed.append W)
          ((p₁ ++ W).length + 1) [] (r := { r with cursor := r.cursor.skipBlanks.bump })
          (by simp [opened])
          (by have := separated.length_le; simp only [List.length_append] at this ⊢; omega)
      simp only [head, run_peek_bind, opened, List.head?_cons, run_bump_bind, run_get_bind]
      rw [show r.cursor.skipBlanks.bump.rest = p₁ ++ W by simp [opened], run_bind_of_ok ran]
      exact ⟨fs, r', rfl, named, after, tree⟩
    obtain ⟨fs₁, r₁', ran₁, named₁, after₁, tree₁⟩ := viaList here₁
    obtain ⟨fs₂, r₂', ran₂, named₂, after₂, tree₂⟩ := viaList here₂
    exact ⟨parent, fs₁, fs₂, r₁', r₂', ran₁, ran₂, named₁.trans named₂.symm,
      ne_nil_of_matchers reads named₁ separated.ne_nil, by rw [tree₁, tree₂, same],
      by rw [after₁], by rw [after₂]⟩
  | path separated plain => exact viaPath separated (.inl plain)
  | anyDeep tok => exact viaPath (.last tok) (.inr rfl)

/-- Looking for a nested part where what may follow an expression stands finds none. -/
theorem run_peek_follows {k : Option Char → ReadM Unit}
    (other : ∀ x, ¬(x = some '[' ∨ x = some '\x7b') → k x = pure ()) {W : List Char}
    (follows : Follows W) {r : Reading}
    (here : Text.dropBlanks r.cursor.rest = Text.dropBlanks W) :
    (peek >>= k).run r = .ok ((), { r with cursor := r.cursor.skipBlanks }) := by
  rw [run_peek_bind, other, run_pure]
  rw [here]
  rintro (first | first)
  · exact follows.head_ne (by decide) first
  · exact follows.head_ne (by decide) first

/-- A negated path is read alike whatever may follow it. -/
theorem negated_follow {P W₁ W₂ : List Char} {ts : List (List Char)}
    (separated : Separated '.' P ts []) (plain : anyDeepText ∉ ts) (follows₁ : Follows W₁)
    (follows₂ : Follows W₂) {parent : List String} {r₁ r₂ r₁' : Reading}
    (here₁ : Text.dropBlanks r₁.cursor.rest = Text.dropBlanks (P ++ W₁))
    (here₂ : Text.dropBlanks r₂.cursor.rest = Text.dropBlanks (P ++ W₂)) (same : r₁.tree = r₂.tree)
    (h : (negated parent).run r₁ = .ok ((), r₁')) :
    ∃ r₂', (negated parent).run r₂ = .ok ((), r₂') ∧ r₂'.tree = r₁'.tree ∧
      Text.dropBlanks r₁'.cursor.rest = Text.dropBlanks W₁ ∧
      Text.dropBlanks r₂'.cursor.rest = Text.dropBlanks W₂ := by
  obtain ⟨ms, reads⟩ := separated.reads
  obtain ⟨fs₁, ra, ran₁, named₁, after₁, tree₁⟩ := path_matchers separated reads (.inl plain)
    (stop_of_nest .none follows₁) (Nest.none.noDot follows₁) here₁
  obtain ⟨fs₂, rb, ran₂, named₂, after₂, tree₂⟩ := path_matchers separated reads (.inl plain)
    (stop_of_nest .none follows₂) (Nest.none.noDot follows₂) here₂
  simp only [negated, run_pos_bind] at h ⊢
  rw [run_bind_of_ok ran₁] at h
  rw [run_bind_of_ok ran₂]
  simp only [matchers_plain reads plain named₁, matchers_plain reads plain named₂,
    Bool.false_eq_true, if_false] at h ⊢
  have sameSteps : fs₁.map (·.matcher) = fs₂.map (·.matcher) := named₁.trans named₂.symm
  have sameLength : fs₁.length = fs₂.length := by simpa using congrArg List.length sameSteps
  have nonEmpty := ne_nil_of_matchers reads named₁ separated.ne_nil
  have rel : ra.tree = rb.tree := by rw [tree₁, tree₂, same]
  have ahead₁ : Text.dropBlanks ra.cursor.rest = Text.dropBlanks W₁ := by
    rw [after₁, List.nil_append, dropBlanks_dropBlanks]
  have ahead₂ : Text.dropBlanks rb.cursor.rest = Text.dropBlanks W₂ := by
    rw [after₂, List.nil_append, dropBlanks_dropBlanks]
  rcases fs₁ with _ | ⟨f₁, _ | ⟨f₁', rest₁⟩⟩ <;> rcases fs₂ with _ | ⟨f₂, _ | ⟨f₂', rest₂⟩⟩ <;>
    simp at sameLength nonEmpty <;> simp only at h ⊢
  case' cons.nil.cons.nil =>
    rw [show f₂.matcher = f₁.matcher by simpa using sameSteps.symm]
    obtain ⟨_, t₁, t₂, -, put₁, put₂, sameTree⟩ :=
      (kept_addChild (keeps_eq []) List.nil_prefix f₁.matcher { negated := true }).run_bind ra rb rel
    rw [put₁] at h
    rw [put₂]
  case' cons.cons.cons.cons =>
    rw [← negatedSteps_congr parent sameSteps]
    obtain ⟨_, t₁, t₂, -, put₁, put₂, sameTree⟩ :=
      (kept_negatedSteps (keeps_eq []) parent _ List.nil_prefix).run_bind ra rb rel
    rw [put₁] at h
    rw [put₂]
  all_goals
    rw [run_peek_follows (r := { ra with tree := t₁ }) ?_ follows₁ ahead₁] at h
    · simp only [Except.ok.injEq, Prod.mk.injEq] at h
      obtain ⟨-, rfl⟩ := h
      refine ⟨_, run_peek_follows (r := { rb with tree := t₂ }) ?_ follows₂ ahead₂, sameTree.symm,
        by simp [ahead₁, dropBlanks_dropBlanks], by simp [ahead₂, dropBlanks_dropBlanks]⟩
      intro x notOpener
      split <;> simp_all
    · intro x notOpener
      split <;> simp_all

/-- An expression is read alike whatever may follow it: the trees grow alike, and each reading
stops before what follows, past blanks. -/
theorem expression_follow {e W₁ W₂ : List Char} (expr : Expr e []) (follows₁ : Follows W₁)
    (follows₂ : Follows W₂) {parent : List String} {fuel : Nat} {r₁ r₂ r₁' : Reading}
    (here₁ : Text.dropBlanks r₁.cursor.rest = Text.dropBlanks (e ++ W₁))
    (here₂ : Text.dropBlanks r₂.cursor.rest = Text.dropBlanks (e ++ W₂)) (same : r₁.tree = r₂.tree)
    (h : (expression parent fuel).run r₁ = .ok ((), r₁')) :
    ∃ r₂', (expression parent fuel).run r₂ = .ok ((), r₂') ∧ r₂'.tree = r₁'.tree ∧
      Text.dropBlanks r₁'.cursor.rest = Text.dropBlanks W₁ ∧
      Text.dropBlanks r₂'.cursor.rest = Text.dropBlanks W₂ := by
  have viaHead : ∀ {N : List Char}, Head e N → Nest N [] →
      ∃ r₂', (expression parent fuel).run r₂ = .ok ((), r₂') ∧ r₂'.tree = r₁'.tree ∧
        Text.dropBlanks r₁'.cursor.rest = Text.dropBlanks W₁ ∧
        Text.dropBlanks r₂'.cursor.rest = Text.dropBlanks W₂ := by
    intro N hd nest
    have notMinus : ∀ {r : Reading} {W : List Char},
        Text.dropBlanks r.cursor.rest = Text.dropBlanks (e ++ W) →
        (Text.dropBlanks r.cursor.rest).head? ≠ some '-' := by
      intro r W here
      rw [here, head_dropBlanks_append hd.solid]
      exact hd.not_minus
    obtain ⟨f, node, fields, rm, rfl, ranHead, ranAttach⟩ := expression_parts (notMinus here₁) h
    obtain ⟨node', fs₁, fs₂, ra, rb, ran₁, ran₂, sameFields, nonEmpty, sameTree, after₁, after₂⟩ :=
      head_follow hd nest follows₁ follows₂ parent here₁ here₂ same
    rw [ran₁, Except.ok.injEq, Prod.mk.injEq, Prod.mk.injEq] at ranHead
    obtain ⟨⟨rfl, rfl⟩, rfl⟩ := ranHead
    obtain ⟨r₂', ranAttach₂, tree, end₁, end₂⟩ :=
      attach_follow nest follows₁ follows₂ after₁ after₂ sameTree nonEmpty ranAttach
    rw [attach_congr sameFields] at ranAttach₂
    exact ⟨r₂', expression_of_parts (notMinus here₂) ran₂ ranAttach₂, tree, end₁, end₂⟩
  cases expr with
  | negated minus separated plain =>
    rename_i P ts
    cases fuel with
    | zero => simp only [expression, run_failUnexpected, reduceCtorEq] at h
    | succ fuel =>
    have minus₁ : Text.dropBlanks r₁.cursor.rest = '-' :: (P ++ W₁) := by
      rw [here₁]
      exact (punct_iff (by decide)).1 (minus.append W₁)
    have minus₂ : Text.dropBlanks r₂.cursor.rest = '-' :: (P ++ W₂) := by
      rw [here₂]
      exact (punct_iff (by decide)).1 (minus.append W₂)
    simp only [expression, run_peek_bind, minus₁, List.head?_cons, run_bump_bind] at h
    simp only [expression, run_peek_bind, minus₂, List.head?_cons, run_bump_bind]
    exact negated_follow separated plain follows₁ follows₂ (by simp [minus₁]) (by simp [minus₂])
      (show ({ r₁ with cursor := r₁.cursor.skipBlanks.bump } : Reading).tree =
        ({ r₂ with cursor := r₂.cursor.skipBlanks.bump } : Reading).tree from same) h
  | fields paren separated plain closed nest => exact viaHead (.fields paren separated plain closed) nest
  | path separated plain nest => exact viaHead (.path separated plain) nest
  | anyDeep tok nest => exact viaHead (.anyDeep tok) nest

/-! ## Cutting a list where one of its expressions ends -/

/-- At its closing bracket a list stops, right past it. -/
theorem listTail_close {parent : List String} {k : Char} (closing : k = ']' ∨ k = '}') {fuel : Nat}
    {r : Reading} {S : List Char} (closed : Text.dropBlanks r.cursor.rest = k :: S) :
    (listTail parent (some k) fuel).run r = .ok ((), { r with cursor := r.cursor.skipBlanks.bump }) := by
  simp only [listTail, run_peek_bind, closed, List.head?_cons]
  rcases closing with rfl | rfl <;> rfl

/-- Past a comma a list goes on. -/
theorem listTail_comma {parent : List String} {close : Option Char} {fuel : Nat} {r : Reading}
    {Z : List Char} (comma : Text.dropBlanks r.cursor.rest = ',' :: Z) :
    (listTail parent close fuel).run r =
      (expressionList parent close fuel).run { r with cursor := r.cursor.skipBlanks.bump } := by
  simp only [listTail, run_peek_bind, comma, List.head?_cons, run_bump_bind]

/-- A list is read alike from readings with the same text ahead and the same tree, wherever
they stand. -/
theorem expressionList_same {parent : List String} {close : Option Char} {fuel : Nat}
    {r₁ r₂ r₁' : Reading} (text : r₁.cursor.rest = r₂.cursor.rest) (tree : r₁.tree = r₂.tree)
    (h : (expressionList parent close fuel).run r₁ = .ok ((), r₁')) :
    ∃ r₂', (expressionList parent close fuel).run r₂ = .ok ((), r₂') ∧
      r₂'.cursor.rest = r₁'.cursor.rest ∧ r₂'.tree = r₁'.tree := by
  obtain ⟨r₂', ran, along⟩ := expressionList_along (keeps_eq []) (Tails.refl (by simp)) fuel
    List.nil_prefix
    (show Along Eq [] [] r₁ r₂ from ⟨⟨r₁.cursor.rest, by simp, by simp [text]⟩, tree⟩) h
    List.nil_suffix
  obtain ⟨C, here₁, here₂⟩ := along.text
  exact ⟨r₂', ran, by rw [here₁, here₂], along.tree.symm⟩

/-- An expression read to its end stops where the grammar says it does. -/
theorem expression_end {cs rest : List Char} (expr : Expr cs rest) (follows : Follows rest)
    {parent : List String} {fuel : Nat} {r r' : Reading} (here : r.cursor.rest = cs)
    (h : (expression parent fuel).run r = .ok ((), r')) :
    Text.dropBlanks r'.cursor.rest = Text.dropBlanks rest := by
  obtain ⟨r'', ran, ends⟩ := expression_complete (4 * r.cursor.rest.length + 2)
    (show Expr r.cursor.rest rest by rw [here]; exact expr) follows le_rfl
  have same := (expression_mono (le_max_left fuel _) h).symm.trans
    (expression_mono (le_max_right _ _) ran)
  simp only [Except.ok.injEq, Prod.mk.injEq] at same
  rw [same.2]
  exact ends

/-- The text of a list `X` followed by a closing bracket and the text of `X` followed by a
comma agree up to the comma after the first expression of `X`, when there is a further one. -/
theorem tails_of_step {X r₁ r₂ A B : List Char} (expr : Expr X r₁) (punct : Punct ',' r₁ r₂) :
    ∃ C, X ++ A = C ++ ',' :: (r₂ ++ A) ∧ X ++ B = C ++ ',' :: (r₂ ++ B) := by
  obtain ⟨P, rfl⟩ := expr.suffix
  obtain ⟨bl, -, rfl⟩ := punct
  exact ⟨P ++ bl, by simp, by simp⟩

/-- Texts that go on from a comma agree at it. -/
theorem tails_comma (A B : List Char) : Tails (',' :: A) (',' :: B) := by
  refine ⟨rfl, fun c first => ?_⟩
  simp only [List.head?_cons, Option.mem_def, Option.some.injEq] at first
  subst first
  decide

/-- Reading a list `X` into `node` up to its closing bracket, then a list `Z` into the same node,
ends as reading `X` and `Z` joined by a comma does. The induction is on the fuel, along the
expressions of `X`: all but the last are read alike up to the comma after them, and the last is
read alike before the bracket as before the comma. -/
theorem list_join {node : List String} {k : Char} (closing : k = ']' ∨ k = '}') :
    ∀ (fuel : Nat) {X S Z : List Char} {ra₀ ra rb₀ rb ry₀ : Reading} {fuelZ : Nat}, ExprList X [] →
      ra₀.cursor.rest = X ++ k :: S → (expressionList node (some k) fuel).run ra₀ = .ok ((), ra) →
      rb₀.cursor.rest = Z → rb₀.tree = ra.tree →
      (expressionList node (some k) fuelZ).run rb₀ = .ok ((), rb) →
      ry₀.cursor.rest = X ++ ',' :: Z → ry₀.tree = ra₀.tree →
      ∃ fuel' ry, (expressionList node (some k) fuel').run ry₀ = .ok ((), ry) ∧
        ry.cursor.rest = rb.cursor.rest ∧ ry.tree = rb.tree
  | 0, _, _, _, _, _, _, _, _, _, _, _, ranA, _, _, _, _, _ => by
    simp only [expressionList, run_failUnexpected, reduceCtorEq] at ranA
  | fuel + 1, X, S, Z, ra₀, ra, rb₀, rb, ry₀, fuelZ, list, hereA, ranA, hereB, treeB, ranB, hereY,
      treeY => by
    rw [expressionList_eq_listTail, run_bind_eq_ok] at ranA
    obtain ⟨⟨⟩, rm, ranExpr, ranTail⟩ := ranA
    cases list with
    | last expr =>
      obtain ⟨rm₂, ranExpr₂, treeM, endA, endY⟩ := expression_follow expr (follows_close closing S)
        (follows_comma Z) (by rw [hereA]) (by rw [hereY]) treeY.symm ranExpr
      rw [dropBlanks_cons_of_plain (by rcases closing with rfl | rfl <;> decide)] at endA
      rw [dropBlanks_comma] at endY
      rw [listTail_close closing endA, Except.ok.injEq, Prod.mk.injEq] at ranTail
      obtain ⟨-, rfl⟩ := ranTail
      obtain ⟨ry, ranZ, sameRest, sameTree⟩ := expressionList_same
        (show rb₀.cursor.rest = ({ rm₂ with cursor := rm₂.cursor.skipBlanks.bump } : Reading).cursor.rest
          by simp [endY, hereB])
        (by simp [treeB, treeM]) ranB
      exact ⟨max fuel fuelZ + 1, ry,
        expressionList_of_parts ranExpr₂ (by rw [listTail_comma endY]; exact ranZ), sameRest,
        sameTree⟩
    | step expr punct more =>
      rename_i r₁ r₂
      obtain ⟨C, splitA, splitY⟩ := tails_of_step (A := k :: S) (B := ',' :: Z) expr punct
      have tails : Tails (',' :: (r₂ ++ k :: S)) (',' :: (r₂ ++ ',' :: Z)) := tails_comma _ _
      have comma : Text.dropBlanks rm.cursor.rest = ',' :: (r₂ ++ k :: S) := by
        rw [expression_end (expr.append punct.ne_nil (k :: S)) (punct.append _).follows hereA ranExpr]
        exact (punct_iff (by decide)).1 (punct.append _)
      obtain ⟨rm₂, ranExpr₂, along⟩ := expression_along (keeps_eq []) tails fuel List.nil_prefix
        (show Along Eq _ _ ra₀ ry₀ from ⟨⟨C, by rw [hereA, splitA], by rw [hereY, splitY]⟩,
          treeY.symm⟩) ranExpr (by rw [← comma]; exact List.dropWhile_suffix _)
      have comma₂ := along.text.dropBlanks_eq tails comma
      rw [listTail_comma comma] at ranTail
      obtain ⟨fuel', ry, ranRest, sameRest, sameTree⟩ := list_join closing fuel more
        (show ({ rm with cursor := rm.cursor.skipBlanks.bump } : Reading).cursor.rest = r₂ ++ k :: S
          by simp [comma]) ranTail hereB treeB ranB
        (show ({ rm₂ with cursor := rm₂.cursor.skipBlanks.bump } : Reading).cursor.rest =
          r₂ ++ ',' :: Z by simp [comma₂])
        along.tree.symm
      exact ⟨max fuel fuel' + 1, ry,
        expressionList_of_parts ranExpr₂ (by rw [listTail_comma comma₂]; exact ranRest), sameRest,
        sameTree⟩

/-- Reading a list `X` and a list `Z` joined by a comma into `node` is reading `X` up to a
closing bracket put in place of the comma, then `Z` into the tree that leaves. The induction
is the one of `list_join`, run the other way. -/
theorem list_split {node : List String} {k : Char} (closing : k = ']' ∨ k = '}') :
    ∀ (fuel : Nat) {X S Z : List Char} {ry₀ ry ra₀ : Reading}, ExprList X [] →
      ry₀.cursor.rest = X ++ ',' :: Z → (expressionList node (some k) fuel).run ry₀ = .ok ((), ry) →
      ra₀.cursor.rest = X ++ k :: S → ra₀.tree = ry₀.tree →
      ∃ fuel' ra, (expressionList node (some k) fuel').run ra₀ = .ok ((), ra) ∧
        ra.cursor.rest = S ∧ ∀ {rb₀ : Reading}, rb₀.cursor.rest = Z → rb₀.tree = ra.tree →
          ∃ fuelZ rb, (expressionList node (some k) fuelZ).run rb₀ = .ok ((), rb) ∧
            rb.cursor.rest = ry.cursor.rest ∧ rb.tree = ry.tree
  | 0, _, _, _, _, _, _, _, _, ranY, _, _ => by
    simp only [expressionList, run_failUnexpected, reduceCtorEq] at ranY
  | fuel + 1, X, S, Z, ry₀, ry, ra₀, list, hereY, ranY, hereA, treeA => by
    rw [expressionList_eq_listTail, run_bind_eq_ok] at ranY
    obtain ⟨⟨⟩, rm₂, ranExpr₂, ranTail₂⟩ := ranY
    cases list with
    | last expr =>
      obtain ⟨rm, ranExpr, treeM, endY, endA⟩ := expression_follow expr (follows_comma Z)
        (follows_close closing S) (by rw [hereY]) (by rw [hereA]) treeA.symm ranExpr₂
      rw [dropBlanks_comma] at endY
      rw [dropBlanks_cons_of_plain (by rcases closing with rfl | rfl <;> decide)] at endA
      rw [listTail_comma endY] at ranTail₂
      refine ⟨max fuel fuel + 1, _, expressionList_of_parts ranExpr (listTail_close closing endA),
        by simp [endA], fun {rb₀} hereB treeB => ?_⟩
      obtain ⟨rb, ranZ, sameRest, sameTree⟩ := expressionList_same
        (show ({ rm₂ with cursor := rm₂.cursor.skipBlanks.bump } : Reading).cursor.rest =
          rb₀.cursor.rest by simp [endY, hereB])
        (by simp [treeB, treeM]) ranTail₂
      exact ⟨fuel, rb, ranZ, sameRest, sameTree⟩
    | step expr punct more =>
      rename_i r₁ r₂
      obtain ⟨C, splitY, splitA⟩ := tails_of_step (A := ',' :: Z) (B := k :: S) expr punct
      have comma₂ : Text.dropBlanks rm₂.cursor.rest = ',' :: (r₂ ++ ',' :: Z) := by
        rw [expression_end (expr.append punct.ne_nil (',' :: Z)) (punct.append _).follows hereY
          ranExpr₂]
        exact (punct_iff (by decide)).1 (punct.append _)
      obtain ⟨rm, ranExpr, along⟩ := expression_along (keeps_eq []) (tails_comma _ _) fuel
        List.nil_prefix
        (show Along Eq _ _ ry₀ ra₀ from ⟨⟨C, by rw [hereY, splitY], by rw [hereA, splitA]⟩,
          treeA.symm⟩) ranExpr₂ (by rw [← comma₂]; exact List.dropWhile_suffix _)
      have comma := along.text.dropBlanks_eq (tails_comma _ _) comma₂
      rw [listTail_comma comma₂] at ranTail₂
      obtain ⟨fuel', ra, ranA, restA, rest⟩ := list_split closing fuel more
        (show ({ rm₂ with cursor := rm₂.cursor.skipBlanks.bump } : Reading).cursor.rest =
          r₂ ++ ',' :: Z by simp [comma₂]) ranTail₂
        (show ({ rm with cursor := rm.cursor.skipBlanks.bump } : Reading).cursor.rest =
          r₂ ++ k :: S by simp [comma])
        along.tree.symm
      exact ⟨max fuel fuel' + 1, ra,
        expressionList_of_parts ranExpr (by rw [listTail_comma comma]; exact ranA), restA, rest⟩

end Reader

end FieldSelection.Selection

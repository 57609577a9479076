import FieldSelection.Proofs.Selection.Locality
import Mathlib.Data.List.DropRight
/-!
# Places of an expression

A place of an expression in a text is what stands before it and what after. Before it stands a
prefix of the grammar that ends where an expression may start (`Opening`): the start of the
text, a comma after an expression of a list, or the opening bracket of a nested part after the
head of its expression (`Head`), each maybe followed by blanks. After it stands a text that may
follow an expression (`Follows`): a comma, a closing bracket or the end, past blanks.

`Swap R x y` says that `y` may stand for `x` at the start of an expression list: whenever a list
starting with `x` is read, a list starting with `y` is read alike, ending at the same place of
the text, with trees related by `R`. Each way a place is built keeps a swap (`Swap.next`,
`Swap.into`, `Swap.blank`), so a swap at the start of a list is one at every place
(`Swap.at_place`), and then for whole texts (`parse_of_swap`): what the text with `x` at a place
compiles to, the text with `y` there compiles to as well, up to the relation `R` makes of the
compiled forests.

The reader is cut for this at the head of an expression (`Reader.head`): an expression that is no
negation is its head, read up to where a nested part would start, followed by the nested part
attached to the fields of the head (`Reader.expression_eq_head`).
-/

namespace FieldSelection.Selection

/-! ## 1. The grammar around a place -/

theorem Blanks.append {cs cs' : List Char} (skipped : Blanks cs cs') (w : List Char) :
    Blanks (cs ++ w) (cs' ++ w) := by
  obtain ⟨bl, blank, rfl⟩ := skipped
  exact ⟨bl, blank, List.append_assoc _ _ _⟩

theorem Punct.append {c : Char} {cs rest : List Char} (punct : Punct c cs rest) (w : List Char) :
    Punct c (cs ++ w) (rest ++ w) :=
  Blanks.append punct w

/-- Punctuation stands in a text that is not empty. -/
theorem Punct.ne_nil {c : Char} {cs rest : List Char} (punct : Punct c cs rest) : cs ≠ [] := by
  obtain ⟨bl, -, rfl⟩ := punct
  simp

/-- A nested part that leaves something was read off something. -/
theorem Nest.ne_nil {cs rest : List Char} (nest : Nest cs rest) (more : rest ≠ []) : cs ≠ [] := by
  obtain ⟨pre, rfl⟩ := nest.suffix
  exact fun empty => more (List.append_eq_nil_iff.1 empty).2

/-- Punctuation that is no blank is read alike after its blanks are skipped. -/
theorem Punct.dropBlanks {c : Char} (plain : Text.isBlank c = false) {cs rest : List Char}
    (punct : Punct c cs rest) : Punct c (Text.dropBlanks cs) rest := by
  rw [(punct_iff plain).1 punct]
  exact Blanks.refl _

/-- A token followed by more text is the same token before it, when it was not at the end. -/
theorem FieldToken.append {cs t rest : List Char} (tok : FieldToken cs t rest) (more : rest ≠ [])
    (w : List Char) : FieldToken (cs ++ w) t (rest ++ w) := by
  obtain ⟨x, xs, rfl⟩ := List.exists_cons_of_ne_nil more
  cases tok with
  | name skipped start named stops =>
    exact .name (by simpa using skipped.append w) start named (by simpa using stops)
  | regex skipped delim body nonEmpty onlyI stops compiles =>
    exact .regex (by simpa using skipped.append w) delim body nonEmpty onlyI (by simpa using stops)
      compiles

theorem Separated.append {sep : Char} {cs rest : List Char} {ts : List (List Char)}
    (separated : Separated sep cs ts rest) (more : rest ≠ []) (w : List Char) :
    Separated sep (cs ++ w) ts (rest ++ w) := by
  induction separated with
  | last tok => exact .last (tok.append more w)
  | step tok punct _ ih => exact .step (tok.append punct.ne_nil w) (punct.append w) (ih more)

mutual

/-- What the grammar reads off a text before some rest it reads alike off the text followed by
more, as long as the rest was not empty. -/
theorem ExprList.append : ∀ {cs rest : List Char}, ExprList cs rest → rest ≠ [] →
    ∀ w : List Char, ExprList (cs ++ w) (rest ++ w)
  | _, _, .last expr, more, w => .last (expr.append more w)
  | _, _, .step expr punct list, more, w =>
    .step (expr.append punct.ne_nil w) (punct.append w) (list.append more w)

theorem Expr.append : ∀ {cs rest : List Char}, Expr cs rest → rest ≠ [] →
    ∀ w : List Char, Expr (cs ++ w) (rest ++ w)
  | _, _, .negated minus separated plain, more, w =>
    .negated (minus.append w) (separated.append more w) plain
  | _, _, .fields paren separated plain closed nest, more, w =>
    .fields (paren.append w) (separated.append closed.ne_nil w) plain (closed.append w)
      (nest.append more w)
  | _, _, .path separated plain nest, more, w =>
    .path (separated.append (nest.ne_nil more) w) plain (nest.append more w)
  | _, _, .anyDeep tok nest, more, w => .anyDeep (tok.append (nest.ne_nil more) w) (nest.append more w)

theorem Nest.append : ∀ {cs rest : List Char}, Nest cs rest → rest ≠ [] →
    ∀ w : List Char, Nest (cs ++ w) (rest ++ w)
  | _, _, .none, _, _ => .none
  | _, _, .empty pair opened closed, _, w => .empty pair (opened.append w) (closed.append w)
  | _, _, .list pair opened list closed, _, w =>
    .list pair (opened.append w) (list.append closed.ne_nil w) (closed.append w)

end

/-- An expression is read alike once the blanks before it are skipped. -/
theorem Expr.dropBlanks {cs rest : List Char} (expr : Expr cs rest) :
    Expr (Text.dropBlanks cs) rest := by
  cases expr with
  | negated minus separated plain => exact .negated (minus.dropBlanks (by decide)) separated plain
  | fields paren separated plain closed nest =>
    exact .fields (paren.dropBlanks (by decide)) separated plain closed nest
  | path separated plain nest => exact .path separated.dropBlanks plain nest
  | anyDeep tok nest => exact .anyDeep tok.dropBlanks nest

/-- The head of an expression that takes a nested part, the part itself left: a field list, a
dot-path or the any-deep name. -/
inductive Head : List Char → List Char → Prop
  | fields {cs r₁ r₂ rest : List Char} {ts : List (List Char)} : Punct '(' cs r₁ →
      Separated ',' r₁ ts r₂ → anyDeepText ∉ ts → Punct ')' r₂ rest → Head cs rest
  | path {cs rest : List Char} {ts : List (List Char)} : Separated '.' cs ts rest →
      anyDeepText ∉ ts → Head cs rest
  | anyDeep {cs rest : List Char} : FieldToken cs anyDeepText rest → Head cs rest

namespace Head

variable {cs rest : List Char}

theorem suffix (hd : Head cs rest) : rest <:+ cs := by
  cases hd with
  | fields paren separated _ closed => exact closed.suffix.trans (separated.suffix.trans paren.suffix)
  | path separated => exact separated.suffix
  | anyDeep tok => exact tok.suffix

theorem append (hd : Head cs rest) (more : rest ≠ []) (w : List Char) :
    Head (cs ++ w) (rest ++ w) := by
  cases hd with
  | fields paren separated plain closed =>
    exact .fields (paren.append w) (separated.append closed.ne_nil w) plain (closed.append w)
  | path separated plain => exact .path (separated.append more w) plain
  | anyDeep tok => exact .anyDeep (tok.append more w)

theorem dropBlanks (hd : Head cs rest) : Head (Text.dropBlanks cs) rest := by
  cases hd with
  | fields paren separated plain closed =>
    exact .fields (paren.dropBlanks (by decide)) separated plain closed
  | path separated plain => exact .path separated.dropBlanks plain
  | anyDeep tok => exact .anyDeep tok.dropBlanks

/-- A head is no negation. -/
theorem not_minus (hd : Head cs rest) : (Text.dropBlanks cs).head? ≠ some '-' := by
  cases hd with
  | fields paren => simp [(punct_iff (by decide)).1 paren]
  | path separated => exact separated.head_ne (by decide)
  | anyDeep tok => exact tok.head_ne (by decide)

/-- A head starts with no closing bracket. -/
theorem not_close (hd : Head cs rest) {k : Char} (closing : k = ']' ∨ k = '}') :
    (Text.dropBlanks cs).head? ≠ some k := by
  have other : k ≠ '~' ∧ k ≠ '/' ∧ isNameStart k = false := by
    rcases closing with rfl | rfl <;> decide
  cases hd with
  | fields paren =>
    rw [(punct_iff (by decide)).1 paren]
    rintro ⟨⟩
    rcases closing with same | same <;> cases same
  | path separated => exact separated.head_ne other
  | anyDeep tok => exact tok.head_ne other

end Head

/-- `pre` is the text before a place where an expression of a list may stand: the start of the
text, the place after an expression of a list and its comma, or the place inside the brackets of
a nested part, right after the head of its expression and the opening bracket, each maybe
followed by blanks. -/
inductive Opening : List Char → Prop
  | start : Opening []
  | next {pre e r : List Char} : Opening pre → Expr e r → Punct ',' r [] → Opening (pre ++ e)
  | into {pre h r : List Char} {o c : Char} : Opening pre → Head h r → BracketPair o c →
      Punct o r [] → Opening (pre ++ h)
  | blank {pre : List Char} {b : Char} : Opening pre → Text.isBlank b = true →
      Opening (pre ++ [b])

/-- A text that may open an expression list: past blanks it starts with a character that closes
no nested part. -/
def Opens (x : List Char) : Prop :=
  ∃ k more, Text.dropBlanks x = k :: more ∧ k ≠ ']' ∧ k ≠ '}'

/-- Text with a character that is no blank keeps what comes after it when blanks are skipped. -/
theorem dropBlanks_append_of_ne_nil {x : List Char} (solid : Text.dropBlanks x ≠ [])
    (w : List Char) : Text.dropBlanks (x ++ w) = Text.dropBlanks x ++ w := by
  unfold Text.dropBlanks at solid ⊢
  rw [List.dropWhile_append]
  split
  · rename_i empty
    exact absurd (List.isEmpty_iff.1 empty) solid
  · rfl

theorem Opens.append {x : List Char} (opens : Opens x) (w : List Char) : Opens (x ++ w) := by
  obtain ⟨k, more, first, notClose⟩ := opens
  refine ⟨k, more ++ w, ?_, notClose⟩
  rw [dropBlanks_append_of_ne_nil (by simp [first]) w, first, List.cons_append]

theorem Opens.blank {x : List Char} (opens : Opens x) {b : Char} (blank : Text.isBlank b = true) :
    Opens (b :: x) := by
  obtain ⟨k, more, first, notClose⟩ := opens
  exact ⟨k, more, by rw [← first]; exact List.dropWhile_cons_of_pos (by simp [blank]), notClose⟩

/-- A text that starts with an expression may open a list. -/
theorem Expr.opens {e r : List Char} (expr : Expr e r) : Opens e := by
  obtain ⟨k, more, first⟩ : ∃ k more, Text.dropBlanks e = k :: more := by
    cases skipped : Text.dropBlanks e with
    | nil =>
      have shorter := expr.dropBlanks.length_lt
      rw [skipped] at shorter
      exact absurd shorter (Nat.not_lt_zero _)
    | cons k more => exact ⟨k, more, rfl⟩
  have notClose : ∀ k', (k' = ']' ∨ k' = '}') → k ≠ k' := by
    intro k' closing same
    exact expr.head_ne (k := k') (by rcases closing with rfl | rfl <;> decide) (by rw [first, same]; rfl)
  exact ⟨k, more, first, notClose _ (.inl rfl), notClose _ (.inr rfl)⟩

theorem Head.opens {h r : List Char} (hd : Head h r) (more : r ≠ []) : Opens h := by
  obtain ⟨k, rest, first⟩ : ∃ k rest, Text.dropBlanks h = k :: rest := by
    cases skipped : Text.dropBlanks h with
    | nil =>
      obtain ⟨pre, joined⟩ := hd.dropBlanks.suffix
      rw [skipped] at joined
      exact absurd (List.append_eq_nil_iff.1 joined).2 more
    | cons k rest => exact ⟨k, rest, rfl⟩
  have notClose : ∀ k', (k' = ']' ∨ k' = '}') → k ≠ k' := by
    intro k' closing same
    exact hd.not_close closing (by rw [first, same]; rfl)
  exact ⟨k, rest, first, notClose _ (.inl rfl), notClose _ (.inr rfl)⟩

/-! ## 2. The reader cut at the head of an expression -/

theorem Cursor.skipBlanks_skipBlanks (c : Cursor) : c.skipBlanks.skipBlanks = c.skipBlanks := by
  have none : (Text.dropBlanks c.rest).takeWhile Text.isBlank = [] := by
    cases skipped : Text.dropBlanks c.rest with
    | nil => rfl
    | cons k more =>
      have stops := List.head?_dropWhile_not Text.isBlank c.rest
      rw [← Text.dropBlanks, skipped] at stops
      have plain : Text.isBlank k = false := by simpa using stops
      simp [plain]
  simp only [Cursor.skipBlanks, dropBlanks_dropBlanks, none, Text.utf8Length_nil, Nat.add_zero]

namespace Reader

variable {R : Draft → Draft → Prop} {base : List String} {T₁ T₂ : List Char}

/-- The steps of a path before its last put under `parent`, each braced, with `parent` braced
first when there are any; answers the node the last step goes under. -/
def stepsBefore (parent : List String) (before : List Field) : ReadM (List String) :=
  if before.isEmpty then pure parent
  else do
    brace parent
    pathPrefix parent before.reverse

/-- The head of an expression that is no negation, read up to where a nested part would start:
a field list, or a path whose steps before the last are put under `parent`. Answers the node the
nested part goes under and the fields it is given to. -/
def head (parent : List String) : ReadM (List String × List Field) := do
  match ← peek with
  | some '(' =>
    bump
    let fields ← fieldList ((← get).cursor.rest.length + 1) []
    return (parent, fields)
  | _ =>
    let steps ← path
    match steps.reverse with
    | [] => failUnexpected .field
    | last :: before =>
      let node ← stepsBefore parent before
      return (node, [last])

/-- An expression that is no negation is its head, then the nested part attached to it. -/
theorem expression_eq_head (parent : List String) (fuel : Nat) {r : Reading}
    (notMinus : (Text.dropBlanks r.cursor.rest).head? ≠ some '-') :
    (expression parent (fuel + 1)).run r = (head parent >>= fun h => attach h.1 h.2 fuel).run r := by
  simp only [expression, head, bind_assoc, run_peek_bind]
  split
  · contradiction
  · rename_i paren
    simp only [paren, run_bump_bind, run_get_bind, bind_assoc, pure_bind]
  · split
    · contradiction
    · simp only [bind_assoc]
      congr 1
      apply bind_congr
      intro steps
      cases steps.reverse with
      | nil => rfl
      | cons last before =>
        simp only [stepsBefore]
        split
        · simp only [pure_bind]
        · simp only [bind_assoc, pure_bind]

theorem treeOnly_stepsBefore (parent : List String) (before : List Field) :
    TreeOnly (stepsBefore parent before) := by
  unfold stepsBefore
  split
  · exact TreeOnly.pure parent
  · exact (treeOnly_brace parent).bind fun _ => treeOnly_pathPrefix parent _

theorem kept_stepsBefore (keeps : Keeps R base) {parent : List String} (below : base <+: parent)
    (before : List Field) : Kept R (fun node => base <+: node) (stepsBefore parent before) := by
  unfold stepsBefore
  split
  · exact Kept.pure below
  · exact (kept_brace keeps below).bind fun _ _ => kept_pathPrefix keeps parent _ below

theorem stepsBefore_congr (parent : List String) {before₁ before₂ : List Field}
    (same : before₁.map (·.matcher) = before₂.map (·.matcher)) :
    stepsBefore parent before₁ = stepsBefore parent before₂ := by
  have sameEmpty : before₁.isEmpty = before₂.isEmpty := by
    simpa using congrArg List.isEmpty same
  have sameReversed : before₁.reverse.map (·.matcher) = before₂.reverse.map (·.matcher) := by
    rw [List.map_reverse, List.map_reverse, same]
  simp only [stepsBefore, sameEmpty, pathPrefix_congr parent sameReversed]

/-- A head of the grammar is read to its end; what follows it is left, past blanks. -/
theorem head_complete (parent : List String) {r : Reading} {rest : List Char}
    (hd : Head r.cursor.rest rest) (noDot : (Text.dropBlanks rest).head? ≠ some '.') :
    ∃ node fields r', (head parent).run r = .ok ((node, fields), r') ∧
      Text.dropBlanks r'.cursor.rest = Text.dropBlanks rest := by
  have viaPath : ∀ {ts : List (List Char)}, Separated '.' r.cursor.rest ts rest →
      (anyDeepText ∉ ts ∨ ts = [anyDeepText]) → ∃ node fields r',
        (head parent).run r = .ok ((node, fields), r') ∧
        Text.dropBlanks r'.cursor.rest = Text.dropBlanks rest := by
    intro ts separated allowed
    have notParen := separated.head_ne (k := '(') (by decide)
    obtain ⟨fs, r₁, ran, after, marks⟩ :=
      path_complete (r := { r with cursor := r.cursor.skipBlanks }) separated.dropBlanks allowed noDot
    have nonEmpty : fs.reverse ≠ [] := by
      rw [Ne, List.reverse_eq_nil_iff]
      rintro rfl
      exact separated.ne_nil (by simpa using marks.symm)
    obtain ⟨last, before, reversed⟩ := List.exists_cons_of_ne_nil nonEmpty
    simp only [head, run_peek_bind]
    rw [run_bind_of_ok ran]
    simp only [reversed]
    obtain ⟨node, tree, ranSteps⟩ := treeOnly_stepsBefore parent before r₁
    rw [run_bind_of_ok ranSteps]
    exact ⟨node, [last], _, rfl, by simp [after, dropBlanks_dropBlanks]⟩
  cases hd with
  | fields paren separated plain closed =>
    rename_i r₁ r₂ ts
    have first : Text.dropBlanks r.cursor.rest = '(' :: r₁ := (punct_iff (by decide)).1 paren
    have counted := separated.length_le
    obtain ⟨fs, r', ran, after, -⟩ := fieldList_complete separated plain closed (r₁.length + 1) []
      { r with cursor := r.cursor.skipBlanks.bump } (by simp [first]) (by omega)
    simp only [head, run_peek_bind, first, List.head?_cons, run_bump_bind, run_get_bind]
    have fuel : r.cursor.skipBlanks.bump.rest.length = r₁.length := by simp [first]
    rw [fuel, run_bind_of_ok ran]
    exact ⟨_, fs, r', rfl, by rw [after]⟩
  | path separated plain => exact viaPath separated (.inl plain)
  | anyDeep tok => exact viaPath (.last tok) (.inr rfl)

/-- A head read off the common text, ending before `T₁`, is read alike off the second text: the
same node, fields with the same matchers, and trees grown alike. -/
theorem head_along (keeps : Keeps R base) (tails : Tails T₁ T₂) {parent : List String}
    (below : base <+: parent) {r₁ r₂ r₁' : Reading} {node : List String} {fs₁ : List Field}
    (along : Along R T₁ T₂ r₁ r₂) (h : (head parent).run r₁ = .ok ((node, fs₁), r₁'))
    (stops : T₁ <:+ r₁'.cursor.rest) :
    ∃ fs₂ r₂', (head parent).run r₂ = .ok ((node, fs₂), r₂') ∧
      fs₁.map (·.matcher) = fs₂.map (·.matcher) ∧ base <+: node ∧ Along R T₁ T₂ r₁' r₂' := by
  simp only [head, run_peek_bind] at h ⊢
  rw [along.text.peek tails]
  split at h
  · simp only [run_bump_bind, run_get_bind] at h ⊢
    rw [run_bind_eq_ok] at h
    obtain ⟨fields₁, ra, ranFields, h⟩ := h
    simp only [run_pure, Except.ok.injEq, Prod.mk.injEq] at h
    obtain ⟨⟨rfl, rfl⟩, rfl⟩ := h
    obtain ⟨C, here₁, here₂⟩ := (along.text.skipBlanks tails).bump tails
      (stops.trans (fieldList_forward ranFields))
    obtain ⟨fields₂, rb, ranFields₂, sameFields, beforeB, tree₁, tree₂⟩ :=
      fieldList_along tails (r₁.cursor.skipBlanks.bump.rest.length + 1)
        (r₂.cursor.skipBlanks.bump.rest.length + 1) [] [] ⟨r₂.cursor.skipBlanks.bump, r₂.tree⟩
        here₁ here₂ (by rw [here₁, List.length_append]; omega)
        (by rw [here₂, List.length_append]; omega) rfl ranFields stops
    rw [run_bind_of_ok ranFields₂]
    exact ⟨fields₂, rb, rfl, sameFields, below, beforeB, by rw [tree₁, tree₂]; exact along.tree⟩
  · rw [run_bind_eq_ok] at h
    obtain ⟨steps₁, ra, ranPath, h⟩ := h
    split at h
    · simp only [run_failUnexpected, reduceCtorEq] at h
    rename_i last₁ before₁ reversed₁
    have stopsPath : T₁ <:+ ra.cursor.rest := by
      obtain ⟨_, tree, h⟩ := (treeOnly_stepsBefore parent before₁).run_bind_eq_ok h
      simp only [run_pure, Except.ok.injEq, Prod.mk.injEq] at h
      rw [← h.2] at stops
      exact stops
    obtain ⟨steps₂, rb, ranPath₂, sameSteps, beforeB, tree₁, tree₂⟩ :=
      path_along tails ⟨r₂.cursor.skipBlanks, r₂.tree⟩ (along.text.skipBlanks tails) ranPath stopsPath
    rw [run_bind_of_ok ranPath₂]
    obtain ⟨last₂, before₂, reversed₂, sameLast, sameBefore⟩ :=
      exists_reverse_of_matchers sameSteps reversed₁
    simp only [reversed₂]
    rw [← stepsBefore_congr parent sameBefore]
    have rel : R ra.tree rb.tree := by rw [tree₁, tree₂]; exact along.tree
    obtain ⟨node', t₁, t₂, placed, ran₁, ran₂, rel₁⟩ :=
      (kept_stepsBefore keeps below before₁).run_bind ra rb rel
    rw [ran₁] at h
    rw [ran₂]
    simp only [run_pure, Except.ok.injEq, Prod.mk.injEq] at h ⊢
    obtain ⟨⟨rfl, rfl⟩, rfl⟩ := h
    exact ⟨[last₂], _, ⟨⟨rfl, rfl⟩, rfl⟩, by simp [sameLast], placed, ⟨beforeB, rel₁⟩⟩

/-- An expression read after blanks is read alike from before them. -/
theorem expression_skipBlanks (parent : List String) (fuel : Nat) (r : Reading) :
    (expression parent (fuel + 1)).run { r with cursor := r.cursor.skipBlanks } =
      (expression parent (fuel + 1)).run r := by
  simp only [expression, run_peek_bind, Cursor.skipBlanks_rest, dropBlanks_dropBlanks,
    Cursor.skipBlanks_skipBlanks]

/-- What a list does after each of its expressions: past a comma it reads the rest of the list;
at its closing bracket, or at the end of the text at the top level, it stops. -/
def listTail (parent : List String) (close : Option Char) (fuel : Nat) : ReadM Unit := do
  match ← peek with
  | some ',' => bump; expressionList parent close fuel
  | some c =>
    if some c == close then bump
    else failUnexpected (match close with
      | some k => .commaOrClose k
      | none => .commaOrEnd)
  | none =>
    match close with
    | none => pure ()
    | some k => failUnexpected (.commaOrClose k)

theorem expressionList_eq_listTail (parent : List String) (close : Option Char) (fuel : Nat) :
    expressionList parent close (fuel + 1) =
      (expression parent fuel >>= fun _ => listTail parent close fuel) :=
  rfl

/-- A list read after blanks is read alike from before them. -/
theorem expressionList_skipBlanks {parent : List String} {close : Option Char} {fuel : Nat}
    {r r' : Reading} :
    (expressionList parent close fuel).run { r with cursor := r.cursor.skipBlanks } = .ok ((), r') ↔
      (expressionList parent close fuel).run r = .ok ((), r') := by
  match fuel with
  | 0 => simp [expressionList]
  | 1 =>
    simp only [expressionList_eq_listTail, run_bind_eq_ok, expression, run_failUnexpected,
      reduceCtorEq, false_and, exists_false]
  | fuel + 2 =>
    rw [expressionList_eq_listTail, StateT.run_bind, StateT.run_bind, expression_skipBlanks]

theorem listTail_mono {fuel fuel' : Nat} {parent : List String} {close : Option Char}
    {r r' : Reading} (more : fuel ≤ fuel') (h : (listTail parent close fuel).run r = .ok ((), r')) :
    (listTail parent close fuel').run r = .ok ((), r') := by
  simp only [listTail, run_peek_bind] at h ⊢
  split at h
  · simp only [run_bump_bind] at h ⊢
    exact expressionList_mono more h
  · exact h
  · exact h

/-- The end of a list read from one text and related trees is read alike, wherever the readings
stand in it. -/
theorem listTail_along (keeps : Keeps R base) {parent : List String} (below : base <+: parent)
    {close : Option Char} {fuel : Nat} {r₁ r₂ r₁' : Reading} (same : r₁.cursor.rest = r₂.cursor.rest)
    (rel : R r₁.tree r₂.tree) (h : (listTail parent close fuel).run r₁ = .ok ((), r₁')) :
    ∃ r₂', (listTail parent close fuel).run r₂ = .ok ((), r₂') ∧
      r₂'.cursor.rest = r₁'.cursor.rest ∧ R r₁'.tree r₂'.tree := by
  simp only [listTail, run_peek_bind] at h ⊢
  rw [← same]
  split at h
  · simp only [run_bump_bind] at h ⊢
    obtain ⟨r₂', ran, along⟩ := expressionList_along keeps (Tails.refl (by simp)) fuel below
      (show Along R [] [] { r₁ with cursor := r₁.cursor.skipBlanks.bump }
          { r₂ with cursor := r₂.cursor.skipBlanks.bump } from
        ⟨⟨_, (List.append_nil _).symm, by simp [same]⟩, rel⟩) h List.nil_suffix
    obtain ⟨C, here₁, here₂⟩ := along.text
    exact ⟨r₂', ran, by rw [here₁, here₂], along.tree⟩
  · split at h
    · rename_i closes
      simp only [closes, if_true]
      simp only [run_bump, Except.ok.injEq, Prod.mk.injEq] at h
      obtain ⟨-, rfl⟩ := h
      exact ⟨_, rfl, by simp [same], rel⟩
    · simp only [run_failUnexpected, reduceCtorEq] at h
  · split at h
    · simp only [run_pure, Except.ok.injEq, Prod.mk.injEq] at h
      obtain ⟨-, rfl⟩ := h
      exact ⟨_, rfl, by simp [same], rel⟩
    · simp only [run_failUnexpected, reduceCtorEq] at h

/-- A list read to its end is its first expression, then the rest. -/
theorem expressionList_parts {parent : List String} {close : Option Char} {fuel : Nat}
    {r r' : Reading} (h : (expressionList parent close fuel).run r = .ok ((), r')) :
    ∃ f rm, fuel = f + 1 ∧ (expression parent f).run r = .ok ((), rm) ∧
      (listTail parent close f).run rm = .ok ((), r') := by
  cases fuel with
  | zero => simp only [expressionList, run_failUnexpected, reduceCtorEq] at h
  | succ f =>
    rw [expressionList_eq_listTail, run_bind_eq_ok] at h
    obtain ⟨⟨⟩, rm, first, rest⟩ := h
    exact ⟨f, rm, rfl, first, rest⟩

theorem expressionList_of_parts {parent : List String} {close : Option Char} {f₁ f₂ : Nat}
    {r rm r' : Reading} (first : (expression parent f₁).run r = .ok ((), rm))
    (rest : (listTail parent close f₂).run rm = .ok ((), r')) :
    (expressionList parent close (max f₁ f₂ + 1)).run r = .ok ((), r') := by
  rw [expressionList_eq_listTail, run_bind_of_ok (expression_mono (le_max_left _ _) first)]
  exact listTail_mono (le_max_right _ _) rest

/-- An expression that is no negation, read to its end, is its head, then the nested part. -/
theorem expression_parts {parent : List String} {fuel : Nat} {r r' : Reading}
    (notMinus : (Text.dropBlanks r.cursor.rest).head? ≠ some '-')
    (h : (expression parent fuel).run r = .ok ((), r')) :
    ∃ f node fields rm, fuel = f + 1 ∧ (head parent).run r = .ok ((node, fields), rm) ∧
      (attach node fields f).run rm = .ok ((), r') := by
  cases fuel with
  | zero => simp only [expression, run_failUnexpected, reduceCtorEq] at h
  | succ f =>
    rw [expression_eq_head parent f notMinus, run_bind_eq_ok] at h
    obtain ⟨⟨node, fields⟩, rm, first, rest⟩ := h
    exact ⟨f, node, fields, rm, rfl, first, rest⟩

theorem expression_of_parts {parent node : List String} {fields : List Field} {fuel : Nat}
    {r rm r' : Reading} (notMinus : (Text.dropBlanks r.cursor.rest).head? ≠ some '-')
    (first : (head parent).run r = .ok ((node, fields), rm))
    (rest : (attach node fields fuel).run rm = .ok ((), r')) :
    (expression parent (fuel + 1)).run r = .ok ((), r') := by
  rw [expression_eq_head parent fuel notMinus, run_bind_of_ok first]
  exact rest

/-- Past an opening bracket whose nested part is not empty, attaching reads the nested list into
each field, from right after the bracket. -/
theorem attach_nested {node : List String} {fields : List Field} {o c : Char} {W : List Char}
    (pair : BracketPair o c) {r : Reading} (opened : Text.dropBlanks r.cursor.rest = o :: W)
    (full : (Text.dropBlanks W).head? ≠ some c) (fuel : Nat) :
    (attach node fields (fuel + 1)).run r = (nestedEach node c r.cursor.skipBlanks.bump fields fuel).run
      { r with cursor := r.cursor.skipBlanks.bump.skipBlanks } := by
  have notEmpty : ((Text.dropBlanks W).head? == some c) = false := by
    simpa using full
  simp only [attach, run_peek_bind, opened, List.head?_cons, closer_of_pair pair, run_bump_bind,
    run_get_bind, Cursor.bump_rest, Cursor.skipBlanks_rest, List.tail_cons, notEmpty,
    Bool.false_eq_true, if_false]

/-- A head answers at least one field. -/
theorem head_nonEmpty {parent node : List String} {fields : List Field} {r r' : Reading}
    (h : (head parent).run r = .ok ((node, fields), r')) : fields ≠ [] := by
  simp only [head, run_peek_bind] at h
  split at h
  · simp only [run_bump_bind, run_get_bind] at h
    rw [run_bind_eq_ok] at h
    obtain ⟨fields', ra, ranFields, h⟩ := h
    simp only [run_pure, Except.ok.injEq, Prod.mk.injEq] at h
    obtain ⟨⟨-, rfl⟩, -⟩ := h
    obtain ⟨_, _, separated, -, -, count⟩ := fieldList_sound (by simp) ranFields
    rintro rfl
    exact separated.ne_nil (List.length_eq_zero_iff.1 (by simpa using count.symm))
  · rw [run_bind_eq_ok] at h
    obtain ⟨steps, ra, -, h⟩ := h
    split at h
    · simp only [run_failUnexpected, reduceCtorEq] at h
    · obtain ⟨_, tree, h⟩ := (treeOnly_stepsBefore _ _).run_bind_eq_ok h
      simp only [run_pure, Except.ok.injEq, Prod.mk.injEq] at h
      rw [← h.1.2]
      exact List.cons_ne_nil _ _

/-! ## 3. Swapping the start of a list -/

/-- `y` may stand for `x` at the start of an expression list, the trees related by `R`: a list
read from a text that starts with `x` and goes on with anything that may follow an expression is
read alike from the text with `y` in its place, to the same end. -/
def Swap (R : Draft → Draft → Prop) (x y : List Char) : Prop :=
  ∀ (fuel : Nat) {parent : List String} {close : Option Char} {T : List Char}
    {r₁ r₂ r₁' : Reading}, (∀ k ∈ close, k = ']' ∨ k = '}') → Follows T →
    r₁.cursor.rest = Text.dropBlanks (x ++ T) → r₂.cursor.rest = Text.dropBlanks (y ++ T) →
    R r₁.tree r₂.tree → (expressionList parent close fuel).run r₁ = .ok ((), r₁') →
    ∃ fuel' r₂', (expressionList parent close fuel').run r₂ = .ok ((), r₂') ∧
      r₂'.cursor.rest = r₁'.cursor.rest ∧ R r₁'.tree r₂'.tree

namespace Swap

variable {x y : List Char}

/-- A swap holds for readings that have blanks still to skip. -/
theorem run (swap : Swap R x y) {fuel : Nat} {parent : List String} {close : Option Char}
    {T : List Char} {r₁ r₂ r₁' : Reading} (closing : ∀ k ∈ close, k = ']' ∨ k = '}')
    (follows : Follows T) (here₁ : Text.dropBlanks r₁.cursor.rest = Text.dropBlanks (x ++ T))
    (here₂ : Text.dropBlanks r₂.cursor.rest = Text.dropBlanks (y ++ T)) (rel : R r₁.tree r₂.tree)
    (h : (expressionList parent close fuel).run r₁ = .ok ((), r₁')) :
    ∃ fuel' r₂', (expressionList parent close fuel').run r₂ = .ok ((), r₂') ∧
      r₂'.cursor.rest = r₁'.cursor.rest ∧ R r₁'.tree r₂'.tree := by
  obtain ⟨fuel', r₂', ran, same, rel'⟩ := swap fuel closing follows
    (show ({ r₁ with cursor := r₁.cursor.skipBlanks } : Reading).cursor.rest = _ from here₁)
    (show ({ r₂ with cursor := r₂.cursor.skipBlanks } : Reading).cursor.rest = _ from here₂) rel
    (expressionList_skipBlanks.2 h)
  exact ⟨fuel', r₂', expressionList_skipBlanks.1 ran, same, rel'⟩

end Swap

/-- A nested list that starts with `x` is read into each field alike when `y` stands in its
place. -/
theorem nestedEach_swap (keeps : Keeps R []) {x y : List Char} (swap : Swap R x y)
    {T : List Char} (follows : Follows T) {close : Char} (closing : close = ']' ∨ close = '}')
    {start₁ start₂ : Cursor} (here₁ : start₁.rest = x ++ T) (here₂ : start₂.rest = y ++ T) :
    ∀ (fields : List Field) (fuel : Nat) {parent : List String} {r₁ r₂ r₁' : Reading},
      fields ≠ [] → R r₁.tree r₂.tree →
      (nestedEach parent close start₁ fields fuel).run r₁ = .ok ((), r₁') →
      ∃ fuel' r₂', (nestedEach parent close start₂ fields fuel').run r₂ = .ok ((), r₂') ∧
        r₂'.cursor.rest = r₁'.cursor.rest ∧ R r₁'.tree r₂'.tree
  | [], _, _, _, _, _, nonEmpty, _, _ => absurd rfl nonEmpty
  | _ :: _, 0, _, _, _, _, _, _, h => by
    simp only [nestedEach, run_failUnexpected, reduceCtorEq] at h
  | f :: more, fuel + 1, parent, r₁, r₂, r₁', _, rel, h => by
    simp only [nestedEach] at h
    obtain ⟨node, t₁, t₂, -, ran₁, ran₂, rel₁⟩ :=
      (kept_addChild keeps List.nil_prefix f.matcher {}).run_bind r₁ r₂ rel
    rw [ran₁] at h
    simp only [run_modify_bind] at h
    obtain ⟨_, t₁', t₂', -, ranB₁, ranB₂, rel₂⟩ := (kept_brace keeps (List.nil_prefix (l := node))).run_bind
      { cursor := start₁, tree := t₁ } { cursor := start₂, tree := t₂ } rel₁
    rw [ranB₁] at h
    rw [run_bind_eq_ok] at h
    obtain ⟨⟨⟩, rb, ranList, h⟩ := h
    obtain ⟨fuelB, rb₂, ranList₂, sameB, relB⟩ :=
      swap.run (fun k same => by cases same; exact closing) follows
        (show Text.dropBlanks ({ cursor := start₁, tree := t₁' } : Reading).cursor.rest = _ by
          rw [here₁])
        (show Text.dropBlanks ({ cursor := start₂, tree := t₂' } : Reading).cursor.rest = _ by
          rw [here₂])
        rel₂ ranList
    cases more with
    | nil =>
      simp only [nestedEach, run_pure, Except.ok.injEq, Prod.mk.injEq] at h
      obtain ⟨-, rfl⟩ := h
      refine ⟨fuelB + 1, rb₂, ?_, sameB, relB⟩
      simp only [nestedEach]
      rw [ran₂]
      simp only [run_modify_bind]
      rw [ranB₂, run_bind_of_ok ranList₂]
      rfl
    | cons g more =>
      obtain ⟨fuelC, rc₂, ranMore₂, sameC, relC⟩ :=
        nestedEach_swap keeps swap follows closing here₁ here₂ (g :: more) fuel
          (List.cons_ne_nil _ _) relB h
      refine ⟨max fuelB fuelC + 1, rc₂, ?_, sameC, relC⟩
      simp only [nestedEach]
      rw [ran₂]
      simp only [run_modify_bind]
      rw [ranB₂, run_bind_of_ok (expressionList_mono (le_max_left _ _) ranList₂)]
      exact nestedEach_mono (le_max_right _ _) ranMore₂

namespace Swap

variable {x y : List Char}

/-- A swap after an expression and its comma: the expression is read alike before either, and
the list goes on past the comma with `x` or `y`. -/
theorem next (keeps : Keeps R []) (swap : Swap R x y) {e r : List Char} (expr : Expr e r)
    (comma : Punct ',' r []) : Swap R (e ++ x) (e ++ y) := by
  intro fuel parent close T r₁ r₂ r₁' closing follows here₁ here₂ rel h
  obtain ⟨E, rfl⟩ : ∃ E, e = E ++ [','] := by
    obtain ⟨P, joined⟩ := expr.suffix
    obtain ⟨bl, -, rfl⟩ := comma
    exact ⟨P ++ bl, by rw [← joined]; simp⟩
  have tails : Tails (',' :: (x ++ T)) (',' :: (y ++ T)) := ⟨rfl, by simp; decide⟩
  simp only [List.append_assoc, List.cons_append, List.nil_append] at here₁ here₂
  rw [dropBlanks_append_solid tails.solid] at here₁
  rw [dropBlanks_append_solid tails.solid₂] at here₂
  obtain ⟨f, ra, rfl, ranExpr, ranTail⟩ := expressionList_parts h
  have ends : Text.dropBlanks ra.cursor.rest = ',' :: (x ++ T) := by
    have derived : Expr r₁.cursor.rest (r ++ (x ++ T)) := by
      have whole := (expr.append comma.ne_nil (x ++ T)).dropBlanks
      rw [List.append_assoc, List.singleton_append, dropBlanks_append_solid tails.solid] at whole
      rwa [here₁]
    have commaNext : Text.dropBlanks (r ++ (x ++ T)) = ',' :: (x ++ T) :=
      (punct_iff (by decide)).1 (comma.append (x ++ T))
    have follows' : Follows (r ++ (x ++ T)) := fun k first => by
      rw [commaNext] at first
      exact .inl (Option.some.inj first).symm
    obtain ⟨rc, ranC, endsC⟩ := expression_complete (4 * r₁.cursor.rest.length + 2) derived follows'
      le_rfl
    have same := (expression_mono (le_max_left f _) ranExpr).symm.trans
      (expression_mono (le_max_right _ _) ranC)
    simp only [Except.ok.injEq, Prod.mk.injEq, true_and] at same
    rw [same, endsC, commaNext]
  have stops : (',' :: (x ++ T)) <:+ ra.cursor.rest := by
    rw [← ends]
    exact List.dropWhile_suffix _
  obtain ⟨rb, ranExpr₂, alongB⟩ := expression_along keeps tails f List.nil_prefix
    (show Along R _ _ r₁ r₂ from ⟨⟨_, here₁, here₂⟩, rel⟩) ranExpr stops
  have ends₂ := alongB.text.dropBlanks_eq tails ends
  simp only [listTail, run_peek_bind, ends, List.head?_cons, run_bump_bind] at ranTail
  obtain ⟨fuelB, r₂', ranRest₂, sameB, relB⟩ := swap.run closing follows
    (show Text.dropBlanks ({ ra with cursor := ra.cursor.skipBlanks.bump } : Reading).cursor.rest = _ by
      simp [ends])
    (show Text.dropBlanks ({ rb with cursor := rb.cursor.skipBlanks.bump } : Reading).cursor.rest = _ by
      simp [ends₂])
    alongB.tree ranTail
  have ranTail₂ : (listTail parent close fuelB).run rb = .ok ((), r₂') := by
    simp only [listTail, run_peek_bind, ends₂, List.head?_cons, run_bump_bind]
    exact ranRest₂
  exact ⟨_, r₂', expressionList_of_parts ranExpr₂ ranTail₂, sameB, relB⟩

/-- A swap first inside a nested part: the head is read alike before either, and the nested
list, read once for each of its fields, starts with `x` or `y`. -/
theorem into (keeps : Keeps R []) (swap : Swap R x y) (opensX : Opens x) (opensY : Opens y)
    {h r : List Char} {o c : Char} (hd : Head h r) (pair : BracketPair o c) (opened : Punct o r []) :
    Swap R (h ++ x) (h ++ y) := by
  intro fuel parent close T r₁ r₂ r₁' closing follows here₁ here₂ rel ran
  obtain ⟨H, rfl⟩ : ∃ H, h = H ++ [o] := by
    obtain ⟨P, joined⟩ := hd.suffix
    obtain ⟨bl, -, rfl⟩ := opened
    exact ⟨P ++ bl, by rw [← joined]; simp⟩
  have plain := pair.plain.1
  have tails : Tails (o :: (x ++ T)) (o :: (y ++ T)) := ⟨rfl, by simpa using plain⟩
  have derived : Head r₁.cursor.rest (r ++ (x ++ T)) := by
    rw [here₁, List.append_assoc]
    exact (hd.append opened.ne_nil (x ++ T)).dropBlanks
  simp only [List.append_assoc, List.cons_append, List.nil_append] at here₁ here₂
  rw [dropBlanks_append_solid tails.solid] at here₁
  rw [dropBlanks_append_solid tails.solid₂] at here₂
  have along : Along R _ _ r₁ r₂ := ⟨⟨_, here₁, here₂⟩, rel⟩
  have notMinus := derived.not_minus
  have notMinus₂ : (Text.dropBlanks r₂.cursor.rest).head? ≠ some '-' := by
    rw [along.text.peek tails]
    exact notMinus
  obtain ⟨f, ra, rfl, ranExpr, ranTail⟩ := expressionList_parts ran
  obtain ⟨g, node, fields, rb, rfl, ranHead, ranAttach⟩ := expression_parts notMinus ranExpr
  have bracketNext : Text.dropBlanks (r ++ (x ++ T)) = o :: (x ++ T) :=
    (punct_iff plain).1 (opened.append (x ++ T))
  have opened₁ : Text.dropBlanks rb.cursor.rest = o :: (x ++ T) := by
    obtain ⟨node', fields', rb', ranHead', endsHead⟩ :=
      head_complete parent derived (by rw [bracketNext]; rcases pair with ⟨rfl, -⟩ | ⟨rfl, -⟩ <;> simp)
    rw [ranHead] at ranHead'
    simp only [Except.ok.injEq, Prod.mk.injEq] at ranHead'
    rw [ranHead'.2, endsHead, bracketNext]
  obtain ⟨fields₂, rb₂, ranHead₂, sameFields, -, alongB⟩ := head_along keeps tails List.nil_prefix
    along ranHead (by rw [← opened₁]; exact List.dropWhile_suffix _)
  have opened₂ := alongB.text.dropBlanks_eq tails opened₁
  have full : ∀ {z : List Char}, Opens z → (Text.dropBlanks (z ++ T)).head? ≠ some c := by
    intro z opens
    obtain ⟨k, more, first, notClose⟩ := opens.append T
    rw [first]
    rintro ⟨⟩
    rcases pair.closing with rfl | rfl
    · exact notClose.1 rfl
    · exact notClose.2 rfl
  cases g with
  | zero => simp only [attach, run_failUnexpected, reduceCtorEq] at ranAttach
  | succ g =>
    rw [attach_nested pair opened₁ (full opensX)] at ranAttach
    obtain ⟨fuelB, rc₂, ranNested₂, sameB, relB⟩ :=
      nestedEach_swap keeps swap follows pair.closing
        (show rb.cursor.skipBlanks.bump.rest = x ++ T by simp [opened₁])
        (show rb₂.cursor.skipBlanks.bump.rest = y ++ T by simp [opened₂]) fields g
        (head_nonEmpty ranHead)
        (show R ({ rb with cursor := rb.cursor.skipBlanks.bump.skipBlanks } : Reading).tree
          ({ rb₂ with cursor := rb₂.cursor.skipBlanks.bump.skipBlanks } : Reading).tree from
          alongB.tree) ranAttach
    have ranAttach₂ : (attach node fields₂ (fuelB + 1)).run rb₂ = .ok ((), rc₂) := by
      rw [← attach_congr sameFields, attach_nested pair opened₂ (full opensY)]
      exact ranNested₂
    obtain ⟨r₂', ranTail₂, same, rel'⟩ :=
      listTail_along keeps List.nil_prefix sameB.symm relB ranTail
    exact ⟨_, r₂', expressionList_of_parts (expression_of_parts notMinus₂ ranHead₂ ranAttach₂)
      ranTail₂, same, rel'⟩

/-- Blanks before a swap change nothing. -/
theorem blank (swap : Swap R x y) {b : Char} (isBlank : Text.isBlank b = true) :
    Swap R (b :: x) (b :: y) := by
  intro fuel parent close T r₁ r₂ r₁' closing follows here₁ here₂ rel h
  have skip : ∀ z : List Char, Text.dropBlanks (b :: z) = Text.dropBlanks z := fun z =>
    List.dropWhile_cons_of_pos (by simp [isBlank])
  rw [List.cons_append, skip] at here₁ here₂
  exact swap fuel closing follows here₁ here₂ rel h

/-- A swap at the start of a list is one at every place of an expression. -/
theorem at_place (keeps : Keeps R []) {pre : List Char} (place : Opening pre) :
    ∀ {x y : List Char}, Swap R x y → Opens x → Opens y → Swap R (pre ++ x) (pre ++ y) := by
  induction place with
  | start =>
    intro x y swap _ _
    simpa using swap
  | next _ expr comma ih =>
    intro x y swap _ _
    simpa using ih (swap.next keeps expr comma) (expr.opens.append x) (expr.opens.append y)
  | into _ hd pair opened ih =>
    intro x y swap opensX opensY
    have opensH := hd.opens opened.ne_nil
    simpa using ih (swap.into keeps opensX opensY hd pair opened) (opensH.append x)
      (opensH.append y)
  | blank _ isBlank ih =>
    intro x y swap opensX opensY
    simpa using ih (swap.blank isBlank) (opensX.blank isBlank) (opensY.blank isBlank)

end Swap

end Reader

/-! ## 4. Whole texts -/

/-- Dropping from the end stops inside the second part when the first ends with a character
that is kept. -/
theorem rdropWhile_append_of_last {p : Char → Bool} {D : List Char} (nonEmpty : D ≠ [])
    (kept : p (D.getLast nonEmpty) = false) :
    ∀ B : List Char, (D ++ B).rdropWhile p = D ++ B.rdropWhile p := by
  intro B
  induction B using List.reverseRecOn with
  | nil =>
    rw [List.append_nil, List.rdropWhile_nil, List.append_nil, List.rdropWhile_eq_self_iff]
    intro _
    simp [kept]
  | append_singleton B b ih =>
    rw [← List.append_assoc, List.rdropWhile_concat, List.rdropWhile_concat, ih]
    split <;> simp

/-- Trimming a text whose first part ends with no blank leaves that part without its leading
blanks, then the second part without its trailing blanks. -/
theorem trimBlanks_append {A : List Char} (nonEmpty : A ≠ [])
    (last : ∀ c ∈ A.getLast?, Text.isBlank c = false) (B : List Char) :
    Text.trimBlanks (A ++ B) = Text.dropBlanks A ++ B.rdropWhile Text.isBlank := by
  obtain ⟨front, b, rfl⟩ : ∃ front b, A = front ++ [b] :=
    ⟨A.dropLast, A.getLast nonEmpty, (List.dropLast_append_getLast nonEmpty).symm⟩
  have plain : Text.isBlank b = false := last b (by simp)
  have skipped : Text.dropBlanks (front ++ [b]) = Text.dropBlanks front ++ [b] ∨
      Text.dropBlanks (front ++ [b]) = [b] := by
    unfold Text.dropBlanks
    rw [List.dropWhile_append]
    split
    · exact .inr (List.dropWhile_cons_of_neg (by simp [plain]))
    · exact .inl rfl
  have solid : Text.dropBlanks (front ++ [b]) ≠ [] := by
    rcases skipped with same | same <;> simp [same]
  have ends : (Text.dropBlanks (front ++ [b])).getLast solid = b := by
    rcases skipped with same | same <;> simp [same]
  have asDrops : ∀ xs : List Char, Text.trimBlanks xs = (Text.dropBlanks xs).rdropWhile Text.isBlank :=
    fun _ => rfl
  rw [asDrops, dropBlanks_append_of_ne_nil solid,
    rdropWhile_append_of_last solid (by rw [ends]; exact plain)]

/-- What may follow an expression still may once its trailing blanks are dropped. -/
theorem Follows.rdropWhile {B : List Char} (follows : Follows B) :
    Follows (B.rdropWhile Text.isBlank) := by
  intro c first
  apply follows c
  obtain ⟨tail, joined⟩ := List.rdropWhile_prefix (p := Text.isBlank) (l := B)
  have solid : Text.dropBlanks (B.rdropWhile Text.isBlank) ≠ [] := by
    intro empty
    rw [empty] at first
    cases first
  rw [← joined, dropBlanks_append_of_ne_nil solid]
  obtain ⟨d, ds, split⟩ := List.exists_cons_of_ne_nil solid
  rw [split] at first ⊢
  exact first

/-- Past blanks, a text ending with one that is not empty is not empty either. -/
theorem dropBlanks_append_ne_nil {B : List Char} (solid : Text.dropBlanks B ≠ []) (A : List Char) :
    Text.dropBlanks (A ++ B) ≠ [] := by
  unfold Text.dropBlanks at solid ⊢
  rw [List.dropWhile_append]
  split
  · exact solid
  · rename_i notEmpty
    intro empty
    exact notEmpty (by simp [(List.append_eq_nil_iff.1 empty).1])

namespace Reader

/-- A list read at two fuels is read alike. -/
theorem expressionList_unique {fuel₁ fuel₂ : Nat} {parent : List String} {close : Option Char}
    {r r₁ r₂ : Reading} (h₁ : (expressionList parent close fuel₁).run r = .ok ((), r₁))
    (h₂ : (expressionList parent close fuel₂).run r = .ok ((), r₂)) : r₁ = r₂ := by
  have same := (expressionList_mono (le_max_left fuel₁ fuel₂) h₁).symm.trans
    (expressionList_mono (le_max_right _ _) h₂)
  simpa using same

/-- A whole text read at some fuel is read alike at the fuel it is given. -/
theorem expressionList_given {cs : List Char} {fuel : Nat} {r' : Reading}
    (h : (expressionList [] none fuel).run ⟨⟨cs, 0⟩, Draft.root⟩ = .ok ((), r')) :
    (expressionList [] none (4 * cs.length + 8)).run ⟨⟨cs, 0⟩, Draft.root⟩ = .ok ((), r') := by
  obtain ⟨rest, list, ends⟩ := expressionList_sound fuel h
  obtain ⟨r'', ran, -⟩ := expressionList_complete (4 * cs.length + 8) []
    (r := ⟨⟨cs, 0⟩, Draft.root⟩) list ends (by simp) (by simp)
  rw [ran, expressionList_unique ran h]

end Reader

/-- A text that does not trim to nothing compiles to the tree its list is read into. -/
theorem parse_eq_ok_iff {text : String} (nonEmpty : Text.trimBlanks text.toList ≠ [])
    {ns : List Node} :
    parse text = .ok ns ↔
      ∃ r', (Reader.expressionList [] none (4 * (Text.trimBlanks text.toList).length + 8)).run
          ⟨⟨Text.trimBlanks text.toList, 0⟩, Draft.root⟩ = .ok ((), r') ∧
        r'.tree.withBaseFallback.compile = ns := by
  simp only [parse, List.isEmpty_iff, nonEmpty, if_false, parseTrimmed]
  cases ran : (Reader.expressionList [] none (4 * (Text.trimBlanks text.toList).length + 8)).run
      ⟨⟨Text.trimBlanks text.toList, 0⟩, Draft.root⟩ with
  | error e => simp [Bind.bind, Except.bind]
  | ok result =>
    obtain ⟨⟨⟩, r'⟩ := result
    simp [Bind.bind, Except.bind, pure, Except.pure]

/-- What the text with `x` at a place compiles to, the text with `y` there compiles to, up to
`S`, when `y` may stand for `x` at the start of a list with trees related by `R`, and `S`
relates what related trees compile to. -/
theorem parse_of_swap {R : Draft → Draft → Prop} {S : List Node → List Node → Prop}
    (keeps : Keeps R []) (root : R Draft.root Draft.root)
    (compiles : ∀ t₁ t₂, R t₁ t₂ → S t₁.withBaseFallback.compile t₂.withBaseFallback.compile)
    {pre post x y : List Char} (place : Opening pre) (follows : Follows post)
    (swap : Reader.Swap R x y) (opensX : Opens x) (opensY : Opens y)
    (lastX : ∀ c ∈ x.getLast?, Text.isBlank c = false)
    (lastY : ∀ c ∈ y.getLast?, Text.isBlank c = false) {ns : List Node}
    (compiled : parse (String.ofList (pre ++ x ++ post)) = .ok ns) :
    ∃ ns', parse (String.ofList (pre ++ y ++ post)) = .ok ns' ∧ S ns ns' := by
  have swapped := Reader.Swap.at_place keeps place swap opensX opensY
  have trims : ∀ {z : List Char}, Opens z → (∀ c ∈ z.getLast?, Text.isBlank c = false) →
      Text.trimBlanks (pre ++ z ++ post) ≠ [] ∧
      Text.dropBlanks (Text.trimBlanks (pre ++ z ++ post)) =
        Text.dropBlanks (pre ++ z ++ post.rdropWhile Text.isBlank) := by
    intro z opens last
    obtain ⟨k, more, first, -⟩ := opens
    have filled : Text.dropBlanks (pre ++ z) ≠ [] := dropBlanks_append_ne_nil (by simp [first]) pre
    have nonEmpty : pre ++ z ≠ [] := fun empty => filled (by rw [empty]; rfl)
    have lastFilled : ∀ c ∈ (pre ++ z).getLast?, Text.isBlank c = false := by
      rwa [List.getLast?_append_of_ne_nil _ (fun empty => by simp [empty, Text.dropBlanks] at first)]
    rw [trimBlanks_append nonEmpty lastFilled, dropBlanks_append_of_ne_nil filled,
      dropBlanks_append_of_ne_nil (x := Text.dropBlanks (pre ++ z)) (by rwa [dropBlanks_dropBlanks]),
      dropBlanks_dropBlanks]
    exact ⟨by simp [filled], rfl⟩
  obtain ⟨nonEmpty₁, text₁⟩ := trims opensX lastX
  obtain ⟨nonEmpty₂, text₂⟩ := trims opensY lastY
  obtain ⟨r₁', ran₁, rfl⟩ := (parse_eq_ok_iff (by simpa using nonEmpty₁)).1 compiled
  obtain ⟨fuel₂, r₂', ran₂, -, rel⟩ := swapped.run (by simp) follows.rdropWhile
    (by simpa using text₁)
    (show Text.dropBlanks (⟨⟨Text.trimBlanks (String.ofList (pre ++ y ++ post)).toList, 0⟩,
      Draft.root⟩ : Reading).cursor.rest = _ by simpa using text₂) root ran₁
  refine ⟨r₂'.tree.withBaseFallback.compile, (parse_eq_ok_iff (by simpa using nonEmpty₂)).2
    ⟨r₂', ?_, rfl⟩, compiles _ _ rel⟩
  simpa using Reader.expressionList_given ran₂

end FieldSelection.Selection

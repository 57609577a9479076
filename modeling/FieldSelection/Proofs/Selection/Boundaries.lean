import FieldSelection.Proofs.Selection.Fuel
import FieldSelection.Proofs.Selection.Siblings
import FieldSelection.Cli.Program
/-!
# Reading stays in bounds

The reader keeps its place in the trimmed expression twice: as the characters still unread and
as a byte offset. Every move keeps the two in step: past blanks, past one character, past a
name, past a regular expression with its delimiters and flags, and back to the start of a
nested list for the next field of a field list. So the offset is always the byte length of the
characters already read (`Cursor.Fits`), a boundary between two characters. Every fault is
reported at such an offset: where the reader stands, where the field it just read starts, or
past the letters `i` before an unknown flag of a regular expression
(`Reader.expressionList_lands`).

So the caret under a refused expression is exact. Decoding the bytes before the offset gives
the characters before the fault, and the caret stands under the first character not accepted
(`describeSelectionError_caret`).
-/

namespace FieldSelection

namespace Selection

/-- A byte offset of `t` between two of its characters or at either end: the length in bytes of
its first `k` characters. -/
def Boundary (t : List Char) (p : Nat) : Prop :=
  ∃ k ≤ t.length, p = Text.utf8Length (t.take k)

/-- Characters that are all one ASCII character take a byte each. -/
theorem utf8Length_of_forall_eq {ch : Char} (single : ch.utf8Size = 1) :
    ∀ {cs : List Char}, (∀ x ∈ cs, x = ch) → Text.utf8Length cs = cs.length
  | [], _ => rfl
  | x :: cs, all => by
    have rest := utf8Length_of_forall_eq single fun y mem => all y (List.mem_cons_of_mem x mem)
    rw [Text.utf8Length_cons, rest, all x List.mem_cons_self, Text.utf8Width, single,
      List.length_cons, Nat.add_comm]

namespace Cursor

/-- The cursor stands at a character boundary of `t`, with the rest of `t` unread. -/
def Fits (t : List Char) (c : Cursor) : Prop :=
  ∃ k ≤ t.length, c.rest = t.drop k ∧ c.pos = Text.utf8Length (t.take k)

theorem fits_start (t : List Char) : Fits t ⟨t, 0⟩ := ⟨0, Nat.zero_le _, rfl, rfl⟩

variable {t : List Char} {c : Cursor}

theorem Fits.boundary (fits : c.Fits t) : Boundary t c.pos := by
  obtain ⟨k, within, -, pos⟩ := fits
  exact ⟨k, within, pos⟩

/-- Moving past characters ahead keeps the cursor at a boundary. -/
theorem Fits.advance (fits : c.Fits t) {cs : List Char} (ahead : cs <+: c.rest) :
    (c.advance cs).Fits t := by
  obtain ⟨k, within, rest, pos⟩ := fits
  have room : cs.length ≤ t.length - k := by
    simpa [rest] using ahead.length_le
  have taken : cs = (t.drop k).take cs.length := by
    rw [← rest]
    exact List.prefix_iff_eq_take.1 ahead
  refine ⟨k + cs.length, by omega, ?_, ?_⟩
  · rw [advance_rest, rest, List.drop_drop]
  · show c.pos + Text.utf8Length cs = _
    rw [pos, List.take_add, Text.utf8Length_append, ← taken]

theorem skipBlanks_eq_advance (c : Cursor) :
    c.skipBlanks = c.advance (c.rest.takeWhile Text.isBlank) := by
  simp only [skipBlanks, advance, Reader.drop_takeWhile_length]
  rfl

theorem Fits.skipBlanks (fits : c.Fits t) : c.skipBlanks.Fits t := by
  rw [skipBlanks_eq_advance]
  exact fits.advance (List.takeWhile_prefix _)

theorem bump_eq_advance (c : Cursor) : c.bump = c.advance (c.rest.take 1) := by
  obtain ⟨rest, pos⟩ := c
  cases rest with
  | nil => rfl
  | cons ch rest => simp [bump, advance, Text.utf8Width]

theorem Fits.bump (fits : c.Fits t) : c.bump.Fits t := by
  rw [bump_eq_advance]
  exact fits.advance (List.take_prefix _ _)

end Cursor

namespace Reader

/-- An outcome of reading `t` that lands on boundaries: a fault at a boundary of `t`, or a result
satisfying `post` with the cursor at a boundary. -/
def Lands {α : Type} (t : List Char) (post : α → Prop)
    (out : Except SelectionError (α × Reading)) : Prop :=
  (∀ a r', out = .ok (a, r') → post a ∧ r'.cursor.Fits t) ∧
    ∀ e, out = .error e → Boundary t e.position

variable {t : List Char}

theorem lands_ok {α : Type} {post : α → Prop} {a : α} {r : Reading} (holds : post a)
    (fits : r.cursor.Fits t) : Lands t post (.ok (a, r)) :=
  ⟨fun _ _ same => (by cases same; exact ⟨holds, fits⟩), fun _ same => (by cases same)⟩

theorem lands_error {α : Type} {post : α → Prop} {e : SelectionError}
    (boundary : Boundary t e.position) :
    Lands t post (.error e : Except SelectionError (α × Reading)) :=
  ⟨fun _ _ same => (by cases same), fun _ same => (by cases same; exact boundary)⟩

/-- A fault where the next character is not what was expected stands where the reader is. -/
theorem lands_failUnexpected {α : Type} {post : α → Prop} {r : Reading} (fits : r.cursor.Fits t)
    (e : Expectation) : Lands t post ((failUnexpected e : ReadM α).run r) :=
  lands_error fits.boundary

/-- A step that lands on boundaries, followed by steps that land on boundaries after each of its
results, lands on boundaries. -/
theorem Lands.bind {α β : Type} {P : α → Prop} {Q : β → Prop} {m : ReadM α} {f : α → ReadM β}
    {r : Reading} (first : Lands t P (m.run r))
    (rest : ∀ a r₁, m.run r = .ok (a, r₁) → P a → r₁.cursor.Fits t → Lands t Q ((f a).run r₁)) :
    Lands t Q ((m >>= f).run r) := by
  rw [StateT.run_bind]
  cases ran : m.run r with
  | error e => exact lands_error (first.2 e ran)
  | ok result =>
    obtain ⟨a, r₁⟩ := result
    obtain ⟨holds, fits⟩ := first.1 a r₁ ran
    exact rest a r₁ ran holds fits

/-- A step that only builds the tree leaves the cursor to what follows. -/
theorem Lands.treeOnly_bind {α β : Type} {Q : β → Prop} {m : ReadM α} {f : α → ReadM β}
    {r : Reading} (first : TreeOnly m)
    (rest : ∀ a tree, Lands t Q ((f a).run { r with tree := tree })) :
    Lands t Q ((m >>= f).run r) := by
  obtain ⟨a, tree, ran⟩ := first.run_bind f r
  rw [ran]
  exact rest a tree

/-! ## Fields -/

/-- Past the delimiters of a regular expression and the text between them the cursor is at a
boundary. -/
theorem Fits.pastRegex {c : Cursor} (fits : c.Fits t) {d : Char} {raw after : List Char}
    (here : c.rest = d :: (raw ++ d :: after)) :
    (⟨after, c.pos + d.utf8Size + Text.utf8Length raw + d.utf8Size⟩ : Cursor).Fits t := by
  have split : c.rest = d :: (raw ++ [d]) ++ after := by simp [here]
  have past := fits.advance (split ▸ List.prefix_append (d :: (raw ++ [d])) after)
  have moved : c.advance (d :: (raw ++ [d])) =
      ⟨after, c.pos + d.utf8Size + Text.utf8Length raw + d.utf8Size⟩ := by
    simp only [Cursor.advance, split, List.drop_left, Text.utf8Length_cons,
      Text.utf8Length_append, Text.utf8Length_nil, Text.utf8Width]
    congr 1
    omega
  rwa [moved] at past

/-- A regular expression field reports its faults at its start, past its flags or at the
unknown flag, and starts at a boundary. -/
theorem regexField_lands {d : Char} {r : Reading} {body : List Char} (fits : r.cursor.Fits t)
    (here : r.cursor.rest = d :: body) :
    Lands t (fun f => Boundary t f.position) ((regexField d).run r) := by
  unfold regexField
  simp only [run_get_bind, here, List.drop_one, List.tail_cons]
  split
  · rename_i pat raw after found
    obtain ⟨rfl, -⟩ := regexBody_sound found
    have flags := Fits.pastRegex fits here
    simp only [run_set_bind]
    split
    · exact lands_error fits.boundary
    · split
      · have ahead : (flagLetters after).takeWhile (· == 'i') <+: after :=
          (List.takeWhile_prefix _).trans (List.takeWhile_prefix _)
        have single : Text.utf8Length ((flagLetters after).takeWhile (· == 'i')) =
            ((flagLetters after).takeWhile (· == 'i')).length :=
          utf8Length_of_forall_eq (show ('i' : Char).utf8Size = 1 from rfl) fun x mem => by
            simpa using List.all_eq_true.1 List.all_takeWhile x mem
        have past := (flags.advance ahead).boundary
        simp only [Cursor.advance, single] at past
        exact lands_error past
      · simp only [run_modify_bind]
        split
        · exact lands_ok fits.boundary (flags.advance (List.takeWhile_prefix _))
        · exact lands_error fits.boundary
  · exact lands_error fits.boundary

/-- A field reports its faults at a boundary, starts at one and ends at one. -/
theorem field_lands {r : Reading} (fits : r.cursor.Fits t) :
    Lands t (fun f => Boundary t f.position) (field.run r) := by
  have skipped := fits.skipBlanks
  simp only [field, run_modify_bind, run_get_bind]
  split
  · rename_i first
    obtain ⟨body, here⟩ := List.head?_eq_some_iff.1 first
    exact regexField_lands skipped here
  · rename_i first
    obtain ⟨body, here⟩ := List.head?_eq_some_iff.1 first
    exact regexField_lands skipped here
  · split
    · simp only [run_set_bind]
      split
      · exact lands_ok skipped.boundary (skipped.advance (List.takeWhile_prefix _))
      · exact lands_error skipped.boundary
    · exact lands_failUnexpected skipped _
  · exact lands_failUnexpected skipped _

/-! ## Paths and field lists -/

theorem pathSteps_lands : ∀ (fuel : Nat) (acc : List Field) {r : Reading}, r.cursor.Fits t →
    Lands t (fun _ => True) ((pathSteps fuel acc).run r)
  | 0, _, _, fits => lands_ok trivial fits
  | fuel + 1, acc, r, fits => by
    simp only [pathSteps, run_peek_bind]
    split
    · simp only [run_bump_bind]
      refine Lands.bind (field_lands fits.skipBlanks.bump) fun f r₁ _ start fits₁ => ?_
      split
      · exact lands_error start
      · exact pathSteps_lands fuel (f :: acc) fits₁
    · exact lands_ok trivial fits.skipBlanks

theorem path_lands {r : Reading} (fits : r.cursor.Fits t) :
    Lands t (fun _ => True) (path.run r) := by
  simp only [path]
  refine Lands.bind (field_lands fits) fun first r₁ _ _ fits₁ => ?_
  split
  · simp only [run_peek_bind]
    split
    · exact lands_error fits₁.skipBlanks.boundary
    · exact lands_ok trivial fits₁.skipBlanks
  · simp only [run_get_bind]
    exact pathSteps_lands _ _ fits₁

theorem fieldList_lands : ∀ (fuel : Nat) (acc : List Field) {r : Reading}, r.cursor.Fits t →
    Lands t (fun _ => True) ((fieldList fuel acc).run r)
  | 0, _, _, fits => lands_ok trivial fits
  | fuel + 1, acc, r, fits => by
    simp only [fieldList]
    refine Lands.bind (field_lands fits) fun f r₁ _ start fits₁ => ?_
    split
    · exact lands_error start
    · simp only [run_peek_bind]
      split
      · simp only [run_bump_bind]
        exact fieldList_lands fuel (f :: acc) fits₁.skipBlanks.bump
      · exact lands_ok trivial fits₁.skipBlanks.bump
      · exact lands_failUnexpected fits₁.skipBlanks _

/-- A negated path reports a negated any-deep token where the minus was read, and brackets
after it where they stand. -/
theorem negated_lands (parent : List String) {r : Reading} (fits : r.cursor.Fits t) :
    Lands t (fun _ => True) ((negated parent).run r) := by
  simp only [negated, run_pos_bind]
  refine Lands.bind (path_lands fits) fun steps r₁ _ _ fits₁ => ?_
  split
  · exact lands_error fits.boundary
  · split
    · refine Lands.treeOnly_bind (treeOnly_addChild _ _ _) fun _ tree => ?_
      simp only [run_peek_bind]
      split
      · exact lands_error fits₁.skipBlanks.boundary
      · exact lands_error fits₁.skipBlanks.boundary
      · exact lands_ok trivial fits₁.skipBlanks
    · refine Lands.treeOnly_bind (treeOnly_negatedSteps _ _) fun _ tree => ?_
      simp only [run_peek_bind]
      split
      · exact lands_error fits₁.skipBlanks.boundary
      · exact lands_error fits₁.skipBlanks.boundary
      · exact lands_ok trivial fits₁.skipBlanks

/-! ## Expressions -/

mutual

theorem expressionList_lands : ∀ (fuel : Nat) {parent : List String} {close : Option Char}
    {r : Reading}, r.cursor.Fits t →
    Lands t (fun _ => True) ((expressionList parent close fuel).run r)
  | 0, _, _, _, fits => lands_failUnexpected fits _
  | fuel + 1, parent, close, r, fits => by
    simp only [expressionList]
    refine Lands.bind (expression_lands fuel fits) fun _ r₁ _ _ fits₁ => ?_
    simp only [run_peek_bind]
    split
    · simp only [run_bump_bind]
      exact expressionList_lands fuel fits₁.skipBlanks.bump
    · split
      · exact lands_ok trivial fits₁.skipBlanks.bump
      · exact lands_failUnexpected fits₁.skipBlanks _
    · split
      · exact lands_ok trivial fits₁.skipBlanks
      · exact lands_failUnexpected fits₁.skipBlanks _

/-- Reading an expression from a cursor within the text stays within it, ending or failing. -/
theorem expression_lands : ∀ (fuel : Nat) {parent : List String} {r : Reading},
    r.cursor.Fits t → Lands t (fun _ => True) ((expression parent fuel).run r)
  | 0, _, _, fits => lands_failUnexpected fits _
  | fuel + 1, parent, r, fits => by
    simp only [expression, run_peek_bind]
    split
    · simp only [run_bump_bind]
      exact negated_lands parent fits.skipBlanks.bump
    · simp only [run_bump_bind, run_get_bind]
      exact Lands.bind (fieldList_lands _ [] fits.skipBlanks.bump) fun _ _ _ _ fits₁ =>
        attach_lands fuel fits₁
    · refine Lands.bind (path_lands fits.skipBlanks) fun steps r₁ _ _ fits₁ => ?_
      split
      · exact lands_failUnexpected fits₁ _
      · split
        · exact attach_lands fuel fits₁
        · exact Lands.treeOnly_bind (treeOnly_brace _) fun _ tree =>
            Lands.treeOnly_bind (treeOnly_pathPrefix _ _) fun _ tree' => attach_lands fuel fits₁

/-- Attaching what is nested to fields stays within the text, each field reading the nested
list again from just past its bracket. -/
theorem attach_lands : ∀ (fuel : Nat) {parent : List String} {fields : List Field}
    {r : Reading}, r.cursor.Fits t → Lands t (fun _ => True) ((attach parent fields fuel).run r)
  | 0, _, _, _, fits => lands_failUnexpected fits _
  | fuel + 1, parent, fields, r, fits => by
    simp only [attach, run_peek_bind]
    split
    · exact Lands.treeOnly_bind (treeOnly_forIn_addChild _ _ _) fun _ _ =>
        lands_ok trivial fits.skipBlanks
    · simp only [run_bump_bind, run_get_bind, run_peek_bind]
      split
      · exact Lands.treeOnly_bind (treeOnly_forIn_addChild _ _ _) fun _ _ =>
          lands_ok trivial fits.skipBlanks.bump.skipBlanks.bump
      · exact nestedEach_lands fuel fits.skipBlanks.bump fits.skipBlanks.bump.skipBlanks

theorem nestedEach_lands : ∀ (fuel : Nat) {parent : List String} {close : Char} {start : Cursor}
    {fields : List Field} {r : Reading}, start.Fits t → r.cursor.Fits t →
    Lands t (fun _ => True) ((nestedEach parent close start fields fuel).run r)
  | _, _, _, _, [], _, _, fits => by
    simp only [nestedEach]
    exact lands_ok trivial fits
  | 0, _, _, _, _ :: _, _, _, fits => lands_failUnexpected fits _
  | fuel + 1, parent, close, start, f :: more, r, from₀, _ => by
    simp only [nestedEach]
    refine Lands.treeOnly_bind (treeOnly_addChild _ _ _) fun node tree => ?_
    simp only [run_modify_bind]
    refine Lands.treeOnly_bind (treeOnly_brace node) fun _ tree' => ?_
    refine Lands.bind (expressionList_lands fuel from₀) fun _ r₁ _ _ fits₁ => ?_
    exact nestedEach_lands fuel from₀ fits₁

end

end Reader

/-- A fault of compiling a text is a fault of reading its trimmed form, since blank text
compiles. -/
theorem run_of_parse_error {text : String} {e : SelectionError} (refused : parse text = .error e) :
    (Reader.expressionList [] none (4 * (Text.trimBlanks text.toList).length + 8)).run
      ⟨⟨Text.trimBlanks text.toList, 0⟩, Draft.root⟩ = .error e := by
  by_cases blank : Text.trimBlanks text.toList = []
  · simp only [parse, blank, List.isEmpty_nil, if_true, reduceCtorEq] at refused
  · simp only [parse, List.isEmpty_iff, blank, if_false, parseTrimmed] at refused
    cases ran : (Reader.expressionList [] none (4 * (Text.trimBlanks text.toList).length + 8)).run
        ⟨⟨Text.trimBlanks text.toList, 0⟩, Draft.root⟩ with
    | error e' =>
      rw [ran] at refused
      cases refused
      rfl
    | ok result =>
      rw [ran] at refused
      cases refused

/-- Every fault of compiling a text stands at a character boundary of its trimmed form. -/
theorem parse_error_boundary {text : String} {e : SelectionError}
    (refused : parse text = .error e) : Boundary (Text.trimBlanks text.toList) e.position :=
  (Reader.expressionList_lands _ (Cursor.fits_start _)).2 e (run_of_parse_error refused)

/-! ## The caret -/

/-- The byte length of characters is that of the text they make. -/
theorem utf8Length_eq_utf8ByteSize : ∀ cs : List Char,
    Text.utf8Length cs = (String.ofList cs).utf8ByteSize
  | [] => by simp
  | c :: cs => by
    rw [String.ofList_cons, String.utf8ByteSize_append, String.utf8ByteSize_singleton,
      ← utf8Length_eq_utf8ByteSize cs]
    rfl

/-- Decoding the bytes of a text up to a character boundary gives the characters before it. -/
theorem fromUTF8?_extract_take (cs : List Char) (k : Nat) :
    String.fromUTF8? ((String.ofList cs).toUTF8.extract 0 (Text.utf8Length (cs.take k))) =
      some (String.ofList (cs.take k)) := by
  have whole : String.ofList cs = String.ofList (cs.take k) ++ String.ofList (cs.drop k) := by
    rw [← String.ofList_append, List.take_append_drop]
  have size : Text.utf8Length (cs.take k) = (String.ofList (cs.take k)).toByteArray.size := by
    rw [String.size_toByteArray, utf8Length_eq_utf8ByteSize]
  rw [whole, String.toUTF8, String.toByteArray_append, ByteArray.extract_append_eq_left size,
    String.fromUTF8?, dif_pos (String.ofList (cs.take k)).isValidUTF8]
  rfl

/-- The caret under a fault at a character boundary of the trimmed text stands under the first
character not accepted. -/
theorem describeSelectionError_caret {text : String} {e : SelectionError} {k : Nat}
    (within : k ≤ (Text.trimBlanks text.toList).length)
    (boundary : e.position = Text.utf8Length ((Text.trimBlanks text.toList).take k)) :
    Cli.describeSelectionError text e = e.message ++ "\n  " ++ Text.trim text ++ "\n  " ++
      String.ofList (List.replicate k ' ') ++ "^" := by
  have inside : e.position ≤ (Text.trim text).toUTF8.size := by
    rw [boundary, Text.trim, String.toUTF8, String.size_toByteArray,
      ← utf8Length_eq_utf8ByteSize]
    conv => rhs; rw [← List.take_append_drop k (Text.trimBlanks text.toList)]
    rw [Text.utf8Length_append]
    omega
  simp only [Cli.describeSelectionError, if_pos inside]
  rw [boundary, Text.trim, fromUTF8?_extract_take]
  simp only [String.length_ofList, List.length_take, Nat.min_eq_left within]

end Selection

end FieldSelection

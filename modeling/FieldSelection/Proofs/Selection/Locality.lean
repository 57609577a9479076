import FieldSelection.Proofs.Selection.Layout
/-!
# Reading is local

What the reader makes of a stretch of text depends on that stretch only. Two texts that agree
up to some place and differ after it are read alike up to that place, provided the reader
stops before it. The reader looks one character past a name or the flags of a regular
expression, and past blanks for the next punctuation; so the texts after the place must start
alike, with a character that is no blank (`Tails`).

Readings of the two texts run side by side (`Along`): at one place of the common text, with
trees related by some `R`. Every step of building the tree keeps `R` when it works at or below
a path `base` (`Keeps`); equality does at every path.

* `Reader.field_along`, `Reader.path_along`, `Reader.fieldList_along` and
  `Reader.negated_along`: the token-level steps read the same fields and grow the trees
  alike;
* `Reader.expressionList_along` and its three partners: a reading of the first text that ends
  before the place is matched by one of the second, ending at the same place of it, with
  related trees;
* `Reader.closedList_along`: a nested list read up to its closing bracket looks no further, so
  any text may follow the bracket.
-/

namespace FieldSelection.Selection

/-! ## Texts that agree up to a place -/

/-- Texts after a place that a reader stopping before it cannot tell apart: they start with
the same character, and it is no blank. -/
structure Tails (T₁ T₂ : List Char) : Prop where
  head : T₁.head? = T₂.head?
  solid : ∀ c ∈ T₁.head?, Text.isBlank c = false

/-- Skipping blanks before a text that starts with no blank stops at that text at the latest. -/
theorem dropBlanks_append_solid {T : List Char} (solid : ∀ c ∈ T.head?, Text.isBlank c = false)
    (C : List Char) : Text.dropBlanks (C ++ T) = Text.dropBlanks C ++ T := by
  have stays : T.dropWhile Text.isBlank = T := by
    cases T with
    | nil => rfl
    | cons c rest => exact List.dropWhile_cons_of_neg (by simp [solid c rfl])
  unfold Text.dropBlanks
  rw [List.dropWhile_append]
  split
  · rename_i blank
    rw [List.isEmpty_iff.1 blank, stays, List.nil_append]
  · rfl

namespace Tails

variable {T₁ T₂ : List Char}

theorem refl {T : List Char} (solid : ∀ c ∈ T.head?, Text.isBlank c = false) : Tails T T :=
  ⟨rfl, solid⟩

theorem solid₂ (tails : Tails T₁ T₂) : ∀ c ∈ T₂.head?, Text.isBlank c = false := fun c first =>
  tails.solid c (tails.head ▸ first)

theorem head_append (tails : Tails T₁ T₂) (C : List Char) : (C ++ T₁).head? = (C ++ T₂).head? := by
  cases C with
  | nil => exact tails.head
  | cons c C => rfl

theorem peek (tails : Tails T₁ T₂) (C : List Char) :
    (Text.dropBlanks (C ++ T₁)).head? = (Text.dropBlanks (C ++ T₂)).head? := by
  rw [dropBlanks_append_solid tails.solid, dropBlanks_append_solid tails.solid₂]
  exact tails.head_append _

end Tails

/-- Two cursors at one place of texts that agree up to `T₁` and `T₂`: the same text lies
between the place and them. -/
def Before (T₁ T₂ : List Char) (c₁ c₂ : Cursor) : Prop :=
  ∃ C, c₁.rest = C ++ T₁ ∧ c₂.rest = C ++ T₂

namespace Before

variable {T₁ T₂ : List Char} {c₁ c₂ : Cursor}

theorem skipBlanks (tails : Tails T₁ T₂) (before : Before T₁ T₂ c₁ c₂) :
    Before T₁ T₂ c₁.skipBlanks c₂.skipBlanks := by
  obtain ⟨C, here₁, here₂⟩ := before
  refine ⟨Text.dropBlanks C, ?_, ?_⟩
  · rw [Cursor.skipBlanks_rest, here₁, dropBlanks_append_solid tails.solid]
  · rw [Cursor.skipBlanks_rest, here₂, dropBlanks_append_solid tails.solid₂]

theorem peek (tails : Tails T₁ T₂) (before : Before T₁ T₂ c₁ c₂) :
    (Text.dropBlanks c₂.rest).head? = (Text.dropBlanks c₁.rest).head? := by
  obtain ⟨C, here₁, here₂⟩ := before
  rw [here₁, here₂, tails.peek]

/-- Moving past a character of the common text keeps the cursors at one place; a reader that
ends before `T₁` never moves past its first character. -/
theorem bump (tails : Tails T₁ T₂) (before : Before T₁ T₂ c₁ c₂) (short : T₁ <:+ c₁.bump.rest) :
    Before T₁ T₂ c₁.bump c₂.bump := by
  obtain ⟨C, here₁, here₂⟩ := before
  cases C with
  | nil =>
    rw [Cursor.bump_rest, here₁, List.nil_append] at short
    have empty : T₁ = [] := by
      cases T₁ with
      | nil => rfl
      | cons c T => exact absurd short.length_le (by simp)
    have empty₂ : T₂ = [] := by
      have same := tails.head
      rw [empty, List.head?_nil] at same
      exact List.head?_eq_none_iff.1 same.symm
    exact ⟨[], by simp [here₁, empty], by simp [here₂, empty₂]⟩
  | cons c C => exact ⟨C, by simp [here₁], by simp [here₂]⟩

/-- When only blanks stand before `T₁` in the first text, only blanks stand before `T₂` in the
second. -/
theorem dropBlanks_eq (tails : Tails T₁ T₂) (before : Before T₁ T₂ c₁ c₂)
    (skipped : Text.dropBlanks c₁.rest = T₁) : Text.dropBlanks c₂.rest = T₂ := by
  obtain ⟨C, here₁, here₂⟩ := before
  rw [here₁, dropBlanks_append_solid tails.solid] at skipped
  have blank : Text.dropBlanks C = [] := by
    have lengths := congrArg List.length skipped
    rw [List.length_append] at lengths
    exact List.eq_nil_of_length_eq_zero (by omega)
  rw [here₂, dropBlanks_append_solid tails.solid₂, blank, List.nil_append]

end Before

/-- Two readings at one place of texts that agree up to `T₁` and `T₂`, with trees related by
`R`. -/
structure Along (R : Draft → Draft → Prop) (T₁ T₂ : List Char) (r₁ r₂ : Reading) : Prop where
  text : Before T₁ T₂ r₁.cursor r₂.cursor
  tree : R r₁.tree r₂.tree

/-- A relation between trees that every step of building keeps when it works at or below
`base`; negation always marks a node strictly below the parent it is read into. -/
structure Keeps (R : Draft → Draft → Prop) (base : List String) : Prop where
  addChild : ∀ {t₁ t₂ : Draft} (path : List String) (m : NameMatcher) (f : NodeMarks),
    base <+: path → R t₁ t₂ → R (t₁.addChild path m f).1 (t₂.addChild path m f).1
  brace : ∀ {t₁ t₂ : Draft} (path : List String), base <+: path → R t₁ t₂ →
    R (t₁.modifyMarks path fun f => { f with braced := true })
      (t₂.modifyMarks path fun f => { f with braced := true })
  negate : ∀ {t₁ t₂ : Draft} (path : List String), base <+: path → path ≠ base → R t₁ t₂ →
    R (t₁.modifyMarks path fun m => { m with negated := true, negativeParent := false })
      (t₂.modifyMarks path fun m => { m with negated := true, negativeParent := false })

theorem keeps_eq (base : List String) : Keeps Eq base where
  addChild _ _ _ _ same := by rw [same]
  brace _ _ same := by rw [same]
  negate _ _ _ same := by rw [same]

/-! ## Tokens read off texts that agree up to a place -/

/-- A field token as written is a token of the lexer, standing first past the blanks. -/
theorem FieldToken.token {cs t rest : List Char} (tok : FieldToken cs t rest) :
    ∃ tk : Token, tk.text = t ∧ Text.dropBlanks cs = tk.text ++ rest ∧ tk.Read rest := by
  cases tok with
  | name skipped start named stops =>
    rename_i more c
    refine ⟨.name (c :: more), rfl, ?_, ⟨c, more, rfl, start, named, stops⟩⟩
    rw [skipped.dropBlanks_eq]
    exact List.dropWhile_cons_of_neg (by simp [isBlank_of_isNameStart start])
  | regex skipped delim body nonEmpty onlyI stops compiles =>
    rename_i raw pat flags d
    refine ⟨.regex d pat raw flags, rfl, ?_, ⟨delim,
      Reader.regexBody_complete (by rcases delim with rfl | rfl <;> decide) body _,
      Reader.flagLetters_append onlyI stops⟩⟩
    rw [skipped.dropBlanks_eq]
    simp [Token.text, Text.dropBlanks, isBlank_of_delim delim]

/-- Whether a token is read off a text depends on the first character after it only. -/
theorem Token.Read.congr {t : Token} {rest₁ rest₂ : List Char} (read : t.Read rest₁)
    (same : rest₁.head? = rest₂.head?) : t.Read rest₂ := by
  cases t with
  | punct c => exact read
  | name cs =>
    obtain ⟨c, more, rfl, start, named, stops⟩ := read
    exact ⟨c, more, rfl, start, named, by rw [← same]; exact stops⟩
  | regex d pat raw flags =>
    obtain ⟨delim, found, letters⟩ := read
    obtain ⟨run, ends⟩ := takeWhile_eq_self letters
    exact ⟨delim, regexBody_of_read delim found _,
      Reader.takeWhile_append_stop run (by rw [← same]; exact ends)⟩

theorem Except.exists_ok_of_toOption_map {ε α β : Type} {x : Except ε α} {g : α → β} {v : β}
    (h : x.toOption.map g = some v) : ∃ a, x = .ok a ∧ g a = v := by
  cases x with
  | error e => simp [Except.toOption] at h
  | ok a => exact ⟨a, rfl, by simpa [Except.toOption] using h⟩

namespace Reader

variable {R : Draft → Draft → Prop} {base : List String} {T₁ T₂ : List Char}

/-! ## Steps that only build the tree -/

/-- A step that only builds the tree, alike from trees related by `R`: it answers the same in
both readings, an answer with `P`, leaves the cursors where they were, and keeps the trees
related. -/
def Kept (R : Draft → Draft → Prop) {α : Type} (P : α → Prop) (m : ReadM α) : Prop :=
  ∀ r₁ r₂ : Reading, R r₁.tree r₂.tree → ∃ a t₁ t₂, P a ∧
    m.run r₁ = .ok (a, { r₁ with tree := t₁ }) ∧ m.run r₂ = .ok (a, { r₂ with tree := t₂ }) ∧ R t₁ t₂

namespace Kept

theorem pure {α : Type} {P : α → Prop} {a : α} (holds : P a) : Kept R P (Pure.pure a : ReadM α) :=
  fun r₁ r₂ rel => ⟨a, r₁.tree, r₂.tree, holds, rfl, rfl, rel⟩

theorem bind {α β : Type} {P : α → Prop} {Q : β → Prop} {m : ReadM α} {f : α → ReadM β}
    (first : Kept R P m) (rest : ∀ a, P a → Kept R Q (f a)) : Kept R Q (m >>= f) := by
  intro r₁ r₂ rel
  obtain ⟨a, t₁, t₂, holds, ran₁, ran₂, rel₁⟩ := first r₁ r₂ rel
  obtain ⟨b, t₁', t₂', holds', ran₁', ran₂', rel₂⟩ :=
    rest a holds { r₁ with tree := t₁ } { r₂ with tree := t₂ } rel₁
  exact ⟨b, t₁', t₂', holds', by rw [run_bind_of_ok ran₁, ran₁'], by rw [run_bind_of_ok ran₂, ran₂'],
    rel₂⟩

/-- A kept step run first leaves both readings to what follows, at the same answer. -/
theorem run_bind {α : Type} {P : α → Prop} {m : ReadM α} (kept : Kept R P m)
    (r₁ r₂ : Reading) (rel : R r₁.tree r₂.tree) :
    ∃ a t₁ t₂, P a ∧ (∀ {β : Type} (f : α → ReadM β), (m >>= f).run r₁ = (f a).run { r₁ with tree := t₁ }) ∧
      (∀ {β : Type} (f : α → ReadM β), (m >>= f).run r₂ = (f a).run { r₂ with tree := t₂ }) ∧
      R t₁ t₂ := by
  obtain ⟨a, t₁, t₂, holds, ran₁, ran₂, rel'⟩ := kept r₁ r₂ rel
  exact ⟨a, t₁, t₂, holds, fun _ => run_bind_of_ok ran₁, fun _ => run_bind_of_ok ran₂, rel'⟩

theorem forIn {α β : Type} {body : α → β → ReadM (ForInStep β)}
    (each : ∀ a b, Kept R (fun _ => True) (body a b)) :
    ∀ (xs : List α) (b : β), Kept R (fun _ => True) (ForIn.forIn xs b body)
  | [], b => by simpa using Kept.pure (R := R) (P := fun _ => True) (a := b) trivial
  | x :: xs, b => by
    rw [List.forIn_cons]
    refine (each x b).bind fun step _ => ?_
    cases step with
    | done b' => exact Kept.pure trivial
    | yield b' => exact forIn each xs b'

end Kept

section Building

variable (keeps : Keeps R base)
include keeps

/-- Putting a field at or below `base` answers a path strictly below it. -/
theorem kept_addChild {path : List String} (below : base <+: path) (m : NameMatcher)
    (f : NodeMarks) :
    Kept R (fun node => base <+: node ∧ node ≠ base) (addChild path m f) := fun _ _ rel =>
  ⟨path ++ [m.literal], _, _,
    ⟨below.trans (List.prefix_append _ _), fun same => by
      have := congrArg List.length same
      have := below.length_le
      simp at *
      omega⟩,
    rfl, rfl, keeps.addChild path m f below rel⟩

theorem kept_brace {path : List String} (below : base <+: path) :
    Kept R (fun _ => True) (brace path) := fun _ _ rel =>
  ⟨(), _, _, trivial, rfl, rfl, keeps.brace path below rel⟩

theorem kept_negate {path : List String} (below : base <+: path) (strict : path ≠ base) :
    Kept R (fun _ => True) (mark path fun m => { m with negated := true, negativeParent := false }) :=
  fun _ _ rel => ⟨(), _, _, trivial, rfl, rfl, keeps.negate path below strict rel⟩

theorem kept_negatedSteps : ∀ (parent : List String) (fs : List Field), base <+: parent →
    Kept R (fun _ => True) (negatedSteps parent fs)
  | _, [], _ => Kept.pure trivial
  | _, [_], below =>
    (kept_brace keeps below).bind fun _ _ =>
      (kept_addChild keeps below _ _).bind fun _ node => kept_negate keeps node.1 node.2
  | _, _ :: _ :: _, below =>
    (kept_brace keeps below).bind fun _ _ =>
      (kept_addChild keeps below _ _).bind fun node placed =>
        kept_negatedSteps node _ placed.1

theorem kept_pathPrefix : ∀ (parent : List String) (fs : List Field), base <+: parent →
    Kept R (fun node => base <+: node) (pathPrefix parent fs)
  | _, [], below => Kept.pure below
  | _, _ :: _, below =>
    (kept_addChild keeps below _ _).bind fun node placed =>
      (kept_brace keeps placed.1).bind fun _ _ => kept_pathPrefix node _ placed.1

theorem kept_forIn_addChild {parent : List String} (below : base <+: parent) (marks : NodeMarks)
    (fields : List Field) :
    Kept R (fun _ => True) (forIn fields PUnit.unit fun f _ => do
      let _ ← addChild parent f.matcher marks
      pure (ForInStep.yield PUnit.unit)) :=
  Kept.forIn (fun _ _ => (kept_addChild keeps below _ _).bind fun _ _ => Kept.pure trivial) _ _

end Building

/-! ## Readings end no later than they start -/

theorem field_forward {r r' : Reading} {f : Field} (h : field.run r = .ok (f, r')) :
    r'.cursor.rest <:+ r.cursor.rest := by
  obtain ⟨t, tok, -⟩ := field_sound h
  exact tok.suffix

/-- Past the blanks and the next character is no further than where the text starts. -/
theorem bump_suffix (c : Cursor) : c.skipBlanks.bump.rest <:+ c.rest := by
  rw [Cursor.bump_rest, Cursor.skipBlanks_rest]
  exact (List.tail_suffix _).trans (List.dropWhile_suffix _)

theorem pathSteps_forward {fuel : Nat} {acc : List Field} {r r' : Reading} {fs : List Field}
    (h : (pathSteps fuel acc).run r = .ok (fs, r')) : r'.cursor.rest <:+ r.cursor.rest := by
  induction fuel generalizing acc r with
  | zero =>
    simp only [pathSteps, run_pure, Except.ok.injEq, Prod.mk.injEq] at h
    obtain ⟨-, rfl⟩ := h
    exact List.suffix_refl _
  | succ fuel ih =>
    simp only [pathSteps, run_peek_bind] at h
    split at h
    · simp only [run_bump_bind, run_bind_eq_ok] at h
      obtain ⟨f, r₂, ranField, h⟩ := h
      split at h
      · simp only [run_failAt_bind, reduceCtorEq] at h
      · exact ((ih h).trans (field_forward ranField)).trans (bump_suffix r.cursor)
    · simp only [run_pure, Except.ok.injEq, Prod.mk.injEq] at h
      rw [← h.2]
      exact List.dropWhile_suffix _

theorem fieldList_forward {fuel : Nat} {acc : List Field} {r r' : Reading} {fs : List Field}
    (h : (fieldList fuel acc).run r = .ok (fs, r')) : r'.cursor.rest <:+ r.cursor.rest := by
  induction fuel generalizing acc r with
  | zero =>
    simp only [fieldList, run_pure, Except.ok.injEq, Prod.mk.injEq] at h
    obtain ⟨-, rfl⟩ := h
    exact List.suffix_refl _
  | succ fuel ih =>
    simp only [fieldList, run_bind_eq_ok] at h
    obtain ⟨f, r₁, ranField, h⟩ := h
    refine List.IsSuffix.trans ?_ (field_forward ranField)
    split at h
    · simp only [run_failAt_bind, reduceCtorEq] at h
    · simp only [run_peek_bind] at h
      split at h
      · simp only [run_bump_bind] at h
        exact (ih h).trans (bump_suffix r₁.cursor)
      · simp only [run_bump_bind, run_pure, Except.ok.injEq, Prod.mk.injEq] at h
        rw [← h.2]
        exact bump_suffix r₁.cursor
      · simp only [run_failUnexpected, reduceCtorEq] at h

theorem negated_forward {parent : List String} {r r' : Reading}
    (h : (negated parent).run r = .ok ((), r')) : r'.cursor.rest <:+ r.cursor.rest := by
  obtain ⟨ts, rest, separated, -, skipped⟩ := negated_sound h
  exact skipped.suffix.trans separated.suffix

theorem expressionList_forward {fuel : Nat} {parent : List String} {close : Option Char}
    {r r' : Reading} (h : (expressionList parent close fuel).run r = .ok ((), r')) :
    r'.cursor.rest <:+ r.cursor.rest := by
  obtain ⟨rest, list, ends⟩ := expressionList_sound fuel h
  refine List.IsSuffix.trans ?_ list.suffix
  cases close with
  | none => exact ends.1.suffix
  | some k => exact Punct.suffix ends

theorem expression_forward {fuel : Nat} {parent : List String} {r r' : Reading}
    (h : (expression parent fuel).run r = .ok ((), r')) : r'.cursor.rest <:+ r.cursor.rest := by
  obtain ⟨rest, expr, skipped⟩ := expression_sound fuel h
  exact skipped.suffix.trans expr.suffix

theorem attach_forward {fuel : Nat} {parent : List String} {fields : List Field} {r r' : Reading}
    (nonEmpty : fields ≠ []) (h : (attach parent fields fuel).run r = .ok ((), r')) :
    r'.cursor.rest <:+ r.cursor.rest := by
  obtain ⟨rest, nest, skipped⟩ := attach_sound fuel nonEmpty h
  exact skipped.suffix.trans nest.suffix

theorem nestedEach_forward {fuel : Nat} {parent : List String} {close : Char} {start : Cursor}
    {fields : List Field} {r r' : Reading} (nonEmpty : fields ≠ [])
    (h : (nestedEach parent close start fields fuel).run r = .ok ((), r')) :
    r'.cursor.rest <:+ start.rest := by
  obtain ⟨rest, list, closed⟩ := nestedEach_sound fuel nonEmpty h
  exact closed.suffix.trans list.suffix

/-! ## Token-level steps -/

/-- A field read off the common text, ending before `T₁`, is read alike off the second text:
the same token, the same matcher, and the trees untouched. -/
theorem field_along (tails : Tails T₁ T₂) {r₁ r₁' : Reading} (r₂ : Reading) {f₁ : Field}
    (before : Before T₁ T₂ r₁.cursor r₂.cursor) (ran : field.run r₁ = .ok (f₁, r₁'))
    (stops : T₁ <:+ r₁'.cursor.rest) :
    ∃ f₂ r₂', field.run r₂ = .ok (f₂, r₂') ∧ f₂.matcher = f₁.matcher ∧
      Before T₁ T₂ r₁'.cursor r₂'.cursor ∧ r₁'.tree = r₁.tree ∧ r₂'.tree = r₂.tree := by
  obtain ⟨t, tok, -⟩ := field_sound ran
  obtain ⟨tk, -, skipped, read⟩ := tok.token
  obtain ⟨C, here₁, here₂⟩ := before
  obtain ⟨E, after⟩ := stops
  have reads₁ := field_reads_text skipped read
  rw [ran] at reads₁
  simp only [Except.toOption, Option.map_some] at reads₁
  obtain ⟨m, matched, same⟩ := Option.map_eq_some_iff.1 reads₁.symm
  simp only [Prod.mk.injEq] at same
  obtain ⟨rfl, -, tree₁⟩ := same
  have common : Text.dropBlanks C = tk.text ++ E := by
    have whole := skipped
    rw [here₁, dropBlanks_append_solid tails.solid, ← after, ← List.append_assoc] at whole
    exact List.append_cancel_right whole
  have skipped₂ : Text.dropBlanks r₂.cursor.rest = tk.text ++ (E ++ T₂) := by
    rw [here₂, dropBlanks_append_solid tails.solid₂, common, List.append_assoc]
  have read₂ : tk.Read (E ++ T₂) := read.congr (by rw [← after]; exact tails.head_append E)
  have reads₂ := field_reads_text skipped₂ read₂
  rw [matched, Option.map_some] at reads₂
  obtain ⟨⟨f₂, r₂'⟩, ran₂, same₂⟩ := Except.exists_ok_of_toOption_map reads₂
  simp only [Prod.mk.injEq] at same₂
  obtain ⟨sameMatcher, rest₂, tree₂⟩ := same₂
  exact ⟨f₂, r₂', ran₂, sameMatcher, ⟨E, after.symm, rest₂⟩, tree₁.symm, tree₂⟩

/-- Past the blanks and the punctuation ahead, the text is shorter. -/
theorem length_tail_lt {cs : List Char} {c : Char} (first : (Text.dropBlanks cs).head? = some c) :
    (Text.dropBlanks cs).tail.length < cs.length :=
  (punct_of_head first).length_lt

/-- The further steps of a dot-path are read alike; the fuel, one more than the text ahead,
outlasts the common text in both readings. -/
theorem pathSteps_along (tails : Tails T₁ T₂) : ∀ (fuel₁ fuel₂ : Nat) (acc₁ acc₂ : List Field)
    {C : List Char} {r₁ : Reading} (r₂ : Reading) {r₁' : Reading} {fs₁ : List Field},
    r₁.cursor.rest = C ++ T₁ → r₂.cursor.rest = C ++ T₂ → C.length < fuel₁ → C.length < fuel₂ →
    acc₁.map (·.matcher) = acc₂.map (·.matcher) → (pathSteps fuel₁ acc₁).run r₁ = .ok (fs₁, r₁') →
    T₁ <:+ r₁'.cursor.rest →
    ∃ fs₂ r₂', (pathSteps fuel₂ acc₂).run r₂ = .ok (fs₂, r₂') ∧
      fs₁.map (·.matcher) = fs₂.map (·.matcher) ∧ Before T₁ T₂ r₁'.cursor r₂'.cursor ∧
      r₁'.tree = r₁.tree ∧ r₂'.tree = r₂.tree
  | 0, _, _, _, _, _, _, _, _, _, _, short, _, _, _, _ => absurd short (Nat.not_lt_zero _)
  | _ + 1, 0, _, _, _, _, _, _, _, _, _, _, short, _, _, _ => absurd short (Nat.not_lt_zero _)
  | fuel₁ + 1, fuel₂ + 1, acc₁, acc₂, C, r₁, r₂, r₁', fs₁, here₁, here₂, short₁, short₂, same, h,
      stops => by
    have before : Before T₁ T₂ r₁.cursor r₂.cursor := ⟨C, here₁, here₂⟩
    simp only [pathSteps, run_peek_bind] at h ⊢
    rw [before.peek tails]
    split at h
    · rename_i dot
      simp only [dot, if_true, run_bump_bind]
      simp only [run_bump_bind, run_bind_eq_ok] at h
      obtain ⟨f₁, rf₁, ranField, h⟩ := h
      split at h
      · simp only [run_failAt_bind, reduceCtorEq] at h
      rename_i notAnyDeep
      have stopsField : T₁ <:+ rf₁.cursor.rest := stops.trans (pathSteps_forward h)
      have bumped := (before.skipBlanks tails).bump tails (stopsField.trans (field_forward ranField))
      obtain ⟨f₂, rf₂, ranField₂, sameMatcher, ⟨C', here₁', here₂'⟩, tree₁, tree₂⟩ :=
        field_along tails ⟨r₂.cursor.skipBlanks.bump, r₂.tree⟩ bumped ranField stopsField
      rw [run_bind_of_ok ranField₂]
      simp only [sameMatcher, notAnyDeep, Bool.false_eq_true, if_false]
      have shorter : C'.length < C.length := by
        have field := (field_forward ranField).length_le
        have bump := length_tail_lt (beq_iff_eq.1 dot)
        simp only [Cursor.bump_rest, Cursor.skipBlanks_rest, here₁, here₁', List.length_append] at field
        rw [here₁, List.length_append] at bump
        omega
      obtain ⟨fs₂, r₂', ran, sameSteps, before', tree₁', tree₂'⟩ :=
        pathSteps_along tails fuel₁ fuel₂ (f₁ :: acc₁) (f₂ :: acc₂) rf₂ here₁' here₂' (by omega)
          (by omega) (by simp [sameMatcher, same]) h stops
      exact ⟨fs₂, r₂', ran, sameSteps, before', tree₁'.trans tree₁, tree₂'.trans tree₂⟩
    · rename_i noDot
      simp only [noDot, Bool.false_eq_true, if_false, run_pure]
      simp only [run_pure, Except.ok.injEq, Prod.mk.injEq] at h
      obtain ⟨rfl, rfl⟩ := h
      exact ⟨_, _, rfl, by simp [same], before.skipBlanks tails, rfl, rfl⟩

/-- A path read from the first text before the place is read from the second into the same
matchers, ending at the same place; the any-deep name stands alone. -/
theorem path_along (tails : Tails T₁ T₂) {r₁ r₁' : Reading} (r₂ : Reading) {fs₁ : List Field}
    (before : Before T₁ T₂ r₁.cursor r₂.cursor) (h : path.run r₁ = .ok (fs₁, r₁'))
    (stops : T₁ <:+ r₁'.cursor.rest) :
    ∃ fs₂ r₂', path.run r₂ = .ok (fs₂, r₂') ∧ fs₁.map (·.matcher) = fs₂.map (·.matcher) ∧
      Before T₁ T₂ r₁'.cursor r₂'.cursor ∧ r₁'.tree = r₁.tree ∧ r₂'.tree = r₂.tree := by
  simp only [path, run_bind_eq_ok] at h
  obtain ⟨first₁, ra, ranField, h⟩ := h
  simp only [path]
  split at h
  · rename_i anyDeep
    simp only [run_peek_bind] at h
    split at h
    · simp only [run_pos_bind, run_failAt_bind, reduceCtorEq] at h
    rename_i noDot
    simp only [run_pure, Except.ok.injEq, Prod.mk.injEq] at h
    obtain ⟨rfl, rfl⟩ := h
    obtain ⟨first₂, rb, ranField₂, sameMatcher, before', tree₁, tree₂⟩ :=
      field_along tails r₂ before ranField (stops.trans (List.dropWhile_suffix _))
    rw [run_bind_of_ok ranField₂]
    simp only [sameMatcher, anyDeep, if_true, run_peek_bind, before'.peek tails, noDot,
      Bool.false_eq_true, if_false, run_pure]
    exact ⟨_, _, rfl, by simp [sameMatcher], before'.skipBlanks tails, tree₁, tree₂⟩
  · rename_i notAnyDeep
    simp only [run_get_bind] at h
    obtain ⟨first₂, rb, ranField₂, sameMatcher, ⟨C, here₁, here₂⟩, tree₁, tree₂⟩ :=
      field_along tails r₂ before ranField (stops.trans (pathSteps_forward h))
    rw [run_bind_of_ok ranField₂]
    simp only [sameMatcher, notAnyDeep, Bool.false_eq_true, if_false, run_get_bind]
    obtain ⟨fs₂, r₂', ran, sameSteps, before', tree₁', tree₂'⟩ :=
      pathSteps_along tails (ra.cursor.rest.length + 1) (rb.cursor.rest.length + 1) [first₁]
        [first₂] rb here₁ here₂
        (by rw [here₁, List.length_append]; omega) (by rw [here₂, List.length_append]; omega)
        (by simp [sameMatcher]) h stops
    exact ⟨fs₂, r₂', ran, sameSteps, before', tree₁'.trans tree₁, tree₂'.trans tree₂⟩

/-- A parenthesized list of fields read from the first text before the place is read from the
second into the same matchers. -/
theorem fieldList_along (tails : Tails T₁ T₂) : ∀ (fuel₁ fuel₂ : Nat) (acc₁ acc₂ : List Field)
    {C : List Char} {r₁ : Reading} (r₂ : Reading) {r₁' : Reading} {fs₁ : List Field},
    r₁.cursor.rest = C ++ T₁ → r₂.cursor.rest = C ++ T₂ → C.length < fuel₁ → C.length < fuel₂ →
    acc₁.map (·.matcher) = acc₂.map (·.matcher) → (fieldList fuel₁ acc₁).run r₁ = .ok (fs₁, r₁') →
    T₁ <:+ r₁'.cursor.rest →
    ∃ fs₂ r₂', (fieldList fuel₂ acc₂).run r₂ = .ok (fs₂, r₂') ∧
      fs₁.map (·.matcher) = fs₂.map (·.matcher) ∧ Before T₁ T₂ r₁'.cursor r₂'.cursor ∧
      r₁'.tree = r₁.tree ∧ r₂'.tree = r₂.tree
  | 0, _, _, _, _, _, _, _, _, _, _, short, _, _, _, _ => absurd short (Nat.not_lt_zero _)
  | _ + 1, 0, _, _, _, _, _, _, _, _, _, _, short, _, _, _ => absurd short (Nat.not_lt_zero _)
  | fuel₁ + 1, fuel₂ + 1, acc₁, acc₂, C, r₁, r₂, r₁', fs₁, here₁, here₂, short₁, short₂, same, h,
      stops => by
    have before : Before T₁ T₂ r₁.cursor r₂.cursor := ⟨C, here₁, here₂⟩
    simp only [fieldList, run_bind_eq_ok] at h
    obtain ⟨f₁, ra, ranField, h⟩ := h
    simp only [fieldList]
    split at h
    · simp only [run_failAt_bind, reduceCtorEq] at h
    rename_i notAnyDeep
    simp only [run_peek_bind] at h
    split at h
    · rename_i comma
      simp only [run_bump_bind] at h
      have stopsBump : T₁ <:+ ra.cursor.skipBlanks.bump.rest := stops.trans (fieldList_forward h)
      obtain ⟨f₂, rb, ranField₂, sameMatcher, beforeA, tree₁, tree₂⟩ :=
        field_along tails r₂ before ranField (stopsBump.trans (bump_suffix ra.cursor))
      rw [run_bind_of_ok ranField₂]
      simp only [sameMatcher, notAnyDeep, Bool.false_eq_true, if_false, run_peek_bind,
        beforeA.peek tails, comma, run_bump_bind]
      obtain ⟨C', here₁', here₂'⟩ := (beforeA.skipBlanks tails).bump tails stopsBump
      have shorter : C'.length < C.length := by
        have field := (field_forward ranField).length_le
        have bump := length_tail_lt comma
        simp only [Cursor.bump_rest, Cursor.skipBlanks_rest] at here₁'
        rw [here₁', List.length_append] at bump
        rw [here₁, List.length_append] at field
        omega
      obtain ⟨fs₂, r₂', ran, sameFields, before', tree₁', tree₂'⟩ :=
        fieldList_along tails fuel₁ fuel₂ (f₁ :: acc₁) (f₂ :: acc₂) ⟨rb.cursor.skipBlanks.bump, rb.tree⟩
          here₁' here₂' (by omega)
          (by omega) (by simp [sameMatcher, same]) h stops
      exact ⟨fs₂, r₂', ran, sameFields, before', tree₁'.trans tree₁, tree₂'.trans tree₂⟩
    · rename_i paren
      simp only [run_bump_bind, run_pure, Except.ok.injEq, Prod.mk.injEq] at h
      obtain ⟨rfl, rfl⟩ := h
      obtain ⟨f₂, rb, ranField₂, sameMatcher, beforeA, tree₁, tree₂⟩ :=
        field_along tails r₂ before ranField (stops.trans (bump_suffix ra.cursor))
      rw [run_bind_of_ok ranField₂]
      simp only [sameMatcher, notAnyDeep, Bool.false_eq_true, if_false, run_peek_bind,
        beforeA.peek tails, paren, run_bump_bind, run_pure]
      exact ⟨_, _, rfl, by simp [sameMatcher, same],
        (beforeA.skipBlanks tails).bump tails stops, tree₁, tree₂⟩
    · simp only [run_failUnexpected, reduceCtorEq] at h

/-- A negated field ends where its path does, past the blanks after it. -/
theorem negated_rest {parent : List String} {r r' : Reading}
    (h : (negated parent).run r = .ok ((), r')) :
    ∃ steps ra, path.run r = .ok (steps, ra) ∧ r'.cursor.rest = Text.dropBlanks ra.cursor.rest := by
  simp only [negated, run_pos_bind, run_bind_eq_ok] at h
  obtain ⟨steps, ra, ranPath, h⟩ := h
  refine ⟨steps, ra, ranPath, ?_⟩
  split at h
  · simp only [run_failAt_bind, reduceCtorEq] at h
  split at h
  · obtain ⟨_, tree, h⟩ := (treeOnly_addChild _ _ _).run_bind_eq_ok h
    simp only [run_peek_bind] at h
    split at h <;> simp only [run_pos_bind, run_failAt, run_pure, reduceCtorEq, Except.ok.injEq,
      Prod.mk.injEq] at h
    rw [← h.2]
    rfl
  · obtain ⟨_, tree, h⟩ := (treeOnly_negatedSteps _ _).run_bind_eq_ok h
    simp only [run_peek_bind] at h
    split at h <;> simp only [run_pos_bind, run_failAt, run_pure, reduceCtorEq, Except.ok.injEq,
      Prod.mk.injEq] at h
    rw [← h.2]
    rfl

/-- A check that fails on an opening bracket and passes on anything else passes alike in both
readings. -/
theorem peek_notOpener_along (tails : Tails T₁ T₂) {k : Option Char → ReadM Unit}
    (opener : ∀ x, (x = some '[' ∨ x = some '\x7b') → ∀ r a r', (k x).run r ≠ .ok (a, r'))
    (other : ∀ x, ¬(x = some '[' ∨ x = some '\x7b') → k x = pure ())
    {r₁ r₂ r₁' : Reading} (along : Along R T₁ T₂ r₁ r₂) (h : (peek >>= k).run r₁ = .ok ((), r₁')) :
    ∃ r₂', (peek >>= k).run r₂ = .ok ((), r₂') ∧ Along R T₁ T₂ r₁' r₂' := by
  rw [run_peek_bind] at h ⊢
  rw [along.text.peek tails]
  by_cases opens : (Text.dropBlanks r₁.cursor.rest).head? = some '[' ∨
      (Text.dropBlanks r₁.cursor.rest).head? = some '\x7b'
  · exact absurd h (opener _ opens _ _ _)
  · rw [other _ opens, run_pure, Except.ok.injEq, Prod.mk.injEq] at h
    rw [other _ opens, run_pure]
    exact ⟨_, rfl, h.2 ▸ ⟨along.text.skipBlanks tails, along.tree⟩⟩

/-- An exclusion read from the first text before the place is read alike from the second, the
trees growing alike. -/
theorem negated_along (keeps : Keeps R base) (tails : Tails T₁ T₂) {parent : List String}
    (below : base <+: parent) {r₁ r₂ r₁' : Reading} (along : Along R T₁ T₂ r₁ r₂)
    (h : (negated parent).run r₁ = .ok ((), r₁')) (stops : T₁ <:+ r₁'.cursor.rest) :
    ∃ r₂', (negated parent).run r₂ = .ok ((), r₂') ∧ Along R T₁ T₂ r₁' r₂' := by
  obtain ⟨steps₁, ra, ranPath, final⟩ := negated_rest h
  rw [final] at stops
  obtain ⟨steps₂, rb, ranPath₂, sameSteps, beforeB, tree₁, tree₂⟩ :=
    path_along tails r₂ along.text ranPath (stops.trans (List.dropWhile_suffix _))
  simp only [negated, run_pos_bind] at h ⊢
  rw [run_bind_of_ok ranPath] at h
  rw [run_bind_of_ok ranPath₂]
  have anyDeep : steps₂.any (·.matcher.isAnyDeep) = steps₁.any (·.matcher.isAnyDeep) := by
    have anyOf := congrArg (fun ms : List NameMatcher => ms.any NameMatcher.isAnyDeep) sameSteps
    simpa [List.any_map, Function.comp_def] using anyOf.symm
  rw [anyDeep]
  split at h
  · simp only [run_failAt_bind, reduceCtorEq] at h
  rename_i plain
  simp only [plain, Bool.false_eq_true, if_false] at h ⊢
  have rel : R ra.tree rb.tree := by rw [tree₁, tree₂]; exact along.tree
  have sameLength : steps₁.length = steps₂.length := by simpa using congrArg List.length sameSteps
  rcases steps₁ with _ | ⟨f₁, _ | ⟨f₁', rest₁⟩⟩ <;> rcases steps₂ with _ | ⟨f₂, _ | ⟨f₂', rest₂⟩⟩ <;>
    simp at sameLength <;> simp only at h ⊢
  case' nil.nil =>
    obtain ⟨_, t₁, t₂, -, ran₁, ran₂, rel'⟩ :=
      (kept_negatedSteps keeps parent [] below).run_bind ra rb rel
    rw [ran₁] at h
    rw [ran₂]
  case' cons.nil.cons.nil =>
    rw [← (by simpa using sameSteps : f₁.matcher = f₂.matcher)]
    obtain ⟨_, t₁, t₂, -, ran₁, ran₂, rel'⟩ :=
      (kept_addChild keeps below f₁.matcher _).run_bind ra rb rel
    rw [ran₁] at h
    rw [ran₂]
  case' cons.cons.cons.cons =>
    rw [← negatedSteps_congr parent sameSteps]
    obtain ⟨_, t₁, t₂, -, ran₁, ran₂, rel'⟩ :=
      (kept_negatedSteps keeps parent _ below).run_bind ra rb rel
    rw [ran₁] at h
    rw [ran₂]
  all_goals
    exact peek_notOpener_along tails
      (by rintro x (rfl | rfl) r a r' <;>
        simp only [run_pos_bind, run_failAt, ne_eq, reduceCtorEq, not_false_eq_true])
      (by intro x notOpener; split <;> simp_all)
      (show Along R T₁ T₂ { ra with tree := t₁ } { rb with tree := t₂ } from ⟨beforeB, rel'⟩) h

/-! ## Fields that differ only in where they were written -/

theorem nestedEach_congr (parent : List String) :
    ∀ {fs₁ fs₂ : List Field}, fs₁.map (·.matcher) = fs₂.map (·.matcher) →
      ∀ (fuel : Nat) (close : Char) (start : Cursor),
        nestedEach parent close start fs₁ fuel = nestedEach parent close start fs₂ fuel
  | [], [], _, _, _, _ => rfl
  | _ :: _, _ :: _, _, 0, _, _ => by simp only [nestedEach]
  | f :: fs, g :: gs, same, fuel + 1, close, start => by
    simp only [List.map_cons, List.cons.injEq] at same
    simp only [nestedEach, same.1, nestedEach_congr parent same.2 fuel close start]
  | [], _ :: _, same, _, _, _ | _ :: _, [], same, _, _, _ => by simp at same

theorem attach_congr {fs₁ fs₂ : List Field} (same : fs₁.map (·.matcher) = fs₂.map (·.matcher)) :
    ∀ (fuel : Nat) (parent : List String), attach parent fs₁ fuel = attach parent fs₂ fuel
  | 0, _ => rfl
  | fuel + 1, parent => by
    simp only [attach, forIn_addChild_congr parent _ same, nestedEach_congr parent same fuel]

/-- Where a nested list closes is fixed by its text: two readings of a list from one text,
each closed by the same bracket, end at the same place. -/
theorem closed_end_unique {cs rest₁ rest₂ after₁ after₂ : List Char} {close : Char}
    (closing : close = ']' ∨ close = '}') (list₁ : ExprList cs rest₁)
    (closed₁ : Punct close rest₁ after₁) (list₂ : ExprList cs rest₂)
    (closed₂ : Punct close rest₂ after₂) : after₁ = after₂ := by
  have closes : ∀ k ∈ some close, k = ']' ∨ k = '}' := by rcases closing with rfl | rfl <;> simp
  obtain ⟨r₁, ran₁, final₁⟩ := expressionList_complete (4 * cs.length + 3) []
    (r := ⟨⟨cs, 0⟩, Draft.root⟩) list₁ ((ends_some _ _ _).2 closed₁) closes le_rfl
  obtain ⟨r₂, ran₂, final₂⟩ := expressionList_complete (4 * cs.length + 3) []
    (r := ⟨⟨cs, 0⟩, Draft.root⟩) list₂ ((ends_some _ _ _).2 closed₂) closes le_rfl
  rw [ran₁, Except.ok.injEq, Prod.mk.injEq] at ran₂
  rw [← final₁, ← final₂, ran₂.2]

/-! ## Expressions

The two readings run side by side through the mutual recursion of the expression readers, on
the same fuel. A reading ends no later than it starts, so a reading that ends before `T₁` has
every step before it end there too; only the readings of a nested list for the fields before
the last are not followed by what ends before `T₁`, and they end where the last one does,
since the text says where the list closes. -/

mutual

/-- A list of expressions read from the first text before the place is read alike from the
second: each expression ends no later than the list does. -/
theorem expressionList_along (keeps : Keeps R base) (tails : Tails T₁ T₂) :
    ∀ (fuel : Nat) {parent : List String} {close : Option Char} {r₁ r₂ r₁' : Reading},
    base <+: parent → Along R T₁ T₂ r₁ r₂ →
    (expressionList parent close fuel).run r₁ = .ok ((), r₁') → T₁ <:+ r₁'.cursor.rest →
    ∃ r₂', (expressionList parent close fuel).run r₂ = .ok ((), r₂') ∧ Along R T₁ T₂ r₁' r₂'
  | 0, _, _, _, _, _, _, _, h, _ => by
    simp only [expressionList, run_failUnexpected, reduceCtorEq] at h
  | fuel + 1, parent, close, r₁, r₂, r₁', below, along, h, stops => by
    simp only [expressionList] at h ⊢
    rw [run_bind_eq_ok] at h
    obtain ⟨⟨⟩, ra, ranExpr, h⟩ := h
    simp only [run_peek_bind] at h
    have stopsExpr : T₁ <:+ ra.cursor.rest := by
      refine stops.trans ?_
      split at h
      · simp only [run_bump_bind] at h
        exact (expressionList_forward h).trans (bump_suffix ra.cursor)
      · split at h
        · simp only [run_bump, Except.ok.injEq, Prod.mk.injEq] at h
          rw [← h.2]
          exact bump_suffix ra.cursor
        · simp only [run_failUnexpected, reduceCtorEq] at h
      · split at h
        · simp only [run_pure, Except.ok.injEq, Prod.mk.injEq] at h
          rw [← h.2]
          exact List.dropWhile_suffix _
        · simp only [run_failUnexpected, reduceCtorEq] at h
    obtain ⟨rb, ranExpr₂, alongB⟩ := expression_along keeps tails fuel below along ranExpr stopsExpr
    rw [run_bind_of_ok ranExpr₂]
    simp only [run_peek_bind]
    rw [alongB.text.peek tails]
    split at h
    · simp only [run_bump_bind] at h ⊢
      refine expressionList_along keeps tails fuel below ?_ h stops
      exact ⟨(alongB.text.skipBlanks tails).bump tails (stops.trans (expressionList_forward h)),
        alongB.tree⟩
    · split at h
      · rename_i closes
        simp only [closes, if_true, run_bump]
        simp only [run_bump, Except.ok.injEq, Prod.mk.injEq] at h
        obtain ⟨-, rfl⟩ := h
        exact ⟨_, rfl, ⟨(alongB.text.skipBlanks tails).bump tails stops, alongB.tree⟩⟩
      · simp only [run_failUnexpected, reduceCtorEq] at h
    · split at h
      · simp only [run_pure, Except.ok.injEq, Prod.mk.injEq] at h
        obtain ⟨-, rfl⟩ := h
        exact ⟨_, rfl, ⟨alongB.text.skipBlanks tails, alongB.tree⟩⟩
      · simp only [run_failUnexpected, reduceCtorEq] at h

/-- An expression read from the first text before the place is read alike from the second; the
steps of a path before its last only build the tree. -/
theorem expression_along (keeps : Keeps R base) (tails : Tails T₁ T₂) :
    ∀ (fuel : Nat) {parent : List String} {r₁ r₂ r₁' : Reading},
    base <+: parent → Along R T₁ T₂ r₁ r₂ →
    (expression parent fuel).run r₁ = .ok ((), r₁') → T₁ <:+ r₁'.cursor.rest →
    ∃ r₂', (expression parent fuel).run r₂ = .ok ((), r₂') ∧ Along R T₁ T₂ r₁' r₂'
  | 0, _, _, _, _, _, _, h, _ => by
    simp only [expression, run_failUnexpected, reduceCtorEq] at h
  | fuel + 1, parent, r₁, r₂, r₁', below, along, h, stops => by
    simp only [expression, run_peek_bind] at h ⊢
    rw [along.text.peek tails]
    split at h
    · simp only [run_bump_bind] at h ⊢
      refine negated_along keeps tails below ?_ h stops
      exact ⟨(along.text.skipBlanks tails).bump tails (stops.trans (negated_forward h)), along.tree⟩
    · simp only [run_bump_bind, run_get_bind] at h ⊢
      rw [run_bind_eq_ok] at h
      obtain ⟨fields₁, ra, ranFields, h⟩ := h
      have nonEmpty : fields₁ ≠ [] := by
        obtain ⟨_, _, separated, -, -, count⟩ := fieldList_sound (by simp) ranFields
        rintro rfl
        exact separated.ne_nil (List.length_eq_zero_iff.1 (by simpa using count.symm))
      have stopsFields : T₁ <:+ ra.cursor.rest := stops.trans (attach_forward nonEmpty h)
      obtain ⟨C, here₁, here₂⟩ := (along.text.skipBlanks tails).bump tails
        (stopsFields.trans (fieldList_forward ranFields))
      obtain ⟨fields₂, rb, ranFields₂, sameFields, beforeB, tree₁, tree₂⟩ :=
        fieldList_along tails (r₁.cursor.skipBlanks.bump.rest.length + 1)
          (r₂.cursor.skipBlanks.bump.rest.length + 1) [] [] ⟨r₂.cursor.skipBlanks.bump, r₂.tree⟩
          here₁ here₂
          (by rw [here₁, List.length_append]; omega) (by rw [here₂, List.length_append]; omega)
          rfl ranFields stopsFields
      rw [run_bind_of_ok ranFields₂, ← attach_congr sameFields]
      refine attach_along keeps tails fuel below ?_ nonEmpty h stops
      exact ⟨beforeB, by rw [tree₁, tree₂]; exact along.tree⟩
    · rw [run_bind_eq_ok] at h
      obtain ⟨steps₁, ra, ranPath, h⟩ := h
      split at h
      · simp only [run_failUnexpected, reduceCtorEq] at h
      rename_i last₁ before₁ reversed₁
      have stopsPath : T₁ <:+ ra.cursor.rest := by
        refine stops.trans ?_
        split at h
        · simp only [run_pure_bind] at h
          exact attach_forward (List.cons_ne_nil _ _) h
        · obtain ⟨_, tree, h⟩ := (treeOnly_brace _).run_bind_eq_ok h
          obtain ⟨_, tree', h⟩ := (treeOnly_pathPrefix _ _).run_bind_eq_ok h
          have ends := attach_forward (List.cons_ne_nil _ _) h
          exact ends
      obtain ⟨steps₂, rb, ranPath₂, sameSteps, beforeB, tree₁, tree₂⟩ :=
        path_along tails ⟨r₂.cursor.skipBlanks, r₂.tree⟩ (along.text.skipBlanks tails) ranPath
          stopsPath
      rw [run_bind_of_ok ranPath₂]
      obtain ⟨last₂, before₂, reversed₂, sameLast, sameBefore⟩ :=
        exists_reverse_of_matchers sameSteps reversed₁
      have sameEmpty : before₂.isEmpty = before₁.isEmpty := by
        simpa using congrArg List.isEmpty sameBefore.symm
      simp only [reversed₂, sameEmpty]
      simp only [← attach_congr (by simp [sameLast] : [last₁].map (·.matcher) = [last₂].map (·.matcher))]
      have rel : R ra.tree rb.tree := by rw [tree₁, tree₂]; exact along.tree
      split at h
      · rename_i single
        simp only [single, if_true, run_pure_bind] at h ⊢
        refine attach_along keeps tails fuel below ?_ (List.cons_ne_nil _ _) h stops
        exact ⟨beforeB, rel⟩
      · rename_i several
        simp only [several, Bool.false_eq_true, if_false] at h ⊢
        have sameReversed : before₁.reverse.map (·.matcher) = before₂.reverse.map (·.matcher) := by
          rw [List.map_reverse, List.map_reverse, sameBefore]
        rw [← pathPrefix_congr parent sameReversed]
        obtain ⟨_, t₁, t₂, -, ran₁, ran₂, rel₁⟩ := (kept_brace keeps below).run_bind ra rb rel
        rw [ran₁] at h
        rw [ran₂]
        obtain ⟨node, t₁', t₂', placed, ran₁, ran₂, rel₂⟩ :=
          (kept_pathPrefix keeps parent before₁.reverse below).run_bind
            { ra with tree := t₁ } { rb with tree := t₂ } rel₁
        rw [ran₁] at h
        rw [ran₂]
        refine attach_along keeps tails fuel placed ?_ (List.cons_ne_nil _ _) h stops
        exact ⟨beforeB, rel₂⟩

/-- What is nested after fields, read from the first text before the place, is read alike from
the second: it ends no later than it starts, past its opening bracket. -/
theorem attach_along (keeps : Keeps R base) (tails : Tails T₁ T₂) :
    ∀ (fuel : Nat) {parent : List String} {fields : List Field} {r₁ r₂ r₁' : Reading},
    base <+: parent → Along R T₁ T₂ r₁ r₂ → fields ≠ [] →
    (attach parent fields fuel).run r₁ = .ok ((), r₁') → T₁ <:+ r₁'.cursor.rest →
    ∃ r₂', (attach parent fields fuel).run r₂ = .ok ((), r₂') ∧ Along R T₁ T₂ r₁' r₂'
  | 0, _, _, _, _, _, _, _, _, h, _ => by
    simp only [attach, run_failUnexpected, reduceCtorEq] at h
  | fuel + 1, parent, fields, r₁, r₂, r₁', below, along, nonEmpty, h, stops => by
    simp only [attach, run_peek_bind] at h ⊢
    rw [along.text.peek tails]
    split at h
    · obtain ⟨_, t₁, t₂, -, ran₁, ran₂, rel⟩ := (kept_forIn_addChild keeps below {} fields).run_bind
        { r₁ with cursor := r₁.cursor.skipBlanks } { r₂ with cursor := r₂.cursor.skipBlanks } along.tree
      rw [ran₁] at h
      rw [ran₂]
      simp only [run_pure, Except.ok.injEq, Prod.mk.injEq] at h
      obtain ⟨-, rfl⟩ := h
      exact ⟨_, rfl, ⟨along.text.skipBlanks tails, rel⟩⟩
    · rename_i close opened
      have closing : close = ']' ∨ close = '}' := by
        obtain ⟨_, -, pair⟩ := closer_eq_some opened
        exact pair.closing
      simp only [run_bump_bind, run_get_bind, run_peek_bind] at h ⊢
      have stopsOpen : T₁ <:+ r₁.cursor.skipBlanks.bump.rest := by
        refine stops.trans ?_
        split at h
        · obtain ⟨_, tree, h⟩ := (treeOnly_forIn_addChild _ _ _).run_bind_eq_ok h
          simp only [run_bump, Except.ok.injEq, Prod.mk.injEq] at h
          rw [← h.2]
          exact bump_suffix _
        · exact nestedEach_forward nonEmpty h
      have opens := (along.text.skipBlanks tails).bump tails stopsOpen
      rw [opens.peek tails]
      split at h
      · rename_i empty
        simp only [empty, if_true]
        obtain ⟨_, t₁, t₂, -, ran₁, ran₂, rel⟩ :=
          (kept_forIn_addChild keeps below { emptyNested := true } fields).run_bind
            { cursor := r₁.cursor.skipBlanks.bump.skipBlanks, tree := r₁.tree }
            { cursor := r₂.cursor.skipBlanks.bump.skipBlanks, tree := r₂.tree } along.tree
        rw [ran₁] at h
        rw [ran₂]
        simp only [run_bump, Except.ok.injEq, Prod.mk.injEq] at h
        obtain ⟨-, rfl⟩ := h
        refine ⟨_, run_bump _, ?_⟩
        exact ⟨(opens.skipBlanks tails).bump tails stops, rel⟩
      · rename_i notEmpty
        simp only [notEmpty]
        refine nestedEach_along keeps tails fuel below ?_ opens closing nonEmpty h stops
        exact along.tree

/-- A nested list read into each field from the first text before the place is read alike from
the second: the closing bracket, not what follows it, says where each reading ends. -/
theorem nestedEach_along (keeps : Keeps R base) (tails : Tails T₁ T₂) :
    ∀ (fuel : Nat) {parent : List String} {close : Char} {start₁ start₂ : Cursor}
      {fields : List Field} {r₁ r₂ r₁' : Reading},
    base <+: parent → R r₁.tree r₂.tree → Before T₁ T₂ start₁ start₂ → (close = ']' ∨ close = '}') →
    fields ≠ [] → (nestedEach parent close start₁ fields fuel).run r₁ = .ok ((), r₁') →
    T₁ <:+ r₁'.cursor.rest →
    ∃ r₂', (nestedEach parent close start₂ fields fuel).run r₂ = .ok ((), r₂') ∧
      Along R T₁ T₂ r₁' r₂'
  | _, _, _, _, _, [], _, _, _, _, _, _, _, nonEmpty, _, _ => absurd rfl nonEmpty
  | 0, _, _, _, _, _ :: _, _, _, _, _, _, _, _, _, h, _ => by
    simp only [nestedEach, run_failUnexpected, reduceCtorEq] at h
  | fuel + 1, parent, close, start₁, start₂, f :: more, r₁, r₂, r₁', below, rel, before, closing,
      _, h, stops => by
    simp only [nestedEach] at h ⊢
    obtain ⟨node, t₁, t₂, placed, ran₁, ran₂, rel₁⟩ :=
      (kept_addChild keeps below f.matcher {}).run_bind r₁ r₂ rel
    rw [ran₁] at h
    rw [ran₂]
    simp only [run_modify_bind] at h ⊢
    obtain ⟨_, t₁', t₂', -, ran₁, ran₂, rel₂⟩ := (kept_brace keeps placed.1).run_bind
      { cursor := start₁, tree := t₁ } { cursor := start₂, tree := t₂ } rel₁
    rw [ran₁] at h
    rw [ran₂]
    rw [run_bind_eq_ok] at h
    obtain ⟨⟨⟩, ra, ranList, h⟩ := h
    have stopsList : T₁ <:+ ra.cursor.rest := by
      cases more with
      | nil =>
        simp only [nestedEach, run_pure, Except.ok.injEq, Prod.mk.injEq] at h
        rw [h.2]
        exact stops
      | cons g more =>
        obtain ⟨rest₁, list₁, closed₁⟩ := expressionList_sound fuel ranList
        obtain ⟨rest₂, list₂, closed₂⟩ := nestedEach_sound fuel (List.cons_ne_nil _ _) h
        rw [closed_end_unique closing list₁ closed₁ list₂ closed₂]
        exact stops
    obtain ⟨rb, ranList₂, alongB⟩ :=
      expressionList_along keeps tails fuel placed.1
        (show Along R T₁ T₂ { cursor := start₁, tree := t₁' } { cursor := start₂, tree := t₂' } from
          ⟨before, rel₂⟩) ranList stopsList
    rw [run_bind_of_ok ranList₂]
    cases more with
    | nil =>
      simp only [nestedEach, run_pure, Except.ok.injEq, Prod.mk.injEq] at h
      simp only [nestedEach, run_pure]
      obtain ⟨-, rfl⟩ := h
      exact ⟨rb, rfl, alongB⟩
    | cons g more =>
      exact nestedEach_along keeps tails fuel below alongB.tree before closing
        (List.cons_ne_nil _ _) h stops

end

/-- A nested list read up to its closing bracket looks no further: whatever follows the
bracket in the second text, the list is read alike up to it. -/
theorem closedList_along (keeps : Keeps R base) : ∀ (fuel : Nat) {parent : List String}
    {close : Char} {C S₁ S₂ : List Char} {r₁ r₂ r₁' : Reading},
    base <+: parent → (close = ']' ∨ close = '}') → r₁.cursor.rest = C ++ S₁ →
    r₂.cursor.rest = C ++ S₂ → R r₁.tree r₂.tree →
    (expressionList parent (some close) fuel).run r₁ = .ok ((), r₁') → r₁'.cursor.rest = S₁ →
    ∃ r₂', (expressionList parent (some close) fuel).run r₂ = .ok ((), r₂') ∧
      r₂'.cursor.rest = S₂ ∧ R r₁'.tree r₂'.tree
  | 0, _, _, _, _, _, _, _, _, _, _, _, _, _, h, _ => by
    simp only [expressionList, run_failUnexpected, reduceCtorEq] at h
  | fuel + 1, parent, close, C, S₁, S₂, r₁, r₂, r₁', below, closing, here₁, here₂, rel, h,
      final => by
    simp only [expressionList] at h ⊢
    rw [run_bind_eq_ok] at h
    obtain ⟨⟨⟩, ra, ranExpr, h⟩ := h
    simp only [run_peek_bind] at h
    obtain ⟨x, D, ahead⟩ : ∃ x D, Text.dropBlanks ra.cursor.rest = x :: (D ++ S₁) := by
      obtain ⟨x, M, split⟩ : ∃ x M, Text.dropBlanks ra.cursor.rest = x :: M := by
        cases skipped : Text.dropBlanks ra.cursor.rest with
        | nil =>
          rw [skipped] at h
          simp only [List.head?_nil, run_failUnexpected, reduceCtorEq] at h
        | cons x M => exact ⟨x, M, rfl⟩
      obtain ⟨D, joined⟩ : S₁ <:+ M := by
        rw [split] at h
        simp only [List.head?_cons] at h
        split at h
        · simp only [run_bump_bind] at h
          have ends := expressionList_forward h
          simpa [final, split] using ends
        · split at h
          · simp only [run_bump, Except.ok.injEq, Prod.mk.injEq] at h
            rw [← final, ← h.2]
            simp [split]
          · simp only [run_failUnexpected, reduceCtorEq] at h
        · simp only [run_failUnexpected, reduceCtorEq] at h
      exact ⟨x, D, by rw [split, joined]⟩
    obtain ⟨P, joined⟩ := expression_forward ranExpr
    obtain ⟨bl, blank, spread⟩ := blanks_dropBlanks ra.cursor.rest
    rw [ahead] at spread
    have common : C = P ++ bl ++ x :: D := by
      have whole : P ++ ra.cursor.rest = C ++ S₁ := joined.trans here₁
      rw [spread] at whole
      exact (List.append_cancel_right (by simpa using whole)).symm
    have solid : ∀ c ∈ (x :: (D ++ S₁)).head?, Text.isBlank c = false := by
      intro c first
      have stops := List.head?_dropWhile_not Text.isBlank ra.cursor.rest
      rw [← Text.dropBlanks, ahead] at stops
      simp only [List.head?_cons, Option.mem_def, Option.some.injEq] at first
      simpa [first] using stops
    have tails : Tails (x :: (D ++ S₁)) (x :: (D ++ S₂)) := ⟨rfl, solid⟩
    obtain ⟨rb, ranExpr₂, alongB⟩ := expression_along keeps tails fuel below
      (show Along R _ _ r₁ r₂ from
        ⟨⟨P ++ bl, by rw [← joined, spread, List.append_assoc],
          by rw [here₂, common]; simp⟩, rel⟩) ranExpr ⟨bl, spread.symm⟩
    have skipped₂ := alongB.text.dropBlanks_eq tails ahead
    rw [run_bind_of_ok ranExpr₂]
    simp only [run_peek_bind]
    rw [show (Text.dropBlanks rb.cursor.rest).head? = (Text.dropBlanks ra.cursor.rest).head? by
      rw [skipped₂, ahead]; rfl]
    split at h
    · simp only [run_bump_bind] at h ⊢
      exact closedList_along keeps fuel below closing
        (show ({ ra with cursor := ra.cursor.skipBlanks.bump } : Reading).cursor.rest = D ++ S₁ by
          simp [ahead])
        (show ({ rb with cursor := rb.cursor.skipBlanks.bump } : Reading).cursor.rest = D ++ S₂ by
          simp [skipped₂])
        alongB.tree h final
    · split at h
      · rename_i closes
        simp only [closes, if_true]
        simp only [run_bump, Except.ok.injEq, Prod.mk.injEq] at h
        obtain ⟨-, rfl⟩ := h
        have none : D = [] := by
          have lengths := congrArg List.length final
          simpa [ahead] using lengths
        refine ⟨_, run_bump _, by simp [skipped₂, none], alongB.tree⟩
      · simp only [run_failUnexpected, reduceCtorEq] at h
    · simp only [run_failUnexpected, reduceCtorEq] at h

/-! ## More fuel changes nothing -/

mutual

/-- A reading that succeeds on some fuel succeeds alike on more. -/
theorem expressionList_mono : ∀ {fuel fuel' : Nat} {parent : List String} {close : Option Char}
    {r r' : Reading}, fuel ≤ fuel' → (expressionList parent close fuel).run r = .ok ((), r') →
    (expressionList parent close fuel').run r = .ok ((), r')
  | 0, _, _, _, _, _, _, h => by simp only [expressionList, run_failUnexpected, reduceCtorEq] at h
  | _ + 1, 0, _, _, _, _, more, _ => absurd more (by omega)
  | fuel + 1, fuel' + 1, parent, close, r, r', more, h => by
    simp only [expressionList] at h ⊢
    rw [run_bind_eq_ok] at h
    obtain ⟨⟨⟩, ra, ranExpr, h⟩ := h
    rw [run_bind_of_ok (expression_mono (by omega) ranExpr)]
    simp only [run_peek_bind] at h ⊢
    split at h
    · simp only [run_bump_bind] at h ⊢
      exact expressionList_mono (by omega) h
    · exact h
    · exact h

theorem expression_mono : ∀ {fuel fuel' : Nat} {parent : List String} {r r' : Reading},
    fuel ≤ fuel' → (expression parent fuel).run r = .ok ((), r') →
    (expression parent fuel').run r = .ok ((), r')
  | 0, _, _, _, _, _, h => by simp only [expression, run_failUnexpected, reduceCtorEq] at h
  | _ + 1, 0, _, _, _, more, _ => absurd more (by omega)
  | fuel + 1, fuel' + 1, parent, r, r', more, h => by
    simp only [expression, run_peek_bind] at h ⊢
    split at h
    · exact h
    · simp only [run_bump_bind, run_get_bind] at h ⊢
      rw [run_bind_eq_ok] at h
      obtain ⟨fields, ra, ranFields, h⟩ := h
      rw [run_bind_of_ok ranFields]
      exact attach_mono (by omega) h
    · rw [run_bind_eq_ok] at h
      obtain ⟨steps, ra, ranPath, h⟩ := h
      rw [run_bind_of_ok ranPath]
      split at h
      · exact h
      · split at h
        · rename_i single
          simp only [single, if_true, run_pure_bind] at h ⊢
          exact attach_mono (by omega) h
        · rename_i several
          simp only [several, Bool.false_eq_true, if_false] at h ⊢
          rw [run_bind_eq_ok] at h
          obtain ⟨_, rb, ranBrace, h⟩ := h
          rw [run_bind_of_ok ranBrace]
          rw [run_bind_eq_ok] at h
          obtain ⟨node, rc, ranPrefix, h⟩ := h
          rw [run_bind_of_ok ranPrefix]
          exact attach_mono (by omega) h

theorem attach_mono : ∀ {fuel fuel' : Nat} {parent : List String} {fields : List Field}
    {r r' : Reading}, fuel ≤ fuel' → (attach parent fields fuel).run r = .ok ((), r') →
    (attach parent fields fuel').run r = .ok ((), r')
  | 0, _, _, _, _, _, _, h => by simp only [attach, run_failUnexpected, reduceCtorEq] at h
  | _ + 1, 0, _, _, _, _, more, _ => absurd more (by omega)
  | fuel + 1, fuel' + 1, parent, fields, r, r', more, h => by
    simp only [attach, run_peek_bind] at h ⊢
    split at h
    · exact h
    · simp only [run_bump_bind, run_get_bind, run_peek_bind] at h ⊢
      split at h
      · rename_i empty
        simp only [empty, if_true]
        exact h
      · rename_i notEmpty
        simp only [notEmpty]
        exact nestedEach_mono (by omega) h

theorem nestedEach_mono : ∀ {fuel fuel' : Nat} {parent : List String} {close : Char}
    {start : Cursor} {fields : List Field} {r r' : Reading}, fuel ≤ fuel' →
    (nestedEach parent close start fields fuel).run r = .ok ((), r') →
    (nestedEach parent close start fields fuel').run r = .ok ((), r')
  | _, _, _, _, _, [], _, _, _, h => by simpa [nestedEach] using h
  | 0, _, _, _, _, _ :: _, _, _, _, h => by
    simp only [nestedEach, run_failUnexpected, reduceCtorEq] at h
  | _ + 1, 0, _, _, _, _ :: _, _, _, more, _ => absurd more (by omega)
  | fuel + 1, fuel' + 1, parent, close, start, f :: more, r, r', enough, h => by
    simp only [nestedEach] at h ⊢
    rw [run_bind_eq_ok] at h
    obtain ⟨node, ra, ranAdd, h⟩ := h
    rw [run_bind_of_ok ranAdd]
    simp only [run_modify_bind] at h ⊢
    rw [run_bind_eq_ok] at h
    obtain ⟨_, rb, ranBrace, h⟩ := h
    rw [run_bind_of_ok ranBrace]
    rw [run_bind_eq_ok] at h
    obtain ⟨⟨⟩, rc, ranList, h⟩ := h
    rw [run_bind_of_ok (expressionList_mono (by omega) ranList)]
    exact nestedEach_mono (by omega) h

end

end Reader

end FieldSelection.Selection

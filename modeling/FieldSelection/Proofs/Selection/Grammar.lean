import FieldSelection.Selection.Parser
/-!
# The grammar of selection expressions

The language of selection expressions as a grammar over characters, independent of the reader:

```
list  := expr (',' expr)*
expr  := '-' path | '(' field (',' field)* ')' nest? | path nest? | '**' nest?
path  := field ('.' field)*
nest  := '[' list? ']' | '{' list? '}'
field := name | regex
```

A name is a maximal run of name characters that starts with a name start; a regular expression
is a body between two tildes or two slashes, where a backslash escapes the next character,
followed right away by `i` flags, as many as the letters that follow. The any-deep name `**`
stands only as a whole expression: it is never negated, never in a field list and never a step
of a dot-path; a negated path takes no nested part. Blanks may stand before any token. The reader
takes the patterns of regular expressions to compile, so the grammar asks that of a regular
expression field.

Every relation reads a prefix of its first argument and leaves its last: `ExprList cs rest`
says that `cs` starts with an expression list, after which `rest` is left. `Derives cs` says
that all of `cs` is an expression list.
-/

namespace FieldSelection.Selection

/-- `cs` is blanks followed by `cs'`. -/
def Blanks (cs cs' : List Char) : Prop :=
  ∃ bl, (∀ b ∈ bl, Text.isBlank b = true) ∧ cs = bl ++ cs'

/-- `cs` is blanks, the character `c`, then `rest`. -/
def Punct (c : Char) (cs rest : List Char) : Prop := Blanks cs (c :: rest)

/-- Whether `c` is an ASCII letter. -/
def isAsciiLetter (c : Char) : Bool := c.toNat < 128 && c.isAlpha

/-- The body of a regular expression delimited by `d` as written, and the pattern it stands
for:
* a backslash escapes the next character; an escaped delimiter stands for the delimiter, any
  other escape stands for itself with its backslash;
* any other character but the delimiter stands for itself. -/
inductive RegexBody (d : Char) : List Char → List Char → Prop
  | nil : RegexBody d [] []
  | escaped {e : Char} {raw pat : List Char} : RegexBody d raw pat →
      RegexBody d ('\\' :: e :: raw) ((if e = d then [e] else ['\\', e]) ++ pat)
  | plain {c : Char} {raw pat : List Char} : c ≠ d → c ≠ '\\' → RegexBody d raw pat →
      RegexBody d (c :: raw) (c :: pat)

/-- A field token, written as `text` after blanks, followed by `rest`:
* a name: a name start, then name characters as long as they come;
* a regular expression: a delimiter `~` or `/`, a body standing for a non-empty pattern, the
  delimiter again, then flags `i` up to the first character that is not an ASCII letter; its
  pattern compiles, case folded when there are flags. -/
inductive FieldToken : List Char → List Char → List Char → Prop
  | name {cs more rest : List Char} {c : Char} : Blanks cs (c :: more ++ rest) →
      isNameStart c = true → (∀ x ∈ more, isNameChar x = true) →
      (∀ x ∈ rest.head?, isNameChar x = false) → FieldToken cs (c :: more) rest
  | regex {cs raw pat flags rest : List Char} {d : Char} :
      Blanks cs (d :: raw ++ d :: flags ++ rest) → (d = '~' ∨ d = '/') → RegexBody d raw pat →
      pat ≠ [] → (∀ x ∈ flags, x = 'i') → (∀ x ∈ rest.head?, isAsciiLetter x = false) →
      (∃ prog, NameMatcher.compileRegex (String.ofList pat) (!flags.isEmpty) = .ok prog) →
      FieldToken cs (d :: raw ++ d :: flags) rest

/-- The any-deep name as written. -/
def anyDeepText : List Char := ['*', '*']

/-- Field tokens separated by `sep`, written as `texts`: a dot-path for `.`, the fields of a
field list for `,`. -/
inductive Separated (sep : Char) : List Char → List (List Char) → List Char → Prop
  | last {cs t rest : List Char} : FieldToken cs t rest → Separated sep cs [t] rest
  | step {cs t r₁ r₂ rest : List Char} {ts : List (List Char)} : FieldToken cs t r₁ →
      Punct sep r₁ r₂ → Separated sep r₂ ts rest → Separated sep cs (t :: ts) rest

/-- The brackets a nested expression is written between. -/
def BracketPair (o c : Char) : Prop := (o = '[' ∧ c = ']') ∨ (o = '{' ∧ c = '}')

mutual

/-- Expressions separated by commas. -/
inductive ExprList : List Char → List Char → Prop
  | last {cs rest : List Char} : Expr cs rest → ExprList cs rest
  | step {cs r₁ r₂ rest : List Char} : Expr cs r₁ → Punct ',' r₁ r₂ → ExprList r₂ rest →
      ExprList cs rest

/-- An expression:
* a negated dot-path, with no any-deep step and no nested part;
* a field list in parentheses, with no any-deep field, and an optional nested part;
* a dot-path with no any-deep step, and an optional nested part;
* the any-deep name, and an optional nested part. -/
inductive Expr : List Char → List Char → Prop
  | negated {cs r₁ rest : List Char} {ts : List (List Char)} : Punct '-' cs r₁ →
      Separated '.' r₁ ts rest → anyDeepText ∉ ts → Expr cs rest
  | fields {cs r₁ r₂ r₃ rest : List Char} {ts : List (List Char)} : Punct '(' cs r₁ →
      Separated ',' r₁ ts r₂ → anyDeepText ∉ ts → Punct ')' r₂ r₃ → Nest r₃ rest → Expr cs rest
  | path {cs r₁ rest : List Char} {ts : List (List Char)} : Separated '.' cs ts r₁ →
      anyDeepText ∉ ts → Nest r₁ rest → Expr cs rest
  | anyDeep {cs r₁ rest : List Char} : FieldToken cs anyDeepText r₁ → Nest r₁ rest →
      Expr cs rest

/-- An optional nested expression: nothing, or an expression list, possibly empty, between
brackets of one kind. -/
inductive Nest : List Char → List Char → Prop
  | none {cs : List Char} : Nest cs cs
  | empty {cs r₁ rest : List Char} {o c : Char} : BracketPair o c → Punct o cs r₁ →
      Punct c r₁ rest → Nest cs rest
  | list {cs r₁ r₂ rest : List Char} {o c : Char} : BracketPair o c → Punct o cs r₁ →
      ExprList r₁ r₂ → Punct c r₂ rest → Nest cs rest

end

/-- All of `cs` is an expression list. -/
def Derives (cs : List Char) : Prop := ExprList cs []

/-! ## Blanks and names -/

theorem isNameChar_of_isBlank {c : Char} (blank : Text.isBlank c = true) :
    isNameChar c = false := by
  have codes : c.toNat ∈ List.range' 9 5 ++ [0x20, 0x85, 0xA0, 0x1680] ++ List.range' 0x2000 11 ++
      [0x2028, 0x2029, 0x202F, 0x205F, 0x3000] := by
    simp only [Text.isBlank, Bool.or_eq_true, Bool.and_eq_true, decide_eq_true_eq, beq_iff_eq] at blank
    simp only [List.mem_append, List.mem_range'_1, List.mem_cons, List.not_mem_nil]
    omega
  have named : ∀ n ∈ List.range' 9 5 ++ [0x20, 0x85, 0xA0, 0x1680] ++ List.range' 0x2000 11 ++
      [0x2028, 0x2029, 0x202F, 0x205F, 0x3000], isNameChar (Char.ofNat n) = false := by
    decide +kernel
  simpa using named c.toNat codes

theorem isNameChar_of_isNameStart {c : Char} (start : isNameStart c = true) : isNameChar c = true := by
  simp [isNameChar, start]

theorem isBlank_of_isNameStart {c : Char} (start : isNameStart c = true) : Text.isBlank c = false := by
  cases blank : Text.isBlank c
  · rfl
  · have := isNameChar_of_isBlank blank
    rw [isNameChar_of_isNameStart start] at this
    cases this

namespace Blanks

theorem refl (cs : List Char) : Blanks cs cs := ⟨[], by simp, rfl⟩

theorem trans {cs₁ cs₂ cs₃ : List Char} (first : Blanks cs₁ cs₂) (second : Blanks cs₂ cs₃) :
    Blanks cs₁ cs₃ := by
  obtain ⟨bl₁, blank₁, rfl⟩ := first
  obtain ⟨bl₂, blank₂, rfl⟩ := second
  refine ⟨bl₁ ++ bl₂, fun b mem => ?_, (List.append_assoc _ _ _).symm⟩
  rcases List.mem_append.1 mem with inFirst | inSecond
  · exact blank₁ b inFirst
  · exact blank₂ b inSecond

theorem suffix {cs cs' : List Char} (skipped : Blanks cs cs') : cs' <:+ cs := by
  obtain ⟨bl, -, rfl⟩ := skipped
  exact List.suffix_append bl cs'

/-- Blanks skipped ahead change nothing for a reader that skips blanks. -/
theorem dropBlanks_eq {cs cs' : List Char} (skipped : Blanks cs cs') :
    Text.dropBlanks cs = Text.dropBlanks cs' := by
  obtain ⟨bl, blank, rfl⟩ := skipped
  exact List.dropWhile_append_of_pos blank

end Blanks

theorem blanks_dropBlanks (cs : List Char) : Blanks cs (Text.dropBlanks cs) :=
  ⟨cs.takeWhile Text.isBlank, List.all_eq_true.1 List.all_takeWhile,
    (List.takeWhile_append_dropWhile).symm⟩

theorem dropBlanks_dropBlanks (cs : List Char) :
    Text.dropBlanks (Text.dropBlanks cs) = Text.dropBlanks cs :=
  (blanks_dropBlanks cs).dropBlanks_eq.symm

/-- Punctuation that is no blank stands first once the blanks are skipped. -/
theorem punct_iff {c : Char} (plain : Text.isBlank c = false) {cs rest : List Char} :
    Punct c cs rest ↔ Text.dropBlanks cs = c :: rest := by
  constructor
  · intro punct
    rw [punct.dropBlanks_eq]
    exact List.dropWhile_cons_of_neg (by simp [plain])
  · intro skipped
    rw [Punct, ← skipped]
    exact blanks_dropBlanks cs

/-- The first character after the blanks is punctuation standing there. -/
theorem punct_of_head {c : Char} {cs : List Char} (first : (Text.dropBlanks cs).head? = some c) :
    Punct c cs (Text.dropBlanks cs).tail := by
  obtain ⟨tail, split⟩ := List.head?_eq_some_iff.1 first
  have skipped := blanks_dropBlanks cs
  rwa [split] at skipped ⊢

theorem Punct.length_lt {c : Char} {cs rest : List Char} (punct : Punct c cs rest) :
    rest.length < cs.length := by
  obtain ⟨bl, -, rfl⟩ := punct
  simp only [List.length_append, List.length_cons]
  omega

theorem Punct.suffix {c : Char} {cs rest : List Char} (punct : Punct c cs rest) : rest <:+ cs :=
  List.IsSuffix.trans (List.suffix_cons c rest) (Blanks.suffix punct)

theorem Punct.of_blanks {c : Char} {cs cs' rest : List Char} (skipped : Blanks cs cs')
    (punct : Punct c cs' rest) : Punct c cs rest :=
  skipped.trans punct

/-- What may follow an expression: a comma, a closing bracket, or the end, after blanks. -/
def Follows (rest : List Char) : Prop :=
  ∀ c ∈ (Text.dropBlanks rest).head?, c = ',' ∨ c = ']' ∨ c = '}'

theorem Follows.head_ne {rest : List Char} (follows : Follows rest) {c : Char}
    (other : c ≠ ',' ∧ c ≠ ']' ∧ c ≠ '}') : (Text.dropBlanks rest).head? ≠ some c := by
  intro first
  rcases follows c first with same | same | same
  · exact other.1 same
  · exact other.2.1 same
  · exact other.2.2 same

/-! ## Field tokens -/

theorem FieldToken.length_lt {cs t rest : List Char} (tok : FieldToken cs t rest) :
    rest.length < cs.length := by
  cases tok with
  | name skipped => have := skipped.suffix.length_le; simp at this; omega
  | regex skipped => have := skipped.suffix.length_le; simp at this; omega

theorem FieldToken.suffix {cs t rest : List Char} (tok : FieldToken cs t rest) : rest <:+ cs := by
  cases tok with
  | name skipped => exact List.IsSuffix.trans (List.suffix_append _ _) skipped.suffix
  | regex skipped => exact List.IsSuffix.trans (List.suffix_append _ _) skipped.suffix

theorem FieldToken.of_blanks {cs cs' t rest : List Char} (skipped : Blanks cs cs')
    (tok : FieldToken cs' t rest) : FieldToken cs t rest := by
  cases tok with
  | name blanks start named stops => exact .name (skipped.trans blanks) start named stops
  | regex blanks delim body nonEmpty onlyI stops compiles =>
    exact .regex (skipped.trans blanks) delim body nonEmpty onlyI stops compiles

/-- A field token starts with a delimiter of a regular expression or a name start. -/
theorem FieldToken.head {cs t rest : List Char} (tok : FieldToken cs t rest) :
    ∃ c more, Text.dropBlanks cs = c :: more ∧ (c = '~' ∨ c = '/' ∨ isNameStart c = true) := by
  cases tok with
  | name skipped start =>
    exact ⟨_, _, (punct_iff (isBlank_of_isNameStart start)).1 skipped, .inr (.inr start)⟩
  | regex skipped delim =>
    refine ⟨_, _, (punct_iff (by rcases delim with rfl | rfl <;> decide)).1 skipped, ?_⟩
    rcases delim with same | same
    · exact .inl same
    · exact .inr (.inl same)

/-- The character a field token starts with is none of the punctuation of expressions. -/
theorem FieldToken.head_ne {cs t rest : List Char} (tok : FieldToken cs t rest) {k : Char}
    (punctuation : k ≠ '~' ∧ k ≠ '/' ∧ isNameStart k = false) :
    (Text.dropBlanks cs).head? ≠ some k := by
  obtain ⟨c, more, first, start⟩ := tok.head
  rw [first]
  rintro ⟨⟩
  rcases start with same | same | start
  · exact punctuation.1 same
  · exact punctuation.2.1 same
  · rw [punctuation.2.2] at start
    cases start

/-- A field token read after its blanks. -/
theorem FieldToken.dropBlanks {cs t rest : List Char} (tok : FieldToken cs t rest) :
    FieldToken (Text.dropBlanks cs) t rest := by
  cases tok with
  | name skipped start named stops =>
    refine .name ?_ start named stops
    rw [(punct_iff (isBlank_of_isNameStart start)).1 skipped]
    exact Blanks.refl _
  | regex skipped delim body nonEmpty onlyI stops compiles =>
    refine .regex ?_ delim body nonEmpty onlyI stops compiles
    rw [(punct_iff (by rcases delim with rfl | rfl <;> decide)).1 skipped]
    exact Blanks.refl _

/-! ## Separated lists -/

/-- What follows the first token of a separated list: nothing more, or the separator and the
rest of the list. -/
def SepTail (sep : Char) (cs : List Char) (ts : List (List Char)) (rest : List Char) : Prop :=
  (ts = [] ∧ cs = rest) ∨ ∃ r₂, Punct sep cs r₂ ∧ Separated sep r₂ ts rest

theorem separated_cons_iff {sep : Char} {cs rest t : List Char} {ts : List (List Char)} :
    Separated sep cs (t :: ts) rest ↔ ∃ r₁, FieldToken cs t r₁ ∧ SepTail sep r₁ ts rest := by
  constructor
  · intro separated
    cases separated with
    | last tok => exact ⟨rest, tok, .inl ⟨rfl, rfl⟩⟩
    | step tok punct more => exact ⟨_, tok, .inr ⟨_, punct, more⟩⟩
  · rintro ⟨r₁, tok, ⟨rfl, rfl⟩ | ⟨r₂, punct, more⟩⟩
    · exact .last tok
    · exact .step tok punct more

theorem Separated.ne_nil {sep : Char} {cs rest : List Char} {ts : List (List Char)}
    (separated : Separated sep cs ts rest) : ts ≠ [] := by
  cases separated <;> simp

theorem Separated.snoc {sep : Char} {cs r₁ r₂ rest t : List Char} {ts : List (List Char)}
    (separated : Separated sep cs ts r₁) (punct : Punct sep r₁ r₂) (tok : FieldToken r₂ t rest) :
    Separated sep cs (ts ++ [t]) rest := by
  induction separated with
  | last first => exact .step first punct (.last tok)
  | step first between _ ih => exact .step first between (ih punct)

/-- Each token of a separated list takes a character, and each separator one more. -/
theorem Separated.length_le {sep : Char} {cs rest : List Char} {ts : List (List Char)}
    (separated : Separated sep cs ts rest) : rest.length + 2 * ts.length ≤ cs.length + 1 := by
  induction separated with
  | last tok => have := tok.length_lt; simp; omega
  | step tok punct _ ih => have := tok.length_lt; have := punct.length_lt; simp; omega

/-- An expression reads at least one character. -/
theorem Separated.length_lt {sep : Char} {cs rest : List Char} {ts : List (List Char)}
    (separated : Separated sep cs ts rest) : rest.length < cs.length := by
  have counted := separated.length_le
  have := separated.ne_nil
  cases ts with
  | nil => contradiction
  | cons => simp only [List.length_cons] at counted; omega

theorem SepTail.length_le {sep : Char} {cs rest : List Char} {ts : List (List Char)}
    (tail : SepTail sep cs ts rest) : ts.length ≤ cs.length := by
  obtain ⟨rfl, -⟩ | ⟨r₂, punct, separated⟩ := tail
  · simp
  · have shorter := punct.length_lt
    have counted := separated.length_le
    cases ts with
    | nil => exact absurd rfl separated.ne_nil
    | cons => simp only [List.length_cons] at counted ⊢; omega

theorem Separated.suffix {sep : Char} {cs rest : List Char} {ts : List (List Char)}
    (separated : Separated sep cs ts rest) : rest <:+ cs := by
  induction separated with
  | last tok => exact tok.suffix
  | step tok punct _ ih => exact ih.trans (punct.suffix.trans tok.suffix)

theorem Separated.of_blanks {sep : Char} {cs cs' rest : List Char} {ts : List (List Char)}
    (skipped : Blanks cs cs') (separated : Separated sep cs' ts rest) : Separated sep cs ts rest := by
  cases separated with
  | last tok => exact .last (tok.of_blanks skipped)
  | step tok punct more => exact .step (tok.of_blanks skipped) punct more

theorem Separated.dropBlanks {sep : Char} {cs rest : List Char} {ts : List (List Char)}
    (separated : Separated sep cs ts rest) : Separated sep (Text.dropBlanks cs) ts rest := by
  cases separated with
  | last tok => exact .last tok.dropBlanks
  | step tok punct more => exact .step tok.dropBlanks punct more

theorem Separated.head_ne {sep : Char} {cs rest : List Char} {ts : List (List Char)}
    (separated : Separated sep cs ts rest) {k : Char}
    (punctuation : k ≠ '~' ∧ k ≠ '/' ∧ isNameStart k = false) :
    (Text.dropBlanks cs).head? ≠ some k := by
  cases separated with
  | last tok => exact tok.head_ne punctuation
  | step tok => exact tok.head_ne punctuation

/-! ## Expressions -/

mutual

theorem ExprList.suffix : ∀ {cs rest : List Char}, ExprList cs rest → rest <:+ cs
  | _, _, .last expr => expr.suffix
  | _, _, .step expr punct list => list.suffix.trans (punct.suffix.trans expr.suffix)

theorem Expr.suffix : ∀ {cs rest : List Char}, Expr cs rest → rest <:+ cs
  | _, _, .negated punct separated _ => separated.suffix.trans punct.suffix
  | _, _, .fields opened separated _ closed nest =>
    nest.suffix.trans (closed.suffix.trans (separated.suffix.trans opened.suffix))
  | _, _, .path separated _ nest => nest.suffix.trans separated.suffix
  | _, _, .anyDeep tok nest => nest.suffix.trans tok.suffix

theorem Nest.suffix : ∀ {cs rest : List Char}, Nest cs rest → rest <:+ cs
  | _, _, .none => List.suffix_refl _
  | _, _, .empty _ opened closed => closed.suffix.trans opened.suffix
  | _, _, .list _ opened list closed => closed.suffix.trans (list.suffix.trans opened.suffix)

end

/-- An expression reads at least one character. -/
theorem Expr.length_lt {cs rest : List Char} (expr : Expr cs rest) : rest.length < cs.length := by
  cases expr with
  | negated minus separated =>
    exact Nat.lt_of_le_of_lt separated.suffix.length_le minus.length_lt
  | fields paren separated _ closed nest =>
    exact Nat.lt_of_le_of_lt (nest.suffix.trans (closed.suffix.trans separated.suffix)).length_le
      paren.length_lt
  | path separated _ nest => exact Nat.lt_of_le_of_lt nest.suffix.length_le separated.length_lt
  | anyDeep tok nest => exact Nat.lt_of_le_of_lt nest.suffix.length_le tok.length_lt

/-- An expression starts with a minus, a parenthesis or a field token, so with none of the
closing brackets. -/
theorem Expr.head_ne {cs rest : List Char} (expr : Expr cs rest) {k : Char}
    (punctuation : k ≠ '-' ∧ k ≠ '(' ∧ k ≠ '~' ∧ k ≠ '/' ∧ isNameStart k = false) :
    (Text.dropBlanks cs).head? ≠ some k := by
  cases expr with
  | negated minus =>
    rw [(punct_iff (by decide)).1 minus]
    exact fun same => punctuation.1 (Option.some.inj same).symm
  | fields paren =>
    rw [(punct_iff (by decide)).1 paren]
    exact fun same => punctuation.2.1 (Option.some.inj same).symm
  | path separated => exact separated.head_ne punctuation.2.2
  | anyDeep tok => exact tok.head_ne punctuation.2.2

theorem ExprList.head_ne {cs rest : List Char} (list : ExprList cs rest) {k : Char}
    (punctuation : k ≠ '-' ∧ k ≠ '(' ∧ k ≠ '~' ∧ k ≠ '/' ∧ isNameStart k = false) :
    (Text.dropBlanks cs).head? ≠ some k := by
  cases list with
  | last expr => exact expr.head_ne punctuation
  | step expr => exact expr.head_ne punctuation

theorem Nest.of_blanks {cs cs' rest : List Char} (skipped : Blanks cs cs') (nest : Nest cs' rest) :
    ∃ rest', Nest cs rest' ∧ Blanks rest' rest := by
  cases nest with
  | none => exact ⟨cs, .none, skipped⟩
  | empty pair opened closed => exact ⟨rest, .empty pair (opened.of_blanks skipped) closed, .refl _⟩
  | list pair opened list closed =>
    exact ⟨rest, .list pair (opened.of_blanks skipped) list closed, .refl _⟩

theorem Nest.head_ne_dot {cs rest : List Char} (nest : Nest cs rest) (follows : Follows rest) :
    (Text.dropBlanks cs).head? ≠ some '.' := by
  cases nest with
  | none => exact follows.head_ne (by decide)
  | empty pair opened | list pair opened =>
    rcases pair with ⟨rfl, -⟩ | ⟨rfl, -⟩ <;>
      simp [(punct_iff (by decide)).1 opened]

theorem BracketPair.plain {o c : Char} (pair : BracketPair o c) :
    Text.isBlank o = false ∧ Text.isBlank c = false := by
  rcases pair with ⟨rfl, rfl⟩ | ⟨rfl, rfl⟩ <;> decide

theorem BracketPair.closing {o c : Char} (pair : BracketPair o c) : c = ']' ∨ c = '}' := by
  rcases pair with ⟨-, rfl⟩ | ⟨-, rfl⟩
  · exact .inl rfl
  · exact .inr rfl

theorem BracketPair.not_opensExpr {o c : Char} (pair : BracketPair o c) :
    c ≠ '-' ∧ c ≠ '(' ∧ c ≠ '~' ∧ c ≠ '/' ∧ isNameStart c = false := by
  rcases pair with ⟨-, rfl⟩ | ⟨-, rfl⟩ <;> decide

end FieldSelection.Selection

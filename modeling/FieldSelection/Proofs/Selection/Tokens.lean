import FieldSelection.Proofs.Selection.Acceptance
import Mathlib.Data.List.TakeWhile
/-!
# Tokens of selection expressions

The reader takes a selection expression token by token and skips the blanks before each one:
a token is a character of punctuation, a name, or a regular expression with its flags.
`Selection.tokens` splits a text into its tokens as the reader does, a name as far as name
characters go and the flags of a regular expression as far as ASCII letters go.

* `tokens_eq_cons` and `tokens_text`: a text starts with a token exactly when, past its
  blanks, it is the token as written followed by something that does not continue it
  (`Token.Read`);
* `tokens_append`: the tokens of two texts side by side are those of each, when the second
  does not start by continuing the last token of the first; `tokens_append_blanks`: trailing
  blanks are no tokens, even where the text does not split into tokens;
* `Token.owed`: the closing brackets a text still owes after its tokens, each closing bracket
  paying the innermost one of its own kind; `Balanced`: brackets that pair up whatever their
  kinds. `owed_swap`: exchanging the kinds of a pair of brackets around a balanced stretch keeps
  every bracket paid;
* `ExprList.tokens`: what the grammar derives splits into tokens whose brackets pair up with
  their kinds, so that a derived text owes nothing (`owed_of_derives`).
-/

namespace FieldSelection.Selection

/-- A token of a selection expression: a character of punctuation, a name as written, or a
regular expression with its delimiter, the pattern it stands for, its body as written and its
flags. -/
inductive Token where
  | punct (c : Char)
  | name (cs : List Char)
  | regex (d : Char) (pat raw flags : List Char)
  deriving DecidableEq, Repr

/-- Whether `c` stands alone as a token of punctuation: no blank, no delimiter of a regular
expression and no name start. -/
def isPunctuation (c : Char) : Bool :=
  !Text.isBlank c && c != '~' && c != '/' && !isNameStart c

/-- The tokens of a text with the blanks between them skipped; `none` when a regular expression
does not close. -/
def tokens : List Char → Option (List Token)
  | [] => some []
  | c :: cs =>
    if Text.isBlank c then tokens cs
    else if c = '~' ∨ c = '/' then
      match _found : Reader.regexBody c cs with
      | some (pat, raw, after) =>
        (tokens (after.drop (Reader.flagLetters after).length)).map
          (Token.regex c pat raw (Reader.flagLetters after) :: ·)
      | none => none
    else if isNameStart c then
      (tokens (cs.dropWhile isNameChar)).map (Token.name (c :: cs.takeWhile isNameChar) :: ·)
    else (tokens cs).map (Token.punct c :: ·)
termination_by cs => cs.length
decreasing_by
  · simp
  · have split := (Reader.regexBody_sound _found).1
    have shorter : (after.drop (Reader.flagLetters after).length).length ≤ after.length := by simp
    rw [split]
    simp only [List.length_cons, List.length_append]
    omega
  · have := (List.dropWhile_suffix isNameChar (l := cs)).length_le
    simp only [List.length_cons]
    omega
  · simp

namespace Token

/-- The token as written. -/
def text : Token → List Char
  | punct c => [c]
  | name cs => cs
  | regex d _ raw flags => d :: raw ++ d :: flags

/-- `t` is read as a whole from its text with `rest` after it: a character of punctuation; a
name that starts with a name start, goes on with name characters and is not continued by
`rest`; or a regular expression that closes where its text says, whose flags `rest` does not
continue. -/
def Read : Token → List Char → Prop
  | punct c, _ => isPunctuation c = true
  | name cs, rest => ∃ c more, cs = c :: more ∧ isNameStart c = true ∧
      (∀ x ∈ more, isNameChar x = true) ∧ ∀ x ∈ rest.head?, isNameChar x = false
  | regex d pat raw flags, rest => (d = '~' ∨ d = '/') ∧
      Reader.regexBody d (raw ++ d :: (flags ++ rest)) = some (pat, raw, flags ++ rest) ∧
      Reader.flagLetters (flags ++ rest) = flags

end Token

/-! ## Reading off one token -/

@[simp] theorem tokens_nil : tokens [] = some [] := by
  rw [tokens.eq_def]

/-- Lexing skips a blank. Stated through `tokens.eq_def`, since the equations of each branch of
`tokens` are slow to generate. -/
theorem tokens_blank {c : Char} (blank : Text.isBlank c = true) (cs : List Char) :
    tokens (c :: cs) = tokens cs := by
  rw [tokens.eq_def]
  dsimp only
  rw [if_pos blank]

theorem isBlank_of_delim {d : Char} (delim : d = '~' ∨ d = '/') : Text.isBlank d = false := by
  rcases delim with rfl | rfl <;> decide

theorem tokens_regex {d : Char} (delim : d = '~' ∨ d = '/') {cs pat raw after : List Char}
    (found : Reader.regexBody d cs = some (pat, raw, after)) :
    tokens (d :: cs) = (tokens (after.drop (Reader.flagLetters after).length)).map
      (Token.regex d pat raw (Reader.flagLetters after) :: ·) := by
  rw [tokens.eq_def]
  dsimp only
  rw [if_neg (by simp [isBlank_of_delim delim]), if_pos delim]
  split
  · rename_i found'
    rw [found] at found'
    cases found'
    rfl
  · rename_i unclosed
    rw [found] at unclosed
    cases unclosed

theorem tokens_unclosed {d : Char} (delim : d = '~' ∨ d = '/') {cs : List Char}
    (unclosed : Reader.regexBody d cs = none) : tokens (d :: cs) = none := by
  rw [tokens.eq_def]
  dsimp only
  rw [if_neg (by simp [isBlank_of_delim delim]), if_pos delim]
  split
  · rename_i found
    rw [unclosed] at found
    cases found
  · rfl

theorem tokens_name {c : Char} (start : isNameStart c = true) (cs : List Char) :
    tokens (c :: cs) =
      (tokens (cs.dropWhile isNameChar)).map (Token.name (c :: cs.takeWhile isNameChar) :: ·) := by
  have notDelim : ¬(c = '~' ∨ c = '/') := by
    rintro (rfl | rfl) <;> cases start
  rw [tokens.eq_def]
  dsimp only
  rw [if_neg (by simp [isBlank_of_isNameStart start]), if_neg notDelim, if_pos start]

theorem tokens_punct {c : Char} (punctuation : isPunctuation c = true) (cs : List Char) :
    tokens (c :: cs) = (tokens cs).map (Token.punct c :: ·) := by
  simp only [isPunctuation, Bool.and_eq_true, Bool.not_eq_eq_eq_not, Bool.not_true,
    bne_iff_ne, ne_eq] at punctuation
  obtain ⟨⟨⟨plain, notTilde⟩, notSlash⟩, notStart⟩ := punctuation
  rw [tokens.eq_def]
  dsimp only
  rw [if_neg (by simp [plain]), if_neg (by rintro (same | same) <;> contradiction),
    if_neg (by simp [notStart])]

/-! ## Blanks -/

theorem tokens_blanks_append {bl : List Char} (blank : ∀ b ∈ bl, Text.isBlank b = true)
    (cs : List Char) : tokens (bl ++ cs) = tokens cs := by
  induction bl with
  | nil => rfl
  | cons b bl ih =>
    rw [List.cons_append, tokens_blank (blank b List.mem_cons_self)]
    exact ih fun x mem => blank x (List.mem_cons_of_mem _ mem)

theorem Blanks.tokens_eq {cs cs' : List Char} (skipped : Blanks cs cs') : tokens cs = tokens cs' := by
  obtain ⟨bl, blank, rfl⟩ := skipped
  exact tokens_blanks_append blank cs'

@[simp] theorem tokens_dropBlanks (cs : List Char) : tokens (Text.dropBlanks cs) = tokens cs :=
  (blanks_dropBlanks cs).tokens_eq.symm

/-! ## A text that starts with a token -/

theorem dropWhile_append_stop {p : Char → Bool} {xs ys : List Char} (run : ∀ x ∈ xs, p x = true)
    (stop : ∀ y ∈ ys.head?, p y = false) : (xs ++ ys).dropWhile p = ys := by
  rw [List.dropWhile_append_of_pos run]
  cases ys with
  | nil => rfl
  | cons y more => exact List.dropWhile_cons_of_neg (by simp [stop y rfl])

theorem isPunctuation_of_bracket {o c : Char} (pair : BracketPair o c) :
    isPunctuation o = true ∧ isPunctuation c = true := by
  rcases pair with ⟨rfl, rfl⟩ | ⟨rfl, rfl⟩ <;> decide

theorem Token.Read.text_ne_nil {t : Token} {rest : List Char} (read : t.Read rest) : t.text ≠ [] := by
  cases t with
  | punct => simp [Token.text]
  | name cs =>
    obtain ⟨c, more, rfl, -⟩ := read
    simp [Token.text]
  | regex => simp [Token.text]

/-- A token read off a text leaves the tokens of what follows it. -/
theorem tokens_text {t : Token} {rest : List Char} (read : t.Read rest) :
    tokens (t.text ++ rest) = (tokens rest).map (t :: ·) := by
  cases t with
  | punct c => exact tokens_punct read rest
  | name cs =>
    obtain ⟨c, more, rfl, start, named, stops⟩ := read
    simp only [Token.text, List.cons_append]
    rw [tokens_name start, Reader.takeWhile_append_stop named stops, dropWhile_append_stop named stops]
  | regex d pat raw flags =>
    obtain ⟨delim, found, letters⟩ := read
    simp only [Token.text, List.cons_append, List.append_assoc]
    rw [tokens_regex delim found, letters, List.drop_left]

/-- A text starts with a token exactly when, past its blanks, it is the token as written and
what follows does not continue it. -/
theorem tokens_eq_cons {cs : List Char} {t : Token} {ts : List Token}
    (lexed : tokens cs = some (t :: ts)) :
    ∃ rest, Text.dropBlanks cs = t.text ++ rest ∧ t.Read rest ∧ tokens rest = some ts := by
  fun_induction tokens cs with
  | case1 => cases lexed
  | case2 c cs blank ih =>
    obtain ⟨rest, skipped, read, more⟩ := ih lexed
    refine ⟨rest, ?_, read, more⟩
    rw [← skipped]
    exact List.dropWhile_cons_of_pos blank
  | case3 c cs plain delim pat raw after found ih =>
    obtain ⟨more, lexedMore, same⟩ := Option.map_eq_some_iff.1 lexed
    obtain ⟨rfl, rfl⟩ := List.cons_eq_cons.1 same.symm
    obtain ⟨split, body⟩ := Reader.regexBody_sound found
    have rejoin : Reader.flagLetters after ++ after.drop (Reader.flagLetters after).length = after := by
      rw [Reader.flagLetters_eq, Reader.drop_takeWhile_length, List.takeWhile_append_dropWhile]
    refine ⟨after.drop (Reader.flagLetters after).length, ?_, ⟨delim, ?_, ?_⟩, lexedMore⟩
    · rw [Text.dropBlanks, List.dropWhile_cons_of_neg (by simp [plain]), split]
      simp only [Token.text, List.cons_append, List.append_assoc, rejoin]
    · rw [rejoin, ← split]
      exact found
    · rw [rejoin]
  | case4 c cs plain delim unclosed => cases lexed
  | case5 c cs plain notDelim start ih =>
    obtain ⟨more, lexedMore, same⟩ := Option.map_eq_some_iff.1 lexed
    obtain ⟨rfl, rfl⟩ := List.cons_eq_cons.1 same.symm
    refine ⟨cs.dropWhile isNameChar, ?_, ?_, lexedMore⟩
    · rw [Text.dropBlanks, List.dropWhile_cons_of_neg (by simp [plain])]
      simp [Token.text]
    · refine ⟨c, _, rfl, start, List.all_eq_true.1 List.all_takeWhile, fun x first => ?_⟩
      have stops := List.head?_dropWhile_not isNameChar cs
      rw [Option.mem_def] at first
      rw [first] at stops
      exact stops
  | case6 c cs plain notDelim notStart ih =>
    obtain ⟨more, lexedMore, same⟩ := Option.map_eq_some_iff.1 lexed
    obtain ⟨rfl, rfl⟩ := List.cons_eq_cons.1 same.symm
    refine ⟨cs, ?_, ?_, lexedMore⟩
    · rw [Text.dropBlanks, List.dropWhile_cons_of_neg (by simp [plain])]
      rfl
    · simp only [Token.Read, isPunctuation, Bool.and_eq_true, Bool.not_eq_eq_eq_not, Bool.not_true]
      simp_all

/-- A text without tokens is blank. -/
theorem dropBlanks_eq_nil {cs : List Char} (lexed : tokens cs = some []) : Text.dropBlanks cs = [] := by
  fun_induction tokens cs with
  | case1 => rfl
  | case2 c cs blank ih => rw [← ih lexed]; exact List.dropWhile_cons_of_pos blank
  | case3 => simp at lexed
  | case4 => cases lexed
  | case5 => simp at lexed
  | case6 => simp at lexed

theorem tokens_length_le {cs : List Char} {ts : List Token} (lexed : tokens cs = some ts) :
    ts.length ≤ cs.length := by
  induction ts generalizing cs with
  | nil => simp
  | cons t ts ih =>
    obtain ⟨rest, skipped, read, more⟩ := tokens_eq_cons lexed
    have shorter := (List.dropWhile_suffix Text.isBlank (l := cs)).length_le
    rw [← Text.dropBlanks, skipped, List.length_append] at shorter
    have := ih more
    have := List.length_pos_iff.2 read.text_ne_nil
    simp only [List.length_cons]
    omega

/-! ## Texts side by side -/

theorem isNameChar_of_isAsciiLetter {c : Char} (letter : isAsciiLetter c = true) :
    isNameChar c = true := by
  simp only [isAsciiLetter, Bool.and_eq_true, decide_eq_true_eq] at letter
  simp [isNameChar, isNameStart, Text.isAlnum, letter.1, Char.isAlphanum, letter.2]

/-- A run of `p` that is all of a prefix says where `p` first fails. -/
theorem takeWhile_eq_self {p : Char → Bool} {xs ys : List Char} (same : (xs ++ ys).takeWhile p = xs) :
    (∀ x ∈ xs, p x = true) ∧ ∀ y ∈ ys.head?, p y = false := by
  constructor
  · intro x mem
    rw [← same] at mem
    exact List.mem_takeWhile_imp mem
  · intro y first
    have rejoin := List.takeWhile_append_dropWhile (p := p) (l := xs ++ ys)
    rw [same, List.append_cancel_left_eq] at rejoin
    have stops := List.head?_dropWhile_not p (xs ++ ys)
    rw [rejoin, Option.mem_def.1 first] at stops
    exact stops

/-- Flags end where the text after them does not go on with an ASCII letter. -/
theorem flagLetters_of_stop {flags rest w : List Char} (letters : Reader.flagLetters (flags ++ rest) = flags)
    (stop : rest = [] → ∀ x ∈ w.head?, isAsciiLetter x = false) :
    Reader.flagLetters (flags ++ (rest ++ w)) = flags := by
  obtain ⟨run, ends⟩ := takeWhile_eq_self letters
  refine Reader.takeWhile_append_stop run ?_
  cases rest with
  | nil =>
    rw [List.nil_append]
    exact stop rfl
  | cons y more => exact ends

theorem regexBody_of_read {d : Char} (delim : d = '~' ∨ d = '/') {raw pat after : List Char}
    (found : Reader.regexBody d (raw ++ d :: after) = some (pat, raw, after)) (after' : List Char) :
    Reader.regexBody d (raw ++ d :: after') = some (pat, raw, after') :=
  Reader.regexBody_complete (by rcases delim with rfl | rfl <;> decide)
    (Reader.regexBody_sound found).2 after'

namespace Token.Read

/-- What does not go on with a name character does not continue a token. -/
theorem append {t : Token} {rest w : List Char} (read : t.Read rest)
    (stop : ∀ x ∈ w.head?, isNameChar x = false) : t.Read (rest ++ w) := by
  cases t with
  | punct c => exact read
  | name cs =>
    obtain ⟨c, more, rfl, start, named, stops⟩ := read
    refine ⟨c, more, rfl, start, named, ?_⟩
    cases rest with
    | nil => simpa using stop
    | cons y more => exact stops
  | regex d pat raw flags =>
    obtain ⟨delim, found, letters⟩ := read
    refine ⟨delim, regexBody_of_read delim found _, flagLetters_of_stop letters fun _ x first => ?_⟩
    cases letter : isAsciiLetter x with
    | false => rfl
    | true =>
      have named := isNameChar_of_isAsciiLetter letter
      rw [stop x first] at named
      cases named

/-- A token read before more text is read before less of it. -/
theorem of_append {t : Token} {rest w : List Char} (read : t.Read (rest ++ w)) : t.Read rest := by
  cases t with
  | punct c => exact read
  | name cs =>
    obtain ⟨c, more, rfl, start, named, stops⟩ := read
    refine ⟨c, more, rfl, start, named, fun x first => ?_⟩
    cases rest with
    | nil => cases first
    | cons y more => exact stops x first
  | regex d pat raw flags =>
    obtain ⟨delim, found, letters⟩ := read
    obtain ⟨run, ends⟩ := takeWhile_eq_self letters
    refine ⟨delim, regexBody_of_read delim found _, Reader.takeWhile_append_stop run ?_⟩
    cases rest with
    | nil => simp
    | cons y more => exact ends

/-- A token read off a text ends with a character that is no blank. -/
theorem last_not_blank {t : Token} {rest : List Char} (read : t.Read rest) :
    ∀ x ∈ t.text.getLast?, Text.isBlank x = false := by
  intro x last
  have named : ∀ {y : Char}, isNameChar y = true → Text.isBlank y = false := fun {y} named => by
    cases blank : Text.isBlank y
    · rfl
    · rw [isNameChar_of_isBlank blank] at named
      cases named
  cases t with
  | punct c =>
    simp only [Token.text, List.getLast?_singleton, Option.mem_def, Option.some.injEq] at last
    subst last
    simp only [Token.Read, isPunctuation, Bool.and_eq_true, Bool.not_eq_eq_eq_not,
      Bool.not_true] at read
    exact read.1.1.1
  | name cs =>
    obtain ⟨c, more, rfl, start, chars, -⟩ := read
    have mem := List.mem_of_getLast? last
    rcases List.mem_cons.1 mem with rfl | inMore
    · exact named (isNameChar_of_isNameStart start)
    · exact named (chars x inMore)
  | regex d pat raw flags =>
    obtain ⟨delim, -, letters⟩ := read
    obtain ⟨run, -⟩ := takeWhile_eq_self letters
    simp only [Token.text] at last
    rcases List.eq_nil_or_concat flags with rfl | ⟨front, y, rfl⟩
    · rw [show d :: raw ++ [d] = (d :: raw) ++ [d] from rfl, List.getLast?_concat, Option.mem_def,
        Option.some.injEq] at last
      subst last
      exact isBlank_of_delim delim
    · rw [List.concat_eq_append] at last run
      rw [show d :: raw ++ d :: (front ++ [y]) = (d :: raw ++ d :: front) ++ [y] by simp,
        List.getLast?_concat, Option.mem_def, Option.some.injEq] at last
      rw [← last]
      exact named (isNameChar_of_isAsciiLetter (run y (by simp)))

end Token.Read

/-- The tokens of two texts side by side, when the second does not start with a name
character, are those of the first followed by those of the second. -/
theorem tokens_append {x w : List Char} {ts : List Token} (lexed : tokens x = some ts)
    (stop : ∀ c ∈ w.head?, isNameChar c = false) : tokens (x ++ w) = (tokens w).map (ts ++ ·) := by
  induction ts generalizing x with
  | nil =>
    obtain ⟨bl, blank, split⟩ := blanks_dropBlanks x
    rw [dropBlanks_eq_nil lexed, List.append_nil] at split
    subst split
    simp [tokens_blanks_append blank]
  | cons t ts ih =>
    obtain ⟨rest, skipped, read, more⟩ := tokens_eq_cons lexed
    obtain ⟨bl, blank, split⟩ := blanks_dropBlanks x
    rw [skipped] at split
    subst split
    rw [List.append_assoc, tokens_blanks_append blank, List.append_assoc, tokens_text (read.append stop),
      ih more, Option.map_map]
    rfl

/-- The tokens a text has with blanks after it, it has without them. -/
theorem tokens_of_append_blanks {bl : List Char} (blank : ∀ b ∈ bl, Text.isBlank b = true) :
    ∀ {ts : List Token} {x : List Char}, tokens (x ++ bl) = some ts → tokens x = some ts
  | [], x, lexed => by
    have allBlank : ∀ b ∈ x ++ bl, Text.isBlank b = true :=
      List.dropWhile_eq_nil_iff.1 (dropBlanks_eq_nil lexed)
    simpa using tokens_blanks_append (fun b mem => allBlank b (List.mem_append_left _ mem)) []
  | t :: ts, x, lexed => by
    obtain ⟨rest, skipped, read, more⟩ := tokens_eq_cons lexed
    have within : ∃ rest', Text.dropBlanks x = t.text ++ rest' ∧ rest = rest' ++ bl := by
      have joined : Text.dropBlanks (x ++ bl) = Text.dropBlanks x ++ bl := by
        rw [Text.dropBlanks, List.dropWhile_append]
        split
        · rename_i empty
          exfalso
          have none : Text.dropBlanks (x ++ bl) = [] := by
            rw [Text.dropBlanks, List.dropWhile_append, if_pos empty, List.dropWhile_eq_nil_iff.2 blank]
          rw [none] at skipped
          exact read.text_ne_nil (List.append_eq_nil_iff.1 skipped.symm).1
        · rfl
      rw [joined] at skipped
      rcases List.append_eq_append_iff.1 skipped with ⟨more, text, split⟩ | ⟨more, dropped, split⟩
      · rcases List.eq_nil_or_concat more with rfl | ⟨front, y, rfl⟩
        · exact ⟨[], by simpa using text.symm, by simpa using split.symm⟩
        · rw [List.concat_eq_append] at text split
          have last := read.last_not_blank y (by rw [text, ← List.append_assoc, List.getLast?_concat]; rfl)
          rw [blank y (by rw [split]; simp)] at last
          cases last
      · exact ⟨more, dropped, split⟩
    obtain ⟨rest', dropped, rfl⟩ := within
    rw [← tokens_dropBlanks, dropped, tokens_text (read.of_append),
      tokens_of_append_blanks blank more]
    rfl

/-- Trailing blanks are no tokens. -/
theorem tokens_append_blanks {x bl : List Char} (blank : ∀ b ∈ bl, Text.isBlank b = true) :
    tokens (x ++ bl) = tokens x := by
  cases lexed : tokens x with
  | some ts =>
    have stop : ∀ c ∈ bl.head?, isNameChar c = false := fun c first =>
      isNameChar_of_isBlank (blank c (List.mem_of_mem_head? first))
    rw [tokens_append lexed stop, show bl = bl ++ [] by simp, tokens_blanks_append blank]
    simp
  | none =>
    cases both : tokens (x ++ bl) with
    | none => rfl
    | some ts => rw [tokens_of_append_blanks blank both] at lexed; cases lexed

/-! ## Brackets -/

namespace Token

/-- Whether the token is a bracket. -/
def isBracket : Token → Bool
  | punct c => c == '[' || c == '{' || c == ']' || c == '}'
  | _ => false

/-- The closing brackets still owed after one more token, innermost first: an opening bracket
owes its closing one, and a closing bracket pays the innermost one owed, which must be of its
kind; `none` once a closing bracket does not. -/
def owe : Option (List Char) → Token → Option (List Char)
  | some pending, punct c =>
    match Reader.closer (some c) with
    | some k => some (k :: pending)
    | none =>
      if c = ']' ∨ c = '}' then (if pending.head? = some c then some pending.tail else none)
      else some pending
  | pending, _ => pending

/-- The closing brackets still owed after the tokens `ts`, when `pending` were owed before. -/
def owed (ts : List Token) (pending : List Char) : Option (List Char) :=
  ts.foldl owe (some pending)

/-- Tokens that leave the brackets owed as they were: their own brackets pair up, each pair of
one kind. -/
def Settles (ts : List Token) : Prop := ∀ pending, owed ts pending = some pending

@[simp] theorem owe_none (t : Token) : owe none t = none := by
  cases t <;> rfl

theorem foldl_owe_none (ts : List Token) : ts.foldl owe none = none := by
  induction ts with
  | nil => rfl
  | cons t ts ih => rwa [List.foldl_cons, owe_none]

@[simp] theorem owed_nil (pending : List Char) : owed [] pending = some pending := rfl

theorem owed_append (xs ys : List Token) (pending : List Char) :
    owed (xs ++ ys) pending = (owed xs pending).bind (owed ys) := by
  unfold owed
  rw [List.foldl_append]
  cases xs.foldl owe (some pending) with
  | none => exact foldl_owe_none ys
  | some mid => rfl

theorem owed_cons (t : Token) (ts : List Token) (pending : List Char) :
    owed (t :: ts) pending = (owe (some pending) t).bind (owed ts) :=
  owed_append [t] ts pending

theorem owe_of_not_bracket {t : Token} (plain : t.isBracket = false) (pending : List Char) :
    owe (some pending) t = some pending := by
  cases t with
  | punct c =>
    simp only [isBracket, Bool.or_eq_false_iff, beq_eq_false_iff_ne] at plain
    obtain ⟨⟨⟨notOpen, notBrace⟩, notClose⟩, notClosingBrace⟩ := plain
    simp only [owe, Reader.closer]
    split
    · rename_i k opens
      split at opens <;> simp_all
    · simp [notClose, notClosingBrace]
  | name => rfl
  | regex => rfl

theorem owe_open {o c : Char} (pair : BracketPair o c) (pending : List Char) :
    owe (some pending) (punct o) = some (c :: pending) := by
  rcases pair with ⟨rfl, rfl⟩ | ⟨rfl, rfl⟩ <;> rfl

theorem owe_close {c : Char} (closes : c = ']' ∨ c = '}') (k : Char) (pending : List Char) :
    owe (some (k :: pending)) (punct c) = if k = c then some pending else none := by
  rcases closes with rfl | rfl
  · by_cases same : k = ']' <;> simp [owe, Reader.closer, same]
  · by_cases same : k = '}' <;> simp [owe, Reader.closer, same]

theorem settles_nil : Settles [] := fun _ => rfl

theorem Settles.append {xs ys : List Token} (first : Settles xs) (second : Settles ys) :
    Settles (xs ++ ys) := fun pending => by
  rw [owed_append, first, Option.bind_some, second]

theorem settles_of_plain {ts : List Token} (plain : ∀ t ∈ ts, t.isBracket = false) : Settles ts := by
  induction ts with
  | nil => exact settles_nil
  | cons t ts ih =>
    intro pending
    rw [owed_cons, owe_of_not_bracket (plain t List.mem_cons_self), Option.bind_some]
    exact ih (fun x mem => plain x (List.mem_cons_of_mem _ mem)) pending

/-- A pair of brackets of one kind around tokens that settle settles. -/
theorem settles_group {o c : Char} (pair : BracketPair o c) {inner : List Token}
    (settled : Settles inner) : Settles (punct o :: inner ++ [punct c]) := fun pending => by
  rw [List.cons_append, owed_cons, owe_open pair, Option.bind_some, owed_append, settled,
    Option.bind_some, owed_cons, owe_close pair.closing, if_pos rfl]
  rfl

end Token

/-- Token lists whose brackets pair up, whatever their kinds: each closing bracket closes the
innermost bracket still open, and none is left open. -/
inductive Balanced : List Token → Prop
  | nil : Balanced []
  | plain {t : Token} {ts : List Token} : t.isBracket = false → Balanced ts → Balanced (t :: ts)
  | group {o c : Char} {inner ts : List Token} : (o = '[' ∨ o = '{') → (c = ']' ∨ c = '}') →
      Balanced inner → Balanced ts → Balanced (Token.punct o :: inner ++ Token.punct c :: ts)

/-- What a balanced stretch owes does not depend on what was owed before it: either its pairs
are all of one kind and it owes nothing more, or one is not and it fails. -/
theorem Balanced.owed {ts : List Token} (balanced : Balanced ts) :
    (Token.owed ts [] = some [] ∨ Token.owed ts [] = none) ∧
      ∀ pending, Token.owed ts pending = (Token.owed ts []).map (· ++ pending) := by
  induction balanced with
  | nil => exact ⟨.inl rfl, fun _ => rfl⟩
  | plain notBracket _ ih =>
    simp only [Token.owed_cons, Token.owe_of_not_bracket notBracket, Option.bind_some]
    exact ih
  | @group o c inner ts opens closes _ _ ihInner ihRest =>
    obtain ⟨k, opened⟩ : ∃ k, ∀ pending, Token.owe (some pending) (.punct o) = some (k :: pending) := by
      rcases opens with rfl | rfl
      · exact ⟨']', fun _ => rfl⟩
      · exact ⟨'}', fun _ => rfl⟩
    have closing := Token.owe_close closes k
    have whole : ∀ pending, Token.owed (.punct o :: inner ++ .punct c :: ts) pending =
        if Token.owed inner [] = some [] ∧ k = c then Token.owed ts pending else none := by
      intro pending
      rw [List.cons_append, Token.owed_cons, opened, Option.bind_some, Token.owed_append,
        ihInner.2]
      rcases ihInner.1 with paid | failed
      · rw [paid, Option.map_some, Option.bind_some, List.nil_append, Token.owed_cons, closing]
        by_cases same : k = c <;> simp [same]
      · simp [failed]
    refine ⟨?_, fun pending => ?_⟩
    · rw [whole]
      split
      · exact ihRest.1
      · exact .inr rfl
    · rw [whole, whole, ihRest.2]
      split <;> rfl

/-- Exchanging the kinds of a pair of brackets around a balanced stretch keeps every bracket
paid. -/
theorem owed_swap {ts₁ ts₂ ts₃ : List Token} {o c o' c' : Char} (pair : BracketPair o c)
    (pair' : BracketPair o' c') (balanced : Balanced ts₂)
    (paid : Token.owed (ts₁ ++ Token.punct o :: ts₂ ++ Token.punct c :: ts₃) [] = some []) :
    Token.owed (ts₁ ++ Token.punct o' :: ts₂ ++ Token.punct c' :: ts₃) [] = some [] := by
  have group : ∀ {o c : Char}, BracketPair o c → ∀ pending,
      Token.owed (Token.punct o :: ts₂ ++ Token.punct c :: ts₃) pending =
        if Token.owed ts₂ [] = some [] then Token.owed ts₃ pending else none := by
    intro o c pair pending
    rw [List.cons_append, Token.owed_cons, Token.owe_open pair, Option.bind_some,
      Token.owed_append, balanced.owed.2]
    rcases balanced.owed.1 with settled | failed
    · rw [settled, Option.map_some, Option.bind_some, List.nil_append, Token.owed_cons,
        Token.owe_close pair.closing, if_pos rfl]
      simp
    · simp [failed]
  rw [List.append_assoc, Token.owed_append] at paid ⊢
  cases before : Token.owed ts₁ [] with
  | none =>
    rw [before] at paid
    cases paid
  | some pending =>
    rw [before, Option.bind_some] at paid
    rw [Option.bind_some, group pair']
    rwa [group pair] at paid

/-! ## What the grammar derives -/

theorem Punct.tokens {c : Char} {cs rest : List Char} (punct : Punct c cs rest)
    (punctuation : isPunctuation c = true) : tokens cs = (tokens rest).map (Token.punct c :: ·) := by
  rw [Blanks.tokens_eq punct, tokens_punct punctuation]

theorem tokens_trans {cs mid rest : List Char} {a b : List Token}
    (first : tokens cs = (tokens mid).map (a ++ ·)) (second : tokens mid = (tokens rest).map (b ++ ·)) :
    tokens cs = (tokens rest).map (a ++ b ++ ·) := by
  rw [first, second, Option.map_map]
  congr 1
  funext zs
  simp

theorem FieldToken.tokens {cs t rest : List Char} (tok : FieldToken cs t rest) :
    ∃ tk : Token, tk.isBracket = false ∧ Selection.tokens cs = (Selection.tokens rest).map (tk :: ·) := by
  cases tok with
  | name skipped start named stops =>
    rename_i more c
    refine ⟨.name (c :: more), rfl, ?_⟩
    rw [skipped.tokens_eq]
    exact tokens_text (t := .name (c :: more)) ⟨c, more, rfl, start, named, stops⟩
  | regex skipped delim body nonEmpty onlyI stops compiles =>
    rename_i raw pat flags d
    refine ⟨.regex d pat raw flags, rfl, ?_⟩
    rw [skipped.tokens_eq]
    have read : (Token.regex d pat raw flags).Read rest :=
      ⟨delim, Reader.regexBody_complete (by rcases delim with rfl | rfl <;> decide) body _,
        Reader.flagLetters_append onlyI stops⟩
    simpa [Token.text] using tokens_text read

theorem Separated.tokens {sep : Char} {cs rest : List Char} {ts : List (List Char)}
    (separated : Separated sep cs ts rest) (punctuation : isPunctuation sep = true)
    (plain : (Token.punct sep).isBracket = false) :
    ∃ toks : List Token, (∀ t ∈ toks, t.isBracket = false) ∧
      Selection.tokens cs = (Selection.tokens rest).map (toks ++ ·) := by
  induction separated with
  | last tok =>
    obtain ⟨tk, notBracket, lexed⟩ := tok.tokens
    exact ⟨[tk], by simpa using notBracket, by simpa using lexed⟩
  | step tok punct _ ih =>
    obtain ⟨tk, notBracket, lexed⟩ := tok.tokens
    obtain ⟨toks, plainToks, more⟩ := ih
    refine ⟨tk :: Token.punct sep :: toks, ?_, ?_⟩
    · intro t mem
      rcases List.mem_cons.1 mem with rfl | mem
      · exact notBracket
      rcases List.mem_cons.1 mem with rfl | mem
      · exact plain
      · exact plainToks t mem
    · exact tokens_trans (a := [tk]) (by simpa using lexed)
        (tokens_trans (a := [Token.punct sep]) (by simpa using punct.tokens punctuation) more)

mutual

theorem ExprList.tokens : ∀ {cs rest : List Char}, ExprList cs rest →
    ∃ toks, Token.Settles toks ∧ Selection.tokens cs = (Selection.tokens rest).map (toks ++ ·)
  | _, _, .last expr => expr.tokens
  | _, _, .step expr punct list => by
    obtain ⟨xs, settled, first⟩ := expr.tokens
    obtain ⟨ys, settled', rest⟩ := list.tokens
    exact ⟨xs ++ Token.punct ',' :: ys,
      settled.append (Token.settles_of_plain
        (show ∀ t ∈ [Token.punct ','], t.isBracket = false by decide) |>.append settled'),
      tokens_trans first (tokens_trans (a := [Token.punct ',']) (by simpa using punct.tokens (by decide)) rest)⟩

theorem Expr.tokens : ∀ {cs rest : List Char}, Expr cs rest →
    ∃ toks, Token.Settles toks ∧ Selection.tokens cs = (Selection.tokens rest).map (toks ++ ·)
  | _, _, .negated minus separated _ => by
    obtain ⟨xs, plain, steps⟩ := separated.tokens (by decide) (by decide)
    exact ⟨Token.punct '-' :: xs, Token.settles_of_plain (List.forall_mem_cons.2 ⟨by decide, plain⟩),
      tokens_trans (a := [Token.punct '-']) (by simpa using minus.tokens (by decide)) steps⟩
  | _, _, .fields opened separated _ closed nest => by
    obtain ⟨xs, plain, fields⟩ := separated.tokens (by decide) (by decide)
    obtain ⟨ys, settled, nested⟩ := nest.tokens
    have plainAll : ∀ t ∈ Token.punct '(' :: (xs ++ [Token.punct ')']), t.isBracket = false := by
      refine List.forall_mem_cons.2 ⟨by decide, fun t mem => ?_⟩
      rcases List.mem_append.1 mem with mem | mem
      · exact plain t mem
      · rw [List.mem_singleton.1 mem]
        decide
    refine ⟨Token.punct '(' :: (xs ++ [Token.punct ')']) ++ ys,
      (Token.settles_of_plain plainAll).append settled, ?_⟩
    exact tokens_trans (a := [Token.punct '(']) (by simpa using opened.tokens (by decide))
      (tokens_trans fields (tokens_trans (a := [Token.punct ')'])
        (by simpa using closed.tokens (by decide)) nested)) |>.trans (by simp)
  | _, _, .path separated _ nest => by
    obtain ⟨xs, plain, steps⟩ := separated.tokens (by decide) (by decide)
    obtain ⟨ys, settled, nested⟩ := nest.tokens
    exact ⟨xs ++ ys, (Token.settles_of_plain plain).append settled, tokens_trans steps nested⟩
  | _, _, .anyDeep tok nest => by
    obtain ⟨tk, notBracket, lexed⟩ := tok.tokens
    obtain ⟨ys, settled, nested⟩ := nest.tokens
    exact ⟨tk :: ys, (Token.settles_of_plain
      (show ∀ t ∈ [tk], t.isBracket = false by simpa using notBracket)).append settled,
      tokens_trans (a := [tk]) (by simpa using lexed) nested⟩

theorem Nest.tokens : ∀ {cs rest : List Char}, Nest cs rest →
    ∃ toks, Token.Settles toks ∧ Selection.tokens cs = (Selection.tokens rest).map (toks ++ ·)
  | _, _, .none => ⟨[], Token.settles_nil, by simp⟩
  | _, _, @Nest.empty _ _ _ o c pair opened closed => by
    have punctuation := isPunctuation_of_bracket pair
    refine ⟨[Token.punct o, Token.punct c], by simpa using Token.settles_group pair Token.settles_nil, ?_⟩
    exact tokens_trans (a := [Token.punct o]) (by simpa using opened.tokens punctuation.1)
      (by simpa using closed.tokens punctuation.2)
  | _, _, @Nest.list _ _ _ _ o c pair opened list closed => by
    have punctuation := isPunctuation_of_bracket pair
    obtain ⟨xs, settled, inner⟩ := list.tokens
    refine ⟨Token.punct o :: xs ++ [Token.punct c], Token.settles_group pair settled, ?_⟩
    exact tokens_trans (a := [Token.punct o]) (by simpa using opened.tokens punctuation.1)
      (tokens_trans inner (b := [Token.punct c]) (by simpa using closed.tokens punctuation.2)) |>.trans
        (by simp)

end

/-- A derived text splits into tokens, and every bracket among them is paid by one of its kind. -/
theorem owed_of_derives {cs : List Char} (derived : Derives cs) :
    ∃ ts, tokens cs = some ts ∧ Token.owed ts [] = some [] := by
  obtain ⟨ts, settled, lexed⟩ := ExprList.tokens derived
  exact ⟨ts, by simpa using lexed, settled []⟩

end FieldSelection.Selection

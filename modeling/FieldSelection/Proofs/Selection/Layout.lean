import FieldSelection.Proofs.Selection.Tokens
import Mathlib.Tactic.Choose
/-!
# Layout

What a selection expression compiles to depends on its tokens only: not on the blanks between
them, and not on which kind of brackets, square or curly, encloses a nested expression.

The reader runs on two texts side by side (`InStep`): the same tree so far, and texts ahead that
split into the same tokens once the kinds of brackets are forgotten (`Token.erase`). Every step
of the reader keeps the two runs in step: a look-ahead sees the same character up to the kind
of bracket, a field reads the same token into the same matcher, and the tree grows alike. Only
a closing bracket asks more: the reader checks it against the bracket that opened its nested
expression, so the second text must pay each bracket with its own kind (`Token.owed`), which
the first text, read successfully, does too.

* `parse_of_sameTokens`: a text compiles to what another compiles to when both split into
  tokens that agree up to the kinds of brackets, and those of the second pair up;
* `parse_insert_blanks`: blanks inserted where one token ends and the next begins change
  nothing;
* `parse_swap_brackets`: nor does exchanging the kind of a pair of brackets around a balanced
  stretch of tokens;
* `parse_ignores_layout`: both at once, for every text that compiles.
-/

namespace FieldSelection.Selection

/-- A bracket with its kind forgotten: braces read as square brackets. -/
def plainBracket (c : Char) : Char :=
  if c = '{' then '[' else if c = '}' then ']' else c

namespace Token

/-- The token with the kind of its bracket forgotten. -/
def erase : Token → Token
  | punct c => punct (plainBracket c)
  | t => t

/-- The matcher a name or a regular expression token stands for, when the reader takes it as a
field: a regular expression needs a pattern, only the flag `i`, and a pattern that compiles. -/
def matcher? : Token → Option NameMatcher
  | punct _ => none
  | name cs => (nameMatcher (String.ofList cs)).toOption
  | regex d pat raw flags =>
    if pat.isEmpty then none
    else match flags.find? (· != 'i') with
      | some _ => none
      | none =>
        (NameMatcher.ofRegex (String.ofList (d :: raw ++ d :: flags)) (String.ofList pat)
          (!flags.isEmpty)).toOption

end Token

/-- Two cursors in step, the second owing the closing brackets `pending`: both texts ahead
split into tokens, `ts` in the second and the same up to the kinds of brackets in the first,
and reading `ts` pays every bracket it opens and then those pending, each with its own kind. -/
structure Ahead (pending : List Char) (c₁ c₂ : Cursor) (ts : List Token) : Prop where
  left : (tokens c₁.rest).map (List.map Token.erase) = some (ts.map Token.erase)
  right : tokens c₂.rest = some ts
  paid : Token.owed ts pending = some []

/-- Two readings in step: the same tree, and cursors in step. -/
structure InStep (pending : List Char) (r₁ r₂ : Reading) (ts : List Token) : Prop where
  tree : r₁.tree = r₂.tree
  ahead : Ahead pending r₁.cursor r₂.cursor ts

/-! ## Brackets with their kinds forgotten -/

theorem BracketPair.opening {o c : Char} (pair : BracketPair o c) : o = '[' ∨ o = '\x7b' := by
  rcases pair with ⟨rfl, -⟩ | ⟨rfl, -⟩
  · exact .inl rfl
  · exact .inr rfl

/-- Forgetting the kind turns a brace into a square bracket and leaves any other character. -/
theorem plainBracket_cases (c : Char) :
    (c = '{' ∧ plainBracket c = '[') ∨ (c = '}' ∧ plainBracket c = ']') ∨
      (c ≠ '{' ∧ c ≠ '}' ∧ plainBracket c = c) := by
  unfold plainBracket
  by_cases brace : c = '{'
  · simp [brace]
  · by_cases closing : c = '}' <;> simp [brace, closing]

theorem plainBracket_eq_open {c : Char} : plainBracket c = '[' ↔ c = '[' ∨ c = '{' := by
  rcases plainBracket_cases c with ⟨rfl, kind⟩ | ⟨rfl, kind⟩ | ⟨brace, -, kind⟩
  · simp [kind]
  · simp [kind]
  · simp [kind, brace]

theorem plainBracket_eq_close {c : Char} : plainBracket c = ']' ↔ c = ']' ∨ c = '}' := by
  rcases plainBracket_cases c with ⟨rfl, kind⟩ | ⟨rfl, kind⟩ | ⟨-, closing, kind⟩
  · simp [kind]
  · simp [kind]
  · simp [kind, closing]

theorem plainBracket_plainBracket (c : Char) : plainBracket (plainBracket c) = plainBracket c := by
  rcases plainBracket_cases c with ⟨rfl, kind⟩ | ⟨rfl, kind⟩ | ⟨-, -, kind⟩
  · rw [kind]
    rfl
  · rw [kind]
    rfl
  · rw [kind, kind]

/-- Forgetting kinds keeps every character that is no bracket, and no other character turns
into one. -/
theorem plainBracket_eq_iff {c x : Char} (plain : (Token.punct x).isBracket = false) :
    plainBracket c = x ↔ c = x := by
  simp only [Token.isBracket, Bool.or_eq_false_iff, beq_eq_false_iff_ne, ne_eq] at plain
  obtain ⟨⟨⟨notOpen, notBrace⟩, notClose⟩, notClosingBrace⟩ := plain
  rcases plainBracket_cases c with ⟨rfl, kind⟩ | ⟨rfl, kind⟩ | ⟨-, -, kind⟩ <;> rw [kind]
  · exact ⟨fun same => absurd same.symm notOpen, fun same => absurd same.symm notBrace⟩
  · exact ⟨fun same => absurd same.symm notClose, fun same => absurd same.symm notClosingBrace⟩

theorem some_iff_of_plainBracket {o₁ o₂ : Option Char} (same : o₁.map plainBracket = o₂.map plainBracket)
    {x : Char} (plain : (Token.punct x).isBracket = false) : o₁ = some x ↔ o₂ = some x := by
  cases o₁ with
  | none => cases o₂ <;> simp_all
  | some c₁ =>
    cases o₂ with
    | none => cases same
    | some c₂ =>
      simp only [Option.map_some, Option.some.injEq] at same ⊢
      rw [← plainBracket_eq_iff (c := c₁) plain, ← plainBracket_eq_iff (c := c₂) plain, same]

namespace Token

theorem erase_eq_erase {t₁ t₂ : Token} (same : t₁.erase = t₂.erase) :
    t₁ = t₂ ∨ ∃ c₁ c₂, t₁ = punct c₁ ∧ t₂ = punct c₂ ∧ plainBracket c₁ = plainBracket c₂ := by
  cases t₁ <;> cases t₂ <;> simp_all [erase]

theorem erase_head (t : Token) :
    t.erase.text.head?.map plainBracket = t.text.head?.map plainBracket := by
  cases t with
  | punct c => simp [erase, text, plainBracket_plainBracket]
  | name => rfl
  | regex => rfl

/-- A token that stands for a matcher is no punctuation, so it is its own erasure. -/
theorem eq_of_erase_eq {t₁ t₂ : Token} (same : t₁.erase = t₂.erase) {m : NameMatcher}
    (field : t₁.matcher? = some m) : t₁ = t₂ := by
  rcases erase_eq_erase same with same | ⟨c₁, c₂, rfl, -, -⟩
  · exact same
  · cases field

theorem isBracket_of_matcher {t : Token} {m : NameMatcher} (field : t.matcher? = some m) :
    t.isBracket = false := by
  cases t with
  | punct => cases field
  | name => rfl
  | regex => rfl

end Token

/-- The first character past the blanks is the first of the first token. -/
theorem head_dropBlanks {cs : List Char} {t : Token} {ts : List Token}
    (lexed : tokens cs = some (t :: ts)) : (Text.dropBlanks cs).head? = t.text.head? := by
  obtain ⟨rest, skipped, read, -⟩ := tokens_eq_cons lexed
  obtain ⟨y, ys, text⟩ := List.exists_cons_of_ne_nil read.text_ne_nil
  rw [skipped, text]
  rfl

namespace Ahead

variable {pending : List Char} {c₁ c₂ : Cursor} {ts : List Token}

theorem exists_left (ahead : Ahead pending c₁ c₂ ts) :
    ∃ ts₁, tokens c₁.rest = some ts₁ ∧ ts₁.map Token.erase = ts.map Token.erase := by
  obtain ⟨ts₁, lexed, same⟩ := Option.map_eq_some_iff.1 ahead.left
  exact ⟨ts₁, lexed, same⟩

/-- The two readers look ahead at the same character, up to the kind of bracket. -/
theorem peek (ahead : Ahead pending c₁ c₂ ts) :
    (Text.dropBlanks c₁.rest).head?.map plainBracket = (Text.dropBlanks c₂.rest).head?.map plainBracket := by
  obtain ⟨ts₁, lexed, same⟩ := ahead.exists_left
  cases ts with
  | nil =>
    rw [List.map_nil, List.map_eq_nil_iff] at same
    subst same
    rw [dropBlanks_eq_nil lexed, dropBlanks_eq_nil ahead.right]
  | cons t ts =>
    cases ts₁ with
    | nil => cases same
    | cons t₁ ts₁ =>
      simp only [List.map_cons, List.cons.injEq] at same
      rw [head_dropBlanks lexed, head_dropBlanks ahead.right, ← Token.erase_head, same.1,
        Token.erase_head]

theorem skipBlanks (ahead : Ahead pending c₁ c₂ ts) :
    Ahead pending c₁.skipBlanks c₂.skipBlanks ts where
  left := by rw [Cursor.skipBlanks_rest, tokens_dropBlanks]; exact ahead.left
  right := by rw [Cursor.skipBlanks_rest, tokens_dropBlanks]; exact ahead.right
  paid := ahead.paid

/-- Past a character of punctuation both readers move on by one token. -/
theorem bump (ahead : Ahead pending c₁ c₂ ts) {x : Char}
    (first : (Text.dropBlanks c₂.rest).head? = some x) (punctuation : isPunctuation x = true) :
    ∃ ts' pending', ts = .punct x :: ts' ∧ Token.owe (some pending) (.punct x) = some pending' ∧
      Ahead pending' c₁.skipBlanks.bump c₂.skipBlanks.bump ts' := by
  obtain ⟨t, ts, rfl⟩ : ∃ t ts', ts = t :: ts' := by
    cases ts with
    | nil => rw [dropBlanks_eq_nil ahead.right] at first; cases first
    | cons t ts => exact ⟨t, ts, rfl⟩
  obtain ⟨rest₂, skipped₂, read₂, more₂⟩ := tokens_eq_cons ahead.right
  have token : t = .punct x := by
    rw [head_dropBlanks ahead.right] at first
    cases t with
    | punct c => simpa [Token.text] using first
    | name cs =>
      obtain ⟨c, more, rfl, start, -⟩ := read₂
      simp only [Token.text, List.head?_cons, Option.some.injEq] at first
      subst first
      simp [isPunctuation, start] at punctuation
    | regex d =>
      obtain ⟨delim, -⟩ := read₂
      simp only [Token.text, List.cons_append, List.head?_cons, Option.some.injEq] at first
      subst first
      rcases delim with rfl | rfl <;> cases punctuation
  subst token
  obtain ⟨ts₁, lexed, same⟩ := ahead.exists_left
  cases ts₁ with
  | nil => cases same
  | cons t₁ ts₁ =>
  simp only [List.map_cons, List.cons.injEq] at same
  obtain ⟨rest₁, skipped₁, read₁, more₁⟩ := tokens_eq_cons lexed
  obtain ⟨c₁, rfl⟩ : ∃ c₁, t₁ = .punct c₁ := by
    rcases Token.erase_eq_erase same.1 with same' | ⟨c₁, -, rfl, -, -⟩
    · exact ⟨x, same'⟩
    · exact ⟨c₁, rfl⟩
  have paid := ahead.paid
  rw [Token.owed_cons] at paid
  obtain ⟨pending', owed, rest⟩ := Option.bind_eq_some_iff.1 paid
  refine ⟨ts, pending', rfl, owed, ⟨?_, ?_, rest⟩⟩
  · simp only [Cursor.bump_rest, Cursor.skipBlanks_rest, skipped₁, Token.text, List.singleton_append,
      List.tail_cons, more₁, Option.map_some, same.2]
  · simp only [Cursor.bump_rest, Cursor.skipBlanks_rest, skipped₂, Token.text, List.singleton_append,
      List.tail_cons, more₂]

end Ahead

/-! ## Fields -/

namespace Reader

/-- A regular expression read off its token: the field's matcher is the token's, when the
reader accepts it, and the reader stops right after the flags. -/
theorem regexField_reads {d : Char} {r : Reading} {pat raw flags rest : List Char}
    (here : r.cursor.rest = (Token.regex d pat raw flags).text ++ rest)
    (found : regexBody d (raw ++ d :: (flags ++ rest)) = some (pat, raw, flags ++ rest))
    (letters : flagLetters (flags ++ rest) = flags) :
    ((regexField d).run r).toOption.map (fun p => (p.1.matcher, p.2.cursor.rest, p.2.tree)) =
      (Token.regex d pat raw flags).matcher?.map (fun m => (m, rest, r.tree)) := by
  have body : r.cursor.rest.drop 1 = raw ++ d :: (flags ++ rest) := by
    rw [here]
    simp [Token.text]
  have literal : r.cursor.rest.take (1 + raw.length + 1 + flags.length) = d :: raw ++ d :: flags := by
    rw [here]
    exact List.take_left' (by simp [Token.text]; omega)
  unfold regexField
  simp only [run_get_bind, body, found, run_set_bind, letters]
  split
  · rename_i empty
    simp only [run_failAt_bind]
    simp [Token.matcher?, empty, Except.toOption]
  · rename_i nonEmpty
    simp only [Token.matcher?, nonEmpty, if_false, Bool.false_eq_true]
    cases bad : flags.find? (· != 'i') with
    | some b =>
      simp only [run_failAt]
      rfl
    | none =>
      simp only [run_modify_bind, literal]
      split
      · rename_i m compiled
        rw [compiled]
        simp only [run_pure]
        simp [Except.toOption, Cursor.advance]
      · rename_i e failed
        rw [failed]
        rfl

/-- A field read off a token that the text starts with past its blanks: the field's matcher is
the token's, when the reader accepts it, and the reader stops right after the token. -/
theorem field_reads_text {r : Reading} {t : Token} {rest : List Char}
    (skipped : Text.dropBlanks r.cursor.rest = t.text ++ rest) (read : t.Read rest) :
    (field.run r).toOption.map (fun p => (p.1.matcher, p.2.cursor.rest, p.2.tree)) =
      t.matcher?.map (fun m => (m, rest, r.tree)) := by
  simp only [field, run_modify_bind, run_get_bind, Cursor.skipBlanks_rest, skipped]
  cases t with
  | punct c =>
    simp only [Token.Read, isPunctuation, Bool.and_eq_true, Bool.not_eq_eq_eq_not, Bool.not_true,
      bne_iff_ne, ne_eq] at read
    obtain ⟨⟨⟨-, notTilde⟩, notSlash⟩, notStart⟩ := read
    simp only [Token.text, List.singleton_append, List.head?_cons]
    split
    · rename_i start
      rw [notStart] at start
      cases start
    · simp [Except.toOption, Token.matcher?]
  | name cs =>
    obtain ⟨c, more, rfl, start, named, stops⟩ := read
    have run : (c :: more ++ rest).takeWhile isNameChar = c :: more := by
      rw [List.cons_append, ← List.cons_append]
      exact takeWhile_append_stop (by simpa [isNameChar_of_isNameStart start] using named) stops
    simp only [Token.text, List.cons_append, List.head?_cons]
    split
    · rename_i tilde
      cases tilde
      cases start
    · rename_i slash
      cases slash
      cases start
    · rename_i same
      cases same
      obtain ⟨m, named⟩ := nameMatcher_ok (String.ofList (c :: more))
      simp only [start, if_true, run_set_bind, ← List.cons_append, run, named, run_pure]
      have spelt : nameMatcher (String.singleton c ++ String.ofList more) = .ok m := by
        simpa using named
      simp [Except.toOption, Token.matcher?, Cursor.advance, skipped, Token.text, spelt]
    · rename_i nothing
      cases nothing
  | regex d pat raw flags =>
    obtain ⟨delim, found, letters⟩ := read
    have here : ({ r with cursor := r.cursor.skipBlanks } : Reading).cursor.rest =
        (Token.regex d pat raw flags).text ++ rest := by
      simpa using skipped
    simp only [Token.text, List.cons_append, List.head?_cons]
    rcases delim with rfl | rfl
    · exact regexField_reads here found letters
    · exact regexField_reads here found letters


/-- A field read off its token: the field's matcher is the token's, when the reader accepts it,
and the reader stops right after the token. -/
theorem field_reads {r : Reading} {t : Token} {ts : List Token} (lexed : tokens r.cursor.rest = some (t :: ts)) :
    ∃ rest, tokens rest = some ts ∧
      (field.run r).toOption.map (fun p => (p.1.matcher, p.2.cursor.rest, p.2.tree)) =
        t.matcher?.map (fun m => (m, rest, r.tree)) := by
  obtain ⟨rest, skipped, read, more⟩ := tokens_eq_cons lexed
  exact ⟨rest, more, field_reads_text skipped read⟩

end Reader

/-- Both readers read the same token as a field, into the same matcher. -/
theorem InStep.field {pending : List Char} {r₁ r₂ r₁' : Reading} {ts : List Token} {f₁ : Field}
    (inStep : InStep pending r₁ r₂ ts) (ran : Reader.field.run r₁ = .ok (f₁, r₁')) :
    ∃ f₂ r₂' ts', Reader.field.run r₂ = .ok (f₂, r₂') ∧ f₂.matcher = f₁.matcher ∧
      InStep pending r₁' r₂' ts' ∧ ts'.length < ts.length := by
  obtain ⟨ts₁, lexed₁, same⟩ := inStep.ahead.exists_left
  cases ts₁ with
  | nil =>
    obtain ⟨t, tok, -⟩ := Reader.field_sound ran
    obtain ⟨tk, -, lexed⟩ := tok.tokens
    rw [lexed₁] at lexed
    obtain ⟨_, -, impossible⟩ := Option.map_eq_some_iff.1 lexed.symm
    cases impossible
  | cons t ts₁ =>
    obtain ⟨rest₁, more₁, reads₁⟩ := Reader.field_reads lexed₁
    rw [ran] at reads₁
    obtain ⟨m, field₁, read₁⟩ := Option.map_eq_some_iff.1 reads₁.symm
    simp only [Prod.mk.injEq] at read₁
    obtain ⟨rfl, rfl, tree₁⟩ := read₁
    cases ts with
    | nil => cases same
    | cons t₂ ts =>
      simp only [List.map_cons, List.cons.injEq] at same
      obtain rfl := Token.eq_of_erase_eq same.1 field₁
      obtain ⟨rest₂, more₂, reads₂⟩ := Reader.field_reads inStep.ahead.right
      rw [field₁, Option.map_some] at reads₂
      obtain ⟨⟨f₂, r₂'⟩, ran₂, read₂⟩ := Option.map_eq_some_iff.1 reads₂
      simp only [Prod.mk.injEq] at read₂
      obtain ⟨sameMatcher, rfl, tree₂⟩ := read₂
      have ran₂' : Reader.field.run r₂ = .ok (f₂, r₂') := by
        cases run : Reader.field.run r₂ with
        | error e => rw [run] at ran₂; cases ran₂
        | ok result => rw [run] at ran₂; cases ran₂; rfl
      refine ⟨f₂, r₂', ts, ran₂', sameMatcher, ⟨?_, ?_, more₂, ?_⟩, by simp⟩
      · rw [tree₂, ← inStep.tree, tree₁]
      · rw [more₁, Option.map_some, same.2]
      · have paid := inStep.ahead.paid
        rwa [Token.owed_cons, Token.owe_of_not_bracket (Token.isBracket_of_matcher field₁),
          Option.bind_some] at paid

/-! ## Steps in step -/

namespace InStep

variable {pending : List Char} {r₁ r₂ : Reading} {ts : List Token}

theorem skipBlanks (inStep : InStep pending r₁ r₂ ts) :
    InStep pending { r₁ with cursor := r₁.cursor.skipBlanks } { r₂ with cursor := r₂.cursor.skipBlanks } ts :=
  ⟨inStep.tree, inStep.ahead.skipBlanks⟩

theorem withTree (inStep : InStep pending r₁ r₂ ts) (tree : Draft) :
    InStep pending { r₁ with tree := tree } { r₂ with tree := tree } ts :=
  ⟨rfl, inStep.ahead⟩

/-- The second reader sees a character that is no bracket exactly where the first does. -/
theorem head_iff (inStep : InStep pending r₁ r₂ ts) {x : Char} (plain : (Token.punct x).isBracket = false) :
    (Text.dropBlanks r₁.cursor.rest).head? = some x ↔ (Text.dropBlanks r₂.cursor.rest).head? = some x :=
  some_iff_of_plainBracket inStep.ahead.peek plain

theorem head_beq (inStep : InStep pending r₁ r₂ ts) {x : Char} (plain : (Token.punct x).isBracket = false) :
    ((Text.dropBlanks r₁.cursor.rest).head? == some x) = ((Text.dropBlanks r₂.cursor.rest).head? == some x) :=
  Bool.eq_iff_iff.2 (by simp only [beq_iff_eq]; exact inStep.head_iff plain)

/-- At the end of the first text the second ends too. -/
theorem at_end (inStep : InStep pending r₁ r₂ ts) (ended : (Text.dropBlanks r₁.cursor.rest).head? = none) :
    (Text.dropBlanks r₂.cursor.rest).head? = none ∧ ts = [] := by
  have peeked := inStep.ahead.peek
  rw [ended, Option.map_none] at peeked
  have ended₂ := (Option.map_eq_none_iff.1 peeked.symm)
  refine ⟨ended₂, ?_⟩
  cases ts with
  | nil => rfl
  | cons t ts =>
    rw [head_dropBlanks inStep.ahead.right] at ended₂
    obtain ⟨rest, -, read, -⟩ := tokens_eq_cons inStep.ahead.right
    obtain ⟨y, ys, text⟩ := List.exists_cons_of_ne_nil read.text_ne_nil
    rw [text] at ended₂
    cases ended₂

/-- Past punctuation that is no bracket both readers move on by one token. -/
theorem bumpPlain (inStep : InStep pending r₁ r₂ ts) {x : Char}
    (first : (Text.dropBlanks r₁.cursor.rest).head? = some x) (punctuation : isPunctuation x = true)
    (plain : (Token.punct x).isBracket = false) :
    (Text.dropBlanks r₂.cursor.rest).head? = some x ∧ ∃ ts', ts = .punct x :: ts' ∧
      InStep pending { r₁ with cursor := r₁.cursor.skipBlanks.bump }
        { r₂ with cursor := r₂.cursor.skipBlanks.bump } ts' := by
  have first₂ := (inStep.head_iff plain).1 first
  obtain ⟨ts', pending', rfl, owed, ahead⟩ := inStep.ahead.bump first₂ punctuation
  rw [Token.owe_of_not_bracket plain, Option.some.injEq] at owed
  subst owed
  exact ⟨first₂, ts', rfl, inStep.tree, ahead⟩

/-- Past an opening bracket both readers move on by one token, the second owing the closing
bracket of the kind it read. -/
theorem bumpOpen (inStep : InStep pending r₁ r₂ ts) {o₁ : Char}
    (first : (Text.dropBlanks r₁.cursor.rest).head? = some o₁) (opens : o₁ = '[' ∨ o₁ = '{') :
    ∃ o₂ k₂ ts', (Text.dropBlanks r₂.cursor.rest).head? = some o₂ ∧ BracketPair o₂ k₂ ∧
      ts = .punct o₂ :: ts' ∧ InStep (k₂ :: pending) { r₁ with cursor := r₁.cursor.skipBlanks.bump }
        { r₂ with cursor := r₂.cursor.skipBlanks.bump } ts' := by
  have peeked := inStep.ahead.peek
  rw [first, Option.map_some, plainBracket_eq_open.2 opens] at peeked
  obtain ⟨o₂, first₂, kind⟩ := Option.map_eq_some_iff.1 peeked.symm
  obtain ⟨k₂, pair⟩ : ∃ k₂, BracketPair o₂ k₂ := by
    rcases plainBracket_eq_open.1 kind with rfl | rfl
    · exact ⟨']', .inl ⟨rfl, rfl⟩⟩
    · exact ⟨'}', .inr ⟨rfl, rfl⟩⟩
  obtain ⟨ts', pending', rfl, owed, ahead⟩ := inStep.ahead.bump first₂ (isPunctuation_of_bracket pair).1
  rw [Token.owe_open pair, Option.some.injEq] at owed
  subst owed
  exact ⟨o₂, k₂, ts', first₂, pair, rfl, inStep.tree, ahead⟩

/-- At a closing bracket the second reader finds the one it owes first, and both move on. -/
theorem bumpClose {k : Char} (inStep : InStep (k :: pending) r₁ r₂ ts) {c₁ : Char}
    (first : (Text.dropBlanks r₁.cursor.rest).head? = some c₁) (closes : c₁ = ']' ∨ c₁ = '}') :
    (Text.dropBlanks r₂.cursor.rest).head? = some k ∧ ∃ ts', ts = .punct k :: ts' ∧
      InStep pending { r₁ with cursor := r₁.cursor.skipBlanks.bump }
        { r₂ with cursor := r₂.cursor.skipBlanks.bump } ts' := by
  have peeked := inStep.ahead.peek
  rw [first, Option.map_some, plainBracket_eq_close.2 closes] at peeked
  obtain ⟨c₂, first₂, kind⟩ := Option.map_eq_some_iff.1 peeked.symm
  have closes₂ := plainBracket_eq_close.1 kind
  have punctuation : isPunctuation c₂ = true := by rcases closes₂ with rfl | rfl <;> decide
  obtain ⟨ts', pending', rfl, owed, ahead⟩ := inStep.ahead.bump first₂ punctuation
  rw [Token.owe_close closes₂] at owed
  split at owed
  · rename_i same
    subst same
    rw [Option.some.injEq] at owed
    subst owed
    exact ⟨first₂, ts', rfl, inStep.tree, ahead⟩
  · cases owed

end InStep

/-! ## Steps that only grow the tree -/

namespace Reader

/-- A step that only grows the tree, and grows it alike from alike trees. -/
def TreeStep {α : Type} (m : ReadM α) : Prop :=
  ∃ g : Draft → α × Draft, ∀ r : Reading, m.run r = .ok ((g r.tree).1, { r with tree := (g r.tree).2 })

namespace TreeStep

theorem pure {α : Type} (a : α) : TreeStep (Pure.pure a : ReadM α) :=
  ⟨fun tree => (a, tree), fun _ => rfl⟩

theorem bind {α β : Type} {m : ReadM α} {f : α → ReadM β} (first : TreeStep m)
    (rest : ∀ a, TreeStep (f a)) : TreeStep (m >>= f) := by
  obtain ⟨g, ran⟩ := first
  choose g' ran' using rest
  refine ⟨fun tree => g' (g tree).1 (g tree).2, fun r => ?_⟩
  rw [run_bind_of_ok (ran r), ran']

/-- Two readings with one tree grow it alike through a step that only grows the tree. -/
theorem run_bind {α β : Type} {m : ReadM α} (step : TreeStep m) (f₁ f₂ : α → ReadM β)
    {r₁ r₂ : Reading} (sameTree : r₁.tree = r₂.tree) :
    ∃ a tree, (m >>= f₁).run r₁ = (f₁ a).run { r₁ with tree := tree } ∧
      (m >>= f₂).run r₂ = (f₂ a).run { r₂ with tree := tree } := by
  obtain ⟨g, ran⟩ := step
  refine ⟨(g r₁.tree).1, (g r₁.tree).2, run_bind_of_ok (ran r₁), ?_⟩
  rw [run_bind_of_ok (ran r₂), ← sameTree]

end TreeStep

theorem treeStep_addChild (path : List String) (m : NameMatcher) (f : NodeMarks) :
    TreeStep (addChild path m f) :=
  ⟨fun tree => ((tree.addChild path m f).2, (tree.addChild path m f).1), fun _ => rfl⟩

theorem treeStep_mark (path : List String) (g : NodeMarks → NodeMarks) : TreeStep (mark path g) :=
  ⟨fun tree => ((), tree.modifyMarks path g), fun _ => rfl⟩

theorem treeStep_brace (path : List String) : TreeStep (brace path) :=
  treeStep_mark path _

theorem treeStep_negatedSteps : ∀ (parent : List String) (fs : List Field),
    TreeStep (negatedSteps parent fs)
  | _, [] => TreeStep.pure ()
  | parent, [_] =>
    (treeStep_brace parent).bind fun _ =>
      (treeStep_addChild _ _ _).bind fun node => treeStep_mark node _
  | parent, _ :: g :: rest =>
    (treeStep_brace parent).bind fun _ =>
      (treeStep_addChild _ _ _).bind fun node => treeStep_negatedSteps node (g :: rest)

theorem treeStep_pathPrefix : ∀ (parent : List String) (fs : List Field),
    TreeStep (pathPrefix parent fs)
  | parent, [] => TreeStep.pure parent
  | _, _ :: rest =>
    (treeStep_addChild _ _ _).bind fun node =>
      (treeStep_brace node).bind fun _ => treeStep_pathPrefix node rest

theorem treeStep_forIn_addChild (parent : List String) (marks : NodeMarks) :
    ∀ (fields : List Field) (b : PUnit), TreeStep (forIn fields b fun f _ => do
      let _ ← addChild parent f.matcher marks
      Pure.pure (ForInStep.yield PUnit.unit))
  | [], b => TreeStep.pure b
  | f :: fields, b => by
    rw [List.forIn_cons]
    refine ((treeStep_addChild _ _ _).bind fun _ => TreeStep.pure _).bind fun step => ?_
    cases step with
    | done b' => exact TreeStep.pure b'
    | yield b' => exact treeStep_forIn_addChild parent marks fields b'

/-! Fields that differ only in where they were written build the same tree. -/

theorem negatedSteps_congr : ∀ (parent : List String) {fs₁ fs₂ : List Field},
    fs₁.map (·.matcher) = fs₂.map (·.matcher) → negatedSteps parent fs₁ = negatedSteps parent fs₂
  | _, [], [], _ => rfl
  | parent, [f], [g], same => by
    simp only [List.map_cons, List.map_nil, List.cons.injEq, and_true] at same
    simp only [negatedSteps, same]
  | parent, f :: f' :: fs, g :: g' :: gs, same => by
    simp only [List.map_cons, List.cons.injEq] at same
    obtain ⟨first, rest⟩ := same
    simp only [negatedSteps, first]
    congr 1
    funext u
    congr 1
    funext node
    exact negatedSteps_congr node (by simp only [List.map_cons]; rw [rest.1, rest.2])
  | _, [], _ :: _, same | _, _ :: _, [], same | _, [_], _ :: _ :: _, same
  | _, _ :: _ :: _, [_], same => by simp at same

theorem pathPrefix_congr : ∀ (parent : List String) {fs₁ fs₂ : List Field},
    fs₁.map (·.matcher) = fs₂.map (·.matcher) → pathPrefix parent fs₁ = pathPrefix parent fs₂
  | _, [], [], _ => rfl
  | parent, f :: fs, g :: gs, same => by
    simp only [List.map_cons, List.cons.injEq] at same
    simp only [pathPrefix, same.1]
    congr 1
    funext node
    congr 1
    funext u
    exact pathPrefix_congr node same.2
  | _, [], _ :: _, same | _, _ :: _, [], same => by simp at same

theorem forIn_addChild_congr (parent : List String) (marks : NodeMarks) :
    ∀ {fs₁ fs₂ : List Field}, fs₁.map (·.matcher) = fs₂.map (·.matcher) → ∀ b : PUnit,
      (forIn fs₁ b fun f _ => do
        let _ ← addChild parent f.matcher marks
        Pure.pure (ForInStep.yield PUnit.unit) : ReadM PUnit) =
      forIn fs₂ b fun f _ => do
        let _ ← addChild parent f.matcher marks
        Pure.pure (ForInStep.yield PUnit.unit)
  | [], [], _, _ => rfl
  | f :: fs, g :: gs, same, b => by
    simp only [List.map_cons, List.cons.injEq] at same
    rw [List.forIn_cons, List.forIn_cons, same.1]
    congr 1
    funext step
    cases step with
    | done b' => rfl
    | yield b' => exact forIn_addChild_congr parent marks same.2 b'
  | [], _ :: _, same, _ | _ :: _, [], same, _ => by simp at same

end Reader

/-! ## Paths, field lists and negated paths -/

namespace Reader

/-- The fuel of a loop over tokens is enough when it exceeds the tokens ahead. -/
theorem length_lt_fuel {pending : List Char} {r₁ r₂ : Reading} {ts : List Token}
    (inStep : InStep pending r₁ r₂ ts) :
    ts.length < r₁.cursor.rest.length + 1 ∧ ts.length < r₂.cursor.rest.length + 1 := by
  obtain ⟨ts₁, lexed, same⟩ := inStep.ahead.exists_left
  have lengths := congrArg List.length same
  rw [List.length_map, List.length_map] at lengths
  have first := tokens_length_le lexed
  have second := tokens_length_le inStep.ahead.right
  omega

theorem pathSteps_inStep : ∀ (fuel₁ fuel₂ : Nat) (acc₁ acc₂ : List Field) {pending : List Char}
    {r₁ r₂ r₁' : Reading} {ts : List Token} {fs₁ : List Field},
    InStep pending r₁ r₂ ts → ts.length < fuel₁ → ts.length < fuel₂ →
    acc₁.map (·.matcher) = acc₂.map (·.matcher) → (pathSteps fuel₁ acc₁).run r₁ = .ok (fs₁, r₁') →
    ∃ fs₂ r₂' ts', (pathSteps fuel₂ acc₂).run r₂ = .ok (fs₂, r₂') ∧
      fs₁.map (·.matcher) = fs₂.map (·.matcher) ∧ InStep pending r₁' r₂' ts' ∧ ts'.length ≤ ts.length
  | 0, _, _, _, _, _, _, _, _, _, _, short, _, _, _ => absurd short (Nat.not_lt_zero _)
  | _, 0, _, _, _, _, _, _, _, _, _, _, short, _, _ => absurd short (Nat.not_lt_zero _)
  | fuel₁ + 1, fuel₂ + 1, acc₁, acc₂, pending, r₁, r₂, r₁', ts, fs₁, inStep, short₁, short₂, same, h => by
    simp only [pathSteps, run_peek_bind] at h ⊢
    rw [← inStep.head_beq (by decide)]
    split at h
    · rename_i dot
      obtain ⟨-, ts', rfl, bumped⟩ := inStep.bumpPlain (beq_iff_eq.1 dot) (by decide) (by decide)
      simp only [dot, if_true, run_bump_bind]
      simp only [run_bump_bind, run_bind_eq_ok] at h
      obtain ⟨f₁, rf₁, ranField, h⟩ := h
      obtain ⟨f₂, rf₂, ts₂, ranField₂, sameMatcher, inStep', shorter⟩ := bumped.field (by simpa using ranField)
      rw [run_bind_of_ok (by simpa using ranField₂)]
      split at h
      · simp only [run_failAt_bind, reduceCtorEq] at h
      · rename_i notAnyDeep
        simp only [sameMatcher, notAnyDeep, Bool.false_eq_true, if_false]
        obtain ⟨fs₂, r₂', ts₃, ran, sameSteps, inStep'', shorter'⟩ :=
          pathSteps_inStep fuel₁ fuel₂ (f₁ :: acc₁) (f₂ :: acc₂) inStep'
            (by simp at short₁; omega) (by simp at short₂; omega)
            (by simp [sameMatcher, same]) (by simpa using h)
        exact ⟨fs₂, r₂', ts₃, ran, sameSteps, inStep'', by simp; omega⟩
    · rename_i noDot
      simp only [noDot, Bool.false_eq_true, if_false, run_pure]
      simp only [run_pure, Except.ok.injEq, Prod.mk.injEq] at h
      obtain ⟨rfl, rfl⟩ := h
      exact ⟨_, _, ts, rfl, by simp [same], inStep.skipBlanks, Nat.le_refl _⟩


/-- Two readings in step read a path into the same matchers and stay in step, past fewer tokens. -/
theorem path_inStep {pending : List Char} {r₁ r₂ r₁' : Reading} {ts : List Token} {fs₁ : List Field}
    (inStep : InStep pending r₁ r₂ ts) (h : path.run r₁ = .ok (fs₁, r₁')) :
    ∃ fs₂ r₂' ts', path.run r₂ = .ok (fs₂, r₂') ∧ fs₁.map (·.matcher) = fs₂.map (·.matcher) ∧
      InStep pending r₁' r₂' ts' ∧ ts'.length < ts.length := by
  simp only [path, run_bind_eq_ok] at h
  obtain ⟨first₁, ra, ranField, h⟩ := h
  obtain ⟨first₂, rb, ts', ranField₂, sameMatcher, inStep', shorter⟩ := inStep.field ranField
  simp only [path]
  rw [run_bind_of_ok ranField₂, sameMatcher]
  split at h
  · rename_i anyDeep
    simp only [anyDeep, if_true, run_peek_bind] at h ⊢
    rw [← inStep'.head_beq (by decide)]
    split at h
    · simp only [run_pos_bind, run_failAt_bind, reduceCtorEq] at h
    · rename_i noDot
      simp only [noDot, Bool.false_eq_true, if_false, run_pure] at h ⊢
      simp only [Except.ok.injEq, Prod.mk.injEq] at h
      obtain ⟨rfl, rfl⟩ := h
      exact ⟨_, _, ts', rfl, by simp [sameMatcher], inStep'.skipBlanks, shorter⟩
  · rename_i notAnyDeep
    simp only [notAnyDeep, Bool.false_eq_true, if_false, run_get_bind] at h ⊢
    obtain ⟨fs₂, r₂', ts'', ran, sameSteps, inStep'', shorter'⟩ :=
      pathSteps_inStep _ _ [first₁] [first₂] inStep' (length_lt_fuel inStep').1
        (length_lt_fuel inStep').2 (by simp [sameMatcher]) h
    exact ⟨fs₂, r₂', ts'', ran, sameSteps, inStep'', by omega⟩

/-- Two readings in step read a parenthesized list of fields into the same matchers, up to its
closing parenthesis, and stay in step. -/
theorem fieldList_inStep : ∀ (fuel₁ fuel₂ : Nat) (acc₁ acc₂ : List Field) {pending : List Char}
    {r₁ r₂ r₁' : Reading} {ts : List Token} {fs₁ : List Field},
    InStep pending r₁ r₂ ts → ts.length < fuel₁ → ts.length < fuel₂ →
    acc₁.map (·.matcher) = acc₂.map (·.matcher) → (fieldList fuel₁ acc₁).run r₁ = .ok (fs₁, r₁') →
    ∃ fs₂ r₂' ts', (fieldList fuel₂ acc₂).run r₂ = .ok (fs₂, r₂') ∧
      fs₁.map (·.matcher) = fs₂.map (·.matcher) ∧ InStep pending r₁' r₂' ts' ∧
      ts'.length + fs₂.length ≤ ts.length + acc₂.length
  | 0, _, _, _, _, _, _, _, _, _, _, short, _, _, _ => absurd short (Nat.not_lt_zero _)
  | _, 0, _, _, _, _, _, _, _, _, _, _, short, _, _ => absurd short (Nat.not_lt_zero _)
  | fuel₁ + 1, fuel₂ + 1, acc₁, acc₂, pending, r₁, r₂, r₁', ts, fs₁, inStep, short₁, short₂, same, h => by
    simp only [fieldList, run_bind_eq_ok] at h
    obtain ⟨f₁, ra, ranField, h⟩ := h
    obtain ⟨f₂, rb, ts', ranField₂, sameMatcher, inStep', shorter⟩ := inStep.field ranField
    simp only [fieldList]
    rw [run_bind_of_ok ranField₂, sameMatcher]
    split at h
    · simp only [run_failAt_bind, reduceCtorEq] at h
    · rename_i notAnyDeep
      simp only [notAnyDeep, Bool.false_eq_true, if_false, run_peek_bind] at h ⊢
      split at h
      · rename_i comma
        obtain ⟨comma₂, ts'', rfl, bumped⟩ := inStep'.bumpPlain comma (by decide) (by decide)
        simp only [comma₂, run_bump_bind] at h ⊢
        obtain ⟨fs₂, r₂', ts₃, ran, sameFields, inStep'', counted⟩ :=
          fieldList_inStep fuel₁ fuel₂ (f₁ :: acc₁) (f₂ :: acc₂) bumped
            (by simp only [List.length_cons] at shorter; omega)
            (by simp only [List.length_cons] at shorter; omega)
            (by simp [sameMatcher, same]) (by simpa using h)
        refine ⟨fs₂, r₂', ts₃, by simpa using ran, sameFields, inStep'', ?_⟩
        simp at counted shorter
        omega
      · rename_i paren
        obtain ⟨paren₂, ts'', rfl, bumped⟩ := inStep'.bumpPlain paren (by decide) (by decide)
        simp only [paren₂, run_bump_bind, run_pure, Except.ok.injEq, Prod.mk.injEq] at h ⊢
        obtain ⟨rfl, rfl⟩ := h
        refine ⟨(f₂ :: acc₂).reverse, _, ts'', ⟨rfl, rfl⟩, by simp [sameMatcher, same],
          by simpa using bumped, ?_⟩
        simp at shorter ⊢
        omega
      · simp only [run_failUnexpected, reduceCtorEq] at h

theorem opens_iff_map_plainBracket (o : Option Char) :
    (o = some '[' ∨ o = some '\x7b') ↔ o.map plainBracket = some '[' := by
  cases o <;> simp [plainBracket_eq_open]

/-- A check that fails on an opening bracket and passes on anything else passes alike in both
readings. -/
theorem peek_notOpener_inStep {k : Option Char → ReadM Unit}
    (opener : ∀ x, (x = some '[' ∨ x = some '\x7b') → ∀ r a r', (k x).run r ≠ .ok (a, r'))
    (other : ∀ x, ¬(x = some '[' ∨ x = some '\x7b') → k x = pure ())
    {pending : List Char} {r₁ r₂ r₁' : Reading} {ts : List Token} (inStep : InStep pending r₁ r₂ ts)
    (h : (peek >>= k).run r₁ = .ok ((), r₁')) :
    ∃ r₂', (peek >>= k).run r₂ = .ok ((), r₂') ∧ InStep pending r₁' r₂' ts := by
  rw [run_peek_bind] at h ⊢
  have sameOpens := inStep.ahead.peek
  by_cases opens₁ : (Text.dropBlanks r₁.cursor.rest).head? = some '[' ∨
      (Text.dropBlanks r₁.cursor.rest).head? = some '\x7b'
  · exact absurd h (opener _ opens₁ _ _ _)
  · have opens₂ : ¬((Text.dropBlanks r₂.cursor.rest).head? = some '[' ∨
        (Text.dropBlanks r₂.cursor.rest).head? = some '\x7b') := by
      rwa [opens_iff_map_plainBracket, ← sameOpens, ← opens_iff_map_plainBracket]
    rw [other _ opens₁, run_pure, Except.ok.injEq, Prod.mk.injEq] at h
    rw [other _ opens₂, run_pure]
    exact ⟨_, rfl, h.2 ▸ inStep.skipBlanks⟩

/-- Two readings in step read an exclusion alike: the trees grow alike whether one step or a
path is excluded, and both check that no list follows. -/
theorem negated_inStep {parent : List String} {pending : List Char} {r₁ r₂ r₁' : Reading}
    {ts : List Token} (inStep : InStep pending r₁ r₂ ts) (h : (negated parent).run r₁ = .ok ((), r₁')) :
    ∃ r₂' ts', (negated parent).run r₂ = .ok ((), r₂') ∧ InStep pending r₁' r₂' ts' ∧
      ts'.length ≤ ts.length := by
  simp only [negated, run_pos_bind, run_bind_eq_ok] at h
  obtain ⟨steps₁, ra, ranPath, h⟩ := h
  obtain ⟨steps₂, rb, ts', ranPath₂, sameSteps, inStep', shorter⟩ := path_inStep inStep ranPath
  simp only [negated, run_pos_bind]
  rw [run_bind_of_ok ranPath₂]
  have anyDeep : steps₂.any (·.matcher.isAnyDeep) = steps₁.any (·.matcher.isAnyDeep) := by
    have anyOf := congrArg (fun ms : List NameMatcher => ms.any NameMatcher.isAnyDeep) sameSteps
    simpa [List.any_map, Function.comp_def] using anyOf.symm
  rw [anyDeep]
  split at h
  · simp only [run_failAt_bind, reduceCtorEq] at h
  · rename_i plain
    simp only [plain, Bool.false_eq_true, if_false] at h ⊢
    have sameLength : steps₁.length = steps₂.length := by simpa using congrArg List.length sameSteps
    rcases steps₁ with _ | ⟨f₁, _ | ⟨f₁', rest₁⟩⟩ <;> rcases steps₂ with _ | ⟨f₂, _ | ⟨f₂', rest₂⟩⟩ <;>
      simp at sameLength <;> simp only at h ⊢
    case' nil.nil =>
      obtain ⟨_, tree, ran₁, ran₂⟩ := (treeStep_negatedSteps parent []).run_bind _ _ inStep'.tree
      rw [ran₁] at h
      rw [ran₂]
    case' cons.nil.cons.nil =>
      rw [← (by simpa using sameSteps : f₁.matcher = f₂.matcher)]
      obtain ⟨_, tree, ran₁, ran₂⟩ := (treeStep_addChild parent f₁.matcher _).run_bind _ _ inStep'.tree
      rw [ran₁] at h
      rw [ran₂]
    case' cons.cons.cons.cons =>
      rw [← negatedSteps_congr parent sameSteps]
      obtain ⟨_, tree, ran₁, ran₂⟩ := (treeStep_negatedSteps parent _).run_bind _ _ inStep'.tree
      rw [ran₁] at h
      rw [ran₂]
    all_goals
      obtain ⟨r₂', ran, inStep''⟩ := peek_notOpener_inStep
        (by rintro x (rfl | rfl) r a r' <;>
          simp only [run_pos_bind, run_failAt, ne_eq, reduceCtorEq, not_false_eq_true]) (by intro x notOpener; split <;> simp_all)
        (inStep'.withTree _) h
      exact ⟨r₂', ts', ran, inStep'', shorter.le⟩

/-- Paths of the same matchers end in the same last step, after steps of the same matchers. -/
theorem exists_reverse_of_matchers {steps₁ steps₂ : List Field}
    (same : steps₁.map (·.matcher) = steps₂.map (·.matcher)) {last₁ : Field} {before₁ : List Field}
    (reversed : steps₁.reverse = last₁ :: before₁) :
    ∃ last₂ before₂, steps₂.reverse = last₂ :: before₂ ∧ last₁.matcher = last₂.matcher ∧
      before₁.map (·.matcher) = before₂.map (·.matcher) := by
  have sameReversed := congrArg List.reverse same
  rw [← List.map_reverse, ← List.map_reverse, reversed] at sameReversed
  cases reversal : steps₂.reverse with
  | nil => simp [reversal] at sameReversed
  | cons last₂ before₂ =>
    rw [reversal, List.map_cons, List.map_cons, List.cons.injEq] at sameReversed
    exact ⟨last₂, before₂, rfl, sameReversed⟩

theorem closer_eq_none_iff (o : Option Char) : closer o = none ↔ o.map plainBracket ≠ some '[' := by
  rw [ne_eq, ← opens_iff_map_plainBracket]
  unfold closer
  split <;> simp_all

theorem closing_of_plainBracket {c k : Char} (same : plainBracket c = plainBracket k)
    (closing : k = ']' ∨ k = '\x7d') : c = ']' ∨ c = '\x7d' :=
  plainBracket_eq_close.1 (same.trans (plainBracket_eq_close.2 closing))

/-! ## Expressions

The two readers run side by side through the mutual recursion of the expression readers. The
second reader is given enough fuel for its tokens, four for each as in completeness, and one
more for each field a nested list is read into. -/

mutual

/-- Two readings in step read a list of expressions alike, up to the closing bracket the list
was opened with or the end of the text, the second closing with the kind of bracket it owes. -/
theorem expressionList_inStep : ∀ (fuel₁ fuel₂ : Nat) {parent : List String}
    {close₁ close₂ : Option Char} {pending : List Char} {r₁ r₂ r₁' : Reading} {ts : List Token},
    InStep (close₂.toList ++ pending) r₁ r₂ ts → close₁.map plainBracket = close₂.map plainBracket →
    (∀ k ∈ close₂, k = ']' ∨ k = '\x7d') → 4 * ts.length + 3 ≤ fuel₂ →
    (expressionList parent close₁ fuel₁).run r₁ = .ok ((), r₁') →
    ∃ r₂' ts', (expressionList parent close₂ fuel₂).run r₂ = .ok ((), r₂') ∧
      InStep pending r₁' r₂' ts' ∧ ts'.length < ts.length
  | 0, _, _, _, _, _, _, _, _, _, _, _, _, _, h => by
    simp only [expressionList, run_failUnexpected, reduceCtorEq] at h
  | _ + 1, 0, _, _, _, _, _, _, _, _, _, _, _, enough, _ => absurd enough (by omega)
  | fuel₁ + 1, fuel₂ + 1, parent, close₁, close₂, pending, r₁, r₂, r₁', ts, inStep, sameClose,
      closing, enough, h => by
    simp only [expressionList] at h ⊢
    rw [run_bind_eq_ok] at h
    obtain ⟨⟨⟩, ra, ranExpr, h⟩ := h
    obtain ⟨rb, ts₁, ranExpr₂, inStep₁, shorter⟩ := expression_inStep fuel₁ fuel₂ inStep (by omega) ranExpr
    rw [run_bind_of_ok ranExpr₂]
    simp only [run_peek_bind] at h ⊢
    split at h
    · rename_i comma
      obtain ⟨comma₂, ts₂, rfl, bumped⟩ := inStep₁.bumpPlain comma (by decide) (by decide)
      simp only [comma₂, run_bump_bind] at h ⊢
      simp only [List.length_cons] at shorter
      obtain ⟨r₂', ts', ran, inStep', shorter'⟩ :=
        expressionList_inStep fuel₁ fuel₂ (by simpa using bumped) sameClose closing (by omega) h
      exact ⟨r₂', ts', ran, inStep', by omega⟩
    · rename_i c _ first
      split at h
      · rename_i closes
        simp only [run_bump, Except.ok.injEq, Prod.mk.injEq] at h
        obtain ⟨-, rfl⟩ := h
        rw [beq_iff_eq] at closes
        subst closes
        obtain ⟨k, rfl, kind⟩ := Option.map_eq_some_iff.1 sameClose.symm
        have closing₂ := closing k rfl
        obtain ⟨first₂, ts₂, rfl, bumped⟩ :=
          InStep.bumpClose (k := k) inStep₁ first (closing_of_plainBracket kind.symm closing₂)
        simp only [List.length_cons] at shorter
        refine ⟨_, ts₂, ?_, bumped, by omega⟩
        rcases closing₂ with rfl | rfl <;> simp [first₂]
      · simp only [run_failUnexpected, reduceCtorEq] at h
    · rename_i atEnd
      split at h
      · simp only [run_pure, Except.ok.injEq, Prod.mk.injEq] at h
        obtain ⟨-, rfl⟩ := h
        obtain rfl : close₂ = none := by simpa using sameClose.symm
        obtain ⟨atEnd₂, rfl⟩ := inStep₁.at_end atEnd
        simp only [atEnd₂, run_pure]
        exact ⟨_, [], rfl, by simpa using inStep₁.skipBlanks, shorter⟩
      · simp only [run_failUnexpected, reduceCtorEq] at h

termination_by structural fuel₁ => fuel₁

/-- Two readings in step read an expression alike: an exclusion, a list of fields with what is
nested in it, or a path whose earlier steps are put and braced first. -/
theorem expression_inStep : ∀ (fuel₁ fuel₂ : Nat) {parent : List String} {pending : List Char}
    {r₁ r₂ r₁' : Reading} {ts : List Token},
    InStep pending r₁ r₂ ts → 4 * ts.length + 2 ≤ fuel₂ →
    (expression parent fuel₁).run r₁ = .ok ((), r₁') →
    ∃ r₂' ts', (expression parent fuel₂).run r₂ = .ok ((), r₂') ∧ InStep pending r₁' r₂' ts' ∧
      ts'.length < ts.length
  | 0, _, _, _, _, _, _, _, _, _, h => by
    simp only [expression, run_failUnexpected, reduceCtorEq] at h
  | _ + 1, 0, _, _, _, _, _, _, _, enough, _ => absurd enough (by omega)
  | fuel₁ + 1, fuel₂ + 1, parent, pending, r₁, r₂, r₁', ts, inStep, enough, h => by
    simp only [expression, run_peek_bind] at h ⊢
    split at h
    · rename_i minus
      obtain ⟨minus₂, ts₁, rfl, bumped⟩ := inStep.bumpPlain minus (by decide) (by decide)
      simp only [minus₂, run_bump_bind] at h ⊢
      obtain ⟨r₂', ts', ran, inStep', shorter⟩ := negated_inStep (by simpa using bumped) h
      exact ⟨r₂', ts', ran, inStep', by simp; omega⟩
    · rename_i paren
      obtain ⟨paren₂, ts₁, rfl, bumped⟩ := inStep.bumpPlain paren (by decide) (by decide)
      simp only [paren₂, run_bump_bind, run_get_bind] at h ⊢
      rw [run_bind_eq_ok] at h
      obtain ⟨fields₁, ra, ranFields, h⟩ := h
      obtain ⟨fields₂, rb, ts₂, ranFields₂, sameFields, inStep₂, counted⟩ :=
        fieldList_inStep _ _ [] [] bumped (length_lt_fuel bumped).1 (length_lt_fuel bumped).2 rfl
          ranFields
      rw [run_bind_of_ok ranFields₂]
      have nonEmpty : fields₁ ≠ [] := by
        obtain ⟨_, _, separated, -, -, count⟩ := fieldList_sound (by simp) ranFields
        rintro rfl
        exact separated.ne_nil (List.length_eq_zero_iff.1 (by simpa using count.symm))
      simp only [List.length_cons, List.length_nil] at enough counted
      obtain ⟨r₂', ts', ran, inStep', shorter⟩ :=
        attach_inStep fuel₁ fuel₂ inStep₂ sameFields nonEmpty (by omega) h
      exact ⟨r₂', ts', ran, inStep', by simp; omega⟩
    · rename_i notMinus notParen
      split
      · exact absurd ((inStep.head_iff (by decide)).2 ‹_›) notMinus
      · exact absurd ((inStep.head_iff (by decide)).2 ‹_›) notParen
      rw [run_bind_eq_ok] at h
      obtain ⟨steps₁, ra, ranPath, h⟩ := h
      obtain ⟨steps₂, rb, ts₁, ranPath₂, sameSteps, inStep₁, shorter⟩ :=
        path_inStep inStep.skipBlanks ranPath
      rw [run_bind_of_ok ranPath₂]
      split at h
      · simp only [run_failUnexpected, reduceCtorEq] at h
      rename_i last₁ before₁ reversed₁
      obtain ⟨last₂, before₂, reversed₂, sameLast, sameBefore⟩ :=
        exists_reverse_of_matchers sameSteps reversed₁
      have sameEmpty : before₂.isEmpty = before₁.isEmpty := by
        simpa using congrArg List.isEmpty sameBefore.symm
      simp only [reversed₂, sameEmpty]
      have enough' : [last₂].length + 4 * ts₁.length + 3 ≤ fuel₂ := by simp; omega
      split at h
      · rename_i single
        simp only [single, if_true, run_pure_bind] at h ⊢
        obtain ⟨r₂', ts', ran, inStep', le⟩ :=
          attach_inStep fuel₁ fuel₂ inStep₁ (by simp [sameLast]) (List.cons_ne_nil _ _) enough' h
        exact ⟨r₂', ts', ran, inStep', by omega⟩
      · rename_i several
        simp only [several, Bool.false_eq_true, if_false] at h ⊢
        have sameReversed : before₁.reverse.map (·.matcher) = before₂.reverse.map (·.matcher) := by
          rw [List.map_reverse, List.map_reverse, sameBefore]
        rw [← pathPrefix_congr parent sameReversed]
        obtain ⟨_, tree, ran₁, ran₂⟩ := (treeStep_brace parent).run_bind _ _ inStep₁.tree
        rw [ran₁] at h
        rw [ran₂]
        obtain ⟨_, tree', ran₁, ran₂⟩ :=
          (treeStep_pathPrefix parent before₁.reverse).run_bind _ _ (inStep₁.withTree tree).tree
        rw [ran₁] at h
        rw [ran₂]
        obtain ⟨r₂', ts', ran, inStep', le⟩ := attach_inStep fuel₁ fuel₂ (inStep₁.withTree tree')
          (by simp [sameLast]) (List.cons_ne_nil _ _) enough' h
        exact ⟨r₂', ts', ran, inStep', by omega⟩

termination_by structural fuel₁ => fuel₁

/-- Two readings in step attach what is nested alike to fields of the same matchers, the two
readers opening brackets that may differ in kind. -/
theorem attach_inStep : ∀ (fuel₁ fuel₂ : Nat) {parent : List String} {fields₁ fields₂ : List Field}
    {pending : List Char} {r₁ r₂ r₁' : Reading} {ts : List Token},
    InStep pending r₁ r₂ ts → fields₁.map (·.matcher) = fields₂.map (·.matcher) → fields₁ ≠ [] →
    fields₂.length + 4 * ts.length + 3 ≤ fuel₂ →
    (attach parent fields₁ fuel₁).run r₁ = .ok ((), r₁') →
    ∃ r₂' ts', (attach parent fields₂ fuel₂).run r₂ = .ok ((), r₂') ∧ InStep pending r₁' r₂' ts' ∧
      ts'.length ≤ ts.length
  | 0, _, _, _, _, _, _, _, _, _, _, _, _, _, h => by
    simp only [attach, run_failUnexpected, reduceCtorEq] at h
  | _ + 1, 0, _, _, _, _, _, _, _, _, _, _, _, enough, _ => absurd enough (by omega)
  | fuel₁ + 1, fuel₂ + 1, parent, fields₁, fields₂, pending, r₁, r₂, r₁', ts, inStep, sameFields,
      nonEmpty, enough, h => by
    simp only [attach, run_peek_bind] at h ⊢
    split at h
    · rename_i plain
      have plain₂ : closer (Text.dropBlanks r₂.cursor.rest).head? = none := by
        rw [closer_eq_none_iff, ← inStep.ahead.peek, ← closer_eq_none_iff]
        exact plain
      simp only [plain₂]
      rw [← forIn_addChild_congr parent _ sameFields]
      obtain ⟨_, tree, ran₁, ran₂⟩ := (treeStep_forIn_addChild parent {} fields₁ ⟨⟩).run_bind _ _
        inStep.skipBlanks.tree
      rw [ran₁] at h
      rw [ran₂]
      simp only [run_pure, Except.ok.injEq, Prod.mk.injEq] at h
      obtain ⟨-, rfl⟩ := h
      exact ⟨_, ts, rfl, inStep.skipBlanks.withTree tree, le_refl _⟩
    · rename_i close₁ opened
      obtain ⟨o₁, first, pair₁⟩ := closer_eq_some opened
      obtain ⟨o₂, k₂, ts₁, first₂, pair₂, rfl, bumped⟩ :=
        inStep.bumpOpen first pair₁.opening
      simp only [first₂, closer_of_pair pair₂, run_bump_bind, run_get_bind, run_peek_bind] at h ⊢
      have sameClose : plainBracket close₁ = plainBracket k₂ := by
        rw [plainBracket_eq_close.2 pair₁.closing, plainBracket_eq_close.2 pair₂.closing]
      simp only [List.length_cons] at enough
      split at h
      · rename_i empty
        rw [beq_iff_eq] at empty
        obtain ⟨empty₂, ts₂, rfl, bumped'⟩ := bumped.bumpClose empty pair₁.closing
        simp only [empty₂, beq_self_eq_true, if_true]
        rw [← forIn_addChild_congr parent _ sameFields]
        obtain ⟨_, tree, ran₁, ran₂⟩ :=
          (treeStep_forIn_addChild parent _ fields₁ ⟨⟩).run_bind _ _ bumped.skipBlanks.tree
        rw [ran₁] at h
        rw [ran₂]
        simp only [run_bump, Except.ok.injEq, Prod.mk.injEq] at h
        obtain ⟨-, rfl⟩ := h
        exact ⟨_, ts₂, rfl, bumped'.withTree tree, by simp only [List.length_cons]; omega⟩
      · rename_i notEmpty
        have notEmpty₂ : ¬((Text.dropBlanks r₂.cursor.skipBlanks.bump.rest).head? == some k₂) = true := by
          rw [beq_iff_eq]
          intro empty₂
          have peeked := bumped.ahead.peek
          rw [empty₂, Option.map_some, plainBracket_eq_close.2 pair₂.closing] at peeked
          obtain ⟨c₁, first₁, kind⟩ := Option.map_eq_some_iff.1 peeked
          obtain ⟨rest, list, -⟩ := nestedEach_sound fuel₁ nonEmpty h
          exact list.head_ne (by rcases plainBracket_eq_close.1 kind with rfl | rfl <;> decide) first₁
        rw [if_neg notEmpty₂]
        obtain ⟨r₂', ts', ran, inStep', shorter⟩ := nestedEach_inStep fuel₁ fuel₂ bumped.skipBlanks.tree
          bumped.ahead sameClose pair₂.closing sameFields nonEmpty (by omega) h
        exact ⟨r₂', ts', ran, inStep', by simp; omega⟩

termination_by structural fuel₁ => fuel₁

/-- Two readings in step read a nested list into each field alike: both put and brace the field
and go back to the start of the nested text, and the last field's reading is what is left. -/
theorem nestedEach_inStep : ∀ (fuel₁ fuel₂ : Nat) {parent : List String} {close₁ close₂ : Char}
    {start₁ start₂ : Cursor} {fields₁ fields₂ : List Field} {pending : List Char}
    {r₁ r₂ r₁' : Reading} {ts : List Token},
    r₁.tree = r₂.tree → Ahead (close₂ :: pending) start₁ start₂ ts →
    plainBracket close₁ = plainBracket close₂ → (close₂ = ']' ∨ close₂ = '\x7d') →
    fields₁.map (·.matcher) = fields₂.map (·.matcher) → fields₁ ≠ [] →
    fields₂.length + 4 * ts.length + 3 ≤ fuel₂ →
    (nestedEach parent close₁ start₁ fields₁ fuel₁).run r₁ = .ok ((), r₁') →
    ∃ r₂' ts', (nestedEach parent close₂ start₂ fields₂ fuel₂).run r₂ = .ok ((), r₂') ∧
      InStep pending r₁' r₂' ts' ∧ ts'.length < ts.length
  | _, _, _, _, _, _, _, [], _, _, _, _, _, _, _, _, _, _, _, nonEmpty, _, _ => absurd rfl nonEmpty
  | 0, _, _, _, _, _, _, _ :: _, _, _, _, _, _, _, _, _, _, _, _, _, _, h => by
    simp only [nestedEach, run_failUnexpected, reduceCtorEq] at h
  | _ + 1, _, _, _, _, _, _, _ :: _, [], _, _, _, _, _, _, _, _, _, sameFields, _, _, _ => by
    simp at sameFields
  | _ + 1, 0, _, _, _, _, _, _ :: _, _ :: _, _, _, _, _, _, _, _, _, _, _, _, enough, _ =>
    absurd enough (by omega)
  | fuel₁ + 1, fuel₂ + 1, parent, close₁, close₂, start₁, start₂, f :: more₁, g :: more₂, pending,
      r₁, r₂, r₁', ts, sameTree, ahead, sameClose, closing, sameFields, _, enough, h => by
    simp only [List.map_cons, List.cons.injEq] at sameFields
    obtain ⟨sameFirst, sameMore⟩ := sameFields
    simp only [nestedEach] at h ⊢
    rw [← sameFirst]
    obtain ⟨node, tree, ran₁, ran₂⟩ := (treeStep_addChild parent f.matcher {}).run_bind _ _ sameTree
    rw [ran₁] at h
    rw [ran₂]
    simp only [run_modify_bind] at h ⊢
    have restarted : ({ cursor := start₁, tree := tree } : Reading).tree =
        ({ cursor := start₂, tree := tree } : Reading).tree := rfl
    obtain ⟨_, tree', ran₁, ran₂⟩ := (treeStep_brace node).run_bind _ _ restarted
    rw [ran₁] at h
    rw [ran₂]
    rw [run_bind_eq_ok] at h
    obtain ⟨⟨⟩, ra, ranList, h⟩ := h
    have inStepStart : InStep ((some close₂).toList ++ pending) { cursor := start₁, tree := tree' }
        { cursor := start₂, tree := tree' } ts := ⟨rfl, ahead⟩
    simp only [List.length_cons] at enough
    obtain ⟨rb, ts₁, ranList₂, inStep₁, shorter⟩ := expressionList_inStep fuel₁ fuel₂ inStepStart
      (by simp [sameClose]) (by simpa using closing) (by omega) ranList
    rw [run_bind_of_ok ranList₂]
    cases more₁ with
    | nil =>
      obtain rfl : more₂ = [] := by simpa using sameMore.symm
      simp only [nestedEach, run_pure, Except.ok.injEq, Prod.mk.injEq] at h
      obtain ⟨-, rfl⟩ := h
      exact ⟨rb, ts₁, by simp only [nestedEach, run_pure], inStep₁, shorter⟩
    | cons g₁ more₁ =>
      have enough' : more₂.length + 4 * ts.length + 3 ≤ fuel₂ := by omega
      exact nestedEach_inStep fuel₁ fuel₂ inStep₁.tree ahead sameClose closing sameMore
        (List.cons_ne_nil _ _) enough' h
termination_by structural fuel₁ => fuel₁

end

end Reader

/-! ## Compiling texts of the same tokens -/

/-- Trimming a text keeps its tokens. -/
theorem tokens_trimBlanks (cs : List Char) : tokens (Text.trimBlanks cs) = tokens cs := by
  have split : Text.dropBlanks cs = Text.trimBlanks cs ++
      ((Text.dropBlanks cs).reverse.takeWhile Text.isBlank).reverse := by
    show _ = ((Text.dropBlanks cs).reverse.dropWhile Text.isBlank).reverse ++ _
    rw [← List.reverse_append, List.takeWhile_append_dropWhile, List.reverse_reverse]
  rw [← tokens_dropBlanks cs, split, tokens_append_blanks]
  intro b mem
  exact List.mem_takeWhile_imp (List.mem_reverse.1 mem)


/-- Two trimmed texts whose tokens agree but for the kinds of brackets, where the second's
brackets pair up, compile alike, provided the first compiles. -/
theorem parseTrimmed_of_sameTokens {cs₁ cs₂ : List Char} {ts : List Token} {t : List Node}
    (lexed₁ : (tokens cs₁).map (List.map Token.erase) = some (ts.map Token.erase))
    (lexed₂ : tokens cs₂ = some ts) (paid : Token.owed ts [] = some [])
    (ok : parseTrimmed cs₁ = .ok t) : parseTrimmed cs₂ = .ok t := by
  have start : InStep ((none : Option Char).toList ++ []) ⟨⟨cs₁, 0⟩, Draft.root⟩
      ⟨⟨cs₂, 0⟩, Draft.root⟩ ts := ⟨rfl, lexed₁, lexed₂, paid⟩
  have enough : 4 * ts.length + 3 ≤ 4 * cs₂.length + 8 := by
    have := tokens_length_le lexed₂
    omega
  simp only [parseTrimmed] at ok ⊢
  cases ran : (Reader.expressionList [] none (4 * cs₁.length + 8)).run ⟨⟨cs₁, 0⟩, Draft.root⟩ with
  | error e => simp [ran, Bind.bind, Except.bind] at ok
  | ok result =>
    obtain ⟨⟨⟩, r₁'⟩ := result
    obtain ⟨r₂', ts', ran₂, inStep', -⟩ :=
      Reader.expressionList_inStep _ _ start rfl (by simp) enough ran
    rw [ran₂]
    simpa [ran, Bind.bind, Except.bind, inStep'.tree] using ok

/-- A text that compiles lexes, and its brackets pair up, each with one of its own kind. -/
theorem owed_of_parse_ok {cs : List Char} {t : List Node} (ok : parse (String.ofList cs) = .ok t) :
    ∃ ts, tokens cs = some ts ∧ Token.owed ts [] = some [] := by
  rw [← tokens_trimBlanks]
  unfold parse at ok
  rw [String.toList_ofList] at ok
  by_cases blank : Text.trimBlanks cs = []
  · exact ⟨[], by rw [blank, tokens_nil], rfl⟩
  · simp only [blank, List.isEmpty_iff, if_false] at ok
    obtain ⟨r', ran⟩ := (parseTrimmed_ok_iff _).1 ⟨t, ok⟩
    obtain ⟨rest, list, ends⟩ := Reader.expressionList_sound _ ran
    obtain ⟨skipped, final⟩ := (ends_none _ _).1 ends
    rw [final] at skipped
    rw [eq_nil_of_blanks_suffix list.suffix skipped] at list
    exact owed_of_derives list

/-- Two texts whose tokens agree but for the kinds of brackets, where the second's brackets pair
up, compile alike, provided the first compiles. A blank text has no tokens, and then neither has
the other; any other is read by both readers in step. -/
theorem parse_of_sameTokens {cs₁ cs₂ : List Char} {ts₁ ts₂ : List Token} {t : List Node}
    (lexed₁ : tokens cs₁ = some ts₁) (lexed₂ : tokens cs₂ = some ts₂)
    (same : ts₁.map Token.erase = ts₂.map Token.erase) (paid : Token.owed ts₂ [] = some [])
    (ok : parse (String.ofList cs₁) = .ok t) : parse (String.ofList cs₂) = .ok t := by
  unfold parse at ok ⊢
  rw [String.toList_ofList] at ok ⊢
  by_cases blank₁ : Text.trimBlanks cs₁ = []
  · rw [← tokens_trimBlanks, blank₁, tokens_nil, Option.some.injEq] at lexed₁
    subst lexed₁
    obtain rfl : ts₂ = [] := by simpa using same.symm
    have blank₂ : Text.trimBlanks cs₂ = [] := by rw [Text.trimBlanks, dropBlanks_eq_nil lexed₂]; rfl
    simpa [blank₁, blank₂] using ok
  · have blank₂ : Text.trimBlanks cs₂ ≠ [] := by
      intro blank₂
      rw [← tokens_trimBlanks, blank₂, tokens_nil, Option.some.injEq] at lexed₂
      subst lexed₂
      obtain rfl : ts₁ = [] := by simpa using same
      exact blank₁ (by rw [Text.trimBlanks, dropBlanks_eq_nil lexed₁]; rfl)
    simp only [blank₁, blank₂, List.isEmpty_iff, if_false] at ok ⊢
    refine parseTrimmed_of_sameTokens ?_ (by rwa [tokens_trimBlanks]) paid ok
    rw [tokens_trimBlanks, lexed₁, Option.map_some, same]

/-! ## Layout -/

/-- The text `u ++ v` splits at a boundary between tokens: each side is a whole run of tokens,
and together they are the tokens of the whole. This excludes the inside of a name, of a regex
body, and the place between a regex and its flags. -/
def TokenBoundary (u v : List Char) : Prop :=
  ∃ ts₁ ts₂, tokens u = some ts₁ ∧ tokens v = some ts₂ ∧ tokens (u ++ v) = some (ts₁ ++ ts₂)

/-- Blanks put at a boundary between tokens are no tokens. -/
theorem TokenBoundary.tokens_insert {u v bl : List Char} (boundary : TokenBoundary u v)
    (blank : ∀ b ∈ bl, Text.isBlank b = true) : tokens (u ++ bl ++ v) = tokens (u ++ v) := by
  obtain ⟨ts₁, ts₂, lexed₁, lexed₂, whole⟩ := boundary
  cases bl with
  | nil => simp
  | cons b bl =>
    have stop : ∀ c ∈ (b :: bl ++ v).head?, isNameChar c = false := fun c first => by
      rw [List.cons_append, List.head?_cons, Option.mem_def, Option.some.injEq] at first
      exact first ▸ isNameChar_of_isBlank (blank b List.mem_cons_self)
    rw [whole, List.append_assoc, tokens_append lexed₁ stop, tokens_blanks_append blank, lexed₂]
    rfl

/-- In `u ++ o :: m ++ c :: v` the brackets `o` and `c` are of one kind and close each other,
both outside regex bodies: the texts around them are whole runs of tokens, and the brackets
between them pair up. -/
structure MatchingPair (u m v : List Char) (o c : Char) : Prop where
  pair : BracketPair o c
  before : (tokens u).isSome
  inside : ∃ ts, tokens m = some ts ∧ Balanced ts
  after : (tokens v).isSome

/-- The tokens of a text around a bracket pair, whatever their kind. -/
theorem tokens_bracketed {u m v : List Char} {tu tm tv : List Token} (lexedU : tokens u = some tu)
    (lexedM : tokens m = some tm) (lexedV : tokens v = some tv) {o c : Char} (pair : BracketPair o c) :
    tokens (u ++ o :: m ++ c :: v) = some (tu ++ Token.punct o :: tm ++ Token.punct c :: tv) := by
  have bracket : ∀ x, (x = o ∨ x = c) → isNameChar x = false ∧ isPunctuation x = true := by
    rcases pair with ⟨rfl, rfl⟩ | ⟨rfl, rfl⟩ <;> rintro x (rfl | rfl) <;> decide
  have stop : ∀ x (rest : List Char), (x = o ∨ x = c) → ∀ y ∈ (x :: rest).head?, isNameChar y = false :=
    fun x rest which y first => by
      rw [List.head?_cons, Option.mem_def, Option.some.injEq] at first
      exact first ▸ (bracket x which).1
  rw [List.append_assoc, List.cons_append, tokens_append lexedU (stop o _ (.inl rfl)),
    tokens_punct (bracket o (.inl rfl)).2, tokens_append lexedM (stop c _ (.inr rfl)),
    tokens_punct (bracket c (.inr rfl)).2, lexedV]
  simp

/-- Blanks put at a boundary between the tokens of a text that compiles leave what it compiles
to as it was. -/
theorem parse_insert_blanks {u v bl : List Char} {t : List Node}
    (ok : parse (String.ofList (u ++ v)) = .ok t) (boundary : TokenBoundary u v)
    (blank : ∀ b ∈ bl, Text.isBlank b = true) : parse (String.ofList (u ++ bl ++ v)) = .ok t := by
  obtain ⟨ts, lexed, paid⟩ := owed_of_parse_ok ok
  exact parse_of_sameTokens lexed (by rw [boundary.tokens_insert blank, lexed]) rfl paid ok

/-- Turning a matching pair of brackets of a text that compiles into a pair of the other kind
leaves what it compiles to as it was. -/
theorem parse_swap_brackets {u m v : List Char} {o c o' c' : Char} {t : List Node}
    (ok : parse (String.ofList (u ++ o :: m ++ c :: v)) = .ok t) (matching : MatchingPair u m v o c)
    (pair' : BracketPair o' c') : parse (String.ofList (u ++ o' :: m ++ c' :: v)) = .ok t := by
  obtain ⟨tu, lexedU⟩ := Option.isSome_iff_exists.1 matching.before
  obtain ⟨tm, lexedM, balanced⟩ := matching.inside
  obtain ⟨tv, lexedV⟩ := Option.isSome_iff_exists.1 matching.after
  obtain ⟨ts, lexed, paid⟩ := owed_of_parse_ok ok
  rw [tokens_bracketed lexedU lexedM lexedV matching.pair, Option.some.injEq] at lexed
  subst lexed
  refine parse_of_sameTokens (tokens_bracketed lexedU lexedM lexedV matching.pair)
    (tokens_bracketed lexedU lexedM lexedV pair') ?_ (owed_swap matching.pair pair' balanced paid) ok
  have plainOpen : plainBracket o = plainBracket o' := by
    rw [plainBracket_eq_open.2 matching.pair.opening, plainBracket_eq_open.2 pair'.opening]
  have plainClose : plainBracket c = plainBracket c' := by
    rw [plainBracket_eq_close.2 matching.pair.closing, plainBracket_eq_close.2 pair'.closing]
  simp [Token.erase, plainOpen, plainClose]

/-- Parsing ignores layout: in a text that compiles, blanks put at a boundary between tokens,
and a matching pair of brackets turned into a pair of the other kind, leave what the text
compiles to as it was. -/
theorem parse_ignores_layout {text : List Char} {t : List Node}
    (ok : parse (String.ofList text) = .ok t) :
    (∀ u v bl, text = u ++ v → TokenBoundary u v → (∀ b ∈ bl, Text.isBlank b = true) →
      parse (String.ofList (u ++ bl ++ v)) = .ok t) ∧
    (∀ u m v o c o' c', text = u ++ o :: m ++ c :: v → MatchingPair u m v o c →
      BracketPair o' c' → parse (String.ofList (u ++ o' :: m ++ c' :: v)) = .ok t) := by
  constructor
  · rintro u v bl rfl boundary blank
    exact parse_insert_blanks ok boundary blank
  · rintro u m v o c o' c' rfl matching pair'
    exact parse_swap_brackets ok matching pair'

/-- `a[b]` compiles as `a [b]` and `a{b}` do. -/
theorem nested_field_ignores_layout :
    parse (String.ofList ['a', ' ', '[', 'b', ']']) = parse (String.ofList ['a', '[', 'b', ']']) ∧
      parse (String.ofList ['a', '\x7b', 'b', '\x7d']) = parse (String.ofList ['a', '[', 'b', ']']) := by
  obtain ⟨t, ok⟩ : ∃ t, parse (String.ofList ['a', '[', 'b', ']']) = .ok t := ⟨_, rfl⟩
  have boundary : TokenBoundary ['a'] ['[', 'b', ']'] :=
    ⟨[.name ['a']], [.punct '[', .name ['b'], .punct ']'], by decide +kernel, by decide +kernel,
      by decide +kernel⟩
  have matching : MatchingPair ['a'] ['b'] [] '[' ']' :=
    ⟨.inl ⟨rfl, rfl⟩, by decide +kernel, ⟨[.name ['b']], by decide +kernel, .plain rfl .nil⟩,
      by decide +kernel⟩
  have braces : BracketPair '\x7b' '\x7d' := .inr ⟨rfl, rfl⟩
  have spaced := (parse_ignores_layout ok).1 ['a'] ['[', 'b', ']'] [' '] rfl boundary
    (fun b mem => by rw [List.mem_singleton.1 mem]; decide)
  have swapped := (parse_ignores_layout ok).2 ['a'] ['b'] [] '[' ']' '\x7b' '\x7d' rfl matching braces
  rw [ok]
  exact ⟨spaced, swapped⟩

end FieldSelection.Selection

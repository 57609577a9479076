import Mathlib
import FieldSelection.Proofs.Regex.Simulation
import FieldSelection.Proofs.Name.GlobMatching
/-!
# A glob matcher matches as its pattern

A glob field is matched through the regular expression its pattern translates to
(`NameMatcher.wildcardText`): the pieces `.*` for a star, `.` for a question mark and every
other character escaped, in a group that lets the dot take the line feed, anchored at both
ends. This file follows that text through the three stages that turn it into a matcher.

* Reading: the text always reads, as the pattern `Glob.regex` of the glob, whatever characters
  the glob holds (`Glob.parse_wildcardText`); so the glob matcher always compiles
  (`NameMatcher.wildcard_eq`). Each piece takes one or two rounds of `Regex.Reader.sequence`
  (`Regex.Reader.sequence_piece`), the metacharacters behind a backslash reading as themselves.
* Compiling: the code of a piece reads what the piece matches and goes on at the code of the
  pieces after it (`Glob.code_pieces`), a star as a loop over a set that holds every character.
* Running: the automaton started at every place of the name, with the anchors holding only at
  its two ends, accepts exactly the names the glob matches (`Glob.isMatch_compile_regex`).

The main statement, `NameMatcher.wildcard_accepts_iff`: for every pattern and every name, the
glob matcher compiles and accepts the name exactly when the pattern matches all of it by the
three rules of globbing (`Glob.Matches`).
-/

namespace FieldSelection

/-! ## Globs, one character at a time -/

namespace Glob

theorem matches_nil_iff {s : List Char} : Matches [] s ↔ s = [] := by
  constructor
  · intro matched
    cases matched
    rfl
  · rintro rfl
    exact .nil

theorem matches_star_iff {p s : List Char} :
    Matches ('*' :: p) s ↔ ∃ u v, s = u ++ v ∧ Matches p v := by
  constructor
  · intro matched
    generalize pattern : '*' :: p = q at matched
    induction matched with
    | nil => cases pattern
    | starEmpty rest =>
      obtain rfl := (List.cons.inj pattern).2
      exact ⟨[], _, rfl, rest⟩
    | starMore _ ih =>
      obtain ⟨u, v, rfl, rest⟩ := ih pattern
      exact ⟨_ :: u, v, rfl, rest⟩
    | any => cases (List.cons.inj pattern).1
    | lit notStar => exact absurd (List.cons.inj pattern).1.symm notStar
  · rintro ⟨u, v, rfl, rest⟩
    induction u with
    | nil => exact .starEmpty rest
    | cons c u ih => exact .starMore ih

theorem matches_any_iff {p s : List Char} :
    Matches ('?' :: p) s ↔ ∃ c v, s = c :: v ∧ Matches p v := by
  constructor
  · intro matched
    generalize pattern : '?' :: p = q at matched
    cases matched with
    | nil => cases pattern
    | starEmpty => cases (List.cons.inj pattern).1
    | starMore => cases (List.cons.inj pattern).1
    | any rest =>
      obtain rfl := (List.cons.inj pattern).2
      exact ⟨_, _, rfl, rest⟩
    | lit _ notAny => exact absurd (List.cons.inj pattern).1.symm notAny
  · rintro ⟨c, v, rfl, rest⟩
    exact .any rest

theorem matches_lit_iff {c : Char} {p s : List Char} (notStar : c ≠ '*') (notAny : c ≠ '?') :
    Matches (c :: p) s ↔ ∃ v, s = c :: v ∧ Matches p v := by
  constructor
  · intro matched
    generalize pattern : c :: p = q at matched
    cases matched with
    | nil => cases pattern
    | starEmpty => exact absurd (List.cons.inj pattern).1 notStar
    | starMore => exact absurd (List.cons.inj pattern).1 notStar
    | any => exact absurd (List.cons.inj pattern).1 notAny
    | lit _ _ rest =>
      obtain ⟨rfl, rfl⟩ := List.cons.inj pattern
      exact ⟨_, rfl, rest⟩
  · rintro ⟨v, rfl, rest⟩
    exact .lit notStar notAny rest

/-- The regular expression one character of a glob pattern reads as. -/
def piece (c : Char) : Regex.Pattern :=
  if c = '*' then .rep (.chars Regex.CharSet.full) 0 none
  else if c = '?' then .chars Regex.CharSet.full
  else .chars (Regex.CharSet.single c)

/-- The regular expression the translation of a glob pattern reads as: its pieces in a row,
between the conditions of the start and of the end of the text. -/
def regex (p : List Char) : Regex.Pattern :=
  .seq [.look .textStart, Regex.Reader.seqOf (p.map fun c => .part (piece c)), .look .textEnd]

/-- The rounds of the sequence reader that the translation of a character takes: a star is a
dot and a repetition. -/
def readSteps (c : Char) : Nat := if c = '*' then 2 else 1

/-- The characters of the pieces of a glob pattern's translation. -/
def pieceText (p : List Char) : List Char := p.flatMap fun c => (NameMatcher.wildcardPiece c).toList

@[simp] theorem pieceText_nil : pieceText [] = [] := rfl

@[simp] theorem pieceText_cons (c : Char) (p : List Char) :
    pieceText (c :: p) = (NameMatcher.wildcardPiece c).toList ++ pieceText p := by
  simp [pieceText]

theorem wildcardText_toList (pattern : String) :
    (NameMatcher.wildcardText pattern).toList =
      ['^', '(', '?', 's', ':'] ++ pieceText pattern.toList ++ [')', '$'] := by
  simp [NameMatcher.wildcardText, pieceText, String.toList_join, List.flatMap_map]

end Glob

/-! ## Reading the translation -/

namespace Regex.Reader

section Rounds

variable {α : Type} {fuel : Nat} {flags : Flags} {items : List SeqItem} {r : Reading}
  {more : List Char}

theorem run_space_bind (quiet : flags.verbose = false) (f : Unit → ReadM α) (r : Reading) :
    (space flags >>= f).run r = (f ()).run r := by
  simp [space, quiet]

theorem run_peek_bind (f : Option Char → ReadM α) (r : Reading) :
    (peek >>= f).run r = (f r.rest.head?).run r := by
  simp [peek]

theorem sequence_dot (quiet : flags.verbose = false) (at_dot : r.rest = '.' :: more) :
    (sequence (fuel + 1) flags items).run r =
      (sequence fuel flags (.part (dot flags) :: items)).run { r with rest := more, pos := r.pos + 1 } := by
  rw [sequence.eq_def]
  dsimp only
  rw [run_space_bind quiet, run_peek_bind, at_dot]
  simp [bump, setRest, at_dot]

theorem sequence_star {p : Pattern} (quiet : flags.verbose = false) (at_star : r.rest = '*' :: more)
    (eager : more.head? ≠ some '?') :
    (sequence (fuel + 1) flags (.part p :: items)).run r =
      (sequence fuel flags (.part (.rep p 0 none) :: items)).run
        { r with rest := more, pos := r.pos + 1 } := by
  rw [sequence.eq_def]
  dsimp only
  rw [run_space_bind quiet, run_peek_bind, at_star]
  cases more with
  | nil => simp [bump, setRest, at_star, repeatLast, skipLazy, peek]
  | cons d more => simp_all [bump, setRest, repeatLast, skipLazy, peek]

/-- What an escape must not be to stand for its character: a digit, a hex or property escape,
or a class escape. -/
theorem isMeta_plain {c : Char} (meta_c : isMeta c = true) :
    c.isDigit = false ∧ c ≠ 'x' ∧ c ≠ 'u' ∧ c ≠ 'U' ∧ c ≠ 'p' ∧ c ≠ 'P' ∧ c ≠ 'd' ∧ c ≠ 'D' ∧
      c ≠ 's' ∧ c ≠ 'S' ∧ c ≠ 'w' ∧ c ≠ 'W' := by
  have listed : c = '\\' ∨ c = '.' ∨ c = '+' ∨ c = '*' ∨ c = '?' ∨ c = '(' ∨ c = ')' ∨ c = '|' ∨
      c = '[' ∨ c = ']' ∨ c = '^' ∨ c = '$' ∨ c = '#' ∨ c = '&' ∨ c = '-' ∨ c = '~' ∨
      c = '\x7b' ∨ c = '\x7d' := by
    simpa [isMeta, or_assoc] using meta_c
  rcases listed with rfl | rfl | rfl | rfl | rfl | rfl | rfl | rfl | rfl | rfl | rfl | rfl | rfl |
    rfl | rfl | rfl | rfl | rfl <;> decide

/-- A backslash before a metacharacter stands for the metacharacter. -/
theorem escape_meta {c : Char} (at_escape : r.rest = '\\' :: c :: more) (meta_c : isMeta c = true) :
    (escape flags).run r = pure (.lit c, { r with rest := more, pos := r.pos + 1 + 1 }) := by
  have escapable : isEscapable c = true := by simp [isEscapable, meta_c]
  obtain ⟨digit, x, u, U, p, P, d, D, s, S, w, W⟩ := isMeta_plain meta_c
  simp [escape, here, bump, setRest, peek, at_escape, digit, x, u, U, p, P]
  split <;> simp_all

theorem sequence_escape {c : Char} (quiet : flags.verbose = false)
    (at_escape : r.rest = '\\' :: c :: more) (meta_c : isMeta c = true) :
    (sequence (fuel + 1) flags items).run r =
      (sequence fuel flags (.part (literal flags c) :: items)).run
        { r with rest := more, pos := r.pos + 2 } := by
  rw [sequence.eq_def]
  dsimp only
  rw [run_space_bind quiet, run_peek_bind, at_escape]
  simp only [List.head?_cons, StateT.run_bind, escape_meta at_escape meta_c]
  rfl

theorem sequence_literal {c : Char} (quiet : flags.verbose = false) (at_c : r.rest = c :: more)
    (plain : isMeta c = false) :
    (sequence (fuel + 1) flags items).run r =
      (sequence fuel flags (.part (literal flags c) :: items)).run
        { r with rest := more, pos := r.pos + 1 } := by
  rw [sequence.eq_def]
  dsimp only
  rw [run_space_bind quiet, run_peek_bind, at_c, List.head?_cons]
  split
  case h_14 c' _ _ _ _ _ _ _ _ _ _ _ _ same =>
    cases same
    simp [bump, setRest, at_c]
  all_goals (rename_i same; cases same <;> simp [isMeta] at plain)

theorem sequence_textStart (quiet : flags.verbose = false) (single : flags.multiLine = false)
    (at_caret : r.rest = '^' :: more) :
    (sequence (fuel + 1) flags items).run r =
      (sequence fuel flags (.part (.look .textStart) :: items)).run
        { r with rest := more, pos := r.pos + 1 } := by
  rw [sequence.eq_def]
  dsimp only
  rw [run_space_bind quiet, run_peek_bind, at_caret]
  simp [bump, setRest, at_caret, single]

theorem sequence_textEnd (quiet : flags.verbose = false) (single : flags.multiLine = false)
    (at_dollar : r.rest = '$' :: more) :
    (sequence (fuel + 1) flags items).run r =
      (sequence fuel flags (.part (.look .textEnd) :: items)).run
        { r with rest := more, pos := r.pos + 1 } := by
  rw [sequence.eq_def]
  dsimp only
  rw [run_space_bind quiet, run_peek_bind, at_dollar]
  simp [bump, setRest, at_dollar, single]

theorem sequence_close (quiet : flags.verbose = false) (at_close : r.rest.head? = some ')' ∨ r.rest = []) :
    (sequence (fuel + 1) flags items).run r = pure ((seqOf items.reverse, flags), r) := by
  rw [sequence.eq_def]
  dsimp only
  rw [run_space_bind quiet, run_peek_bind]
  rcases at_close with at_close | at_close <;> simp [at_close]

/-- `(?s:` opens a group read with the dot taking every character. -/
theorem sequence_dotAllGroup {body : List Char} (quiet : flags.verbose = false)
    (at_group : r.rest = '(' :: '?' :: 's' :: ':' :: body) :
    (sequence (fuel + 1) flags items).run r =
      (group fuel { flags with dotAll := true } r.pos >>= fun inner =>
        sequence fuel flags (.part inner :: items)).run
        { r with rest := body, pos := r.pos + 1 + 1 + 1 + 1 } := by
  rw [sequence.eq_def]
  dsimp only
  obtain ⟨rest, names, pos, classes, deferred⟩ := r
  obtain rfl : rest = _ := at_group
  rw [run_space_bind quiet, run_peek_bind]
  simp [here, bump, setRest, space, quiet, startsWith, flagItems, setFlag, peek]

theorem moreBranches_none (no_bar : r.rest.head? ≠ some '|') :
    (moreBranches (fuel + 1) flags).run r = pure (([], flags), r) := by
  rw [moreBranches.eq_def]
  dsimp only
  rw [run_peek_bind]
  simp [no_bar]

/-- A single branch is read as its sequence. -/
theorem alternation_single {p : Pattern} {flags' : Flags} {r' : Reading}
    (read : (sequence (fuel + 1) flags []).run r = pure ((p, flags'), r'))
    (no_bar : r'.rest.head? ≠ some '|') :
    (alternation (fuel + 2) flags).run r = pure ((p, flags'), r') := by
  rw [alternation.eq_def]
  dsimp only
  simp only [StateT.run_bind, read, pure_bind, moreBranches_none no_bar]
  rfl

/-- A group is read as its branches up to its closing parenthesis. -/
theorem group_closed {p : Pattern} {flags' : Flags} {r' : Reading} {o : Nat}
    (read : (alternation fuel flags).run r = pure ((p, flags'), r')) (at_close : r'.rest = ')' :: more) :
    (group (fuel + 1) flags o).run r = pure (p, { r' with rest := more, pos := r'.pos + 1 }) := by
  rw [group.eq_def]
  dsimp only
  simp only [StateT.run_bind, read]
  simp [peek, at_close, bump, setRest]

end Rounds

/-- Each piece of a glob's translation reads as the piece's regular expression. -/
theorem sequence_piece (c : Char) {fuel : Nat} {items : List SeqItem} {r : Reading}
    {more : List Char} (at_piece : r.rest = (NameMatcher.wildcardPiece c).toList ++ more)
    (eager : more.head? ≠ some '?') :
    (sequence (fuel + Glob.readSteps c) { dotAll := true } items).run r =
      (sequence fuel { dotAll := true } (.part (Glob.piece c) :: items)).run
        { r with rest := more, pos := r.pos + (NameMatcher.wildcardPiece c).toList.length } := by
  unfold NameMatcher.wildcardPiece at at_piece ⊢
  unfold Glob.readSteps Glob.piece
  by_cases star : c = '*'
  · subst star
    simp only [if_pos] at at_piece ⊢
    rw [sequence_dot rfl (by simpa using at_piece), sequence_star rfl rfl eager]
    rfl
  by_cases any : c = '?'
  · subst any
    simp only [if_pos, if_neg star] at at_piece ⊢
    rw [sequence_dot rfl (by simpa using at_piece)]
    rfl
  simp only [if_neg star, if_neg any] at at_piece ⊢
  unfold Regex.escape at at_piece ⊢
  cases meta_c : isMeta c
  · simp only [meta_c] at at_piece ⊢
    rw [sequence_literal rfl (by simpa using at_piece) meta_c]
    simp [literal, foldIf]
  · simp only [meta_c] at at_piece ⊢
    rw [sequence_escape rfl (by simpa using at_piece) meta_c]
    simp [literal, foldIf]

theorem wildcardPiece_head_ne (c : Char) (rest : List Char) :
    ((NameMatcher.wildcardPiece c).toList ++ rest).head? ≠ some '?' := by
  unfold NameMatcher.wildcardPiece Regex.escape
  split
  · simp
  split
  · simp
  split <;> simp_all

/-- The pieces of a glob's translation read, one after another, as the pieces' regular
expressions. -/
theorem sequence_pieces (p : List Char) : ∀ {fuel : Nat} {items : List SeqItem} {r : Reading}
    {more : List Char}, r.rest = Glob.pieceText p ++ more → more.head? ≠ some '?' →
    (sequence (fuel + (p.map Glob.readSteps).sum) { dotAll := true } items).run r =
      (sequence fuel { dotAll := true } ((p.map fun c => .part (Glob.piece c)).reverse ++ items)).run
        { r with rest := more, pos := r.pos + (Glob.pieceText p).length } := by
  induction p with
  | nil =>
    intro fuel items r more at_pieces _
    obtain ⟨rest, names, pos, classes, deferred⟩ := r
    obtain rfl : rest = more := at_pieces
    rfl
  | cons c p ih =>
    intro fuel items r more at_pieces eager
    have next : (Glob.pieceText p ++ more).head? ≠ some '?' := by
      cases p with
      | nil => simpa using eager
      | cons d p => simpa [List.append_assoc] using wildcardPiece_head_ne d (Glob.pieceText p ++ more)
    rw [List.map_cons, List.sum_cons, Nat.add_comm (Glob.readSteps c), ← Nat.add_assoc,
      sequence_piece c (by simpa [List.append_assoc] using at_pieces) next, ih rfl eager]
    simp [List.map_cons, List.reverse_cons, Nat.add_assoc]

end Regex.Reader

/-! ## Compiling the pieces -/

namespace Regex

theorem toNat_lt_of_char (c : Char) : c.toNat < 0x110000 := by
  have valid := c.valid
  unfold Char.toNat
  unfold UInt32.isValidChar at valid
  grind [UInt32.lt_iff_toNat_lt]

@[simp] theorem CharSet.contains_full (c : Char) : CharSet.full.contains c = true := by
  have bounded := toNat_lt_of_char c
  simp [CharSet.full, CharSet.contains, CharSet.containsCode, maxCode]
  omega

@[simp] theorem CharSet.contains_single (c d : Char) :
    (CharSet.single c).contains d = true ↔ d = c := by
  simp [CharSet.single, CharSet.contains, CharSet.containsCode, ← Char.toNat_inj]
  omega

namespace Program

theorem compileAt_chars (insts : Array Inst) (next : Nat) (set : CharSet) :
    compileAt insts next (.chars set) = (insts.push (.chars set next), insts.size) := by
  rw [compileAt]
  rfl

theorem compileAt_look (insts : Array Inst) (next : Nat) (l : Look) :
    compileAt insts next (.look l) = (insts.push (.look l next), insts.size) := by
  rw [compileAt]
  rfl

theorem compileAt_seq (insts : Array Inst) (next : Nat) (parts : List Pattern) :
    compileAt insts next (.seq parts) = compileSeq insts next parts := by
  rw [compileAt]

theorem compileSeq_nil (insts : Array Inst) (next : Nat) : compileSeq insts next [] = (insts, next) := by
  rw [compileSeq]

theorem compileSeq_cons (insts : Array Inst) (next : Nat) (p : Pattern) (ps : List Pattern) :
    compileSeq insts next (p :: ps) =
      compileAt (compileSeq insts next ps).1 (compileSeq insts next ps).2 p := by
  rw [compileSeq]

/-- A star over a set is a fork into the set or out, the set going back to the fork. -/
theorem compileAt_star (insts : Array Inst) (next : Nat) (set : CharSet) :
    compileAt insts next (.rep (.chars set) 0 none) =
      ((insts.push (.fork (insts.size + 1) next)).push (.chars set insts.size), insts.size) := by
  rw [compileAt]
  simp only [emit, compileAt_chars, compileCopies, Array.size_push]
  congr 1
  apply Array.toList_inj.1
  simp [Array.toList_setIfInBounds, List.set_append_right]

/-- Gathering the parts of a sequence compiles them in a row. -/
theorem compileAt_seqOf {α : Type} (insts : Array Inst) (next : Nat) (ps : List α) (f : α → Pattern) :
    compileAt insts next (Reader.seqOf (ps.map fun a => .part (f a))) =
      compileSeq insts next (ps.map f) := by
  unfold Reader.seqOf
  rcases ps with _ | ⟨a, _ | ⟨b, ps⟩⟩
  · simp [compileAt_seq]
  · simp [compileSeq_cons, compileSeq_nil]
  · simp [compileAt_seq, List.filterMap_map]

variable {prog : Program}

theorem getElem?_of_isPrefix {insts : Array Inst} (pre : insts.toList <+: prog.insts.toList) {i : Nat}
    (inside : i < insts.size) : prog.insts[i]? = insts[i]? := by
  obtain ⟨rest, whole⟩ := pre
  rw [← Array.getElem?_toList, ← Array.getElem?_toList, ← whole,
    List.getElem?_append_left (by simpa using inside)]

theorem getElem?_of_isPrefix_push {insts : Array Inst} {i : Inst}
    (pre : (insts.push i).toList <+: prog.insts.toList) : prog.insts[insts.size]? = some i := by
  rw [getElem?_of_isPrefix pre (by simp)]
  simp

theorem prefix_push (insts : Array Inst) (i : Inst) : insts.toList <+: (insts.push i).toList := by
  simp [List.prefix_append]

end Program

end Regex

namespace Glob

open Regex Program

/-- The code at `entry` reads what the glob pattern `p` matches and goes on at `exit`. -/
def Code (prog : Program) (p : List Char) (entry exit : Nat) : Prop :=
  ∀ before s, prog.Accepts entry before s ↔
    ∃ u v, s = u ++ v ∧ Matches p u ∧ prog.Accepts exit (lastRead before u) v

variable {prog : Program}

theorem code_nil (exit : Nat) : Code prog [] exit exit := by
  intro before s
  constructor
  · exact fun accepted => ⟨[], s, rfl, .nil, accepted⟩
  · rintro ⟨u, v, rfl, matched, accepted⟩
    obtain rfl := matches_nil_iff.1 matched
    exact accepted

/-- A piece that reads one character of a set, before the code of the rest of the pattern. -/
theorem code_one {c : Char} {p : List Char} {entry next exit : Nat} {set : CharSet}
    (at_entry : prog.insts[entry]? = some (.chars set next)) (rest : Code prog p next exit)
    (one : ∀ u, Matches (c :: p) u ↔ ∃ d w, u = d :: w ∧ set.contains d = true ∧ Matches p w) :
    Code prog (c :: p) entry exit := by
  intro before s
  rw [accepts_at_chars at_entry]
  constructor
  · rintro ⟨d, t, rfl, contains, accepted⟩
    obtain ⟨w, v, rfl, matched, finished⟩ := (rest _ _).1 accepted
    exact ⟨d :: w, v, rfl, (one _).2 ⟨d, w, rfl, contains, matched⟩, finished⟩
  · rintro ⟨u, v, rfl, matched, accepted⟩
    obtain ⟨d, w, rfl, contains, tail⟩ := (one _).1 matched
    exact ⟨d, w ++ v, rfl, contains, (rest _ _).2 ⟨w, v, rfl, tail, accepted⟩⟩

/-- A loop over every character reads any run, and goes on at `exit`. -/
theorem accepts_loop {loop exit : Nat}
    (at_loop : prog.insts[loop]? = some (.fork (loop + 1) exit))
    (at_body : prog.insts[loop + 1]? = some (.chars CharSet.full loop)) {before : Option Char}
    {s : List Char} :
    prog.Accepts loop before s ↔ ∃ u v, s = u ++ v ∧ prog.Accepts exit (lastRead before u) v := by
  constructor
  · intro accepted
    induction s generalizing before with
    | nil =>
      rcases (accepts_at_fork at_loop).1 accepted with body | out
      · obtain ⟨_, _, nonempty, _⟩ := (accepts_at_chars at_body).1 body
        cases nonempty
      · exact ⟨[], [], rfl, out⟩
    | cons c rest ih =>
      rcases (accepts_at_fork at_loop).1 accepted with body | out
      · obtain ⟨d, t, same, -, again⟩ := (accepts_at_chars at_body).1 body
        obtain ⟨rfl, rfl⟩ := List.cons.inj same
        obtain ⟨u, v, rfl, later⟩ := ih again
        exact ⟨c :: u, v, rfl, later⟩
      · exact ⟨[], c :: rest, rfl, out⟩
  · rintro ⟨u, v, rfl, accepted⟩
    induction u generalizing before with
    | nil => exact .forkSecond at_loop accepted
    | cons c u ih =>
      exact .forkFirst at_loop (.chars at_body (CharSet.contains_full c) (ih accepted))

/-- A star before the code of the rest of the pattern. -/
theorem code_star {p : List Char} {loop next exit : Nat}
    (at_loop : prog.insts[loop]? = some (.fork (loop + 1) next))
    (at_body : prog.insts[loop + 1]? = some (.chars CharSet.full loop))
    (rest : Code prog p next exit) : Code prog ('*' :: p) loop exit := by
  intro before s
  rw [accepts_loop at_loop at_body]
  constructor
  · rintro ⟨u, t, rfl, accepted⟩
    obtain ⟨w, v, rfl, matched, finished⟩ := (rest _ _).1 accepted
    refine ⟨u ++ w, v, (List.append_assoc _ _ _).symm, matches_star_iff.2 ⟨u, w, rfl, matched⟩, ?_⟩
    rwa [lastRead_append]
  · rintro ⟨u, v, rfl, matched, accepted⟩
    obtain ⟨t, w, rfl, tail⟩ := matches_star_iff.1 matched
    rw [lastRead_append] at accepted
    exact ⟨t, w ++ v, List.append_assoc _ _ _, (rest _ _).2 ⟨w, v, rfl, tail, accepted⟩⟩

/-- The code of the pieces of a glob pattern, compiled in a row before `next`, reads what the
pattern matches; compiling only adds instructions. -/
theorem code_pieces (p : List Char) : ∀ (insts : Array Inst) (next : Nat),
    insts.toList <+: (compileSeq insts next (p.map piece)).1.toList ∧
    ∀ prog : Program, (compileSeq insts next (p.map piece)).1.toList <+: prog.insts.toList →
      Code prog p (compileSeq insts next (p.map piece)).2 next := by
  induction p with
  | nil =>
    intro insts next
    simp only [List.map_nil, compileSeq_nil]
    exact ⟨List.prefix_refl _, fun _ _ => code_nil next⟩
  | cons c p ih =>
    intro insts next
    obtain ⟨pre, rest⟩ := ih insts next
    rw [List.map_cons, compileSeq_cons]
    unfold piece
    by_cases star : c = '*'
    · subst star
      simp only [if_pos, compileAt_star]
      refine ⟨pre.trans ((prefix_push _ _).trans (prefix_push _ _)), fun prog whole => ?_⟩
      have inner := (prefix_push _ _).trans whole
      exact code_star (getElem?_of_isPrefix_push inner) (by simpa using getElem?_of_isPrefix_push whole)
        (rest prog (((prefix_push _ _).trans (prefix_push _ _)).trans whole))
    by_cases any : c = '?'
    · subst any
      simp only [if_neg star, if_pos, compileAt_chars]
      refine ⟨pre.trans (prefix_push _ _), fun prog whole => ?_⟩
      refine code_one (getElem?_of_isPrefix_push whole) (rest prog ((prefix_push _ _).trans whole)) ?_
      simp [matches_any_iff]
    · simp only [if_neg star, if_neg any, compileAt_chars]
      refine ⟨pre.trans (prefix_push _ _), fun prog whole => ?_⟩
      refine code_one (getElem?_of_isPrefix_push whole) (rest prog ((prefix_push _ _).trans whole)) ?_
      intro u
      rw [matches_lit_iff star any]
      constructor
      · rintro ⟨v, rfl, matched⟩
        exact ⟨c, v, rfl, (CharSet.contains_single c c).2 rfl, matched⟩
      · rintro ⟨d, w, rfl, contains, matched⟩
        obtain rfl := (CharSet.contains_single c d).1 contains
        exact ⟨w, rfl, matched⟩

/-- The automaton of a glob's regular expression accepts exactly the names the glob matches:
the condition of the start lets a run begin only before the first character, and the
condition of the end lets it accept only after the last. -/
theorem isMatch_compile_regex (p : List Char) (s : String) :
    (compile (regex p)).isMatch s = true ↔ Matches p s.toList := by
  obtain ⟨pre, code⟩ := code_pieces p #[.accept, .look .textEnd 0] 1
  have built : compile (regex p) =
      ⟨(compileSeq #[.accept, .look .textEnd 0] 1 (p.map piece)).1.push
        (.look .textStart (compileSeq #[.accept, .look .textEnd 0] 1 (p.map piece)).2),
        (compileSeq #[.accept, .look .textEnd 0] 1 (p.map piece)).1.size⟩ := by
    simp only [compile, regex, emit, compileAt_seq, compileSeq_cons, compileSeq_nil,
      compileAt_look, compileAt_seqOf]
    rfl
  rw [built, isMatch_iff]
  generalize (compileSeq #[.accept, .look .textEnd 0] 1 (p.map piece)) = built at pre code
  obtain ⟨insts, entry⟩ := built
  dsimp only at pre code ⊢
  obtain ⟨prog, program⟩ : ∃ prog : Program,
      prog = ⟨insts.push (.look .textStart entry), insts.size⟩ := ⟨_, rfl⟩
  rw [← program]
  have whole : insts.toList <+: prog.insts.toList := by
    subst program
    exact prefix_push _ _
  have at_start : prog.insts[insts.size]? = some (.look .textStart entry) :=
    getElem?_of_isPrefix_push (by subst program; exact List.prefix_refl _)
  have at_end : prog.insts[1]? = some (.look .textEnd 0) := by
    rw [getElem?_of_isPrefix (pre.trans whole) (by simp)]
    rfl
  have at_accept : prog.insts[0]? = some .accept := by
    rw [getElem?_of_isPrefix (pre.trans whole) (by simp)]
    rfl
  have starts : ∀ u v, prog.Accepts insts.size (lastRead none u) v ↔
      u = [] ∧ prog.Accepts entry none v := by
    intro u v
    rw [accepts_at_look at_start]
    cases u with
    | nil => simp [Look.holds]
    | cons c u => simp [Look.holds, lastRead_some_ne_none]
  have ends : ∀ before t, prog.Accepts 1 before t ↔ t = [] := by
    intro before t
    rw [accepts_at_look at_end]
    cases t <;> simp [Look.holds, accepts_at_accept at_accept]
  have reads := code prog whole none s.toList
  simp only [starts, ends] at reads ⊢
  rw [program] at reads ⊢
  constructor
  · rintro ⟨u, v, split, rfl, accepted⟩
    obtain ⟨w, t, split', matched, rfl⟩ := reads.1 (by simpa [split] using accepted)
    simpa [split'] using matched
  · intro matched
    exact ⟨[], s.toList, rfl, rfl, reads.2 ⟨s.toList, [], by simp, matched, rfl⟩⟩

end Glob

namespace Glob

open Regex Reader

theorem readSteps_le (c : Char) : readSteps c ≤ (NameMatcher.wildcardPiece c).toList.length := by
  unfold readSteps NameMatcher.wildcardPiece Regex.escape
  split
  · simp_all
  split
  · simp
  split <;> simp

theorem sum_readSteps_le (p : List Char) : (p.map readSteps).sum ≤ (pieceText p).length := by
  induction p with
  | nil => simp
  | cons c p ih =>
    have piece := readSteps_le c
    simp only [List.map_cons, List.sum_cons, pieceText_cons, List.length_append]
    omega

/-- The group of the translation reads as the pieces in a row, up to its closing parenthesis. -/
theorem group_pieces (p : List Char) {k o : Nat} {r : Reading} {more : List Char}
    (at_body : r.rest = pieceText p ++ ')' :: more) :
    (group (k + (p.map readSteps).sum + 3) { dotAll := true } o).run r =
      pure (seqOf (p.map fun c => .part (piece c)),
        { r with rest := more, pos := r.pos + (pieceText p).length + 1 }) := by
  have pieces := @sequence_pieces p (k + 1) [] _ _ at_body (by simp)
  rw [sequence_close rfl (.inl rfl), List.append_nil, List.reverse_reverse,
    Nat.add_right_comm] at pieces
  exact group_closed (alternation_single pieces (by simp)) rfl

/-- The translation of every glob pattern reads, as the pieces of the pattern in a row between
the anchors of the text. -/
theorem parse_wildcardText (pattern : String) :
    Pattern.parse (NameMatcher.wildcardText pattern) = .ok (regex pattern.toList) := by
  have bounded := sum_readSteps_le pattern.toList
  obtain ⟨k, fuel⟩ : ∃ k, 4 * (NameMatcher.wildcardText pattern).toList.length + 8 =
      k + (pattern.toList.map readSteps).sum + 6 := by
    refine ⟨4 * (NameMatcher.wildcardText pattern).toList.length + 2 -
      (pattern.toList.map readSteps).sum, ?_⟩
    simp only [wildcardText_toList, List.length_append] at *
    omega
  unfold Pattern.parse Pattern.parseWith
  dsimp only
  rw [fuel, alternation.eq_def]
  dsimp only
  rw [StateT.run_bind, wildcardText_toList, sequence_textStart rfl rfl rfl,
    sequence_dotAllGroup rfl rfl, StateT.run_bind, group_pieces pattern.toList rfl, pure_bind,
    sequence_textEnd rfl rfl rfl, sequence_close rfl (.inr rfl), pure_bind, StateT.run_bind,
    moreBranches_none (by simp), pure_bind]
  rfl

end Glob

namespace NameMatcher

/-- Every glob pattern compiles: its translation always reads, as the glob's pieces. -/
theorem wildcard_eq (pattern : String) :
    wildcard pattern = .ok (.glob pattern (Regex.Program.compile (Glob.regex pattern.toList))) := by
  simp [wildcard, Glob.parse_wildcardText, Except.map]

/-- The matcher of a glob pattern accepts a name exactly when the pattern matches all of it. -/
theorem accepts_glob_regex (pattern name : String) :
    (NameMatcher.glob pattern (Regex.Program.compile (Glob.regex pattern.toList))).accepts name =
      true ↔ Glob.Matches pattern.toList name.toList :=
  Glob.isMatch_compile_regex pattern.toList name

example : (NameMatcher.glob "a.b*" (Regex.Program.compile (Glob.regex "a.b*".toList))).accepts
    "a.bc" = true :=
  (accepts_glob_regex "a.b*" "a.bc").2 (by decide)

/-- A glob matcher compiles for every pattern, and accepts a name exactly when the pattern
matches all of it by the three rules of globbing: a star any run of characters, the empty run
and line feeds included, a question mark exactly one character, and any other character,
metacharacters of regular expressions included, only itself. -/
theorem wildcard_accepts_iff (pattern name : String) :
    ∃ m, wildcard pattern = .ok m ∧
      (m.accepts name = true ↔ Glob.Matches pattern.toList name.toList) :=
  ⟨_, wildcard_eq pattern, accepts_glob_regex pattern name⟩

end NameMatcher

end FieldSelection

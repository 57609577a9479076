import FieldSelection.Toml.Document
/-!
# Scanning TOML text

The reader works on the bytes of the text with a position, and a step either moves on or
fails. A `Failure` records where the reading stood when it failed, whether the failure is
final, and what the steps around it say about it: labels naming what was being read, the
things that were expected there, and a cause. A failure that is not final lets an
alternative be tried from where the step began; a final one ends the reading.

The wording of a failure is `invalid` and its first label, then the expected things, then
the cause, each on a line of its own. A failure with none of these has no wording.

This module also holds the pieces of the layout every part of a document shares: blanks,
comments and line endings.
-/

namespace FieldSelection.Toml

/-- The report of a failed reading step. -/
structure Failure where
  /-- the byte offset where the reading stood -/
  offset : Nat
  /-- whether no alternative may be tried -/
  final : Bool := false
  /-- what was being read, innermost first -/
  labels : List String := []
  /-- what was expected there, innermost first -/
  expected : List String := []
  cause : Option String := none
  deriving DecidableEq, Repr

/-- The wording of a failure. -/
def Failure.message (f : Failure) : String :=
  let parts := (f.labels.head?.map ("invalid " ++ ·)).toList ++
    (if f.expected.isEmpty then [] else ["expected " ++ ", ".intercalate f.expected]) ++
    f.cause.toList
  "\n".intercalate parts

/-- The fault of a document a failure stands for: its wording, pointing at the byte where the
reading stood, or at the end. -/
def Failure.toError (f : Failure) (size : Nat) : TomlError :=
  ⟨f.message, some ⟨f.offset, if f.offset < size then f.offset + 1 else f.offset⟩⟩

/-- A reading step over the bytes of a text, from a byte offset. -/
abbrev Scan := ReaderT ByteArray (StateT Nat (Except Failure))

namespace Scan

/-- The byte `k` places after the position, if any. -/
def byteAt (k : Nat) : Scan (Option UInt8) := do
  let b ← read
  let p ← get
  return b[p + k]?

/-- Whether the position is at the end of the text. -/
def atEnd : Scan Bool := do
  return (← get) ≥ (← read).size

/-- Moves on by `n` bytes. -/
def advance (n : Nat) : Scan Unit := modify (· + n)

/-- Fails, not finally, at byte `p`. -/
def missAt {α : Type} (p : Nat) : Scan α := throw { offset := p }

/-- Fails, not finally, where the reading stands. -/
def miss {α : Type} : Scan α := do missAt (← get)

/-- Step `p`, its failures made final. -/
def final {α : Type} (p : Scan α) : Scan α :=
  tryCatch p fun e => throw { e with final := true }

/-- Step `p`, its failures labelled `l`. -/
def label {α : Type} (l : String) (p : Scan α) : Scan α :=
  tryCatch p fun e => throw { e with labels := e.labels ++ [l] }

/-- Step `p`, its failures saying that `x` was expected. -/
def expecting {α : Type} (x : String) (p : Scan α) : Scan α :=
  tryCatch p fun e => throw { e with expected := e.expected ++ [x] }

/-- Step `p`, or, when it fails but not finally, nothing, from where it began. -/
def attempt {α : Type} (p : Scan α) : Scan (Option α) := do
  let start ← get
  tryCatch (some <$> p) fun e => if e.final then throw e else do set start; pure none

/-- Step `p`, or `q` from where `p` began when `p` fails but not finally. -/
def orElse {α : Type} (p q : Scan α) : Scan α := do
  let start ← get
  tryCatch p fun e => if e.final then throw e else do set start; q

/-- Step `p` run without moving on; a failure points where it began. -/
def lookAhead (p : Scan Unit) : Scan Unit := do
  let start ← get
  tryCatch (do p; set start) fun e => throw { e with offset := start }

/-- Step `p` as often as it succeeds, at most `fuel` times. -/
def repeatAttempt (p : Scan Unit) : Nat → Scan Unit
  | 0 => pure ()
  | fuel + 1 => do
    match ← attempt p with
    | some () => repeatAttempt p fuel
    | none => pure ()

/-- The number of bytes from `p` on that satisfy `f`, at most `limit`. -/
def runLength (b : ByteArray) (f : UInt8 → Bool) (p : Nat) : Nat → Nat → Nat
  | 0, n => n
  | limit + 1, n =>
    match b[p + n]? with
    | some c => if f c then runLength b f p limit (n + 1) else n
    | none => n

/-- Moves past at most `limit` bytes satisfying `f`, answering how many. -/
def takeUpTo (limit : Nat) (f : UInt8 → Bool) : Scan Nat := do
  let n := runLength (← read) f (← get) limit 0
  advance n
  return n

/-- Moves past the bytes satisfying `f`, answering how many. -/
def takeWhile (f : UInt8 → Bool) : Scan Nat := do
  takeUpTo (← read).size f

/-- Moves past one byte or more satisfying `f`; fails when there is none. -/
def takeSome (f : UInt8 → Bool) : Scan Nat := do
  let n ← takeWhile f
  if n == 0 then miss else pure n

/-- Moves past one byte satisfying `f`. -/
def oneOf (f : UInt8 → Bool) : Scan UInt8 := do
  match ← byteAt 0 with
  | some c => if f c then do advance 1; pure c else miss
  | none => miss

/-- Moves past the byte `c`. -/
def byte (c : UInt8) : Scan Unit := discard (oneOf (· == c))

/-- Moves past the bytes of `s`, all of them or none. -/
def literal (s : String) : Scan Unit := do
  let b ← read
  let p ← get
  let bs := s.toUTF8
  if b.extract p (p + bs.size) == bs then advance bs.size else miss

/-- Succeeds at the end of the text only. -/
def eof : Scan Unit := do
  if ← atEnd then pure () else miss

/-- The text of bytes `start` to `stop`. -/
def slice (start stop : Nat) : Scan String := do
  return (String.fromUTF8? ((← read).extract start stop)).getD ""

/-- Whether `c` is a space or a tab. -/
def isBlank (c : UInt8) : Bool := c == 0x20 || c == 0x09

/-- Whether `c` may stand in a comment. -/
def isCommentByte (c : UInt8) : Bool := c == 0x09 || (0x20 ≤ c && c ≤ 0x7E) || 0x80 ≤ c

/-- Moves past spaces and tabs. -/
def blanks : Scan Unit := discard (takeWhile isBlank)

/-- Moves past a comment: `#` and the rest of its line. -/
def comment : Scan Unit := do
  byte 0x23
  discard (takeWhile isCommentByte)

/-- Moves past a line feed, or a carriage return and a line feed; a carriage return alone
fails after it. -/
def newline : Scan Unit := do
  match ← byteAt 0 with
  | some 0x0A => advance 1
  | some 0x0D =>
    advance 1
    if (← byteAt 0) == some 0x0A then advance 1 else miss
  | _ => miss

/-- Moves past a line ending, or stays at the end of the text. -/
def lineEnding : Scan Unit := orElse newline eof

/-- Moves past the end of a line: blanks, a comment, and a line ending. -/
def lineTrailing : Scan Unit := do
  blanks
  discard (attempt comment)
  lineEnding

/-- Moves past blanks, comments and line endings, as between the items of an array. -/
def blankLines : Nat → Scan Unit
  | 0 => pure ()
  | fuel + 1 => do
    blanks
    match ← byteAt 0 with
    | some 0x23 => comment; newline; blankLines fuel
    | some 0x0A | some 0x0D => newline; blankLines fuel
    | _ => pure ()

/-- Moves past line endings and blanks in any order. -/
def blanksAndNewlines (fuel : Nat) : Scan Unit :=
  repeatAttempt (orElse newline (discard (takeSome isBlank))) fuel

end Scan

end FieldSelection.Toml

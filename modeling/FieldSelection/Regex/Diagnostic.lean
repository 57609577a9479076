import FieldSelection.Regex.Syntax
/-!
# Showing a pattern fault

A fault of a pattern is shown under the pattern text it was read from: the pattern, a line of
carets under the characters the fault points at (one caret for an empty range), and the
wording of the fault. When the fault repeats an earlier flag or name, the earlier place gets
carets too.

A pattern of several lines is shown between two rules of tildes, each line after its number,
and a range that spans lines is named by its lines and columns instead of being marked.
Columns count characters from one.
-/

namespace FieldSelection.Regex

/-- The line and column, both from one, of character position `p` of `cs`. -/
def lineColumn (cs : List Char) (p : Nat) : Nat × Nat :=
  let before := cs.take p
  ((before.filter (· == '\n')).length + 1, (before.reverse.takeWhile (· != '\n')).length + 1)

/-- A range placed in a text: the lines and columns of its ends. -/
structure Placed where
  startLine : Nat
  startColumn : Nat
  stopLine : Nat
  stopColumn : Nat
  deriving DecidableEq, Repr

/-- Places the range `s` in `cs`. -/
def place (cs : List Char) (s : CharSpan) : Placed :=
  let (l1, c1) := lineColumn cs s.start
  let (l2, c2) := lineColumn cs s.stop
  ⟨l1, c1, l2, c2⟩

/-- The lines of a text, a carriage return before each line feed dropped, with no empty line
after a last line feed. -/
def textLines (s : String) : List String :=
  let raw := s.splitOn "\n"
  let raw := if s.endsWith "\n" then raw.dropLast else raw
  raw.map fun l => if l.endsWith "\r" then String.ofList (l.toList.dropLast) else l

/-- `n` spaces. -/
def spaces (n : Nat) : String := String.ofList (List.replicate n ' ')

/-- The caret line under one line for the ranges on it, ordered, after `pad` spaces. -/
def caretLine (pad : Nat) (ranges : List Placed) : String :=
  let (text, _) := ranges.foldl (fun (acc : String × Nat) r =>
    let (s, pos) := acc
    let gap := (r.startColumn - 1) - pos
    let width := max 1 (r.stopColumn - r.startColumn)
    (s ++ spaces gap ++ String.ofList (List.replicate width '^'), pos + gap + width))
    (spaces pad, 0)
  text

/-- Orders placed ranges by where they start, then by where they stop. -/
def Placed.before (a b : Placed) : Bool :=
  compareOfLessAndEq [a.startLine, a.startColumn, a.stopLine, a.stopColumn]
    [b.startLine, b.startColumn, b.stopLine, b.stopColumn] == .lt

/-- Inserts a range among ordered ones. -/
def insertPlaced (r : Placed) : List Placed → List Placed
  | [] => [r]
  | x :: xs => if r.before x then r :: x :: xs else x :: insertPlaced r xs

/-- The diagnostic of fault `e` of the pattern `text`. -/
def diagnostic (text : String) (e : PatternError) : String :=
  let cs := text.toList
  let ranges := (e.span :: e.earlier.toList).map (place cs)
  let ranges := ranges.foldl (fun acc r => insertPlaced r acc) []
  let oneLine := ranges.filter fun r => r.startLine == r.stopLine
  let multiLine := ranges.filter fun r => r.startLine != r.stopLine
  let lines := textLines text
  let numberWidth := if lines.length ≤ 1 then 0 else (toString lines.length).length
  let pad := if numberWidth == 0 then 4 else 2 + numberWidth
  let notated := String.join ((lines.zipIdx 1).map fun (line, n) =>
    let head := if numberWidth == 0 then "    "
      else spaces (numberWidth - (toString n).length) ++ toString n ++ ": "
    let marks := oneLine.filter (·.startLine == n)
    head ++ line ++ "\n" ++ (if marks.isEmpty then "" else caretLine pad marks ++ "\n"))
  let message := "error: " ++ e.fault.message
  if text.contains '\n' then
    let rule := String.ofList (List.replicate 79 '~')
    let notes := multiLine.map fun r =>
      "on line " ++ toString r.startLine ++ " (column " ++ toString r.startColumn ++
        ") through line " ++ toString r.stopLine ++ " (column " ++
        toString (r.stopColumn - 1) ++ ")"
    "regex parse error:\n" ++ rule ++ "\n" ++ notated ++ rule ++ "\n" ++
      (if notes.isEmpty then "" else "\n".intercalate notes ++ "\n") ++ message
  else "regex parse error:\n" ++ notated ++ message

end FieldSelection.Regex

import FieldSelection.Json.Shortest
/-!
# TOML documents

A TOML document is a table of keys and values. Every key and value read from a text keeps its
`Span`, the byte range it was read from, so that a fault found in it later can be shown in the
text. A table also records how it came to be: written inline, named by a header, made as the
parent of a header, or made by a dotted key; these decide which later lines may extend it.

A `TomlError` is a message with the span it points at. Its rendering names the line and column
of the span's start, shows that line with a gutter, and marks the span with carets under it:
one caret at least, and never past the end of the line.
-/

namespace FieldSelection.Toml

/-- A byte range of the text a document was read from. -/
structure Span where
  start : Nat
  stop : Nat
  deriving DecidableEq, Repr

/-- A key as written, with its span. -/
structure Key where
  name : String
  span : Span
  deriving DecidableEq, Repr

/-- How a table came to be. -/
inductive Origin where
  /-- written in braces as a value -/
  | inline
  /-- named by a table header -/
  | header
  /-- made as the parent of a table named by a header -/
  | implicit
  /-- made by a dotted key -/
  | dotted
  deriving DecidableEq, Repr

/-- A value of a document, with its span. -/
inductive Node where
  | string (s : String) (span : Span)
  | integer (i : Int) (span : Span)
  | float (bits : UInt64) (span : Span)
  | boolean (b : Bool) (span : Span)
  | datetime (text : String) (span : Span)
  /-- an array; `ofTables` when made by array-of-tables headers -/
  | array (items : List Node) (span : Span) (ofTables : Bool)
  | table (entries : List (Key × Node)) (span : Span) (origin : Origin)
  deriving Repr

/-- The span of a value. -/
def Node.span : Node → Span
  | .string _ s | .integer _ s | .float _ s | .boolean _ s | .datetime _ s => s
  | .array _ s _ => s
  | .table _ s _ => s

/-- A fault of a document: its message and the span it points at. -/
structure TomlError where
  message : String
  span : Option Span
  deriving DecidableEq, Repr

/-- The line (from zero) and column of byte `index` of `bytes`: the column counts the
characters before it on its line, or its bytes when the index falls inside a character, and
an index past the end adds the excess. -/
def position (bytes : ByteArray) (index : Nat) : Nat × Nat :=
  if bytes.size == 0 then (0, index)
  else
    let safe := min index (bytes.size - 1)
    let excess := index - safe
    let before := (bytes.extract 0 safe).toList
    let lineStart := match (before.reverse.findIdx? (· == 10)) with
      | some k => safe - k
      | none => 0
    let line := ((bytes.extract 0 lineStart).toList.filter (· == 10)).length
    let piece := bytes.extract lineStart (safe + 1)
    let column := match String.fromUTF8? piece with
      | some s => s.length - 1
      | none => safe - lineStart
    (line, column + excess)

/-- The rendering of a fault of a document read from `source`. -/
def TomlError.render (e : TomlError) (source : String) : String :=
  match e.span with
  | none => e.message ++ "\n"
  | some span =>
    let (line, column) := position source.toUTF8 span.start
    let lineNum := line + 1
    let gutter := (toString lineNum).length
    let content := ((source.splitOn "\n")[line]?).getD ""
    let width := min (span.stop - span.start) (content.utf8ByteSize - column)
    let pad := String.ofList (List.replicate (gutter + 1) ' ')
    "TOML parse error at line " ++ toString lineNum ++ ", column " ++ toString (column + 1) ++
      "\n" ++ pad ++ "|\n" ++ toString lineNum ++ " | " ++ content ++ "\n" ++ pad ++ "|" ++
      String.ofList (List.replicate (column + 1) ' ') ++ "^" ++
      String.ofList (List.replicate (width - 1) '^') ++ "\n" ++ e.message ++ "\n"

end FieldSelection.Toml

import FieldSelection.Toml.Values
/-!
# Reading TOML documents

`Toml.read` turns a TOML text into its root table, or into the first fault with the span it
points at. After an optional byte order mark, the text is read line by line: blank lines,
comments, table headers `[a.b]` and array-of-tables headers `[[a.b]]`, and key/value pairs,
each header and pair ending its line, with blanks and a comment allowed before the line
ending. What a line is follows from its first character after blanks.

Each header and pair is applied to the document as soon as it is read, so a fault in how the
document is built points at the start of the line that caused it; a fault found only when
the last table is put in place points nowhere.
-/

namespace FieldSelection.Toml

namespace Scan

/-- Reads a table header: its path, whether it opens a table of an array, and its span. -/
def header (fuel : Nat) : Scan (List Key × Bool × Span) := label "table header" do
  let start ← get
  if (← byteAt 0) == some 0x5B && (← byteAt 1) == some 0x5B then
    literal "[["
    let path ← final (dottedKey fuel)
    expecting "`]]`" (expecting "`.`" (final (literal "]]")))
    let span : Span := ⟨start, ← get⟩
    expecting "`#`" (expecting "newline" (final lineTrailing))
    pure (path, true, span)
  else
    byte 0x5B
    let path ← final (dottedKey fuel)
    expecting "`]`" (expecting "`.`" (final (byte 0x5D)))
    let span : Span := ⟨start, ← get⟩
    expecting "`#`" (expecting "newline" (final lineTrailing))
    pure (path, false, span)

/-- Reads a key/value pair and the end of its line. -/
def pair (fuel : Nat) : Scan (List Key × Node) := do
  let path ← dottedKey fuel
  final (do
    expecting "`=`" (expecting "`.`" (byte 0x3D))
    blanks
    let v ← value fuel
    expecting "`#`" (expecting "newline" lineTrailing)
    pure (path, v))

/-- Applies a change to the document being built; its fault points at byte `at`. -/
def apply (r : Except String Sheet) (at_ : Nat) : Scan Sheet :=
  match r with
  | .ok s => pure s
  | .error msg => throw { offset := at_, final := true, cause := some msg }

/-- Reads the lines of a document into `s`, at most `steps` of them. -/
def lines (fuel : Nat) (s : Sheet) : Nat → Scan Sheet
  | 0 => pure s
  | steps + 1 => do
    let start ← get
    match ← byteAt 0 with
    | none => pure s
    | some 0x23 =>
      final (do comment; lineEnding)
      blanks
      lines fuel s steps
    | some 0x5B =>
      let (path, isArray, span) ← final (header fuel)
      let s ← apply (if isArray then s.openArrayTable path span else s.openTable path span) start
      blanks
      lines fuel s steps
    | some 0x0A | some 0x0D =>
      match ← attempt newline with
      | some () => blanks; lines fuel s steps
      | none => pure s
    | some _ =>
      let (path, v) ← final (pair fuel)
      let s ← apply (s.setValue path v) start
      blanks
      lines fuel s steps

/-- Reads a whole document. -/
def document : Scan Sheet := do
  let size := (← read).size
  discard (attempt (literal (String.singleton (Char.ofNat 0xFEFF))))
  blanks
  let s ← lines (size + 1) {} (size + 1)
  eof
  pure s

end Scan

/-- Reads a TOML text into its root table. -/
def read (text : String) : Except TomlError Node := do
  let bytes := text.toUTF8
  let s ← match (Scan.document.run bytes).run 0 with
    | .ok (s, _) => pure s
    | .error f => throw (f.toError bytes.size)
  match s.finish with
  | .ok s => pure (.table s.root ⟨0, bytes.size⟩ .header)
  | .error msg => throw ⟨msg, none⟩

end FieldSelection.Toml

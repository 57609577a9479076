import FieldSelection.Toml.Scan
/-!
# TOML strings and keys

A string is basic (`"..."`, with escapes), literal (`'...'`, as written), or either of these
over several lines between three quotes, where a line ending right after the opening quotes
is dropped. In a multi-line basic string a backslash at the end of a line drops it and the
blanks and line endings after it. Up to two quotes of the closing kind may stand just before
the closing three, and belong to the string.

An escape is one of `\b \f \n \r \t \" \\`, or `\u` with four hexadecimal digits or `\U`
with eight naming a Unicode scalar value. A string that is not closed fails where its
reading stopped, labelled by its kind; a bad escape fails after the character that follows
the backslash.

A key is bare (letters, digits, `-` and `_`) or a basic or literal string, and a dotted key
joins keys with dots, blanks allowed around each of them.
-/

namespace FieldSelection.Toml

namespace Scan

/-- Whether `c` may stand unescaped in a basic string. -/
def isBasicByte (c : UInt8) : Bool :=
  isBlank c || c == 0x21 || (0x23 ≤ c && c ≤ 0x5B) || (0x5D ≤ c && c ≤ 0x7E) || 0x80 ≤ c

/-- Whether `c` may stand in a literal string. -/
def isLiteralByte (c : UInt8) : Bool :=
  c == 0x09 || (0x20 ≤ c && c ≤ 0x26) || (0x28 ≤ c && c ≤ 0x7E) || 0x80 ≤ c

/-- The value of a hexadecimal digit. -/
def hexDigitValue (c : UInt8) : Option Nat :=
  if 0x30 ≤ c && c ≤ 0x39 then some (c.toNat - 0x30)
  else if 0x61 ≤ c && c ≤ 0x66 then some (c.toNat - 0x61 + 10)
  else if 0x41 ≤ c && c ≤ 0x46 then some (c.toNat - 0x41 + 10)
  else none

/-- Whether `c` is a hexadecimal digit. -/
def isHexDigit (c : UInt8) : Bool := (hexDigitValue c).isSome

/-- The value of the digits in `bs` in base `base`. -/
def digitsValue (base : Nat) (bs : List UInt8) : Nat :=
  bs.foldl (fun acc c => acc * base + (hexDigitValue c).getD 0) 0

/-- Whether `v` is a Unicode scalar value. -/
def isScalar (v : Nat) : Bool := v < 0xD800 || (0xDFFF < v && v < 0x110000)

/-- Reads exactly `n` hexadecimal digits naming a Unicode scalar value. -/
def hexEscape (n : Nat) : Scan Char := do
  let start ← get
  let k ← takeUpTo n isHexDigit
  if k != n then missAt start
  let v := digitsValue 16 ((← read).extract start (start + n)).toList
  if isScalar v then pure (Char.ofNat v)
  else throw { offset := start, cause := some "value is out of range" }

/-- Reads the character after a backslash. -/
def escapeSequence : Scan Char := do
  match ← byteAt 0 with
  | none => miss
  | some c =>
    advance 1
    match c with
    | 0x62 => pure '\x08'
    | 0x66 => pure '\x0c'
    | 0x6E => pure '\n'
    | 0x72 => pure '\r'
    | 0x74 => pure '\t'
    | 0x75 => label "unicode 4-digit hex code" (final (hexEscape 4))
    | 0x55 => label "unicode 8-digit hex code" (final (hexEscape 8))
    | 0x5C => pure '\\'
    | 0x22 => pure '"'
    | _ =>
      throw {
        offset := (← get)
        final := true
        labels := ["escape sequence"]
        expected := ["`b`", "`f`", "`n`", "`r`", "`t`", "`u`", "`U`", "`\\`", "`\"`"] }

/-- Reads a backslash and the escape after it. -/
def escaped : Scan Char := do
  byte 0x5C
  escapeSequence

/-- Reads pieces with `p` as long as it succeeds, at most `fuel` of them, after `acc`. -/
def pieces (p : Scan String) (acc : String) : Nat → Scan String
  | 0 => pure acc
  | fuel + 1 => do
    match ← attempt p with
    | some s => pieces p (acc ++ s) fuel
    | none => pure acc

/-- Reads a run of unescaped bytes satisfying `f` as text. -/
def plainRun (f : UInt8 → Bool) : Scan String := do
  let start ← get
  let n ← takeSome f
  slice start (start + n)

/-- Reads a piece of a basic string: unescaped text or one escape. -/
def basicPiece : Scan String :=
  orElse (plainRun isBasicByte) (do let c ← escaped; pure c.toString)

/-- Reads a basic string on one line. -/
def basicString (fuel : Nat) : Scan String := do
  byte 0x22
  let s ← pieces basicPiece "" fuel
  label "basic string" (final (byte 0x22))
  pure s

/-- Moves past a backslash ending a line and the blanks and line endings after it. -/
def foldedLineOnce (fuel : Nat) : Scan Unit := do
  byte 0x5C
  blanks
  newline
  blanksAndNewlines fuel

/-- Reads a piece of a multi-line basic string. -/
def multiBasicPiece (fuel : Nat) : Scan String :=
  orElse (plainRun isBasicByte) <|
  orElse (do foldedLineOnce fuel; repeatAttempt (foldedLineOnce fuel) fuel; pure "") <|
  orElse (do let c ← escaped; pure c.toString) <|
  (do newline; pure "\n")

/-- Reads one or two quotes `q` of the body of a multi-line string, followed by what `next`
reads. -/
def bodyQuotes (q : UInt8) (next : Scan Unit) : Scan String := do
  let two := String.ofList [Char.ofNat q.toNat, Char.ofNat q.toNat]
  orElse (do literal two; lookAhead next; pure two)
    (do byte q; lookAhead next; pure (String.singleton (Char.ofNat q.toNat)))

/-- Moves past one byte other than `q`. -/
def otherThan (q : UInt8) : Scan Unit := discard (oneOf (· != q))

/-- Reads quotes followed by more text of a multi-line basic string, at most `fuel` times. -/
def multiBasicQuoted (fuel : Nat) (acc : String) : Nat → Scan String
  | 0 => pure acc
  | steps + 1 => do
    match ← attempt (bodyQuotes 0x22 (otherThan 0x22)) with
    | none => pure acc
    | some q =>
      match ← attempt (multiBasicPiece fuel) with
      | some s =>
        let acc ← pieces (multiBasicPiece fuel) (acc ++ q ++ s) fuel
        multiBasicQuoted fuel acc steps
      | none => pure acc

/-- Reads the body of a multi-line basic string. -/
def multiBasicBody (fuel : Nat) : Scan String := do
  let s ← pieces (multiBasicPiece fuel) "" fuel
  let s ← multiBasicQuoted fuel s fuel
  match ← attempt (bodyQuotes 0x22 (literal "\"\"\"")) with
  | some q => pure (s ++ q)
  | none => pure s

/-- Reads a multi-line basic string. -/
def multiBasicString (fuel : Nat) : Scan String := label "multiline basic string" do
  literal "\"\"\""
  discard (attempt newline)
  let s ← final (multiBasicBody fuel)
  final (literal "\"\"\"")
  pure s

/-- Reads a literal string on one line. -/
def literalString : Scan String := label "literal string" do
  byte 0x27
  let start ← get
  let n ← final (takeWhile isLiteralByte)
  let s ← slice start (start + n)
  final (byte 0x27)
  pure s

/-- Moves past one byte or line ending of a multi-line literal string. -/
def multiLiteralPiece : Scan Unit :=
  orElse (discard (oneOf isLiteralByte)) newline

/-- Moves past the body of a multi-line literal string. -/
def multiLiteralBody (fuel : Nat) : Scan Unit := do
  repeatAttempt multiLiteralPiece fuel
  repeatAttempt (do
    discard (bodyQuotes 0x27 (otherThan 0x27))
    multiLiteralPiece
    repeatAttempt multiLiteralPiece fuel) fuel
  discard (attempt (bodyQuotes 0x27 (literal "'''")))

/-- Reads a multi-line literal string. -/
def multiLiteralString (fuel : Nat) : Scan String := label "multiline literal string" do
  literal "'''"
  discard (attempt newline)
  let start ← get
  final (multiLiteralBody fuel)
  let s ← slice start (← get)
  final (literal "'''")
  pure (s.replace "\r\n" "\n")

/-- Reads a string of any kind. -/
def stringValue (fuel : Nat) : Scan String :=
  orElse (multiBasicString fuel) <|
  orElse (basicString fuel) <|
  orElse (multiLiteralString fuel) literalString

/-- Whether `c` may stand in a bare key. -/
def isBareKeyByte (c : UInt8) : Bool :=
  (0x41 ≤ c && c ≤ 0x5A) || (0x61 ≤ c && c ≤ 0x7A) || (0x30 ≤ c && c ≤ 0x39) ||
    c == 0x2D || c == 0x5F

/-- Reads a key that is not dotted. -/
def simpleKey (fuel : Nat) : Scan Key := do
  let start ← get
  let name ← match ← byteAt 0 with
    | none => miss
    | some 0x22 => basicString fuel
    | some 0x27 => literalString
    | some _ => plainRun isBareKeyByte
  return ⟨name, ⟨start, ← get⟩⟩

/-- Reads a key between blanks. -/
def keyPart (fuel : Nat) : Scan Key := do
  blanks
  let k ← simpleKey fuel
  blanks
  pure k

/-- Reads more parts of a dotted key, each after a dot, at most `steps` of them. -/
def moreKeyParts (fuel : Nat) : Nat → Scan (List Key)
  | 0 => pure []
  | steps + 1 => do
    match ← attempt (do byte 0x2E; keyPart fuel) with
    | some k => return k :: (← moreKeyParts fuel steps)
    | none => pure []

/-- Reads a dotted key. -/
def dottedKey (fuel : Nat) : Scan (List Key) := label "key" do
  let k ← keyPart fuel
  let ks ← moreKeyParts fuel fuel
  pure (k :: ks)

end Scan

end FieldSelection.Toml

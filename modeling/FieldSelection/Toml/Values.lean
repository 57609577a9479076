import FieldSelection.Toml.Tables
/-!
# TOML values

What a value is follows from its first character: a quote or an apostrophe starts a string,
`[` an array, `{` an inline table, a sign or a digit a date, float or integer, `t`, `f`, `i`
and `n` the words `true`, `false`, `inf` and `nan`. Anything else is not a value, and the
fault says a string was expected, since a word without quotes is the likely slip.

An array holds values separated by commas, with blanks, line endings and comments around
them and an optional comma after the last. An inline table holds key/value pairs separated by
commas on one line, with no comma after the last; its pairs are put together by the rules of
dotted keys, and a fault of them points just after the opening brace.
-/

namespace FieldSelection.Toml

namespace Scan

/-- Step `p` for a value that must be a word, its failures saying a string was expected. -/
def asWord {α : Type} (p : Scan α) : Scan α :=
  expecting "`'`" (expecting "`\"`" (label "string" p))

/-- Reads the word `w` as a value. -/
def word (w : String) : Scan Unit := asWord (final (literal w))

mutual

/-- Reads a value. -/
def value : Nat → Scan Node
  | 0 => miss
  | fuel + 1 => do
    let start ← get
    let spanned := fun (n : Span → Node) => do return n ⟨start, ← get⟩
    match ← byteAt 0 with
    | none => miss
    | some c =>
      if c == 0x22 || c == 0x27 then
        let s ← stringValue fuel
        spanned (.string s)
      else if c == 0x5B then array fuel
      else if c == 0x7B then inlineTable fuel
      else if isSignByte c || isDigitByte c then
        orElse (do let t ← dateTime; spanned (.datetime t)) <|
        orElse (do let b ← float fuel; spanned (.float b)) <|
        (do let i ← integer fuel; spanned (.integer i))
      else if c == 0x5F then
        let i ← expecting "leading digit" (integer fuel)
        spanned (.integer i)
      else if c == 0x2E then
        let b ← expecting "leading digit" (float fuel)
        spanned (.float b)
      else if c == 0x74 then do word "true"; spanned (.boolean true)
      else if c == 0x66 then do word "false"; spanned (.boolean false)
      else if c == 0x69 then do word "inf"; spanned (.float 0x7FF0000000000000)
      else if c == 0x6E then do word "nan"; spanned (.float 0x7FF8000000000000)
      else asWord miss

/-- Reads an array item with the blank lines around it. -/
def arrayItem : Nat → Scan Node
  | 0 => miss
  | fuel + 1 => do
    blankLines fuel
    let v ← value fuel
    blankLines fuel
    pure v

/-- Reads more array items, each after a comma, at most `steps` of them. -/
def moreItems (fuel : Nat) : Nat → Scan (List Node)
  | 0 => pure []
  | steps + 1 => do
    match ← attempt (do byte 0x2C; arrayItem fuel) with
    | some v => return v :: (← moreItems fuel steps)
    | none => pure []

/-- Reads an array. -/
def array : Nat → Scan Node
  | 0 => miss
  | fuel + 1 => do
    let start ← get
    byte 0x5B
    let items ← final (do
      let items ← attempt (do
        let first ← arrayItem fuel
        let rest ← moreItems fuel fuel
        discard (attempt (byte 0x2C))
        pure (first :: rest))
      blankLines fuel
      pure (items.getD []))
    expecting "`]`" (label "array" (final (byte 0x5D)))
    return .array items ⟨start, ← get⟩ false

/-- Reads a key/value pair of an inline table. -/
def inlinePair : Nat → Scan (List Key × Node)
  | 0 => miss
  | fuel + 1 => do
    let path ← dottedKey fuel
    final (do
      expecting "`=`" (expecting "`.`" (byte 0x3D))
      blanks
      let v ← value fuel
      blanks
      pure (path, v))

/-- Reads more pairs of an inline table, each after a comma, at most `steps` of them. -/
def morePairs (fuel : Nat) : Nat → Scan (List (List Key × Node))
  | 0 => pure []
  | steps + 1 => do
    match ← attempt (do byte 0x2C; inlinePair fuel) with
    | some p => return p :: (← morePairs fuel steps)
    | none => pure []

/-- Reads an inline table. -/
def inlineTable : Nat → Scan Node
  | 0 => miss
  | fuel + 1 => do
    let start ← get
    byte 0x7B
    let inside ← get
    let entries ← final (do
      let pairs ← match ← attempt (inlinePair fuel) with
        | some p => pure (p :: (← morePairs fuel fuel))
        | none => pure []
      blanks
      match inlineEntries pairs with
      | .ok es => pure es
      | .error msg => throw { offset := inside, cause := some msg })
    expecting "`\x7d`" (label "inline table" (final (byte 0x7D)))
    return .table entries ⟨start, ← get⟩ .inline

end

end Scan

end FieldSelection.Toml

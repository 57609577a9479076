import FieldSelection.Json.Value
/-!
# Reading JSON text

`Json.read` turns a JSON text into a `Value`, or into a `ReadError` that names the fault and
the byte offset at which it is reported. Blanks are space, tab, line feed and carriage return.
Objects keep their members in written order, a repeated key taking the later value in the
earlier place. Arrays and objects nest at most 127 deep.

Numbers: a literal without fraction or exponent is an integer when it fits in 64 bits
(unsigned, or signed when negative); every other literal becomes a float by multiplying or
dividing its decimal significand, rounded to 64 bits, by a power of ten. A float that comes out
infinite is out of range; `-0` is the float negative zero.
-/

namespace FieldSelection.Json

/-- The faults of a JSON text. -/
inductive ReadFault where
  | eofInList
  | eofInObject
  | eofInString
  | eofInValue
  | expectedColon
  | expectedListCommaOrEnd
  | expectedObjectCommaOrEnd
  | expectedIdent
  | expectedValue
  | invalidEscape
  | invalidNumber
  | numberOutOfRange
  | controlCharacterInString
  | keyMustBeString
  | loneLeadingSurrogate
  | unexpectedEndOfHexEscape
  | trailingComma
  | trailingCharacters
  | recursionLimit
  deriving DecidableEq, Repr

/-- The wording of each fault. -/
def ReadFault.message : ReadFault → String
  | .eofInList => "EOF while parsing a list"
  | .eofInObject => "EOF while parsing an object"
  | .eofInString => "EOF while parsing a string"
  | .eofInValue => "EOF while parsing a value"
  | .expectedColon => "expected `:`"
  | .expectedListCommaOrEnd => "expected `,` or `]`"
  | .expectedObjectCommaOrEnd => "expected `,` or `\x7d`"
  | .expectedIdent => "expected ident"
  | .expectedValue => "expected value"
  | .invalidEscape => "invalid escape"
  | .invalidNumber => "invalid number"
  | .numberOutOfRange => "number out of range"
  | .controlCharacterInString => "control character (\\u0000-\\u001F) found while parsing a string"
  | .keyMustBeString => "key must be a string"
  | .loneLeadingSurrogate => "lone leading surrogate in hex escape"
  | .unexpectedEndOfHexEscape => "unexpected end of hex escape"
  | .trailingComma => "trailing comma"
  | .trailingCharacters => "trailing characters"
  | .recursionLimit => "recursion limit exceeded"

/-- A fault and the byte offset at which it is reported. -/
structure ReadError where
  fault : ReadFault
  offset : Nat
  deriving DecidableEq, Repr

/-- The line (from 1) and column (bytes since the line began) of a byte offset in a text. -/
def lineColumn (text : List Char) (offset : Nat) : Nat × Nat :=
  let rec go : List Char → Nat → Nat → Nat → Nat × Nat
    | [], _, line, col => (line, col)
    | c :: cs, left, line, col =>
      if left == 0 then (line, col)
      else
        let w := c.utf8Size
        if c == '\n' then go cs (left - w) (line + 1) 0 else go cs (left - w) line (col + w)
  go text offset 1 0

/-- The message of a read error: the fault, then its line and column in `text`. -/
def ReadError.describe (e : ReadError) (text : String) : String :=
  let (line, col) := lineColumn text.toList e.offset
  e.fault.message ++ " at line " ++ toString line ++ " column " ++ toString col

/-- A position in the text being read: what is left and its byte offset. -/
structure Cursor where
  rest : List Char
  offset : Nat
  /-- The byte length of the whole text. -/
  total : Nat

namespace Cursor

/-- The next character, if any. -/
def peek (c : Cursor) : Option Char := c.rest.head?

/-- The cursor past its next character. -/
def bump (c : Cursor) : Cursor :=
  match c.rest with
  | [] => c
  | ch :: rest => { c with rest := rest, offset := c.offset + ch.utf8Size }

/-- The cursor past the JSON blanks. -/
def skipBlanks (c : Cursor) : Cursor :=
  let blanks := c.rest.takeWhile fun ch => ch == ' ' || ch == '\n' || ch == '\t' || ch == '\r'
  { c with rest := c.rest.drop blanks.length, offset := c.offset + blanks.length }

/-- A fault reported at the cursor. -/
def fault (c : Cursor) (f : ReadFault) : ReadError := ⟨f, c.offset⟩

/-- A fault reported one byte past the cursor, at the character looked at, capped at the end. -/
def faultAhead (c : Cursor) (f : ReadFault) : ReadError :=
  ⟨f, min (c.offset + 1) c.total⟩

end Cursor

/-- Powers of ten as binary64 numbers, each the nearest to the exact power. -/
def powerOfTen (n : Nat) : Float := Float.ofScientific 1 false n

/-- The float `significand · 10^exponent`, computed as the significand rounded to binary64 and
then multiplied or divided by a power of ten up to `10^308` (dividing by `10^308` as long as the
power is smaller than that); `none` when the product is infinite. -/
def scaleDecimal (significand : Nat) (exponent : Int) : Option Float :=
  let f := significand.toUInt64.toFloat
  let rec down (f : Float) (e : Nat) (fuel : Nat) : Float :=
    match fuel with
    | 0 => f
    | fuel + 1 =>
      if e ≤ 308 then f / powerOfTen e
      else if f == 0 then f
      else down (f / powerOfTen 308) (e - 308) fuel
  if exponent ≥ 0 then
    let e := exponent.toNat
    if e ≤ 308 then
      let g := f * powerOfTen e
      if g.isInf then none else some g
    else if f == 0 then some f else none
  else some (down f (-exponent).toNat ((-exponent).toNat / 308 + 1))

/-- The largest significand kept; digits beyond it only move the exponent. -/
def maxSignificand : Nat := Nat.pow 2 64 - 1

/-- The float of a decimal literal with the given sign, or the fault at `c`. -/
def decimalFloat (c : Cursor) (negative : Bool) (significand : Nat) (exponent : Int) :
    Except ReadError Value :=
  match scaleDecimal significand exponent with
  | none => .error (c.fault .numberOutOfRange)
  | some f => .ok (.number (.float (if negative then (-f).toBits else f.toBits)))

/-- Reads the digits of an exponent after the sign and returns the final float. -/
def readExponentDigits (negative : Bool) (significand : Nat) (start : Int)
    (expNegative : Bool) : Nat → Nat → Cursor → Except ReadError (Value × Cursor)
  | 0, _, c => .error (c.fault .eofInValue)
  | fuel + 1, acc, c =>
    match c.peek with
    | some d =>
      if d.isDigit then
        let acc' := acc * 10 + (d.toNat - '0'.toNat)
        if acc' > 2147483647 then
          -- an exponent past 32 bits: zero, or out of range upwards
          if significand != 0 && !expNegative then .error ((c.bump).fault .numberOutOfRange)
          else
            let c' := { c.bump with rest := c.bump.rest.dropWhile Char.isDigit,
                                    offset := c.bump.offset + (c.bump.rest.takeWhile Char.isDigit).length }
            let zero : Float := 0
            .ok (.number (.float (if negative then (-zero).toBits else zero.toBits)), c')
        else readExponentDigits negative significand start expNegative fuel acc' c.bump
      else
        let e := if expNegative then start - acc else start + acc
        (decimalFloat c negative significand e).map (·, c)
    | none =>
      let e := if expNegative then start - acc else start + acc
      (decimalFloat c negative significand e).map (·, c)

/-- Reads an exponent, the cursor standing on its e or E. -/
def readExponent (negative : Bool) (significand : Nat) (start : Int) (fuel : Nat) (c : Cursor) :
    Except ReadError (Value × Cursor) :=
  let c := c.bump
  let (expNegative, c) := match c.peek with
    | some '+' => (false, c.bump)
    | some '-' => (true, c.bump)
    | _ => (false, c)
  match c.peek with
  | none => .error (c.fault .eofInValue)
  | some d =>
    if d.isDigit then
      readExponentDigits negative significand start expNegative fuel (d.toNat - '0'.toNat) c.bump
    else .error (c.bump.fault .invalidNumber)

/-- Reads the rest of a number after its significand: fraction digits, when `inFraction`, and
an exponent. -/
def readNumberTail (negative : Bool) (fuel : Nat) :
    Nat → Nat → Int → Bool → Bool → Cursor → Except ReadError (Value × Cursor)
  | 0, _, _, _, _, c => .error (c.fault .eofInValue)
  | step + 1, significand, exponent, overflowed, seenDigit, c =>
    match c.peek with
    | some d =>
      if d.isDigit then
        let digit := d.toNat - '0'.toNat
        if overflowed || significand * 10 + digit > maxSignificand then
          readNumberTail negative fuel step significand exponent true true c.bump
        else
          readNumberTail negative fuel step (significand * 10 + digit) (exponent - 1) false true
            c.bump
      else if !seenDigit then .error (c.faultAhead .invalidNumber)
      else if d == 'e' || d == 'E' then readExponent negative significand exponent fuel c
      else (decimalFloat c negative significand exponent).map (·, c)
    | none =>
      if !seenDigit then .error (c.faultAhead .eofInValue)
      else (decimalFloat c negative significand exponent).map (·, c)

/-- Reads the integer digits of a number whose first digit `first` is already consumed. -/
def readIntegerDigits (negative : Bool) (fuel : Nat) :
    Nat → Nat → Int → Bool → Cursor → Except ReadError (Value × Cursor)
  | 0, _, _, _, c => .error (c.fault .eofInValue)
  | step + 1, significand, extra, overflowed, c =>
    let finish (c : Cursor) : Except ReadError (Value × Cursor) :=
      if overflowed then (decimalFloat c negative significand extra).map (·, c)
      else if !negative then .ok (.number (.int significand), c)
      else if significand ≤ Nat.pow 2 63 && significand != 0 then
        .ok (.number (.int (-(significand : Int))), c)
      else (decimalFloat c true significand 0).map (·, c)
    match c.peek with
    | some d =>
      if d.isDigit then
        let digit := d.toNat - '0'.toNat
        if overflowed || significand * 10 + digit > maxSignificand then
          readIntegerDigits negative fuel step significand (extra + 1) true c.bump
        else readIntegerDigits negative fuel step (significand * 10 + digit) extra false c.bump
      else if d == '.' then readNumberTail negative fuel step significand extra false false c.bump
      else if d == 'e' || d == 'E' then readExponent negative significand extra fuel c
      else finish c
    | none => finish c

/-- Reads a number whose sign, if any, is consumed. -/
def readNumber (negative : Bool) (fuel : Nat) (c : Cursor) : Except ReadError (Value × Cursor) :=
  match c.peek with
  | none => .error (c.fault .eofInValue)
  | some '0' =>
    let c := c.bump
    match c.peek with
    | some d =>
      if d.isDigit then .error (c.faultAhead .invalidNumber)
      else if d == '.' then readNumberTail negative fuel fuel 0 0 false false c.bump
      else if d == 'e' || d == 'E' then readExponent negative 0 0 fuel c
      else if negative then (decimalFloat c true 0 0).map (·, c)
      else .ok (.number (.int 0), c)
    | none => if negative then (decimalFloat c true 0 0).map (·, c) else .ok (.number (.int 0), c)
  | some d =>
    if d.isDigit then readIntegerDigits negative fuel fuel (d.toNat - '0'.toNat) 0 false c.bump
    else .error (c.bump.fault .invalidNumber)

/-- The value of four hex digits. -/
def hexValue (ds : List Char) : Option Nat :=
  ds.foldl (fun acc d => acc.bind fun n =>
    if d.isDigit then some (n * 16 + (d.toNat - '0'.toNat))
    else if 'a' ≤ d && d ≤ 'f' then some (n * 16 + (d.toNat - 'a'.toNat + 10))
    else if 'A' ≤ d && d ≤ 'F' then some (n * 16 + (d.toNat - 'A'.toNat + 10))
    else none) (some 0)

/-- Reads four hex digits of a unicode escape. -/
def readHex4 (c : Cursor) : Except ReadError (Nat × Cursor) :=
  let ds := c.rest.take 4
  if ds.length < 4 then .error ⟨.eofInString, c.total⟩
  else
    let c' := { c with rest := c.rest.drop 4, offset := c.offset + ds.foldl (fun n d => n + d.utf8Size) 0 }
    match hexValue ds with
    | some n => .ok (n, c')
    | none => .error (c'.fault .invalidEscape)

/-- Reads what follows a backslash in a string, the backslash consumed. -/
def readEscape (c : Cursor) : Except ReadError (Char × Cursor) :=
  match c.peek with
  | none => .error (c.fault .eofInString)
  | some e =>
    let c := c.bump
    match e with
    | '"' => .ok ('"', c)
    | '\\' => .ok ('\\', c)
    | '/' => .ok ('/', c)
    | 'b' => .ok ('\x08', c)
    | 'f' => .ok ('\x0c', c)
    | 'n' => .ok ('\n', c)
    | 'r' => .ok ('\r', c)
    | 't' => .ok ('\t', c)
    | 'u' => do
      let (n, c) ← readHex4 c
      if 0xDC00 ≤ n && n ≤ 0xDFFF then .error (c.fault .loneLeadingSurrogate)
      else if n < 0xD800 || n > 0xDBFF then .ok (Char.ofNat n, c)
      else
        match c.peek with
        | none => .error (c.fault .eofInString)
        | some '\\' =>
          let c := c.bump
          match c.peek with
          | none => .error (c.fault .eofInString)
          | some 'u' =>
            let (n2, c) ← readHex4 c.bump
            if n2 < 0xDC00 || n2 > 0xDFFF then .error (c.fault .loneLeadingSurrogate)
            else .ok (Char.ofNat (((n - 0xD800) * 1024 + (n2 - 0xDC00)) + 0x10000), c)
          | some _ => .error (c.bump.fault .unexpectedEndOfHexEscape)
        | some _ => .error (c.bump.fault .unexpectedEndOfHexEscape)
    | _ => .error (c.fault .invalidEscape)

/-- Reads the characters of a string up to its closing quote, the opening quote consumed. -/
def readStringBody : Nat → List Char → Cursor → Except ReadError (String × Cursor)
  | 0, _, c => .error (c.fault .eofInString)
  | fuel + 1, acc, c =>
    match c.peek with
    | none => .error ⟨.eofInString, c.total⟩
    | some '"' => .ok (String.ofList acc.reverse, c.bump)
    | some '\\' => do
      let (ch, c) ← readEscape c.bump
      readStringBody fuel (ch :: acc) c
    | some ch =>
      if ch.toNat < 0x20 then .error (c.bump.fault .controlCharacterInString)
      else readStringBody fuel (ch :: acc) c.bump

/-- Reads the letters of null, true or false after the first, the first consumed. -/
def readWord (word : List Char) (v : Value) (c : Cursor) : Except ReadError (Value × Cursor) :=
  match word with
  | [] => .ok (v, c)
  | w :: ws =>
    match c.peek with
    | none => .error (c.fault .eofInValue)
    | some ch => if ch == w then readWord ws v c.bump else .error (c.bump.fault .expectedIdent)

mutual

/-- Reads one value after optional blanks; `depth` is how many more arrays or objects may open,
`fuel` bounds the steps. -/
def readValue : Nat → Nat → Cursor → Except ReadError (Value × Cursor)
  | 0, _, c => .error (c.fault .eofInValue)
  | fuel + 1, depth, c =>
    let c := c.skipBlanks
    match c.peek with
    | none => .error (c.faultAhead .eofInValue)
    | some 'n' => readWord ['u', 'l', 'l'] .null c.bump
    | some 't' => readWord ['r', 'u', 'e'] (.bool true) c.bump
    | some 'f' => readWord ['a', 'l', 's', 'e'] (.bool false) c.bump
    | some '-' => readNumber true fuel c.bump
    | some '"' => (readStringBody fuel [] c.bump).map fun (s, c) => (.string s, c)
    | some '[' =>
      if depth ≤ 1 then .error (c.faultAhead .recursionLimit)
      else readItems fuel (depth - 1) true [] c.bump
    | some '{' =>
      if depth ≤ 1 then .error (c.faultAhead .recursionLimit)
      else readMembers fuel (depth - 1) true [] c.bump
    | some d =>
      if d.isDigit then readNumber false fuel c
      else .error (c.faultAhead .expectedValue)

/-- Reads the items of an array up to its closing bracket. -/
def readItems : Nat → Nat → Bool → List Value → Cursor → Except ReadError (Value × Cursor)
  | 0, _, _, _, c => .error (c.fault .eofInList)
  | fuel + 1, depth, first, acc, c =>
    let c := c.skipBlanks
    match c.peek with
    | some ']' => .ok (.array acc.reverse, c.bump)
    | none => .error (c.faultAhead .eofInList)
    | some ch =>
      let next : Except ReadError Cursor :=
        if first then .ok c
        else if ch == ',' then .ok c.bump.skipBlanks
        else .error (c.faultAhead .expectedListCommaOrEnd)
      match next with
      | .error e => .error e
      | .ok c =>
        match c.peek with
        | some ']' => .error (c.faultAhead .trailingComma)
        | none => .error (c.faultAhead .eofInValue)
        | some _ => do
          let (v, c) ← readValue fuel depth c
          readItems fuel depth false (v :: acc) c

/-- Reads the members of an object up to its closing brace. -/
def readMembers : Nat → Nat → Bool → List (String × Value) → Cursor →
    Except ReadError (Value × Cursor)
  | 0, _, _, _, c => .error (c.fault .eofInObject)
  | fuel + 1, depth, first, acc, c =>
    let c := c.skipBlanks
    match c.peek with
    | some '}' => .ok (.object acc, c.bump)
    | none => .error (c.faultAhead .eofInObject)
    | some ch =>
      let next : Except ReadError Cursor :=
        if first then .ok c
        else if ch == ',' then .ok c.bump.skipBlanks
        else .error (c.faultAhead .expectedObjectCommaOrEnd)
      match next with
      | .error e => .error e
      | .ok c =>
        match c.peek with
        | some '"' => do
          let (k, c) ← readStringBody fuel [] c.bump
          let c := c.skipBlanks
          match c.peek with
          | some ':' =>
            let (v, c) ← readValue fuel depth c.bump
            readMembers fuel depth false (setMember acc k v) c
          | some _ => .error (c.faultAhead .expectedColon)
          | none => .error (c.faultAhead .eofInObject)
        | some '}' => .error (c.faultAhead .trailingComma)
        | some _ => .error (c.faultAhead .keyMustBeString)
        | none => .error (c.faultAhead .eofInValue)

end

/-- Reads a whole JSON text: one value with only blanks around it. -/
def read (text : String) : Except ReadError Value := do
  let chars := text.toList
  let start : Cursor := ⟨chars, 0, text.utf8ByteSize⟩
  let (v, c) ← readValue (2 * chars.length + 2) 128 start
  let c := c.skipBlanks
  match c.peek with
  | none => .ok v
  | some _ => .error (c.faultAhead .trailingCharacters)

end FieldSelection.Json

import FieldSelection.Toml.Strings
/-!
# TOML numbers, dates and times

An integer is decimal, with an optional sign and no leading zero, or hexadecimal, octal or
binary after `0x`, `0o` or `0b`; an underscore may stand only between two digits. It must fit
in 64 bits with a sign, and the fault of one that does not is the system's wording of the
overflow, pointing at the number's start.

A float is a decimal integer part with a fraction, an exponent or both, or `inf` or `nan`
with an optional sign. It is read as the binary64 number nearest to its decimal value, ties
to even; one that rounds to positive infinity is refused.

A date is `YYYY-MM-DD`, a time `HH:MM:SS` with an optional fraction of a second, and a date
may be followed by `T`, `t` or a space, a time and an offset `Z` or `±HH:MM`. Months, days,
hours, minutes and seconds must be in range. Dates and times are kept as written.

When a number or date does not read, the fault is the one of the last kind tried, in the
order date, float, integer.
-/

namespace FieldSelection.Toml

/-- `n / d` rounded to the nearest integer, ties to even. -/
def roundedQuotient (n d : Nat) : Nat :=
  let q := n / d
  let r := n % d
  if 2 * r > d || (2 * r == d && q % 2 == 1) then q + 1 else q

/-- `n / d` rounded down, for `n · 2^shift`. -/
def scaledQuotient (n d : Nat) (shift : Int) (round : Bool) : Nat :=
  let (n, d) := if shift ≥ 0 then (n * Nat.pow 2 shift.toNat, d)
    else (n, d * Nat.pow 2 (-shift).toNat)
  if round then roundedQuotient n d else n / d

/-- The bits of the binary64 number nearest to `n / d`, for positive `n` and `d`, ties to
even; too large a quotient gives infinity. -/
def nearestBits (n d : Nat) : UInt64 :=
  -- the exponent `k` that puts `n / d / 2^k` among the 53-bit integers
  let k0 : Int := (n.log2 : Int) - (d.log2 : Int) - 52
  let k := if scaledQuotient n d (-k0) false < Nat.pow 2 52 then k0 - 1 else k0
  if k < -1074 then (scaledQuotient n d 1074 true).toUInt64
  else
    let q := scaledQuotient n d (-k) true
    let (q, k) := if q == Nat.pow 2 53 then (Nat.pow 2 52, k + 1) else (q, k)
    let biased := k + 1075
    if biased ≥ 2047 then 0x7FF0000000000000
    else ((biased.toNat.toUInt64) <<< 52) ||| (q - Nat.pow 2 52).toUInt64

/-- The bits of the binary64 number nearest to `significand · 10^exponent`, ties to even. -/
def decimalBits (significand : Nat) (exponent : Int) (digits : Nat) : UInt64 :=
  if significand == 0 then 0
  else if exponent ≥ 309 then 0x7FF0000000000000
  else if exponent + digits < -330 then 0
  else if exponent ≥ 0 then nearestBits (significand * Nat.pow 10 exponent.toNat) 1
  else nearestBits significand (Nat.pow 10 (-exponent).toNat)

/-- The sign bit of binary64 numbers. -/
def signBit : UInt64 := 0x8000000000000000

namespace Scan

/-- Whether `c` is a decimal digit. -/
def isDigitByte (c : UInt8) : Bool := 0x30 ≤ c && c ≤ 0x39

/-- Whether `c` is a sign. -/
def isSignByte (c : UInt8) : Bool := c == 0x2B || c == 0x2D

/-- Moves past one digit of kind `f`. -/
def digitOf (f : UInt8 → Bool) : Scan Unit := discard (oneOf f)

/-- Moves past digits of kind `f` with single underscores between them, after a first
digit. -/
def digitTail (f : UInt8 → Bool) (fuel : Nat) : Scan Unit :=
  repeatAttempt (orElse (digitOf f) (do byte 0x5F; expecting "digit" (final (digitOf f)))) fuel

/-- Moves past a decimal integer as written: a sign, then zero or a digit run without a
leading zero. -/
def decimalInteger (fuel : Nat) : Scan Unit := label "integer" do
  discard (attempt (oneOf isSignByte))
  orElse (do digitOf (fun c => 0x31 ≤ c && c ≤ 0x39); digitTail isDigitByte fuel)
    (digitOf isDigitByte)

/-- The bytes from `start` to the position, underscores left out. -/
def digitsSince (start : Nat) : Scan (List UInt8) := do
  return (((← read).extract start (← get)).toList.filter (· != 0x5F))

/-- The overflow fault of an integer starting at `start`. -/
def overflowAt {α : Type} (start : Nat) (negative : Bool) : Scan α :=
  throw {
    offset := start
    final := true
    cause := some (if negative then "number too small to fit in target type"
      else "number too large to fit in target type") }

/-- Reads an integer in base `base` after its two-letter mark, its digits of kind `f`. -/
def radixInteger (mark name : String) (base : Nat) (f : UInt8 → Bool) (fuel : Nat) :
    Scan Int := do
  let start ← get
  final (label name do
    literal mark
    final (do digitOf f; digitTail f fuel))
  let v := digitsValue base ((← digitsSince (start + 2)))
  if v ≥ Nat.pow 2 63 then overflowAt start false
  pure v

/-- Reads an integer. -/
def integer (fuel : Nat) : Scan Int := do
  let start ← get
  match ← byteAt 0, ← byteAt 1 with
  | some 0x30, some 0x78 => radixInteger "0x" "hexadecimal integer" 16 isHexDigit fuel
  | some 0x30, some 0x6F => radixInteger "0o" "octal integer" 8 (fun c => 0x30 ≤ c && c ≤ 0x37) fuel
  | some 0x30, some 0x62 => radixInteger "0b" "binary integer" 2 (fun c => c == 0x30 || c == 0x31) fuel
  | _, _ =>
    decimalInteger fuel
    let ds ← digitsSince start
    let (negative, body) := match ds with
      | 0x2D :: r => (true, r)
      | 0x2B :: r => (false, r)
      | r => (false, r)
    let v := digitsValue 10 body
    if negative then
      if v > Nat.pow 2 63 then overflowAt start true
      pure (-(v : Int))
    else
      if v ≥ Nat.pow 2 63 then overflowAt start false
      pure v

/-- Moves past digits that may start with zero, with single underscores between them. -/
def leadingZeroDigits (fuel : Nat) : Scan Unit := do
  digitOf isDigitByte
  digitTail isDigitByte fuel

/-- Moves past an exponent: `e` or `E`, a sign, digits. -/
def exponentPart (fuel : Nat) : Scan Unit := do
  digitOf (fun c => c == 0x65 || c == 0x45)
  discard (attempt (oneOf isSignByte))
  final (leadingZeroDigits fuel)

/-- Moves past a fraction: a dot and digits. -/
def fractionPart (fuel : Nat) : Scan Unit := do
  byte 0x2E
  expecting "digit" (final (leadingZeroDigits fuel))

/-- The bits of the float written as the bytes `ds`, underscores left out. -/
def floatBits (ds : List UInt8) : UInt64 :=
  let (negative, body) := match ds with
    | 0x2D :: r => (true, r)
    | 0x2B :: r => (false, r)
    | r => (false, r)
  let whole := body.takeWhile isDigitByte
  let rest := body.drop whole.length
  let (frac, rest) := match rest with
    | 0x2E :: r => let f := r.takeWhile isDigitByte; (f, r.drop f.length)
    | r => ([], r)
  let exponent : Int := match rest with
    | _ :: r =>
      match r with
      | 0x2D :: e => -(digitsValue 10 e : Int)
      | 0x2B :: e => digitsValue 10 e
      | e => digitsValue 10 e
    | [] => 0
  let digits := whole ++ frac
  let bits := decimalBits (digitsValue 10 digits) (exponent - frac.length) digits.length
  if negative then bits ||| signBit else bits

/-- Reads `inf` or `nan` with an optional sign. -/
def specialFloat : Scan UInt64 := do
  let sign ← attempt (oneOf isSignByte)
  let negative := sign == some 0x2D
  let bits ← orElse (do literal "inf"; pure (0x7FF0000000000000 : UInt64))
    (do literal "nan"; pure (0x7FF8000000000000 : UInt64))
  pure (if negative then bits ||| signBit else bits)

/-- Reads a float. -/
def float (fuel : Nat) : Scan UInt64 := label "floating-point number" do
  orElse (do
      let start ← get
      decimalInteger fuel
      orElse (exponentPart fuel) (do fractionPart fuel; discard (attempt (exponentPart fuel)))
      let bits := floatBits (← digitsSince start)
      if bits == 0x7FF0000000000000 then throw { offset := start, final := true }
      pure bits)
    specialFloat

/-- Reads exactly `n` digits as a number. -/
def fixedDigits (n : Nat) : Scan Nat := do
  let start ← get
  let k ← takeUpTo n isDigitByte
  if k < n then missAt start
  pure (digitsValue 10 ((← read).extract start (start + n)).toList)

/-- Reads exactly `n` digits as a number from `lo` to `hi`. -/
def rangedDigits (n lo hi : Nat) : Scan Unit := do
  let start ← get
  let v ← fixedDigits n
  if v < lo || hi < v then throw { offset := start, cause := some "value is out of range" }

/-- Reads a date. -/
def fullDate : Scan Unit := do
  discard (fixedDigits 4)
  byte 0x2D
  final (do rangedDigits 2 1 12; byte 0x2D; rangedDigits 2 1 31)

/-- Reads a time of day. -/
def partialTime : Scan Unit := do
  rangedDigits 2 0 23
  byte 0x3A
  final (do
    rangedDigits 2 0 59
    byte 0x3A
    rangedDigits 2 0 60
    discard (attempt (do
      byte 0x2E
      let start ← get
      if (← takeWhile isDigitByte) == 0 then missAt start)))

/-- Reads an offset from universal time. -/
def timeOffset : Scan Unit := label "time offset" do
  orElse (discard (oneOf fun c => c == 0x5A || c == 0x7A)) (do
    discard (oneOf isSignByte)
    final (do rangedDigits 2 0 23; byte 0x3A; rangedDigits 2 0 59))

/-- Reads a date, a time, or a date and time, as written. -/
def dateTime : Scan String := do
  let start ← get
  orElse (label "date-time" do
      fullDate
      discard (attempt (do
        discard (oneOf fun c => c == 0x54 || c == 0x74 || c == 0x20)
        partialTime
        discard (attempt timeOffset))))
    (label "time" partialTime)
  slice start (← get)

end Scan

end FieldSelection.Toml

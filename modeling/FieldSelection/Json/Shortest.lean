/-!
# Shortest decimal text of a binary64 number

A finite binary64 number `x` is the exact rational `m · 2^e`. The reals that round to `x` form
an interval around it, closed when `m` is even (ties go to even). The shortest decimal that
reads back as `x` is found by trying decimal grids `10^k` from coarse to fine: the first grid
with a point in the interval gives the fewest significant digits, and of its points the one
nearest to `x` is taken, a tie going to the even digit string.

The text is laid out as in JSON writers: positional with a `.0` when an integer below `10^16`,
positional when the decimal point falls within the first sixteen digits or at most five zeros
after it, and otherwise one digit, the rest after a point, and an exponent `e` with its sign only
when negative.
-/

namespace FieldSelection.Json

/-- A finite binary64 number as the exact rational `mantissa · 2^exponent`, with its sign. -/
structure Binary64 where
  negative : Bool
  mantissa : Nat
  exponent : Int
  /-- The number just below is nearer than the number just above (a power of two). -/
  narrowBelow : Bool

/-- The sign, significand and binary exponent of a bit pattern; `none` for infinities and NaN. -/
def Binary64.ofBits (bits : UInt64) : Option Binary64 :=
  let b := bits.toNat
  let negative := b / Nat.pow 2 63 == 1
  let biased : Nat := (b / Nat.pow 2 52) % 2048
  let fraction : Nat := b % Nat.pow 2 52
  if biased == 2047 then none
  else if biased == 0 then some ⟨negative, fraction, -1074, false⟩
  else some ⟨negative, fraction + Nat.pow 2 52, (biased : Int) - 1075, fraction == 0 && biased > 1⟩

/-- `2^n` for an integer `n ≥ 0`, and `1` below. -/
def pow2 (n : Int) : Nat := Nat.pow 2 n.toNat

/-- `10^n` for an integer `n ≥ 0`, and `1` below. -/
def pow10 (n : Int) : Nat := Nat.pow 10 n.toNat

/-- The decimal significand that the grid `10^k` offers for `x`, if the grid has a point in the
interval of reals rounding to `x`: the point nearest to `x`, a tie going to the even one. -/
def gridPoint (x : Binary64) (k : Int) : Option Nat :=
  let e := x.exponent - 2
  let scaleUp := pow2 e * pow10 (-k)
  let den := pow2 (-e) * pow10 k
  let mid := 4 * x.mantissa
  let lo := (if x.narrowBelow then mid - 1 else mid - 2) * scaleUp
  let hi := (mid + 2) * scaleUp
  let v := mid * scaleUp
  let closed := x.mantissa % 2 == 0
  let dlo := if lo % den == 0 then (if closed then lo / den else lo / den + 1) else lo / den + 1
  let dhi := if hi % den == 0 then (if closed then hi / den else hi / den - 1) else hi / den
  if dhi == 0 || dhi < dlo then none
  else
    let q := v / den
    let r := v % den
    let near := if 2 * r < den then q else if 2 * r > den then q + 1
      else if q % 2 == 0 then q else q + 1
    some (if near < dlo then dlo else if near > dhi then dhi else near)

/-- The first grid, from `10^k` downwards over `fuel` grids, with a point for `x`. -/
def firstGrid (x : Binary64) : Nat → Int → Option (Nat × Int)
  | 0, _ => none
  | fuel + 1, k =>
    match gridPoint x k with
    | some d => some (d, k)
    | none => firstGrid x fuel (k - 1)

/-- The shortest decimal `d · 10^k` that reads back as the nonzero `x`. -/
def shortestDigits (x : Binary64) : Nat × Int :=
  let bits := (Nat.log2 x.mantissa + 1 : Nat)
  let top : Int := ((bits : Int) + x.exponent) * 30103 / 100000 + 2
  (firstGrid x 40 top).getD (x.mantissa, 0)

/-- The layout of digits `ds` standing for `ds · 10^k`. -/
def layoutDigits (ds : List Char) (k : Int) : String :=
  let len : Int := ds.length
  let kk := len + k
  let zeros (n : Int) : List Char := List.replicate n.toNat '0'
  if 0 ≤ k && kk ≤ 16 then String.ofList (ds ++ zeros k ++ ['.', '0'])
  else if 0 < kk && kk ≤ 16 then
    String.ofList (ds.take kk.toNat ++ ['.'] ++ ds.drop kk.toNat)
  else if -5 < kk && kk ≤ 0 then String.ofList (['0', '.'] ++ zeros (-kk) ++ ds)
  else
    let exp := toString (kk - 1)
    match ds with
    | [d] => String.ofList [d] ++ "e" ++ exp
    | d :: rest => String.ofList (d :: '.' :: rest) ++ "e" ++ exp
    | [] => "0.0"

/-- The JSON text of a binary64 bit pattern; infinities and NaN are written as null. -/
def floatText (bits : UInt64) : String :=
  match Binary64.ofBits bits with
  | none => "null"
  | some x =>
    let sign := if x.negative then "-" else ""
    if x.mantissa == 0 then sign ++ "0.0"
    else
      let (d, k) := shortestDigits x
      sign ++ layoutDigits (Nat.toDigits 10 d) k

/-- The positional text of a binary64 bit pattern, never with an exponent: the shortest digits
that read back, with zeros between them and the decimal point; `inf` and `NaN` for the others. -/
def positionalText (bits : UInt64) : String :=
  match Binary64.ofBits bits with
  | none =>
    if bits.toNat % Nat.pow 2 52 == 0 then
      (if bits.toNat / Nat.pow 2 63 == 1 then "-inf" else "inf")
    else "NaN"
  | some x =>
    let sign := if x.negative then "-" else ""
    if x.mantissa == 0 then sign ++ "0"
    else
      let (d, k) := shortestDigits x
      let ds := Nat.toDigits 10 d
      let len : Int := ds.length
      if 0 ≤ k then sign ++ String.ofList (ds ++ List.replicate k.toNat '0')
      else if 0 < len + k then
        sign ++ String.ofList (ds.take (len + k).toNat ++ ['.'] ++ ds.drop (len + k).toNat)
      else sign ++ String.ofList (['0', '.'] ++ List.replicate (-(len + k)).toNat '0' ++ ds)

end FieldSelection.Json

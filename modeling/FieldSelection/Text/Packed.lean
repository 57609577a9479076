/-!
# Packed range tables

Large tables of code point ranges are kept as text, so that they cost little to read in. A
table is a run of numbers: for each range in ascending order, the gap from the end of the
previous range (from zero for the first) to its start, then its length less one. A number is
written in base 32, most significant digit first, each digit but the last from the
`moreDigits` alphabet and the last from `lastDigits`, so that the digits of one number need no
separator.
-/

namespace FieldSelection.Text

/-- The alphabet of the last digit of a packed number. -/
def lastDigits : List Char := "0123456789ABCDEFGHIJKLMNOPQRSTUV".toList

/-- The alphabet of the other digits of a packed number. -/
def moreDigits : List Char := "!#$%&()*+,.:;<=>?@[]^_|~WXYZwxyz".toList

/-- The numbers of a packed text, in order; characters of neither alphabet are passed over. -/
def unpackNumbers (s : String) : List Nat :=
  let (done, _) := s.toList.foldl (fun (acc : List Nat × Nat) c =>
    let (done, high) := acc
    match moreDigits.idxOf? c with
    | some d => (done, high * 32 + d)
    | none =>
      match lastDigits.idxOf? c with
      | some d => ((high * 32 + d) :: done, 0)
      | none => (done, high)) ([], 0)
  done.reverse

/-- The ranges of gap and length pairs, each gap counted from `from`. -/
def rangesOfPairs : List Nat → Nat → List (Nat × Nat)
  | gap :: length :: rest, from_ =>
    let start := from_ + gap
    (start, start + length) :: rangesOfPairs rest (start + length + 1)
  | _, _ => []

/-- The ranges of a packed table. -/
def unpackRanges (s : String) : List (Nat × Nat) :=
  rangesOfPairs (unpackNumbers s) 0

end FieldSelection.Text

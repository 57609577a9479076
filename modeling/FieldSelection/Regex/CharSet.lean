import FieldSelection.Text.Alnum
import FieldSelection.Text.Word
import FieldSelection.Text.CaseFold
/-!
# Character sets of regular expressions

A `CharSet` is a list of disjoint, ascending, non-adjacent inclusive code point ranges. The set
operations normalise their result, so every set built here is in that form. Sets are closed
under simple case folding by `CharSet.foldCase`, which adds every character that folds like a
member.
-/

namespace FieldSelection.Regex

/-- The largest code point. -/
def maxCode : Nat := 0x10FFFF

/-- A set of characters as ascending, disjoint, non-adjacent inclusive ranges. -/
structure CharSet where
  ranges : List (Nat × Nat)
  deriving DecidableEq, Repr

namespace CharSet

/-- The empty set. -/
def empty : CharSet := ⟨[]⟩

/-- All characters. -/
def full : CharSet := ⟨[(0, maxCode)]⟩

/-- The single character `c`. -/
def single (c : Char) : CharSet := ⟨[(c.toNat, c.toNat)]⟩

/-- Whether the set holds the code point `n`. -/
def containsCode (s : CharSet) (n : Nat) : Bool :=
  s.ranges.any fun r => r.1 ≤ n && n ≤ r.2

/-- Whether the set holds `c`. -/
def contains (s : CharSet) (c : Char) : Bool := s.containsCode c.toNat

/-- Inserts one range into sorted ranges with no overlap or adjacency between them. -/
def insertRange : List (Nat × Nat) → Nat × Nat → List (Nat × Nat)
  | [], r => [r]
  | (a, b) :: rest, (lo, hi) =>
    if hi + 1 < a then (lo, hi) :: (a, b) :: rest
    else if b + 1 < lo then (a, b) :: insertRange rest (lo, hi)
    else insertRange rest (min a lo, max b hi)

/-- The set of the given ranges, in normal form; ranges with a start past their end are
dropped. -/
def ofRanges (rs : List (Nat × Nat)) : CharSet :=
  ⟨rs.foldl (fun acc r => if r.1 ≤ r.2 then insertRange acc r else acc) []⟩

/-- Union of two sets. -/
def union (s t : CharSet) : CharSet := ofRanges (s.ranges ++ t.ranges)

/-- The gaps between sorted ranges from `start` to `maxCode`. -/
def gaps : List (Nat × Nat) → Nat → List (Nat × Nat)
  | [], start => if start ≤ maxCode then [(start, maxCode)] else []
  | (a, b) :: rest, start =>
    if start < a then (start, a - 1) :: gaps rest (b + 1) else gaps rest (b + 1)

/-- Complement of a set among all code points. -/
def complement (s : CharSet) : CharSet := ⟨gaps s.ranges 0⟩

/-- Intersection of two sets. -/
def inter (s t : CharSet) : CharSet := (union s.complement t.complement).complement

/-- The members of `s` that are not in `t`. -/
def diff (s t : CharSet) : CharSet := inter s t.complement

/-- The members of exactly one of `s` and `t`. -/
def symmDiff (s t : CharSet) : CharSet := union (diff s t) (diff t s)

/-- The set together with every character that folds like one of its members. -/
def foldCase (s : CharSet) : CharSet :=
  let pairs := Text.foldPairs.toList
  let touched := pairs.filter fun p => s.containsCode p.1 || s.containsCode p.2
  let targets := touched.map (·.2)
  let mates := pairs.filter fun p => targets.contains p.2
  union s (ofRanges ((targets ++ mates.map (·.1)).map fun n => (n, n)))

/-- The ASCII characters from `lo` to `hi`. -/
def span (lo hi : Char) : CharSet := ofRanges [(lo.toNat, hi.toNat)]

/-- The decimal digits, in the Unicode sense or ASCII only. -/
def digits (unicode : Bool) : CharSet :=
  if unicode then ⟨Text.digitTable.ranges.toList⟩ else span '0' '9'

/-- The word characters, in the Unicode sense or ASCII only. -/
def word (unicode : Bool) : CharSet :=
  if unicode then ⟨Text.wordTable.ranges.toList⟩
  else ofRanges [('0'.toNat, '9'.toNat), ('A'.toNat, 'Z'.toNat), ('_'.toNat, '_'.toNat),
    ('a'.toNat, 'z'.toNat)]

/-- The blanks, White_Space in the Unicode sense, or the ASCII blanks. -/
def blanks (unicode : Bool) : CharSet :=
  if unicode then
    ofRanges [(9, 13), (0x20, 0x20), (0x85, 0x85), (0xA0, 0xA0), (0x1680, 0x1680),
      (0x2000, 0x200A), (0x2028, 0x2029), (0x202F, 0x202F), (0x205F, 0x205F), (0x3000, 0x3000)]
  else ofRanges [(9, 13), (0x20, 0x20)]

/-- The ASCII classes written [:name:] inside brackets. -/
def posix? (name : String) : Option CharSet :=
  let r := fun (a b : Nat) => (a, b)
  match name with
  | "alnum" => some (ofRanges [r 0x30 0x39, r 0x41 0x5A, r 0x61 0x7A])
  | "alpha" => some (ofRanges [r 0x41 0x5A, r 0x61 0x7A])
  | "ascii" => some (ofRanges [r 0 0x7F])
  | "blank" => some (ofRanges [r 9 9, r 0x20 0x20])
  | "cntrl" => some (ofRanges [r 0 0x1F, r 0x7F 0x7F])
  | "digit" => some (ofRanges [r 0x30 0x39])
  | "graph" => some (ofRanges [r 0x21 0x7E])
  | "lower" => some (ofRanges [r 0x61 0x7A])
  | "print" => some (ofRanges [r 0x20 0x7E])
  | "punct" => some (ofRanges [r 0x21 0x2F, r 0x3A 0x40, r 0x5B 0x60, r 0x7B 0x7E])
  | "space" => some (ofRanges [r 9 13, r 0x20 0x20])
  | "upper" => some (ofRanges [r 0x41 0x5A])
  | "word" => some (ofRanges [r 0x30 0x39, r 0x41 0x5A, r 0x5F 0x5F, r 0x61 0x7A])
  | "xdigit" => some (ofRanges [r 0x30 0x39, r 0x41 0x46, r 0x61 0x66])
  | _ => none

end CharSet

end FieldSelection.Regex

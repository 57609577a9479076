/-!
# Code point range tables

A `RangeTable` lists disjoint inclusive ranges of code points in ascending order. Membership is
a binary search over the ranges. The Unicode property tables of this library (`Text.Alnum`,
`Text.Word`) are values of this type.
-/

namespace FieldSelection.Text

/-- Disjoint inclusive ranges of code points, in ascending order. -/
structure RangeTable where
  ranges : Array (Nat × Nat)

namespace RangeTable

/-- Whether some range among the indices `lo ≤ i < hi` holds `c`, by bisection; correct when
the ranges are ascending and disjoint. -/
def searchIn (ranges : Array (Nat × Nat)) (c lo hi : Nat) : Bool :=
  if lo < hi then
    let mid := (lo + hi) / 2
    let r := ranges.getD mid (0, 0)
    if c < r.1 then searchIn ranges c lo mid
    else if r.2 < c then searchIn ranges c (mid + 1) hi
    else true
  else false
termination_by hi - lo

/-- Whether the code point of `c` lies in one of the table's ranges. -/
def contains (t : RangeTable) (c : Char) : Bool :=
  searchIn t.ranges c.toNat 0 t.ranges.size

end RangeTable

end FieldSelection.Text

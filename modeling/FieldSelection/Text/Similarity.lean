/-!
# Jaro similarity

The Jaro similarity of two words `a` and `b` counts the characters of `a` that find an equal,
not yet taken character of `b` within a window around the same place, and the transpositions
among those matches:

  jaro a b = (m / |a| + m / |b| + (m - t) / m) / 3

where `m` is the number of matches and `t` half the number of matched pairs out of order. Two
empty words are equal (similarity one); an empty word against another has similarity zero.

The similarity is kept as an exact fraction, so ties compare as ties and the threshold test
`jaro a b > 7 / 10` has no rounding. `suggestions` ranks the words above the threshold, the
most similar first and equally similar ones in the order given; the close-word tips of the
command line use it.
-/

namespace FieldSelection.Text

/-- A similarity as the fraction `num / den`, with `den` positive. -/
structure Similarity where
  num : Nat
  den : Nat
  deriving DecidableEq, Repr

/-- `x` is less similar than `y`. -/
def Similarity.lt (x y : Similarity) : Bool := x.num * y.den < y.num * x.den

/-- `x` is above seven tenths. -/
def Similarity.aboveThreshold (x : Similarity) : Bool := 10 * x.num > 7 * x.den

/-- The first free position of `b` in `[lo, hi)` that holds `c`. -/
def freeMatch (b : Array Char) (taken : Array Bool) (c : Char) (lo hi : Nat) : Option Nat :=
  (List.range' lo (hi - lo)).find? fun j => b[j]? == some c && taken[j]? == some false

/-- The matches of `a` in `b` within the window `range`: which positions of `a` matched, and
which of `b` were taken. -/
def matchFlags (a b : Array Char) (range : Nat) : List Bool × Array Bool :=
  let step := fun (acc : List Bool × Array Bool) (i : Nat) =>
    let (flagsA, taken) := acc
    let lo := i - range
    let hi := min b.size (i + range + 1)
    match a[i]? with
    | none => (flagsA ++ [false], taken)
    | some c =>
      match freeMatch b taken c lo hi with
      | some j => (flagsA ++ [true], taken.set! j true)
      | none => (flagsA ++ [false], taken)
  (List.range a.size).foldl step ([], Array.replicate b.size false)

/-- The Jaro similarity of `a` and `b`. -/
def jaro (a b : String) : Similarity :=
  let ca := a.toList.toArray
  let cb := b.toList.toArray
  if ca.size == 0 && cb.size == 0 then ⟨1, 1⟩
  else if ca.size == 0 || cb.size == 0 then ⟨0, 1⟩
  else
    let range := max ca.size cb.size / 2 - 1
    let (flagsA, taken) := matchFlags ca cb range
    let fromA := (ca.toList.zip flagsA).filterMap fun (c, f) => if f then some c else none
    let fromB := (cb.toList.zip taken.toList).filterMap fun (c, f) => if f then some c else none
    let m := fromA.length
    if m == 0 then ⟨0, 1⟩
    else
      let t := ((fromA.zip fromB).filter fun (x, y) => x != y).length / 2
      let la := ca.size
      let lb := cb.size
      ⟨m * lb * m + m * la * m + (m - t) * la * lb, 3 * la * lb * m⟩

/-- Inserts `w` with similarity `s` before the first entry that is less similar. -/
def insertRanked (s : Similarity) (w : String) :
    List (Similarity × String) → List (Similarity × String)
  | [] => [(s, w)]
  | (s', w') :: rest =>
    if s'.lt s then (s, w) :: (s', w') :: rest else (s', w') :: insertRanked s w rest

/-- The words of `candidates` more than seven tenths similar to `word`, the most similar
first. -/
def suggestions (word : String) (candidates : List String) : List String :=
  (candidates.foldl (fun acc c =>
    let s := jaro word c
    if s.aboveThreshold then insertRanked s c acc else acc) []).map Prod.snd

end FieldSelection.Text

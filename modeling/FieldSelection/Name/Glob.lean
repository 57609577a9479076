/-!
# Glob patterns

A glob pattern matches whole names: `*` matches any run of characters, the empty run included,
`?` matches exactly one character, and every other character matches only itself. There is no
escape and no special treatment of any character of the name, the line feed included.

`Glob.Matches` states this as a relation, the language a glob field's regular expression is
to match; `Glob.accepts` decides it by running the set of pattern positions reached so far
over the name, so it takes time linear in the product of the two lengths.
-/

namespace FieldSelection.Glob

/-- A glob pattern matching a whole name, by the three rules of globbing. -/
inductive Matches : List Char → List Char → Prop where
  /-- the empty pattern matches the empty name -/
  | nil : Matches [] []
  /-- a star matches the empty run -/
  | starEmpty {p s} : Matches p s → Matches ('*' :: p) s
  /-- a star takes one more character -/
  | starMore {p c s} : Matches ('*' :: p) s → Matches ('*' :: p) (c :: s)
  /-- a question mark takes any one character -/
  | any {p c s} : Matches p s → Matches ('?' :: p) (c :: s)
  /-- any other character takes itself -/
  | lit {p c s} : c ≠ '*' → c ≠ '?' → Matches p s → Matches (c :: p) (c :: s)

/-- The positions of the pattern reachable from `ps` by letting stars match the empty run. -/
def skipStars (pat : Array Char) : Nat → List Nat → List Nat
  | 0, ps => ps
  | fuel + 1, ps =>
    let more := ps.filterMap fun i => if pat[i]? == some '*' && !ps.contains (i + 1) then
      some (i + 1) else none
    if more.isEmpty then ps else skipStars pat fuel (ps ++ more).eraseDups

/-- The positions after reading `c` from each of `ps`. -/
def stepOn (pat : Array Char) (ps : List Nat) (c : Char) : List Nat :=
  (ps.flatMap fun i => match pat[i]? with
    | some '*' => [i]
    | some '?' => [i + 1]
    | some d => if d == c then [i + 1] else []
    | none => []).eraseDups

/-- Whether the glob pattern matches all of the name. -/
def accepts (pattern name : List Char) : Bool :=
  let pat := pattern.toArray
  let fuel := pattern.length + 1
  let final := name.foldl (fun ps c => skipStars pat fuel (stepOn pat ps c)) (skipStars pat fuel [0])
  final.contains pattern.length

/-- The number of characters of the pattern other than `*` and `?`. -/
def literalCount (pattern : List Char) : Nat :=
  (pattern.filter fun c => c != '*' && c != '?').length

end FieldSelection.Glob

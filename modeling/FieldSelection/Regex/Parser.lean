import FieldSelection.Regex.Syntax
import FieldSelection.Regex.Property
import FieldSelection.Text.Blank
/-!
# Reading regular expressions

`Pattern.parse` reads the text of a regular expression into a `Pattern`, applying its flags on
the way, or names the first fault met from the left.

The syntax: literals; the dot; the anchors `^` and `$`; escapes for metacharacters, control
characters, hex code points (`\x7F`, `\u00E9`, `\U0001F600`, and with braces), the classes `\d`,
`\s`, `\w` and their complements, Unicode property classes (`Regex.Property`), and the
assertions `\A`, `\z`, `\b`, `\B`, `\<`, `\>`;
bracketed classes with ranges, negation, ASCII classes such as `[:alpha:]`, nested brackets and
the operators `&&`, `--` and `~~`; groups, named groups and flag groups with the flags
`i m s U u R x`; alternation; and the repetitions `*`, `+`, `?` and `{n}`, `{n,}`, `{n,m}`,
each optionally lazy. A repetition needs something before it to repeat; look-around and back
references are refused.

Each fault points at a range of characters: the escape or item at fault, the opening of the
group or bracketed set left open, the whole counted repetition whose bounds are reversed, or an
empty range where something is missing. A Unicode property class that names no set, or that
stands where Unicode is off, is refused only once the whole pattern has read without a fault,
since properties are looked up after reading.
-/

namespace FieldSelection.Regex

/-- The flags in force at a point of a pattern. -/
structure Flags where
  caseless : Bool := false
  multiLine : Bool := false
  dotAll : Bool := false
  swapGreed : Bool := false
  unicode : Bool := true
  crlf : Bool := false
  verbose : Bool := false
  deriving DecidableEq, Repr

/-- The state of reading a pattern. -/
structure Reading where
  /-- what is left to read -/
  rest : List Char
  /-- the capture names seen so far, with where they were written -/
  names : List (String × CharSpan) := []
  /-- the position of the next character -/
  pos : Nat := 0
  /-- the openings of the bracketed sets being read, innermost first -/
  classes : List CharSpan := []
  /-- the first fault of a Unicode property class, reported once the reading is done -/
  deferred : Option (PatternFault × CharSpan) := none

/-- A step of reading a pattern. -/
abbrev ReadM := StateT Reading (Except PatternError)

/-- One element of a sequence: a pattern, or a flag group that only changes the flags. -/
inductive SeqItem where
  | part (p : Pattern)
  | flagGroup

/-- A single item inside or outside brackets before it is placed. -/
inductive Primitive where
  | lit (c : Char)
  | cls (s : CharSet)
  | look (l : Look)

namespace Reader

/-- Stops with a fault pointing at the characters from `start` to `stop`. -/
def failAt {α : Type} (f : PatternFault) (start stop : Nat) : ReadM α :=
  throw ⟨f, ⟨start, stop⟩, none⟩

/-- The position of the next character. -/
def here : ReadM Nat := do return (← get).pos

/-- Stops with a fault pointing at the empty range before the next character. -/
def failHere {α : Type} (f : PatternFault) : ReadM α := do
  let p ← here
  failAt f p p

/-- Stops with a fault pointing at the next character. -/
def failChar {α : Type} (f : PatternFault) : ReadM α := do
  let p ← here
  failAt f p (p + 1)

/-- Stops with the fault of an unclosed bracketed set, at the innermost opening. -/
def unclosedClass {α : Type} : ReadM α := do
  match (← get).classes with
  | s :: _ => throw ⟨.classUnclosed, s, none⟩
  | [] => failHere .classUnclosed

/-- Continues with `cs`, a suffix of what is left, counting the characters passed. -/
def setRest (cs : List Char) : ReadM Unit :=
  modify fun r => { r with rest := cs, pos := r.pos + (r.rest.length - cs.length) }

/-- The next character, if any. -/
def peek : ReadM (Option Char) := do return (← get).rest.head?

/-- The character after the next one, if any. -/
def peek2 : ReadM (Option Char) := do return ((← get).rest.drop 1).head?

/-- Whether the rest starts with `s`. -/
def startsWith (s : List Char) : ReadM Bool := do return s.isPrefixOf (← get).rest

/-- Moves past one character; `false` when the rest is then empty. -/
def bump : ReadM Bool := do
  setRest ((← get).rest.drop 1)
  return !(← get).rest.isEmpty

/-- Moves past `n` characters. -/
def skip (n : Nat) : ReadM Unit := do setRest ((← get).rest.drop n)

/-- Drops blanks and comments, which verbose mode ignores. -/
def dropSpace (cs : List Char) : Nat → List Char
  | 0 => cs
  | fuel + 1 =>
    match cs with
    | c :: rest =>
      if Text.isBlank c then dropSpace rest fuel
      else if c == '#' then dropSpace ((rest.dropWhile (· != '\n')).drop 1) fuel
      else cs
    | [] => []

/-- Skips blanks and comments when verbose mode is on. -/
def space (flags : Flags) : ReadM Unit := do
  if flags.verbose then
    let r ← get
    setRest (dropSpace r.rest r.rest.length)

/-- Moves past one character and then the ignored space; `false` when the rest is empty. -/
def bumpSpace (flags : Flags) : ReadM Bool := do
  let _ ← bump
  space flags
  return !(← get).rest.isEmpty

/-- The next character once the ignored space after the current one is skipped. -/
def peekSpace (flags : Flags) : ReadM (Option Char) := do
  let r ← get
  let after := r.rest.drop 1
  return (if flags.verbose then dropSpace after after.length else after).head?

/-- Whether `c` is a hexadecimal digit. -/
def isHex (c : Char) : Bool :=
  c.isDigit || ('a' ≤ c && c ≤ 'f') || ('A' ≤ c && c ≤ 'F')

/-- The value of hexadecimal digits. -/
def hexNat (ds : List Char) : Nat :=
  ds.foldl (fun n d =>
    n * 16 + (if d.isDigit then d.toNat - '0'.toNat
      else if 'a' ≤ d && d ≤ 'f' then d.toNat - 'a'.toNat + 10
      else d.toNat - 'A'.toNat + 10)) 0

/-- The character of a code point, when it is a Unicode scalar value. -/
def scalar? (n : Nat) : Option Char :=
  if n < 0xD800 || (0xDFFF < n && n ≤ 0x10FFFF) then some (Char.ofNat n) else none

/-- Reads hex digits in braces, the opening brace (at `brace`) next. -/
def hexBraced (flags : Flags) (brace : Nat) : Nat → List Char → ReadM Char
  | 0, _ => do failAt .escapeUnexpectedEnd brace (← here)
  | fuel + 1, acc => do
    if !(← bumpSpace flags) then failAt .escapeUnexpectedEnd brace (← here)
    match ← peek with
    | some '\x7d' =>
      let close ← here
      let _ ← bumpSpace flags
      if acc.isEmpty then failAt .escapeHexEmpty brace (← here)
      else
        match scalar? (hexNat acc.reverse) with
        | some c => pure c
        | none => failAt .escapeHexInvalid (brace + 1) close
    | some c =>
      if isHex c then hexBraced flags brace fuel (c :: acc) else failChar .escapeHexInvalidDigit
    | none => failAt .escapeUnexpectedEnd brace (← here)

/-- Reads exactly `n` hex digits, the first one next. -/
def hexDigits (flags : Flags) (n : Nat) : ReadM Char := do
  let start ← here
  let rec go : Nat → Bool → List Char → ReadM (List Char)
    | 0, _, acc => pure acc
    | k + 1, first, acc => do
      if !first then
        if !(← bumpSpace flags) then failHere .escapeUnexpectedEnd
      match ← peek with
      | some c => if isHex c then go k false (c :: acc) else failChar .escapeHexInvalidDigit
      | none => failHere .escapeUnexpectedEnd
  let ds ← go n true []
  let _ ← bumpSpace flags
  match scalar? (hexNat ds.reverse) with
  | some c => pure c
  | none => failAt .escapeHexInvalid start (← here)

/-- Reads a Unicode property class, the letter `p` or `P` next; `start` is the position of
its backslash. A class that names no set, or that stands where Unicode is off, is noted to be
refused once the reading is done, and reads as the empty set meanwhile. -/
def propertyClass (flags : Flags) (start : Nat) : ReadM CharSet := do
  let negated := (← peek) == some 'P'
  if !(← bumpSpace flags) then failHere .escapeUnexpectedEnd
  let (query, notEqual) ← if (← peek) == some '\x7b' then do
      let rec inside : Nat → List Char → ReadM String
        | 0, _ => failHere .escapeUnexpectedEnd
        | k + 1, acc => do
          if !(← bumpSpace flags) then failHere .escapeUnexpectedEnd
          match ← peek with
          | some '\x7d' =>
            let _ ← bump
            return String.ofList acc.reverse
          | some c => inside k (c :: acc)
          | none => failHere .escapeUnexpectedEnd
      let text ← inside ((← get).rest.length + 1) []
      pure (PropertyQuery.ofText text)
    else do
      let some c ← peek | failHere .escapeUnexpectedEnd
      if c == '\\' then failChar .unicodeClassInvalid
      let _ ← bumpSpace flags
      pure (PropertyQuery.oneLetter c, false)
  let span : CharSpan := ⟨start, ← here⟩
  let defer := fun (f : PatternFault) => do
    modify fun r => { r with deferred := r.deferred <|> some (f, span) }
    return CharSet.empty
  if !flags.unicode then return ← defer .unicodeNotAllowed
  match query.set with
  | .ok s =>
    let s := if flags.caseless then s.foldCase else s
    return if negated != notEqual then s.complement else s
  | .error .propertyNotFound => defer .propertyNotFound
  | .error .valueNotFound => defer .propertyValueNotFound

/-- Whether `c` is a metacharacter, which an escape makes literal. -/
def isMeta (c : Char) : Bool :=
  "\\.+*?()|[]^$#&-~".toList.contains c || c == '\x7b' || c == '\x7d'

/-- Whether an escape of `c` stands for `c` itself. -/
def isEscapable (c : Char) : Bool :=
  isMeta c || (c.toNat < 128 && !c.isAlphanum && c != '<' && c != '>')

/-- Reads an escape, the backslash next. -/
def escape (flags : Flags) : ReadM Primitive := do
  let start ← here
  if !(← bump) then failAt .escapeUnexpectedEnd start (← here)
  let some c ← peek | failAt .escapeUnexpectedEnd start (← here)
  if c.isDigit then failAt .backreferenceUnsupported start ((← here) + 1)
  if c == 'x' || c == 'u' || c == 'U' then
    if !(← bumpSpace flags) then failHere .escapeUnexpectedEnd
    if (← peek) == some '\x7b' then
      return .lit (← hexBraced flags (← here) ((← get).rest.length + 1) [])
    else
      return .lit (← hexDigits flags (if c == 'x' then 2 else if c == 'u' then 4 else 8))
  if c == 'p' || c == 'P' then return .cls (← propertyClass flags start)
  let _ ← bump
  let stop ← here
  let u := flags.unicode
  match c with
  | 'd' => return .cls (CharSet.digits u)
  | 'D' => return .cls (CharSet.digits u).complement
  | 's' => return .cls (CharSet.blanks u)
  | 'S' => return .cls (CharSet.blanks u).complement
  | 'w' => return .cls (CharSet.word u)
  | 'W' => return .cls (CharSet.word u).complement
  | _ =>
    if isEscapable c then return .lit c
    match c with
    | 'a' => return .lit '\x07'
    | 'f' => return .lit '\x0c'
    | 't' => return .lit '\t'
    | 'n' => return .lit '\n'
    | 'r' => return .lit '\r'
    | 'v' => return .lit '\x0b'
    | 'A' => return .look .textStart
    | 'z' => return .look .textEnd
    | 'b' => return .look (.wordBoundary u)
    | 'B' => return .look (.notWordBoundary u)
    | '<' => return .look (.wordStart u)
    | '>' => return .look (.wordEnd u)
    | _ => failAt .escapeUnrecognized start stop

/-- Closes a set under case folding when the flags ask for it. -/
def foldIf (flags : Flags) (s : CharSet) : CharSet :=
  if flags.caseless then
    if flags.unicode then s.foldCase
    else
      let upper := CharSet.inter s (CharSet.span 'A' 'Z')
      let lower := CharSet.inter s (CharSet.span 'a' 'z')
      CharSet.union s (CharSet.union
        ⟨upper.ranges.map fun r => (r.1 + 32, r.2 + 32)⟩
        ⟨lower.ranges.map fun r => (r.1 - 32, r.2 - 32)⟩)
  else s

/-- The binary operators between bracketed sets. -/
inductive SetOp where
  | inter
  | diff
  | symm

/-- Applies a set operator. -/
def SetOp.apply : SetOp → CharSet → CharSet → CharSet
  | .inter, a, b => CharSet.inter a b
  | .diff, a, b => CharSet.diff a b
  | .symm, a, b => CharSet.symmDiff a b

/-- Reads an ASCII class such as [:alpha:] or [:^digit:], the opening bracket next; leaves the
reading unchanged and answers `none` when the text is no such class. -/
def asciiClass? : ReadM (Option CharSet) := do
  let r ← get
  match r.rest with
  | '[' :: ':' :: rest =>
    let (negated, body) := match rest with
      | '^' :: more => (true, more)
      | more => (false, more)
    let name := body.takeWhile (· != ':')
    let after := body.drop name.length
    match after with
    | ':' :: ']' :: more =>
      match CharSet.posix? (String.ofList name) with
      | some s =>
        setRest more
        return some (if negated then s.complement else s)
      | none => return none
    | _ => return none
  | _ => return none

/-- Reads one item of a bracketed set, the item next, with the characters it was read from. -/
def classItem (flags : Flags) : ReadM (Primitive × CharSpan) := do
  let start ← here
  let item ← match ← peek with
    | some '\\' => escape flags
    | some c => do let _ ← bump; pure (.lit c)
    | none => unclosedClass
  return (item, ⟨start, ← here⟩)

/-- The set of an item that is not a range end. -/
def primitiveSet : Primitive × CharSpan → ReadM CharSet
  | (.lit c, _) => pure (CharSet.single c)
  | (.cls s, _) => pure s
  | (.look _, sp) => failAt .classEscapeInvalid sp.start sp.stop

/-- The character of a range end. -/
def primitiveChar : Primitive × CharSpan → ReadM Char
  | (.lit c, _) => pure c
  | (_, sp) => failAt .classRangeLiteral sp.start sp.stop

/-- Reads an item or a range of a bracketed set. -/
def classRange (flags : Flags) : ReadM CharSet := do
  let first ← classItem flags
  space flags
  let some c ← peek | unclosedClass
  let after ← peekSpace flags
  if c != '-' || after == some ']' || after == some '-' then primitiveSet first
  else
    if !(← bumpSpace flags) then unclosedClass
    let second ← classItem flags
    let lo ← primitiveChar first
    let hi ← primitiveChar second
    if hi < lo then failAt .classRangeInvalid first.2.start second.2.stop
    return CharSet.ofRanges [(lo.toNat, hi.toNat)]

/-- Combines the pending operator with the set built since it. -/
def closeOp (flags : Flags) (pending : Option (SetOp × CharSet)) (current : CharSet) : CharSet :=
  match pending with
  | none => current
  | some (op, lhs) => op.apply (foldIf flags lhs) (foldIf flags current)

/-- Reads the dashes at the start of a bracketed set (opened at `start`), which stand for
themselves. -/
def leadingDashes (flags : Flags) (start : Nat) : Nat → CharSet → ReadM CharSet
  | 0, acc => pure acc
  | fuel + 1, acc => do
    if (← peek) == some '-' then
      if !(← bumpSpace flags) then failAt .classUnclosed start start
      leadingDashes flags start fuel (CharSet.single '-')
    else pure acc

mutual

/-- Reads a bracketed set, the opening bracket next. -/
def bracket (flags : Flags) : Nat → ReadM CharSet
  | 0 => failHere .nestLimitExceeded
  | fuel + 1 => do
    let open_ ← here
    if !(← bumpSpace flags) then failAt .classUnclosed open_ (← here)
    let negated ← do
      if (← peek) == some '^' then
        if !(← bumpSpace flags) then failAt .classUnclosed open_ (← here)
        pure true
      else pure false
    let first ← leadingDashes flags open_ ((← get).rest.length + 1) CharSet.empty
    let first ← do
      if first.ranges.isEmpty && (← peek) == some ']' then
        if !(← bumpSpace flags) then failAt .classUnclosed open_ (← here)
        pure (CharSet.single ']')
      else pure first
    let opening : CharSpan := ⟨open_, ← here⟩
    modify fun r => { r with classes := opening :: r.classes }
    let body ← bracketBody flags fuel none first
    modify fun r => { r with classes := r.classes.drop 1 }
    let body := foldIf flags body
    return (if negated then body.complement else body)

/-- Reads the rest of a bracketed set up to its closing bracket. -/
def bracketBody (flags : Flags) : Nat → Option (SetOp × CharSet) → CharSet → ReadM CharSet
  | 0, _, _ => failHere .nestLimitExceeded
  | fuel + 1, pending, current => do
    space flags
    let some c ← peek | unclosedClass
    let next ← peek2
    if c == '[' then
      match ← asciiClass? with
      | some s => bracketBody flags fuel pending (CharSet.union current s)
      | none =>
        let inner ← bracket flags fuel
        bracketBody flags fuel pending (CharSet.union current inner)
    else if c == ']' then
      let _ ← bump
      return closeOp flags pending current
    else if c == '&' && next == some '&' then
      skip 2
      bracketBody flags fuel (some (.inter, closeOp flags pending current)) CharSet.empty
    else if c == '-' && next == some '-' then
      skip 2
      bracketBody flags fuel (some (.diff, closeOp flags pending current)) CharSet.empty
    else if c == '~' && next == some '~' then
      skip 2
      bracketBody flags fuel (some (.symm, closeOp flags pending current)) CharSet.empty
    else
      let s ← classRange flags
      bracketBody flags fuel pending (CharSet.union current s)

end

/-- Moves past the operator of a repetition and the question mark that makes it lazy. -/
def skipLazy : ReadM Unit := do
  if (← bump) then
    if (← peek) == some '?' then
      let _ ← bump

/-- Reads the digits of a repetition count, with blanks around them. -/
def decimal : ReadM Nat := do
  setRest ((← get).rest.dropWhile Text.isBlank)
  let start ← here
  let r ← get
  let ds := r.rest.takeWhile Char.isDigit
  setRest (r.rest.drop ds.length)
  let stop ← here
  setRest ((← get).rest.dropWhile Text.isBlank)
  if ds.isEmpty then failAt .repetitionCountDecimalEmpty start stop
  let n := ds.foldl (fun n d => n * 10 + (d.toNat - '0'.toNat)) 0
  if n ≥ Nat.pow 2 32 then failAt .decimalInvalid start stop
  return n

/-- Reads the bounds of a counted repetition, the opening brace next. -/
def counted (flags : Flags) : ReadM (Nat × Option Nat) := do
  let start ← here
  let unclosed : ReadM Unit := do failAt .repetitionCountUnclosed start (← here)
  if !(← bumpSpace flags) then unclosed
  let lo ← decimal
  let some c ← peek | do failAt .repetitionCountUnclosed start (← here)
  let bounds ← do
    if c == ',' then
      if !(← bumpSpace flags) then unclosed
      if (← peek) == some '\x7d' then pure (lo, none)
      else
        let hi ← decimal
        pure (lo, some hi)
    else pure (lo, some lo)
  if (← peek) != some '\x7d' then unclosed
  if (← bumpSpace flags) then
    if (← peek) == some '?' then
      let _ ← bump
  match bounds with
  | (lo, some hi) =>
    if hi < lo then failAt .repetitionCountInvalid start (← here) else pure bounds
  | _ => pure bounds

/-- Applies one flag letter to the flags, on or off. -/
def setFlag (flags : Flags) (c : Char) (on : Bool) : Option Flags :=
  match c with
  | 'i' => some { flags with caseless := on }
  | 'm' => some { flags with multiLine := on }
  | 's' => some { flags with dotAll := on }
  | 'U' => some { flags with swapGreed := on }
  | 'u' => some { flags with unicode := on }
  | 'R' => some { flags with crlf := on }
  | 'x' => some { flags with verbose := on }
  | _ => none

/-- Reads the letters of a flag group up to its colon or closing parenthesis, returning the new
flags, whether any item was written, and which of the two ended it. `seen` holds the letters
read with their positions, `dash` the position of the dash once one has been met, and
`afterDash` tells whether it was the last item. -/
def flagItems : Nat → Flags → List (Char × Nat) → Option Nat → Bool → Bool →
    ReadM (Flags × Bool × Char)
  | 0, _, _, _, _, _ => failHere .flagUnexpectedEnd
  | fuel + 1, flags, seen, dash, afterDash, any => do
    let some c ← peek | failHere .flagUnexpectedEnd
    let p ← here
    if c == ':' || c == ')' then
      if afterDash then
        match dash with
        | some d => failAt .flagDanglingNegation d (d + 1)
        | none => failHere .flagDanglingNegation
      let _ ← bump
      return (flags, any, c)
    if c == '-' then
      if let some d := dash then throw ⟨.flagRepeatedNegation, ⟨p, p + 1⟩, some ⟨d, d + 1⟩⟩
      if !(← bump) then failHere .flagUnexpectedEnd
      flagItems fuel flags seen (some p) true true
    else
      let some flags' := setFlag flags c dash.isNone | failChar .flagUnrecognized
      if let some (_, q) := seen.find? (·.1 == c) then
        throw ⟨.flagDuplicate, ⟨p, p + 1⟩, some ⟨q, q + 1⟩⟩
      if !(← bump) then failHere .flagUnexpectedEnd
      flagItems fuel flags' ((c, p) :: seen) dash false true

/-- Whether `c` may stand in a capture group name, `first` telling whether it is the first. -/
def isNameChar (c : Char) (first : Bool) : Bool :=
  c == '_' || (Text.isAlnum c && (!first || !c.isDigit)) ||
    (!first && (c == '.' || c == '[' || c == ']'))

/-- Reads a capture group name up to its closing angle bracket. -/
def captureName : ReadM Unit := do
  let r ← get
  if r.rest.isEmpty then failHere .groupNameUnexpectedEnd
  let name := r.rest.takeWhile (· != '>')
  let rec check : List Char → Nat → Bool → ReadM Unit
    | [], _, _ => pure ()
    | c :: cs, p, first =>
      if isNameChar c first then check cs (p + 1) false else failAt .groupNameInvalid p (p + 1)
  check name r.pos true
  let after := r.rest.drop name.length
  let span : CharSpan := ⟨r.pos, r.pos + name.length⟩
  if after.isEmpty then failAt .groupNameUnexpectedEnd span.stop span.stop
  if name.isEmpty then failAt .groupNameEmpty r.pos r.pos
  let s := String.ofList name
  if let some (_, earlier) := r.names.find? (·.1 == s) then
    throw ⟨.groupNameDuplicate, span, some earlier⟩
  setRest (after.drop 1)
  modify fun r => { r with names := (s, span) :: r.names }

/-- The pattern of a literal character under the flags. -/
def literal (flags : Flags) (c : Char) : Pattern :=
  .chars (foldIf flags (CharSet.single c))

/-- The pattern of the dot under the flags. -/
def dot (flags : Flags) : Pattern :=
  if flags.dotAll then .chars CharSet.full
  else if flags.crlf then .chars (CharSet.ofRanges [(0, 9), (11, 12), (14, maxCode)])
  else .chars (CharSet.ofRanges [(0, 9), (11, maxCode)])

/-- Gathers the parts of a sequence into one pattern. -/
def seqOf (items : List SeqItem) : Pattern :=
  let parts := items.filterMap fun
    | .part p => some p
    | .flagGroup => none
  match parts with
  | [p] => p
  | _ => .seq parts

/-- Repeats the last part of a sequence (kept in reverse), which must be a pattern. -/
def repeatLast (items : List SeqItem) (lo : Nat) (hi : Option Nat) : ReadM (List SeqItem) :=
  match items with
  | .part p :: rest => pure (.part (.rep p lo hi) :: rest)
  | _ => failHere .repetitionMissing

mutual

/-- Reads branches separated by bars up to a closing parenthesis or the end, returning the
pattern and the flags in force at its end. -/
def alternation : Nat → Flags → ReadM (Pattern × Flags)
  | 0, _ => failHere .nestLimitExceeded
  | fuel + 1, flags => do
    let (first, flags) ← sequence fuel flags []
    let (rest, flags) ← moreBranches fuel flags
    match rest with
    | [] => return (first, flags)
    | _ => return (.alt (first :: rest), flags)

/-- Reads the branches after the first, each after a bar. -/
def moreBranches : Nat → Flags → ReadM (List Pattern × Flags)
  | 0, _ => failHere .nestLimitExceeded
  | fuel + 1, flags => do
    if (← peek) == some '|' then
      let _ ← bump
      let (b, flags) ← sequence fuel flags []
      let (rest, flags) ← moreBranches fuel flags
      return (b :: rest, flags)
    else return ([], flags)

/-- Reads the items of one branch up to a bar, a closing parenthesis or the end. -/
def sequence : Nat → Flags → List SeqItem → ReadM (Pattern × Flags)
  | 0, _, _ => failHere .nestLimitExceeded
  | fuel + 1, flags, items => do
    space flags
    match ← peek with
    | none => return (seqOf items.reverse, flags)
    | some '|' => return (seqOf items.reverse, flags)
    | some ')' => return (seqOf items.reverse, flags)
    | some '(' =>
      let open_ ← here
      let _ ← bump
      space flags
      if (← startsWith ['?', '=']) || (← startsWith ['?', '!']) ||
          (← startsWith ['?', '<', '=']) || (← startsWith ['?', '<', '!']) then
        failAt .lookAroundUnsupported open_ (← here)
      let inner_ ← here
      if (← startsWith ['?', 'P', '<']) || (← startsWith ['?', '<']) then
        skip (if (← startsWith ['?', 'P', '<']) then 3 else 2)
        captureName
        let inner ← group fuel flags open_
        sequence fuel flags (.part inner :: items)
      else if (← startsWith ['?']) then
        let _ ← bump
        if (← get).rest.isEmpty then failAt .groupUnclosed open_ (open_ + 1)
        let (flags', any, close) ← flagItems ((← get).rest.length + 1) flags [] none false false
        if close == ')' then
          if !any then failAt .repetitionMissing inner_ inner_
          sequence fuel flags' (.flagGroup :: items)
        else
          let inner ← group fuel flags' open_
          sequence fuel flags (.part inner :: items)
      else
        let inner ← group fuel flags open_
        sequence fuel flags (.part inner :: items)
    | some '[' =>
      let s ← bracket flags ((← get).rest.length + 1)
      sequence fuel flags (.part (.chars s) :: items)
    | some '*' =>
      let items ← repeatLast items 0 none
      skipLazy
      sequence fuel flags items
    | some '+' =>
      let items ← repeatLast items 1 none
      skipLazy
      sequence fuel flags items
    | some '?' =>
      let items ← repeatLast items 0 (some 1)
      skipLazy
      sequence fuel flags items
    | some '\x7b' =>
      match items with
      | .part _ :: _ =>
        let (lo, hi) ← counted flags
        let items ← repeatLast items lo hi
        sequence fuel flags items
      | _ => failHere .repetitionMissing
    | some '\\' =>
      match ← escape flags with
      | .lit c => sequence fuel flags (.part (literal flags c) :: items)
      | .cls s => sequence fuel flags (.part (.chars s) :: items)
      | .look l => sequence fuel flags (.part (.look l) :: items)
    | some '.' =>
      let _ ← bump
      sequence fuel flags (.part (dot flags) :: items)
    | some '^' =>
      let _ ← bump
      sequence fuel flags (.part (.look (if flags.multiLine then .lineStart else .textStart)) :: items)
    | some '$' =>
      let _ ← bump
      sequence fuel flags (.part (.look (if flags.multiLine then .lineEnd else .textEnd)) :: items)
    | some c =>
      let _ ← bump
      sequence fuel flags (.part (literal flags c) :: items)

/-- Reads the inside of a group opened at `open_` and its closing parenthesis. -/
def group : Nat → Flags → Nat → ReadM Pattern
  | 0, _, _ => failHere .nestLimitExceeded
  | fuel + 1, flags, open_ => do
    let (inner, _) ← alternation fuel flags
    if (← peek) == some ')' then
      let _ ← bump
      return inner
    else failAt .groupUnclosed open_ (open_ + 1)

end

end Reader

/-- Reads a whole pattern with the given flags in force at its start. -/
def Pattern.parseWith (flags : Flags) (text : String) : Except PatternError Pattern := do
  let cs := text.toList
  let ((p, _), r) ← (Reader.alternation (4 * cs.length + 8) flags).run { rest := cs }
  match r.rest with
  | [] =>
    match r.deferred with
    | some (f, span) => throw ⟨f, span, none⟩
    | none => pure p
  | _ => throw ⟨.groupUnopened, ⟨r.pos, r.pos + 1⟩, none⟩

/-- Reads a whole pattern with the default flags. -/
def Pattern.parse (text : String) : Except PatternError Pattern := Pattern.parseWith {} text

/-- The text of a pattern that matches `c` alone: a metacharacter behind a backslash, any
other character as it is. -/
def escape (c : Char) : String :=
  if Reader.isMeta c then String.ofList ['\\', c] else String.singleton c

end FieldSelection.Regex

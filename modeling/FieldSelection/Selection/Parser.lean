import FieldSelection.Selection.Draft
import FieldSelection.Selection.Error
import FieldSelection.Text.Blank
import FieldSelection.Text.Alnum
/-!
# Reading selection expressions

`Selection.parse` compiles a selection expression into a forest of `Node`s. The text is trimmed
of blanks first, and blanks may stand between any two tokens; blank text compiles to the empty
forest.

The grammar, in the words of the reader:

* a list is expressions separated by commas;
* an expression is a negated path `-a.b`, a field list `(a,b)` with an optional nested part, a
  path `a.b.c` with an optional nested part, or `**` with an optional nested part;
* a nested part is a list in brackets `[...]` or braces `{...}`, or empty brackets `[]`;
* a field is a name, or a regular expression between two tildes or two slashes followed by the
  flag `i` for case-insensitive matching (a backslash before the delimiter stands for it);
* a name is a run of letters, digits, `_`, `$`, `@`, `*` and `?`, with `-` allowed after the
  first character. `**` and `*` are the star tokens, a name with `*` or `?` a glob.

A field list or a path shares its nested part: `(a,b)[x]` is `a[x],b[x]`, and `a.b[x]` is
`a[b[x]]`. The any-deep token may not be negated, be a step of a path, nor stand in a field
list; a negated field takes no nested part.
-/

namespace FieldSelection.Selection

/-- Whether `c` may start a name. -/
def isNameStart (c : Char) : Bool :=
  Text.isAlnum c || c == '_' || c == '$' || c == '@' || c == '*' || c == '?'

/-- Whether `c` may continue a name. -/
def isNameChar (c : Char) : Bool := isNameStart c || c == '-'

/-- The matcher of a name as written, or the fault of the regular expression a glob
translates to. -/
def nameMatcher (text : String) : Except Regex.PatternError NameMatcher :=
  if text == "**" then .ok .anyDeep
  else if text == "*" then .ok .anyShallow
  else if text.toList.any (fun c => c == '*' || c == '?') then NameMatcher.wildcard text
  else .ok (.exact text)

/-- A field as written, with the byte offset where it starts. -/
structure Field where
  matcher : NameMatcher
  position : Nat

/-- The reader's place: the unread text and its byte offset in the trimmed expression. -/
structure Cursor where
  rest : List Char
  pos : Nat

namespace Cursor

/-- The cursor past the blanks ahead. -/
def skipBlanks (c : Cursor) : Cursor :=
  ⟨Text.dropBlanks c.rest, c.pos + Text.utf8Length (c.rest.takeWhile Text.isBlank)⟩

/-- The cursor past its next character. -/
def bump (c : Cursor) : Cursor :=
  match c.rest with
  | [] => c
  | ch :: rest => ⟨rest, c.pos + ch.utf8Size⟩

/-- The cursor past `cs`, which it starts with. -/
def advance (c : Cursor) (cs : List Char) : Cursor :=
  ⟨c.rest.drop cs.length, c.pos + Text.utf8Length cs⟩

/-- The fault of finding the next character, or the end, where `e` was expected. -/
def unexpected (c : Cursor) (e : Expectation) : SelectionError :=
  .malformed c.pos (.unexpected e c.rest.head?)

end Cursor

/-- The state of reading: the cursor and the tree built so far. -/
structure Reading where
  cursor : Cursor
  tree : Draft

/-- A step of reading an expression. -/
abbrev ReadM := StateT Reading (Except SelectionError)

namespace Reader

/-- Stops with a syntax fault at `p`. -/
def failAt {α : Type} (p : Nat) (f : SyntaxFault) : ReadM α := throw (.malformed p f)

/-- Stops where the next character is not what `e` asked for. -/
def failUnexpected {α : Type} (e : Expectation) : ReadM α := do
  throw ((← get).cursor.unexpected e)

/-- The current byte offset. -/
def pos : ReadM Nat := do return (← get).cursor.pos

/-- Skips blanks and answers the next character. -/
def peek : ReadM (Option Char) := do
  modify fun r => { r with cursor := r.cursor.skipBlanks }
  return (← get).cursor.rest.head?

/-- The next character, without skipping blanks. -/
def peekHere : ReadM (Option Char) := do return (← get).cursor.rest.head?

/-- Moves past the next character. -/
def bump : ReadM Unit := modify fun r => { r with cursor := r.cursor.bump }

/-- Puts a field under the node at `path`, answering the path of the node standing for it. -/
def addChild (path : List String) (m : NameMatcher) (f : NodeMarks) : ReadM (List String) := do
  let r ← get
  let (tree, child) := r.tree.addChild path m f
  set { r with tree := tree }
  return child

/-- Changes the marks of the node at `path`. -/
def mark (path : List String) (g : NodeMarks → NodeMarks) : ReadM Unit :=
  modify fun r => { r with tree := r.tree.modifyMarks path g }

/-- Marks the node at `path` as having a nested expression. -/
def brace (path : List String) : ReadM Unit := mark path fun f => { f with braced := true }

/-- The body of a regular expression after its opening delimiter: the pattern with escaped
delimiters unescaped, and the text up to the closing delimiter, which is dropped; `none` when
the delimiter never closes. -/
def regexBody (delim : Char) : List Char → Option (List Char × List Char × List Char)
  | [] => none
  | '\\' :: [] => none
  | '\\' :: e :: rest =>
    (regexBody delim rest).map fun (pat, raw, after) =>
      ((if e == delim then [e] else ['\\', e]) ++ pat, '\\' :: e :: raw, after)
  | c :: rest =>
    if c == delim then some ([], [], rest)
    else (regexBody delim rest).map fun (pat, raw, after) => (c :: pat, c :: raw, after)

/-- The flag letters right after a regular expression: the ASCII letters ahead. -/
def flagLetters (cs : List Char) : List Char :=
  cs.takeWhile fun c => c.toNat < 128 && c.isAlpha

/-- Reads a regular expression field, its delimiter next. -/
def regexField (delim : Char) : ReadM Field := do
  let start ← get
  let position := start.cursor.pos
  let body := start.cursor.rest.drop 1
  let some (pattern, raw, after) := regexBody delim body
    | failAt position (.unterminatedRegex delim)
  let flagsAt := start.cursor.pos + delim.utf8Size + Text.utf8Length raw + delim.utf8Size
  set { start with cursor := ⟨after, flagsAt⟩ }
  if pattern.isEmpty then failAt position .emptyRegex
  let letters := flagLetters after
  match letters.find? (· != 'i') with
  | some bad =>
    let before := letters.takeWhile (· == 'i')
    failAt (flagsAt + before.length) (.unknownRegexFlag bad)
  | none =>
    let caseless := !letters.isEmpty
    modify fun r => { r with cursor := r.cursor.advance letters }
    let literal := String.ofList (start.cursor.rest.take (1 + raw.length + 1 + letters.length))
    let patternText := String.ofList pattern
    match NameMatcher.ofRegex literal patternText caseless with
    | .ok m => return ⟨m, position⟩
    | .error e => throw (.invalidRegex position patternText e)

/-- Reads one field after optional blanks. -/
def field : ReadM Field := do
  modify fun r => { r with cursor := r.cursor.skipBlanks }
  let r ← get
  match r.cursor.rest.head? with
  | some '~' => regexField '~'
  | some '/' => regexField '/'
  | some c =>
    if isNameStart c then
      let run := r.cursor.rest.takeWhile isNameChar
      set { r with cursor := r.cursor.advance run }
      match nameMatcher (String.ofList run) with
      | .ok m => return ⟨m, r.cursor.pos⟩
      | .error e => throw (.invalidRegex r.cursor.pos (String.ofList run) e)
    else failUnexpected .field
  | none => failUnexpected .field

/-- Reads the further steps of a dot-path, each after a dot. -/
def pathSteps : Nat → List Field → ReadM (List Field)
  | 0, acc => return acc.reverse
  | fuel + 1, acc => do
    if (← peek) == some '.' then
      bump
      let f ← field
      if f.matcher.isAnyDeep then failAt f.position .anyDeepInPath
      pathSteps fuel (f :: acc)
    else return acc.reverse

/-- Reads a field or a dot-path; the any-deep token stands only alone. -/
def path : ReadM (List Field) := do
  let first ← field
  if first.matcher.isAnyDeep then
    if (← peek) == some '.' then failAt (← pos) .anyDeepInPath
    return [first]
  pathSteps ((← get).cursor.rest.length + 1) [first]

/-- Reads the fields of a field list after its opening parenthesis, up to the closing one. -/
def fieldList : Nat → List Field → ReadM (List Field)
  | 0, acc => return acc.reverse
  | fuel + 1, acc => do
    let f ← field
    if f.matcher.isAnyDeep then failAt f.position .anyDeepInFieldList
    match ← peek with
    | some ',' => bump; fieldList fuel (f :: acc)
    | some ')' => bump; return (f :: acc).reverse
    | _ => failUnexpected .commaOrParen

/-- Puts the steps of a negated path under `parent`: every step but the last as an inner step
of a negated path, the last as negated. -/
def negatedSteps (parent : List String) : List Field → ReadM Unit
  | [] => pure ()
  | [f] => do
    brace parent
    let node ← addChild parent f.matcher { negativeParent := true, dotPathed := true }
    mark node fun m => { m with negated := true, negativeParent := false }
  | f :: rest => do
    brace parent
    let node ← addChild parent f.matcher { negativeParent := true, dotPathed := true }
    negatedSteps node rest

/-- Reads a negated field or path under `parent`, the minus consumed. -/
def negated (parent : List String) : ReadM Unit := do
  let position ← pos
  let steps ← path
  if steps.any (·.matcher.isAnyDeep) then failAt position .anyDeepNegated
  match steps with
  | [f] => let _ ← addChild parent f.matcher { negated := true }
  | _ => negatedSteps parent steps
  match ← peek with
  | some '[' => failAt (← pos) .negatedNested
  | some '\x7b' => failAt (← pos) .negatedNested
  | _ => pure ()

/-- The closing bracket for an opening one. -/
def closer : Option Char → Option Char
  | some '[' => some ']'
  | some '\x7b' => some '\x7d'
  | _ => none

/-- Puts the steps of a path before its last under `parent`, each braced and dot-pathed,
answering the path of the last one put. -/
def pathPrefix (parent : List String) : List Field → ReadM (List String)
  | [] => return parent
  | f :: rest => do
    let node ← addChild parent f.matcher { dotPathed := true }
    brace node
    pathPrefix node rest

mutual

/-- Reads expressions separated by commas into `parent`, up to `close` (consumed) or, at the
top level, the end. -/
def expressionList (parent : List String) (close : Option Char) : Nat → ReadM Unit
  | 0 => failUnexpected .field
  | fuel + 1 => do
    expression parent fuel
    match ← peek with
    | some ',' => bump; expressionList parent close fuel
    | some c =>
      if some c == close then bump
      else failUnexpected (match close with
        | some k => .commaOrClose k
        | none => .commaOrEnd)
    | none =>
      match close with
      | none => pure ()
      | some k => failUnexpected (.commaOrClose k)

/-- Reads one expression into `parent`. -/
def expression (parent : List String) : Nat → ReadM Unit
  | 0 => failUnexpected .field
  | fuel + 1 => do
    match ← peek with
    | some '-' => bump; negated parent
    | some '(' =>
      bump
      let fields ← fieldList ((← get).cursor.rest.length + 1) []
      attach parent fields fuel
    | _ =>
      let steps ← path
      match steps.reverse with
      | [] => failUnexpected .field
      | last :: before =>
        let parent ← do
          if before.isEmpty then pure parent
          else
            brace parent
            pathPrefix parent before.reverse
        attach parent [last] fuel

/-- Puts the fields under `parent`, each with the nested part that follows, if any; the nested
text is read once for each field. -/
def attach (parent : List String) (fields : List Field) : Nat → ReadM Unit
  | 0 => failUnexpected .field
  | fuel + 1 => do
    match closer (← peek) with
    | none =>
      for f in fields do
        let _ ← addChild parent f.matcher {}
    | some close =>
      bump
      let start := (← get).cursor
      let empty := (← peek) == some close
      if empty then
        for f in fields do
          let _ ← addChild parent f.matcher { emptyNested := true }
        bump
      else
        nestedEach parent close start fields fuel

/-- Reads the nested list from `start` into each of the fields in turn. -/
def nestedEach (parent : List String) (close : Char) (start : Cursor) :
    List Field → Nat → ReadM Unit
  | [], _ => pure ()
  | _, 0 => failUnexpected .field
  | f :: rest, fuel + 1 => do
    let node ← addChild parent f.matcher {}
    modify fun r => { r with cursor := start }
    brace node
    expressionList node (some close) fuel
    nestedEach parent close start rest fuel

end

end Reader

/-- Compiles the trimmed, non-blank text of an expression. -/
def parseTrimmed (text : List Char) : Except SelectionError (List Node) := do
  let start : Reading := ⟨⟨text, 0⟩, Draft.root⟩
  let (_, r) ← (Reader.expressionList [] none (4 * text.length + 8)).run start
  return r.tree.withBaseFallback.compile

/-- Compiles a selection expression; blank text compiles to the empty forest. -/
def parse (text : String) : Except SelectionError (List Node) :=
  let trimmed := Text.trimBlanks text.toList
  if trimmed.isEmpty then .ok [] else parseTrimmed trimmed

end FieldSelection.Selection

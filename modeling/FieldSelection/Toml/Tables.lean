import FieldSelection.Toml.Numbers
/-!
# Building TOML tables

A document is built as it is read. The lines after a header fill the table the header opens;
the table is put in its place in the document when the next header comes, or at the end.

How a table came to be decides what may extend it. A header's path may lead through any
table but an inline one, and through an array of tables into its last table, making the
tables it lacks as implicit parents. A header may name a table only when nothing is there or
an implicit parent is, which it then takes over with what it holds; an array-of-tables header
only an array of tables or nothing. A dotted key leads through tables it made itself, so
neither through a table a header named nor through a header's implicit parent. A value can
never be led through: that fault names the dotted key up to the value and the value's kind.
A key may be set once in a table.

An inline table is built from its key/value pairs by the same rules for dotted keys, with no
header to name the table in a fault.
-/

namespace FieldSelection.Toml

/-- The name of a value's kind, as faults name it. -/
def Node.kindName : Node → String
  | .string .. => "string"
  | .integer .. => "integer"
  | .float .. => "float"
  | .boolean .. => "boolean"
  | .datetime .. => "datetime"
  | .array .. => "array"
  | .table .. => "inline table"

/-- A key as a fault shows it: bare when it can be, else quoted. -/
def keyRepr (name : String) : String :=
  let bare := !name.isEmpty && name.toList.all fun c =>
    c.isAlphanum || c == '-' || c == '_'
  if bare then name
  else if (name.contains '"' || name.contains '\\') && !name.contains '\'' &&
      name.toList.all (fun c => c.toNat ≥ 0x20 && c.toNat != 0x7F) then
    "'" ++ name ++ "'"
  else
    let escape : Char → String
      | '"' => "\\\""
      | '\\' => "\\\\"
      | '\n' => "\\n"
      | '\t' => "\\t"
      | '\r' => "\\r"
      | c => c.toString
    "\"" ++ String.join (name.toList.map escape) ++ "\""

/-- The fault of a key set twice, with the path of its table when the fault names one. -/
def duplicateKey (key : String) : Option (List Key) → String
  | none => "duplicate key `" ++ key ++ "`"
  | some [] => "duplicate key `" ++ key ++ "` in document root"
  | some path =>
    "duplicate key `" ++ key ++ "` in table `" ++ ".".intercalate (path.map (·.name)) ++ "`"

/-- The fault of a dotted key `path` led through value `v`. -/
def extendsValue (path : List Key) (v : Node) : String :=
  "dotted key `" ++ ".".intercalate (path.map (·.name)) ++
    "` attempted to extend non-table type (" ++ v.kindName ++ ")"

/-- The entry of `name` in `es`. -/
def entryOf (es : List (Key × Node)) (name : String) : Option Node :=
  (es.find? (·.1.name == name)).map (·.2)

/-- `es` with the entry of `name` holding `n`. -/
def setEntry (es : List (Key × Node)) (name : String) (n : Node) : List (Key × Node) :=
  es.map fun (k, v) => if k.name == name then (k, n) else (k, v)

/-- Whether a table of origin `o` was made implicitly, by a header or a dotted key. -/
def Origin.isImplicit : Origin → Bool
  | .implicit | .dotted => true
  | .inline | .header => false

/-- Follows `path` from the table with entries `es` and applies `f` to the table it leads
to, with whether that table was made by a dotted key. A `dotted` path makes the tables it
lacks as dotted-key tables and may not lead through explicit ones; `before` is the part of
the path already followed. Inline tables are tables inside an inline table (`inInline`) and
values elsewhere. -/
def descend {β : Type} (inInline dotted : Bool) (f : List (Key × Node) → Bool → Except String (List (Key × Node) × β)) :
    List Key → List Key → Bool → List (Key × Node) → Except String (List (Key × Node) × β)
  | _, [], here, es => f es here
  | before, k :: ks, _, es =>
    match entryOf es k.name with
    | none => do
      let (inner, b) ← descend inInline dotted f (before ++ [k]) ks dotted []
      pure (es ++ [(k, .table inner k.span (if dotted then .dotted else .implicit))], b)
    | some (.array items span true) =>
      match items.getLast? with
      | some (.table inner tspan origin) => do
        let (inner, b) ← descend inInline dotted f (before ++ [k]) ks false inner
        pure (setEntry es k.name (.array (items.dropLast ++ [.table inner tspan origin]) span true), b)
      | _ => .error (duplicateKey k.name none)
    | some (.table inner span origin) =>
      if origin == .inline && !inInline then .error (extendsValue (before ++ [k]) (.table inner span origin))
      else if dotted && !origin.isImplicit then .error (duplicateKey k.name none)
      else do
        let (inner, b) ← descend inInline dotted f (before ++ [k]) ks (origin == .dotted) inner
        pure (setEntry es k.name (.table inner span origin), b)
    | some v => .error (extendsValue (before ++ [k]) v)

/-- The entries of an inline table after the pair `path = v`. -/
def placeInline (es : List (Key × Node)) (path : List Key) (v : Node) :
    Except String (List (Key × Node)) := do
  match path.getLast? with
  | none => pure es
  | some k =>
    let (es, ()) ← descend true (!path.dropLast.isEmpty) (fun inner here =>
      if here != !path.dropLast.isEmpty then .error (duplicateKey k.name none)
      else if (entryOf inner k.name).isSome then .error (duplicateKey k.name none)
      else .ok (inner ++ [(k, v)], ())) [] path.dropLast false es
    pure es

/-- The entries of an inline table from its pairs. -/
def inlineEntries (pairs : List (List Key × Node)) : Except String (List (Key × Node)) :=
  pairs.foldlM (fun es (path, v) => placeInline es path v) []

/-- A document being built: the tables put in place, and the table being filled. -/
structure Sheet where
  root : List (Key × Node) := []
  /-- the entries of the table being filled -/
  current : List (Key × Node) := []
  /-- from its header to the end of its last value -/
  currentSpan : Span := ⟨0, 0⟩
  /-- the path of its header; empty before the first header -/
  currentPath : List Key := []
  /-- whether its header is an array-of-tables header -/
  currentIsArray : Bool := false
  deriving Repr

namespace Sheet

/-- Sets `path = v` in the table being filled. -/
def setValue (s : Sheet) (path : List Key) (v : Node) : Except String Sheet := do
  match path.getLast? with
  | none => pure s
  | some k =>
    let dotted := !path.dropLast.isEmpty
    let (current, ()) ← descend false true (fun inner here =>
      if here != dotted then .error (duplicateKey k.name none)
      else if (entryOf inner k.name).isSome then .error (duplicateKey k.name (some s.currentPath))
      else .ok (inner ++ [(k, v)], ())) [] path.dropLast false s.current
    pure { s with current, currentSpan := ⟨s.currentSpan.start, v.span.stop⟩ }

/-- Puts the table being filled in its place. -/
def finish (s : Sheet) : Except String Sheet := do
  match s.currentPath.getLast? with
  | none => pure { s with root := s.current, current := [] }
  | some k =>
    let parent := s.currentPath.dropLast
    let table : Node := .table s.current s.currentSpan .header
    let (root, ()) ← descend false false (fun es _ =>
      match entryOf es k.name, s.currentIsArray with
      | none, false => .ok (es ++ [(k, table)], ())
      | none, true => .ok (es ++ [(k, .array [table] s.currentSpan true)], ())
      | some (.array items _ true), true =>
        let span : Span := match items.head? with
          | some first => ⟨first.span.start, s.currentSpan.stop⟩
          | none => s.currentSpan
        .ok (setEntry es k.name (.array (items ++ [table]) span true), ())
      | _, _ => .error (duplicateKey (keyRepr k.name) (some parent))) [] parent false s.root
    pure { s with root, current := [] }

/-- Opens the table a header names at `path`, the header at `span`. -/
def openTable (s : Sheet) (path : List Key) (span : Span) : Except String Sheet := do
  let s ← s.finish
  match path.getLast? with
  | none => pure s
  | some k =>
    let parent := path.dropLast
    let (root, taken) ← descend false false (fun es _ =>
      match entryOf es k.name with
      | none => .ok (es, [])
      | some (.table inner _ .implicit) => .ok (es.filter (·.1.name != k.name), inner)
      | some _ => .error (duplicateKey (keyRepr k.name) (some parent))) [] parent false s.root
    pure {
      root
      current := taken
      currentSpan := span
      currentPath := path
      currentIsArray := false }

/-- Opens a new table of the array an array-of-tables header names at `path`. -/
def openArrayTable (s : Sheet) (path : List Key) (span : Span) : Except String Sheet := do
  let s ← s.finish
  match path.getLast? with
  | none => pure s
  | some k =>
    let parent := path.dropLast
    let (root, ()) ← descend false false (fun es _ =>
      match entryOf es k.name with
      | none => .ok (es ++ [(k, .array [] span true)], ())
      | some (.array _ _ true) => .ok (es, ())
      | some _ => .error (duplicateKey (keyRepr k.name) (some parent))) [] parent false s.root
    pure {
      root
      current := []
      currentSpan := span
      currentPath := path
      currentIsArray := true }

end Sheet

end FieldSelection.Toml

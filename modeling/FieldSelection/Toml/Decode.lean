import FieldSelection.Toml.Reader
import FieldSelection.Schema.Decode
import FieldSelection.Config
/-!
# Reading schemas and settings from TOML documents

A schema document in TOML has the same shape as in JSON: an optional string `root` and a table
`types` of type declarations, each with an optional boolean `open` and an array `fields` of
field declarations. Settings documents have the four switches as booleans and the two cache
bounds as spec texts; keys they do not know are passed over.

Faults have the wordings of `DecodeFault` and point into the text: an unknown key at the key,
a value of the wrong kind or a spec that does not read at the value, a missing key at the table
that lacks it. A date or time counts as a table where a fault names what was found.
-/

namespace FieldSelection.Toml

/-- What a TOML value is, for the wording of a fault. -/
def Node.found : Node → Found
  | .string s _ => .string s
  | .integer i _ => .integer i
  | .float bits _ => .float bits
  | .boolean b _ => .boolean b
  | .datetime _ _ => .map
  | .array _ _ _ => .sequence
  | .table _ _ _ => .map

namespace DocRead

/-- A reader of one kind of TOML value. -/
abbrev Reader (α : Type) := Node → Except TomlError α

/-- A fault pointing at `span`. -/
def faultAt {α : Type} (f : DecodeFault) (span : Span) : Except TomlError α :=
  .error ⟨f.message, some span⟩

/-- Refuses a value as not being what `expected` names. -/
def refuse {α : Type} (expected : String) (n : Node) : Except TomlError α :=
  faultAt (.invalidType n.found expected) n.span

/-- Reads a string. -/
def string : Reader String
  | .string s _ => .ok s
  | n => refuse "a string" n

/-- Reads a boolean. -/
def boolean : Reader Bool
  | .boolean b _ => .ok b
  | n => refuse "a boolean" n

/-- Reads an array, each item with `item`. -/
def sequence {α : Type} (item : Reader α) : Reader (List α)
  | .array items _ _ => items.mapM item
  | n => refuse "a sequence" n

/-- Reads optional value number `i` of an array record, `d` when it is left out. -/
def slot {α : Type} (items : List Node) (i : Nat) (r : Reader α) (d : α) :
    Except TomlError α :=
  match items[i]? with
  | some n => r n
  | none => .ok d

/-- Reads one entry of a field declaration. -/
def fieldEntry (d : SchemaRead.FieldDraft) : Key × Node → Except TomlError SchemaRead.FieldDraft
  | (k, n) =>
    match k.name with
    | "name" => return { d with name := some (← string n) }
    | "type" => return { d with valueType := some (← string n) }
    | "views" => return { d with views := ← sequence string n }
    | "unwrapped" => return { d with unwrapped := ← boolean n }
    | other => faultAt (.unknownField other SchemaRead.fieldMembers) k.span

/-- Reads a field declaration. -/
def field : Reader FieldDecl
  | .table es span _ => do
    let d ← es.foldlM fieldEntry {}
    match d.name with
    | some n => pure ⟨n, d.valueType, d.views, d.unwrapped⟩
    | none => faultAt (.missingField "name") span
  | .array items span _ => do
    let n ← match items[0]? with
      | some v => string v
      | none => faultAt (.invalidLength 0 "struct FieldDef with 4 elements") span
    let t ← slot items 1 (fun v => some <$> string v) none
    let views ← slot items 2 (sequence string) []
    let u ← slot items 3 boolean false
    pure ⟨n, t, views, u⟩
  | n => refuse "struct FieldDef" n

/-- Reads one entry of a type declaration. -/
def typeEntry (d : TypeDecl) : Key × Node → Except TomlError TypeDecl
  | (k, n) =>
    match k.name with
    | "open" => return { d with isOpen := ← boolean n }
    | "fields" => return { d with fields := ← sequence field n }
    | other => faultAt (.unknownField other SchemaRead.typeMembers) k.span

/-- Reads the declaration of the type named `name`. -/
def typeDecl (name : String) : Reader TypeDecl
  | .table es _ _ => es.foldlM typeEntry { name := name }
  | .array items _ _ => do
    let o ← slot items 0 boolean false
    let fs ← slot items 1 (sequence field) []
    pure ⟨name, o, fs⟩
  | n => refuse "struct TypeDef" n

/-- Reads the type declarations, ordered by name. -/
def types : Reader (List TypeDecl)
  | .table es _ _ =>
    es.foldlM (fun acc (k, n) => return SchemaRead.insertByName (← typeDecl k.name n) acc) []
  | n => refuse "a map" n

/-- Reads one entry of a schema document. -/
def schemaEntry (d : SchemaFile) : Key × Node → Except TomlError SchemaFile
  | (k, n) =>
    match k.name with
    | "root" => return { d with root := some (← string n) }
    | "types" => return { d with types := ← types n }
    | other => faultAt (.unknownField other SchemaRead.schemaMembers) k.span

/-- Reads a cache spec text. -/
def spec : Reader CacheSpec
  | n => do
    let text ← string n
    match CacheSpec.parse text with
    | .ok s => pure s
    | .error e => .error ⟨e.message, some n.span⟩

/-- Reads one entry of a settings document; unknown keys are passed over. -/
def configEntry (c : FilterConfig) : Key × Node → Except TomlError FilterConfig
  | (k, n) =>
    match k.name with
    | "implicitly_include_base_fields" => return { c with implicitBase := ← boolean n }
    | "implicitly_include_base_fields_in_view" => return { c with baseInViews := ← boolean n }
    | "propagate_view_to_nested_filters" => return { c with propagateViews := ← boolean n }
    | "add_non_annotated_fields_to_base_view" =>
      return { c with unannotatedInBase := ← boolean n }
    | "filter_cache_spec" => return { c with decisionCache := ← spec n }
    | "node_cache_spec" => return { c with expressionCache := ← spec n }
    | _ => pure c

end DocRead

/-- Reads a schema document from the root table of a TOML document. -/
def schemaOf : Node → Except TomlError SchemaFile
  | .table es _ _ => es.foldlM DocRead.schemaEntry {}
  | n => DocRead.refuse "struct SchemaFile" n

/-- Reads settings from the root table of a TOML document. -/
def configOf : Node → Except TomlError FilterConfig
  | .table es _ _ => es.foldlM DocRead.configEntry {}
  | n => DocRead.refuse "struct FilterConfig" n

end FieldSelection.Toml

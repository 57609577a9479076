import FieldSelection.Json.Value
import FieldSelection.Json.Shortest
import FieldSelection.Text.Escaped
import FieldSelection.Schema.Basic
/-!
# Reading schemas from JSON values

A schema document is an object with the optional members `root` (a string or null) and `types`
(an object of type declarations by name). A type declaration has the optional members `open` (a
boolean) and `fields` (an array of field declarations). A field declaration has the member
`name` (a string) and the optional members `type` (a string or null), `views` (an array of
strings) and `unwrapped` (a boolean). A record may also be given as an array of its members'
values in that order, the optional ones at the end left out.

Members are read in document order and the first fault ends the reading: a member of another
name, a value of the wrong kind, an array record with too few or too many values, and, once all
members are read, a required member that is missing. Each fault has one wording, built from
what was found and what was expected.
-/

namespace FieldSelection

open Json

/-- What a reader found where it expected something else. -/
inductive Found where
  | boolean (b : Bool)
  | integer (i : Int)
  | float (bits : UInt64)
  | string (s : String)
  | null
  | sequence
  | map
  deriving DecidableEq, Repr

/-- What a value is, for the wording of a fault. -/
def Found.ofValue : Value → Found
  | .null => .null
  | .bool b => .boolean b
  | .number (.int i) => .integer i
  | .number (.float bits) => .float bits
  | .string s => .string s
  | .array _ => .sequence
  | .object _ => .map

/-- The positional text of a float, with `.0` added when it has no decimal point. -/
def floatWithPoint (bits : UInt64) : String :=
  let t := positionalText bits
  if (Binary64.ofBits bits).isSome && !t.contains '.' then t ++ ".0" else t

/-- The wording of what was found. -/
def Found.text : Found → String
  | .boolean b => "boolean `" ++ toString b ++ "`"
  | .integer i => "integer `" ++ toString i ++ "`"
  | .float bits => "floating point `" ++ floatWithPoint bits ++ "`"
  | .string s => "string " ++ Text.debugQuoted s
  | .null => "null"
  | .sequence => "sequence"
  | .map => "map"

/-- The faults of reading a schema. -/
inductive DecodeFault where
  /-- a value of the wrong kind -/
  | invalidType (found : Found) (expected : String)
  /-- an array record with too few or too many values -/
  | invalidLength (length : Nat) (expected : String)
  /-- a member that the record does not have -/
  | unknownField (name : String) (known : List String)
  /-- a required member that is missing -/
  | missingField (name : String)
  deriving DecidableEq, Repr

/-- The names of a record's members, each in backquotes, as a choice. -/
def choiceText (names : List String) : String :=
  let quoted := names.map fun n => "`" ++ n ++ "`"
  match quoted with
  | [a] => a
  | [a, b] => a ++ " or " ++ b
  | _ => "one of " ++ ", ".intercalate quoted

/-- The wording of a fault. -/
def DecodeFault.message : DecodeFault → String
  | .invalidType f e => "invalid type: " ++ f.text ++ ", expected " ++ e
  | .invalidLength n e => "invalid length " ++ toString n ++ ", expected " ++ e
  | .unknownField n [] => "unknown field `" ++ n ++ "`, there are no fields"
  | .unknownField n known => "unknown field `" ++ n ++ "`, expected " ++ choiceText known
  | .missingField n => "missing field `" ++ n ++ "`"

namespace SchemaRead

/-- A reader of one kind of value. -/
abbrev Reader (α : Type) := Value → Except DecodeFault α

/-- Refuses a value as not being what `expected` names. -/
def refuse {α : Type} (expected : String) (v : Value) : Except DecodeFault α :=
  .error (.invalidType (Found.ofValue v) expected)

/-- Reads a string. -/
def string : Reader String
  | .string s => .ok s
  | v => refuse "a string" v

/-- Reads a string or null. -/
def optionalString : Reader (Option String)
  | .null => .ok none
  | v => some <$> string v

/-- Reads a boolean. -/
def boolean : Reader Bool
  | .bool b => .ok b
  | v => refuse "a boolean" v

/-- Reads an array, each item with `item`. -/
def sequence {α : Type} (item : Reader α) : Reader (List α)
  | .array vs => vs.mapM item
  | v => refuse "a sequence" v

/-- Refuses an array record with more than `n` values. -/
def noMore (vs : List Value) (n : Nat) : Except DecodeFault Unit :=
  if vs.length ≤ n then .ok () else .error (.invalidLength vs.length "fewer elements in array")

/-- Reads optional record value number `i` of an array record, `d` when it is left out. -/
def slot {α : Type} (vs : List Value) (i : Nat) (r : Reader α) (d : α) : Except DecodeFault α :=
  match vs[i]? with
  | some v => r v
  | none => .ok d

/-- The member names of a field declaration. -/
def fieldMembers : List String := ["name", "type", "views", "unwrapped"]

/-- A field declaration with an optional name, while its members are read. -/
structure FieldDraft where
  name : Option String := none
  valueType : Option String := none
  views : List String := []
  unwrapped : Bool := false

/-- Reads one member of a field declaration. -/
def fieldMember (d : FieldDraft) : String × Value → Except DecodeFault FieldDraft
  | ("name", v) => return { d with name := some (← string v) }
  | ("type", v) => return { d with valueType := ← optionalString v }
  | ("views", v) => return { d with views := ← sequence string v }
  | ("unwrapped", v) => return { d with unwrapped := ← boolean v }
  | (k, _) => .error (.unknownField k fieldMembers)

/-- Reads a field declaration. -/
def field : Reader FieldDecl
  | .object ms => do
    let d ← ms.foldlM fieldMember {}
    match d.name with
    | some n => pure ⟨n, d.valueType, d.views, d.unwrapped⟩
    | none => .error (.missingField "name")
  | .array vs => do
    let n ← match vs[0]? with
      | some v => string v
      | none => .error (.invalidLength 0 "struct FieldDef with 4 elements")
    let t ← slot vs 1 optionalString none
    let views ← slot vs 2 (sequence string) []
    let u ← slot vs 3 boolean false
    noMore vs 4
    pure ⟨n, t, views, u⟩
  | v => refuse "struct FieldDef" v

/-- The member names of a type declaration. -/
def typeMembers : List String := ["open", "fields"]

/-- Reads one member of a type declaration. -/
def typeMember (d : TypeDecl) : String × Value → Except DecodeFault TypeDecl
  | ("open", v) => return { d with isOpen := ← boolean v }
  | ("fields", v) => return { d with fields := ← sequence field v }
  | (k, _) => .error (.unknownField k typeMembers)

/-- Reads the declaration of the type named `name`. -/
def typeDecl (name : String) : Reader TypeDecl
  | .object ms => ms.foldlM typeMember { name := name }
  | .array vs => do
    let o ← slot vs 0 boolean false
    let fs ← slot vs 1 (sequence field) []
    noMore vs 2
    pure ⟨name, o, fs⟩
  | v => refuse "struct TypeDef" v

/-- Inserts a declaration into a list ordered by name, replacing one of the same name. -/
def insertByName (t : TypeDecl) : List TypeDecl → List TypeDecl
  | [] => [t]
  | u :: us =>
    if t.name == u.name then t :: us
    else if t.name < u.name then t :: u :: us
    else u :: insertByName t us

/-- Reads the type declarations, ordered by name. -/
def types : Reader (List TypeDecl)
  | .object ms => ms.foldlM (fun acc (n, v) => return insertByName (← typeDecl n v) acc) []
  | v => refuse "a map" v

/-- The member names of a schema document. -/
def schemaMembers : List String := ["root", "types"]

/-- Reads one member of a schema document. -/
def schemaMember (d : SchemaFile) : String × Value → Except DecodeFault SchemaFile
  | ("root", v) => return { d with root := ← optionalString v }
  | ("types", v) => return { d with types := ← types v }
  | (k, _) => .error (.unknownField k schemaMembers)

end SchemaRead

/-- Reads a schema document from a JSON value. -/
def SchemaFile.ofJson : Value → Except DecodeFault SchemaFile
  | .object ms => ms.foldlM SchemaRead.schemaMember {}
  | .array vs => do
    let r ← SchemaRead.slot vs 0 SchemaRead.optionalString none
    let ts ← SchemaRead.slot vs 1 SchemaRead.types []
    SchemaRead.noMore vs 2
    pure ⟨r, ts⟩
  | v => SchemaRead.refuse "struct SchemaFile" v

/-- Reads a list of field declarations from a JSON value. -/
def FieldDecl.listOfJson : Value → Except DecodeFault (List FieldDecl) :=
  SchemaRead.sequence SchemaRead.field

end FieldSelection

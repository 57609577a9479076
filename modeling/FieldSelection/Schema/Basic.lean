import FieldSelection.Views
/-!
# Schemas

A schema declares the layout of the objects of each named type: the fields it writes, in the
order they are written, each with the type of its value when that value is an object of a
declared type, the views it belongs to, and whether it is unwrapped into its parent. An open
type declares no layout: its keys are only known per document. A schema may also name the type
of the documents it describes, its root.

A `Registry` holds the registered types by name, each with its views (built once, under the
settings of the registry) and its field layout. Registering a name again replaces the earlier
type. Validation checks that the root and every field type name registered types.
-/

namespace FieldSelection

/-- A declared field: its name, the type of its value, its views and whether it is
unwrapped. -/
structure FieldDecl where
  name : String
  /-- the declared type of the value; `none` for scalars and untyped values -/
  valueType : Option String := none
  views : List String := []
  unwrapped : Bool := false
  deriving DecidableEq, Repr

/-- A declared type: its name, whether it is open, and its fields in writing order. -/
structure TypeDecl where
  name : String
  isOpen : Bool := false
  fields : List FieldDecl := []
  deriving DecidableEq, Repr

/-- A schema document: the root type, if any, and the types by name in ascending order. -/
structure SchemaFile where
  root : Option String := none
  types : List TypeDecl := []
  deriving DecidableEq, Repr

/-- Why a type could not be described. -/
inductive SchemaError where
  /-- no type of this name is registered -/
  | unknownType (name : String)
  /-- a field declares a value type that is not registered -/
  | unknownFieldType (typeName field fieldType : String)
  deriving DecidableEq, Repr

/-- The wording of a schema error. -/
def SchemaError.message : SchemaError → String
  | .unknownType n => "Unknown type '" ++ n ++ "'"
  | .unknownFieldType t f v =>
    "Type '" ++ t ++ "' declares field '" ++ f ++ "' with unknown type '" ++ v ++ "'"

/-- The view declarations of a type's fields. -/
def TypeDecl.properties (t : TypeDecl) : List PropertyDecl :=
  t.fields.map fun f => ⟨f.name, f.views, f.unwrapped⟩

/-- The views of a declared type under the settings `cfg`. -/
def TypeDecl.viewsUnder (t : TypeDecl) (cfg : FilterConfig) : TypeViews :=
  if t.isOpen then TypeViews.openType t.name else TypeViews.build t.name t.properties cfg

/-- A registered type: its views and its field layout. -/
structure RegisteredType where
  views : TypeViews
  fields : List FieldDecl
  deriving DecidableEq, Repr

/-- Registered types by name, the settings they were registered under, and the root. -/
structure Registry where
  config : FilterConfig
  types : List (String × RegisteredType) := []
  root : Option String := none
  deriving DecidableEq, Repr

namespace Registry

/-- An empty registry under the settings `cfg`. -/
def empty (cfg : FilterConfig) : Registry := { config := cfg }

/-- The views of objects of no declared type: an open type named `object`. -/
def untyped : TypeViews := TypeViews.openType "object"

/-- The registry with `t` registered, replacing a type of the same name in place. -/
def register (r : Registry) (t : TypeDecl) : Registry :=
  let entry : RegisteredType := ⟨t.viewsUnder r.config, t.fields⟩
  if r.types.any (·.1 == t.name) then
    { r with types := r.types.map fun (n, e) => if n == t.name then (n, entry) else (n, e) }
  else { r with types := r.types ++ [(t.name, entry)] }

/-- The registry with an open type of name `n` registered. -/
def registerOpen (r : Registry) (n : String) : Registry :=
  r.register { name := n, isOpen := true }

/-- The registered type of name `n`, if any. -/
def lookup? (r : Registry) (n : String) : Option RegisteredType := r.types.lookup n

/-- Whether a type of name `n` is registered. -/
def contains (r : Registry) (n : String) : Bool := (r.lookup? n).isSome

/-- The views of the type of name `n`. -/
def introspect (r : Registry) (n : String) : Except SchemaError TypeViews :=
  match r.lookup? n with
  | some e => .ok e.views
  | none => .error (.unknownType n)

/-- The field layout of the type of name `n`. -/
def fields (r : Registry) (n : String) : Except SchemaError (List FieldDecl) :=
  match r.lookup? n with
  | some e => .ok e.fields
  | none => .error (.unknownType n)

/-- The first field of a registered type whose value type is not registered. -/
def firstUnknownFieldType (r : Registry) : Option SchemaError :=
  r.types.findSome? fun (n, e) =>
    (e.fields.find? fun f => match f.valueType with
      | some v => !r.contains v
      | none => false).bind fun f =>
        f.valueType.map fun v => .unknownFieldType n f.name v

/-- Checks the root first, then the field types. -/
def validate (r : Registry) : Except SchemaError Unit :=
  match r.root with
  | some root =>
    if r.contains root then
      match r.firstUnknownFieldType with
      | some e => .error e
      | none => .ok ()
    else .error (.unknownType root)
  | none =>
    match r.firstUnknownFieldType with
    | some e => .error e
    | none => .ok ()

/-- The registry of a schema document, its types registered in order, not yet validated. -/
def ofSchemaUnchecked (s : SchemaFile) (cfg : FilterConfig) : Registry :=
  { s.types.foldl register (empty cfg) with root := s.root }

/-- The validated registry of a schema document. -/
def ofSchema (s : SchemaFile) (cfg : FilterConfig) : Except SchemaError Registry := do
  let r := ofSchemaUnchecked s cfg
  r.validate
  pure r

end Registry

end FieldSelection

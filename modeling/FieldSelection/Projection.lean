import FieldSelection.Engine
import FieldSelection.Context
import FieldSelection.Schema.Basic
import FieldSelection.Json.Value
/-!
# Projecting documents

`filterValue` writes the part of a JSON document that a request selects, reading the document
as its root type. Arrays are projected item by item under the same node set and type; scalars
are written as they are. An object of a declared type is written in the order its fields are
declared, each field present in the object and included by the engine; members the type does
not declare are dropped. An object of an open type, or one with no declared type, keeps the
document's order of members.

An unwrapped field whose value is an object writes that object's members into the parent
object, under the node set of the unwrapped decision; an unwrapped value that is no object
writes nothing. A member written twice keeps its first place and takes the later value.

Every decision goes through the engine, whose cache state is threaded through the traversal
and kept when a type turns out to be unknown part way. An object of a declared type with more
members than the type declares fields leaves a trace note once its fields are written.
-/

namespace FieldSelection

open Json

/-- A projection step: it may fail with a schema error and updates the engine. -/
abbrev Projecting := ExceptT SchemaError (StateM Engine)

namespace Projection

/-- The engine's decision for property `p` of a type with views `info` under `s`. -/
def decideHere (s : NodeSet) (p : String) (info : TypeViews) : Projecting Decision :=
  modifyGet fun e => e.decide s p info

/-- A registry answer as a projection step. -/
def lookup {α : Type} : Except SchemaError α → Projecting α
  | .ok a => pure a
  | .error e => throw e

/-- The value of member `k`, known to be smaller than the members. -/
def memberOf : (ms : List (String × Value)) → String →
    Option { v : Value // sizeOf v < sizeOf ms }
  | [], _ => none
  | (k', v) :: rest, k =>
    if k' == k then some ⟨v, by simp; omega⟩
    else (memberOf rest k).map fun w => ⟨w.1, by have := w.2; simp; omega⟩

mutual

/-- Projects a value read as type `ty` (none: untyped) under `s`. -/
def projectValue (reg : Registry) (s : NodeSet) (ty : Option String) :
    Value → Projecting Value
  | .array items => return .array (← projectItems reg s ty items)
  | .object ms => return .object (← writeObject reg s ty ms [])
  | v => pure v
termination_by v => (sizeOf v, 0, 0)

/-- Projects the items of an array. -/
def projectItems (reg : Registry) (s : NodeSet) (ty : Option String) :
    List Value → Projecting (List Value)
  | [] => pure []
  | v :: vs => return (← projectValue reg s ty v) :: (← projectItems reg s ty vs)
termination_by vs => (sizeOf vs, 0, 0)

/-- Writes the selected members of an object of type `ty` after the members `out`. -/
def writeObject (reg : Registry) (s : NodeSet) (ty : Option String)
    (ms : List (String × Value)) (out : List (String × Value)) :
    Projecting (List (String × Value)) := do
  let info ← match ty with
    | some n => lookup (reg.introspect n)
    | none => pure Registry.untyped
  if info.isOpen then writeOpen reg s info ms out
  else
    match ty with
    | none => pure out
    | some n =>
      let fields ← lookup (reg.fields n)
      let out ← writeClosed reg s info ms fields out
      if ms.length > fields.length then
        modify fun e => { e with notes := e.notes.push ⟨.trace, "field_filter::serialize",
          "dropping keys not declared in the schema", [("type_name", quotedField info.typeName)]⟩ }
      pure out
termination_by (sizeOf ms, 1, 0)

/-- Writes the members of an object of an open type, in document order. -/
def writeOpen (reg : Registry) (s : NodeSet) (info : TypeViews) :
    List (String × Value) → List (String × Value) → Projecting (List (String × Value))
  | [], out => pure out
  | (k, v) :: rest, out => do
    let d ← decideHere s k info
    let out ← if d.included then
        pure (setMember out k (← projectValue reg d.children none v))
      else pure out
    writeOpen reg s info rest out
termination_by ms => (sizeOf ms, 0, 0)

/-- Writes the declared fields `fs` of an object with members `ms`, in declared order. -/
def writeClosed (reg : Registry) (s : NodeSet) (info : TypeViews) (ms : List (String × Value)) :
    List FieldDecl → List (String × Value) → Projecting (List (String × Value))
  | [], out => pure out
  | f :: fs, out => do
    let out ← match memberOf ms f.name with
      | none => pure out
      | some ⟨v, _hv⟩ => do
        let d ← decideHere s f.name info
        if !d.included then pure out
        else if f.unwrapped then
          match _hm : v with
          | .object inner => writeObject reg d.children f.valueType inner out
          | _ => pure out
        else pure (setMember out f.name (← projectValue reg d.children f.valueType v))
    writeClosed reg s info ms fs out
termination_by fs => (sizeOf ms, 0, fs.length)
decreasing_by
  all_goals first
    | (apply Prod.Lex.left; subst _hm; simp at _hv ⊢; omega)
    | (apply Prod.Lex.left; omega)
    | (apply Prod.Lex.right; apply Prod.Lex.right; simp)

end

end Projection

/-- The projection of a document under a request; the root type must be registered. -/
def filterValue (reg : Registry) (x : Context) (v : Value) : Projecting Value :=
  if reg.contains x.rootType then Projection.projectValue reg x.nodes (some x.rootType) v
  else throw (.unknownType x.rootType)

end FieldSelection

import FieldSelection.Engine
import FieldSelection.Schema.Basic
/-!
# Decisions along a path

A path is a chain of properties, each of an object of a named type. The decisions along it are
taken step by step, each step under the node set that the step before chose for its value, the
first under a given node set. A type that is not registered ends the chain with its error.

`decideAlong` takes the decisions directly; `Engine.decideAlong` takes them through an engine
and its cache.
-/

namespace FieldSelection

/-- One step of a path: a property of an object of type `typeName`. -/
structure PathStep where
  typeName : String
  property : String
  deriving DecidableEq, Repr

/-- The decisions along a path, starting under `s`, with settings `cfg`. -/
def decideAlong (reg : Registry) (cfg : FilterConfig) :
    NodeSet → List PathStep → List (Except SchemaError Decision)
  | _, [] => []
  | s, st :: rest =>
    match reg.introspect st.typeName with
    | .error e => [.error e]
    | .ok info =>
      let d := decide s st.property info cfg
      .ok d :: decideAlong reg cfg d.children rest

/-- The decisions along a path through engine `e`, starting under `s`. -/
def Engine.decideAlong (e : Engine) (reg : Registry) :
    NodeSet → List PathStep → List (Except SchemaError Decision) × Engine
  | _, [] => ([], e)
  | s, st :: rest =>
    match reg.introspect st.typeName with
    | .error err => ([.error err], e)
    | .ok info =>
      let (d, e) := e.decide s st.property info
      let (ds, e) := e.decideAlong reg d.children rest
      (.ok d :: ds, e)

end FieldSelection

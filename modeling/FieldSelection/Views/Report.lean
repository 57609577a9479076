import FieldSelection.Schema.Basic
/-!
# Reports on the views of a type

A report answers the view queries of one type for given candidates: for each candidate view,
whether it is a view of the type and which candidate properties it holds; which candidate
properties are unwrapped, and which belong to the base view. Candidates are reported in
ascending order without repeats.

The candidate views of a declared type are `base`, `full`, every view its fields name, and any
further names asked about; its candidate properties are its field names and any further names.
-/

namespace FieldSelection

/-- The strings in ascending order, each once. -/
def sortedUnique (xs : List String) : List String :=
  (xs.mergeSort fun a b => a ≤ b).eraseDups

/-- What a report says about one candidate view. -/
structure ViewReport where
  view : String
  isView : Bool
  /-- the candidate properties the view holds -/
  members : List String
  deriving DecidableEq, Repr

/-- The answers to the view queries of one type. -/
structure TypeReport where
  typeName : String
  isOpen : Bool
  views : List ViewReport
  unwrapped : List String
  base : List String
  deriving DecidableEq, Repr

/-- The report on views `info` for the candidate views and properties. -/
def TypeViews.report (info : TypeViews) (views props : List String) : TypeReport :=
  let views := sortedUnique views
  let props := sortedUnique props
  { typeName := info.typeName
    isOpen := info.isOpen
    views := views.map fun v => ⟨v, info.isView v, props.filter (info.viewContains v)⟩
    unwrapped := props.filter info.isUnwrapped
    base := props.filter info.isBase }

/-- The report on declared type `t` under settings `cfg`, with further candidate views and
properties. -/
def TypeDecl.report (t : TypeDecl) (cfg : FilterConfig) (moreViews moreProps : List String) :
    TypeReport :=
  let info := ((Registry.empty cfg).register t).introspect t.name
  let info := match info with
    | .ok i => i
    | .error _ => t.viewsUnder cfg
  info.report ([baseView, fullView] ++ t.fields.flatMap (·.views) ++ moreViews)
    (t.fields.map (·.name) ++ moreProps)

end FieldSelection

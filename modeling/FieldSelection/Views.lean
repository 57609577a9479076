import FieldSelection.Config
/-!
# Type views

Each type of a schema says which of its properties belong to which named view, and which of
its properties are unwrapped: written inline into the parent object. The view `base` holds the
properties shown by default; the view `full` is meant to hold every base property as well.

`TypeViews.build` derives the views from the declared properties: a property declared with
views belongs to each of them; one declared without belongs to `base` when the settings say so.
Then the base properties are added to every other view, or, when the settings do not put base
fields into views, only to `full`. An open type, whose keys are only known per document, has no
views at all: every key counts as a base property.
-/

namespace FieldSelection

/-- The name of the default view. -/
def baseView : String := "base"

/-- The name of the view that holds at least every base property. -/
def fullView : String := "full"

/-- A declared property: its name, its views and whether it is unwrapped. -/
structure PropertyDecl where
  name : String
  views : List String := []
  unwrapped : Bool := false
  deriving DecidableEq, Repr

/-- The views and unwrapped properties of a type. -/
structure TypeViews where
  typeName : String
  /-- each view with its members -/
  views : List (String × List String)
  unwrapped : List String
  isOpen : Bool
  deriving DecidableEq, Repr

namespace TypeViews

/-- The views of an open type. -/
def openType (name : String) : TypeViews := ⟨name, [], [], true⟩

/-- The members of view `v`, if it is a view. -/
def members? (t : TypeViews) (v : String) : Option (List String) := t.views.lookup v

/-- Whether `v` is a view of the type. -/
def isView (t : TypeViews) (v : String) : Bool := (t.members? v).isSome

/-- Whether view `v` holds property `p`; an open type has only its base view, holding
everything. -/
def viewContains (t : TypeViews) (v p : String) : Bool :=
  if t.isOpen then v == baseView else ((t.members? v).getD []).contains p

/-- Whether `p` belongs to the base view. -/
def isBase (t : TypeViews) (p : String) : Bool := t.viewContains baseView p

/-- Whether `p` is unwrapped into its parent. -/
def isUnwrapped (t : TypeViews) (p : String) : Bool := t.unwrapped.contains p

/-- Views after `p` joins view `v`. -/
def addMember (views : List (String × List String)) (v p : String) :
    List (String × List String) :=
  match views with
  | [] => [(v, [p])]
  | (w, ms) :: rest =>
    if w == v then (w, if ms.contains p then ms else ms ++ [p]) :: rest
    else (w, ms) :: addMember rest v p

/-- Views after the base members are added to every other view, or only to `full`. -/
def spreadBase (views : List (String × List String)) (everyView : Bool) :
    List (String × List String) :=
  let base := (views.lookup baseView).getD []
  views.map fun (v, ms) =>
    if v != baseView && (everyView || v == fullView) then
      (v, ms ++ base.filter fun p => !ms.contains p)
    else (v, ms)

/-- The views of a closed type from its declared properties. -/
def build (name : String) (props : List PropertyDecl) (cfg : FilterConfig) : TypeViews :=
  let views := props.foldl (fun acc p =>
    if p.views.isEmpty then
      if cfg.unannotatedInBase then addMember acc baseView p.name else acc
    else p.views.foldl (fun acc v => addMember acc v p.name) acc) []
  ⟨name, spreadBase views cfg.baseInViews, (props.filter (·.unwrapped)).map (·.name), false⟩

end TypeViews

end FieldSelection

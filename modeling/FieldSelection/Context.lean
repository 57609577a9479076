import FieldSelection.Selection.Cached
/-!
# Selection requests

A `Context` is one request: the expression as given, the node set it compiles to, and the type
that the document is read as. No expression at all, or one that trims to `**`, selects
everything and compiles nothing; filtering is then disabled. Any other expression is compiled
through an `ExpressionCache`, so that two requests with the same text share one list.
-/

namespace FieldSelection

/-- Whether two node sets are the same: lists by identity, views by name, the rest by kind. -/
def NodeSet.sameAs (a b : NodeSet) : Bool := a.key == b.key

/-- One selection request. -/
structure Context where
  /-- the expression as given, untrimmed -/
  filter : Option String
  nodes : NodeSet
  rootType : String

namespace Context

/-- The request for expression `filter` on documents of type `root`, compiled through `c`. -/
def build (c : ExpressionCache) (filter : Option String) (root : String) :
    Except SelectionError Context × ExpressionCache :=
  match filter with
  | none => (.ok ⟨none, .anyDeep, root⟩, c)
  | some f =>
    if Text.trim f == "**" then (.ok ⟨some f, .anyDeep, root⟩, c)
    else
      match c.parse f with
      | (.ok l, c) => (.ok ⟨some f, .nodes l, root⟩, c)
      | (.error e, c) => (.error e, c)

/-- Whether the request filters at all: its node set is not the any-deep set. -/
def filteringEnabled (x : Context) : Bool := !x.nodes.isAnyDeep

end Context

end FieldSelection

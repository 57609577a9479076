import FieldSelection.Decision
import FieldSelection.Selection.Render
import FieldSelection.Cache.Lru
/-!
# Showing node sets, decisions and counters

A node set is shown as an object with its `kind` (`nodes`, `any-deep`, `nothing`, `unfiltered`
or `view`) and, for explicit nodes, the node objects, or for a view, its name. A decision is
shown with whether it includes the property, whether a view token included it, and the node set
of its value. Counters are shown as objects of integers.
-/

namespace FieldSelection

/-- A node set as an object. -/
def NodeSet.toJson : NodeSet → Json.Value
  | .nodes l => .object [("kind", .string "nodes"), ("nodes", .array (Node.forestJson l.nodes))]
  | .anyDeep => .object [("kind", .string "any-deep")]
  | .nothing => .object [("kind", .string "nothing")]
  | .unfiltered => .object [("kind", .string "unfiltered")]
  | .view v => .object [("kind", .string "view"), ("view", .string v)]

/-- A decision as an object. -/
def Decision.toJson (d : Decision) : Json.Value :=
  .object [("included", .bool d.included), ("consumed_as_view", .bool d.viaView),
    ("children", d.children.toJson)]

/-- The counters of a cache as an object. -/
def CacheStats.toJson (s : CacheStats) : Json.Value :=
  .object [("hits", .ofInt s.hits), ("misses", .ofInt s.misses),
    ("evictions", .ofInt s.evictions), ("size", .ofInt s.size)]

/-- Named metrics as an object of integers. -/
def metricsJson (ms : List (String × Nat)) : Json.Value :=
  .object (ms.map fun (k, n) => (k, .ofInt n))

end FieldSelection

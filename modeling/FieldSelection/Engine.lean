import FieldSelection.Decision
import FieldSelection.Cache.Lru
import FieldSelection.Trace
/-!
# The selection engine

An `Engine` answers `decide` under its settings and remembers each answer in a least-recently
used cache keyed by the node set's identity, the type's name and the property. A list pooled
from several equally specific matches is a new list each time it is computed, with a serial
number of its own; a remembered answer hands out the same list again.

The any-deep set needs no cache: for a property that is not unwrapped its answer is any-deep
again, and the engine gives it without a lookup, so it counts neither a hit nor a miss.

Each decision the engine computes leaves trace notes: why explicit nodes excluded the property,
when a negated node or a negated view token did, and the decision itself.
-/

namespace FieldSelection

/-- The cache key of a decision: node set identity, type name, property. -/
abbrev DecisionKey := SetKey × String × String

/-- A selection engine: settings, the decision cache, and the number of pooled lists made. -/
structure Engine where
  config : FilterConfig
  cache : Lru DecisionKey Decision
  pooled : Nat := 0
  /-- the notes left so far, oldest first -/
  notes : Array Note := #[]

namespace Engine

/-- A fresh engine with settings `cfg`; its cache is bounded by the decision cache bounds. -/
def new (cfg : FilterConfig) : Engine := ⟨cfg, Lru.empty cfg.decisionCache, 0, #[]⟩

/-- A trace note of the engine. -/
def note (message : String) (fields : List (String × String)) : Note :=
  ⟨.trace, "field_filter::engine", message, fields⟩

/-- The notes of computing the decision `d` for property `p` of a type with views `info` under
`s`. -/
def decisionNotes (s : NodeSet) (p : String) (info : TypeViews) (d : Decision) : List Note :=
  let why := match s with
    | .nodes l =>
      if info.isUnwrapped p then []
      else match verdict l.nodes p info with
        | .negated => [note "excluded by negated node" [("property", quotedField p)]]
        | .viewToken n =>
          if n.marks.negated then
            [note "excluded by negated view" [("property", quotedField p),
              ("view", quotedField n.name)]]
          else []
        | _ => []
    | _ => []
  why ++ [note "filter decision" [("type_name", quotedField info.typeName),
    ("property", quotedField p), ("included", toString d.included),
    ("view", toString d.viaView)]]

/-- The decision for property `p` of a type with views `info` under `s`, from the cache when
it is there. -/
def decide (e : Engine) (s : NodeSet) (p : String) (info : TypeViews) : Decision × Engine :=
  if s.isAnyDeep && !info.isUnwrapped p then (.shown .anyDeep, e)
  else
    let key : DecisionKey := (s.key, info.typeName, p)
    match e.cache.get key with
    | (some d, c) => (d, { e with cache := c })
    | (none, c) =>
      let d := FieldSelection.decide s p info e.config (.pooled e.pooled)
      (d, { e with cache := c.insert key d, pooled := e.pooled + 1,
                   notes := e.notes ++ (decisionNotes s p info d).toArray })

/-- The counters of the decision cache. -/
def stats (e : Engine) : CacheStats := e.cache.stats

@[simp] theorem decide_anyDeep (e : Engine) (p : String) (info : TypeViews)
    (h : info.isUnwrapped p = false) :
    e.decide .anyDeep p info = (.shown .anyDeep, e) := by
  simp [decide, NodeSet.isAnyDeep, h]

end Engine

end FieldSelection

import FieldSelection.Projection
import FieldSelection.Schema.Decode
/-!
# Sessions

A `Session` holds what several requests share: the registry of types, the expression cache and
the engine, so that compiled expressions and decisions are remembered from one request to the
next. `Session.apply` runs one request on a document; `Session.parse` compiles an expression
through the cache; `Session.metrics` reads the counters of both caches.

A request names its root type, or else the schema's root is taken; with neither, the request
fails before anything is compiled.
-/

namespace FieldSelection

/-- The counters of a cache as named metrics, in ascending order of name, each name after
`pre`. -/
def CacheStats.metrics (s : CacheStats) (pre : String) : List (String × Nat) :=
  [(pre ++ "evictionCount", s.evictions), (pre ++ "hitCount", s.hits),
    (pre ++ "missCount", s.misses), (pre ++ "size", s.size)]

/-- Why a request failed. -/
inductive ApplyError where
  /-- the expression does not compile -/
  | selection (e : SelectionError)
  /-- a type is not registered -/
  | schema (e : SchemaError)
  /-- neither the request nor the schema names a root type -/
  | noRoot
  deriving Repr

/-- What a request wrote: the projected document, and whether it filtered at all. -/
structure Applied where
  result : Json.Value
  filteringEnabled : Bool

/-- The registry, expression cache and engine shared by a run of requests. -/
structure Session where
  registry : Registry
  parser : ExpressionCache
  engine : Engine

namespace Session

/-- A fresh session over `reg` with settings `cfg`. -/
def new (reg : Registry) (cfg : FilterConfig) : Session :=
  ⟨reg, ExpressionCache.new cfg.expressionCache, Engine.new cfg⟩

/-- The metrics of the engine and the expression cache, in ascending order of name. -/
def metrics (s : Session) : List (String × Nat) :=
  s.engine.stats.metrics "filter.pathCache." ++ s.parser.stats.metrics "parser.nodeCache."

/-- Compiles an expression through the session's cache. -/
def parse (s : Session) (text : String) : Except SelectionError NodeList × Session :=
  let (r, p) := s.parser.parse text
  (r, { s with parser := p })

/-- Runs a request: expression `filter` (none: select everything), root type `root` (none:
the schema's), on document `doc`. -/
def apply (s : Session) (filter root : Option String) (doc : Json.Value) :
    Except ApplyError Applied × Session :=
  match root <|> s.registry.root with
  | none => (.error .noRoot, s)
  | some r =>
    match Context.build s.parser filter r with
    | (.error e, p) => (.error (.selection e), { s with parser := p })
    | (.ok x, p) =>
      let (res, eng) := ((filterValue s.registry x doc).run).run s.engine
      let s := { s with parser := p, engine := eng }
      match res with
      | .ok v => (.ok ⟨v, x.filteringEnabled⟩, s)
      | .error e => (.error (.schema e), s)

end Session

end FieldSelection

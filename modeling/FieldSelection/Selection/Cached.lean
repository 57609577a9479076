import FieldSelection.Selection.Parser
import FieldSelection.Decision
import FieldSelection.Cache.Lru
import FieldSelection.Trace
/-!
# Compiling expressions with a cache

An `ExpressionCache` compiles selection expressions and remembers each compiled list under its
trimmed text, so that every caller asking for the same text while it stays cached gets the same
list, with the same identity. Each compilation is numbered; the lists of compilation `n` have
identities `compiled n slot`.

Blank text compiles to the one shared empty list without touching the cache. A text that does
not compile counts as a miss and is not remembered. A miss leaves a trace note, and a
compilation that succeeds a debug note with the number of top-level nodes.
-/

namespace FieldSelection

/-- A cache of compiled expressions and the number of compilations made. -/
structure ExpressionCache where
  cache : Lru String NodeList
  runs : Nat := 0
  /-- the notes left so far, oldest first -/
  notes : Array Note := #[]

namespace ExpressionCache

/-- A fresh cache bounded by `spec`. -/
def new (spec : CacheSpec) : ExpressionCache := ⟨Lru.empty spec, 0, #[]⟩

/-- The part name of the notes of the cache. -/
def target : String := "field_filter::filter::parser"

/-- The empty list that every blank expression compiles to. -/
def blankList : NodeList := ⟨.blank, 0, []⟩

/-- The compiled list of an expression, from the cache when it is there. -/
def parse (c : ExpressionCache) (text : String) :
    Except SelectionError NodeList × ExpressionCache :=
  let key := Text.trim text
  if key.isEmpty then (.ok blankList, c)
  else
    match c.cache.get key with
    | (some l, lru) => (.ok l, { c with cache := lru })
    | (none, lru) =>
      let missed := c.notes.push ⟨.trace, target, "filter cache miss", [("filter", quotedField key)]⟩
      match Selection.parse key with
      | .ok nodes =>
        let run := c.runs + 1
        let l : NodeList := ⟨.compiled run 0, run, nodes⟩
        let done := missed.push ⟨.debug, target, "compiled filter expression",
          [("filter", quotedField key), ("top_level", toString nodes.length)]⟩
        (.ok l, ⟨lru.insert key l, run, done⟩)
      | .error e => (.error e, { c with cache := lru, notes := missed })

/-- The counters of the cache. -/
def stats (c : ExpressionCache) : CacheStats := c.cache.stats

end ExpressionCache

end FieldSelection

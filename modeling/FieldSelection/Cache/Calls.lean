import FieldSelection.Cache.Lru
/-!
# Runs of cache calls

A run of calls on a cache of integers under string keys, each call answered with its result and
the state of the cache after it: its size, whether it is empty, and its counters. A call that
computes a value on a miss either stores the value it is given or, when it is told to fail,
answers the failure and stores nothing.
-/

namespace FieldSelection

/-- One call on a cache of integers. -/
inductive CacheCall where
  | get (key : String)
  | insert (key : String) (value : Int)
  /-- the cached value, or `value`, stored on a miss -/
  | getOrInsert (key : String) (value : Int)
  /-- the cached value, or on a miss `value` stored, or a failure when `fail` holds -/
  | tryInsert (key : String) (value : Int) (fail : Bool)
  deriving DecidableEq, Repr

/-- What a call answered. -/
inductive CallResult where
  | nothing
  | value (v : Int)
  | failed
  deriving DecidableEq, Repr

/-- A call's answer and the cache after it. -/
structure CallStep where
  result : CallResult
  size : Nat
  stats : CacheStats
  deriving DecidableEq, Repr

/-- Runs one call. -/
def CacheCall.run (c : Lru String Int) : CacheCall → CallResult × Lru String Int
  | .get k =>
    let (v, c) := c.get k
    (match v with | some v => .value v | none => .nothing, c)
  | .insert k v => (.nothing, c.insert k v)
  | .getOrInsert k v =>
    let (v, c) := c.getOrInsert k fun _ => v
    (.value v, c)
  | .tryInsert k v fail =>
    let (r, c) := c.getOrTryInsert k fun _ => if fail then .error () else .ok v
    (match r with | .ok v => .value v | .error _ => .failed, c)

/-- Runs calls in order, answering each with the cache after it. -/
def runCalls (c : Lru String Int) : List CacheCall → List CallStep × Lru String Int
  | [] => ([], c)
  | call :: rest =>
    let (r, after) := call.run c
    let (steps, last) := runCalls after rest
    (⟨r, after.size, after.stats⟩ :: steps, last)

/-- The debug text of a cache: its spec and size. -/
def Lru.debugText {κ ν : Type} (c : Lru κ ν) : String :=
  "ConcurrentCache \x7b spec: " ++ c.spec.debugText ++ ", size: " ++ toString c.entries.length ++
    " \x7d"

end FieldSelection

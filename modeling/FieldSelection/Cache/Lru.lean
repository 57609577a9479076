import FieldSelection.Cache.Spec
/-!
# Least-recently-used caches

An `Lru` cache holds entries under keys, each with the time of its last access on a logical
clock. A hit and a stored insert each stamp the entry with the next clock value; a miss does
not move the clock. When an insert leaves more entries than `maximumSize`, the entries with the
oldest stamps go, each counted as an eviction; a cache of size zero stores nothing.

Lifetimes are measured on the wall clock, which the cache reads when a lookup finds an entry
and when an insert stores one: `time n` is the instant of its `n`-th reading, in nanoseconds
since the cache was made. Each entry remembers when it was stored and when it was last read. At
a lookup it has run out when more than the write lifetime has passed since it was stored, or
more than the access lifetime since it was last read (`CacheSpec.expired`); it is then removed,
counted as an eviction and a miss. By default one reading follows the one before by a
nanosecond, so a lifetime of zero has run out at the next lookup, and a lifetime of a second or
more only after a billion readings.

The counters of hits, misses and evictions, with the number of entries, are the cache's
`CacheStats`.
-/

namespace FieldSelection

/-- Counters of a cache. -/
structure CacheStats where
  hits : Nat := 0
  misses : Nat := 0
  evictions : Nat := 0
  size : Nat := 0
  deriving DecidableEq, Repr

/-- An entry of a cache: key, value, logical stamp of the last access, and the instants it was
stored and last read or stored. -/
structure LruEntry (κ ν : Type) where
  key : κ
  value : ν
  stamp : Nat
  written : Nat
  touched : Nat

/-- Nanoseconds in a second. -/
def nanosPerSecond : Nat := 1000000000

/-- Whether an entry stored at `written` and last read or stored at `touched` has run out at
`now`: more than the write lifetime has passed since it was stored, or more than the access
lifetime since it was last read. Lifetimes are whole seconds, instants nanoseconds. -/
def CacheSpec.expired (spec : CacheSpec) (now written touched : Nat) : Bool :=
  (match spec.expireAfterWrite with
    | some ttl => decide (ttl * nanosPerSecond < now - written)
    | none => false) ||
  (match spec.expireAfterAccess with
    | some ttl => decide (ttl * nanosPerSecond < now - touched)
    | none => false)

/-- A least-recently-used cache with counters. -/
structure Lru (κ ν : Type) where
  spec : CacheSpec
  entries : List (LruEntry κ ν) := []
  clock : Nat := 0
  hits : Nat := 0
  misses : Nat := 0
  evictions : Nat := 0
  /-- the wall clock: the instant of each of its readings, in nanoseconds since the cache was
  made -/
  time : Nat → Nat := fun n => n
  /-- the number of readings of the wall clock so far -/
  readings : Nat := 0

namespace Lru

variable {κ ν : Type} [BEq κ]

/-- An empty cache bounded by `spec`. -/
def empty (spec : CacheSpec) : Lru κ ν := { spec := spec }

/-- An empty cache bounded by `spec` that reads the wall clock `time`. -/
def withClock (spec : CacheSpec) (time : Nat → Nat) : Lru κ ν := { spec := spec, time := time }

/-- The instant of the next reading of the wall clock. -/
def now (c : Lru κ ν) : Nat := c.time c.readings

/-- The number of entries. -/
def size (c : Lru κ ν) : Nat := c.entries.length

/-- The counters of the cache. -/
def stats (c : Lru κ ν) : CacheStats := ⟨c.hits, c.misses, c.evictions, c.size⟩

/-- Looks up `k`, reading the wall clock if an entry is found: a hit stamps the entry and
notes the instant it was read; a miss, or an entry that has run out and is removed, is
counted. -/
def get (c : Lru κ ν) (k : κ) : Option ν × Lru κ ν :=
  match c.entries.find? (·.key == k) with
  | some e =>
    if c.spec.expired c.now e.written e.touched then
      (none, { c with entries := c.entries.filter fun x => !(x.key == k), evictions := c.evictions + 1,
                      misses := c.misses + 1, readings := c.readings + 1 })
    else
      let entries := c.entries.map fun x =>
        if x.key == k then { x with stamp := c.clock, touched := c.now } else x
      (some e.value, { c with entries := entries, clock := c.clock + 1, hits := c.hits + 1,
                              readings := c.readings + 1 })
  | none => (none, { c with misses := c.misses + 1 })

/-- The entry with the oldest stamp, if any. -/
def oldest? (es : List (LruEntry κ ν)) : Option (LruEntry κ ν) :=
  es.foldl (fun best e => match best with
    | some b => if e.stamp < b.stamp then some e else some b
    | none => some e) none

/-- Evicts the oldest entries while there are more than `max`; at most `fuel` of them. -/
def shrink (max : Nat) : Nat → Lru κ ν → Lru κ ν
  | 0, c => c
  | fuel + 1, c =>
    if c.entries.length ≤ max then c
    else
      match oldest? c.entries with
      | some o =>
        shrink max fuel { c with entries := c.entries.filter (·.stamp != o.stamp),
                                 evictions := c.evictions + 1 }
      | none => c

/-- Stores `v` under `k`, stamped with the next clock value and the instant of a reading of the
wall clock, then evicts down to the size bound; a cache of size zero stores nothing. -/
def insert (c : Lru κ ν) (k : κ) (v : ν) : Lru κ ν :=
  if c.spec.maximumSize == some 0 then c
  else
    let entry : LruEntry κ ν := ⟨k, v, c.clock, c.now, c.now⟩
    let entries := if c.entries.any (·.key == k) then
        c.entries.map fun x => if x.key == k then entry else x
      else c.entries ++ [entry]
    let c := { c with entries := entries, clock := c.clock + 1, readings := c.readings + 1 }
    match c.spec.maximumSize with
    | some max => shrink max c.entries.length c
    | none => c

/-- The cached value of `k`, or the value `compute` gives, which is then stored; a failure of
`compute` is answered and nothing is stored. -/
def getOrTryInsert {ε : Type} (c : Lru κ ν) (k : κ) (compute : Unit → Except ε ν) :
    Except ε ν × Lru κ ν :=
  match c.get k with
  | (some v, c) => (.ok v, c)
  | (none, c) =>
    match compute () with
    | .ok v => (.ok v, c.insert k v)
    | .error e => (.error e, c)

/-- The cached value of `k`, or the value `compute` gives, which is then stored. -/
def getOrInsert (c : Lru κ ν) (k : κ) (compute : Unit → ν) : ν × Lru κ ν :=
  match c.get k with
  | (some v, c) => (v, c)
  | (none, c) => let v := compute (); (v, c.insert k v)

end Lru

end FieldSelection

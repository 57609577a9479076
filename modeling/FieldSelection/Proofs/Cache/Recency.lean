import FieldSelection.Cache.Calls
import Mathlib.Data.List.Induction
import Mathlib.Data.List.Nodup
/-!
# The cache is a least-recently-used list

The reference behaviour of a cache of bounded size is the list of its items from the most
recently used to the least (`RecencyList`), each item with the instants it was stored and last
read. A hit moves the item to the front; an insert puts a new item at the front, in place of any
item under its key, and drops items from the back while there are more than the bound; a lookup
of an item that the expiry test reports run out removes it, counted as an eviction and a miss; a
miss counts a miss and nothing else. The list reads the same wall clock as the cache, at a
lookup that finds its key and at an insert that stores.

The cache keeps no such list. It keeps its entries in the order their keys came, each stamped
with the clock value of its last access, and evicts by searching for the oldest stamp. Main
statement, `runCalls_recency`: from an empty cache, whatever its wall clock, every run of calls
answers each call as the reference does under the cache's own expiry test, with the same size
and counters after it, and ends holding the reference's items; so the cache never holds more
entries than its bound, and its size and its evictions add up to the inserts that stored a key
it did not hold.

The two are related by `Lru.Recency`: listed from the newest stamp to the oldest, the cache's
entries are the reference's list, every stamp lies before the clock, the wall clock and its
readings are the same, and the counters agree. Each operation keeps the relation
(`Lru.Recency.get`, `Lru.Recency.insert`). Eviction is the one place where the cache searches:
since stamps strictly decrease along the list, the oldest stamp is the last entry's, so each
eviction drops the list's last entry (`Lru.shrink_take`), never the one just inserted, and
counts it once.
-/

namespace FieldSelection

/-- An item of the reference list: key, value, and the instants it was stored and last read or
stored. -/
structure RecencyItem (κ ν : Type) where
  key : κ
  value : ν
  written : Nat
  touched : Nat

/-- A least-recently-used cache as the list of its items, the most recently used first, with
its size bound, its expiry test, the wall clock it reads and its counters; `added` counts the
inserts that stored a key the list did not hold. -/
structure RecencyList (κ ν : Type) where
  bound : Option Nat
  /-- whether an item stored at `written` and last read at `touched` has run out at `now`, as
  `expired now written touched` -/
  expired : Nat → Nat → Nat → Bool
  /-- the instant of each reading of the wall clock -/
  time : Nat → Nat
  readings : Nat := 0
  items : List (RecencyItem κ ν) := []
  hits : Nat := 0
  misses : Nat := 0
  evictions : Nat := 0
  added : Nat := 0

namespace RecencyList

variable {κ ν : Type} [BEq κ]

/-- An empty list with its bound, expiry test and wall clock. -/
def empty (bound : Option Nat) (expired : Nat → Nat → Nat → Bool) (time : Nat → Nat) :
    RecencyList κ ν :=
  { bound := bound, expired := expired, time := time }

/-- The instant of the next reading of the wall clock. -/
def now (r : RecencyList κ ν) : Nat := r.time r.readings

/-- The items under keys other than `k`. -/
def without (items : List (RecencyItem κ ν)) (k : κ) : List (RecencyItem κ ν) :=
  items.filter fun m => !(m.key == k)

/-- Looks up `k`, reading the wall clock if an item is found: a hit moves the item to the
front, noting the instant it was read, and an item that has run out is removed, counted as an
eviction and a miss. -/
def get (r : RecencyList κ ν) (k : κ) : Option ν × RecencyList κ ν :=
  match r.items.find? (·.key == k) with
  | some m =>
    if r.expired r.now m.written m.touched then
      (none, { r with items := without r.items k, evictions := r.evictions + 1,
                      misses := r.misses + 1, readings := r.readings + 1 })
    else (some m.value, { r with items := ⟨k, m.value, m.written, r.now⟩ :: without r.items k,
                                  hits := r.hits + 1, readings := r.readings + 1 })
  | none => (none, { r with misses := r.misses + 1 })

/-- Drops items from the back while there are more than the bound, counting each as an
eviction. -/
def trim (r : RecencyList κ ν) : RecencyList κ ν :=
  match r.bound with
  | some max =>
    { r with items := r.items.take max, evictions := r.evictions + (r.items.length - max) }
  | none => r

/-- Puts a new item under `k` at the front, stored at a reading of the wall clock, in place of
any item under `k`, then trims; a bound of zero stores nothing. -/
def insert (r : RecencyList κ ν) (k : κ) (v : ν) : RecencyList κ ν :=
  if r.bound = some 0 then r
  else
    trim { r with items := ⟨k, v, r.now, r.now⟩ :: without r.items k,
                  added := if r.items.any (·.key == k) then r.added else r.added + 1,
                  readings := r.readings + 1 }

/-- The value under `k`, or the value `compute` gives, which is then inserted. -/
def getOrInsert (r : RecencyList κ ν) (k : κ) (compute : Unit → ν) : ν × RecencyList κ ν :=
  match r.get k with
  | (some v, r) => (v, r)
  | (none, r) => let v := compute (); (v, r.insert k v)

/-- The value under `k`, or the value `compute` gives, which is then inserted; a failure of
`compute` is answered and nothing is inserted. -/
def getOrTryInsert {ε : Type} (r : RecencyList κ ν) (k : κ) (compute : Unit → Except ε ν) :
    Except ε ν × RecencyList κ ν :=
  match r.get k with
  | (some v, r) => (.ok v, r)
  | (none, r) =>
    match compute () with
    | .ok v => (.ok v, r.insert k v)
    | .error e => (.error e, r)

/-- The counters of the list. -/
def stats (r : RecencyList κ ν) : CacheStats := ⟨r.hits, r.misses, r.evictions, r.items.length⟩

/-! ## What every list of a run satisfies -/

/-- One item per key, no more items than the bound, and every item that was added is held or
was evicted. -/
structure Valid (r : RecencyList κ ν) : Prop where
  distinct : (r.items.map RecencyItem.key).Nodup
  bounded : ∀ max, r.bound = some max → r.items.length ≤ max
  counted : r.items.length + r.evictions = r.added

omit [BEq κ] in
theorem valid_empty (bound : Option Nat) (expired : Nat → Nat → Nat → Bool) (time : Nat → Nat) :
    (empty bound expired time : RecencyList κ ν).Valid :=
  ⟨List.nodup_nil, fun _ _ => Nat.zero_le _, rfl⟩

omit [BEq κ] in
/-- Trimming bounds a list whose items have distinct keys and are counted. -/
theorem valid_trim {r : RecencyList κ ν} (distinct : (r.items.map RecencyItem.key).Nodup)
    (counted : r.items.length + r.evictions = r.added) : r.trim.Valid := by
  unfold trim
  split
  · rename_i max bounded
    refine ⟨((List.take_sublist _ _).map RecencyItem.key).nodup distinct, fun max' same => ?_, ?_⟩
    · obtain rfl := Option.some.inj (bounded.symm.trans same)
      exact List.length_take_le _ _
    · show (r.items.take max).length + (r.evictions + (r.items.length - max)) = r.added
      rw [List.length_take]
      omega
  · rename_i unbounded
    refine ⟨distinct, fun max bounded => ?_, counted⟩
    rw [unbounded] at bounded
    cases bounded

theorem keys_without (items : List (RecencyItem κ ν)) (k : κ) :
    (without items k).map RecencyItem.key =
      (items.map RecencyItem.key).filter fun j => !(j == k) := by
  rw [without, List.filter_map]
  rfl

variable [LawfulBEq κ]

theorem nodup_cons_without {items : List (RecencyItem κ ν)}
    (distinct : (items.map RecencyItem.key).Nodup) (m : RecencyItem κ ν) :
    ((m :: without items m.key).map RecencyItem.key).Nodup := by
  rw [List.map_cons, List.nodup_cons, keys_without]
  exact ⟨by simp, distinct.filter _⟩

/-- Without `k`, the one item under `k`, if any, is gone and nothing else. -/
theorem length_without {items : List (RecencyItem κ ν)}
    (distinct : (items.map RecencyItem.key).Nodup) (k : κ) :
    (without items k).length + (if items.any (·.key == k) then 1 else 0) = items.length := by
  induction items with
  | nil => rfl
  | cons m rest ih =>
    rw [List.map_cons, List.nodup_cons] at distinct
    by_cases here : m.key = k
    · have notUnder : ∀ x ∈ rest, x.key ≠ k := fun x mem same =>
        distinct.1 (by rw [here, ← same]; exact List.mem_map_of_mem mem)
      have kept : without rest k = rest :=
        List.filter_eq_self.2 fun x mem => by simpa using notUnder x mem
      have dropped : without (m :: rest) k = rest := by
        rw [← kept]
        simp [without, here]
      have held : (m :: rest).any (·.key == k) = true := by simp [here]
      rw [dropped, held, if_pos rfl, List.length_cons]
    · have other : (m.key == k) = false := by simpa using here
      have step := ih distinct.2
      simp only [without, List.filter_cons, other, Bool.not_false, if_true,
        List.length_cons, List.any_cons, Bool.false_or] at step ⊢
      omega

/-- Looking a key up keeps the list valid: an entry that has run out is dropped and counted as
an eviction, and a hit moves its entry to the front. -/
theorem valid_get {r : RecencyList κ ν} (valid : r.Valid) (k : κ) : (r.get k).2.Valid := by
  have lengthWithout := length_without valid.distinct k
  have counted := valid.counted
  unfold get
  split
  · rename_i m found
    have matched := List.find?_some found
    have held : r.items.any (·.key == k) = true :=
      List.any_eq_true.2 ⟨m, List.mem_of_find?_eq_some found, matched⟩
    rw [held, if_pos rfl] at lengthWithout
    split
    · refine ⟨(keys_without r.items k).symm ▸ valid.distinct.filter _, fun max bounded => ?_, ?_⟩
      · have := valid.bounded max bounded
        show (without r.items k).length ≤ max
        omega
      · show (without r.items k).length + (r.evictions + 1) = r.added
        omega
    · refine ⟨nodup_cons_without valid.distinct ⟨k, m.value, m.written, r.now⟩,
        fun max bounded => ?_, ?_⟩
      · have := valid.bounded max bounded
        show (without r.items k).length + 1 ≤ max
        omega
      · show (without r.items k).length + 1 + r.evictions = r.added
        omega
  · exact ⟨valid.distinct, valid.bounded, valid.counted⟩

/-- Storing a pair keeps the list valid: a key already held is not counted again, a new one is,
and the trim to the bound counts each entry it drops as an eviction. -/
theorem valid_insert {r : RecencyList κ ν} (valid : r.Valid) (k : κ) (v : ν) :
    (r.insert k v).Valid := by
  unfold insert
  split
  · exact valid
  · refine valid_trim (nodup_cons_without valid.distinct ⟨k, v, r.now, r.now⟩) ?_
    have lengthWithout := length_without valid.distinct k
    have counted := valid.counted
    show (without r.items k).length + 1 + r.evictions =
      if r.items.any (·.key == k) then r.added else r.added + 1
    by_cases held : r.items.any (·.key == k) = true
    · rw [if_pos held] at lengthWithout ⊢
      omega
    · rw [if_neg held] at lengthWithout ⊢
      omega

theorem valid_getOrInsert {r : RecencyList κ ν} (valid : r.Valid) (k : κ)
    (compute : Unit → ν) : (r.getOrInsert k compute).2.Valid := by
  have looked := valid_get valid k
  unfold getOrInsert
  generalize r.get k = got at looked ⊢
  obtain ⟨answer, r'⟩ := got
  cases answer with
  | none => exact valid_insert looked k _
  | some v => exact looked

theorem valid_getOrTryInsert {ε : Type} {r : RecencyList κ ν} (valid : r.Valid) (k : κ)
    (compute : Unit → Except ε ν) : (r.getOrTryInsert k compute).2.Valid := by
  have looked := valid_get valid k
  unfold getOrTryInsert
  generalize r.get k = got at looked ⊢
  obtain ⟨answer, r'⟩ := got
  cases answer with
  | none =>
    dsimp only
    cases compute () with
    | ok v => exact valid_insert looked k v
    | error e => exact looked
  | some v => exact looked

end RecencyList

/-! ## The cache's entries, newest first -/

/-- The item the reference list holds for an entry. -/
def LruEntry.item {κ ν : Type} (e : LruEntry κ ν) : RecencyItem κ ν :=
  ⟨e.key, e.value, e.written, e.touched⟩

namespace Lru

variable {κ ν : Type} [BEq κ]

/-- `stamped` lists the entries of `c` from the newest stamp to the oldest, every stamp before
the clock. -/
structure NewestFirst (c : Lru κ ν) (stamped : List (LruEntry κ ν)) : Prop where
  perm : stamped.Perm c.entries
  descending : stamped.Pairwise fun a b => b.stamp < a.stamp
  past : ∀ e ∈ stamped, e.stamp < c.clock

/-- The cache behaves as the list `r`: listed newest first, its entries are `r`'s items; its
bound and expiry test are `r`'s, it reads the same wall clock as often, and its counters are
`r`'s. -/
structure Recency (c : Lru κ ν) (r : RecencyList κ ν) : Prop where
  bound : c.spec.maximumSize = r.bound
  expired : r.expired = c.spec.expired
  time : c.time = r.time
  readings : c.readings = r.readings
  hits : c.hits = r.hits
  misses : c.misses = r.misses
  evictions : c.evictions = r.evictions
  listed : ∃ stamped, c.NewestFirst stamped ∧ stamped.map LruEntry.item = r.items

omit [BEq κ] in
theorem recency_withClock (spec : CacheSpec) (time : Nat → Nat) :
    (Lru.withClock spec time : Lru κ ν).Recency
      (RecencyList.empty spec.maximumSize spec.expired time) :=
  ⟨rfl, rfl, rfl, rfl, rfl, rfl, rfl, [],
    ⟨List.Perm.nil, List.Pairwise.nil, fun _ absent => by cases absent⟩, rfl⟩

omit [BEq κ] in
theorem Recency.now {c : Lru κ ν} {r : RecencyList κ ν} (rel : c.Recency r) : c.now = r.now := by
  rw [Lru.now, RecencyList.now, rel.time, rel.readings]

omit [BEq κ] in
theorem keys_item (l : List (LruEntry κ ν)) :
    (l.map LruEntry.item).map RecencyItem.key = l.map LruEntry.key := by
  rw [List.map_map]
  rfl

omit [BEq κ] in
/-- The size of a cache is the length of any listing of its entries. -/
theorem NewestFirst.size {c : Lru κ ν} {stamped : List (LruEntry κ ν)}
    (listed : c.NewestFirst stamped) : c.size = stamped.length :=
  listed.perm.length_eq.symm

theorem item_filter (l : List (LruEntry κ ν)) (k : κ) :
    (l.filter fun x => !(x.key == k)).map LruEntry.item =
      RecencyList.without (l.map LruEntry.item) k := by
  rw [RecencyList.without, List.filter_map]
  rfl

variable [LawfulBEq κ]

/-- Where keys are distinct, permuted lists find the same entry under a key. -/
theorem find?_perm {l l' : List (LruEntry κ ν)} (perm : l.Perm l')
    (distinct : (l.map LruEntry.key).Nodup) (k : κ) :
    l.find? (·.key == k) = l'.find? (·.key == k) := by
  cases found : l.find? (·.key == k) with
  | none =>
    rw [List.find?_eq_none] at found
    refine (List.find?_eq_none.2 fun x mem => found x (perm.mem_iff.2 mem)).symm
  | some e =>
    have keyed : e.key = k := by simpa using List.find?_some found
    have mem : e ∈ l := List.mem_of_find?_eq_some found
    cases found' : l'.find? (·.key == k) with
    | none =>
      rw [List.find?_eq_none] at found'
      exact absurd (by simpa using keyed) (found' e (perm.mem_iff.1 mem))
    | some e' =>
      have keyed' : e'.key = k := by simpa using List.find?_some found'
      have mem' : e' ∈ l := perm.mem_iff.2 (List.mem_of_find?_eq_some found')
      rw [List.inj_on_of_nodup_map distinct mem mem' (keyed.trans keyed'.symm)]

/-- Where keys are distinct, an entry of a list heads a permutation of it, followed by the
entries under other keys. -/
theorem perm_cons_filter {l : List (LruEntry κ ν)} (distinct : (l.map LruEntry.key).Nodup)
    {e : LruEntry κ ν} (mem : e ∈ l) : l.Perm (e :: l.filter fun x => !(x.key == e.key)) := by
  induction l with
  | nil => cases mem
  | cons x rest ih =>
    rw [List.map_cons, List.nodup_cons] at distinct
    rcases List.mem_cons.1 mem with rfl | later
    · have kept : (rest.filter fun y => !(y.key == e.key)) = rest :=
        List.filter_eq_self.2 fun y inRest => by
          simpa using fun same => distinct.1 (by rw [← same]; exact List.mem_map_of_mem inRest)
      rw [List.filter_cons_of_neg (by simp), kept]
    · have other : x.key ≠ e.key := fun same =>
        distinct.1 (by rw [same]; exact List.mem_map_of_mem later)
      rw [List.filter_cons_of_pos (by simpa using other)]
      exact ((ih distinct.2 later).cons x).trans (List.Perm.swap e x _)

/-- Updating the one entry under a key moves it to the head of a permutation. -/
theorem perm_map_update {l : List (LruEntry κ ν)} (distinct : (l.map LruEntry.key).Nodup)
    {e : LruEntry κ ν} (mem : e ∈ l) {f : LruEntry κ ν → LruEntry κ ν}
    (others : ∀ x, x.key ≠ e.key → f x = x) :
    (l.map f).Perm (f e :: l.filter fun x => !(x.key == e.key)) := by
  have moved := (perm_cons_filter distinct mem).map f
  rw [List.map_cons] at moved
  refine moved.trans (List.Perm.cons _ (List.Perm.of_eq ?_))
  rw [List.map_congr_left (g := id) fun x kept => others x (by simpa using (List.mem_filter.1 kept).2),
    List.map_id]

/-! ## Eviction drops the last entry of the listing -/

section Eviction

omit [BEq κ] [LawfulBEq κ]

theorem oldest?_append_of_none {es : List (LruEntry κ ν)} (empty : oldest? es = none)
    (x : LruEntry κ ν) : oldest? (es ++ [x]) = some x := by
  unfold oldest? at empty ⊢
  rw [List.foldl_concat, empty]

theorem oldest?_append_of_some {es : List (LruEntry κ ν)} {b : LruEntry κ ν}
    (found : oldest? es = some b) (x : LruEntry κ ν) :
    oldest? (es ++ [x]) = if x.stamp < b.stamp then some x else some b := by
  unfold oldest? at found ⊢
  rw [List.foldl_concat, found]

theorem eq_nil_of_oldest? {es : List (LruEntry κ ν)} (empty : oldest? es = none) : es = [] := by
  induction es using List.reverseRecOn with
  | nil => rfl
  | append_singleton es x _ =>
    cases before : oldest? es with
    | none => rw [oldest?_append_of_none before] at empty; cases empty
    | some b =>
      rw [oldest?_append_of_some before] at empty
      split at empty <;> cases empty

/-- The entry `oldest?` finds is an entry with the least stamp. -/
theorem oldest?_min {es : List (LruEntry κ ν)} {o : LruEntry κ ν} (found : oldest? es = some o) :
    o ∈ es ∧ ∀ x ∈ es, o.stamp ≤ x.stamp := by
  induction es using List.reverseRecOn generalizing o with
  | nil => cases found
  | append_singleton es x ih =>
    cases before : oldest? es with
    | none =>
      rw [oldest?_append_of_none before] at found
      cases found
      rw [eq_nil_of_oldest? before]
      simp
    | some b =>
      obtain ⟨mem, least⟩ := ih before
      rw [oldest?_append_of_some before] at found
      split at found
      · rename_i newer
        cases found
        refine ⟨by simp, fun y present => ?_⟩
        rcases List.mem_append.1 present with old | new
        · have := least y old
          omega
        · obtain rfl := List.mem_singleton.1 new
          exact Nat.le_refl _
      · rename_i older
        cases found
        refine ⟨List.mem_append_left _ mem, fun y present => ?_⟩
        rcases List.mem_append.1 present with old | new
        · exact least y old
        · rw [List.mem_singleton.1 new]
          omega

theorem oldest?_isSome {es : List (LruEntry κ ν)} (nonempty : es ≠ []) :
    ∃ o, oldest? es = some o := by
  cases found : oldest? es with
  | none => exact absurd (eq_nil_of_oldest? found) nonempty
  | some o => exact ⟨o, rfl⟩

/-- Evicting down to `max` keeps the first `max` entries of the newest-first listing and
counts the others as evictions: each round the oldest stamp is the listing's last entry's, and
the entries of that stamp are that one entry. -/
theorem shrink_take (max : Nat) :
    ∀ (fuel : Nat) (c : Lru κ ν) (stamped : List (LruEntry κ ν)), c.NewestFirst stamped →
      stamped.length - max ≤ fuel →
      ∃ es, shrink max fuel c =
          { c with entries := es, evictions := c.evictions + (stamped.length - max) } ∧
        (stamped.take max).Perm es
  | 0, c, stamped, listed, enough => by
    refine ⟨c.entries, ?_, ?_⟩
    · rw [shrink, show stamped.length - max = 0 by omega]
      rfl
    · rw [List.take_of_length_le (by omega)]
      exact listed.perm
  | fuel + 1, c, stamped, listed, enough => by
    have lengths := listed.perm.length_eq
    rw [shrink]
    split
    · rename_i fits
      refine ⟨c.entries, ?_, ?_⟩
      · rw [show stamped.length - max = 0 by omega]
        rfl
      · rw [List.take_of_length_le (by omega)]
        exact listed.perm
    · rename_i tooMany
      obtain ⟨front, last, rfl⟩ : ∃ front last, stamped = front ++ [last] := by
        rcases List.eq_nil_or_concat stamped with empty | ⟨front, last, split⟩
        · rw [empty, List.length_nil] at lengths
          omega
        · exact ⟨front, last, by rw [split, List.concat_eq_append]⟩
      have lastIn : last ∈ c.entries := listed.perm.mem_iff.1 (by simp)
      obtain ⟨o, found⟩ := oldest?_isSome (List.ne_nil_of_mem lastIn)
      obtain ⟨oIn, least⟩ := oldest?_min found
      obtain ⟨frontOrdered, -, beforeLast⟩ := List.pairwise_append.1 listed.descending
      have sameStamp : o.stamp = last.stamp := by
        have atMost := least last lastIn
        rcases List.mem_append.1 (listed.perm.mem_iff.2 oIn) with early | isLast
        · have := beforeLast o early last (List.mem_singleton_self _)
          omega
        · rw [List.mem_singleton.1 isLast]
      have dropped : (c.entries.filter fun x => x.stamp != o.stamp).Perm front := by
        rw [sameStamp]
        have moved := listed.perm.symm.filter fun x => x.stamp != last.stamp
        have kept : (front.filter fun x => x.stamp != last.stamp) = front :=
          List.filter_eq_self.2 fun a early => by
            have := beforeLast a early last (List.mem_singleton_self _)
            simp only [bne_iff_ne, ne_eq]
            omega
        rwa [List.filter_append, kept, List.filter_singleton, bne_self_eq_false, cond_false,
          List.append_nil] at moved
      obtain ⟨es, shrunk, perm⟩ := shrink_take max fuel
        { c with entries := c.entries.filter fun x => x.stamp != o.stamp,
                 evictions := c.evictions + 1 } front
        ⟨dropped.symm, frontOrdered, fun e early => listed.past e (List.mem_append_left _ early)⟩
        (by simp only [List.length_append, List.length_singleton] at enough; omega)
      refine ⟨es, ?_, ?_⟩
      · rw [found]
        dsimp only
        rw [shrunk]
        congr 1
        simp only [List.length_append, List.length_singleton] at lengths ⊢
        omega
      · simp only [List.length_append, List.length_singleton] at lengths
        rw [List.take_append_of_le_length (by omega)]
        exact perm

end Eviction

/-! ## Each operation keeps the relation -/

section Steps

variable {c : Lru κ ν} {r : RecencyList κ ν}

omit [LawfulBEq κ] in
/-- An entry stamped with the clock, at the head of the listing in place of the entry under
its key, keeps the listing newest first once the clock moves on. -/
theorem NewestFirst.touch {stamped : List (LruEntry κ ν)} (listed : c.NewestFirst stamped)
    (e : LruEntry κ ν) (current : e.stamp = c.clock) {c' : Lru κ ν}
    (perm : (e :: stamped.filter fun y => !(y.key == e.key)).Perm c'.entries)
    (ticked : c'.clock = c.clock + 1) :
    c'.NewestFirst (e :: stamped.filter fun y => !(y.key == e.key)) := by
  refine ⟨perm, List.pairwise_cons.2 ⟨fun y kept => ?_, listed.descending.filter _⟩, ?_⟩
  · rw [current]
    exact listed.past y (List.mem_filter.1 kept).1
  · intro y mem
    rw [ticked]
    rcases List.mem_cons.1 mem with rfl | kept
    · rw [current]
      exact Nat.lt_succ_self _
    · exact Nat.lt_succ_of_lt (listed.past y (List.mem_filter.1 kept).1)

omit [LawfulBEq κ] in
theorem item_touch (stamped : List (LruEntry κ ν)) (e : LruEntry κ ν) :
    (e :: stamped.filter fun y => !(y.key == e.key)).map LruEntry.item =
      e.item :: RecencyList.without (stamped.map LruEntry.item) e.key := by
  rw [List.map_cons, item_filter]

omit [BEq κ] [LawfulBEq κ] in
/-- Applying the size bound is trimming the list. -/
theorem Recency.trim (rel : c.Recency r) :
    (match c.spec.maximumSize with
      | some max => shrink max c.entries.length c
      | none => c).Recency r.trim := by
  obtain ⟨stamped, listed, items⟩ := rel.listed
  have lengths : stamped.length = r.items.length := by rw [← items, List.length_map]
  unfold RecencyList.trim
  cases bounded : c.spec.maximumSize with
  | none =>
    rw [← rel.bound, bounded]
    exact rel
  | some max =>
    rw [← rel.bound, bounded]
    dsimp only
    obtain ⟨es, shrunk, perm⟩ :=
      shrink_take max c.entries.length c stamped listed (by have := listed.perm.length_eq; omega)
    rw [shrunk]
    refine ⟨bounded, rel.expired, rel.time, rel.readings, rel.hits, rel.misses, ?_,
      stamped.take max, ⟨perm, listed.descending.sublist (List.take_sublist _ _),
        fun e mem => listed.past e (List.mem_of_mem_take mem)⟩, ?_⟩
    · show c.evictions + (stamped.length - max) = r.evictions + (r.items.length - max)
      rw [rel.evictions, lengths]
    · show (stamped.take max).map LruEntry.item = r.items.take max
      rw [List.map_take, items]

/-- A lookup answers as the list does and keeps the relation: both read the same instant and
put the same entry to the same expiry test. -/
theorem Recency.get (rel : c.Recency r) (valid : r.Valid) (k : κ) :
    (c.get k).1 = (r.get k).1 ∧ (c.get k).2.Recency (r.get k).2 := by
  obtain ⟨stamped, listed, items⟩ := rel.listed
  have distinct : (stamped.map LruEntry.key).Nodup := by
    rw [← keys_item, items]
    exact valid.distinct
  have lookup : r.items.find? (·.key == k) = (c.entries.find? (·.key == k)).map LruEntry.item := by
    rw [← items, List.find?_map, ← find?_perm listed.perm distinct]
    rfl
  unfold Lru.get RecencyList.get
  rw [lookup]
  cases found : c.entries.find? (·.key == k) with
  | none =>
    dsimp only [Option.map_none]
    exact ⟨rfl, rel.bound, rel.expired, rel.time, rel.readings, rel.hits,
      congrArg (· + 1) rel.misses, rel.evictions, stamped,
      ⟨listed.perm, listed.descending, listed.past⟩, items⟩
  | some e =>
    have keyed : e.key = k := by simpa using List.find?_some found
    have mem : e ∈ stamped := listed.perm.mem_iff.2 (List.mem_of_find?_eq_some found)
    subst keyed
    dsimp only [Option.map_some, LruEntry.item]
    rw [← rel.now, rel.expired]
    cases expired : c.spec.expired c.now e.written e.touched with
    | true =>
      rw [if_pos rfl, if_pos rfl]
      refine ⟨rfl, rel.bound, rfl, rel.time, congrArg (· + 1) rel.readings, rel.hits,
        congrArg (· + 1) rel.misses, congrArg (· + 1) rel.evictions,
        stamped.filter (fun x => !(x.key == e.key)),
        ⟨listed.perm.filter _, listed.descending.filter _,
          fun x kept => listed.past x (List.mem_filter.1 kept).1⟩, ?_⟩
      rw [item_filter, items]
    | false =>
      rw [if_neg Bool.false_ne_true, if_neg Bool.false_ne_true]
      have moved := perm_map_update distinct mem
        (f := fun x => if x.key == e.key then { x with stamp := c.clock, touched := c.now } else x)
        fun x other => by simp [other]
      simp only [beq_self_eq_true, if_true] at moved
      refine ⟨rfl, rel.bound, rfl, rel.time, congrArg (· + 1) rel.readings,
        congrArg (· + 1) rel.hits, rel.misses, rel.evictions, _,
        listed.touch { e with stamp := c.clock, touched := c.now } rfl
          (moved.symm.trans (listed.perm.map _)) rfl, ?_⟩
      rw [item_touch, items]
      rfl

/-- An insert puts the entry where the list does, stored at the same instant, and keeps the
relation. -/
theorem Recency.insert (rel : c.Recency r) (valid : r.Valid) (k : κ) (v : ν) :
    (c.insert k v).Recency (r.insert k v) := by
  obtain ⟨stamped, listed, items⟩ := rel.listed
  have distinct : (stamped.map LruEntry.key).Nodup := by
    rw [← keys_item, items]
    exact valid.distinct
  unfold Lru.insert RecencyList.insert
  by_cases zero : c.spec.maximumSize = some 0
  · rw [if_pos (by rw [zero]; rfl), if_pos (rel.bound ▸ zero)]
    exact rel
  · rw [if_neg (by simpa using zero), if_neg fun same => zero (rel.bound.trans same), ← rel.now]
    refine Recency.trim ?_
    refine ⟨rel.bound, rel.expired, rel.time, congrArg (· + 1) rel.readings, rel.hits, rel.misses,
      rel.evictions, _, listed.touch ⟨k, v, c.clock, c.now, c.now⟩ rfl ?_ rfl,
      by rw [item_touch, items]; rfl⟩
    split
    · rename_i held
      obtain ⟨e, eIn, matched⟩ := List.any_eq_true.1 held
      have keyed : e.key = k := by simpa using matched
      subst keyed
      have moved := perm_map_update distinct (listed.perm.mem_iff.2 eIn)
        (f := fun x => if x.key == e.key then ⟨e.key, v, c.clock, c.now, c.now⟩ else x)
        fun x other => by simp [other]
      simp only [beq_self_eq_true, if_true] at moved
      exact moved.symm.trans (listed.perm.map _)
    · rename_i absent
      have unheld : ∀ x ∈ stamped, (!(x.key == k)) = true := fun x mem => by
        have notHere : x.key ≠ k := fun same =>
          absent (List.any_eq_true.2 ⟨x, listed.perm.mem_iff.1 mem, by simp [same]⟩)
        simpa using notHere
      rw [List.filter_eq_self.2 unheld]
      exact (listed.perm.cons _).trans (List.perm_append_singleton _ _).symm

/-- Computing on a miss answers as the list does and keeps the relation. -/
theorem Recency.getOrInsert (rel : c.Recency r) (valid : r.Valid) (k : κ) (compute : Unit → ν) :
    (c.getOrInsert k compute).1 = (r.getOrInsert k compute).1 ∧
      (c.getOrInsert k compute).2.Recency (r.getOrInsert k compute).2 := by
  obtain ⟨same, rel'⟩ := rel.get valid k
  have valid' := RecencyList.valid_get valid k
  unfold Lru.getOrInsert RecencyList.getOrInsert
  generalize c.get k = got at same rel' ⊢
  generalize r.get k = want at same rel' valid' ⊢
  obtain ⟨answer, c'⟩ := got
  obtain ⟨answer', r'⟩ := want
  dsimp only at same
  subst same
  cases answer with
  | none => exact ⟨rfl, rel'.insert valid' k _⟩
  | some v => exact ⟨rfl, rel'⟩

/-- Computing on a miss with a computation that may fail answers as the list does and keeps
the relation; a failure stores nothing on either side. -/
theorem Recency.getOrTryInsert {ε : Type} (rel : c.Recency r) (valid : r.Valid) (k : κ)
    (compute : Unit → Except ε ν) :
    (c.getOrTryInsert k compute).1 = (r.getOrTryInsert k compute).1 ∧
      (c.getOrTryInsert k compute).2.Recency (r.getOrTryInsert k compute).2 := by
  obtain ⟨same, rel'⟩ := rel.get valid k
  have valid' := RecencyList.valid_get valid k
  unfold Lru.getOrTryInsert RecencyList.getOrTryInsert
  generalize c.get k = got at same rel' ⊢
  generalize r.get k = want at same rel' valid' ⊢
  obtain ⟨answer, c'⟩ := got
  obtain ⟨answer', r'⟩ := want
  dsimp only at same
  subst same
  cases answer with
  | none =>
    dsimp only
    cases compute () with
    | ok v => exact ⟨rfl, rel'.insert valid' k v⟩
    | error e => exact ⟨rfl, rel'⟩
  | some v => exact ⟨rfl, rel'⟩

end Steps

/-! ## The settings never change -/

section Settings

omit [BEq κ]

theorem spec_shrink (max : Nat) : ∀ (fuel : Nat) (c : Lru κ ν), (shrink max fuel c).spec = c.spec
  | 0, _ => rfl
  | fuel + 1, c => by
    rw [shrink]
    split
    · rfl
    · split
      · exact spec_shrink max fuel _
      · rfl

variable [BEq κ]

theorem spec_get (c : Lru κ ν) (k : κ) : (c.get k).2.spec = c.spec := by
  unfold get
  split
  · split <;> rfl
  · rfl

theorem spec_insert (c : Lru κ ν) (k : κ) (v : ν) : (c.insert k v).spec = c.spec := by
  unfold insert
  split
  · rfl
  · dsimp only
    split
    · exact spec_shrink _ _ _
    · rfl

theorem spec_getOrInsert (c : Lru κ ν) (k : κ) (compute : Unit → ν) :
    (c.getOrInsert k compute).2.spec = c.spec := by
  have looked := spec_get c k
  unfold getOrInsert
  generalize c.get k = got at looked ⊢
  obtain ⟨answer, c'⟩ := got
  cases answer with
  | none => exact (spec_insert c' k _).trans looked
  | some v => exact looked

theorem spec_getOrTryInsert {ε : Type} (c : Lru κ ν) (k : κ) (compute : Unit → Except ε ν) :
    (c.getOrTryInsert k compute).2.spec = c.spec := by
  have looked := spec_get c k
  unfold getOrTryInsert
  generalize c.get k = got at looked ⊢
  obtain ⟨answer, c'⟩ := got
  cases answer with
  | none =>
    dsimp only
    cases compute () with
    | ok v => exact (spec_insert c' k v).trans looked
    | error e => exact looked
  | some v => exact looked

end Settings

omit [BEq κ] in
theorem Recency.size {c : Lru κ ν} {r : RecencyList κ ν} (rel : c.Recency r) :
    c.size = r.items.length := by
  obtain ⟨stamped, listed, items⟩ := rel.listed
  rw [listed.size, ← items, List.length_map]

omit [BEq κ] in
theorem Recency.stats {c : Lru κ ν} {r : RecencyList κ ν} (rel : c.Recency r) :
    c.stats = r.stats := by
  unfold Lru.stats RecencyList.stats
  rw [rel.hits, rel.misses, rel.evictions, rel.size]

end Lru

/-! ## Runs of calls -/

/-- Runs one call on the list. -/
def CacheCall.runRecency (r : RecencyList String Int) :
    CacheCall → CallResult × RecencyList String Int
  | .get k =>
    let (v, r) := r.get k
    (match v with | some v => .value v | none => .nothing, r)
  | .insert k v => (.nothing, r.insert k v)
  | .getOrInsert k v =>
    let (v, r) := r.getOrInsert k fun _ => v
    (.value v, r)
  | .tryInsert k v fail =>
    let (res, r) := r.getOrTryInsert k fun _ => if fail then .error () else .ok v
    (match res with | .ok v => .value v | .error _ => .failed, r)

/-- Runs calls in order on the list, answering each with the list after it. -/
def runRecency (r : RecencyList String Int) : List CacheCall → List CallStep × RecencyList String Int
  | [] => ([], r)
  | call :: rest =>
    let (res, after) := call.runRecency r
    let (steps, last) := runRecency after rest
    (⟨res, after.items.length, after.stats⟩ :: steps, last)

namespace Lru

variable {c : Lru String Int} {r : RecencyList String Int}

/-- One call answers as the list does and keeps the relation, the list valid and the
settings. -/
theorem Recency.run (rel : c.Recency r) (valid : r.Valid) (call : CacheCall) :
    (call.run c).1 = (call.runRecency r).1 ∧ (call.run c).2.Recency (call.runRecency r).2 ∧
      (call.runRecency r).2.Valid ∧ (call.run c).2.spec = c.spec := by
  cases call with
  | get k =>
    obtain ⟨same, rel'⟩ := rel.get valid k
    exact ⟨congrArg (fun v => match v with | some v => CallResult.value v | none => .nothing) same,
      rel', RecencyList.valid_get valid k, spec_get c k⟩
  | insert k v =>
    exact ⟨rfl, rel.insert valid k v, RecencyList.valid_insert valid k v, spec_insert c k v⟩
  | getOrInsert k v =>
    obtain ⟨same, rel'⟩ := rel.getOrInsert valid k fun _ => v
    exact ⟨congrArg CallResult.value same, rel',
      RecencyList.valid_getOrInsert valid k (fun _ => v), spec_getOrInsert c k fun _ => v⟩
  | tryInsert k v fail =>
    obtain ⟨same, rel'⟩ := rel.getOrTryInsert valid k fun _ => if fail then .error () else .ok v
    exact ⟨congrArg (fun res => match res with | .ok v => CallResult.value v | .error _ => .failed)
      same, rel', RecencyList.valid_getOrTryInsert valid k
        (fun _ => if fail then .error () else .ok v),
      spec_getOrTryInsert c k fun _ => if fail then .error () else .ok v⟩

/-- A run answers every call as the list does, with the same size and counters after it, and
keeps the relation, the list valid and the settings. -/
theorem Recency.runs (calls : List CacheCall) (rel : c.Recency r) (valid : r.Valid) :
    (runCalls c calls).1 = (runRecency r calls).1 ∧
      (runCalls c calls).2.Recency (runRecency r calls).2 ∧
      (runRecency r calls).2.Valid ∧ (runCalls c calls).2.spec = c.spec := by
  induction calls generalizing c r with
  | nil => exact ⟨rfl, rel, valid, rfl⟩
  | cons call rest ih =>
    obtain ⟨answered, rel', valid', kept⟩ := rel.run valid call
    obtain ⟨steps, relLast, validLast, keptLast⟩ := ih rel' valid'
    refine ⟨?_, relLast, validLast, keptLast.trans kept⟩
    show (⟨(call.run c).1, (call.run c).2.size, (call.run c).2.stats⟩ ::
        (runCalls (call.run c).2 rest).1 : List CallStep) =
      ⟨(call.runRecency r).1, (call.runRecency r).2.items.length, (call.runRecency r).2.stats⟩ ::
        (runRecency (call.runRecency r).2 rest).1
    rw [answered, rel'.size, rel'.stats, steps]

end Lru

/-- From an empty cache reading any wall clock, every run of calls answers each call as the
least-recently-used list does under the cache's expiry test, with the same size and counters
after each call; it ends holding the list's items, never more than the bound, and its size and
evictions add up to the inserts that stored a key it did not hold. -/
theorem runCalls_recency (spec : CacheSpec) (time : Nat → Nat) (calls : List CacheCall) :
    (runCalls (Lru.withClock spec time) calls).1 =
        (runRecency (RecencyList.empty spec.maximumSize spec.expired time) calls).1 ∧
      ((runCalls (Lru.withClock spec time) calls).2.entries.map LruEntry.item).Perm
        (runRecency (RecencyList.empty spec.maximumSize spec.expired time) calls).2.items ∧
      (∀ max, spec.maximumSize = some max →
        (runCalls (Lru.withClock spec time) calls).2.size ≤ max) ∧
      (runCalls (Lru.withClock spec time) calls).2.size +
          (runCalls (Lru.withClock spec time) calls).2.evictions =
        (runRecency (RecencyList.empty spec.maximumSize spec.expired time) calls).2.added := by
  obtain ⟨steps, rel, valid, kept⟩ :=
    Lru.Recency.runs calls (Lru.recency_withClock spec time) (RecencyList.valid_empty _ _ _)
  obtain ⟨stamped, listed, items⟩ := rel.listed
  refine ⟨steps, ?_, fun max bounded => ?_, ?_⟩
  · rw [← items]
    exact (listed.perm.map _).symm
  · rw [rel.size]
    exact valid.bounded max (rel.bound.symm.trans (kept ▸ bounded))
  · rw [rel.size, rel.evictions]
    exact valid.counted

/-- With room for two, reading `a` and then storing `c` evicts `b`, the entry used least
recently. -/
example :
    (runCalls (Lru.empty { maximumSize := some 2 })
        [.insert "a" 1, .insert "b" 2, .get "a", .insert "c" 3, .get "b", .get "a"]).1.map
      (·.result) = [.nothing, .nothing, .value 1, .nothing, .nothing, .value 1] := by
  decide

/-- With a clock read every 0.6 s, an entry that must be read once a second stays while it is
read, and runs out after a lookup of another key lets 1.2 s pass; one that must go a second
after it was stored runs out at its second lookup. -/
example :
    (runCalls (Lru.withClock { expireAfterAccess := some 1 } (· * 600000000))
        [.insert "a" 1, .get "a", .get "a", .insert "b" 2, .get "b", .get "a"]).1.map
      (·.result) = [.nothing, .value 1, .value 1, .nothing, .value 2, .nothing] ∧
    (runCalls (Lru.withClock { expireAfterWrite := some 1 } (· * 600000000))
        [.insert "a" 1, .get "a", .get "a"]).1.map (·.result) =
      [.nothing, .value 1, .nothing] := by
  decide

end FieldSelection

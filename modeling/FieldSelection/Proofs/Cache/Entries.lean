import FieldSelection.Cache.Lru
/-!
# What a cache holds

A least-recently-used cache only ever answers with a value that was inserted: a lookup finds an
entry under the key it was asked for, and no call changes the key or the value of an entry,
evictions and expiry only remove entries. So any fact that holds of every inserted pair holds
of every answer: `Lru.AllEntries P` says that `P` holds of every entry, `allEntries_get` and
`allEntries_insert` keep it, and `get_found` reads an answer back as an entry.
-/

namespace FieldSelection

namespace Lru

variable {κ ν : Type} [BEq κ]

/-- Every entry of the cache, its key and its value, satisfies `P`. -/
def AllEntries (P : κ → ν → Prop) (c : Lru κ ν) : Prop := ∀ x ∈ c.entries, P x.key x.value

omit [BEq κ] in
theorem AllEntries.mono {P Q : κ → ν → Prop} {c : Lru κ ν} (h : c.AllEntries P)
    (weaker : ∀ k v, P k v → Q k v) : c.AllEntries Q :=
  fun x mem => weaker _ _ (h x mem)

/-- An answer of a lookup is the value of an entry under the key asked for. -/
theorem get_found {c : Lru κ ν} {k : κ} {v : ν} (found : (c.get k).1 = some v) :
    ∃ x ∈ c.entries, (x.key == k) = true ∧ x.value = v := by
  unfold get at found
  split at found
  · rename_i e hit
    split at found
    · cases found
    · cases found
      obtain ⟨matches_, -⟩ := List.find?_eq_some_iff_append.1 hit
      exact ⟨e, List.mem_of_find?_eq_some hit, matches_, rfl⟩
  · cases found

theorem allEntries_get {P : κ → ν → Prop} {c : Lru κ ν} (h : c.AllEntries P) (k : κ) :
    (c.get k).2.AllEntries P := by
  unfold get
  split
  · split
    · intro x mem
      exact h x (List.mem_filter.1 mem).1
    · intro x mem
      obtain ⟨y, my, rfl⟩ := List.mem_map.1 mem
      split
      · exact h y my
      · exact h y my
  · exact h

omit [BEq κ] in
theorem allEntries_shrink {P : κ → ν → Prop} (max : Nat) :
    ∀ (fuel : Nat) (c : Lru κ ν), c.AllEntries P → (shrink max fuel c).AllEntries P
  | 0, _, h => h
  | fuel + 1, c, h => by
    unfold shrink
    split
    · exact h
    · split
      · exact allEntries_shrink max fuel _ fun x mem => h x (List.mem_filter.1 mem).1
      · exact h

omit [BEq κ] in
/-- Applying the size bound only removes entries. -/
theorem allEntries_bound {P : κ → ν → Prop} (c : Lru κ ν) (h : c.AllEntries P) :
    (match c.spec.maximumSize with
      | some max => shrink max c.entries.length c
      | none => c).AllEntries P := by
  split
  · exact allEntries_shrink _ _ _ h
  · exact h

/-- Inserting a pair that satisfies `P` keeps `P` true of every entry. -/
theorem allEntries_insert {P : κ → ν → Prop} {c : Lru κ ν} (h : c.AllEntries P) {k : κ}
    {v : ν} (new : P k v) : (c.insert k v).AllEntries P := by
  unfold insert
  split
  · exact h
  · split
    · refine allEntries_bound _ fun x mem => ?_
      obtain ⟨y, my, rfl⟩ := List.mem_map.1 mem
      split
      · exact new
      · exact h y my
    · refine allEntries_bound _ fun x mem => ?_
      rcases List.mem_append.1 mem with old | added
      · exact h x old
      · simp only [List.mem_singleton] at added
        subst added
        exact new

end Lru

end FieldSelection

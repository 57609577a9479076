/-!
# JSON values

Documents are JSON values whose objects keep their members in the order they were written.
Numbers are integers, held exactly, or binary64 floating point numbers, held by their bits so
that values have decidable equality.

An object never holds two members of one key: `Value.set` replaces the value of an existing key
in place and appends a new key at the end, which is how members are written into an object.
-/

namespace FieldSelection.Json

/-- A JSON number: an integer in the range of 64-bit words, or a binary64 float given by its
bit pattern. -/
inductive Number where
  | int (value : Int)
  | float (bits : UInt64)
  deriving DecidableEq, Repr

/-- A JSON value; an object is its members in written order. -/
inductive Value where
  | null
  | bool (b : Bool)
  | number (n : Number)
  | string (s : String)
  | array (items : List Value)
  | object (members : List (String × Value))
  deriving Repr

/-- Members of an object after writing `v` under `k`: an existing key keeps its place and takes
the new value, a new key goes to the end. -/
def setMember (members : List (String × Value)) (k : String) (v : Value) :
    List (String × Value) :=
  match members with
  | [] => [(k, v)]
  | (k', v') :: rest => if k' == k then (k, v) :: rest else (k', v') :: setMember rest k v

namespace Value

/-- The integer value `n`. -/
def ofInt (n : Int) : Value := .number (.int n)

/-- The value of key `k` in an object, if it has one. -/
def getMember? : Value → String → Option Value
  | .object members, k => members.lookup k
  | _, _ => none

/-- Whether the value is an object. -/
def isObject : Value → Bool
  | .object _ => true
  | _ => false

end Value

/-- Builds an object from members given in order; a later member of a repeated key replaces
the value of the earlier one and keeps its place. -/
def objectOf (members : List (String × Value)) : Value :=
  .object (members.foldl (fun acc m => setMember acc m.1 m.2) [])

theorem setMember_keys (members : List (String × Value)) (k : String) (v : Value)
    (h : k ∈ members.map Prod.fst) :
    (setMember members k v).map Prod.fst = members.map Prod.fst := by
  induction members with
  | nil => simp at h
  | cons m rest ih =>
    obtain ⟨k', v'⟩ := m
    by_cases hk : k' = k
    · subst hk
      simp [setMember]
    · have hrest : k ∈ rest.map Prod.fst := by
        simp only [List.map_cons, List.mem_cons] at h
        rcases h with h | h
        · exact absurd h.symm hk
        · exact h
      have hne : (k' == k) = false := by simpa using hk
      simp [setMember, hne, ih hrest]

end FieldSelection.Json

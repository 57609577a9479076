import FieldSelection.Proofs.Session.Transparency
/-!
# Filtering only removes

The projection of a document under an expression writes part of what the projection under
everything writes, as long as no object of the latter gets a key twice (`filterValue_subDocument`):
arrays as long as the other's and related item by item, the same scalars, and in each object a
run of the other object's members, in their order, under the same keys, with related values. The
engine may remember any decisions from before: whatever it decides, a projection only leaves
things out.

The proviso cannot be dropped (`unwrapped_shadow_not_subDocument`). An unwrapped field writes the
members of its object into the object being written, and a member written again keeps its place
and takes the later value. When a type writes `x` and also unwraps an object that writes `x`, the
full projection keeps the inner value; an expression that selects the outer `x` and not the
inner one keeps the outer value, which the full projection has dropped.

`Json.SubDoc` is the relation. `Projection.levelKeys` lists the keys that writing an object puts
into the object being written when everything is selected, and `Projection.WritesOnce` says that
no object of the full projection gets a key twice. The proof is one induction over the traversal
(`Projection.projectValue.induct`) with a lemma per case: a member the expression keeps is
written at the end of both objects, with related values, and a member it leaves out is written
at the end of the full one only.
-/

namespace FieldSelection

namespace Json

mutual

/-- Value `w` is a sub-document of value `u`: the same value, or arrays of one length related
item by item, or objects whose members are members of the other, in the same order, under the
same keys, with related values. -/
inductive SubDoc : Value → Value → Prop
  | same {v : Value} : SubDoc v v
  | array {xs ys : List Value} : SubItems xs ys → SubDoc (.array xs) (.array ys)
  | object {ms ns : List (String × Value)} : SubMembers ms ns → SubDoc (.object ms) (.object ns)

/-- Items related one to one. -/
inductive SubItems : List Value → List Value → Prop
  | nil : SubItems [] []
  | cons {x y : Value} {xs ys : List Value} : SubDoc x y → SubItems xs ys →
      SubItems (x :: xs) (y :: ys)

/-- The members on the left are members on the right, in the same order, under the same keys,
with related values. -/
inductive SubMembers : List (String × Value) → List (String × Value) → Prop
  | nil {ns : List (String × Value)} : SubMembers [] ns
  | keep {k : String} {x y : Value} {ms ns : List (String × Value)} : SubDoc x y →
      SubMembers ms ns → SubMembers ((k, x) :: ms) ((k, y) :: ns)
  | skip {m : String × Value} {ms ns : List (String × Value)} : SubMembers ms ns →
      SubMembers ms (m :: ns)

end

theorem SubMembers.append_right {ms ns : List (String × Value)} (sub : SubMembers ms ns)
    (extra : List (String × Value)) : SubMembers ms (ns ++ extra) := by
  induction ns generalizing ms with
  | nil =>
    cases sub
    exact .nil
  | cons n ns ih =>
    cases sub with
    | nil => exact .nil
    | keep related rest => exact .keep related (ih rest)
    | skip rest => exact .skip (ih rest)

/-- A member written at the end of both sides, with related values, keeps the relation. -/
theorem SubMembers.snoc {ms ns : List (String × Value)} (sub : SubMembers ms ns) {k : String}
    {x y : Value} (related : SubDoc x y) : SubMembers (ms ++ [(k, x)]) (ns ++ [(k, y)]) := by
  induction ns generalizing ms with
  | nil =>
    cases sub
    exact .keep related .nil
  | cons n ns ih =>
    cases sub with
    | nil => exact .skip (ih .nil)
    | keep related' rest => exact .keep related' (ih rest)
    | skip rest => exact .skip (ih rest)

theorem SubMembers.keys_subset {ms ns : List (String × Value)} (sub : SubMembers ms ns) :
    ms.map Prod.fst ⊆ ns.map Prod.fst := by
  induction ns generalizing ms with
  | nil =>
    cases sub
    exact List.nil_subset _
  | cons n ns ih =>
    cases sub with
    | nil => exact List.nil_subset _
    | keep _ rest => exact List.cons_subset_cons _ (ih rest)
    | skip rest => exact List.Subset.trans (ih rest) (List.subset_cons_self _ _)

/-- Writing a key the members do not have appends it. -/
theorem setMember_of_not_mem {members : List (String × Value)} {k : String}
    (fresh : k ∉ members.map Prod.fst) (v : Value) :
    setMember members k v = members ++ [(k, v)] := by
  induction members with
  | nil => rfl
  | cons m rest ih =>
    obtain ⟨k', v'⟩ := m
    simp only [List.map_cons, List.mem_cons, not_or] at fresh
    have other : (k' == k) = false := by simpa using Ne.symm fresh.1
    simp [setMember, other, ih fresh.2]

end Json

namespace Projection

open Json

/-! ## The keys of the full projection -/

mutual

/-- The keys that writing the members `ms` of an object of type `ty` puts into the object being
written when everything is selected, in order and with repeats: every member of an open or
untyped object, and for a closed type the keys of its declared fields in turn. -/
def levelKeys (reg : Registry) (ty : Option String) (ms : List (String × Value)) : List String :=
  match ty with
  | none => ms.map Prod.fst
  | some n =>
    match reg.introspect n with
    | .error _ => []
    | .ok info =>
      if info.isOpen then ms.map Prod.fst
      else
        match reg.fields n with
        | .error _ => []
        | .ok fields => fields.flatMap fun f => fieldKeys reg ms f
termination_by (sizeOf ms, 1)

/-- The keys a declared field puts into the object being written when everything is selected:
none when it is absent, its name, or for an unwrapped field holding an object the keys of that
object. -/
def fieldKeys (reg : Registry) (ms : List (String × Value)) (f : FieldDecl) : List String :=
  match memberOf ms f.name with
  | none => []
  | some ⟨v, _hv⟩ =>
    if f.unwrapped then
      match _hm : v with
      | .object inner => levelKeys reg f.valueType inner
      | _ => []
    else [f.name]
termination_by (sizeOf ms, 0)
decreasing_by
  apply Prod.Lex.left
  subst _hm
  simp at _hv ⊢
  omega

end

mutual

/-- No object of the projection of `v`, read as type `ty` with everything selected, gets a key
twice. -/
def WritesOnce (reg : Registry) (ty : Option String) : Value → Prop
  | .array items => ∀ v ∈ items, WritesOnce reg ty v
  | .object ms => (levelKeys reg ty ms).Nodup ∧ LevelOnce reg ty ms
  | _ => True
termination_by v => (sizeOf v, 2)
decreasing_by
  all_goals apply Prod.Lex.left
  · have := List.sizeOf_lt_of_mem ‹_›
    simp
    omega
  · simp

/-- The values written while writing the members `ms` of an object of type `ty`, those of the
objects it inlines included, get no key twice in their own objects. -/
def LevelOnce (reg : Registry) (ty : Option String) (ms : List (String × Value)) : Prop :=
  match ty with
  | none => ∀ m ∈ ms, WritesOnce reg none m.2
  | some n =>
    match reg.introspect n with
    | .error _ => True
    | .ok info =>
      if info.isOpen then ∀ m ∈ ms, WritesOnce reg none m.2
      else
        match reg.fields n with
        | .error _ => True
        | .ok fields => ∀ f ∈ fields, FieldOnce reg ms f
termination_by (sizeOf ms, 1)
decreasing_by
  all_goals first
    | (apply Prod.Lex.right; omega)
    | (apply Prod.Lex.left
       have := List.sizeOf_lt_of_mem ‹_›
       cases ‹String × Value›
       simp at this ⊢
       omega)

/-- What a declared field writes gets no key twice in its own objects. -/
def FieldOnce (reg : Registry) (ms : List (String × Value)) (f : FieldDecl) : Prop :=
  match memberOf ms f.name with
  | none => True
  | some ⟨v, _hv⟩ =>
    if f.unwrapped then
      match _hm : v with
      | .object inner => LevelOnce reg f.valueType inner
      | _ => True
    else WritesOnce reg f.valueType v
termination_by (sizeOf ms, 0)
decreasing_by
  all_goals apply Prod.Lex.left
  · subst _hm
    simp at _hv ⊢
    omega
  · exact _hv

end

/-! ### Reading the definitions -/

section Unfolding

variable {reg : Registry} {ms : List (String × Value)}

@[simp] theorem levelKeys_none : levelKeys reg none ms = ms.map Prod.fst := by
  rw [levelKeys]

theorem levelKeys_open {n : String} {info : TypeViews} (found : reg.introspect n = .ok info)
    (opened : info.isOpen = true) : levelKeys reg (some n) ms = ms.map Prod.fst := by
  rw [levelKeys]
  simp [found, opened]

theorem levelKeys_closed {n : String} {info : TypeViews} {fields : List FieldDecl}
    (found : reg.introspect n = .ok info) (closed : info.isOpen = false)
    (listed : reg.fields n = .ok fields) :
    levelKeys reg (some n) ms = fields.flatMap (fieldKeys reg ms) := by
  rw [levelKeys]
  simp [found, closed, listed]

@[simp] theorem levelOnce_none :
    LevelOnce reg none ms ↔ ∀ m ∈ ms, WritesOnce reg none m.2 := by
  rw [LevelOnce]

theorem levelOnce_open {n : String} {info : TypeViews} (found : reg.introspect n = .ok info)
    (opened : info.isOpen = true) :
    LevelOnce reg (some n) ms ↔ ∀ m ∈ ms, WritesOnce reg none m.2 := by
  rw [LevelOnce]
  simp [found, opened]

theorem levelOnce_closed {n : String} {info : TypeViews} {fields : List FieldDecl}
    (found : reg.introspect n = .ok info) (closed : info.isOpen = false)
    (listed : reg.fields n = .ok fields) :
    LevelOnce reg (some n) ms ↔ ∀ f ∈ fields, FieldOnce reg ms f := by
  rw [LevelOnce]
  simp [found, closed, listed]

theorem fieldKeys_absent {f : FieldDecl} (absent : memberOf ms f.name = none) :
    fieldKeys reg ms f = [] := by
  rw [fieldKeys]
  simp [absent]

theorem fieldKeys_plain {f : FieldDecl} {v : Value} {hv : sizeOf v < sizeOf ms}
    (present : memberOf ms f.name = some ⟨v, hv⟩) (plain : f.unwrapped = false) :
    fieldKeys reg ms f = [f.name] := by
  rw [fieldKeys]
  simp [present, plain]

theorem fieldOnce_plain {f : FieldDecl} {v : Value} {hv : sizeOf v < sizeOf ms}
    (present : memberOf ms f.name = some ⟨v, hv⟩) (plain : f.unwrapped = false) :
    FieldOnce reg ms f ↔ WritesOnce reg f.valueType v := by
  rw [FieldOnce]
  simp [present, plain]

theorem fieldKeys_inlined {f : FieldDecl} {inner : List (String × Value)}
    {hv : sizeOf (Value.object inner) < sizeOf ms}
    (present : memberOf ms f.name = some ⟨.object inner, hv⟩) (unwrapped : f.unwrapped = true) :
    fieldKeys reg ms f = levelKeys reg f.valueType inner := by
  rw [fieldKeys]
  simp [present, unwrapped]

theorem fieldOnce_inlined {f : FieldDecl} {inner : List (String × Value)}
    {hv : sizeOf (Value.object inner) < sizeOf ms}
    (present : memberOf ms f.name = some ⟨.object inner, hv⟩) (unwrapped : f.unwrapped = true) :
    FieldOnce reg ms f ↔ LevelOnce reg f.valueType inner := by
  rw [FieldOnce]
  simp [present, unwrapped]

theorem fieldKeys_dropped {f : FieldDecl} {v : Value} {hv : sizeOf v < sizeOf ms}
    (present : memberOf ms f.name = some ⟨v, hv⟩) (unwrapped : f.unwrapped = true)
    (notObject : ∀ inner, v = .object inner → False) : fieldKeys reg ms f = [] := by
  rw [fieldKeys]
  simp only [present, unwrapped, if_true]
  split
  · exact (notObject _ rfl).elim
  · rfl

end Unfolding

/-! ## Keys written once -/

/-- Keys `keys` are distinct, and none of them is a key of the members `out`. -/
def Fresh (out : List (String × Value)) (keys : List String) : Prop :=
  keys.Nodup ∧ ∀ k ∈ keys, k ∉ out.map Prod.fst

/-- Members `out'` are members `out` followed by new members under the keys `keys`. -/
def Adds (out out' : List (String × Value)) (keys : List String) : Prop :=
  ∃ new, out' = out ++ new ∧ new.map Prod.fst = keys

theorem adds_nil (out : List (String × Value)) : Adds out out [] := ⟨[], by simp, rfl⟩

theorem Adds.trans {a b c : List (String × Value)} {ks ks' : List String} (first : Adds a b ks)
    (second : Adds b c ks') : Adds a c (ks ++ ks') := by
  obtain ⟨new, rfl, keys⟩ := first
  obtain ⟨new', rfl, keys'⟩ := second
  exact ⟨new ++ new', by simp, by simp [keys, keys']⟩

theorem Fresh.left {out : List (String × Value)} {ks ks' : List String}
    (fresh : Fresh out (ks ++ ks')) : Fresh out ks :=
  ⟨(List.nodup_append.1 fresh.1).1, fun k mem => fresh.2 k (List.mem_append_left _ mem)⟩

/-- Keys fresh for the members stay fresh after the members gain the keys before them. -/
theorem Fresh.after {out out' : List (String × Value)} {ks ks' : List String}
    (fresh : Fresh (out) (ks ++ ks')) (added : Adds out out' ks) : Fresh out' ks' := by
  obtain ⟨new, rfl, keys⟩ := added
  obtain ⟨_, later, apart⟩ := List.nodup_append.1 fresh.1
  refine ⟨later, fun k mem written => ?_⟩
  rw [List.map_append, List.mem_append, keys] at written
  rcases written with old | new
  · exact fresh.2 k (List.mem_append_right _ mem) old
  · exact apart k new k mem rfl

theorem Fresh.head {out : List (String × Value)} {k : String} {ks : List String}
    (fresh : Fresh out (k :: ks)) : k ∉ out.map Prod.fst :=
  fresh.2 k List.mem_cons_self

/-- A step that ends in `ok` ran its first part to `ok`. -/
theorem bind_eq_ok {ε α β : Type} {x : Except ε α} {f : α → Except ε β} {b : β}
    (ran : x >>= f = .ok b) : ∃ a, x = .ok a ∧ f a = .ok b := by
  cases x with
  | error err => cases ran
  | ok a => exact ⟨a, rfl, ran⟩

/-! ## The projection against the full projection -/

section Removal

variable (reg : Registry) (cfg : FilterConfig)

/-- Projecting `v` under `s`, from any engine, gives a sub-document of its projection with
everything selected, when that succeeds and writes no key twice. -/
def ValueSub (s : NodeSet) (ty : Option String) (v : Value) : Prop :=
  ∀ (e : Engine) {u : Value}, Uncached.projectValue reg cfg .anyDeep ty v = .ok u →
    WritesOnce reg ty v →
    ∃ w e', Projecting.exec (projectValue reg s ty v) e = (.ok w, e') ∧ SubDoc w u

/-- Projecting items under `s` relates them one to one to the full projection. -/
def ItemsSub (s : NodeSet) (ty : Option String) (vs : List Value) : Prop :=
  ∀ (e : Engine) {us : List Value}, Uncached.projectItems reg cfg .anyDeep ty vs = .ok us →
    (∀ v ∈ vs, WritesOnce reg ty v) →
    ∃ ws e', Projecting.exec (projectItems reg s ty vs) e = (.ok ws, e') ∧ SubItems ws us

/-- Writing the members of an object after members `out` that are a run of `outU` keeps them a
run of what the full projection writes after `outU`, when the full projection writes keys that
`outU` lacks, each once; the full projection adds exactly the level's keys. -/
def ObjectSub (s : NodeSet) (ty : Option String) (ms out : List (String × Value)) : Prop :=
  ∀ (e : Engine) {outU resU : List (String × Value)}, SubMembers out outU →
    Fresh outU (levelKeys reg ty ms) → LevelOnce reg ty ms →
    Uncached.writeObject reg cfg .anyDeep ty ms outU = .ok resU →
    ∃ res e', Projecting.exec (writeObject reg s ty ms out) e = (.ok res, e') ∧
      SubMembers res resU ∧ Adds outU resU (levelKeys reg ty ms)

/-- The same for the declared fields `fs` of a closed object. -/
def ClosedSub (s : NodeSet) (info : TypeViews) (ms : List (String × Value)) (fs : List FieldDecl)
    (out : List (String × Value)) : Prop :=
  ∀ (e : Engine) {outU resU : List (String × Value)}, SubMembers out outU →
    Fresh outU (fs.flatMap (fieldKeys reg ms)) → (∀ f ∈ fs, FieldOnce reg ms f) →
    Uncached.writeClosed reg cfg .anyDeep info ms fs outU = .ok resU →
    ∃ res e', Projecting.exec (writeClosed reg s info ms fs out) e = (.ok res, e') ∧
      SubMembers res resU ∧ Adds outU resU (fs.flatMap (fieldKeys reg ms))

/-- The same for the members of an open object. -/
def OpenSub (s : NodeSet) (info : TypeViews) (ms out : List (String × Value)) : Prop :=
  ∀ (e : Engine) {outU resU : List (String × Value)}, SubMembers out outU →
    Fresh outU (ms.map Prod.fst) → (∀ m ∈ ms, WritesOnce reg none m.2) →
    Uncached.writeOpen reg cfg .anyDeep info ms outU = .ok resU →
    ∃ res e', Projecting.exec (writeOpen reg s info ms out) e = (.ok res, e') ∧
      SubMembers res resU ∧ Adds outU resU (ms.map Prod.fst)

variable {reg cfg}

theorem valueSub_array {s : NodeSet} {ty : Option String} {items : List Value}
    (ih : ItemsSub reg cfg s ty items) : ValueSub reg cfg s ty (.array items) := by
  intro e u full once
  rw [Uncached.projectValue.eq_1] at full
  obtain ⟨us, itemsFull, written⟩ := bind_eq_ok full
  cases written
  rw [WritesOnce] at once
  obtain ⟨ws, e', ran, related⟩ := ih e itemsFull once
  refine ⟨.array ws, e', ?_, .array related⟩
  rw [projectValue.eq_1, Projecting.exec_bind_ok ran]
  rfl

theorem valueSub_object {s : NodeSet} {ty : Option String} {ms : List (String × Value)}
    (ih : ObjectSub reg cfg s ty ms []) : ValueSub reg cfg s ty (.object ms) := by
  intro e u full once
  rw [Uncached.projectValue.eq_2] at full
  obtain ⟨resU, objectFull, written⟩ := bind_eq_ok full
  cases written
  rw [WritesOnce] at once
  have fresh : Fresh [] (levelKeys reg ty ms) := ⟨once.1, fun _ _ absent => by simp at absent⟩
  obtain ⟨res, e', ran, related, -⟩ := ih e .nil fresh once.2 objectFull
  refine ⟨.object res, e', ?_, .object related⟩
  rw [projectValue.eq_2, Projecting.exec_bind_ok ran]
  rfl

theorem valueSub_scalar {s : NodeSet} {ty : Option String} {v : Value}
    (notArray : ∀ items, v = .array items → False)
    (notObject : ∀ ms, v = .object ms → False) : ValueSub reg cfg s ty v := by
  intro e u full _
  rw [Uncached.projectValue.eq_3 _ _ _ _ _ notArray notObject] at full
  cases full
  exact ⟨v, e, by rw [projectValue.eq_3 _ _ _ _ notArray notObject]; rfl, .same⟩

theorem itemsSub_nil {s : NodeSet} {ty : Option String} : ItemsSub reg cfg s ty [] := by
  intro e us full _
  rw [Uncached.projectItems.eq_1] at full
  cases full
  exact ⟨[], e, by rw [projectItems.eq_1]; rfl, .nil⟩

theorem itemsSub_cons {s : NodeSet} {ty : Option String} {v : Value} {vs : List Value}
    (head : ValueSub reg cfg s ty v) (tail : ItemsSub reg cfg s ty vs) :
    ItemsSub reg cfg s ty (v :: vs) := by
  intro e us full once
  rw [Uncached.projectItems.eq_2] at full
  obtain ⟨u, headFull, full⟩ := bind_eq_ok full
  obtain ⟨us', tailFull, written⟩ := bind_eq_ok full
  cases written
  obtain ⟨w, e₁, ran, related⟩ := head e headFull (once v List.mem_cons_self)
  obtain ⟨ws, e₂, ran', related'⟩ :=
    tail e₁ tailFull fun x mem => once x (List.mem_cons_of_mem v mem)
  refine ⟨w :: ws, e₂, ?_, .cons related related'⟩
  rw [projectItems.eq_2, Projecting.exec_bind_ok ran, Projecting.exec_bind_ok ran']
  rfl

/-- An object of a named type keeps the relation when its open and closed readings do; the
note a trace takes of undeclared members changes no output. -/
theorem objectSub_typed {s : NodeSet} {ms out : List (String × Value)} {n : String}
    (openIH : ∀ info, OpenSub reg cfg s info ms out)
    (closedIH : ∀ info fields, ClosedSub reg cfg s info ms fields out) :
    ObjectSub reg cfg s (some n) ms out := by
  intro e outU resU sub fresh once full
  rw [Uncached.writeObject.eq_1] at full
  obtain ⟨info, found, full⟩ := bind_eq_ok full
  rw [writeObject.eq_1, Projecting.exec_bind_ok (by rw [Projecting.exec_lookup, found])]
  dsimp only at full ⊢
  by_cases opened : info.isOpen = true
  · rw [if_pos opened] at full ⊢
    rw [levelKeys_open found opened] at fresh ⊢
    exact openIH info e sub fresh ((levelOnce_open found opened).1 once) full
  · rw [if_neg opened] at full ⊢
    obtain ⟨fields, listed, full⟩ := bind_eq_ok full
    have closed : info.isOpen = false := by simpa using opened
    rw [levelKeys_closed found closed listed] at fresh ⊢
    obtain ⟨res, e₁, ran, related, added⟩ :=
      closedIH info fields e sub fresh ((levelOnce_closed found closed listed).1 once) full
    rw [Projecting.exec_bind_ok (by rw [Projecting.exec_lookup, listed]),
      Projecting.exec_bind_ok ran]
    split
    · exact ⟨res, _, Projecting.exec_bind_ok (Projecting.exec_modify _ _) _, related, added⟩
    · exact ⟨res, e₁, rfl, related, added⟩

theorem objectSub_untyped {s : NodeSet} {ms out : List (String × Value)}
    (openIH : ∀ info, OpenSub reg cfg s info ms out) : ObjectSub reg cfg s none ms out := by
  intro e outU resU sub fresh once full
  have untypedOpen : Registry.untyped.isOpen = true := rfl
  rw [Uncached.writeObject.eq_2] at full
  simp only [pure_bind, untypedOpen, if_true] at full
  rw [levelKeys_none] at fresh ⊢
  rw [writeObject.eq_2]
  simp only [pure_bind, untypedOpen, if_true]
  exact openIH Registry.untyped e sub fresh (levelOnce_none.1 once) full

theorem closedSub_nil {s : NodeSet} {info : TypeViews} {ms out : List (String × Value)} :
    ClosedSub reg cfg s info ms [] out := by
  intro e outU resU sub _ _ full
  rw [Uncached.writeClosed.eq_1] at full
  cases full
  exact ⟨out, e, by rw [writeClosed.eq_1]; rfl, sub, adds_nil outU⟩

theorem closedSub_absent {s : NodeSet} {info : TypeViews} {ms out : List (String × Value)}
    {f : FieldDecl} {fs : List FieldDecl} (absent : memberOf ms f.name = none)
    (rest : ∀ out, ClosedSub reg cfg s info ms fs out) :
    ClosedSub reg cfg s info ms (f :: fs) out := by
  intro e outU resU sub fresh once full
  rw [List.flatMap_cons, fieldKeys_absent absent, List.nil_append] at fresh ⊢
  rw [Uncached.writeClosed.eq_2] at full
  simp only [absent, pure_bind] at full
  rw [writeClosed.eq_2]
  simp only [absent, pure_bind]
  exact rest out e sub fresh (fun g mem => once g (List.mem_cons_of_mem f mem)) full

/-- A declared field that the object holds keeps the relation: written by both sides under its
name, inlined into this object when it unwraps an object, or writing nothing when it unwraps
anything else; the later fields carry the relation on. -/
theorem closedSub_present {s : NodeSet} {info : TypeViews} {ms out : List (String × Value)}
    {f : FieldDecl} {fs : List FieldDecl} {v : Value} {hv : sizeOf v < sizeOf ms}
    (present : memberOf ms f.name = some ⟨v, hv⟩)
    (rest : ∀ out, ClosedSub reg cfg s info ms fs out)
    (inlined : ∀ (d : Decision) inner, v = .object inner →
      ObjectSub reg cfg d.children f.valueType inner out)
    (projected : ∀ d : Decision, ValueSub reg cfg d.children f.valueType v) :
    ClosedSub reg cfg s info ms (f :: fs) out := by
  intro e outU resU sub fresh once full
  have fieldOnce := once f List.mem_cons_self
  rw [List.flatMap_cons] at fresh ⊢
  have finish : ∀ {out₁ outU₁ : List (String × Value)} (e₁ : Engine),
      SubMembers out₁ outU₁ → Adds outU outU₁ (fieldKeys reg ms f) →
      Uncached.writeClosed reg cfg .anyDeep info ms fs outU₁ = .ok resU →
      ∃ res e', Projecting.exec (writeClosed reg s info ms fs out₁) e₁ = (.ok res, e') ∧
        SubMembers res resU ∧
        Adds outU resU (fieldKeys reg ms f ++ fs.flatMap (fieldKeys reg ms)) := by
    intro out₁ outU₁ e₁ sub₁ added full₁
    obtain ⟨res, e', ran, related, added'⟩ := rest out₁ e₁ sub₁ (fresh.after added)
      (fun g mem => once g (List.mem_cons_of_mem f mem)) full₁
    exact ⟨res, e', ran, related, added.trans added'⟩
  rw [Uncached.writeClosed.eq_2] at full
  simp only [present, decide_anyDeep, Decision.shown, Bool.not_true, Bool.false_eq_true,
    if_false] at full
  rw [writeClosed.eq_2]
  simp only [present]
  rw [Projecting.exec_bind_ok (Projecting.exec_decideHere _ _ _ _)]
  generalize (e.decide s f.name info).1 = d
  generalize (e.decide s f.name info).2 = e₁
  cases unwrapped : f.unwrapped with
  | false =>
    simp only [unwrapped, Bool.false_eq_true, if_false] at full ⊢
    obtain ⟨u, valueFull, full⟩ := bind_eq_ok full
    have newKey : f.name ∉ outU.map Prod.fst := by
      have here := fresh.left
      rw [fieldKeys_plain present unwrapped] at here
      exact here.head
    simp only [pure_bind, setMember_of_not_mem newKey] at full
    have added : Adds outU (outU ++ [(f.name, u)]) (fieldKeys reg ms f) := by
      rw [fieldKeys_plain present unwrapped]
      exact ⟨_, rfl, rfl⟩
    cases included : d.included
    · simp only [Bool.not_false, if_true, pure_bind]
      exact finish e₁ (sub.append_right _) added full
    · simp only [Bool.not_true, Bool.false_eq_true, if_false]
      obtain ⟨w, e₂, ran, related⟩ :=
        projected d e₁ valueFull ((fieldOnce_plain present unwrapped).1 fieldOnce)
      rw [Projecting.exec_bind_ok ran]
      simp only [pure_bind, setMember_of_not_mem fun mem => newKey (sub.keys_subset mem)]
      exact finish e₂ (sub.snoc related) added full
  | true =>
    simp only [unwrapped, if_true] at full ⊢
    by_cases isObject : ∃ inner, v = .object inner
    · obtain ⟨inner, rfl⟩ := isObject
      dsimp only at full ⊢
      obtain ⟨outU₁, innerFull, full⟩ := bind_eq_ok full
      have keysHere : Fresh outU (levelKeys reg f.valueType inner) := by
        rw [← fieldKeys_inlined present unwrapped]
        exact fresh.left
      obtain ⟨res₁, e₂, ran₁, related₁, added₁⟩ :=
        inlined d inner rfl e₁ sub keysHere ((fieldOnce_inlined present unwrapped).1 fieldOnce)
          innerFull
      have added : Adds outU outU₁ (fieldKeys reg ms f) := by
        rw [fieldKeys_inlined present unwrapped]
        exact added₁
      cases included : d.included
      · simp only [Bool.not_false, if_true, pure_bind]
        obtain ⟨new, rfl, -⟩ := added₁
        exact finish e₁ (sub.append_right new) added full
      · simp only [Bool.not_true, Bool.false_eq_true, if_false]
        rw [Projecting.exec_bind_ok ran₁]
        exact finish e₂ related₁ added full
    · have notObject : ∀ inner, v = .object inner → False :=
        fun inner isIt => isObject ⟨inner, isIt⟩
      have added : Adds outU outU (fieldKeys reg ms f) := by
        rw [fieldKeys_dropped present unwrapped notObject]
        exact adds_nil outU
      split at full
      · exact (notObject _ rfl).elim
      · simp only [pure_bind] at full
        cases included : d.included
        · simp only [Bool.not_false, if_true, pure_bind]
          exact finish e₁ sub added full
        · simp only [Bool.not_true, Bool.false_eq_true, if_false, pure_bind]
          exact finish e₁ sub added full

theorem openSub_nil {s : NodeSet} {info : TypeViews} {out : List (String × Value)} :
    OpenSub reg cfg s info [] out := by
  intro e outU resU sub _ _ full
  rw [Uncached.writeOpen.eq_1] at full
  cases full
  exact ⟨out, e, by rw [writeOpen.eq_1]; rfl, sub, adds_nil outU⟩

/-- A member of an object of no declared type keeps the relation: written at the end of both
objects with related values, or left out here and written by the full projection only. -/
theorem openSub_cons {s : NodeSet} {info : TypeViews} {k : String} {v : Value}
    {rest out : List (String × Value)} (later : ∀ out, OpenSub reg cfg s info rest out)
    (projected : ∀ d : Decision, ValueSub reg cfg d.children none v) :
    OpenSub reg cfg s info ((k, v) :: rest) out := by
  intro e outU resU sub fresh once full
  have restOnce : ∀ m ∈ rest, WritesOnce reg none m.2 :=
    fun m mem => once m (List.mem_cons_of_mem _ mem)
  rw [List.map_cons] at fresh ⊢
  rw [Uncached.writeOpen.eq_2] at full
  simp only [decide_anyDeep, Decision.shown, if_true] at full
  obtain ⟨u, valueFull, full⟩ := bind_eq_ok full
  simp only [pure_bind, setMember_of_not_mem fresh.head] at full
  have added : Adds outU (outU ++ [(k, u)]) [k] := ⟨[(k, u)], rfl, rfl⟩
  have freshRest := Fresh.after (show Fresh outU ([k] ++ rest.map Prod.fst) from fresh) added
  rw [writeOpen.eq_2, Projecting.exec_bind_ok (Projecting.exec_decideHere _ _ _ _)]
  dsimp only
  cases included : (e.decide s k info).1.included
  · simp only [Bool.false_eq_true, if_false, pure_bind]
    obtain ⟨res, e', ran, related, added'⟩ :=
      later out _ (sub.append_right [(k, u)]) freshRest restOnce full
    exact ⟨res, e', ran, related, added.trans added'⟩
  · obtain ⟨w, e₁, ran₁, relatedW⟩ :=
      projected _ _ valueFull (once (k, v) List.mem_cons_self)
    have newHere : k ∉ out.map Prod.fst := fun mem => fresh.head (sub.keys_subset mem)
    simp only [if_true]
    rw [Projecting.exec_bind_ok ran₁]
    simp only [pure_bind, setMember_of_not_mem newHere]
    obtain ⟨res, e', ran, related, added'⟩ :=
      later _ e₁ (sub.snoc relatedW) freshRest restOnce full
    exact ⟨res, e', ran, related, added.trans added'⟩

/-- Projecting under any node set, from any engine, gives a sub-document of the projection with
everything selected, whenever that succeeds and writes no key twice. -/
theorem projectValue_sub (s : NodeSet) (ty : Option String) (v : Value) :
    ValueSub reg cfg s ty v :=
  projectValue.induct reg (ValueSub reg cfg) (ObjectSub reg cfg) (ClosedSub reg cfg)
    (OpenSub reg cfg) (ItemsSub reg cfg)
    (fun _ _ _ ih => valueSub_array ih)
    (fun _ _ _ ih => valueSub_object ih)
    (fun _ _ _ notArray notObject => valueSub_scalar notArray notObject)
    (fun _ _ _ _ openIH closedIH => objectSub_typed openIH closedIH)
    (fun _ _ _ openIH _ => objectSub_untyped openIH)
    (fun _ _ _ _ => closedSub_nil)
    (fun _ _ _ _ _ _ absent rest => closedSub_absent absent rest)
    (fun _ _ _ _ _ _ _ _ present rest inlined projected =>
      closedSub_present present rest inlined projected)
    (fun _ _ _ => openSub_nil)
    (fun _ _ _ _ _ _ later projected => openSub_cons later projected)
    (fun _ _ => itemsSub_nil)
    (fun _ _ _ _ head tail => itemsSub_cons head tail)
    s ty v

end Removal

end Projection

/-- **Filtering only removes.** Whatever the request and whatever the engine remembers, its
projection of a document is a sub-document of the document's projection with no expression,
made from an engine whose remembered any-deep decisions are right, as long as that projection
succeeds and writes no key twice into one object. -/
theorem filterValue_subDocument (reg : Registry) (x : Context) (v : Json.Value) (e : Engine)
    {e₀ : Engine} {u : Json.Value} (kept : e₀.AnyDeepCached)
    (full : (Projecting.exec (filterValue reg ⟨none, .anyDeep, x.rootType⟩ v) e₀).1 = .ok u)
    (once : Projection.WritesOnce reg (some x.rootType) v) :
    ∃ w, (Projecting.exec (filterValue reg x v) e).1 = .ok w ∧ Json.SubDoc w u := by
  unfold filterValue at full ⊢
  by_cases known : reg.contains x.rootType = true
  · rw [if_pos known] at full ⊢
    obtain ⟨e', -, ran⟩ :=
      Uncached.projectValue_anyDeep_eq reg e₀.config kept (some x.rootType) v
    rw [ran] at full
    obtain ⟨w, e'', filtered, related⟩ :=
      Projection.projectValue_sub x.nodes (some x.rootType) v e full once
    exact ⟨w, by rw [filtered], related⟩
  · rw [if_neg known] at full
    cases full

/-- A schema whose type `Outer` writes `x` and unwraps a field of type `Inner`, which writes `x`
too, in view `other` only. -/
def shadowingSchema : SchemaFile :=
  { types := [{ name := "Inner", fields := [{ name := "x", views := ["other"] }] },
      { name := "Outer", fields := [{ name := "x" },
        { name := "inner", valueType := some "Inner", unwrapped := true }] }] }

/-- The views and fields of the two types of `shadowingSchema`. -/
theorem shadowingSchema_types :
    (Registry.ofSchemaUnchecked shadowingSchema {}).introspect "Outer" =
        .ok ⟨"Outer", [("base", ["x", "inner"])], ["inner"], false⟩ ∧
      (Registry.ofSchemaUnchecked shadowingSchema {}).introspect "Inner" =
        .ok ⟨"Inner", [("other", ["x"])], [], false⟩ ∧
      (Registry.ofSchemaUnchecked shadowingSchema {}).fields "Outer" =
        .ok [{ name := "x" }, { name := "inner", valueType := some "Inner", unwrapped := true }] ∧
      (Registry.ofSchemaUnchecked shadowingSchema {}).fields "Inner" =
        .ok [{ name := "x", views := ["other"] }] :=
  ⟨rfl, rfl, rfl, rfl⟩

/-- Without an outer `x` nothing is written twice, and the expression `base`, which leaves the
inner `x` out, writes a sub-document of the full answer. -/
theorem inlined_member_subDocument :
    (Engine.new {}).AnyDeepCached ∧
      (Projecting.exec (filterValue (Registry.ofSchemaUnchecked shadowingSchema {})
          ⟨none, .anyDeep, "Outer"⟩ (.object [("inner", .object [("x", .ofInt 2)])]))
          (Engine.new {})).1 = .ok (.object [("x", .ofInt 2)]) ∧
      Projection.WritesOnce (Registry.ofSchemaUnchecked shadowingSchema {}) (some "Outer")
        (.object [("inner", .object [("x", .ofInt 2)])]) ∧
      ∃ w, (Projecting.exec (filterValue (Registry.ofSchemaUnchecked shadowingSchema {})
          ⟨some "base", .nodes (NodeList.ofForest [.mk (.exact "base") {} 1 []]), "Outer"⟩
          (.object [("inner", .object [("x", .ofInt 2)])])) (Engine.new {})).1 = .ok w ∧
        Json.SubDoc w (.object [("x", .ofInt 2)]) := by
  obtain ⟨outer, inner, outerFields, innerFields⟩ := shadowingSchema_types
  have known : (Registry.ofSchemaUnchecked shadowingSchema {}).contains "Outer" = true := rfl
  have kept := Engine.anyDeepCached_new {}
  obtain ⟨e', -, ran⟩ := Uncached.projectValue_anyDeep_eq
    (Registry.ofSchemaUnchecked shadowingSchema {}) {} kept (some "Outer")
    (.object [("inner", .object [("x", .ofInt 2)])])
  have full : (Projecting.exec (filterValue (Registry.ofSchemaUnchecked shadowingSchema {})
      ⟨none, .anyDeep, "Outer"⟩ (.object [("inner", .object [("x", .ofInt 2)])]))
      (Engine.new {})).1 = .ok (.object [("x", .ofInt 2)]) := by
    simp only [filterValue, known, if_true, ran]
    simp [Bind.bind, Except.bind, pure, Except.pure, Uncached.projectValue, Uncached.writeObject,
      Uncached.writeClosed, outer, inner, outerFields, innerFields, Projection.memberOf,
      Json.setMember, Decision.shown, Json.Value.ofInt]
  have once : Projection.WritesOnce (Registry.ofSchemaUnchecked shadowingSchema {}) (some "Outer")
      (.object [("inner", .object [("x", .ofInt 2)])]) := by
    rw [Projection.WritesOnce, Projection.levelKeys_closed outer rfl outerFields,
      Projection.levelOnce_closed outer rfl outerFields]
    simp only [List.flatMap_cons, List.flatMap_nil, List.append_nil, List.forall_mem_cons,
      List.not_mem_nil, IsEmpty.forall_iff, implies_true, and_true]
    simp only [Projection.fieldKeys, Projection.FieldOnce, Projection.memberOf,
      Projection.levelKeys_closed inner rfl innerFields,
      Projection.levelOnce_closed inner rfl innerFields, Json.Value.ofInt, Projection.WritesOnce,
      String.reduceBEq, if_true, if_false, Option.map_none, Bool.false_eq_true, List.flatMap_cons,
      List.flatMap_nil, List.append_nil, List.nil_append, List.forall_mem_cons, List.not_mem_nil,
      IsEmpty.forall_iff, implies_true, and_true, List.nodup_cons, List.nodup_nil,
      beq_self_eq_true, not_false_eq_true]
  exact ⟨kept, full, once, filterValue_subDocument _ _ _ _ kept full once⟩

/-- The proviso cannot be dropped. `Outer` writes `x` and inlines `Inner`, which writes `x` in
view `other` only: with no expression the inner value replaces the outer one, while the
expression `base` keeps the outer `x` and leaves the inner one out, a value the full answer does
not have. -/
theorem unwrapped_shadow_not_subDocument :
    ((Session.new (Registry.ofSchemaUnchecked shadowingSchema {}) {}).apply (some "base")
        (some "Outer") (.object [("x", .ofInt 1), ("inner", .object [("x", .ofInt 2)])])).1 =
      .ok ⟨.object [("x", .ofInt 1)], true⟩ ∧
    ((Session.new (Registry.ofSchemaUnchecked shadowingSchema {}) {}).apply none
        (some "Outer") (.object [("x", .ofInt 1), ("inner", .object [("x", .ofInt 2)])])).1 =
      .ok ⟨.object [("x", .ofInt 2)], false⟩ ∧
    ¬ Json.SubDoc (.object [("x", .ofInt 1)]) (.object [("x", .ofInt 2)]) := by
  obtain ⟨outer, inner, outerFields, innerFields⟩ := shadowingSchema_types
  have known : (Registry.ofSchemaUnchecked shadowingSchema {}).contains "Outer" = true := rfl
  have compiled : Selection.parse "base" = .ok [.mk (.exact "base") {} 1 []] := rfl
  have notAll : (Text.trim "base" == "**") = false := by decide
  have names := Registry.namesViews_ofSchema shadowingSchema {} (by decide)
  obtain ⟨_, _, filtered⟩ := SessionSound.apply_step names (sessionSound_new _ {}) (some "base")
    (some "Outer") (.object [("x", .ofInt 1), ("inner", .object [("x", .ofInt 2)])])
  obtain ⟨_, _, unfiltered⟩ := SessionSound.apply_step names (sessionSound_new _ {}) none
    (some "Outer") (.object [("x", .ofInt 1), ("inner", .object [("x", .ofInt 2)])])
  refine ⟨?_, ?_, ?_⟩
  · rw [filtered]
    simp [Session.applyUncached, NodeSet.ofExpression, compiled, notAll, known, Bind.bind,
      Except.bind, pure, Except.pure, Except.map, Uncached.projectValue, Uncached.writeObject,
      Uncached.writeClosed, outer, inner, outerFields, innerFields, Projection.memberOf,
      Json.setMember, Decision.shown, Decision.hidden, Json.Value.ofInt, FieldSelection.decide,
      decideNodes, verdict, Scan.step, viewNode?, TypeViews.isUnwrapped, NameMatcher.accepts,
      TypeViews.viewContains, TypeViews.members?, NodeList.ofForest, Node.matcher, Node.name,
      Node.marks, Node.children, NameMatcher.isExact, NameMatcher.literal, List.lookup_cons,
      List.lookup_nil, NodeSet.isAnyDeep]
  · rw [unfiltered]
    simp [Session.applyUncached, NodeSet.ofExpression, known, Bind.bind, Except.bind, pure,
      Except.pure, Uncached.projectValue, Uncached.writeObject, Uncached.writeClosed, outer,
      inner, outerFields, innerFields, Projection.memberOf, Json.setMember, Decision.shown,
      Json.Value.ofInt, NodeSet.isAnyDeep]
  · intro related
    cases related with
    | object members =>
      cases members with
      | keep values _ => cases values
      | skip rest => cases rest

end FieldSelection

import FieldSelection.Proofs.Projection.SubDocument
import FieldSelection.Proofs.Session.Transparency
/-!
# Filtering twice

Where no registered type unwraps a field, what a projection writes is left as it is by the same
projection (`Uncached.projectValue_idempotent`): filtering what a filter wrote, under the same
node set and type, changes nothing. Decisions are made by `decide` afresh at every property, and
a decision reads the node set, the property and the type's views, never a value. So the second
pass makes, for every member it meets, the decision the first pass made for it, and finds there
the value the first pass wrote, which is already left as it is. Through a sound engine the same
holds of a request's filtering (`EngineSound.filterValue_idempotent`), the second filtering
running on the engine the first one left.

Three things make this more than a plain induction.

* Documents have distinct keys in every object, as every document that is read has
  (`Json.Value.KeysDistinct`). An open object then writes its included members in document
  order, each once (`writeOpen_ok_iff`), and the second pass meets them in that order.
* A closed type may declare one name twice, with different value types. The first pass writes
  the member under each of them in turn and the last write stays; the second pass writes each
  again, and the values it writes for the earlier ones differ on the way. The two passes agree
  off the keys still to be written (`AgreeOff`), and on a key whose last field is written, since
  nothing after it changes the key (`writeClosed_lookup_of_not_writes`).
* The second pass must not fail on those values. Projecting again a projection of a member
  succeeds wherever projecting the member itself succeeds (`projectValue_ok_of_projected`): a
  projection keeps only members, under their own keys, and only projections of them.
-/

namespace FieldSelection

open Json

/-! ## Distinct keys and association lists -/

namespace Json

/-- No object of the value, at any depth, has two members of one key, as in every document that
is read, where a repeated key keeps one member. -/
def Value.KeysDistinct : Value → Prop
  | .array items => ∀ v ∈ items, v.KeysDistinct
  | .object ms => (ms.map Prod.fst).Nodup ∧ ∀ m ∈ ms, m.2.KeysDistinct
  | _ => True
termination_by v => sizeOf v
decreasing_by
  · have := List.sizeOf_lt_of_mem ‹_›
    simp
    omega
  · have := List.sizeOf_lt_of_mem ‹_›
    cases ‹String × Value›
    simp at this ⊢
    omega

@[simp] theorem Value.keysDistinct_array (items : List Value) :
    (Value.array items).KeysDistinct ↔ ∀ v ∈ items, v.KeysDistinct := by
  rw [Value.KeysDistinct]

@[simp] theorem Value.keysDistinct_object (ms : List (String × Value)) :
    (Value.object ms).KeysDistinct ↔ (ms.map Prod.fst).Nodup ∧ ∀ m ∈ ms, m.2.KeysDistinct := by
  rw [Value.KeysDistinct]

theorem Value.sizeOf_lt_of_mem_items {items : List Value} {v : Value} (mem : v ∈ items) :
    sizeOf v < sizeOf (Value.array items) := by
  have := List.sizeOf_lt_of_mem mem
  simp
  omega

theorem Value.sizeOf_lt_of_mem_members {ms : List (String × Value)} {m : String × Value}
    (mem : m ∈ ms) : sizeOf m.2 < sizeOf (Value.object ms) := by
  have := List.sizeOf_lt_of_mem mem
  obtain ⟨k, y⟩ := m
  simp at this ⊢
  omega

theorem lookup_cons_self (k : String) (v : Value) (ms : List (String × Value)) :
    ((k, v) :: ms).lookup k = some v := by
  simp

theorem lookup_cons_ne {k k' : String} (other : k' ≠ k) (v : Value) (ms : List (String × Value)) :
    ((k, v) :: ms).lookup k' = ms.lookup k' := by
  have differs : (k' == k) = false := by simpa using other
  simp [List.lookup_cons, differs]

theorem mem_of_lookup_eq_some {ms : List (String × Value)} {k : String} {v : Value}
    (found : ms.lookup k = some v) : (k, v) ∈ ms := by
  induction ms with
  | nil => simp [List.lookup_nil] at found
  | cons m rest ih =>
    obtain ⟨k', v'⟩ := m
    by_cases same : k = k'
    · subst same
      rw [lookup_cons_self] at found
      cases found
      exact List.mem_cons_self
    · rw [lookup_cons_ne same] at found
      exact List.mem_cons_of_mem _ (ih found)

theorem lookup_eq_some_of_mem {ms : List (String × Value)} (distinct : (ms.map Prod.fst).Nodup)
    {k : String} {v : Value} (present : (k, v) ∈ ms) : ms.lookup k = some v := by
  induction ms with
  | nil => cases present
  | cons m rest ih =>
    obtain ⟨k', v'⟩ := m
    simp only [List.map_cons, List.nodup_cons, List.mem_map] at distinct
    rcases List.mem_cons.1 present with here | later
    · cases here
      exact lookup_cons_self _ _ _
    · have other : k ≠ k' := fun same => distinct.1 ⟨(k, v), later, same⟩
      rw [lookup_cons_ne other]
      exact ih distinct.2 later

/-- Writing under `k` leaves `k` with the value written. -/
theorem lookup_setMember_self (ms : List (String × Value)) (k : String) (v : Value) :
    (setMember ms k v).lookup k = some v := by
  induction ms with
  | nil => exact lookup_cons_self _ _ _
  | cons m rest ih =>
    obtain ⟨k', v'⟩ := m
    by_cases same : k' = k
    · simp [setMember, same]
    · have differs : (k' == k) = false := by simpa using same
      simp only [setMember, differs, Bool.false_eq_true, if_false]
      rw [lookup_cons_ne (Ne.symm same), ih]

/-- Writing under `k` leaves every other key as it was. -/
theorem lookup_setMember_ne (ms : List (String × Value)) {k k' : String} (other : k' ≠ k)
    (v : Value) : (setMember ms k v).lookup k' = ms.lookup k' := by
  induction ms with
  | nil => simp [setMember, lookup_cons_ne other, List.lookup_nil]
  | cons m rest ih =>
    obtain ⟨k'', v'⟩ := m
    by_cases same : k'' = k
    · subst same
      simp [setMember, lookup_cons_ne other]
    · have differs : (k'' == k) = false := by simpa using same
      simp only [setMember, differs, Bool.false_eq_true, if_false]
      by_cases here : k' = k''
      · subst here
        rw [lookup_cons_self, lookup_cons_self]
      · rw [lookup_cons_ne here, lookup_cons_ne here, ih]

/-- A member after a write is an old member or the one written. -/
theorem mem_setMember {ms : List (String × Value)} {k : String} {v : Value}
    {m : String × Value} (present : m ∈ setMember ms k v) : m ∈ ms ∨ m = (k, v) := by
  induction ms with
  | nil => exact .inr (List.mem_singleton.1 present)
  | cons m' rest ih =>
    obtain ⟨k', v'⟩ := m'
    unfold setMember at present
    split at present
    · rcases List.mem_cons.1 present with here | later
      · exact .inr here
      · exact .inl (List.mem_cons_of_mem _ later)
    · rcases List.mem_cons.1 present with here | later
      · exact .inl (here ▸ List.mem_cons_self)
      · exact (ih later).imp (List.mem_cons_of_mem _) id

theorem nodup_setMember {ms : List (String × Value)} (distinct : (ms.map Prod.fst).Nodup)
    (k : String) (v : Value) : ((setMember ms k v).map Prod.fst).Nodup := by
  by_cases present : k ∈ ms.map Prod.fst
  · rwa [setMember_keys ms k v present]
  · rw [setMember_of_not_mem present, List.map_append, List.nodup_append]
    refine ⟨distinct, List.nodup_singleton k, fun a mem b added => ?_⟩
    simp only [List.map_cons, List.map_nil, List.mem_singleton] at added
    subst added
    rintro rfl
    exact present mem

end Json

/-- The value that `memberOf` finds is the one `lookup` finds. -/
theorem Projection.memberOf_val (ms : List (String × Value)) (k : String) :
    (Projection.memberOf ms k).map Subtype.val = ms.lookup k := by
  induction ms with
  | nil => simp [Projection.memberOf, List.lookup_nil]
  | cons m rest ih =>
    obtain ⟨k', v'⟩ := m
    by_cases same : k' = k
    · subst same
      simp [Projection.memberOf]
    · have differs : (k' == k) = false := by simpa using same
      simp only [Projection.memberOf, differs, Bool.false_eq_true, if_false, Option.map_map]
      rw [Json.lookup_cons_ne (Ne.symm same), ← ih]
      rfl

/-- No registered type unwraps a field. -/
def Registry.NoUnwrapped (reg : Registry) : Prop :=
  ∀ n e, (n, e) ∈ reg.types → ∀ f ∈ e.fields, f.unwrapped = false

theorem Registry.NoUnwrapped.fields {reg : Registry} (plain : reg.NoUnwrapped) {n : String}
    {fields : List FieldDecl} (found : reg.fields n = .ok fields) :
    ∀ f ∈ fields, f.unwrapped = false := by
  unfold Registry.fields at found
  split at found
  · rename_i e looked
    cases found
    obtain ⟨before, after, split, -⟩ := List.lookup_eq_some_iff.1 looked
    exact plain n e (by rw [split]; exact List.mem_append_right _ List.mem_cons_self)
  · cases found

theorem Registry.noUnwrapped_register {reg : Registry} (kept : reg.NoUnwrapped) {t : TypeDecl}
    (plainType : ∀ f ∈ t.fields, f.unwrapped = false) : (reg.register t).NoUnwrapped := by
  intro n e mem
  rcases Registry.mem_register mem with old | ⟨-, rfl⟩
  · exact kept n e old
  · exact plainType

/-- A registry read from a schema unwraps no field if the schema declares none unwrapped. -/
theorem Registry.noUnwrapped_ofSchema (sf : SchemaFile) (cfg : FilterConfig)
    (plain : ∀ t ∈ sf.types, ∀ f ∈ t.fields, f.unwrapped = false) :
    (Registry.ofSchemaUnchecked sf cfg).NoUnwrapped := by
  have registered : ∀ {types : List TypeDecl}, (∀ t ∈ types, ∀ f ∈ t.fields, f.unwrapped = false) →
      ∀ {reg : Registry}, reg.NoUnwrapped → (types.foldl Registry.register reg).NoUnwrapped := by
    intro types
    induction types with
    | nil => exact fun _ _ kept => kept
    | cons t ts ih =>
      intro plainTypes reg kept
      exact ih (fun u mem => plainTypes u (List.mem_cons_of_mem t mem))
        (Registry.noUnwrapped_register kept (plainTypes t List.mem_cons_self))
  exact registered plain fun _ _ absent => by cases absent

/-- How objects of type `ty` are written: the views of the type, and its declared fields when it
is closed; none for an open or untyped one. -/
def Registry.layout (reg : Registry) :
    Option String → Except SchemaError (TypeViews × Option (List FieldDecl))
  | none => .ok (Registry.untyped, none)
  | some n => do
    let info ← reg.introspect n
    if info.isOpen then pure (info, none) else pure (info, some (← reg.fields n))

/-- The declared fields of a type's layout are plain where the registry unwraps no field. -/
theorem Registry.layout_plain {reg : Registry} (plain : reg.NoUnwrapped) :
    ∀ {ty : Option String} {info : TypeViews} {fields : List FieldDecl},
      reg.layout ty = .ok (info, some fields) → ∀ f ∈ fields, f.unwrapped = false
  | none, _, _, laid => by simp [Registry.layout] at laid
  | some n, _, fields, laid => by
    simp only [Registry.layout] at laid
    obtain ⟨views, -, laid⟩ := Projection.bind_eq_ok laid
    split at laid
    · cases laid
    · obtain ⟨declared, found, laid⟩ := Projection.bind_eq_ok laid
      cases laid
      exact plain.fields found

/-! ## The steps of the uncached traversal -/

namespace Uncached

section Steps

variable {reg : Registry} {cfg : FilterConfig}

theorem writeObject_eq_layout (s : NodeSet) (ty : Option String)
    (ms out : List (String × Value)) :
    writeObject reg cfg s ty ms out = reg.layout ty >>= fun l =>
      match l.2 with
      | none => writeOpen reg cfg s l.1 ms out
      | some fields => writeClosed reg cfg s l.1 ms fields out := by
  cases ty with
  | none =>
    rw [writeObject.eq_2]
    rfl
  | some n =>
    rw [writeObject.eq_1]
    simp only [Registry.layout]
    cases reg.introspect n with
    | error e => rfl
    | ok info =>
      simp only [bind, Except.bind]
      split
      · rfl
      · cases reg.fields n <;> rfl

theorem projectValue_array_ok {s : NodeSet} {ty : Option String} {items : List Value}
    {v : Value} (ran : projectValue reg cfg s ty (.array items) = .ok v) :
    ∃ ws, projectItems reg cfg s ty items = .ok ws ∧ v = .array ws := by
  rw [projectValue.eq_1] at ran
  obtain ⟨ws, items', wrote⟩ := Projection.bind_eq_ok ran
  exact ⟨ws, items', (Except.ok.inj wrote).symm⟩

theorem projectValue_object_ok {s : NodeSet} {ty : Option String}
    {ms : List (String × Value)} {v : Value} (ran : projectValue reg cfg s ty (.object ms) = .ok v) :
    ∃ out, writeObject reg cfg s ty ms [] = .ok out ∧ v = .object out := by
  rw [projectValue.eq_2] at ran
  obtain ⟨out, written, wrote⟩ := Projection.bind_eq_ok ran
  exact ⟨out, written, (Except.ok.inj wrote).symm⟩

theorem projectItems_ok_iff {s : NodeSet} {ty : Option String} :
    ∀ {vs ws : List Value}, projectItems reg cfg s ty vs = .ok ws ↔
      List.Forall₂ (fun v w => projectValue reg cfg s ty v = .ok w) vs ws
  | [], ws => by
    rw [projectItems.eq_1]
    cases ws with
    | nil => simp [pure, Except.pure]
    | cons w ws => simp [pure, Except.pure]
  | v :: vs, ws => by
    rw [projectItems.eq_2]
    constructor
    · intro ran
      obtain ⟨w, head, ran⟩ := Projection.bind_eq_ok ran
      obtain ⟨ws', tail, ran⟩ := Projection.bind_eq_ok ran
      cases ran
      exact .cons head (projectItems_ok_iff.1 tail)
    · intro related
      cases related with
      | cons head tail =>
        rw [head]
        simp only [bind, Except.bind]
        rw [projectItems_ok_iff.2 tail]
        rfl

/-- Projecting the items fails only where projecting one of them fails. -/
theorem projectItems_ok_of_forall {s : NodeSet} {ty : Option String} :
    ∀ {vs : List Value}, (∀ v ∈ vs, ∃ w, projectValue reg cfg s ty v = .ok w) →
      ∃ ws, projectItems reg cfg s ty vs = .ok ws
  | [], _ => ⟨[], projectItems_ok_iff.2 .nil⟩
  | v :: vs, each => by
    obtain ⟨w, head⟩ := each v List.mem_cons_self
    obtain ⟨ws, tail⟩ := projectItems_ok_of_forall fun u mem => each u (List.mem_cons_of_mem _ mem)
    exact ⟨w :: ws, projectItems_ok_iff.2 (.cons head (projectItems_ok_iff.1 tail))⟩

/-- Where projecting the items succeeds, projecting each item succeeds. -/
theorem projected_of_projectItems_ok {s : NodeSet} {ty : Option String} {vs ws : List Value}
    (ran : projectItems reg cfg s ty vs = .ok ws) :
    ∀ v ∈ vs, ∃ w, projectValue reg cfg s ty v = .ok w := by
  have related := projectItems_ok_iff.1 ran
  clear ran
  induction related with
  | nil => exact fun _ absent => by cases absent
  | @cons v w _ _ head _ ih =>
    intro u mem
    rcases List.mem_cons.1 mem with rfl | later
    · exact ⟨w, head⟩
    · exact ih u later

/-- Every projected item is the projection of an item. -/
theorem projectItems_members {s : NodeSet} {ty : Option String} {vs ws : List Value}
    (ran : projectItems reg cfg s ty vs = .ok ws) :
    ∀ w ∈ ws, ∃ v ∈ vs, projectValue reg cfg s ty v = .ok w := by
  have related := projectItems_ok_iff.1 ran
  clear ran
  induction related with
  | nil => exact fun _ absent => by cases absent
  | @cons v w _ _ head _ ih =>
    intro u mem
    rcases List.mem_cons.1 mem with rfl | later
    · exact ⟨v, List.mem_cons_self, head⟩
    · obtain ⟨v', source, projected⟩ := ih u later
      exact ⟨v', List.mem_cons_of_mem _ source, projected⟩

/-- Projecting the projected items again gives them back, where each item's projection is left
as it is. -/
theorem projectItems_again {s : NodeSet} {ty : Option String} {vs ws : List Value}
    (fixed : ∀ v ∈ vs, ∀ w, projectValue reg cfg s ty v = .ok w → projectValue reg cfg s ty w = .ok w)
    (ran : projectItems reg cfg s ty vs = .ok ws) : projectItems reg cfg s ty ws = .ok ws :=
  projectItems_ok_iff.2 (List.forall₂_same.2 fun w mem => by
    obtain ⟨v, source, projected⟩ := projectItems_members ran w mem
    exact fixed v source w projected)

/-- A closed field that is not unwrapped: absent, left out, or projected and written. -/
theorem writeClosed_cons (s : NodeSet) (info : TypeViews) (ms : List (String × Value))
    {f : FieldDecl} (plainField : f.unwrapped = false) (fs : List FieldDecl)
    (out : List (String × Value)) :
    writeClosed reg cfg s info ms (f :: fs) out =
      match ms.lookup f.name with
      | none => writeClosed reg cfg s info ms fs out
      | some y =>
        if (decide s f.name info cfg).included then
          projectValue reg cfg (decide s f.name info cfg).children f.valueType y >>= fun w =>
            writeClosed reg cfg s info ms fs (setMember out f.name w)
        else writeClosed reg cfg s info ms fs out := by
  rw [writeClosed.eq_2]
  have found := Projection.memberOf_val ms f.name
  rcases member : Projection.memberOf ms f.name with _ | ⟨y, _⟩
  · rw [member] at found
    simp only [← found, Option.map_none]
    rfl
  · rw [member] at found
    simp only [← found, Option.map_some]
    by_cases shown : (decide s f.name info cfg).included = true
    · simp only [shown, Bool.not_true, Bool.false_eq_true, if_false, if_true, plainField]
      rfl
    · simp only [shown, Bool.not_false, if_true]
      rfl

end Steps

/-! ## Open objects -/

section Open

variable {reg : Registry} {cfg : FilterConfig} {s : NodeSet} {info : TypeViews}

/-- Writing the members of an open object fails only where projecting an included member
fails. -/
theorem writeOpen_ok_of_forall :
    ∀ {ms : List (String × Value)}, (∀ m ∈ ms, (decide s m.1 info cfg).included = true →
      ∃ w, projectValue reg cfg (decide s m.1 info cfg).children none m.2 = .ok w) →
    ∀ out, ∃ r, writeOpen reg cfg s info ms out = .ok r
  | [], _, out => ⟨out, by rw [writeOpen.eq_1]; rfl⟩
  | (k, y) :: rest, each, out => by
    have later : ∀ out, ∃ r, writeOpen reg cfg s info rest out = .ok r :=
      writeOpen_ok_of_forall fun m mem => each m (List.mem_cons_of_mem _ mem)
    rw [writeOpen.eq_2]
    split
    · rename_i shown
      obtain ⟨w, projected⟩ := each (k, y) List.mem_cons_self shown
      rw [projected]
      exact later _
    · exact later out

/-- Where writing the members of an open object succeeds, projecting each included member
succeeds. -/
theorem projected_of_writeOpen_ok :
    ∀ {ms out r : List (String × Value)}, writeOpen reg cfg s info ms out = .ok r →
      ∀ m ∈ ms, (decide s m.1 info cfg).included = true →
        ∃ w, projectValue reg cfg (decide s m.1 info cfg).children none m.2 = .ok w
  | [], _, _, _, _, absent, _ => by cases absent
  | (k, y) :: rest, out, r, ran, m, mem, shown => by
    rw [writeOpen.eq_2] at ran
    split at ran
    · obtain ⟨w, projected, ran⟩ := Projection.bind_eq_ok ran
      rcases List.mem_cons.1 mem with rfl | later
      · exact ⟨w, projected⟩
      · exact projected_of_writeOpen_ok ran m later shown
    · rcases List.mem_cons.1 mem with rfl | later
      · contradiction
      · exact projected_of_writeOpen_ok ran m later shown

/-- A member that writing an open object adds is an included member of the object, projected
under its own key. -/
theorem writeOpen_members :
    ∀ {ms out r : List (String × Value)}, writeOpen reg cfg s info ms out = .ok r →
      ∀ m ∈ r, m ∈ out ∨ ∃ y, (m.1, y) ∈ ms ∧ (decide s m.1 info cfg).included = true ∧
        projectValue reg cfg (decide s m.1 info cfg).children none y = .ok m.2
  | [], out, r, ran, m, mem => by
    rw [writeOpen.eq_1] at ran
    cases Except.ok.inj ran
    exact .inl mem
  | (k, y) :: rest, out, r, ran, m, mem => by
    rw [writeOpen.eq_2] at ran
    split at ran
    · rename_i shown
      obtain ⟨w, projected, ran⟩ := Projection.bind_eq_ok ran
      rcases writeOpen_members ran m mem with old | ⟨y', source, fromRest⟩
      · rcases Json.mem_setMember old with older | rfl
        · exact .inl older
        · exact .inr ⟨y, List.mem_cons_self, shown, projected⟩
      · exact .inr ⟨y', List.mem_cons_of_mem _ source, fromRest⟩
    · rcases writeOpen_members ran m mem with old | ⟨y', source, fromRest⟩
      · exact .inl old
      · exact .inr ⟨y', List.mem_cons_of_mem _ source, fromRest⟩

/-- An open object with distinct keys, none of them among the members `out`, writes after `out`
its included members in document order, each projected. -/
theorem writeOpen_ok_iff :
    ∀ {ms out r : List (String × Value)}, (ms.map Prod.fst).Nodup →
      (∀ k ∈ ms.map Prod.fst, k ∉ out.map Prod.fst) →
      (writeOpen reg cfg s info ms out = .ok r ↔
        ∃ written, r = out ++ written ∧ List.Forall₂ (fun m w => m.1 = w.1 ∧
          projectValue reg cfg (decide s m.1 info cfg).children none m.2 = .ok w.2)
          (ms.filter fun m => (decide s m.1 info cfg).included) written)
  | [], out, r, _, _ => by
    rw [writeOpen.eq_1]
    constructor
    · intro ran
      cases Except.ok.inj ran
      exact ⟨[], by simp, .nil⟩
    · rintro ⟨written, rfl, related⟩
      cases related
      simp only [List.append_nil]
      rfl
  | (k, y) :: rest, out, r, distinct, fresh => by
    simp only [List.map_cons, List.nodup_cons] at distinct
    have newKey : k ∉ out.map Prod.fst := fresh k List.mem_cons_self
    have freshAfter : ∀ w, ∀ k' ∈ rest.map Prod.fst, k' ∉ (out ++ [(k, w)]).map Prod.fst := by
      intro w k' mem
      simp only [List.map_append, List.map_cons, List.map_nil, List.mem_append,
        List.mem_singleton, not_or]
      exact ⟨fresh k' (List.mem_cons_of_mem _ mem), fun same => distinct.1 (same ▸ mem)⟩
    have freshRest : ∀ k' ∈ rest.map Prod.fst, k' ∉ out.map Prod.fst :=
      fun k' mem => fresh k' (List.mem_cons_of_mem _ mem)
    rw [writeOpen.eq_2]
    by_cases shown : (decide s k info cfg).included = true
    · rw [if_pos shown, List.filter_cons_of_pos (by simpa using shown)]
      constructor
      · intro ran
        obtain ⟨w, projected, ran⟩ := Projection.bind_eq_ok ran
        change writeOpen reg cfg s info rest (setMember out k w) = .ok r at ran
        rw [setMember_of_not_mem newKey] at ran
        obtain ⟨written, rfl, related⟩ := (writeOpen_ok_iff distinct.2 (freshAfter w)).1 ran
        exact ⟨(k, w) :: written, by simp, .cons ⟨rfl, projected⟩ related⟩
      · rintro ⟨_, rfl, related⟩
        cases related with
        | @cons _ w _ written head tail =>
        obtain ⟨sameKey, projected⟩ := head
        obtain ⟨k', w⟩ := w
        dsimp only at sameKey projected
        subst sameKey
        rw [projected]
        change writeOpen reg cfg s info rest (setMember out k w) = .ok (out ++ (k, w) :: written)
        rw [setMember_of_not_mem newKey]
        exact (writeOpen_ok_iff distinct.2 (freshAfter w)).2 ⟨written, by simp, tail⟩
    · rw [if_neg shown, List.filter_cons_of_neg (by simpa using shown)]
      exact writeOpen_ok_iff distinct.2 freshRest

end Open

/-! ## Closed objects -/

/-- Key `k` is written by the fields `fs` of an object with members `ms`: a field has it as its
name, the object has a member under it, and the decision shows it. -/
def WritesKey (cfg : FilterConfig) (s : NodeSet) (info : TypeViews) (ms : List (String × Value))
    (fs : List FieldDecl) (k : String) : Prop :=
  k ∈ fs.map FieldDecl.name ∧ (ms.lookup k).isSome ∧ (decide s k info cfg).included = true

section Closed

variable {reg : Registry} {cfg : FilterConfig} {s : NodeSet} {info : TypeViews}
  {ms : List (String × Value)}

theorem writesKey_cons_of_ne {f : FieldDecl} {fs : List FieldDecl} {k : String}
    (other : k ≠ f.name) (written : WritesKey cfg s info ms (f :: fs) k) :
    WritesKey cfg s info ms fs k := by
  obtain ⟨named, present, shown⟩ := written
  simp only [List.map_cons, List.mem_cons] at named
  exact ⟨named.resolve_left other, present, shown⟩

theorem writesKey_of_cons {f : FieldDecl} {fs : List FieldDecl} {k : String}
    (written : WritesKey cfg s info ms fs k) : WritesKey cfg s info ms (f :: fs) k :=
  ⟨List.mem_cons_of_mem _ written.1, written.2⟩

/-- Writing the declared fields fails only where projecting a shown member fails. -/
theorem writeClosed_ok_of_forall :
    ∀ {fs : List FieldDecl}, (∀ f ∈ fs, f.unwrapped = false) →
      (∀ f ∈ fs, ∀ y, ms.lookup f.name = some y → (decide s f.name info cfg).included = true →
        ∃ w, projectValue reg cfg (decide s f.name info cfg).children f.valueType y = .ok w) →
      ∀ out, ∃ r, writeClosed reg cfg s info ms fs out = .ok r
  | [], _, _, out => ⟨out, by rw [writeClosed.eq_1]; rfl⟩
  | f :: fs, plainFields, each, out => by
    have later := writeClosed_ok_of_forall
      (fun g mem => plainFields g (List.mem_cons_of_mem _ mem))
      (fun g mem => each g (List.mem_cons_of_mem _ mem))
    rw [writeClosed_cons s info ms (plainFields f List.mem_cons_self) fs out]
    split
    · exact later out
    · rename_i y found
      split
      · rename_i shown
        obtain ⟨w, projected⟩ := each f List.mem_cons_self y found shown
        rw [projected]
        exact later _
      · exact later out

/-- Where writing the declared fields succeeds, projecting each shown member succeeds. -/
theorem projected_of_writeClosed_ok :
    ∀ {fs : List FieldDecl} {out r : List (String × Value)}, (∀ f ∈ fs, f.unwrapped = false) →
      writeClosed reg cfg s info ms fs out = .ok r →
      ∀ f ∈ fs, ∀ y, ms.lookup f.name = some y → (decide s f.name info cfg).included = true →
        ∃ w, projectValue reg cfg (decide s f.name info cfg).children f.valueType y = .ok w
  | [], _, _, _, _, _, absent, _, _, _ => by cases absent
  | g :: fs, out, r, plainFields, ran, f, mem, y, found, shown => by
    rw [writeClosed_cons s info ms (plainFields g List.mem_cons_self) fs out] at ran
    have later : ∀ {out'}, writeClosed reg cfg s info ms fs out' = .ok r → f ∈ fs → _ :=
      fun ran' inRest => projected_of_writeClosed_ok
        (fun h mem => plainFields h (List.mem_cons_of_mem _ mem)) ran' f inRest y found shown
    rcases List.mem_cons.1 mem with rfl | inRest
    · simp only [found, shown, if_true] at ran
      obtain ⟨w, projected, -⟩ := Projection.bind_eq_ok ran
      exact ⟨w, projected⟩
    · split at ran
      · exact later ran inRest
      · split at ran
        · obtain ⟨w, -, ran⟩ := Projection.bind_eq_ok ran
          exact later ran inRest
        · exact later ran inRest

/-- A member that writing the declared fields adds is the projection of the member under the
name of one of the fields, as that field's type. -/
theorem writeClosed_members :
    ∀ {fs : List FieldDecl} {out r : List (String × Value)}, (∀ f ∈ fs, f.unwrapped = false) →
      writeClosed reg cfg s info ms fs out = .ok r →
      ∀ m ∈ r, m ∈ out ∨ ∃ f ∈ fs, f.name = m.1 ∧ ∃ y, ms.lookup f.name = some y ∧
        projectValue reg cfg (decide s f.name info cfg).children f.valueType y = .ok m.2
  | [], out, r, _, ran, m, mem => by
    rw [writeClosed.eq_1] at ran
    cases Except.ok.inj ran
    exact .inl mem
  | f :: fs, out, r, plainFields, ran, m, mem => by
    have plainRest : ∀ g ∈ fs, g.unwrapped = false :=
      fun g inRest => plainFields g (List.mem_cons_of_mem _ inRest)
    have later : ∀ {out'}, writeClosed reg cfg s info ms fs out' = .ok r →
        m ∈ out' ∨ ∃ g ∈ f :: fs, g.name = m.1 ∧ ∃ y, ms.lookup g.name = some y ∧
          projectValue reg cfg (decide s g.name info cfg).children g.valueType y = .ok m.2 :=
      fun ran' => (writeClosed_members plainRest ran' m mem).imp id <| by
        rintro ⟨g, inRest, rest⟩
        exact ⟨g, List.mem_cons_of_mem _ inRest, rest⟩
    rw [writeClosed_cons s info ms (plainFields f List.mem_cons_self) fs out] at ran
    split at ran
    · exact later ran
    · rename_i y found
      split at ran
      · obtain ⟨w, projected, ran⟩ := Projection.bind_eq_ok ran
        rcases later ran with old | fromField
        · rcases Json.mem_setMember old with older | rfl
          · exact .inl older
          · exact .inr ⟨f, List.mem_cons_self, rfl, y, found, projected⟩
        · exact .inr fromField
      · exact later ran

/-- A key the fields do not write keeps the value it had. -/
theorem writeClosed_lookup_of_not_writes :
    ∀ {fs : List FieldDecl} {out r : List (String × Value)} {k : String},
      (∀ f ∈ fs, f.unwrapped = false) → ¬ WritesKey cfg s info ms fs k →
      writeClosed reg cfg s info ms fs out = .ok r → r.lookup k = out.lookup k
  | [], out, r, k, _, _, ran => by
    rw [writeClosed.eq_1] at ran
    cases Except.ok.inj ran
    rfl
  | f :: fs, out, r, k, plainFields, unwritten, ran => by
    have plainRest : ∀ g ∈ fs, g.unwrapped = false :=
      fun g inRest => plainFields g (List.mem_cons_of_mem _ inRest)
    have unwrittenRest : ¬ WritesKey cfg s info ms fs k := fun written =>
      unwritten (writesKey_of_cons written)
    rw [writeClosed_cons s info ms (plainFields f List.mem_cons_self) fs out] at ran
    split at ran
    · exact writeClosed_lookup_of_not_writes plainRest unwrittenRest ran
    · rename_i y found
      split at ran
      · rename_i shown
        obtain ⟨w, -, ran⟩ := Projection.bind_eq_ok ran
        have other : k ≠ f.name := by
          rintro rfl
          exact unwritten ⟨List.mem_cons_self, by simp [found], shown⟩
        rw [writeClosed_lookup_of_not_writes plainRest unwrittenRest ran,
          Json.lookup_setMember_ne out other]
      · exact writeClosed_lookup_of_not_writes plainRest unwrittenRest ran

/-- A key the fields write has a value at the end. -/
theorem writeClosed_lookup_isSome :
    ∀ {fs : List FieldDecl} {out r : List (String × Value)} {k : String},
      (∀ f ∈ fs, f.unwrapped = false) → WritesKey cfg s info ms fs k →
      writeClosed reg cfg s info ms fs out = .ok r → (r.lookup k).isSome
  | [], _, _, _, _, written, _ => by simp [WritesKey] at written
  | f :: fs, out, r, k, plainFields, written, ran => by
    have plainRest : ∀ g ∈ fs, g.unwrapped = false :=
      fun g inRest => plainFields g (List.mem_cons_of_mem _ inRest)
    rw [writeClosed_cons s info ms (plainFields f List.mem_cons_self) fs out] at ran
    by_cases later : WritesKey cfg s info ms fs k
    · split at ran
      · exact writeClosed_lookup_isSome plainRest later ran
      · split at ran
        · obtain ⟨w, -, ran⟩ := Projection.bind_eq_ok ran
          exact writeClosed_lookup_isSome plainRest later ran
        · exact writeClosed_lookup_isSome plainRest later ran
    · obtain ⟨named, present, shown⟩ := written
      have here : k = f.name := by
        simp only [List.map_cons, List.mem_cons] at named
        exact named.resolve_right fun inRest => later ⟨inRest, present, shown⟩
      subst here
      obtain ⟨y, found⟩ := Option.isSome_iff_exists.1 present
      simp only [found, shown, if_true] at ran
      obtain ⟨w, -, ran⟩ := Projection.bind_eq_ok ran
      rw [writeClosed_lookup_of_not_writes plainRest later ran, Json.lookup_setMember_self]
      rfl

end Closed

end Uncached

/-! ## Two passes over a closed object -/

/-- Members `a` and `b` have the same keys in the same order, and the same values except under
the keys that `K` holds. -/
def AgreeOff (K : String → Prop) (a b : List (String × Value)) : Prop :=
  List.Forall₂ (fun m m' => m.1 = m'.1 ∧ (K m.1 ∨ m.2 = m'.2)) a b

namespace AgreeOff

variable {K K' : String → Prop}

theorem refl (K : String → Prop) (a : List (String × Value)) : AgreeOff K a a := by
  induction a with
  | nil => exact .nil
  | cons m rest ih => exact .cons ⟨rfl, .inr rfl⟩ ih

theorem mono {a b : List (String × Value)} (agree : AgreeOff K a b)
    (weaker : ∀ k ∈ a.map Prod.fst, K k → K' k) : AgreeOff K' a b := by
  induction agree with
  | nil => exact .nil
  | @cons m m' _ _ head _ ih =>
    simp only [List.map_cons, List.mem_cons, forall_eq_or_imp] at weaker
    exact .cons ⟨head.1, head.2.imp weaker.1 id⟩ (ih weaker.2)

/-- Agreeing everywhere is being equal. -/
theorem eq {a b : List (String × Value)} (agree : AgreeOff (fun _ => False) a b) : a = b := by
  induction agree with
  | nil => rfl
  | @cons m m' _ _ head _ ih =>
    obtain ⟨sameKey, sameValue⟩ := head
    rw [Prod.ext sameKey (sameValue.resolve_left id), ih]

/-- Writing under one key on both sides keeps the agreement, off the keys of `K'`: those of `K`
that stay, and the key written unless the values written are the same. -/
theorem setMember {a b : List (String × Value)} (agree : AgreeOff K a b)
    (distinct : (a.map Prod.fst).Nodup) {k : String} (stays : ∀ j, j ≠ k → K j → K' j)
    {x y : Value} (here : K' k ∨ x = y) : AgreeOff K' (Json.setMember a k x) (Json.setMember b k y) := by
  induction agree with
  | nil => exact .cons ⟨rfl, here⟩ .nil
  | @cons m m' a b head tail ih =>
    obtain ⟨j, v⟩ := m
    obtain ⟨j', v'⟩ := m'
    obtain ⟨sameKey, values⟩ := head
    dsimp only at sameKey values
    subst sameKey
    simp only [List.map_cons, List.nodup_cons] at distinct
    by_cases written : j = k
    · subst written
      simp only [Json.setMember, beq_self_eq_true, if_true]
      refine .cons ⟨rfl, here⟩ (AgreeOff.mono tail fun i mem held => stays i ?_ held)
      rintro rfl
      exact distinct.1 mem
    · have differs : (j == k) = false := by simpa using written
      simp only [Json.setMember, differs, Bool.false_eq_true, if_false]
      exact .cons ⟨rfl, values.imp (stays j written) id⟩ (ih distinct.2)

end AgreeOff

namespace Uncached

section Again

variable {reg : Registry} {cfg : FilterConfig} {s : NodeSet} {info : TypeViews}
  {ms : List (String × Value)}

/-- The second pass over the declared fields, from members `b` that agree with the first pass's
`a` off the keys still to be written, ends where the first pass ended: every field finds the
value the first pass left under its name, and the last field of each name writes it back. -/
theorem writeClosed_again {r : List (String × Value)} :
    ∀ {fs : List FieldDecl}, (∀ f ∈ fs, f.unwrapped = false) →
      (∀ f ∈ fs, ms.lookup f.name = none ∨ (decide s f.name info cfg).included = false →
        r.lookup f.name = none) →
      (∀ f ∈ fs, ∀ y w, ms.lookup f.name = some y → (decide s f.name info cfg).included = true →
        projectValue reg cfg (decide s f.name info cfg).children f.valueType y = .ok w →
        ∃ x q, r.lookup f.name = some x ∧
          projectValue reg cfg (decide s f.name info cfg).children f.valueType x = .ok q) →
      (∀ f ∈ fs, ∀ y w, ms.lookup f.name = some y →
        projectValue reg cfg (decide s f.name info cfg).children f.valueType y = .ok w →
        projectValue reg cfg (decide s f.name info cfg).children f.valueType w = .ok w) →
      ∀ a b : List (String × Value), (a.map Prod.fst).Nodup →
        AgreeOff (WritesKey cfg s info ms fs) a b →
        writeClosed reg cfg s info ms fs a = .ok r → writeClosed reg cfg s info r fs b = .ok r
  | [], _, _, _, _, a, b, _, agree, first => by
    rw [writeClosed.eq_1] at first ⊢
    cases Except.ok.inj first
    rw [(agree.mono fun _ _ written => by simp [WritesKey] at written).eq]
    rfl
  | f :: fs, plainFields, absent, again, fixed, a, b, distinct, agree, first => by
    have plainRest : ∀ g ∈ fs, g.unwrapped = false :=
      fun g inRest => plainFields g (List.mem_cons_of_mem _ inRest)
    have later := writeClosed_again plainRest
      (fun g inRest => absent g (List.mem_cons_of_mem _ inRest))
      (fun g inRest => again g (List.mem_cons_of_mem _ inRest))
      (fun g inRest => fixed g (List.mem_cons_of_mem _ inRest))
    have plainF := plainFields f List.mem_cons_self
    rw [writeClosed_cons s info ms plainF fs a] at first
    rw [writeClosed_cons s info r plainF fs b]
    have narrowed : ¬ WritesKey cfg s info ms [f] f.name →
        AgreeOff (WritesKey cfg s info ms fs) a b :=
      fun unwritten => agree.mono fun j _ written => by
        by_cases same : j = f.name
        · subst same
          exact absurd ⟨List.mem_singleton_self _, written.2⟩ unwritten
        · exact writesKey_cons_of_ne same written
    cases found : ms.lookup f.name with
    | none =>
      rw [found] at first
      rw [absent f List.mem_cons_self (.inl found)]
      exact later a b distinct (narrowed fun written => absurd written.2.1 (by simp [found])) first
    | some y =>
      by_cases shown : (decide s f.name info cfg).included = true
      · simp only [found, shown, if_true] at first
        obtain ⟨w, projected, first⟩ := Projection.bind_eq_ok first
        obtain ⟨x, q, left, reprojected⟩ := again f List.mem_cons_self y w found shown projected
        simp only [left, shown, if_true, reprojected, bind, Except.bind]
        refine later _ _ (Json.nodup_setMember distinct _ _) (agree.setMember distinct
          (fun j other written => writesKey_cons_of_ne other written) ?_) first
        by_cases written : WritesKey cfg s info ms fs f.name
        · exact .inl written
        · right
          have stays := writeClosed_lookup_of_not_writes plainRest written first
          rw [Json.lookup_setMember_self, left] at stays
          cases stays
          rw [fixed f List.mem_cons_self y w found projected] at reprojected
          exact Except.ok.inj reprojected
      · have excluded : (decide s f.name info cfg).included = false := by simpa using shown
        simp only [found, shown] at first
        rw [absent f List.mem_cons_self (.inr excluded)]
        exact later a b distinct (narrowed fun written => absurd written.2.2 (by simp [excluded])) first

end Again

/-! ## Projecting a projection -/

section Refilter

variable {reg : Registry} {cfg : FilterConfig}

theorem projectValue_scalar {s : NodeSet} {ty : Option String} {v w : Value}
    (notArray : ∀ items, v = .array items → False) (notObject : ∀ ms, v = .object ms → False)
    (ran : projectValue reg cfg s ty v = .ok w) : w = v := by
  rw [projectValue.eq_3 _ _ _ _ _ notArray notObject] at ran
  exact (Except.ok.inj ran).symm

/-- A member that writing an object adds is a projection of a member of the object under the
same key. -/
theorem writeObject_members (plain : reg.NoUnwrapped) {s : NodeSet} {ty : Option String}
    {ms r : List (String × Value)} (ran : writeObject reg cfg s ty ms [] = .ok r) :
    ∀ m ∈ r, ∃ y, (m.1, y) ∈ ms ∧ ∃ s' ty', projectValue reg cfg s' ty' y = .ok m.2 := by
  intro m mem
  rw [writeObject_eq_layout] at ran
  obtain ⟨⟨info, layout⟩, laid, ran⟩ := Projection.bind_eq_ok ran
  cases layout with
  | none =>
    rcases writeOpen_members ran m mem with absent | ⟨y, source, -, projected⟩
    · cases absent
    · exact ⟨y, source, _, _, projected⟩
  | some fields =>
    rcases writeClosed_members (Registry.layout_plain plain laid) ran m mem with
      absent | ⟨f, -, named, y, found, projected⟩
    · cases absent
    · refine ⟨y, ?_, _, _, projected⟩
      rw [← named]
      exact Json.mem_of_lookup_eq_some found

/-- Writing an object over members `out` succeeds where writing it over its own members `ms`
succeeds, if each member of `out` has a source in `ms` under its key and projects wherever the
source does. -/
theorem writeObject_ok_of_sources (plain : reg.NoUnwrapped) {s : NodeSet} {ty : Option String}
    {ms out r : List (String × Value)} (distinct : (ms.map Prod.fst).Nodup)
    (ran : writeObject reg cfg s ty ms [] = .ok r)
    (sources : ∀ m ∈ out, ∃ y, (m.1, y) ∈ ms ∧ ∀ s' ty' w,
      projectValue reg cfg s' ty' y = .ok w → ∃ q, projectValue reg cfg s' ty' m.2 = .ok q) :
    ∃ q, writeObject reg cfg s ty out [] = .ok q := by
  rw [writeObject_eq_layout] at ran ⊢
  obtain ⟨⟨info, layout⟩, laid, ran⟩ := Projection.bind_eq_ok ran
  rw [laid]
  cases layout with
  | none =>
    refine writeOpen_ok_of_forall (fun m mem shown => ?_) []
    obtain ⟨y, source, reprojects⟩ := sources m mem
    obtain ⟨w, projected⟩ := projected_of_writeOpen_ok ran (m.1, y) source shown
    exact reprojects _ _ w projected
  | some fields =>
    have plainFields := Registry.layout_plain plain laid
    refine writeClosed_ok_of_forall plainFields (fun f mem x found shown => ?_) []
    obtain ⟨y, source, reprojects⟩ := sources (f.name, x) (Json.mem_of_lookup_eq_some found)
    obtain ⟨w, projected⟩ := projected_of_writeClosed_ok plainFields ran f mem y
      (Json.lookup_eq_some_of_mem distinct source) shown
    exact reprojects _ _ w projected

/-- Projecting a projection of a value succeeds wherever projecting the value succeeds, under
any node set and type: a projection keeps only members, under their own keys, and only
projections of them. -/
theorem projectValue_ok_of_projected (plain : reg.NoUnwrapped) :
    ∀ d : Value, d.KeysDistinct → ∀ {s s' : NodeSet} {ty ty' : Option String} {a b : Value},
      projectValue reg cfg s ty d = .ok a → projectValue reg cfg s' ty' d = .ok b →
      ∃ q, projectValue reg cfg s ty b = .ok q
  | .array items, distinct, _, _, _, _, _, _, first, second => by
    rw [Json.Value.keysDistinct_array] at distinct
    obtain ⟨_, firstItems, -⟩ := projectValue_array_ok first
    obtain ⟨bs, secondItems, rfl⟩ := projectValue_array_ok second
    obtain ⟨qs, again⟩ := projectItems_ok_of_forall fun b mem => by
      obtain ⟨v, source, projected⟩ := projectItems_members secondItems b mem
      obtain ⟨w, reprojected⟩ := projected_of_projectItems_ok firstItems v source
      exact projectValue_ok_of_projected plain v (distinct v source) reprojected projected
    exact ⟨.array qs, by rw [projectValue.eq_1, again]; rfl⟩
  | .object ms, distinct, _, _, _, _, _, _, first, second => by
    rw [Json.Value.keysDistinct_object] at distinct
    obtain ⟨_, firstWritten, -⟩ := projectValue_object_ok first
    obtain ⟨out, secondWritten, rfl⟩ := projectValue_object_ok second
    obtain ⟨q, again⟩ := writeObject_ok_of_sources plain distinct.1 firstWritten fun m mem => by
      obtain ⟨y, source, _, _, projected⟩ := writeObject_members plain secondWritten m mem
      exact ⟨y, source, fun _ _ w reprojected =>
        projectValue_ok_of_projected plain y (distinct.2 _ source) reprojected projected⟩
    exact ⟨.object q, by rw [projectValue.eq_2, again]; rfl⟩
  | .null, _, _, _, _, _, a, _, first, second | .bool _, _, _, _, _, _, a, _, first, second
  | .number _, _, _, _, _, _, a, _, first, second
  | .string _, _, _, _, _, _, a, _, first, second => by
    obtain rfl := projectValue_scalar (fun _ shape => by cases shape) (fun _ shape => by cases shape) second
    exact ⟨a, first⟩
termination_by d => sizeOf d
decreasing_by
  · exact Json.Value.sizeOf_lt_of_mem_items ‹_›
  · exact Json.Value.sizeOf_lt_of_mem_members ‹_›

/-- Writing again what an open object wrote writes the same: its members are the included
members in document order, each under the decision it was written under, and each value is left
as it is. -/
theorem writeOpen_refilter {s : NodeSet} {info : TypeViews} {ms r : List (String × Value)}
    (distinct : (ms.map Prod.fst).Nodup)
    (fixed : ∀ m ∈ ms, ∀ w, projectValue reg cfg (decide s m.1 info cfg).children none m.2 = .ok w →
      projectValue reg cfg (decide s m.1 info cfg).children none w = .ok w)
    (ran : writeOpen reg cfg s info ms [] = .ok r) : writeOpen reg cfg s info r [] = .ok r := by
  have noneBefore : ∀ {l : List (String × Value)}, ∀ k ∈ l.map Prod.fst,
      k ∉ ([] : List (String × Value)).map Prod.fst := fun _ _ => by simp
  obtain ⟨_, rfl, related⟩ := (writeOpen_ok_iff distinct noneBefore).1 ran
  have sourced := fun w mem => (writeOpen_members ran w mem).resolve_left List.not_mem_nil
  have keys : (ms.filter fun m => (decide s m.1 info cfg).included).map Prod.fst =
      r.map Prod.fst := by
    rw [← List.forall₂_eq_eq_eq, List.forall₂_map_left_iff, List.forall₂_map_right_iff]
    exact related.imp fun _ _ same => same.1
  have distinctWritten : (r.map Prod.fst).Nodup :=
    keys ▸ distinct.sublist ((List.filter_sublist).map Prod.fst)
  have allShown : r.filter (fun w => (decide s w.1 info cfg).included) = r :=
    List.filter_eq_self.2 fun w mem => by
      obtain ⟨_, _, shown, _⟩ := sourced w mem
      exact shown
  refine (writeOpen_ok_iff distinctWritten noneBefore).2 ⟨r, rfl, ?_⟩
  rw [allShown]
  refine List.forall₂_same.2 fun w mem => ⟨rfl, ?_⟩
  obtain ⟨y, source, _, projected⟩ := sourced w mem
  exact fixed (w.1, y) source w.2 projected

/-- Writing again what the declared fields wrote writes the same, where each member's value is
left as it is. -/
theorem writeClosed_refilter (plain : reg.NoUnwrapped) {s : NodeSet} {info : TypeViews}
    {ms r : List (String × Value)} {fs : List FieldDecl}
    (plainFields : ∀ f ∈ fs, f.unwrapped = false) (distinct : (Value.object ms).KeysDistinct)
    (fixed : ∀ m ∈ ms, ∀ s' ty' w, projectValue reg cfg s' ty' m.2 = .ok w →
      projectValue reg cfg s' ty' w = .ok w)
    (ran : writeClosed reg cfg s info ms fs [] = .ok r) :
    writeClosed reg cfg s info r fs [] = .ok r := by
  rw [Json.Value.keysDistinct_object] at distinct
  refine writeClosed_again plainFields (fun f _ gone => ?_)
    (fun f mem y w found shown projected => ?_)
    (fun f _ y w found projected => fixed _ (Json.mem_of_lookup_eq_some found) _ _ w projected)
    [] [] List.nodup_nil (AgreeOff.refl _ []) ran
  · have unwritten : ¬ WritesKey cfg s info ms fs f.name := by
      rintro ⟨-, present, shown⟩
      rcases gone with gone | gone
      · simp [gone] at present
      · simp [gone] at shown
    rw [writeClosed_lookup_of_not_writes plainFields unwritten ran]
    rfl
  · have written : WritesKey cfg s info ms fs f.name :=
      ⟨List.mem_map_of_mem mem, by simp [found], shown⟩
    obtain ⟨x, left⟩ := Option.isSome_iff_exists.1 (writeClosed_lookup_isSome plainFields written ran)
    rcases writeClosed_members plainFields ran (f.name, x) (Json.mem_of_lookup_eq_some left) with
      absent | ⟨g, -, named, y', found', projected'⟩
    · cases absent
    · dsimp only at named projected'
      rw [named, found] at found'
      cases found'
      rw [named] at projected'
      obtain ⟨q, reprojected⟩ := projectValue_ok_of_projected plain y
        (distinct.2 _ (Json.mem_of_lookup_eq_some found)) projected projected'
      exact ⟨x, q, left, reprojected⟩

/-- Writing again what writing an object wrote writes the same, where each member's value is
left as it is. -/
theorem writeObject_again (plain : reg.NoUnwrapped) {s : NodeSet} {ty : Option String}
    {ms r : List (String × Value)} (distinct : (Value.object ms).KeysDistinct)
    (fixed : ∀ m ∈ ms, ∀ s' ty' w, projectValue reg cfg s' ty' m.2 = .ok w →
      projectValue reg cfg s' ty' w = .ok w)
    (ran : writeObject reg cfg s ty ms [] = .ok r) : writeObject reg cfg s ty r [] = .ok r := by
  rw [writeObject_eq_layout] at ran ⊢
  obtain ⟨⟨info, layout⟩, laid, ran⟩ := Projection.bind_eq_ok ran
  rw [laid]
  cases layout with
  | none =>
    rw [Json.Value.keysDistinct_object] at distinct
    exact writeOpen_refilter distinct.1 (fun m mem => fixed m mem _ _) ran
  | some fields => exact writeClosed_refilter plain (Registry.layout_plain plain laid) distinct fixed ran

/-- Where no registered type unwraps a field, projecting a projection of a document with
distinct keys, under the same node set and type, gives it back. -/
theorem projectValue_idempotent (plain : reg.NoUnwrapped) :
    ∀ d : Value, d.KeysDistinct → ∀ {s : NodeSet} {ty : Option String} {v : Value},
      projectValue reg cfg s ty d = .ok v → projectValue reg cfg s ty v = .ok v
  | .array items, distinct, _, _, _, once => by
    rw [Json.Value.keysDistinct_array] at distinct
    obtain ⟨ws, projected, rfl⟩ := projectValue_array_ok once
    have again := projectItems_again (fun v source _ reprojected =>
      projectValue_idempotent plain v (distinct v source) reprojected) projected
    rw [projectValue.eq_1, again]
    rfl
  | .object ms, distinct, _, _, _, once => by
    obtain ⟨out, written, rfl⟩ := projectValue_object_ok once
    have members := ((Json.Value.keysDistinct_object ms).1 distinct).2
    rw [projectValue.eq_2, writeObject_again plain distinct (fun m mem _ _ _ projected =>
      projectValue_idempotent plain m.2 (members m mem) projected) written]
    rfl
  | .null, _, _, _, _, once | .bool _, _, _, _, _, once | .number _, _, _, _, _, once
  | .string _, _, _, _, _, once => by
    obtain rfl := projectValue_scalar (fun _ shape => by cases shape) (fun _ shape => by cases shape) once
    exact once
termination_by d => sizeOf d
decreasing_by
  · exact Json.Value.sizeOf_lt_of_mem_items ‹_›
  · exact Json.Value.sizeOf_lt_of_mem_members ‹_›

end Refilter

end Uncached

/-! ## Filtering a filtered document -/

/-- Filtering again, on the engine that a request's filtering left, what the filtering wrote
gives it back, where no registered type unwraps a field, the registry's type names identify its
views, and the document has distinct keys. -/
theorem EngineSound.filterValue_idempotent {reg : Registry} {cfg : FilterConfig}
    (names : reg.NamesViews) (plain : reg.NoUnwrapped) {H : Heap} {e e' : Engine}
    (kept : EngineSound reg cfg H e) {x : Context} (held : H.HoldsSet x.nodes) {d v : Value}
    (distinct : d.KeysDistinct) (once : Projecting.exec (filterValue reg x d) e = (.ok v, e')) :
    (Projecting.exec (filterValue reg x v) e').1 = .ok v := by
  obtain ⟨H', e₁, grown, kept', first⟩ := kept.filterValue_step names held rfl d
  rw [once] at first
  by_cases known : reg.contains x.rootType = true
  · rw [if_pos known] at first
    obtain ⟨projected, rfl⟩ := Prod.mk.inj first
    obtain ⟨_, _, -, -, second⟩ := kept'.filterValue_step names (held.mono grown.toExtends) rfl v
    rw [second, if_pos known]
    exact Uncached.projectValue_idempotent plain d distinct projected.symm
  · rw [if_neg known] at first
    cases (Prod.mk.inj first).1

/-- Issues and their authors; an issue's body and an author's email belong to views other than
the base view. -/
def profileSchema : SchemaFile :=
  { types := [{ name := "Issue", fields := [{ name := "id" }, { name := "body", views := ["full"] },
      { name := "author", valueType := some "Person" }] },
    { name := "Person", fields := [{ name := "name" }, { name := "email", views := ["private"] }] }] }

/-- Showing the base fields at every depth keeps an issue's id and its author's name, and
filtering that again, on the engine the first filtering left, keeps it whole. -/
theorem baseFields_refiltered :
    (Registry.ofSchemaUnchecked profileSchema {}).NoUnwrapped ∧
      (Value.object [("author", .object [("email", .string "a@b"), ("name", .string "Ann")]),
        ("body", .string "text"), ("id", .ofInt 7), ("extra", .null)]).KeysDistinct ∧
      (Projecting.exec (filterValue (Registry.ofSchemaUnchecked profileSchema {})
          ⟨none, .unfiltered, "Issue"⟩
          (.object [("author", .object [("email", .string "a@b"), ("name", .string "Ann")]),
            ("body", .string "text"), ("id", .ofInt 7), ("extra", .null)])) (Engine.new {})).1 =
        .ok (.object [("id", .ofInt 7), ("author", .object [("name", .string "Ann")])]) ∧
      (Projecting.exec (filterValue (Registry.ofSchemaUnchecked profileSchema {})
          ⟨none, .unfiltered, "Issue"⟩
          (.object [("id", .ofInt 7), ("author", .object [("name", .string "Ann")])]))
        (Projecting.exec (filterValue (Registry.ofSchemaUnchecked profileSchema {})
          ⟨none, .unfiltered, "Issue"⟩
          (.object [("author", .object [("email", .string "a@b"), ("name", .string "Ann")]),
            ("body", .string "text"), ("id", .ofInt 7), ("extra", .null)])) (Engine.new {})).2).1 =
        .ok (.object [("id", .ofInt 7), ("author", .object [("name", .string "Ann")])]) := by
  have names := Registry.namesViews_ofSchema profileSchema {} (by decide)
  have plain := Registry.noUnwrapped_ofSchema profileSchema {} (by decide)
  have distinct : (Value.object [("author", .object [("email", .string "a@b"),
      ("name", .string "Ann")]), ("body", .string "text"), ("id", .ofInt 7),
      ("extra", .null)]).KeysDistinct := by
    simp [Json.Value.KeysDistinct, Json.Value.ofInt]
  have kept : EngineSound (Registry.ofSchemaUnchecked profileSchema {}) {} Heap.empty
      (Engine.new {}) := (sessionSound_new _ _).engine
  have issue : (Registry.ofSchemaUnchecked profileSchema {}).introspect "Issue" =
      .ok ⟨"Issue", [("base", ["id", "author"]), ("full", ["body", "id", "author"])], [],
        false⟩ := rfl
  have person : (Registry.ofSchemaUnchecked profileSchema {}).introspect "Person" =
      .ok ⟨"Person", [("base", ["name"]), ("private", ["email", "name"])], [], false⟩ := rfl
  have issueFields : (Registry.ofSchemaUnchecked profileSchema {}).fields "Issue" =
      .ok [{ name := "id" }, { name := "body", views := ["full"] },
        { name := "author", valueType := some "Person" }] := rfl
  have personFields : (Registry.ofSchemaUnchecked profileSchema {}).fields "Person" =
      .ok [{ name := "name" }, { name := "email", views := ["private"] }] := rfl
  have first : (Projecting.exec (filterValue (Registry.ofSchemaUnchecked profileSchema {})
      ⟨none, .unfiltered, "Issue"⟩
      (.object [("author", .object [("email", .string "a@b"), ("name", .string "Ann")]),
        ("body", .string "text"), ("id", .ofInt 7), ("extra", .null)])) (Engine.new {})).1 =
      .ok (.object [("id", .ofInt 7), ("author", .object [("name", .string "Ann")])]) := by
    obtain ⟨_, _, -, -, ran⟩ := kept.filterValue_step names (x := ⟨none, .unfiltered, "Issue"⟩)
      trivial rfl (.object [("author", .object [("email", .string "a@b"), ("name", .string "Ann")]),
        ("body", .string "text"), ("id", .ofInt 7), ("extra", .null)])
    have known : (Registry.ofSchemaUnchecked profileSchema {}).contains "Issue" = true := rfl
    rw [ran]
    simp [known, Uncached.projectValue, Uncached.writeObject, Uncached.writeClosed, issue, person,
      issueFields, personFields, Projection.memberOf, FieldSelection.decide, includesBase,
      TypeViews.isBase, TypeViews.isUnwrapped, TypeViews.viewContains, TypeViews.members?,
      baseView, Decision.shown, Decision.hidden, setMember, bind, Except.bind, pure, Except.pure, Json.Value.ofInt]
  exact ⟨plain, distinct, first,
    EngineSound.filterValue_idempotent names plain kept (x := ⟨none, .unfiltered, "Issue"⟩) trivial
      distinct (Prod.ext first rfl)⟩

end FieldSelection

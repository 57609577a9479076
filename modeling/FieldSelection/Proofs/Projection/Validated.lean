import FieldSelection.Proofs.Projection.Uncached
/-!
# A validated registry never makes a projection fail

A projection fails only where it reads a type name that is not registered: `introspect` and
`fields` answer an unknown type, and nothing else in the traversal can fail. The names it reads
come from three places: the request's root type, the declared types of fields, and the declared
types of unwrapped fields, whose objects are written into their parent under the type the field
declares. Untyped values are read with the views of the open type `object` and need no lookup.

Validation checks the root and every declared field type, which gives
`Registry.FieldTypesKnown`: every field of every registered type declares a registered type or
none (`Registry.fieldTypesKnown_of_validate`). Every type name the traversal then reaches is
untyped or registered (`Registry.Knows`), so every step of it answers, whatever the engine
remembers and whatever it decides (`filterValue_succeeds`).
-/

namespace FieldSelection

open Json

namespace Registry

/-- Every field of every registered type declares a registered type, or no type. -/
def FieldTypesKnown (reg : Registry) : Prop :=
  ∀ entry ∈ reg.types, ∀ f ∈ entry.2.fields, ∀ t ∈ f.valueType, reg.contains t = true

/-- A type a value may be read as: untyped, or registered. -/
def Knows (reg : Registry) (ty : Option String) : Prop := ∀ n ∈ ty, reg.contains n = true

variable {reg : Registry}

theorem knows_none : reg.Knows none := fun _ absent => by cases absent

theorem knows_some {n : String} (registered : reg.contains n = true) : reg.Knows (some n) := by
  intro n' named
  rw [Option.mem_def, Option.some.injEq] at named
  exact named ▸ registered

/-- A registry with no field of an unregistered type to report knows the type of every field. -/
theorem fieldTypesKnown_of_firstUnknownFieldType (unreported : reg.firstUnknownFieldType = none) :
    reg.FieldTypesKnown := by
  rintro ⟨n, e⟩ mem f present t typed
  have missing := List.findSome?_eq_none_iff.1 unreported (n, e) mem
  cases unknown : reg.contains t with
  | true => rfl
  | false =>
    dsimp only at missing
    unfold Option.bind at missing
    split at missing
    · rename_i passedAll
      have passed := List.find?_eq_none.1 passedAll f present
      simp [Option.mem_def.1 typed, unknown] at passed
    · rename_i g found
      have bad := List.find?_some found
      cases typed' : g.valueType with
      | none => simp [typed'] at bad
      | some v => simp [typed'] at missing

/-- A registry that validates declares only registered types for its fields. -/
theorem fieldTypesKnown_of_validate (valid : reg.validate = .ok ()) : reg.FieldTypesKnown := by
  apply fieldTypesKnown_of_firstUnknownFieldType
  cases first : reg.firstUnknownFieldType with
  | none => rfl
  | some err =>
    unfold validate at valid
    rw [first] at valid
    split at valid
    · split at valid <;> cases valid
    · cases valid

theorem exists_lookup {n : String} (registered : reg.contains n = true) :
    ∃ entry, reg.lookup? n = some entry :=
  Option.isSome_iff_exists.1 registered

theorem introspect_of_lookup {n : String} {entry : RegisteredType}
    (found : reg.lookup? n = some entry) : reg.introspect n = .ok entry.views := by
  rw [introspect, found]

theorem fields_of_lookup {n : String} {entry : RegisteredType}
    (found : reg.lookup? n = some entry) : reg.fields n = .ok entry.fields := by
  rw [fields, found]

/-- The fields of a registered type declare types the registry knows. -/
theorem knows_fields (known : reg.FieldTypesKnown) {n : String} {entry : RegisteredType}
    (found : reg.lookup? n = some entry) : ∀ f ∈ entry.fields, reg.Knows f.valueType := by
  obtain ⟨before, after, split, -⟩ := List.lookup_eq_some_iff.1 found
  have listed : (n, entry) ∈ reg.types := by
    rw [split]
    exact List.mem_append_right _ List.mem_cons_self
  exact fun f present t typed => known (n, entry) listed f present t typed

end Registry

/-! ## Steps that always answer -/

namespace Projecting

variable {α β : Type}

/-- A projection step that answers from every engine, never failing. -/
def Succeeds (m : Projecting α) : Prop := ∀ e, ∃ a e', exec m e = (.ok a, e')

theorem succeeds_pure (a : α) : Succeeds (pure a : Projecting α) := fun e => ⟨a, e, rfl⟩

theorem Succeeds.bind {m : Projecting α} {f : α → Projecting β} (first : Succeeds m)
    (rest : ∀ a, Succeeds (f a)) : Succeeds (m >>= f) := by
  intro e
  obtain ⟨a, e₁, ran⟩ := first e
  obtain ⟨b, e₂, ran'⟩ := rest a e₁
  exact ⟨b, e₂, (exec_bind_ok ran f).trans ran'⟩

theorem succeeds_decideHere (s : NodeSet) (p : String) (info : TypeViews) :
    Succeeds (Projection.decideHere s p info) := fun e => ⟨_, _, exec_decideHere s p info e⟩

theorem succeeds_modify (g : Engine → Engine) : Succeeds (modify g : Projecting Unit) :=
  fun e => ⟨(), g e, exec_modify g e⟩

end Projecting

/-! ## Every step of the traversal answers -/

namespace Projection

open Projecting

variable {reg : Registry}

theorem succeeds_array {s : NodeSet} {ty : Option String} {items : List Value}
    (ih : reg.Knows ty → Succeeds (projectItems reg s ty items)) (known : reg.Knows ty) :
    Succeeds (projectValue reg s ty (.array items)) := by
  rw [projectValue.eq_1]
  exact (ih known).bind fun _ => succeeds_pure _

theorem succeeds_object {s : NodeSet} {ty : Option String} {ms : List (String × Value)}
    (ih : reg.Knows ty → Succeeds (writeObject reg s ty ms [])) (known : reg.Knows ty) :
    Succeeds (projectValue reg s ty (.object ms)) := by
  rw [projectValue.eq_2]
  exact (ih known).bind fun _ => succeeds_pure _

/-- An object of a registered type: its views and fields are found, and the fields it declares
are of known types. -/
theorem succeeds_writeObject_typed (typesKnown : reg.FieldTypesKnown) {s : NodeSet}
    {ms out : List (String × Value)} {n : String}
    (openIH : ∀ info, Succeeds (writeOpen reg s info ms out))
    (closedIH : ∀ info fields, (∀ f ∈ fields, reg.Knows f.valueType) →
      Succeeds (writeClosed reg s info ms fields out))
    (known : reg.Knows (some n)) : Succeeds (writeObject reg s (some n) ms out) := by
  obtain ⟨entry, found⟩ := Registry.exists_lookup (known n rfl)
  rw [writeObject.eq_1, Registry.introspect_of_lookup found]
  simp only [lookup, pure_bind]
  split
  · exact openIH entry.views
  · rw [Registry.fields_of_lookup found]
    simp only [pure_bind]
    refine (closedIH entry.views entry.fields (Registry.knows_fields typesKnown found)).bind
      fun _ => ?_
    split
    · exact (succeeds_modify _).bind fun _ => succeeds_pure _
    · exact succeeds_pure _

theorem succeeds_writeObject_untyped {s : NodeSet} {ms out : List (String × Value)}
    (openIH : ∀ info, Succeeds (writeOpen reg s info ms out)) :
    Succeeds (writeObject reg s none ms out) := by
  have untypedOpen : Registry.untyped.isOpen = true := rfl
  rw [writeObject.eq_2]
  simp only [pure_bind, untypedOpen, if_true]
  exact openIH Registry.untyped

/-- Writing a declared field that the object holds succeeds when its value projects and, if it
unwraps an object, that object is written into this one under the field's declared type. -/
theorem succeeds_writeClosed_present {s : NodeSet} {info : TypeViews}
    {ms out : List (String × Value)} {f : FieldDecl} {fs : List FieldDecl} {v : Value}
    {hv : sizeOf v < sizeOf ms} (present : memberOf ms f.name = some ⟨v, hv⟩)
    (rest : ∀ out, (∀ g ∈ fs, reg.Knows g.valueType) → Succeeds (writeClosed reg s info ms fs out))
    (inlined : ∀ (d : Decision) inner, v = .object inner →
      reg.Knows f.valueType → Succeeds (writeObject reg d.children f.valueType inner out))
    (projected : ∀ d : Decision, reg.Knows f.valueType →
      Succeeds (projectValue reg d.children f.valueType v))
    (known : ∀ g ∈ f :: fs, reg.Knows g.valueType) :
    Succeeds (writeClosed reg s info ms (f :: fs) out) := by
  have here := known f List.mem_cons_self
  have later : ∀ out, Succeeds (writeClosed reg s info ms fs out) :=
    fun out => rest out fun g mem => known g (List.mem_cons_of_mem f mem)
  rw [writeClosed.eq_2]
  simp only [present]
  refine (succeeds_decideHere _ _ _).bind fun d => ?_
  split
  · simp only [pure_bind]
    exact later out
  · split
    · split
      · rename_i inner
        exact (inlined d inner rfl here).bind fun out' => later out'
      · simp only [pure_bind]
        exact later out
    · refine (projected d here).bind fun _ => ?_
      simp only [pure_bind]
      exact later _

theorem succeeds_writeOpen_cons {s : NodeSet} {info : TypeViews} {k : String} {v : Value}
    {rest out : List (String × Value)} (later : ∀ out, Succeeds (writeOpen reg s info rest out))
    (projected : ∀ d : Decision, reg.Knows none → Succeeds (projectValue reg d.children none v)) :
    Succeeds (writeOpen reg s info ((k, v) :: rest) out) := by
  rw [writeOpen.eq_2]
  refine (succeeds_decideHere _ _ _).bind fun d => ?_
  dsimp only
  split
  · refine (projected d Registry.knows_none).bind fun _ => ?_
    simp only [pure_bind]
    exact later _
  · simp only [pure_bind]
    exact later out

/-- Over a registry whose fields declare only registered types, projecting a value read as an
untyped or registered type answers from every engine. The induction follows the traversal;
the invariant it carries is that the type a value is read as is untyped or registered. -/
theorem projectValue_succeeds (typesKnown : reg.FieldTypesKnown) (s : NodeSet)
    (ty : Option String) (v : Value) (known : reg.Knows ty) :
    Succeeds (projectValue reg s ty v) :=
  projectValue.induct reg
    (fun s ty v => reg.Knows ty → Succeeds (projectValue reg s ty v))
    (fun s ty ms out => reg.Knows ty → Succeeds (writeObject reg s ty ms out))
    (fun s info ms fs out => (∀ f ∈ fs, reg.Knows f.valueType) →
      Succeeds (writeClosed reg s info ms fs out))
    (fun s info ms out => Succeeds (writeOpen reg s info ms out))
    (fun s ty vs => reg.Knows ty → Succeeds (projectItems reg s ty vs))
    (fun _ _ _ ih => succeeds_array ih)
    (fun _ _ _ ih => succeeds_object ih)
    (fun _ _ _ notArray notObject _ => by
      rw [projectValue.eq_3 _ _ _ _ notArray notObject]
      exact succeeds_pure _)
    (fun _ _ _ _ openIH closedIH => succeeds_writeObject_typed typesKnown openIH closedIH)
    (fun _ _ _ openIH _ _ => succeeds_writeObject_untyped openIH)
    (fun _ _ _ _ _ => by
      rw [writeClosed.eq_1]
      exact succeeds_pure _)
    (fun _ _ _ _ _ out absent rest known => by
      rw [writeClosed.eq_2]
      simp only [absent, pure_bind]
      exact rest out fun g mem => known g (List.mem_cons_of_mem _ mem))
    (fun _ _ _ _ _ _ _ _ present rest inlined projected =>
      succeeds_writeClosed_present present rest inlined projected)
    (fun _ _ _ => by
      rw [writeOpen.eq_1]
      exact succeeds_pure _)
    (fun _ _ _ _ _ _ later projected => succeeds_writeOpen_cons later projected)
    (fun _ _ _ => by
      rw [projectItems.eq_1]
      exact succeeds_pure _)
    (fun _ _ _ _ head tail known => by
      rw [projectItems.eq_2]
      exact (head known).bind fun _ => (tail known).bind fun _ => succeeds_pure _)
    s ty v known

end Projection

/-- **A validated registry never makes filtering fail.** Over a registry whose validation
passes, a request whose root type is registered projects every document, from every engine:
no type name the traversal reads, through the root, typed fields or unwrapped fields, is
unknown. -/
theorem filterValue_succeeds (reg : Registry) (valid : reg.validate = .ok ()) (x : Context)
    (rooted : reg.contains x.rootType = true) (v : Value) (e : Engine) :
    ∃ w e', Projecting.exec (filterValue reg x v) e = (.ok w, e') := by
  rw [filterValue, if_pos rooted]
  exact Projection.projectValue_succeeds (Registry.fieldTypesKnown_of_validate valid) x.nodes
    (some x.rootType) v (Registry.knows_some rooted) e

/-- A type with an unwrapped field of another type, as in `{"outerText", "inner": Inner}`. -/
def inlinedSchema : SchemaFile where
  root := some "Outer"
  types := [
    { name := "Inner", fields := [{ name := "innerText" }] },
    { name := "Outer", fields := [{ name := "outerText" },
      { name := "inner", valueType := some "Inner", unwrapped := true }, { name := "extra" }] }]

/-- The schema validates, and a document whose unwrapped member is an object is projected. -/
theorem inlined_schema_projects :
    (Registry.ofSchemaUnchecked inlinedSchema {}).validate = .ok () ∧
      (Registry.ofSchemaUnchecked inlinedSchema {}).contains "Outer" = true ∧
      ∃ w e', Projecting.exec (filterValue (Registry.ofSchemaUnchecked inlinedSchema {})
          ⟨none, .anyDeep, "Outer"⟩
          (.object [("outerText", .string "x"), ("inner", .object [("innerText", .string "y")])]))
          (Engine.new {}) = (.ok w, e') :=
  ⟨rfl, rfl, filterValue_succeeds _ rfl _ rfl _ _⟩

end FieldSelection

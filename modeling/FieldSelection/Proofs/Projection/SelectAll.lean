import FieldSelection.Proofs.Projection.Uncached
/-!
# Selecting everything

Three requests ask for everything: one with no expression, one whose expression trims to `**`,
which a request turns into the any-deep set at once, and one whose expression compiles to lone
`**` nodes, such as `**,**`. The first two hand the any-deep set to the projection. The third
hands it a list: its decisions go through `decideNodes`, and an unwrapped property gets the list
itself below it, not the any-deep set.

All three write the schema projection of the document (`filterValue_selectsAll`).
`SchemaProjection.value` reads a document along the schema alone, with no node set and no
engine: arrays item by item; for a closed type the declared fields the object has, in declared
order, an unwrapped field's object written into the object around it and any other unwrapped
value dropped; every member of an open or untyped object, in document order; scalars as they
are. A member written twice keeps its first place and takes the later value.

The proof runs the engine against the uncached traversal under the any-deep set, as an
`EngineSimulation` that relates both the any-deep set and the list of lone `**` nodes to it.
Under either, every decision shows the property and hands down one of the two
(`decide_selectsAll`), and the engine goes on remembering only such decisions
(`Engine.ShowsAll`). Under the any-deep set the uncached traversal is the schema projection
(`Uncached.projectValue_anyDeep`).
-/

namespace FieldSelection

open Json

/-! ## The schema projection -/

namespace SchemaProjection

open Projection (memberOf)

mutual

/-- The schema projection of a value read as type `ty` (none: untyped). -/
def value (reg : Registry) (ty : Option String) : Value → Except SchemaError Value
  | .array vs => return .array (← items reg ty vs)
  | .object ms => return .object (← object reg ty ms [])
  | v => pure v
termination_by v => (sizeOf v, 0, 0)

/-- The schema projections of the items of an array. -/
def items (reg : Registry) (ty : Option String) : List Value → Except SchemaError (List Value)
  | [] => pure []
  | v :: vs => return (← value reg ty v) :: (← items reg ty vs)
termination_by vs => (sizeOf vs, 0, 0)

/-- The members that an object of type `ty` writes after `out`: all of them for an open or
untyped type, the declared fields for a closed one. -/
def object (reg : Registry) (ty : Option String) (ms out : List (String × Value)) :
    Except SchemaError (List (String × Value)) :=
  match ty with
  | none => members reg ms out
  | some n => do
    let info ← reg.introspect n
    if info.isOpen then members reg ms out
    else fields reg ms (← reg.fields n) out
termination_by (sizeOf ms, 1, 0)

/-- Every member of an open or untyped object, in document order. -/
def members (reg : Registry) :
    List (String × Value) → List (String × Value) → Except SchemaError (List (String × Value))
  | [], out => pure out
  | (k, v) :: rest, out => do members reg rest (setMember out k (← value reg none v))
termination_by ms => (sizeOf ms, 0, 0)

/-- The declared fields `fs` that an object with members `ms` has, in declared order; an
unwrapped field writes the members of its object, and nothing for any other value. -/
def fields (reg : Registry) (ms : List (String × Value)) :
    List FieldDecl → List (String × Value) → Except SchemaError (List (String × Value))
  | [], out => pure out
  | f :: fs, out => do
    let out ← match memberOf ms f.name with
      | none => pure out
      | some ⟨v, _hv⟩ =>
        if f.unwrapped then
          match _hm : v with
          | .object inner => object reg f.valueType inner out
          | _ => pure out
        else pure (setMember out f.name (← value reg f.valueType v))
    fields reg ms fs out
termination_by fs => (sizeOf ms, 0, fs.length)
decreasing_by
  all_goals first
    | (apply Prod.Lex.left; subst _hm; simp at _hv ⊢; omega)
    | (apply Prod.Lex.left; omega)
    | (apply Prod.Lex.right; apply Prod.Lex.right; simp)

end

end SchemaProjection

/-! ## The uncached traversal under the any-deep set -/

section AnyDeep

variable {reg : Registry} {cfg : FilterConfig}

/-- Under the any-deep set no property is left out. -/
theorem decide_anyDeep_included (p : String) (info : TypeViews) :
    (decide .anyDeep p info cfg).included = true := by
  rw [decide_anyDeep]
  rfl

theorem decide_anyDeep_children (p : String) (info : TypeViews) :
    (decide .anyDeep p info cfg).children = .anyDeep := by
  rw [decide_anyDeep]
  rfl

theorem writeObject_typed_anyDeep {ms out : List (String × Value)} {n : String}
    (openIH : ∀ info, Uncached.writeOpen reg cfg .anyDeep info ms out =
      SchemaProjection.members reg ms out)
    (closedIH : ∀ info fields, Uncached.writeClosed reg cfg .anyDeep info ms fields out =
      SchemaProjection.fields reg ms fields out) :
    Uncached.writeObject reg cfg .anyDeep (some n) ms out =
      SchemaProjection.object reg (some n) ms out := by
  rw [Uncached.writeObject.eq_1, SchemaProjection.object.eq_2]
  cases reg.introspect n with
  | error e => rfl
  | ok info =>
    simp only [bind, Except.bind]
    split
    · exact openIH info
    · cases reg.fields n with
      | error e => rfl
      | ok fields => exact closedIH info fields

/-- Under the any-deep set the uncached traversal is the schema projection. -/
theorem Uncached.projectValue_anyDeep (reg : Registry) (cfg : FilterConfig)
    (ty : Option String) (v : Value) :
    Uncached.projectValue reg cfg .anyDeep ty v = SchemaProjection.value reg ty v :=
  Uncached.projectValue.induct reg cfg
    (fun s ty v => s = .anyDeep →
      Uncached.projectValue reg cfg s ty v = SchemaProjection.value reg ty v)
    (fun s ty ms out => s = .anyDeep →
      Uncached.writeObject reg cfg s ty ms out = SchemaProjection.object reg ty ms out)
    (fun s info ms fs out => s = .anyDeep →
      Uncached.writeClosed reg cfg s info ms fs out = SchemaProjection.fields reg ms fs out)
    (fun s info ms out => s = .anyDeep →
      Uncached.writeOpen reg cfg s info ms out = SchemaProjection.members reg ms out)
    (fun s ty vs => s = .anyDeep →
      Uncached.projectItems reg cfg s ty vs = SchemaProjection.items reg ty vs)
    (fun _ _ _ ih all => by
      rw [Uncached.projectValue.eq_1, SchemaProjection.value.eq_1, ih all])
    (fun _ _ _ ih all => by
      rw [Uncached.projectValue.eq_2, SchemaProjection.value.eq_2, ih all])
    (fun _ _ _ notArray notObject _ => by
      rw [Uncached.projectValue.eq_3 _ _ _ _ _ notArray notObject,
        SchemaProjection.value.eq_3 _ _ _ notArray notObject])
    (fun _ _ _ _ openIH closedIH all => by
      subst all
      exact writeObject_typed_anyDeep (fun info => openIH info rfl)
        (fun info fields => closedIH info fields rfl))
    (fun _ _ _ openIH _ all => by
      have untypedOpen : Registry.untyped.isOpen = true := rfl
      rw [Uncached.writeObject.eq_2, SchemaProjection.object.eq_1]
      simp only [pure_bind, untypedOpen, if_true]
      exact openIH _ all)
    (fun _ _ _ _ _ => by
      rw [Uncached.writeClosed.eq_1, SchemaProjection.fields.eq_1])
    (fun _ _ _ _ _ _ absent rest all => by
      rw [Uncached.writeClosed.eq_2, SchemaProjection.fields.eq_2]
      simp only [absent, pure_bind]
      exact rest _ all)
    (fun _ _ _ _ _ _ _ _ _ excluded _ all => by
      subst all
      simp only [decide_anyDeep_included, Bool.not_true, Bool.false_eq_true] at excluded)
    (fun _ _ _ _ _ _ _ unwrapped _ _ present rest inlined all => by
      subst all
      rw [Uncached.writeClosed.eq_2, SchemaProjection.fields.eq_2]
      simp only [present, decide_anyDeep_included, decide_anyDeep_children, unwrapped,
        Bool.not_true, Bool.false_eq_true, if_false, if_true]
      rw [decide_anyDeep_children] at inlined
      rw [inlined rfl]
      cases SchemaProjection.object reg _ _ _ with
      | error e => rfl
      | ok out' => exact rest out' rfl)
    (fun _ _ _ _ _ _ v _ present _ unwrapped notObject rest all => by
      subst all
      rw [Uncached.writeClosed.eq_2, SchemaProjection.fields.eq_2]
      simp only [present, decide_anyDeep_included, decide_anyDeep_children, unwrapped,
        Bool.not_true, Bool.false_eq_true, if_false, if_true]
      cases v with
      | object inner => exact absurd rfl (notObject inner)
      | _ => exact rest _ rfl)
    (fun _ _ _ _ _ _ _ _ present _ plain rest projected all => by
      subst all
      rw [decide_anyDeep_children] at projected
      rw [Uncached.writeClosed.eq_2, SchemaProjection.fields.eq_2]
      simp only [present, decide_anyDeep_included, decide_anyDeep_children, plain,
        Bool.not_true, Bool.false_eq_true, if_false, projected rfl]
      cases SchemaProjection.value reg _ _ with
      | error e => rfl
      | ok w => exact rest _ rfl)
    (fun _ _ _ _ => by
      rw [Uncached.writeOpen.eq_1, SchemaProjection.members.eq_1])
    (fun _ _ _ _ _ _ _ later projected all => by
      subst all
      rw [decide_anyDeep_children] at projected
      rw [Uncached.writeOpen.eq_2, SchemaProjection.members.eq_2,
        if_pos (decide_anyDeep_included _ _), decide_anyDeep_children, projected rfl]
      cases SchemaProjection.value reg none _ with
      | error e => rfl
      | ok w => exact later _ rfl)
    (fun _ _ _ _ _ _ excluded _ all => by
      subst all
      exact absurd (decide_anyDeep_included _ _) excluded)
    (fun _ _ _ => by
      rw [Uncached.projectItems.eq_1, SchemaProjection.items.eq_1])
    (fun _ _ _ _ head tail all => by
      rw [Uncached.projectItems.eq_2, SchemaProjection.items.eq_2, head all, tail all])
    .anyDeep ty v rfl

end AnyDeep

/-! ## Lists of lone `**` nodes -/

/-- A node that selects every property at every depth: `**`, not negated, with no nested
part. -/
structure Node.SelectsAll (n : Node) : Prop where
  anyDeep : n.matcher = .anyDeep
  positive : n.marks.negated = false
  bare : n.marks.emptyNested = false
  leaf : n.children = []

/-- A node set that selects everything: the any-deep set, or a list of lone `**` nodes. -/
def NodeSet.SelectsAll : NodeSet → Prop
  | .anyDeep => True
  | .nodes l => l.nodes ≠ [] ∧ ∀ n ∈ l.nodes, n.SelectsAll
  | _ => False

/-- A lone `**` joins the winners of a scan at the any-deep rank. -/
theorem Scan.step_selectsAll {p : String} {n : Node} (all : n.SelectsAll) (ws : List Node) :
    Scan.step p ⟨ws, some .anyDeep, none⟩ n = ⟨ws ++ [n], some .anyDeep, none⟩ := by
  simp [Scan.step, all.anyDeep, all.positive, NameMatcher.accepts, NameMatcher.specificity,
    Specificity.lt, Specificity.rank]

theorem Scan.foldl_selectsAll {p : String} :
    ∀ (ns ws : List Node), (∀ n ∈ ns, n.SelectsAll) →
      ns.foldl (Scan.step p) ⟨ws, some .anyDeep, none⟩ = ⟨ws ++ ns, some .anyDeep, none⟩
  | [], ws, _ => by simp
  | n :: ns, ws, all => by
    rw [List.foldl_cons, Scan.step_selectsAll (all n List.mem_cons_self),
      Scan.foldl_selectsAll ns _ fun m mem => all m (List.mem_cons_of_mem n mem)]
    simp

/-- Lone `**` nodes are all winners for every property. -/
theorem verdict_selectsAll {ns : List Node} (nonempty : ns ≠ []) (all : ∀ n ∈ ns, n.SelectsAll)
    (p : String) (info : TypeViews) : verdict ns p info = .winners ns := by
  obtain ⟨n, rest, rfl⟩ := List.exists_cons_of_ne_nil nonempty
  have first : Scan.step p {} n = ⟨[n], some .anyDeep, none⟩ := by
    simp [Scan.step, (all n List.mem_cons_self).anyDeep, (all n List.mem_cons_self).positive,
      NameMatcher.accepts, NameMatcher.specificity]
  have scanned : (n :: rest).foldl (Scan.step p) {} = ⟨n :: rest, some .anyDeep, none⟩ := by
    rw [List.foldl_cons, first,
      Scan.foldl_selectsAll rest [n] fun m mem => all m (List.mem_cons_of_mem n mem)]
    rfl
  simp [verdict, scanned]

/-- Lone `**` winners hand down the any-deep set. -/
theorem winnerChildren_selectsAll {ws : List Node} (nonempty : ws ≠ [])
    (all : ∀ w ∈ ws, w.SelectsAll) (run : Nat) (pool : ListIdent) :
    winnerChildren run pool ws = .anyDeep := by
  unfold winnerChildren singleChildren
  split
  · rename_i w
    have lone := all w List.mem_cons_self
    simp [lone.leaf, lone.bare, lone.anyDeep, NameMatcher.isAnyDeep]
  · obtain ⟨w, rest, rfl⟩ := List.exists_cons_of_ne_nil nonempty
    have pooled : (w :: rest).flatMap Node.children = [] :=
      List.flatMap_eq_nil_iff.2 fun n mem => (all n mem).leaf
    have deep : (w :: rest).any (·.matcher.isAnyDeep) = true :=
      List.any_eq_true.2 ⟨w, List.mem_cons_self, by simp [(all w List.mem_cons_self).anyDeep,
        NameMatcher.isAnyDeep]⟩
    simp [pooled, deep]

/-- Under a set that selects everything, every property is shown, with the any-deep set or the
set itself below. -/
theorem decide_selectsAll {s : NodeSet} (all : s.SelectsAll) (p : String) (info : TypeViews)
    (cfg : FilterConfig) (pool : ListIdent) :
    decide s p info cfg pool = .shown .anyDeep ∨ decide s p info cfg pool = .shown s := by
  cases s with
  | anyDeep => exact .inl (decide_anyDeep p info cfg pool)
  | nodes l =>
    obtain ⟨nonempty, lone⟩ := all
    unfold FieldSelection.decide
    split
    · exact .inr rfl
    · left
      simp only [decideNodes, verdict_selectsAll nonempty lone,
        winnerChildren_selectsAll nonempty lone]
  | nothing | unfiltered | view v => exact all.elim

/-! ## The engine under a set that selects everything -/

/-- Every decision the engine remembers for the any-deep set or for `s₀` shows the property with
the any-deep set or `s₀` below. -/
def Engine.ShowsAll (s₀ : NodeSet) (e : Engine) : Prop :=
  e.cache.AllEntries fun k d => k.1 = SetKey.anyDeep ∨ k.1 = s₀.key →
    d = .shown .anyDeep ∨ d = .shown s₀

theorem Engine.showsAll_new (cfg : FilterConfig) (s₀ : NodeSet) :
    (Engine.new cfg).ShowsAll s₀ :=
  fun _ absent => nomatch absent

/-- Asked about the any-deep set or `s₀`, an engine that shows all shows the property with one
of the two below, and goes on showing all: a remembered decision shows all by the invariant, and
one computed afresh shows the property with the set asked about or the any-deep set. -/
theorem Engine.decide_showsAll {s₀ : NodeSet} (all : s₀.SelectsAll) {e : Engine}
    (kept : e.ShowsAll s₀) {s : NodeSet} (here : s = .anyDeep ∨ s = s₀) (p : String)
    (info : TypeViews) :
    ((e.decide s p info).1 = .shown .anyDeep ∨ (e.decide s p info).1 = .shown s₀) ∧
      (e.decide s p info).2.ShowsAll s₀ := by
  have keyed : s.key = SetKey.anyDeep ∨ s.key = s₀.key := by
    rcases here with rfl | rfl
    · exact .inl rfl
    · exact .inr rfl
  have selects : s.SelectsAll := by
    rcases here with rfl | rfl
    · trivial
    · exact all
  have computed : ∀ pool, FieldSelection.decide s p info e.config pool = .shown .anyDeep ∨
      FieldSelection.decide s p info e.config pool = .shown s₀ := by
    intro pool
    rcases decide_selectsAll selects p info e.config pool with deep | itself
    · exact .inl deep
    · rcases here with rfl | rfl
      · exact .inl itself
      · exact .inr itself
  rcases e.decide_cases s p info with ⟨-, bypass⟩ | ⟨d, c, found, ran⟩ | ⟨c, missed, ran⟩
  · rw [bypass]
    exact ⟨.inl rfl, kept⟩
  · obtain ⟨x, mem, sameKey, rfl⟩ := Lru.get_found (v := d) (by rw [found])
    simp only [beq_iff_eq] at sameKey
    have after := Lru.allEntries_get kept (s.key, info.typeName, p)
    rw [found] at after
    rw [ran]
    exact ⟨kept x mem (by rw [sameKey]; exact keyed), after⟩
  · have after := Lru.allEntries_get kept (s.key, info.typeName, p)
    rw [missed] at after
    rw [ran]
    exact ⟨computed _, Lru.allEntries_insert after fun _ => computed _⟩

/-- The engine standing in for `decide` under the any-deep set, on `s₀` and the any-deep set. -/
def selectAllSimulation (reg : Registry) (cfg : FilterConfig) {s₀ : NodeSet}
    (all : s₀.SelectsAll) : EngineSimulation reg cfg where
  World := Unit
  grows _ _ := True
  grows_refl _ := trivial
  grows_trans _ _ := trivial
  inv _ e := e.ShowsAll s₀
  rel _ s t := (s = .anyDeep ∨ s = s₀) ∧ t = .anyDeep
  rel_grows _ related := related
  inv_notes _ kept := kept
  decide_step := by
    rintro _ e s t p info kept ⟨here, rfl⟩ -
    obtain ⟨shown, kept'⟩ := Engine.decide_showsAll all kept here p info
    refine ⟨(), trivial, kept', ?_, ?_⟩
    · rw [decide_anyDeep_included]
      rcases shown with shown | shown
      · exact shown ▸ rfl
      · exact shown ▸ rfl
    · rw [decide_anyDeep]
      rcases shown with shown | shown
      · rw [shown]
        exact ⟨.inl rfl, rfl⟩
      · rw [shown]
        exact ⟨.inr rfl, rfl⟩

/-- **Every way of asking for everything gives the schema projection.** A request whose node
set is the any-deep set or a list of lone `**` nodes, on a registered root type, writes the
schema projection of the document, or fails as it does, from any engine that remembers only
decisions showing everything under that set. -/
theorem filterValue_selectsAll (reg : Registry) {x : Context} (all : x.nodes.SelectsAll)
    {e : Engine} (kept : e.ShowsAll x.nodes) (known : reg.contains x.rootType = true)
    (v : Value) :
    (Projecting.exec (filterValue reg x v) e).1 = SchemaProjection.value reg (some x.rootType) v := by
  unfold filterValue
  rw [if_pos known]
  obtain ⟨_, e', _, _, ran⟩ := (selectAllSimulation reg e.config all).projectValue_agrees
    x.nodes (some x.rootType) v (w := ()) kept ⟨.inr rfl, rfl⟩
  rw [ran, Uncached.projectValue_anyDeep]

/-- A schema whose type `Issue` writes `id` and unwraps a field `owner` of type `Owner`, which
writes `login`. -/
def ownerSchema : SchemaFile :=
  { types := [{ name := "Issue", fields := [{ name := "id" },
      { name := "owner", valueType := some "Owner", unwrapped := true }] },
    { name := "Owner", fields := [{ name := "login" }] }] }

/-- The expression `**,**` compiles to one lone `**` node, and the request made of it writes
the schema projection of an issue: the declared fields in declared order, the owner's `login`
inlined and its undeclared member dropped. -/
theorem starStar_projects_schema :
    Selection.parse "**,**" = .ok [.mk .anyDeep {} 1 []] ∧
      (NodeSet.nodes ⟨.compiled 1 0, 1, [.mk .anyDeep {} 1 []]⟩).SelectsAll ∧
      (Engine.new {}).ShowsAll (.nodes ⟨.compiled 1 0, 1, [.mk .anyDeep {} 1 []]⟩) ∧
      (Registry.ofSchemaUnchecked ownerSchema {}).contains "Issue" = true ∧
      (Projecting.exec (filterValue (Registry.ofSchemaUnchecked ownerSchema {})
          ⟨some "**,**", .nodes ⟨.compiled 1 0, 1, [.mk .anyDeep {} 1 []]⟩, "Issue"⟩
          (.object [("owner", .object [("login", .string "x"), ("extra", .null)]),
            ("id", .ofInt 1)])) (Engine.new {})).1 =
        .ok (.object [("id", .ofInt 1), ("login", .string "x")]) := by
  have all : (NodeSet.nodes ⟨.compiled 1 0, 1, [.mk .anyDeep {} 1 []]⟩).SelectsAll :=
    ⟨List.cons_ne_nil _ _, fun n mem => by
      rw [List.mem_singleton.1 mem]
      exact ⟨rfl, rfl, rfl, rfl⟩⟩
  have kept := Engine.showsAll_new {} (.nodes ⟨.compiled 1 0, 1, [.mk .anyDeep {} 1 []]⟩)
  have known : (Registry.ofSchemaUnchecked ownerSchema {}).contains "Issue" = true := rfl
  have issue : (Registry.ofSchemaUnchecked ownerSchema {}).introspect "Issue" =
      .ok ⟨"Issue", [("base", ["id", "owner"])], ["owner"], false⟩ := rfl
  have owner : (Registry.ofSchemaUnchecked ownerSchema {}).introspect "Owner" =
      .ok ⟨"Owner", [("base", ["login"])], [], false⟩ := rfl
  have issueFields : (Registry.ofSchemaUnchecked ownerSchema {}).fields "Issue" =
      .ok [{ name := "id" }, { name := "owner", valueType := some "Owner", unwrapped := true }] :=
    rfl
  have ownerFields : (Registry.ofSchemaUnchecked ownerSchema {}).fields "Owner" =
      .ok [{ name := "login" }] := rfl
  refine ⟨rfl, all, kept, known, (filterValue_selectsAll _ all kept known _).trans ?_⟩
  simp [SchemaProjection.value, SchemaProjection.object, SchemaProjection.fields, issue, owner,
    issueFields, ownerFields, Projection.memberOf, setMember, bind, Except.bind, pure, Except.pure,
    Json.Value.ofInt]

end FieldSelection

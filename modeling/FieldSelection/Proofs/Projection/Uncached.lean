import FieldSelection.Session
import FieldSelection.Proofs.Cache.Entries
/-!
# Projection without caches

The engine's projection (`Projection.projectValue`) takes every decision from the engine, which
remembers decisions, and a session compiles expressions through a cache. This module states the
same traversal with neither: `Uncached.projectValue` asks `decide` itself at each property, and
`Session.applyUncached` compiles the expression with `Selection.parse` every time.

These are the reference the caches are measured against: a cache is transparent when the
session answers every request as `Session.applyUncached` does. The traversal is also the
shape every statement about what a projection writes is proved for: it reads the document in
the same order as the engine's, with the same writes.

`Uncached.projectValue_anyDeep_eq` shows that on the any-deep set the engine's projection is
this one, whatever the engine has remembered before, as long as every remembered any-deep
decision is the one `decide` gives (`Engine.AnyDeepCached`, which every engine keeps).
-/

namespace FieldSelection

open Json

namespace Uncached

open Projection (memberOf)

mutual

/-- Projects a value read as type `ty` (none: untyped) under `s`, deciding afresh. -/
def projectValue (reg : Registry) (cfg : FilterConfig) (s : NodeSet) (ty : Option String) :
    Value → Except SchemaError Value
  | .array items => return .array (← projectItems reg cfg s ty items)
  | .object ms => return .object (← writeObject reg cfg s ty ms [])
  | v => pure v
termination_by v => (sizeOf v, 0, 0)

/-- Projects the items of an array. -/
def projectItems (reg : Registry) (cfg : FilterConfig) (s : NodeSet) (ty : Option String) :
    List Value → Except SchemaError (List Value)
  | [] => pure []
  | v :: vs => return (← projectValue reg cfg s ty v) :: (← projectItems reg cfg s ty vs)
termination_by vs => (sizeOf vs, 0, 0)

/-- Writes the selected members of an object of type `ty` after the members `out`. -/
def writeObject (reg : Registry) (cfg : FilterConfig) (s : NodeSet) (ty : Option String)
    (ms : List (String × Value)) (out : List (String × Value)) :
    Except SchemaError (List (String × Value)) := do
  let info ← match ty with
    | some n => reg.introspect n
    | none => pure Registry.untyped
  if info.isOpen then writeOpen reg cfg s info ms out
  else
    match ty with
    | none => pure out
    | some n =>
      let fields ← reg.fields n
      writeClosed reg cfg s info ms fields out
termination_by (sizeOf ms, 1, 0)

/-- Writes the members of an object of an open type, in document order. -/
def writeOpen (reg : Registry) (cfg : FilterConfig) (s : NodeSet) (info : TypeViews) :
    List (String × Value) → List (String × Value) → Except SchemaError (List (String × Value))
  | [], out => pure out
  | (k, v) :: rest, out => do
    let d := decide s k info cfg
    let out ← if d.included then
        pure (setMember out k (← projectValue reg cfg d.children none v))
      else pure out
    writeOpen reg cfg s info rest out
termination_by ms => (sizeOf ms, 0, 0)

/-- Writes the declared fields `fs` of an object with members `ms`, in declared order. -/
def writeClosed (reg : Registry) (cfg : FilterConfig) (s : NodeSet) (info : TypeViews)
    (ms : List (String × Value)) :
    List FieldDecl → List (String × Value) → Except SchemaError (List (String × Value))
  | [], out => pure out
  | f :: fs, out => do
    let out ← match memberOf ms f.name with
      | none => pure out
      | some ⟨v, _hv⟩ => do
        let d := decide s f.name info cfg
        if !d.included then pure out
        else if f.unwrapped then
          match _hm : v with
          | .object inner => writeObject reg cfg d.children f.valueType inner out
          | _ => pure out
        else pure (setMember out f.name (← projectValue reg cfg d.children f.valueType v))
    writeClosed reg cfg s info ms fs out
termination_by fs => (sizeOf ms, 0, fs.length)
decreasing_by
  all_goals first
    | (apply Prod.Lex.left; subst _hm; simp at _hv ⊢; omega)
    | (apply Prod.Lex.left; omega)
    | (apply Prod.Lex.right; apply Prod.Lex.right; simp)

end

end Uncached

/-- The node set an expression selects, compiled afresh: everything for no expression or one
that trims to `**`, else the compiled list. -/
def NodeSet.ofExpression : Option String → Except SelectionError NodeSet
  | none => .ok .anyDeep
  | some f =>
    if Text.trim f == "**" then .ok .anyDeep
    else (Selection.parse f).map fun nodes => .nodes (NodeList.ofForest nodes)

/-- The answer to a request when its expression is compiled afresh and every decision is made
afresh, under the registry `reg` and the settings `cfg`. -/
def Session.applyUncached (reg : Registry) (cfg : FilterConfig) (filter root : Option String)
    (doc : Value) : Except ApplyError Applied :=
  match root <|> reg.root with
  | none => .error .noRoot
  | some r =>
    match NodeSet.ofExpression filter with
    | .error e => .error (.selection e)
    | .ok s =>
      if reg.contains r then
        match Uncached.projectValue reg cfg s (some r) doc with
        | .ok v => .ok ⟨v, !s.isAnyDeep⟩
        | .error e => .error (.schema e)
      else .error (.schema (.unknownType r))

/-! ## Running projection steps -/

/-- Runs a projection step from engine `e`: its result and the engine after it. -/
def Projecting.exec {α : Type} (m : Projecting α) (e : Engine) : Except SchemaError α × Engine :=
  m.run.run e

namespace Projecting

variable {α β : Type}

@[simp] theorem exec_pure (a : α) (e : Engine) : exec (pure a : Projecting α) e = (.ok a, e) :=
  rfl

theorem exec_bind_ok {m : Projecting α} {e e' : Engine} {a : α} (h : exec m e = (.ok a, e'))
    (f : α → Projecting β) : exec (m >>= f) e = exec (f a) e' := by
  simp only [exec, ExceptT.run_bind, StateT.run_bind] at h ⊢
  rw [h]
  rfl

theorem exec_bind_error {m : Projecting α} {e e' : Engine} {err : SchemaError}
    (h : exec m e = (.error err, e')) (f : α → Projecting β) :
    exec (m >>= f) e = (.error err, e') := by
  simp only [exec, ExceptT.run_bind, StateT.run_bind] at h ⊢
  rw [h]
  rfl

@[simp] theorem exec_decideHere (s : NodeSet) (p : String) (info : TypeViews) (e : Engine) :
    exec (Projection.decideHere s p info) e = (.ok (e.decide s p info).1, (e.decide s p info).2) :=
  rfl

@[simp] theorem exec_lookup (r : Except SchemaError α) (e : Engine) :
    exec (Projection.lookup r) e = (r, e) := by
  cases r <;> rfl

@[simp] theorem exec_modify (g : Engine → Engine) (e : Engine) :
    exec (modify g : Projecting Unit) e = (.ok (), g e) :=
  rfl

end Projecting

/-! ## The engine standing in for `decide` -/

/-- The views tables a registry hands to a projection: those of its types, and the views of
untyped objects. -/
def Registry.Provides (reg : Registry) (info : TypeViews) : Prop :=
  (∃ n, reg.introspect n = .ok info) ∨ info = Registry.untyped

/-- A way for an engine to stand in for `decide` under the settings `cfg`: an invariant of
engines over a world that only grows, and a relation between the node sets the engine is asked
about and those `decide` is asked about, such that every decision of the engine is the one
`decide` gives, up to the relation on what applies below, and keeps the invariant. -/
structure EngineSimulation (reg : Registry) (cfg : FilterConfig) where
  World : Type
  grows : World → World → Prop
  grows_refl : ∀ w, grows w w
  grows_trans : ∀ {a b c}, grows a b → grows b c → grows a c
  inv : World → Engine → Prop
  rel : World → NodeSet → NodeSet → Prop
  rel_grows : ∀ {w w' s t}, grows w w' → rel w s t → rel w' s t
  inv_notes : ∀ {w e} (notes : Array Note), inv w e → inv w { e with notes := notes }
  decide_step : ∀ {w e s t} (p : String) (info : TypeViews), inv w e → rel w s t →
    reg.Provides info → ∃ w', grows w w' ∧ inv w' (e.decide s p info).2 ∧
      (e.decide s p info).1.included = (decide t p info cfg).included ∧
      rel w' (e.decide s p info).1.children (decide t p info cfg).children

namespace EngineSimulation

variable {reg : Registry} {cfg : FilterConfig} (S : EngineSimulation reg cfg)

/-- A step run from `e` in world `w` answers `r` and leaves an engine that keeps the invariant
in a world grown from `w`. -/
def Agrees {α : Type} (w : S.World) (m : Projecting α) (e : Engine)
    (r : Except SchemaError α) : Prop :=
  ∃ w' e', S.grows w w' ∧ S.inv w' e' ∧ Projecting.exec m e = (r, e')

variable {S}

theorem agrees_pure {α : Type} {w : S.World} {e : Engine} (a : α) (kept : S.inv w e) :
    S.Agrees w (pure a) e (pure a) :=
  ⟨w, e, S.grows_refl w, kept, rfl⟩

theorem Agrees.bind {α β : Type} {w : S.World} {e : Engine} {m : Projecting α}
    {r : Except SchemaError α} {f : α → Projecting β} {g : α → Except SchemaError β}
    (first : S.Agrees w m e r)
    (rest : ∀ a w' e', r = .ok a → S.grows w w' → S.inv w' e' → S.Agrees w' (f a) e' (g a)) :
    S.Agrees w (m >>= f) e (r >>= g) := by
  obtain ⟨w1, e1, grown, kept, ran⟩ := first
  cases r with
  | error err => exact ⟨w1, e1, grown, kept, Projecting.exec_bind_error ran f⟩
  | ok a =>
    obtain ⟨w2, e2, grown', kept', ran'⟩ := rest a w1 e1 rfl grown kept
    exact ⟨w2, e2, S.grows_trans grown grown', kept', (Projecting.exec_bind_ok ran f).trans ran'⟩

/-- An answer reached from a grown world is reached from the world it grew from. -/
theorem Agrees.of_grows {α : Type} {w w' : S.World} {e : Engine} {m : Projecting α}
    {r : Except SchemaError α} (grown : S.grows w w') (h : S.Agrees w' m e r) :
    S.Agrees w m e r := by
  obtain ⟨w2, e2, grown', kept, ran⟩ := h
  exact ⟨w2, e2, S.grows_trans grown grown', kept, ran⟩

/-! The statement for each function of the traversal, under every node set related to the
engine's. -/

variable (S)

/-- Projecting `v` agrees with the reference. -/
def ValueAgrees (s : NodeSet) (ty : Option String) (v : Value) : Prop :=
  ∀ {w e t}, S.inv w e → S.rel w s t →
    S.Agrees w (Projection.projectValue reg s ty v) e (Uncached.projectValue reg cfg t ty v)

/-- Projecting the items agrees with the reference. -/
def ItemsAgrees (s : NodeSet) (ty : Option String) (vs : List Value) : Prop :=
  ∀ {w e t}, S.inv w e → S.rel w s t →
    S.Agrees w (Projection.projectItems reg s ty vs) e (Uncached.projectItems reg cfg t ty vs)

/-- Writing an object agrees with the reference. -/
def ObjectAgrees (s : NodeSet) (ty : Option String) (ms out : List (String × Value)) : Prop :=
  ∀ {w e t}, S.inv w e → S.rel w s t →
    S.Agrees w (Projection.writeObject reg s ty ms out) e
      (Uncached.writeObject reg cfg t ty ms out)

/-- Writing declared fields agrees with the reference, for views the registry provides. -/
def ClosedAgrees (s : NodeSet) (info : TypeViews) (ms : List (String × Value))
    (fs : List FieldDecl) (out : List (String × Value)) : Prop :=
  ∀ {w e t}, reg.Provides info → S.inv w e → S.rel w s t →
    S.Agrees w (Projection.writeClosed reg s info ms fs out) e
      (Uncached.writeClosed reg cfg t info ms fs out)

/-- Writing the members of an open object agrees with the reference, for views the registry
provides. -/
def OpenAgrees (s : NodeSet) (info : TypeViews) (ms out : List (String × Value)) : Prop :=
  ∀ {w e t}, reg.Provides info → S.inv w e → S.rel w s t →
    S.Agrees w (Projection.writeOpen reg s info ms out) e (Uncached.writeOpen reg cfg t info ms out)

variable {S}

theorem valueAgrees_array {s : NodeSet} {ty : Option String} {items : List Value}
    (ih : S.ItemsAgrees s ty items) : S.ValueAgrees s ty (.array items) := by
  intro w e t kept related
  rw [Projection.projectValue.eq_1, Uncached.projectValue.eq_1]
  exact (ih kept related).bind fun xs _ _ _ _ kept' => agrees_pure _ kept'

theorem valueAgrees_object {s : NodeSet} {ty : Option String} {ms : List (String × Value)}
    (ih : S.ObjectAgrees s ty ms []) : S.ValueAgrees s ty (.object ms) := by
  intro w e t kept related
  rw [Projection.projectValue.eq_2, Uncached.projectValue.eq_2]
  exact (ih kept related).bind fun out _ _ _ _ kept' => agrees_pure _ kept'

theorem valueAgrees_scalar {s : NodeSet} {ty : Option String} {v : Value}
    (notArray : ∀ items, v = .array items → False) (notObject : ∀ ms, v = .object ms → False) :
    S.ValueAgrees s ty v := by
  intro w e t kept _
  rw [Projection.projectValue.eq_3 _ _ _ _ notArray notObject,
    Uncached.projectValue.eq_3 _ _ _ _ _ notArray notObject]
  exact agrees_pure v kept

theorem itemsAgrees_nil {s : NodeSet} {ty : Option String} : S.ItemsAgrees s ty [] := by
  intro w e t kept _
  rw [Projection.projectItems.eq_1, Uncached.projectItems.eq_1]
  exact agrees_pure _ kept

theorem itemsAgrees_cons {s : NodeSet} {ty : Option String} {v : Value} {vs : List Value}
    (head : S.ValueAgrees s ty v) (tail : S.ItemsAgrees s ty vs) :
    S.ItemsAgrees s ty (v :: vs) := by
  intro w e t kept related
  rw [Projection.projectItems.eq_2, Uncached.projectItems.eq_2]
  refine (head kept related).bind fun x w' e' _ grown kept' => ?_
  exact (tail kept' (S.rel_grows grown related)).bind fun xs _ _ _ _ kept'' =>
    agrees_pure _ kept''

/-- A step that starts with an answer `a` of `m` agrees when the rest does. -/
theorem Agrees.after {α β : Type} {w : S.World} {e e1 : Engine} {m : Projecting α} {a : α}
    {f : α → Projecting β} {r : Except SchemaError β} (ran : Projecting.exec m e = (.ok a, e1))
    (h : S.Agrees w (f a) e1 r) : S.Agrees w (m >>= f) e r := by
  obtain ⟨w', e', grown, kept, ran'⟩ := h
  exact ⟨w', e', grown, kept, (Projecting.exec_bind_ok ran f).trans ran'⟩

/-- An object of a named type agrees when its open and closed readings do; the note a trace
takes of undeclared members changes nothing the relation sees. -/
theorem objectAgrees_typed {s : NodeSet} {ms out : List (String × Value)} {n : String}
    (openIH : ∀ info, S.OpenAgrees s info ms out)
    (closedIH : ∀ info fields, S.ClosedAgrees s info ms fields out) :
    S.ObjectAgrees s (some n) ms out := by
  intro w e t kept related
  rw [Projection.writeObject.eq_1, Uncached.writeObject.eq_1]
  refine Agrees.bind ⟨w, e, S.grows_refl w, kept, Projecting.exec_lookup _ _⟩
    fun info w' e' found grown kept' => ?_
  have provided : reg.Provides info := .inl ⟨n, found⟩
  have related' := S.rel_grows grown related
  dsimp only
  split
  · exact openIH info provided kept' related'
  · refine Agrees.bind ⟨w', e', S.grows_refl w', kept', Projecting.exec_lookup _ _⟩
      fun fields w2 e2 _ grown2 kept2 => ?_
    rw [← bind_pure (Uncached.writeClosed reg cfg t info ms fields out)]
    refine (closedIH info fields provided kept2 (S.rel_grows grown2 related')).bind
      fun out' w3 e3 _ _ kept3 => ?_
    split
    · exact ⟨w3, _, S.grows_refl w3, S.inv_notes _ kept3,
        Projecting.exec_bind_ok (Projecting.exec_modify _ _) _⟩
    · exact agrees_pure _ kept3

theorem objectAgrees_untyped {s : NodeSet} {ms out : List (String × Value)}
    (openIH : ∀ info, S.OpenAgrees s info ms out) : S.ObjectAgrees s none ms out := by
  intro w e t kept related
  have untypedOpen : Registry.untyped.isOpen = true := rfl
  rw [Projection.writeObject.eq_2, Uncached.writeObject.eq_2]
  simp only [pure_bind, untypedOpen, if_true]
  exact openIH Registry.untyped (.inr rfl) kept related

theorem closedAgrees_nil {s : NodeSet} {info : TypeViews} {ms out : List (String × Value)} :
    S.ClosedAgrees s info ms [] out := by
  intro w e t _ kept _
  rw [Projection.writeClosed.eq_1, Uncached.writeClosed.eq_1]
  exact agrees_pure _ kept

theorem closedAgrees_absent {s : NodeSet} {info : TypeViews} {ms out : List (String × Value)}
    {f : FieldDecl} {fs : List FieldDecl} (absent : Projection.memberOf ms f.name = none)
    (rest : ∀ out, S.ClosedAgrees s info ms fs out) : S.ClosedAgrees s info ms (f :: fs) out := by
  intro w e t provided kept related
  rw [Projection.writeClosed.eq_2, Uncached.writeClosed.eq_2]
  simp only [absent, pure_bind]
  exact rest out provided kept related

/-- A declared field that the object holds agrees on both traversals: projected under its name,
or, unwrapped, its object's members written into this object. -/
theorem closedAgrees_present {s : NodeSet} {info : TypeViews} {ms out : List (String × Value)}
    {f : FieldDecl} {fs : List FieldDecl} {v : Value} {hv : sizeOf v < sizeOf ms}
    (present : Projection.memberOf ms f.name = some ⟨v, hv⟩) (rest : ∀ out, S.ClosedAgrees s info ms fs out)
    (inlined : ∀ (d : Decision) inner, v = .object inner →
      S.ObjectAgrees d.children f.valueType inner out)
    (projected : ∀ d : Decision, S.ValueAgrees d.children f.valueType v) :
    S.ClosedAgrees s info ms (f :: fs) out := by
  intro w e t provided kept related
  rw [Projection.writeClosed.eq_2, Uncached.writeClosed.eq_2]
  simp only [present]
  obtain ⟨w', grown, kept', sameIncluded, relatedBelow⟩ :=
    S.decide_step f.name info kept related provided
  refine Agrees.of_grows grown (Agrees.after (Projecting.exec_decideHere _ _ _ _) ?_)
  have related' := S.rel_grows grown related
  rw [sameIncluded]
  split
  · simp only [pure_bind]
    exact rest out provided kept' related'
  · split
    · split
      · rename_i inner
        exact (inlined _ inner rfl kept' relatedBelow).bind
          fun out' _ _ _ grown' kept'' => rest out' provided kept'' (S.rel_grows grown' related')
      · simp only [pure_bind]
        exact rest out provided kept' related'
    · refine (projected _ kept' relatedBelow).bind fun y _ _ _ grown' kept'' => ?_
      simp only [pure_bind]
      exact rest _ provided kept'' (S.rel_grows grown' related')

theorem openAgrees_nil {s : NodeSet} {info : TypeViews} {out : List (String × Value)} :
    S.OpenAgrees s info [] out := by
  intro w e t _ kept _
  rw [Projection.writeOpen.eq_1, Uncached.writeOpen.eq_1]
  exact agrees_pure _ kept

theorem openAgrees_cons {s : NodeSet} {info : TypeViews} {k : String} {v : Value}
    {rest out : List (String × Value)} (later : ∀ out, S.OpenAgrees s info rest out)
    (projected : ∀ d : Decision, S.ValueAgrees d.children none v) :
    S.OpenAgrees s info ((k, v) :: rest) out := by
  intro w e t provided kept related
  rw [Projection.writeOpen.eq_2, Uncached.writeOpen.eq_2]
  obtain ⟨w', grown, kept', sameIncluded, relatedBelow⟩ :=
    S.decide_step k info kept related provided
  refine Agrees.of_grows grown (Agrees.after (Projecting.exec_decideHere _ _ _ _) ?_)
  have related' := S.rel_grows grown related
  dsimp only
  rw [sameIncluded]
  split
  · refine (projected _ kept' relatedBelow).bind fun y _ _ _ grown' kept'' => ?_
    simp only [pure_bind]
    exact later _ provided kept'' (S.rel_grows grown' related')
  · simp only [pure_bind]
    exact later out provided kept' related'

/-- **The engine's projection is the uncached one.** Under any engine simulation, projecting a
value with the engine from an engine that keeps the invariant answers what the uncached
projection answers under a related node set, and leaves an engine that keeps the invariant. -/
theorem projectValue_agrees (s : NodeSet) (ty : Option String) (v : Value) :
    S.ValueAgrees s ty v :=
  Projection.projectValue.induct reg S.ValueAgrees S.ObjectAgrees
    (fun s info ms fs out => S.ClosedAgrees s info ms fs out)
    (fun s info ms out => S.OpenAgrees s info ms out) S.ItemsAgrees
    (fun _ _ _ ih => valueAgrees_array ih)
    (fun _ _ _ ih => valueAgrees_object ih)
    (fun _ _ _ notArray notObject => valueAgrees_scalar notArray notObject)
    (fun _ _ _ _ openIH closedIH => objectAgrees_typed openIH closedIH)
    (fun _ _ _ openIH _ => objectAgrees_untyped openIH)
    (fun _ _ _ _ => closedAgrees_nil)
    (fun _ _ _ _ _ _ absent rest => closedAgrees_absent absent rest)
    (fun _ _ _ _ _ _ _ _ present rest inlined projected =>
      closedAgrees_present present rest inlined projected)
    (fun _ _ _ => openAgrees_nil)
    (fun _ _ _ _ _ _ later projected => openAgrees_cons later projected)
    (fun _ _ => itemsAgrees_nil)
    (fun _ _ _ _ head tail => itemsAgrees_cons head tail)
    s ty v

end EngineSimulation

/-! ## The any-deep set -/

/-- Under the any-deep set every property is shown, with everything below. -/
@[simp] theorem decide_anyDeep (p : String) (info : TypeViews) (cfg : FilterConfig)
    (pool : ListIdent) : decide .anyDeep p info cfg pool = .shown .anyDeep := by
  unfold decide
  split <;> rfl

/-- Every decision the engine remembers for the any-deep set is the one `decide` gives. -/
def Engine.AnyDeepCached (e : Engine) : Prop :=
  e.cache.AllEntries fun k d => k.1 = .anyDeep → d = .shown .anyDeep

theorem Engine.anyDeepCached_new (cfg : FilterConfig) : (Engine.new cfg).AnyDeepCached :=
  fun _ mem => nomatch mem

/-- What one decision of the engine can do: answer the any-deep set at once, answer from the
cache, or compute the decision, remember it and count one more pooled list. -/
theorem Engine.decide_cases (e : Engine) (s : NodeSet) (p : String) (info : TypeViews) :
    (s.isAnyDeep = true ∧ e.decide s p info = (.shown .anyDeep, e)) ∨
    (∃ d c, e.cache.get (s.key, info.typeName, p) = (some d, c) ∧
      e.decide s p info = (d, { e with cache := c })) ∨
    (∃ c, e.cache.get (s.key, info.typeName, p) = (none, c) ∧
      e.decide s p info = (FieldSelection.decide s p info e.config (.pooled e.pooled),
        { e with cache := c.insert (s.key, info.typeName, p)
                   (FieldSelection.decide s p info e.config (.pooled e.pooled)),
                 pooled := e.pooled + 1,
                 notes := e.notes ++ (Engine.decisionNotes s p info
                   (FieldSelection.decide s p info e.config (.pooled e.pooled))).toArray })) := by
  unfold Engine.decide
  split
  · rename_i bypass
    exact .inl ⟨(Bool.and_eq_true _ _ ▸ bypass).1, rfl⟩
  · right
    rcases found : e.cache.get (s.key, info.typeName, p) with ⟨_ | d, c⟩
    · exact .inr ⟨c, rfl, by simp only [found]⟩
    · exact .inl ⟨d, c, rfl, by simp only [found]⟩

/-- The engine shows every property under the any-deep set, and keeps remembering only that. -/
theorem Engine.decide_anyDeep_of_cached {e : Engine} (kept : e.AnyDeepCached) (p : String)
    (info : TypeViews) :
    (e.decide .anyDeep p info).1 = .shown .anyDeep ∧ (e.decide .anyDeep p info).2.AnyDeepCached := by
  rcases e.decide_cases .anyDeep p info with ⟨-, bypass⟩ | ⟨d, c, found, ran⟩ | ⟨c, missed, ran⟩
  · rw [bypass]
    exact ⟨rfl, kept⟩
  · obtain ⟨x, mem, sameKey, rfl⟩ := Lru.get_found (v := d) (by rw [found])
    simp only [beq_iff_eq] at sameKey
    have after := Lru.allEntries_get kept (NodeSet.anyDeep.key, info.typeName, p)
    rw [found] at after
    rw [ran]
    exact ⟨kept x mem (by rw [sameKey]; rfl), after⟩
  · have after := Lru.allEntries_get kept (NodeSet.anyDeep.key, info.typeName, p)
    rw [missed] at after
    rw [ran]
    exact ⟨FieldSelection.decide_anyDeep p info e.config (.pooled e.pooled),
      Lru.allEntries_insert after fun _ =>
        FieldSelection.decide_anyDeep p info e.config (.pooled e.pooled)⟩

/-- The engine standing in for `decide` on the any-deep set. -/
def anyDeepSimulation (reg : Registry) (cfg : FilterConfig) : EngineSimulation reg cfg where
  World := Unit
  grows _ _ := True
  grows_refl _ := trivial
  grows_trans _ _ := trivial
  inv _ e := e.AnyDeepCached
  rel _ s t := s = .anyDeep ∧ t = .anyDeep
  rel_grows _ related := related
  inv_notes _ kept := kept
  decide_step := by
    rintro _ e s t p info kept ⟨rfl, rfl⟩ -
    obtain ⟨shown, kept'⟩ := Engine.decide_anyDeep_of_cached kept p info
    exact ⟨(), trivial, kept', by rw [shown, decide_anyDeep],
      by rw [shown, decide_anyDeep]; exact ⟨rfl, rfl⟩⟩

/-- On the any-deep set the engine's projection is the uncached one, from any engine whose
remembered any-deep decisions are right, and the engine after it still remembers only those. -/
theorem Uncached.projectValue_anyDeep_eq (reg : Registry) (cfg : FilterConfig) {e : Engine}
    (kept : e.AnyDeepCached) (ty : Option String) (v : Value) :
    ∃ e', e'.AnyDeepCached ∧ Projecting.exec (Projection.projectValue reg .anyDeep ty v) e =
      (Uncached.projectValue reg cfg .anyDeep ty v, e') := by
  obtain ⟨_, e', _, kept', ran⟩ :=
    (anyDeepSimulation reg cfg).projectValue_agrees .anyDeep ty v (w := ()) kept ⟨rfl, rfl⟩
  exact ⟨e', kept', ran⟩

end FieldSelection

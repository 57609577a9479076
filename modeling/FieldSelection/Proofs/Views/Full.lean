import FieldSelection.Schema.Basic
import FieldSelection.Decision
import FieldSelection.Selection.Parser
/-!
# The full view holds the base view

`TypeViews.build` gathers the views of a closed type from its declared properties, then copies
the base members into the view `full`. It copies them into a view that is already there: one
that some declared property names. So when a property of the type is declared in `full`, every
base property is in the full view (`TypeViews.isBase_viewContains_full`).

The filters `base` and `full` are lone view tokens: an exact name that includes the property of
that name and every member of the view of that name (`decide_viewToken_included`). Hence the
filter `full` includes whatever the filter `base` includes, except a property named `base`
itself, which the filter `base` selects by its name and not as a view
(`full_view_holds_base`, `base_field_hidden_by_full`).
-/

namespace FieldSelection

namespace TypeViews

/-! ## Views gathered from the declarations -/

/-- The views of a closed type as its declared properties name them, before the base members
are spread. -/
def gathered (props : List PropertyDecl) (cfg : FilterConfig) : List (String × List String) :=
  props.foldl (fun acc d =>
    if d.views.isEmpty then
      if cfg.unannotatedInBase then addMember acc baseView d.name else acc
    else d.views.foldl (fun acc v => addMember acc v d.name) acc) []

theorem build_eq (name : String) (props : List PropertyDecl) (cfg : FilterConfig) :
    build name props cfg = ⟨name, spreadBase (gathered props cfg) cfg.baseInViews,
      (props.filter (·.unwrapped)).map (·.name), false⟩ := rfl

/-- Looking a key up after changing the members of every view is changing the members found. -/
theorem lookup_map_members {β : Type} {g : String × β → String × β}
    (keyed : ∀ e, (g e).1 = e.1) (views : List (String × β)) (k : String) :
    (views.map g).lookup k = (views.lookup k).map fun ms => (g (k, ms)).2 := by
  induction views with
  | nil => rfl
  | cons entry rest ih =>
    obtain ⟨v, ms⟩ := entry
    have named : g (v, ms) = (v, (g (v, ms)).2) := Prod.ext (keyed _) rfl
    rw [List.map_cons, named, List.lookup_cons, List.lookup_cons]
    by_cases here : (k == v) = true
    · obtain rfl := beq_iff_eq.1 here
      simp
    · rw [Bool.eq_false_iff.2 here]
      exact ih

/-- A view that was there stays there when a property joins a view. -/
theorem isSome_lookup_addMember {views : List (String × List String)} {w : String}
    (present : (views.lookup w).isSome = true) (v p : String) :
    ((addMember views v p).lookup w).isSome = true := by
  induction views with
  | nil => cases present
  | cons entry rest ih =>
    obtain ⟨u, ms⟩ := entry
    unfold addMember
    by_cases here : (w == u) = true
    · split <;> rw [List.lookup_cons, here] <;> rfl
    · rw [List.lookup_cons, Bool.eq_false_iff.2 here] at present
      split <;> rw [List.lookup_cons, Bool.eq_false_iff.2 here]
      · exact present
      · exact ih present

/-- The view a property joins is there afterwards. -/
theorem isSome_lookup_addMember_self (views : List (String × List String)) (v p : String) :
    ((addMember views v p).lookup v).isSome = true := by
  induction views with
  | nil => rw [addMember, List.lookup_cons, beq_self_eq_true]; rfl
  | cons entry rest ih =>
    obtain ⟨u, ms⟩ := entry
    unfold addMember
    split
    · rename_i same
      rw [List.lookup_cons, beq_iff_eq.1 same, beq_self_eq_true]
      rfl
    · rename_i other
      have other' : (v == u) = false := by
        rw [Bool.eq_false_iff]
        intro same
        exact other (by rw [beq_iff_eq.1 same, beq_self_eq_true])
      rw [List.lookup_cons, other']
      exact ih

/-- A fold whose every step keeps a property keeps it. -/
theorem foldl_keeps {α β : Type} {P : β → Prop} {f : β → α → β} (keeps : ∀ b a, P b → P (f b a)) :
    ∀ {xs : List α} {init : β}, P init → P (xs.foldl f init)
  | [], _, holds => holds
  | x :: _, init, holds => by
    rw [List.foldl_cons]
    exact foldl_keeps keeps (keeps init x holds)

/-- A fold whose every step keeps a property, and some step of which makes it hold, ends with
it. -/
theorem foldl_of_steps {α β : Type} {P : β → Prop} {f : β → α → β}
    (keeps : ∀ b a, P b → P (f b a)) :
    ∀ {xs : List α} {init : β}, (∃ a ∈ xs, ∀ b, P (f b a)) → P (xs.foldl f init)
  | [], _, ⟨_, absent, _⟩ => absurd absent List.not_mem_nil
  | x :: _, init, ⟨a, present, makes⟩ => by
    rw [List.foldl_cons]
    rcases List.mem_cons.1 present with rfl | later
    · exact foldl_keeps keeps (makes init)
    · exact foldl_of_steps keeps ⟨a, later, makes⟩

/-- Spreading the base members leaves the base view as it was, and adds them to each other view
it spreads to. -/
theorem lookup_spreadBase (views : List (String × List String)) (everyView : Bool) (k : String) :
    (spreadBase views everyView).lookup k =
      (views.lookup k).map fun ms =>
        if k != baseView && (everyView || k == fullView) then
          ms ++ ((views.lookup baseView).getD []).filter fun p => !ms.contains p
        else ms := by
  unfold spreadBase
  rw [lookup_map_members (fun e => by dsimp only; split <;> rfl)]
  congr 1
  funext ms
  dsimp only
  split <;> rfl

/-- A property joining several views keeps every view that was there, and adds those. -/
theorem isSome_lookup_foldl_addMember (vs : List String) (p w : String)
    {views : List (String × List String)} (present : (views.lookup w).isSome = true ∨ w ∈ vs) :
    ((vs.foldl (fun acc v => addMember acc v p) views).lookup w).isSome = true := by
  rcases present with present | named
  · exact foldl_keeps (P := fun acc : List (String × List String) => (acc.lookup w).isSome = true)
      (fun b v held => isSome_lookup_addMember held v p) present
  · exact foldl_of_steps (P := fun acc : List (String × List String) => (acc.lookup w).isSome = true)
      (fun b v held => isSome_lookup_addMember held v p)
      ⟨w, named, fun b => isSome_lookup_addMember_self b w p⟩

/-- The views of a type in which some declared property names the view `full`: the full view
is among them. -/
theorem lookup_full_isSome {props : List PropertyDecl} (declared : ∃ d ∈ props, fullView ∈ d.views)
    (cfg : FilterConfig) : ((gathered props cfg).lookup fullView).isSome = true := by
  obtain ⟨d, present, named⟩ := declared
  refine foldl_of_steps (P := fun acc : List (String × List String) =>
      (acc.lookup fullView).isSome = true)
    (fun acc e kept => ?_) ⟨d, present, fun acc => ?_⟩
  · split
    · split
      · exact isSome_lookup_addMember kept _ _
      · exact kept
    · exact isSome_lookup_foldl_addMember e.views e.name fullView (.inl kept)
  · have declaresViews : d.views.isEmpty = false := by
      cases views : d.views with
      | nil => rw [views] at named; cases named
      | cons _ _ => rfl
    rw [if_neg (by simp [declaresViews])]
    exact isSome_lookup_foldl_addMember d.views d.name fullView (.inr named)

/-- When some declared property names the view `full`, every base property of the type is in
the full view. -/
theorem isBase_viewContains_full {name : String} {props : List PropertyDecl}
    (declared : ∃ d ∈ props, fullView ∈ d.views) (cfg : FilterConfig) {p : String}
    (base : (build name props cfg).isBase p = true) :
    (build name props cfg).viewContains fullView p = true := by
  obtain ⟨ms, found⟩ := Option.isSome_iff_exists.1 (lookup_full_isSome declared cfg)
  have baseKept : (baseView != baseView && (cfg.baseInViews || baseView == fullView)) = false := by
    simp
  have fullSpread : (fullView != baseView && (cfg.baseInViews || fullView == fullView)) = true := by
    simp [fullView, baseView]
  simp only [isBase, viewContains, members?, build_eq, lookup_spreadBase, found, baseKept,
    fullSpread, Bool.false_eq_true, if_false, if_true, Option.map_some, Option.getD_some,
    Option.map_id'] at base ⊢
  generalize (List.lookup baseView (gathered props cfg)).getD [] = members at base ⊢
  have inBase : p ∈ members := by simpa using base
  by_cases own : p ∈ ms
  · simp [own]
  · simp [own, inBase]

end TypeViews

/-! ## Registering a type -/

theorem lookup_isSome_of_any {β : Type} {entries : List (String × β)} {n : String}
    (named : entries.any (·.1 == n) = true) : (entries.lookup n).isSome = true := by
  induction entries with
  | nil => cases named
  | cons entry rest ih =>
    obtain ⟨k, e⟩ := entry
    rw [List.lookup_cons]
    by_cases here : (n == k) = true
    · rw [here]
      rfl
    · rw [Bool.eq_false_iff.2 here]
      have later : rest.any (·.1 == n) = true := by
        rw [List.any_cons, Bool.or_eq_true] at named
        refine named.resolve_left fun first => here ?_
        rw [beq_iff_eq] at first ⊢
        exact first.symm
      exact ih later

theorem lookup_eq_none_of_not_any {β : Type} {entries : List (String × β)} {n : String}
    (absent : entries.any (·.1 == n) = false) : entries.lookup n = none := by
  induction entries with
  | nil => rfl
  | cons entry rest ih =>
    obtain ⟨k, e⟩ := entry
    rw [List.any_cons, Bool.or_eq_false_iff] at absent
    have other : (n == k) = false := by
      rw [Bool.eq_false_iff]
      intro same
      rw [beq_iff_eq.1 same, beq_self_eq_true] at absent
      exact Bool.false_ne_true absent.1.symm
    rw [List.lookup_cons, other]
    exact ih absent.2

/-- A type registered is found under its name, whether the name was registered before or not. -/
theorem Registry.lookup?_register (r : Registry) (t : TypeDecl) :
    (r.register t).lookup? t.name = some ⟨t.viewsUnder r.config, t.fields⟩ := by
  unfold Registry.register Registry.lookup?
  dsimp only
  split
  · rename_i named
    rw [TypeViews.lookup_map_members (fun e => by split <;> rfl)]
    obtain ⟨e, found⟩ := Option.isSome_iff_exists.1 (lookup_isSome_of_any named)
    simp [found]
  · rename_i absent
    rw [List.lookup_append, lookup_eq_none_of_not_any (Bool.eq_false_iff.2 absent)]
    simp

/-- A type registered is described by the views built under the registry's settings. -/
theorem Registry.introspect_register (r : Registry) (t : TypeDecl) :
    (r.register t).introspect t.name = .ok (t.viewsUnder r.config) := by
  rw [Registry.introspect, Registry.lookup?_register]

/-! ## View tokens -/

/-- A lone exact name without a nested part includes the property of its name, and every
member of the view of its name. -/
theorem decide_viewToken_included {info : TypeViews} {p : String}
    (wrapped : info.isUnwrapped p = false) (v : String) (slot : Nat) (cfg : FilterConfig) :
    (decide (.nodes (.ofForest [.mk (.exact v) {} slot []])) p info cfg).included =
      (v == p || info.viewContains v p) := by
  rw [decide, if_neg (by simp [wrapped])]
  by_cases named : (v == p) = true
  · simp [decideNodes, verdict, NodeList.ofForest, Scan.step, NameMatcher.accepts, named,
      Decision.shown]
  · simp [decideNodes, verdict, NodeList.ofForest, Scan.step, NameMatcher.accepts, named,
      viewNode?, Node.name, NameMatcher.literal, NameMatcher.isExact]
    cases info.viewContains v p <;> rfl

/-! ## The filters `base` and `full` -/

/-- The views of a closed type registered with a property declared in `full`: every base
property is in the full view, and the filter `full` includes every property that the filter
`base` includes, but for one named `base`. -/
theorem full_view_holds_base {r : Registry} {t : TypeDecl} (closed : t.isOpen = false)
    (declared : ∃ f ∈ t.fields, fullView ∈ f.views) :
    ∃ info, (r.register t).introspect t.name = .ok info ∧
      (∀ p, info.isBase p = true → info.viewContains fullView p = true) ∧
      ∀ (cfg : FilterConfig) (p : String) (bs fs : List Node),
        Selection.parse baseView = .ok bs → Selection.parse fullView = .ok fs →
        info.isUnwrapped p = false → p ≠ baseView →
        (decide (.nodes (.ofForest bs)) p info cfg).included = true →
        (decide (.nodes (.ofForest fs)) p info cfg).included = true := by
  have holds : ∀ p, (t.viewsUnder r.config).isBase p = true →
      (t.viewsUnder r.config).viewContains fullView p = true := by
    intro p base
    rw [TypeDecl.viewsUnder, if_neg (by simp [closed])] at base ⊢
    obtain ⟨f, present, named⟩ := declared
    have listed : (⟨f.name, f.views, f.unwrapped⟩ : PropertyDecl) ∈ t.properties := by
      unfold TypeDecl.properties
      exact List.mem_map_of_mem present
    exact TypeViews.isBase_viewContains_full ⟨_, listed, named⟩ r.config base
  refine ⟨_, Registry.introspect_register r t, holds, ?_⟩
  intro cfg p bs fs compiledBase compiledFull wrapped other shown
  have baseToken : Selection.parse baseView = .ok [.mk (.exact baseView) {} 1 []] := by
    unfold baseView
    rfl
  have fullToken : Selection.parse fullView = .ok [.mk (.exact fullView) {} 1 []] := by
    unfold fullView
    rfl
  obtain rfl : bs = [.mk (.exact baseView) {} 1 []] := by
    rw [baseToken] at compiledBase
    injection compiledBase.symm
  obtain rfl : fs = [.mk (.exact fullView) {} 1 []] := by
    rw [fullToken] at compiledFull
    injection compiledFull.symm
  rw [decide_viewToken_included wrapped] at shown ⊢
  have notNamed : (baseView == p) = false := by simpa using Ne.symm other
  rw [notNamed, Bool.false_or] at shown
  rw [holds p shown, Bool.or_true]

/-- A type with one base field and one field in the view `full`. -/
def secretUser : TypeDecl :=
  { name := "User", fields := [{ name := "firstName" }, { name := "secret", views := ["full"] }] }

theorem secretUser_full_holds_base :
    secretUser.isOpen = false ∧ (∃ f ∈ secretUser.fields, fullView ∈ f.views) ∧
      ∃ info, ((Registry.empty {}).register secretUser).introspect secretUser.name = .ok info ∧
        (∀ p, info.isBase p = true → info.viewContains fullView p = true) ∧
        ∀ (cfg : FilterConfig) (p : String) (bs fs : List Node),
          Selection.parse baseView = .ok bs → Selection.parse fullView = .ok fs →
          info.isUnwrapped p = false → p ≠ baseView →
          (decide (.nodes (.ofForest bs)) p info cfg).included = true →
          (decide (.nodes (.ofForest fs)) p info cfg).included = true :=
  ⟨rfl, ⟨_, List.mem_cons_of_mem _ List.mem_cons_self, List.mem_cons_self⟩,
    full_view_holds_base rfl ⟨_, List.mem_cons_of_mem _ List.mem_cons_self, List.mem_cons_self⟩⟩

/-- A type with a field named `base` declared in another view, and a field in `full`. -/
def shadowedBase : TypeDecl :=
  { name := "T", fields := [{ name := "base", views := ["other"] }, { name := "y", views := ["full"] }] }

/-- The filter `base` includes the field named `base` by its name; the filter `full` does not
include it, as it is no member of the full view. -/
theorem base_field_hidden_by_full :
    ¬∀ (cfg : FilterConfig) (p : String) (bs fs : List Node) (info : TypeViews),
      ((Registry.empty {}).register shadowedBase).introspect shadowedBase.name = .ok info →
      Selection.parse baseView = .ok bs → Selection.parse fullView = .ok fs →
      info.isUnwrapped p = false →
      (decide (.nodes (.ofForest bs)) p info cfg).included = true →
      (decide (.nodes (.ofForest fs)) p info cfg).included = true := by
  intro claimed
  have shown := claimed {} baseView [.mk (.exact baseView) {} 1 []] [.mk (.exact fullView) {} 1 []]
    ⟨"T", [("other", ["base"]), ("full", ["y"])], [], false⟩
    ((Registry.introspect_register _ _).trans (congrArg Except.ok (by decide)))
    (by unfold baseView; rfl) (by unfold fullView; rfl) (by decide) (by decide)
  revert shown
  decide

end FieldSelection

import FieldSelection.Cache.Spec
/-!
# Selection settings

The four switches that shape how views and base fields are resolved, and the bounds of the two
caches. The defaults include base fields implicitly, put base fields into every view, do not
carry views into nested objects, and put fields without a view into the base view; both
caches hold a thousand entries.
-/

namespace FieldSelection

/-- The settings of a selection engine. -/
structure FilterConfig where
  /-- a matched object without a nested expression shows its base fields -/
  implicitBase : Bool := true
  /-- every view other than the base view also holds the base fields -/
  baseInViews : Bool := true
  /-- a view token keeps applying to nested objects -/
  propagateViews : Bool := false
  /-- fields declared without a view belong to the base view -/
  unannotatedInBase : Bool := true
  /-- the bounds of the decision cache -/
  decisionCache : CacheSpec := CacheSpec.standard
  /-- the bounds of the compiled-expression cache -/
  expressionCache : CacheSpec := CacheSpec.standard
  deriving DecidableEq, Repr

/-- The debug text of the settings. -/
def FilterConfig.debugText (c : FilterConfig) : String :=
  "FilterConfig \x7b implicitly_include_base_fields: " ++ toString c.implicitBase ++
    ", implicitly_include_base_fields_in_view: " ++ toString c.baseInViews ++
    ", propagate_view_to_nested_filters: " ++ toString c.propagateViews ++
    ", add_non_annotated_fields_to_base_view: " ++ toString c.unannotatedInBase ++
    ", filter_cache_spec: " ++ c.decisionCache.debugText ++
    ", node_cache_spec: " ++ c.expressionCache.debugText ++ " \x7d"

end FieldSelection

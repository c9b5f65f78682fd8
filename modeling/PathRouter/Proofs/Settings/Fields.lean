import Mathlib
import PathRouter.Proofs.Settings.Variables

/-!
Settings from a file and from variables. Each field takes the value of the variable that is for it,
else what the file gives, else its default, and no other value has a say in it. What does not fit is
told of the values that are taken alone: a value of the file that a variable hides is never looked
at.
-/

namespace PathRouter.Settings

open Layers Conversion

/-! ### The shape of the layers -/

theorem Shaped.setAt {v : Json} (h : Shaped v) (f : Field) (value : Json) :
    Shaped (setAt value (f.keys.map .key) v) := by
  -- The way of a field passes the totals by, or it goes through them and makes them a table.
  have hkeys : Parted ["metrics"] f.keys ∨ ∃ key, f.keys = ["metrics", key] := by
    cases f with
    | host | port => exact .inl (by decide)
    | metricsEnabled | metricsPort => exact .inr ⟨_, rfl⟩
  obtain hparted | ⟨key, hkeys⟩ := hkeys
  · refine ⟨by cases f <;> exact ⟨_, rfl⟩, fun m hm => h.metrics m ?_⟩
    rw [← follow?_singleton, follow?_setAt_of_parted f.lower_keys hparted] at hm
    simpa using hm
  · rw [hkeys]
    refine ⟨⟨_, rfl⟩, fun m hm => ?_⟩
    have hmetrics : Text.lowercase "metrics" = "metrics" := by cbv
    rw [List.map_cons, field?_setAt, if_pos hmetrics] at hm
    exact ⟨_, (Option.some.inj hm).symm⟩

theorem Shaped.laid_ofVariables {v : Json} (h : Shaped v) {vars : List (String × String)}
    (hvars : SetsFields vars) : Shaped (laid (ofVariables vars) v) := by
  induction vars generalizing v with
  | nil => exact h
  | cons var vars ih =>
      obtain hforeign | ⟨f, hf⟩ := hvars.known var List.mem_cons_self
      · rw [laid_ofVariables_cons_of_isForeign hforeign]
        exact ih h hvars.of_cons
      · rw [laid_ofVariables_cons_of_isSetBy hf]
        exact ih (h.setAt f _) hvars.of_cons

/-! ### Settings of a file and variables -/

/-- The text of the file, if there is a file, is that of the table. -/
def TableOf (file : Option String) (table : List (String × Json)) : Prop :=
  (file.map Toml.parse?).getD (some (.obj [])) = some (.obj table)

/-- The variables over the table of the file. -/
def layers (table : List (String × Json)) (vars : List (String × String)) : Json :=
  laid (ofVariables vars) (laid (.obj table) (.obj []))

section OfLayers

variable {file : Option String} {table : List (String × Json)} {vars : List (String × String)}

theorem ofLayers_eq_ok_iff (hfile : TableOf file table) {s : Settings} :
    ofLayers file vars = .ok s ↔ Settings.read lenient (layers table vars) = some s := by
  rw [ofLayers, hfile, layers]
  cases hs : Settings.read lenient (laid (ofVariables vars) (laid (.obj table) (.obj []))) with
  | none => simp [hs]
  | some settings => simp [hs]

theorem ofLayers_eq_error_iff (hfile : TableOf file table) {e : LoadError} :
    ofLayers file vars = .error e ↔ e = .unfit ∧ ∀ s, ofLayers file vars ≠ .ok s := by
  rw [ofLayers, hfile]
  cases hs : Settings.read lenient (laid (ofVariables vars) (laid (.obj table) (.obj []))) with
  | none => simp [hs, eq_comm]
  | some settings => simp [hs]

/-- Keys are plain and do not repeat up to case, and the totals are a table. -/
structure Tidy (table : List (String × Json)) : Prop where
  plain : ∀ entry ∈ table, IsPlainKey entry.1
  distinct : Distinct (.obj table)
  metrics : ∀ v, caseField? "metrics" (.obj table) = some v →
    Distinct v ∧ ∃ entries, v = .obj entries

theorem Tidy.distinctAlong (h : Tidy table) (f : Field) : DistinctAlong f.keys (.obj table) := by
  cases f with
  | host | port => exact ⟨h.distinct, fun _ _ => trivial⟩
  | metricsEnabled | metricsPort =>
      exact ⟨h.distinct, fun v hv => ⟨(h.metrics v hv).1, fun _ _ => trivial⟩⟩

theorem Tidy.layers_eq (h : Tidy table) (vars : List (String × String)) :
    layers table vars = laid (ofVariables vars) (overlay (.obj []) (.obj table)) := by
  rw [layers, laid_eq_overlay h.plain]

theorem Tidy.shaped_layers (h : Tidy table) (hvars : SetsFields vars) :
    Shaped (layers table vars) := by
  rw [h.layers_eq]
  refine Shaped.laid_ofVariables ⟨exists_overlay_eq_obj table [], fun m hm => ?_⟩ hvars
  have halong : DistinctAlong ["metrics"] (.obj table) := ⟨h.distinct, fun _ _ => trivial⟩
  rw [← follow?_singleton, follow?_overlay halong, given?_singleton] at hm
  obtain ⟨v, hv, rfl⟩ := Option.map_eq_some_iff.1 hm
  obtain ⟨-, entries, rfl⟩ := h.metrics v hv
  exact exists_overlay_eq_obj entries []

/-- The value of a field: that of its variable, else that of the file. -/
def chosen? (table : List (String × Json)) (vars : List (String × String)) (f : Field) :
    Option Json :=
  (setBy? vars f).or (given? f.keys (.obj table))

theorem Tidy.follow?_layers (h : Tidy table) (hvars : SetsFields vars) (f : Field) :
    follow? f.keys (layers table vars) = (chosen? table vars f).map (overlay (.obj [])) := by
  rw [h.layers_eq, follow?_laid_ofVariables hvars, follow?_overlay (h.distinctAlong f), chosen?,
    Option.map_or, map_overlay_setBy?]

theorem Tidy.follow?_layers_routes (h : Tidy table) (hvars : SetsFields vars) :
    follow? ["routes"] (layers table vars) =
      (given? ["routes"] (.obj table)).map (overlay (.obj [])) := by
  have halong : DistinctAlong ["routes"] (.obj table) := ⟨h.distinct, fun _ _ => trivial⟩
  rw [h.layers_eq, follow?_laid_ofVariables_of_parted hvars Field.parted_routes,
    follow?_overlay halong]

/-- With keys that are plain and do not repeat, each field is read from the value of its variable,
else from that of the file, else it has its default, and routes are read from the file alone. No
settings are made exactly if one of these values is unfit. -/
theorem ofLayers_fields (hfile : TableOf file table) (htable : Tidy table)
    (hvars : SetsFields vars) :
    (∀ s, ofLayers file vars = .ok s ↔
        ReadFrom (chosen? table vars) (given? ["routes"] (.obj table)) s) ∧
      ∀ e, ofLayers file vars = .error e ↔
        e = .unfit ∧ Misfit (chosen? table vars) (given? ["routes"] (.obj table)) := by
  have hok (s : Settings) : ofLayers file vars = .ok s ↔
      ReadFrom (chosen? table vars) (given? ["routes"] (.obj table)) s := by
    rw [ofLayers_eq_ok_iff hfile, read_eq_some_iff (htable.shaped_layers hvars),
      htable.follow?_layers_routes hvars, funext (htable.follow?_layers hvars),
      readFrom_overlay_iff]
  refine ⟨hok, fun e => ?_⟩
  rw [ofLayers_eq_error_iff hfile, misfit_iff_forall_not_readFrom]
  simp only [ne_eq, hok]

end OfLayers

/-- A host and a flag in the file that do not fit are hidden by variables. The port is that of the
file, and the totals have the default one; the route has a status that is written as a text. -/
theorem ofLayers_fields_hidden :
    ofLayers
        (some ("\n".intercalate ["host = []", "Port = 7070", "[Metrics]", "Enabled = 'maybe'",
          "[[routes]]", "name = 'home'", "pattern = '/'", "status = '204'"]))
        [("PATH", "/bin"), ("WAYMARK_HOST", "0.0.0.0"), ("waymark_Metrics__Enabled", "off")] =
      .ok {
        host := "0.0.0.0", port := 7070, metrics := { enabled := false }
        routes := [{ name := "home", pattern := "/", status := 204 }] } := by
  let route : List (String × Json) :=
    [("name", .str "home"), ("pattern", .str "/"), ("status", .str "204")]
  let table : List (String × Json) := [("host", .arr []), ("Port", .int 7070),
    ("Metrics", .obj [("Enabled", .str "maybe")]), ("routes", .arr [.obj route])]
  let vars : List (String × String) :=
    [("PATH", "/bin"), ("WAYMARK_HOST", "0.0.0.0"), ("waymark_Metrics__Enabled", "off")]
  have htable : Tidy table := by
    have hkeys : table.map (Text.lowercase ·.1) = ["host", "port", "metrics", "routes"] := by cbv
    have hmetrics :
        caseField? "metrics" (.obj table) = some (.obj [("Enabled", .str "maybe")]) := by cbv
    refine ⟨by decide, by rw [Distinct, hkeys]; decide, fun v hv => ?_⟩
    obtain rfl := Option.some.inj (hmetrics.symm.trans hv)
    exact ⟨by simp [Distinct], _, rfl⟩
  have hpath : Text.lowercase "PATH" = "path" := by cbv
  have hhost : Text.lowercase "WAYMARK_HOST" = "waymark_host" := by cbv
  have henabled : Text.lowercase "waymark_Metrics__Enabled" = "waymark_metrics__enabled" := by cbv
  have hforeign : IsForeign "PATH" := by
    rw [IsForeign, hpath]
    decide
  have hvars : SetsFields vars := by
    constructor
    case known =>
      simp only [vars, List.forall_mem_cons]
      refine ⟨.inl hforeign, .inr ⟨.host, ?_⟩, .inr ⟨.metricsEnabled, ?_⟩,
        List.forall_mem_nil _⟩
      · simp [Field.IsSetBy, hhost, Field.variableNames]
      · simp [Field.IsSetBy, henabled, Field.variableNames]
    case once =>
      simp only [vars, Field.IsSetBy, List.pairwise_cons, List.forall_mem_cons, hpath, hhost,
        henabled]
      refine ⟨⟨?_, ?_, List.forall_mem_nil _⟩, ⟨?_, List.forall_mem_nil _⟩,
        List.forall_mem_nil _, .nil⟩
      all_goals
        intro f
        cases f <;> decide
  have hset : setBy? vars .host = some (valueOfVariable "0.0.0.0") ∧
      setBy? vars .metricsEnabled = some (valueOfVariable "off") ∧
      setBy? vars .port = none ∧ setBy? vars .metricsPort = none := by
    simp [vars, setBy?, Field.IsSetBy, Field.variableNames, hpath, hhost, henabled]
  have hroute : RouteEntry.IsEntry (.obj route) { name := "home", pattern := "/", status := 204 } :=
    .table ⟨⟨_, rfl, rfl⟩, ⟨_, rfl, rfl⟩, .missing, .given (by cbv), .missing⟩
  refine ((ofLayers_fields ?file htable hvars).1 _).2 ?read
  case file => cbv
  case read =>
    obtain ⟨hsetHost, hsetEnabled, hsetPort, hsetMetricsPort⟩ := hset
    constructor
    case host =>
      rw [chosen?, hsetHost]
      exact .given (by cbv)
    case port =>
      have hgiven : given? ["port"] (.obj table) = some (.int 7070) := by cbv
      rw [chosen?, hsetPort, Field.keys, hgiven]
      exact .given rfl
    case enabled =>
      rw [chosen?, hsetEnabled]
      exact .given (by cbv)
    case metricsPort =>
      have hgiven : given? ["metrics", "port"] (.obj table) = none := by cbv
      rw [chosen?, hsetMetricsPort, Field.keys, hgiven]
      exact .missing
    case routes =>
      have hgiven : given? ["routes"] (.obj table) = some (.arr [.obj route]) := by cbv
      rw [hgiven]
      exact .given ⟨_, rfl, .cons hroute .nil⟩

end PathRouter.Settings

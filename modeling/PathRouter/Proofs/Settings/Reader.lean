import PathRouter.Proofs.Settings.Entry
import PathRouter.Proofs.Settings.Layers

/-!
Reading settings field by field. Each field has a value of its own that it is read from, and the
settings are read exactly if each of these values fits its field.
-/

namespace PathRouter.Settings

open Layers Conversion

/-! ### Fields -/

/-- The settings besides the routes. -/
inductive Field where
  | host
  | port
  | metricsEnabled
  | metricsPort
  deriving DecidableEq, Repr

/-- The way to the field. -/
def Field.keys : Field → List String
  | .host => ["host"]
  | .port => ["port"]
  | .metricsEnabled => ["metrics", "enabled"]
  | .metricsPort => ["metrics", "port"]

/-- The value is one for the field: it can be taken for its type and lies in its range. -/
def Field.Fits : Field → Json → Prop
  | .host, v => ∃ text, IsText v text
  | .port, v | .metricsPort, v => ∃ n, lenient.number v = some n ∧ 0 ≤ n ∧ n < 65536
  | .metricsEnabled, v => ∃ b, IsFlag v b

/-- Each field of the settings is what its value stands for, or its default where it has none, and
so are the routes. -/
structure ReadFrom (value? : Field → Option Json) (routes? : Option Json) (s : Settings) :
    Prop where
  host : IsSet IsText "127.0.0.1" (value? .host) s.host
  port : IsSet IsWord 8080 (value? .port) s.port
  enabled : IsSet IsFlag true (value? .metricsEnabled) s.metrics.enabled
  metricsPort : IsSet IsWord 9090 (value? .metricsPort) s.metrics.port
  routes : IsSet (IsListOf RouteEntry.IsEntry) [] routes? s.routes

/-- Some field has a value that does not fit it, or the routes are not a list or hold an entry that
is not a route. -/
def Misfit (value? : Field → Option Json) (routes? : Option Json) : Prop :=
  (∃ f v, value? f = some v ∧ ¬ f.Fits v) ∨
    ∃ v, routes? = some v ∧
      ∀ items, v = .arr items → ∃ item ∈ items, ∀ r, ¬ RouteEntry.IsEntry item r

/-! ### What does not fit -/

theorem not_misfit_iff {value? : Field → Option Json} {routes? : Option Json} :
    ¬ Misfit value? routes? ↔
      (∀ f v, value? f = some v → f.Fits v) ∧
        ∀ v, routes? = some v → ∃ routes, IsListOf RouteEntry.IsEntry v routes := by
  simp only [Misfit, exists_isListOf_iff, not_or, not_exists, not_and, not_forall, not_not,
    exists_prop]

/-- Settings are read exactly if nothing of what they are read from is unfit. -/
theorem exists_readFrom_iff {value? : Field → Option Json} {routes? : Option Json} :
    (∃ s, ReadFrom value? routes? s) ↔ ¬ Misfit value? routes? := by
  rw [not_misfit_iff]
  constructor
  · rintro ⟨s, h⟩
    refine ⟨fun f => ?_, exists_isSet_iff.1 ⟨_, h.routes⟩⟩
    cases f with
    | host => exact exists_isSet_iff.1 ⟨_, h.host⟩
    | port => exact fun v hv => exists_isWord_iff.1 (exists_isSet_iff.1 ⟨_, h.port⟩ v hv)
    | metricsEnabled => exact exists_isSet_iff.1 ⟨_, h.enabled⟩
    | metricsPort =>
        exact fun v hv => exists_isWord_iff.1 (exists_isSet_iff.1 ⟨_, h.metricsPort⟩ v hv)
  · rintro ⟨hfits, hroutes⟩
    obtain ⟨host, hhost⟩ := exists_isSet_iff.2 (hfits .host)
    obtain ⟨port, hport⟩ := exists_isSet_iff.2 fun v hv => exists_isWord_iff.2 (hfits .port v hv)
    obtain ⟨enabled, henabled⟩ := exists_isSet_iff.2 (hfits .metricsEnabled)
    obtain ⟨metricsPort, hmetricsPort⟩ :=
      exists_isSet_iff.2 fun v hv => exists_isWord_iff.2 (hfits .metricsPort v hv)
    obtain ⟨routes, hroutes⟩ := exists_isSet_iff.2 hroutes
    exact ⟨⟨host, port, ⟨enabled, metricsPort⟩, routes⟩,
      ⟨hhost, hport, henabled, hmetricsPort, hroutes⟩⟩

theorem misfit_iff_forall_not_readFrom {value? : Field → Option Json} {routes? : Option Json} :
    Misfit value? routes? ↔ ∀ s, ¬ ReadFrom value? routes? s := by
  rw [← not_exists, exists_readFrom_iff, not_not]

/-! ### Values in a table -/

/-- A table in which the totals, if there are any, are a table too. -/
structure Shaped (v : Json) : Prop where
  table : ∃ entries, v = .obj entries
  metrics : ∀ m, v.field? "metrics" = some m → ∃ entries, m = .obj entries

theorem readMetrics_eq_some_iff {entries : List (String × Json)} {m : MetricsSettings} :
    MetricsSettings.read lenient (.obj entries) = some m ↔
      IsSet IsFlag true ((Json.obj entries).field? "enabled") m.enabled ∧
        IsSet IsWord 9090 ((Json.obj entries).field? "port") m.port := by
  simp only [MetricsSettings.read, fields?, Option.bind_eq_bind, Option.bind_some,
    Option.bind_eq_some_iff, withDefault_flag_eq_some_iff, withDefault_word_eq_some_iff,
    Option.some.injEq]
  constructor
  · rintro ⟨_, henabled, _, hport, rfl⟩
    exact ⟨henabled, hport⟩
  · rintro ⟨henabled, hport⟩
    exact ⟨_, henabled, _, hport, rfl⟩

/-- Totals that are missing have the defaults that they have where their fields are missing. -/
theorem withDefault_readMetrics_eq_some_iff {v : Json} (hshaped : Shaped v)
    {m : MetricsSettings} :
    withDefault {} (MetricsSettings.read lenient) (v.field? "metrics") = some m ↔
      IsSet IsFlag true (follow? ["metrics", "enabled"] v) m.enabled ∧
        IsSet IsWord 9090 (follow? ["metrics", "port"] v) m.port := by
  rw [follow?, follow?]
  cases htotals : v.field? "metrics" with
  | none =>
      constructor
      · intro hm
        obtain rfl := Option.some.inj hm
        exact ⟨.missing, .missing⟩
      · obtain ⟨enabled, port⟩ := m
        rintro ⟨⟨⟩, ⟨⟩⟩
        rfl
  | some totals =>
      obtain ⟨inner, rfl⟩ := hshaped.metrics totals htotals
      simp only [Option.bind_some, follow?_singleton]
      exact readMetrics_eq_some_iff

theorem read_eq_some_iff {v : Json} (hshaped : Shaped v) {s : Settings} :
    Settings.read lenient v = some s ↔
      ReadFrom (fun f => follow? f.keys v) (follow? ["routes"] v) s := by
  have hroutes {v? : Option Json} {routes : List RouteEntry} :
      withDefault [] (listOf (RouteEntry.read lenient)) v? = some routes ↔
        IsSet (IsListOf RouteEntry.IsEntry) [] v? routes :=
    withDefault_listOf_eq_some_iff fun _ _ => RouteEntry.read_eq_some_iff
  have hmetrics {m : MetricsSettings} := withDefault_readMetrics_eq_some_iff (m := m) hshaped
  obtain ⟨entries, rfl⟩ := hshaped.table
  simp only [Settings.read, fields?, Option.bind_eq_bind, Option.bind_some,
    Option.bind_eq_some_iff, withDefault_text_eq_some_iff, withDefault_word_eq_some_iff, hmetrics,
    hroutes, Option.some.injEq]
  constructor
  · rintro ⟨_, hhost, _, hport, _, ⟨henabled, hmetricsPort⟩, _, hroutes, rfl⟩
    constructor <;> simpa [Field.keys]
  · intro h
    refine ⟨s.host, ?_, s.port, ?_, s.metrics, ⟨h.enabled, h.metricsPort⟩, s.routes, ?_, rfl⟩
    · simpa [Field.keys] using h.host
    · simpa [Field.keys] using h.port
    · simpa using h.routes

/-- Laying a value over nothing changes nothing but tables. -/
theorem isSet_map_overlay_iff {α : Type} {Is : Json → α → Prop}
    (hobj : ∀ entries x, ¬ Is (.obj entries) x) {default x : α} {v? : Option Json} :
    IsSet Is default (v?.map (overlay (.obj []))) x ↔ IsSet Is default v? x := by
  cases v? with
  | none => rfl
  | some v =>
      cases v with
      | obj entries =>
          obtain ⟨laid, hlaid⟩ := exists_overlay_eq_obj entries []
          rw [Option.map_some, hlaid]
          constructor
          · rintro (_ | hx)
            exact absurd hx (hobj laid x)
          · rintro (_ | hx)
            exact absurd hx (hobj entries x)
      | _ => rfl

/-- None of the values that settings are read from is a table, so it does not matter what becomes
of tables. -/
theorem readFrom_overlay_iff {value? : Field → Option Json} {routes? : Option Json}
    {s : Settings} :
    ReadFrom (fun f => (value? f).map (overlay (.obj []))) (routes?.map (overlay (.obj []))) s ↔
      ReadFrom value? routes? s := by
  have htext (entries : List (String × Json)) (text : String) : ¬ IsText (.obj entries) text :=
    nofun
  have hflag (entries : List (String × Json)) (b : Bool) : ¬ IsFlag (.obj entries) b := nofun
  have hword (entries : List (String × Json)) (w : UInt16) : ¬ IsWord (.obj entries) w := nofun
  have hlist (entries : List (String × Json)) (routes : List RouteEntry) :
      ¬ IsListOf RouteEntry.IsEntry (.obj entries) routes := nofun
  constructor
  · rintro ⟨hhost, hport, henabled, hmetricsPort, hroutes⟩
    exact ⟨(isSet_map_overlay_iff htext).1 hhost, (isSet_map_overlay_iff hword).1 hport,
      (isSet_map_overlay_iff hflag).1 henabled, (isSet_map_overlay_iff hword).1 hmetricsPort,
      (isSet_map_overlay_iff hlist).1 hroutes⟩
  · rintro ⟨hhost, hport, henabled, hmetricsPort, hroutes⟩
    exact ⟨(isSet_map_overlay_iff htext).2 hhost, (isSet_map_overlay_iff hword).2 hport,
      (isSet_map_overlay_iff hflag).2 henabled, (isSet_map_overlay_iff hword).2 hmetricsPort,
      (isSet_map_overlay_iff hlist).2 hroutes⟩

end PathRouter.Settings

import PathRouter.Proofs.Router.Resolve

/-!
No route is dead. Conflicts are looked for in pairs, so it might be that several more specific
routes share out all paths of a general one between them. They never do: finitely many patterns have
finitely many literals, so a wildcard for one part can take a part that is none of them, and a
wildcard for all that is left can take two empty parts, which nothing else takes.
-/

namespace PathRouter

namespace Key

/-- The literals of a key. -/
def literals : Key → List String
  | .exact | .slash | .rest => []
  | .literal text k => text :: k.literals
  | .single k => k.literals

/-- Parts that the key fits, with the value for each wildcard for one part. -/
def ownParts (value : String) : Key → List String
  | .exact => []
  | .slash => [""]
  | .rest => ["", ""]
  | .literal text k => text :: k.ownParts value
  | .single k => value :: k.ownParts value

theorem fits_ownParts {value : String} (hvalue : value ≠ "") (k : Key) :
    k.Fits (k.ownParts value) := by
  induction k with
  | exact => exact fits_exact.2 rfl
  | slash => exact fits_slash.2 rfl
  | rest => exact fits_rest.2 (List.cons_ne_nil _ _)
  | literal text k ih => exact fits_literal.2 ⟨rfl, ih⟩
  | single k ih => exact fits_single.2 ⟨hvalue, ih⟩

/-- No key that is tried before fits the same parts, unless the value is one of its literals. -/
theorem Before.not_fits_ownParts {k k' : Key} (h : k'.Before k) {value : String}
    (hvalue : value ≠ "") (hfresh : value ∉ k'.literals) (hk : "" ∉ k.literals)
    (hk' : "" ∉ k'.literals) : ¬ k'.Fits (k.ownParts value) := by
  induction h with
  | slashLiteral text k =>
      intro hfits
      obtain ⟨rfl, -⟩ := List.cons.inj (fits_slash.1 hfits)
      exact hk List.mem_cons_self
  | slashSingle k =>
      intro hfits
      exact hvalue (List.cons.inj (fits_slash.1 hfits)).1
  | slashRest =>
      intro hfits
      exact List.cons_ne_nil _ _ (List.cons.inj (fits_slash.1 hfits)).2
  | literalSingle text k' k =>
      intro hfits
      obtain ⟨rfl, -⟩ := fits_literal.1 hfits
      exact hfresh List.mem_cons_self
  | literalRest text k' =>
      intro hfits
      obtain ⟨rfl, -⟩ := fits_literal.1 hfits
      exact hk' List.mem_cons_self
  | singleRest k' =>
      intro hfits
      exact (fits_single.1 hfits).1 rfl
  | literal text _ ih =>
      simp only [literals, List.mem_cons, not_or] at hfresh hk hk'
      intro hfits
      exact ih hfresh.2 hk.2 hk'.2 (fits_literal.1 hfits).2
  | single _ ih =>
      intro hfits
      exact ih hfresh hk hk' (fits_single.1 hfits).2

theorem slash_not_mem_of_mem_ownParts {k : Key} {value part : String} (hvalue : IsPart value)
    (hliterals : ∀ text ∈ k.literals, IsPart text) (h : part ∈ k.ownParts value) :
    '/' ∉ part.toList := by
  induction k with
  | exact => exact absurd h List.not_mem_nil
  | slash | rest => simp_all [ownParts]
  | literal text k ih =>
      rcases List.mem_cons.1 h with rfl | h
      · exact (hliterals _ List.mem_cons_self).2
      · exact ih (fun text htext => hliterals text (List.mem_cons_of_mem _ htext)) h
  | single k ih =>
      rcases List.mem_cons.1 h with rfl | h
      · exact hvalue.2
      · exact ih hliterals h

end Key

theorem Tidy.isPart_of_mem_literals {segments : List Segment} (h : Tidy segments) {text : String}
    (htext : text ∈ (Key.ofSegments segments).literals) : IsPart text := by
  induction h with
  | nil | multi | slash => exact absurd htext List.not_mem_nil
  | literal ht _ ih =>
      rcases List.mem_cons.1 htext with rfl | htext
      · exact ht
      · exact ih htext
  | single _ _ ih => exact ih htext

theorem exists_length_le (texts : List String) : ∃ n, ∀ text ∈ texts, text.length ≤ n := by
  induction texts with
  | nil => exact ⟨0, by simp⟩
  | cons text texts ih =>
      obtain ⟨n, hn⟩ := ih
      refine ⟨max text.length n, List.forall_mem_cons.2 ⟨Nat.le_max_left .., ?_⟩⟩
      exact fun other hother => Nat.le_trans (hn other hother) (Nat.le_max_right ..)

/-- There is a part beside any given ones, since some part is longer than all of them. -/
theorem exists_isPart_not_mem (texts : List String) : ∃ value, IsPart value ∧ value ∉ texts := by
  obtain ⟨n, hn⟩ := exists_length_le texts
  have hlength : (String.ofList (List.replicate (n + 1) 'x')).length = n + 1 := by simp
  refine ⟨String.ofList (List.replicate (n + 1) 'x'), ⟨?_, ?_⟩, ?_⟩
  · intro hempty
    rw [hempty] at hlength
    contradiction
  · simp
  · intro hmem
    have hle := hn _ hmem
    omega

namespace Registry

variable {α : Type u} {reg : Registry α}

theorem Sound.isPart_of_mem_literals (h : reg.Sound) {route : Route α} (hroute : route ∈ reg.routes)
    {text : String} (htext : text ∈ route.pattern.key.literals) : IsPart text :=
  (h.tidy hroute).isPart_of_mem_literals htext

/-- A path leads to a route that fits it if no route that is tried before does. -/
theorem Sound.resolve_of_first (h : reg.Sound) {id : RouteId} {route : Route α} {path : String}
    {parts : List String} (hroute : reg.routes[id]? = some route)
    (hparts : Path.parts? path = some parts) (hfits : route.pattern.key.Fits parts)
    (hfirst : ∀ other ∈ reg.routes, other.pattern.key.Before route.pattern.key →
      ¬ other.pattern.key.Fits parts) :
    ∃ m, reg.router.resolve path = some m ∧ m.route = route := by
  obtain ⟨f, hpick, hf⟩ := Trie.exists_pick (h.placed.look_eq hroute) hfits
  obtain ⟨best, hbest, hkey, -⟩ := h.pick_eq_some hparts hpick
  have hsame : best.pattern.key = route.pattern.key := by
    rw [← hkey] at hf
    refine hf.resolve_right fun hbefore => ?_
    have hbest_fits : best.pattern.key.Fits parts := hkey ▸ ⟨f.values, (Trie.pick_sound hpick).2⟩
    exact hfirst best (Array.mem_of_getElem? hbest) hbefore hbest_fits
  have hid : f.id = id := h.placed.unique hbest hroute hsame
  exact ⟨_, resolve_of_pick hparts hpick (hid ▸ hroute), rfl⟩

/-- Each route of a registry has a path that leads to it. -/
theorem Sound.exists_resolve_eq (h : reg.Sound) {id : RouteId} {route : Route α}
    (hroute : reg.routes[id]? = some route) :
    ∃ path m, reg.router.resolve path = some m ∧ m.route = route := by
  obtain ⟨value, hvalue, hfresh⟩ := exists_isPart_not_mem
    (reg.routes.toList.flatMap fun other => other.pattern.key.literals)
  have hliterals (text : String) (htext : text ∈ route.pattern.key.literals) : IsPart text :=
    h.isPart_of_mem_literals (Array.mem_of_getElem? hroute) htext
  obtain ⟨path, hpath⟩ := Path.exists_parts?_eq fun part hpart =>
    Key.slash_not_mem_of_mem_ownParts hvalue hliterals hpart
  refine ⟨path, h.resolve_of_first hroute hpath (Key.fits_ownParts hvalue.1 _) ?_⟩
  intro other hother hbefore
  refine hbefore.not_fits_ownParts hvalue.1 ?_ ?_ ?_
  · exact fun hmem => hfresh (List.mem_flatMap.2 ⟨other, Array.mem_toList_iff.2 hother, hmem⟩)
  · exact fun hempty => (hliterals "" hempty).1 rfl
  · exact fun hempty => (h.isPart_of_mem_literals hother hempty).1 rfl

end Registry

namespace Router

variable {α : Type u}

/-- However many routes stand beside a route, some path leads to it. -/
theorem exists_resolve_route {entries : List (String × String × α)} {r : Router α}
    (h : ofList entries = .ok r) {id : RouteId} {route : Route α}
    (hroute : r.routes[id]? = some route) : ∃ path m, r.resolve path = some m ∧ m.route = route := by
  obtain ⟨-, reg, hsound, rfl⟩ := exists_sound_of_ofList h
  exact hsound.exists_resolve_eq hroute

/-- Three more specific routes take all paths of the first one whose first part is not empty, and
the one that ends there. -/
theorem exists_resolve_route_surrounded :
    ∃ (r : Router Nat) (route : Route Nat),
      ofList [("rest", "/a/\x7bx...\x7d", 0), ("index", "/a/", 1), ("item", "/a/\x7by\x7d", 2),
        ("below", "/a/\x7by\x7d/\x7bz...\x7d", 3)] = .ok r ∧
      r.routes[0]? = some route ∧ route.name = "rest" ∧
      ∃ path m, r.resolve path = some m ∧ m.route = route := by
  have hrun : (match ofList [("rest", "/a/\x7bx...\x7d", 0), ("index", "/a/", 1),
        ("item", "/a/\x7by\x7d", 2), ("below", "/a/\x7by\x7d/\x7bz...\x7d", 3)] with
      | .ok r => r.routes[0]?.map fun route => route.name
      | .error _ => none) = some "rest" := by cbv
  split at hrun
  · rename_i r hr
    obtain ⟨route, hroute, hname⟩ := Option.map_eq_some_iff.1 hrun
    exact ⟨r, route, hr, hroute, hname, exists_resolve_route hr hroute⟩
  · contradiction

end Router

end PathRouter

import PathRouter.Proofs.Router.Outcome
import PathRouter.Proofs.Router.Resolve
import PathRouter.Proofs.Trie.Places

/-!
The order of registrations. Whether a list makes a router does not depend on its order, and neither
does anything that can be asked of the router but the numbers of its routes. Where a path leads is
decided by which routes there are, and so are the nodes of the trie, although these are made one
after the other and in another order each time.
-/

namespace PathRouter

namespace Registry

variable {α : Type u} {reg reg' : Registry α}

/-! ### Which routes there are -/

theorem perm_of_registers {entries entries' : List (String × String × α)}
    {routes routes' : List (Route α)} (hperm : entries.Perm entries')
    (h : List.Forall₂ Registers entries routes) (h' : List.Forall₂ Registers entries' routes') :
    routes.Perm routes' := by
  obtain ⟨moved, hmoved, hroutes⟩ := List.perm_comp_forall₂ hperm.symm h
  have hunique : Relator.RightUnique (Registers (α := α)) := fun _ _ _ => Registers.unique
  obtain rfl := hunique.forall₂ hmoved h'
  exact hroutes.symm

/-! ### Where paths lead -/

theorem Sound.values_unique (h : reg.Sound) {route : Route α} (hroute : route ∈ reg.routes)
    {path : String} {values values' : List String} (hvalues : route.pattern.MatchesWith values path)
    (hvalues' : route.pattern.MatchesWith values' path) : values = values' := by
  obtain ⟨parts, hparts, hv⟩ := (Pattern.matchesWith_iff (h.tidy hroute)).1 hvalues
  obtain ⟨parts', hparts', hv'⟩ := (Pattern.matchesWith_iff (h.tidy hroute)).1 hvalues'
  obtain rfl := Option.some.inj (hparts.symm.trans hparts')
  exact Option.some.inj (hv.symm.trans hv')

/-- The route matches the path with the values captured, and any other that matches it has more
paths. -/
structure Best (reg : Registry α) (path : String) (m : Match α) : Prop where
  mem : m.route ∈ reg.routes
  captures : ∃ values, m.route.pattern.MatchesWith values path ∧
    m.captures = .pair m.route.pattern.boundNames values
  least : ∀ route ∈ reg.routes, path ∈ route.pattern.paths →
    route = m.route ∨ m.route.pattern.paths ⊂ route.pattern.paths

theorem Best.mem_paths {path : String} {m : Match α} (h : reg.Best path m) :
    path ∈ m.route.pattern.paths := by
  obtain ⟨values, hvalues, -⟩ := h.captures
  exact ⟨values, hvalues⟩

theorem Best.route_unique {path : String} {m m' : Match α} (h : reg.Best path m)
    (h' : reg.Best path m') : m.route = m'.route := by
  rcases h.least m'.route h'.mem h'.mem_paths with heq | hless
  · exact heq.symm
  · rcases h'.least m.route h.mem h.mem_paths with heq | hgreater
    · exact heq
    · exact absurd hgreater.subset hless.not_subset

theorem Sound.best_unique (h : reg.Sound) {path : String} {m m' : Match α} (hm : reg.Best path m)
    (hm' : reg.Best path m') : m = m' := by
  have hroute := hm.route_unique hm'
  obtain ⟨values, hvalues, hcaptures⟩ := hm.captures
  obtain ⟨values', hvalues', hcaptures'⟩ := hm'.captures
  rw [← hroute] at hvalues' hcaptures'
  obtain rfl := h.values_unique hm.mem hvalues hvalues'
  have hcaptures : m.captures = m'.captures := hcaptures.trans hcaptures'.symm
  cases m
  cases m'
  exact (Match.mk.injEq ..).mpr ⟨hroute, hcaptures⟩

theorem Sound.best_of_resolve (h : reg.Sound) {path : String} {m : Match α}
    (hm : reg.router.resolve path = some m) : reg.Best path m := by
  obtain ⟨id, values, hroute, hvalues, hcaptures⟩ := h.resolve_eq_some hm
  refine ⟨Array.mem_of_getElem? hroute, ⟨values, hvalues, hcaptures⟩, fun other hother hpath => ?_⟩
  obtain ⟨j, hj⟩ := Array.getElem?_of_mem hother
  by_cases hid : j = id
  · rw [hid, hroute] at hj
    exact .inl (Option.some.inj hj).symm
  · exact .inr (h.paths_ssubset hm hroute hj hid hpath)

theorem Sound.resolve_eq_some_iff (h : reg.Sound) {path : String} {m : Match α} :
    reg.router.resolve path = some m ↔ reg.Best path m := by
  constructor
  · exact h.best_of_resolve
  · intro hm
    obtain ⟨id, hid⟩ := Array.getElem?_of_mem hm.mem
    obtain ⟨found, -, hfound, -⟩ := h.exists_resolve hid hm.mem_paths
    rw [hfound, h.best_unique hm (h.best_of_resolve hfound)]

/-- Registries with the same routes lead each path to the same route. -/
theorem Sound.resolve_congr (h : reg.Sound) (h' : reg'.Sound)
    (hsame : ∀ route, route ∈ reg.routes ↔ route ∈ reg'.routes) (path : String) :
    reg.router.resolve path = reg'.router.resolve path := by
  ext m
  rw [h.resolve_eq_some_iff, h'.resolve_eq_some_iff]
  constructor
  · rintro ⟨hmem, hcaptures, hleast⟩
    exact ⟨(hsame _).1 hmem, hcaptures, fun route hroute => hleast route ((hsame route).2 hroute)⟩
  · rintro ⟨hmem, hcaptures, hleast⟩
    exact ⟨(hsame _).2 hmem, hcaptures, fun route hroute => hleast route ((hsame route).1 hroute)⟩

/-! ### Which nodes there are -/

/-- The nodes of the trie are those on the ways of the routes. -/
structure Grown (reg : Registry α) : Prop where
  orderly : reg.root.Orderly
  hasNode_iff : ∀ steps, reg.root.HasNode steps ↔
    steps = [] ∨ ∃ route ∈ reg.routes, steps <+: route.pattern.key.steps

theorem grown_empty : (empty : Registry α).Grown where
  orderly := Trie.orderly_empty
  hasNode_iff steps := by simp [empty, Trie.hasNode_empty_iff]

theorem Grown.accept (h : reg.Grown) (route : Route α) : (reg.accept route).Grown where
  orderly := h.orderly.insert _ _
  hasNode_iff steps := by
    rw [Registry.accept, Trie.hasNode_insert_iff, h.hasNode_iff, or_assoc]
    refine or_congr_right ⟨?_, ?_⟩
    · rintro (⟨other, hother, hsteps⟩ | hsteps)
      · exact ⟨other, Array.mem_push.2 (.inl hother), hsteps⟩
      · exact ⟨route, Array.mem_push_self, hsteps⟩
    · rintro ⟨other, hother, hsteps⟩
      rcases Array.mem_push.1 hother with hother | rfl
      · exact .inl ⟨other, hother, hsteps⟩
      · exact .inr hsteps

theorem Sound.grown_addAll (h : reg.Sound) (hgrown : reg.Grown)
    (entries : List (String × String × α)) : (reg.addAll entries).Grown := by
  induction entries generalizing reg with
  | nil => exact hgrown
  | cons entry entries ih =>
      rw [addAll_cons]
      refine ih (h.including entry) ?_
      rcases h.including_cases entry with ⟨route, -, -, heq⟩ | ⟨error, heq⟩
      · exact heq ▸ hgrown.accept route
      · exact heq ▸ ⟨hgrown.orderly, hgrown.hasNode_iff⟩

end Registry

namespace Router

variable {α : Type u}

/-- Registrations in another order make a router exactly if they did before, with the same answers
and of the same dimensions. -/
theorem ofList_perm {entries entries' : List (String × String × α)} (h : entries.Perm entries') :
    ((∃ r, ofList entries = .ok r) ↔ ∃ r, ofList entries' = .ok r) ∧
      ∀ r r', ofList entries = .ok r → ofList entries' = .ok r' →
        (∀ path, r.resolve path = r'.resolve path) ∧ r.dimensions = r'.dimensions := by
  rw [exists_ofList_iff, exists_ofList_iff]
  refine ⟨Registry.acceptable_iff_of_perm h, ?_⟩
  intro r r' hr hr'
  have hroutes := Registry.perm_of_registers h (exists_sound_of_ofList hr).1
    (exists_sound_of_ofList hr').1
  obtain ⟨-, rfl⟩ := Registry.finish_eq_ok_iff.1 hr
  obtain ⟨-, rfl⟩ := Registry.finish_eq_ok_iff.1 hr'
  have hsound := Registry.sound_empty.addAll entries
  have hsound' := Registry.sound_empty.addAll entries'
  have hsame (route : Route α) : route ∈ (Registry.empty.addAll entries).routes ↔
      route ∈ (Registry.empty.addAll entries').routes := by
    rw [← Array.mem_toList_iff, ← Array.mem_toList_iff]
    exact hroutes.mem_iff
  refine ⟨hsound.resolve_congr hsound' hsame, ?_⟩
  have hgrown := Registry.sound_empty.grown_addAll Registry.grown_empty entries
  have hgrown' := Registry.sound_empty.grown_addAll Registry.grown_empty entries'
  obtain ⟨hnodes, hdepth⟩ := hgrown.orderly.measures_eq hgrown'.orderly fun steps => by
    simp only [hgrown.hasNode_iff, hgrown'.hasNode_iff, hsame]
  rw [dimensions, dimensions, Dimensions.mk.injEq]
  exact ⟨hroutes.length_eq, hnodes, hdepth⟩

/-- The most specific route comes last in one list and first in the other. -/
theorem ofList_perm_reversed :
    ∃ r r' : Router Nat,
      ofList [("any", "/\x7brest...\x7d", 0), ("user", "/users/\x7bid\x7d", 1),
        ("self", "/users/me", 2)] = .ok r ∧
      ofList [("self", "/users/me", 2), ("user", "/users/\x7bid\x7d", 1),
        ("any", "/\x7brest...\x7d", 0)] = .ok r' ∧
      r.resolve "/users/me" = r'.resolve "/users/me" ∧ r.dimensions = r'.dimensions ∧
      (r'.resolve "/users/me").map (fun m => m.route.name) = some "self" := by
  have hrun : (match ofList [("self", "/users/me", 2), ("user", "/users/\x7bid\x7d", 1),
        ("any", "/\x7brest...\x7d", 0)] with
      | .ok r' => (r'.resolve "/users/me").map fun m => m.route.name
      | .error _ => none) = some "self" := by cbv
  split at hrun
  · rename_i r' hr'
    have hperm : [("any", "/\x7brest...\x7d", 0), ("user", "/users/\x7bid\x7d", 1),
        ("self", "/users/me", 2)].Perm [("self", "/users/me", 2),
        ("user", "/users/\x7bid\x7d", 1), ("any", "/\x7brest...\x7d", 0)] := by decide
    obtain ⟨hexists, hagree⟩ := ofList_perm hperm
    obtain ⟨r, hr⟩ := hexists.2 ⟨r', hr'⟩
    obtain ⟨hresolve, hdimensions⟩ := hagree r r' hr hr'
    exact ⟨r, r', hr, hr', hresolve "/users/me", hdimensions, hrun⟩
  · contradiction

end Router

end PathRouter

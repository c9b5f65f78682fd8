import PathRouter.Proofs.Router.Registry

/-!
What a path leads to. A path that some route matches leads to a route that matches it, and of all
such routes to the most specific one: the order in which the trie tries keys agrees with the
inclusion of path sets wherever two routes match the same path, since no two of them are equivalent
or overlap.
-/

namespace PathRouter

variable {α : Type u}

/-- What a path leads to comes from the choice that the trie makes. -/
theorem Router.resolve_eq (r : Router α) (path : String) :
    r.resolve path = ((Path.parts? path).bind r.root.pick).bind fun f =>
      r.routes[f.id]?.map fun route => ⟨route, .pair route.pattern.boundNames f.values⟩ := by
  rw [resolve, Trie.finds_find r.root path #[]]
  cases (Path.parts? path).bind r.root.pick with
  | none => rfl
  | some f => simp

namespace Registry

variable {reg : Registry α} {path : String}

/-- What the trie picks is the number of a route, and the values are those with which this route
matches the path. -/
theorem Sound.pick_eq_some (h : reg.Sound) {parts : List String} {f : Trie.Found}
    (hparts : Path.parts? path = some parts) (hpick : reg.root.pick parts = some f) :
    ∃ route, reg.routes[f.id]? = some route ∧ route.pattern.key = f.key ∧
      route.pattern.MatchesWith f.values path := by
  obtain ⟨hid, hvalues⟩ := Trie.pick_sound hpick
  obtain ⟨route, hroute, hkey⟩ := h.exists_route hid
  have htidy := h.tidy (Array.mem_of_getElem? hroute)
  rw [← hkey] at hvalues
  exact ⟨route, hroute, hkey, (Pattern.matchesWith_iff htidy).2 ⟨parts, hparts, hvalues⟩⟩

/-- A path leads to a route that matches it with the captured values. -/
theorem Sound.resolve_eq_some (h : reg.Sound) {m : Match α}
    (hm : reg.router.resolve path = some m) :
    ∃ (id : RouteId) (values : List String), reg.routes[id]? = some m.route ∧
      m.route.pattern.MatchesWith values path ∧
      m.captures = .pair m.route.pattern.boundNames values := by
  rw [Router.resolve_eq] at hm
  obtain ⟨f, hf, hm⟩ := Option.bind_eq_some_iff.1 hm
  obtain ⟨parts, hparts, hpick⟩ := Option.bind_eq_some_iff.1 hf
  obtain ⟨route, hroute, rfl⟩ := Option.map_eq_some_iff.1 hm
  obtain ⟨held, hheld, -, hvalues⟩ := h.pick_eq_some hparts hpick
  obtain rfl : held = route := Option.some.inj (hheld.symm.trans hroute)
  exact ⟨f.id, f.values, hroute, hvalues, rfl⟩

/-- A path leads to the route whose number the trie picks. -/
theorem resolve_of_pick {parts : List String} {f : Trie.Found} {route : Route α}
    (hparts : Path.parts? path = some parts) (hpick : reg.root.pick parts = some f)
    (hroute : reg.routes[f.id]? = some route) :
    reg.router.resolve path = some ⟨route, .pair route.pattern.boundNames f.values⟩ := by
  rw [Router.resolve_eq, hparts, Option.bind_some, router, hpick, Option.bind_some, hroute,
    Option.map_some]

/-- A path that a route matches leads to that route or to a more specific one. -/
theorem Sound.exists_resolve (h : reg.Sound) {id : RouteId} {route : Route α}
    (hroute : reg.routes[id]? = some route) (hpath : route.pattern.Matches path) :
    ∃ m best, reg.router.resolve path = some m ∧ reg.routes[best]? = some m.route ∧
      (best = id ∨ m.route.pattern.paths ⊂ route.pattern.paths) := by
  have htidy := h.tidy (Array.mem_of_getElem? hroute)
  obtain ⟨parts, hparts, hfits⟩ := (Pattern.matches_iff htidy).1 hpath
  obtain ⟨f, hpick, hfirst⟩ := Trie.exists_pick (h.placed.look_eq hroute) hfits
  obtain ⟨best, hbest, hkey, hvalues⟩ := h.pick_eq_some hparts hpick
  refine ⟨_, f.id, resolve_of_pick hparts hpick hbest, hbest, ?_⟩
  rw [← hkey] at hfirst
  rcases hfirst with heq | hbefore
  · exact .inl (h.placed.unique hbest hroute heq)
  · -- Another key was tried before that of the route, so another route is found.
    have hne : f.id ≠ id := by
      intro hid
      rw [hid, hroute] at hbest
      obtain rfl := Option.some.inj hbest
      exact hbefore.ne rfl
    have hclear := h.apart f.id id best route hne hbest hroute
    have hbest_tidy := h.tidy (Array.mem_of_getElem? hbest)
    exact .inr (Pattern.paths_ssubset_of_before hbest_tidy htidy hclear hbefore
      ⟨f.values, hvalues⟩ hpath)

theorem Sound.resolve_eq_none_iff (h : reg.Sound) :
    reg.router.resolve path = none ↔ ∀ route ∈ reg.routes, path ∉ route.pattern.paths := by
  constructor
  · intro hnone route hroute hpath
    obtain ⟨id, hid⟩ := Array.getElem?_of_mem hroute
    obtain ⟨m, -, hm, -⟩ := h.exists_resolve hid hpath
    rw [hnone] at hm
    contradiction
  · intro hnone
    rw [Option.eq_none_iff_forall_ne_some]
    intro m hm
    obtain ⟨id, values, hroute, hvalues, -⟩ := h.resolve_eq_some hm
    exact hnone m.route (Array.mem_of_getElem? hroute) ⟨values, hvalues⟩

/-- Any other route that matches the path has more paths. -/
theorem Sound.paths_ssubset (h : reg.Sound) {m : Match α} (hm : reg.router.resolve path = some m)
    {id other : RouteId} {route : Route α} (hid : reg.routes[id]? = some m.route)
    (hother : reg.routes[other]? = some route) (hne : other ≠ id)
    (hpath : path ∈ route.pattern.paths) : m.route.pattern.paths ⊂ route.pattern.paths := by
  obtain ⟨m', best, hm', hbest, hspecific⟩ := h.exists_resolve hother hpath
  obtain rfl : m' = m := Option.some.inj (hm'.symm.trans hm)
  have hsame : best = id := h.placed.unique hbest hid rfl
  apply hspecific.resolve_left
  rw [hsame]
  exact hne.symm

end Registry

namespace Router

/-- Whatever routes make a router and in whatever order, a path leads nowhere exactly if no route
matches it, and otherwise to a route that matches it and has fewer paths than any other that
does. -/
theorem resolve_mostSpecific {entries : List (String × String × α)} {r : Router α}
    (h : ofList entries = .ok r) (path : String) :
    List.Forall₂ Registry.Registers entries r.routes.toList ∧
      (r.resolve path = none ↔ ∀ route ∈ r.routes, path ∉ route.pattern.paths) ∧
      ∀ m, r.resolve path = some m →
        ∃ id : RouteId, r.routes[id]? = some m.route ∧ path ∈ m.route.pattern.paths ∧
          ∀ (other : RouteId) (route : Route α), other ≠ id → r.routes[other]? = some route →
            path ∈ route.pattern.paths → m.route.pattern.paths ⊂ route.pattern.paths := by
  obtain ⟨hroutes, reg, hsound, rfl⟩ := exists_sound_of_ofList h
  refine ⟨hroutes, hsound.resolve_eq_none_iff, ?_⟩
  intro m hm
  obtain ⟨id, values, hroute, hvalues, -⟩ := hsound.resolve_eq_some hm
  refine ⟨id, hroute, ⟨values, hvalues⟩, ?_⟩
  intro other route hne hother hpath
  exact hsound.paths_ssubset hm hroute hother hne hpath

/-- The search enters the literals of the first pattern before it backs out to the second. -/
theorem resolve_mostSpecific_backing_out :
    ∃ (r : Router Nat) (m : Match Nat),
      ofList [("leaf", "/a/b/c", 0), ("under", "/a/\x7brest...\x7d", 1),
        ("any", "/\x7brest...\x7d", 2)] = .ok r ∧
      r.resolve "/a/b/d" = some m ∧ m.route.name = "under" ∧
      ∀ route ∈ r.routes, route.name = "any" → "/a/b/d" ∈ route.pattern.paths →
        m.route.pattern.paths ⊂ route.pattern.paths := by
  have hrun : (match ofList [("leaf", "/a/b/c", 0), ("under", "/a/\x7brest...\x7d", 1),
        ("any", "/\x7brest...\x7d", 2)] with
      | .ok r => (r.resolve "/a/b/d").map fun m => m.route.name
      | .error _ => none) = some "under" := by cbv
  split at hrun
  · rename_i r hr
    obtain ⟨m, hm, hname⟩ := Option.map_eq_some_iff.1 hrun
    refine ⟨r, m, hr, hm, hname, fun route hroute hany hpath => ?_⟩
    obtain ⟨-, -, hbest⟩ := resolve_mostSpecific hr "/a/b/d"
    obtain ⟨id, hid, -, hspecific⟩ := hbest m hm
    obtain ⟨other, hother⟩ := Array.getElem?_of_mem hroute
    refine hspecific other route ?_ hother hpath
    rintro rfl
    obtain rfl := Option.some.inj (hid.symm.trans hother)
    exact absurd (hname.symm.trans hany) (by decide)
  · contradiction

end Router

end PathRouter

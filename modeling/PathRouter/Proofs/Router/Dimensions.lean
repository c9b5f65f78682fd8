import PathRouter.Proofs.Router.Order
import PathRouter.Proofs.Trie.Entries

/-!
What the trie of a router holds, and how large it is. The numbers that are stored in it are those of
the table of routes, each in one slot of one node. No node stands there for nothing: each was made
for a route, and the route is still found below it. So the nodes are counted by the ways in which
the routes start, and the longest of the routes tells how far down they go.
-/

namespace PathRouter

/-! ### The numbers in a trie -/

namespace Trie

/-- The routes that are stored at a node or below it, slot by slot. -/
def ids (t : Trie) : List RouteId :=
  t.here ++ t.subtries.attach.flatMap fun ⟨child, _⟩ => child.ids
termination_by t
decreasing_by exact sizeOf_lt_of_mem_subtries ‹_›

theorem ids_eq (t : Trie) : t.ids = t.here ++ t.subtries.flatMap ids := by
  rw [ids, List.flatMap_subtype fun _ _ => rfl, List.unattach_attach]

/-- The slots are those that the keys lead to. -/
theorem ids_eq_map_entries (t : Trie) : t.ids = t.entries.map (·.2) := by
  induction t using branches_induction with
  | step t ih =>
      rw [ids_eq, entries_eq, List.map_append, map_snd_entriesHere, ← map_snd_branches,
        List.flatMap_map, List.map_flatMap]
      congr 1
      refine List.flatMap_congr fun branch hbranch => ?_
      rw [ih branch hbranch, List.map_map]
      rfl

theorem length_ids (t : Trie) : t.ids.length = t.size := by
  rw [ids_eq_map_entries, List.length_map, size_eq_length_entries]

theorem isEmpty_eq_false_of_route? {t : Trie} (h : t.Orderly) {k : Key} {id : RouteId}
    (hid : t.route? k = some id) : t.isEmpty = false := by
  have hne : t.entries ≠ [] := List.ne_nil_of_mem (h.mem_entries_iff.2 hid)
  rw [isEmpty, size_eq_length_entries]
  simpa using hne

/-! ### The nodes below a node -/

/-- The node is below the other one, however far down. -/
def IsBelow : Trie → Trie → Prop := Relation.TransGen fun child t => child ∈ t.subtries

theorem Orderly.exists_below?_of_mem_subtries {t child : Trie} (h : t.Orderly)
    (hchild : child ∈ t.subtries) : ∃ s, t.below? s = some child := by
  rw [← map_snd_branches] at hchild
  obtain ⟨branch, hbranch, rfl⟩ := List.mem_map.1 hchild
  exact ⟨branch.1, h.mem_branches_iff.1 hbranch⟩

/-- The node that the steps lead to. -/
def at? : Trie → List Step → Option Trie
  | t, [] => some t
  | t, s :: later => (t.below? s).bind fun child => child.at? later

theorem at?_cons_eq_some_iff {t node : Trie} {s : Step} {later : List Step} :
    t.at? (s :: later) = some node ↔
      ∃ child, t.below? s = some child ∧ child.at? later = some node :=
  Option.bind_eq_some_iff

theorem hasNode_of_at? {t node : Trie} {steps : List Step} (h : t.at? steps = some node) :
    t.HasNode steps := by
  induction steps generalizing t with
  | nil => trivial
  | cons s later ih =>
      obtain ⟨child, hchild, hlater⟩ := at?_cons_eq_some_iff.1 h
      exact ⟨child, hchild, ih hlater⟩

/-- What has a route at the node has that route from above as well. -/
theorem route?_of_at? {t node : Trie} {steps : List Step} (h : t.at? steps = some node) (k : Key) :
    t.route? (steps.foldr Step.under k) = node.route? k := by
  induction steps generalizing t with
  | nil =>
      obtain rfl := Option.some.inj h
      rfl
  | cons s later ih =>
      obtain ⟨child, hchild, hlater⟩ := at?_cons_eq_some_iff.1 h
      rw [List.foldr_cons, route?_under, hchild, Option.bind_some, ih hlater]

theorem Orderly.of_at? {t node : Trie} {steps : List Step} (h : t.Orderly)
    (hnode : t.at? steps = some node) : node.Orderly := by
  induction steps generalizing t with
  | nil =>
      obtain rfl := Option.some.inj hnode
      exact h
  | cons s later ih =>
      obtain ⟨child, hchild, hlater⟩ := at?_cons_eq_some_iff.1 hnode
      obtain ⟨-, hall⟩ := h
      exact ih (hall s child hchild) hlater

/-- To each node below there is a way down. -/
theorem Orderly.exists_at?_of_isBelow {t node : Trie} (h : t.Orderly) (hnode : node.IsBelow t) :
    ∃ steps ≠ [], t.at? steps = some node := by
  induction hnode with
  | single hchild =>
      obtain ⟨s, hs⟩ := h.exists_below?_of_mem_subtries hchild
      exact ⟨[s], List.cons_ne_nil _ _, at?_cons_eq_some_iff.2 ⟨node, hs, rfl⟩⟩
  | @tail child t _ hchild ih =>
      obtain ⟨s, hs⟩ := h.exists_below?_of_mem_subtries hchild
      obtain ⟨-, hall⟩ := h
      obtain ⟨steps, -, hsteps⟩ := ih (hall s child hs)
      exact ⟨s :: steps, List.cons_ne_nil _ _, at?_cons_eq_some_iff.2 ⟨child, hs, hsteps⟩⟩

end Trie

/-- A key that starts with the steps is seen from them as a key. -/
theorem Key.exists_of_prefix_steps {k : Key} {steps : List Step} (h : steps <+: k.steps) :
    ∃ below : Key, k = steps.foldr Step.under below := by
  induction steps generalizing k with
  | nil => exact ⟨k, rfl⟩
  | cons s later ih =>
      cases k with
      | exact | slash | rest => exact absurd (List.prefix_nil.1 h) (List.cons_ne_nil _ _)
      | literal text k =>
          obtain ⟨rfl, hlater⟩ := List.cons_prefix_cons.1 h
          obtain ⟨below, rfl⟩ := ih hlater
          exact ⟨below, rfl⟩
      | single k =>
          obtain ⟨rfl, hlater⟩ := List.cons_prefix_cons.1 h
          obtain ⟨below, rfl⟩ := ih hlater
          exact ⟨below, rfl⟩

/-! ### The steps of a pattern -/

/-- The steps of all segments that take one part. A name is none of them. -/
def Pattern.steps (p : Pattern) : List Step := p.segments.filterMap Segment.step?

/-- In a list that was read nothing stands behind an end, so every step is on the way of the key. -/
theorem Tidy.filterMap_step? {segments : List Segment} (h : Tidy segments) :
    segments.filterMap Segment.step? = (Key.ofSegments segments).steps := by
  induction h with
  | nil | multi | slash => rfl
  | @literal text _ _ _ ih => exact congrArg (Step.literal text :: ·) ih
  | single _ _ ih => exact congrArg (Step.wild :: ·) ih

/-- The different ways in which the steps of the routes start, with at least one step. -/
def Router.starts {α : Type u} (r : Router α) : Finset (List Step) :=
  (r.routes.toList.flatMap fun route => route.pattern.steps.inits).toFinset.erase []

theorem Router.mem_starts_iff {α : Type u} {r : Router α} {steps : List Step} :
    steps ∈ r.starts ↔ steps ≠ [] ∧ ∃ route ∈ r.routes, steps <+: route.pattern.steps := by
  simp [starts]

/-! ### The trie of a registry -/

namespace Registry

variable {α : Type u} {reg : Registry α}

theorem Sound.steps_eq (h : reg.Sound) {route : Route α} (hroute : route ∈ reg.routes) :
    route.pattern.steps = route.pattern.key.steps :=
  (h.tidy hroute).filterMap_step?

theorem Sound.lt_size_of_route? (h : reg.Sound) {k : Key} {id : RouteId}
    (hid : reg.root.route? k = some id) : id < reg.routes.size := by
  obtain ⟨route, hroute, -⟩ := h.exists_route hid
  obtain ⟨hlt, -⟩ := Array.getElem?_eq_some_iff.1 hroute
  exact hlt

/-- Whatever is found has its route in the table. -/
theorem Sound.lt_size_of_find (h : reg.Sound) {path : String} {captures : Array String}
    {id : RouteId} (hid : (reg.root.find path captures).1 = some id) : id < reg.routes.size := by
  rw [Trie.finds_find reg.root path captures] at hid
  cases hpick : (Path.parts? path).bind reg.root.pick with
  | none =>
      rw [hpick] at hid
      contradiction
  | some f =>
      rw [hpick] at hid
      obtain rfl := Option.some.inj hid
      obtain ⟨parts, -, hpick⟩ := Option.bind_eq_some_iff.1 hpick
      exact h.lt_size_of_route? (Trie.pick_sound hpick).1

/-- The numbers in the trie are those of the table, and none is stored twice. -/
theorem Sound.ids_perm (h : reg.Sound) (hgrown : reg.Grown) :
    reg.root.ids.Perm (List.range reg.routes.size) := by
  have hentry (k : Key) (id : RouteId) : (k, id) ∈ reg.root.entries ↔
      ∃ route, reg.routes[id]? = some route ∧ route.pattern.key = k :=
    hgrown.orderly.mem_entries_iff.trans (h.placed k id)
  have hnodup : reg.root.ids.Nodup := by
    rw [Trie.ids_eq_map_entries]
    refine List.Nodup.map_on ?_ hgrown.orderly.nodup_entries
    rintro ⟨k, id⟩ hk ⟨k', id'⟩ hk' heq
    -- The number is that of one route, and a route has one key.
    obtain rfl : id = id' := heq
    obtain ⟨route, hroute, rfl⟩ := (hentry k id).1 hk
    obtain ⟨other, hother, rfl⟩ := (hentry k' id).1 hk'
    obtain rfl := Option.some.inj (hroute.symm.trans hother)
    rfl
  rw [List.perm_ext_iff_of_nodup hnodup List.nodup_range]
  intro id
  rw [Trie.ids_eq_map_entries, List.mem_map, List.mem_range]
  constructor
  · rintro ⟨⟨k, id⟩, hk, rfl⟩
    exact h.lt_size_of_route? (hgrown.orderly.mem_entries_iff.1 hk)
  · intro hlt
    have hroute := Array.getElem?_eq_getElem hlt
    exact ⟨(_, id), (hentry _ id).2 ⟨_, hroute, rfl⟩, rfl⟩

/-- Each node but the root was made for a route, which is still found from it. -/
theorem Sound.isEmpty_eq_false (h : reg.Sound) (hgrown : reg.Grown) {node : Trie}
    (hnode : node.IsBelow reg.root) : node.isEmpty = false := by
  obtain ⟨steps, hne, hat⟩ := hgrown.orderly.exists_at?_of_isBelow hnode
  rcases (hgrown.hasNode_iff steps).1 (Trie.hasNode_of_at? hat) with hnil | ⟨route, hmem, hsteps⟩
  · exact absurd hnil hne
  · obtain ⟨id, hid⟩ := Array.getElem?_of_mem hmem
    obtain ⟨below, hbelow⟩ := Key.exists_of_prefix_steps hsteps
    have hkey := h.placed.look_eq hid
    rw [hbelow, Trie.route?_of_at? hat] at hkey
    exact Trie.isEmpty_eq_false_of_route? (hgrown.orderly.of_at? hat) hkey

/-- The places of the nodes are the root and the starts of the routes. -/
theorem Sound.toFinset_places (h : reg.Sound) (hgrown : reg.Grown) :
    reg.root.places.toFinset = insert [] reg.router.starts := by
  ext steps
  rw [List.mem_toFinset, hgrown.orderly.mem_places_iff, hgrown.hasNode_iff, Finset.mem_insert,
    Router.mem_starts_iff]
  refine or_congr_right' fun hne => ?_
  rw [and_iff_right hne]
  refine exists_congr fun route => and_congr_right fun hroute => ?_
  rw [h.steps_eq hroute]

theorem Sound.nodeCount_eq (h : reg.Sound) (hgrown : reg.Grown) :
    reg.root.nodeCount = 1 + reg.router.starts.card := by
  have hnil : [] ∉ reg.router.starts := fun hmem => (Router.mem_starts_iff.1 hmem).1 rfl
  calc reg.root.nodeCount
      = reg.root.places.length := Trie.nodeCount_eq_length_places _
    _ = reg.root.places.toFinset.card :=
        (List.toFinset_card_of_nodup hgrown.orderly.nodup_places).symm
    _ = reg.router.starts.card + 1 := by
        rw [h.toFinset_places hgrown, Finset.card_insert_of_notMem hnil]
    _ = 1 + reg.router.starts.card := Nat.add_comm _ _

theorem Sound.depth_eq (h : reg.Sound) (hgrown : reg.Grown) :
    reg.root.depth =
      (reg.routes.toList.map fun route => route.pattern.steps.length).foldr max 0 := by
  refine eq_of_forall_ge_iff fun n => ?_
  rw [Trie.depth_le_iff, Trie.foldr_max_le_iff, List.forall_mem_map]
  constructor
  · intro hplaces route hroute
    have hroute := Array.mem_toList_iff.1 hroute
    have hplace : route.pattern.key.steps ∈ reg.root.places := by
      rw [hgrown.orderly.mem_places_iff, hgrown.hasNode_iff]
      exact .inr ⟨route, hroute, List.prefix_rfl⟩
    rw [h.steps_eq hroute]
    exact hplaces _ hplace
  · intro hroutes steps hsteps
    rw [hgrown.orderly.mem_places_iff, hgrown.hasNode_iff] at hsteps
    rcases hsteps with rfl | ⟨route, hroute, hsteps⟩
    · exact Nat.zero_le n
    · have hlength := hroutes route (Array.mem_toList_iff.2 hroute)
      rw [h.steps_eq hroute] at hlength
      exact hsteps.length_le.trans hlength

end Registry

namespace Router

variable {α : Type u}

/-- The trie of a router stores each number of the table in one slot and no other numbers, so no
search leads out of the table; no node but the root is without a route; there are as many nodes
below the root as there are starts of routes, and the deepest is as far down as the longest route
has steps. -/
theorem ofList_dimensions {entries : List (String × String × α)} {r : Router α}
    (h : ofList entries = .ok r) :
    r.dimensions.routes = entries.length ∧
      r.root.ids.Perm (List.range r.dimensions.routes) ∧
      r.root.size = r.dimensions.routes ∧
      (∀ path captures id, (r.root.find path captures).1 = some id → id < r.routes.size) ∧
      (∀ node : Trie, node.IsBelow r.root → node.isEmpty = false) ∧
      r.dimensions.nodes = 1 + r.starts.card ∧
      r.dimensions.depth =
        (r.routes.toList.map fun route => route.pattern.steps.length).foldr max 0 := by
  have hregisters := (exists_sound_of_ofList h).1
  obtain ⟨-, rfl⟩ := Registry.finish_eq_ok_iff.1 h
  have hsound := Registry.sound_empty.addAll entries
  have hgrown := Registry.sound_empty.grown_addAll Registry.grown_empty entries
  have hids := hsound.ids_perm hgrown
  have hsize := hids.length_eq
  rw [Trie.length_ids, List.length_range] at hsize
  exact ⟨hregisters.length_eq.symm, hids, hsize, fun _ _ _ => hsound.lt_size_of_find,
    fun _ => hsound.isEmpty_eq_false hgrown, hsound.nodeCount_eq hgrown,
    hsound.depth_eq hgrown⟩

/-- Wildcards for one part share a node whatever their names, and the end of a path has none. -/
theorem ofList_dimensions_shared :
    ∃ r : Router Nat,
      ofList [("deep", "/a/b/c", 0), ("one", "/a/\x7bx\x7d", 1), ("marked", "/a/\x7by\x7d/", 2),
        ("end", "/a/", 3)] = .ok r ∧
      r.root.ids.Perm [0, 1, 2, 3] ∧ r.root.size = 4 ∧ r.starts.card = 4 ∧
      r.dimensions = ⟨4, 5, 3⟩ := by
  have hrun : (match ofList [("deep", "/a/b/c", 0), ("one", "/a/\x7bx\x7d", 1),
        ("marked", "/a/\x7by\x7d/", 2), ("end", "/a/", 3)] with
      | .ok r => some r.dimensions
      | .error _ => none) = some ⟨4, 5, 3⟩ := by cbv
  split at hrun
  · rename_i r hr
    obtain ⟨-, hids, hsize, -, -, hnodes, -⟩ := ofList_dimensions hr
    rw [Option.some.inj hrun] at hids hsize hnodes
    exact ⟨r, hr, hids, hsize, (Nat.add_left_cancel hnodes).symm, Option.some.inj hrun⟩
  · contradiction

end Router

end PathRouter

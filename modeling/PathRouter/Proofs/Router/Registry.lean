import PathRouter.Proofs.Relation
import PathRouter.Proofs.Trie
import PathRouter.Router.Registry

/-!
What a registry holds at any time. Its trie and its index agree with its table of routes, and no two
of its routes are equivalent or overlap. An attempt to add a route either leaves all of this as it
was or accepts the route; the trie never has the place of a new key taken, since equal keys would
have shown as a conflict.
-/

namespace PathRouter

namespace Registry

variable {α : Type u}

/-- The route that a registration asks for. -/
def Registers (entry : String × String × α) (route : Route α) : Prop :=
  ∃ p, Pattern.parse entry.2.1 = .ok p ∧ route = ⟨entry.1, p.withName entry.1, entry.2.2⟩

/-- The router that the routes so far would make. -/
def router (reg : Registry α) : Router α := ⟨reg.root, reg.routes, reg.index⟩

/-! ### Looking up numbers -/

/-- Looking up a key gives the number of the route that has the key. -/
def Numbers {κ : Type v} (routes : Array (Route α)) (key : Route α → κ)
    (look : κ → Option RouteId) : Prop :=
  ∀ k id, look k = some id ↔ ∃ route, routes[id]? = some route ∧ key route = k

section Numbers

variable {κ : Type v} {routes : Array (Route α)} {key : Route α → κ}
  {look look' : κ → Option RouteId}

theorem Numbers.look_eq (h : Numbers routes key look) {id : RouteId} {route : Route α}
    (hroute : routes[id]? = some route) : look (key route) = some id :=
  (h _ _).2 ⟨route, hroute, rfl⟩

/-- A key has one number at most. -/
theorem Numbers.unique (h : Numbers routes key look) {i j : RouteId} {route other : Route α}
    (hroute : routes[i]? = some route) (hother : routes[j]? = some other)
    (hkey : key route = key other) : i = j := by
  have hi := h.look_eq hroute
  have hj := h.look_eq hother
  rw [hkey, hj] at hi
  exact (Option.some.inj hi).symm

theorem Numbers.eq_none (h : Numbers routes key look) {k : κ}
    (hnew : ∀ route ∈ routes, key route ≠ k) : look k = none := by
  rw [Option.eq_none_iff_forall_ne_some]
  intro id hid
  obtain ⟨route, hroute, hk⟩ := (h k id).1 hid
  exact hnew route (Array.mem_of_getElem? hroute) hk

/-- A table that grows at its end keeps its numbers. -/
theorem Numbers.push [DecidableEq κ] (h : Numbers routes key look) {route : Route α}
    (hnew : look (key route) = none)
    (hlook : ∀ k, look' k = if k = key route then some routes.size else look k) :
    Numbers (routes.push route) key look' := by
  intro k id
  rw [hlook]
  by_cases hk : k = key route
  · subst hk
    rw [if_pos rfl]
    constructor
    · intro hid
      obtain rfl := Option.some.inj hid
      exact ⟨route, Array.getElem?_push_size, rfl⟩
    · rintro ⟨other, hother, hkey⟩
      rw [Array.getElem?_push] at hother
      split at hother
      · rename_i hid
        rw [hid]
      · -- An older route with the key would have been found.
        rw [← hkey, h.look_eq hother] at hnew
        contradiction
  · rw [if_neg hk, h k id]
    constructor
    · rintro ⟨other, hother, hkey⟩
      refine ⟨other, ?_, hkey⟩
      obtain ⟨hlt, -⟩ := Array.getElem?_eq_some_iff.1 hother
      rw [Array.getElem?_push, if_neg (by omega), hother]
    · rintro ⟨other, hother, hkey⟩
      rw [Array.getElem?_push] at hother
      split at hother
      · obtain rfl := Option.some.inj hother
        exact absurd hkey.symm hk
      · exact ⟨other, hother, hkey⟩

end Numbers

/-! ### The invariant -/

/-- What is true of every registry that comes from the empty one. -/
structure Sound (reg : Registry α) : Prop where
  /-- Each pattern was read from a text and bears the name of its route. -/
  parsed : ∀ route ∈ reg.routes, ∃ text p,
    Pattern.parse text = .ok p ∧ route.pattern = p.withName route.name
  /-- On no path are two routes equally good. -/
  apart : ∀ (i j : RouteId) (route other : Route α), i ≠ j → reg.routes[i]? = some route →
    reg.routes[j]? = some other → (route.pattern.relation other.pattern).isAmbiguous = false
  placed : Numbers reg.routes (fun route => route.pattern.key) reg.root.route?
  indexed : Numbers reg.routes Route.name fun name => reg.index[name]?

theorem sound_empty : (empty : Registry α).Sound where
  parsed := by simp [empty]
  apart := by simp [empty]
  placed := by simp [Numbers, empty]
  indexed := by simp [Numbers, empty]

theorem Sound.wellFormed {reg : Registry α} (h : reg.Sound) {route : Route α}
    (hroute : route ∈ reg.routes) : Pattern.WellFormed route.pattern.segments := by
  obtain ⟨text, p, hparse, hp⟩ := h.parsed route hroute
  have hwell := Pattern.wellFormed_of_parse hparse
  rw [hp]
  exact hwell

theorem Sound.tidy {reg : Registry α} (h : reg.Sound) {route : Route α}
    (hroute : route ∈ reg.routes) : Tidy route.pattern.segments :=
  (h.wellFormed hroute).tidy

theorem Sound.exists_route {reg : Registry α} (h : reg.Sound) {k : Key} {id : RouteId}
    (hid : reg.root.route? k = some id) :
    ∃ route, reg.routes[id]? = some route ∧ route.pattern.key = k :=
  (h.placed k id).1 hid

/-- The key of a pattern that can be told from all others has no route yet. -/
theorem Sound.route?_key {reg : Registry α} (h : reg.Sound) {p : Pattern} (hp : Tidy p.segments)
    (hclear : ∀ other ∈ reg.routes, (p.relation other.pattern).isAmbiguous = false) :
    reg.root.route? p.key = none := by
  apply h.placed.eq_none
  intro other hother hkey
  have hclear := hclear other hother
  rw [Pattern.relation_eq_equivalent hp (h.tidy hother) hkey.symm] at hclear
  contradiction

/-! ### One step -/

/-- The registry after a route has got the next number. -/
def accept (reg : Registry α) (route : Route α) : Registry α :=
  { reg with
    root := (reg.root.insert reg.routes.size route.pattern.segments).2
    routes := reg.routes.push route
    index := reg.index.insert route.name reg.routes.size }

/-- The registry after a route was refused. -/
def refuse (reg : Registry α) (error : RouteError) : Registry α :=
  { reg with refusals := reg.refusals.push error }

theorem Sound.accept {reg : Registry α} (h : reg.Sound) {route : Route α}
    (hparsed : ∃ text p, Pattern.parse text = .ok p ∧ route.pattern = p.withName route.name)
    (hname : reg.index.contains route.name = false)
    (hclear : ∀ other ∈ reg.routes, (route.pattern.relation other.pattern).isAmbiguous = false) :
    (reg.accept route).Sound where
  parsed := by
    intro other hother
    rcases Array.mem_push.1 hother with hother | rfl
    · exact h.parsed other hother
    · exact hparsed
  apart := by
    intro i j first second hij hfirst hsecond
    simp only [Registry.accept, Array.getElem?_push] at hfirst hsecond
    -- At most one of the two numbers is the new one.
    split at hfirst <;> split at hsecond
    · rename_i hi hj
      exact absurd (hi.trans hj.symm) hij
    · obtain rfl := Option.some.inj hfirst
      exact hclear second (Array.mem_of_getElem? hsecond)
    · obtain rfl := Option.some.inj hsecond
      rw [Pattern.relation_swap, Relation.isAmbiguous_swap]
      exact hclear first (Array.mem_of_getElem? hfirst)
    · exact h.apart i j first second hij hfirst hsecond
  placed := by
    have hp : Tidy route.pattern.segments := by
      obtain ⟨text, p, hparse, hp⟩ := hparsed
      exact hp ▸ (Pattern.wellFormed_of_parse hparse).tidy
    have hnew := h.route?_key hp hclear
    apply h.placed.push hnew
    intro k
    exact Trie.route?_insert_of_free ((Trie.insert_fst ..).trans hnew) k
  indexed := by
    apply h.indexed.push (by simpa using hname)
    intro name
    simp only [Registry.accept, Std.HashMap.getElem?_insert, beq_iff_eq, @eq_comm _ name]

theorem Sound.refuse {reg : Registry α} (h : reg.Sound) (error : RouteError) :
    (reg.refuse error).Sound :=
  ⟨h.parsed, h.apart, h.placed, h.indexed⟩

/-- Everything that an attempt to add a route can come to, with the reason. -/
inductive Judged (reg : Registry α) (name text : String) (action : α) :
    Except RouteError RouteId × Registry α → Prop where
  | taken (hname : reg.index.contains name = true) :
      Judged reg name text action (.error (.duplicateName name), reg)
  | unreadable (hname : reg.index.contains name = false) {source : Pattern.ParseError}
      (hparse : Pattern.parse text = .error source) :
      Judged reg name text action (.error (.parse name source), reg)
  | conflicting (hname : reg.index.contains name = false) {p : Pattern}
      (hparse : Pattern.parse text = .ok p) {error : RouteError}
      (hconflict : reg.routes.findSome? (conflict? name (p.withName name)) = some error) :
      Judged reg name text action (.error error, reg)
  | accepted (hname : reg.index.contains name = false) {p : Pattern}
      (hparse : Pattern.parse text = .ok p)
      (hclear : ∀ other ∈ reg.routes, (p.relation other.pattern).isAmbiguous = false) :
      Judged reg name text action
        (.ok reg.routes.size, reg.accept ⟨name, p.withName name, action⟩)

theorem conflict?_eq_none_iff {name : String} {p : Pattern} {other : Route α} :
    conflict? name p other = none ↔ (p.relation other.pattern).isAmbiguous = false := by
  rw [conflict?]
  cases p.relation other.pattern <;> simp [Relation.isAmbiguous]

/-- A pattern that conflicts with no other gets its place in the trie. -/
theorem Sound.place_eq {reg : Registry α} (h : reg.Sound) {name : String} {p : Pattern} {action : α}
    (hp : Tidy p.segments)
    (hclear : ∀ other ∈ reg.routes, (p.relation other.pattern).isAmbiguous = false) :
    reg.place name p action = (.ok reg.routes.size, reg.accept ⟨name, p, action⟩) := by
  have hfree : (reg.root.insert reg.routes.size p.segments).1 = none := by
    rw [Trie.insert_fst]
    exact h.route?_key hp hclear
  rw [place, Registry.accept]
  generalize reg.root.insert reg.routes.size p.segments = placed at hfree ⊢
  obtain ⟨holder, root⟩ := placed
  subst hfree
  rfl

theorem Sound.judged_tryAdd {reg : Registry α} (h : reg.Sound) (name text : String) (action : α) :
    Judged reg name text action (reg.tryAdd name text action) := by
  rw [tryAdd]
  split
  · exact .taken ‹_›
  · rename_i hname
    rw [Bool.not_eq_true] at hname
    split
    · exact .unreadable hname ‹_›
    · rename_i p hparse
      split
      · exact .conflicting hname hparse ‹_›
      · rename_i hnone
        have hclear : ∀ other ∈ reg.routes, (p.relation other.pattern).isAmbiguous = false := by
          intro other hother
          have hconflict := Array.findSome?_eq_none_iff.1 hnone other hother
          exact conflict?_eq_none_iff.1 hconflict
        have htidy := (Pattern.wellFormed_of_parse hparse).tidy
        rw [h.place_eq (p := p.withName name) htidy hclear]
        exact .accepted hname hparse hclear

/-! ### All steps -/

/-- A registration is carried out as it was asked for, or its refusal is remembered. -/
theorem Sound.including_cases {reg : Registry α} (h : reg.Sound) (entry : String × String × α) :
    (∃ route, Registers entry route ∧ (reg.accept route).Sound ∧
      reg.including entry.1 entry.2.1 entry.2.2 = reg.accept route) ∨
    ∃ error, reg.including entry.1 entry.2.1 entry.2.2 = reg.refuse error := by
  have hjudged := h.judged_tryAdd entry.1 entry.2.1 entry.2.2
  rw [including, add]
  generalize reg.tryAdd entry.1 entry.2.1 entry.2.2 = outcome at hjudged ⊢
  cases hjudged with
  | taken => exact .inr ⟨_, rfl⟩
  | unreadable => exact .inr ⟨_, rfl⟩
  | conflicting => exact .inr ⟨_, rfl⟩
  | @accepted hname p hparse hclear =>
      refine .inl ⟨_, ⟨p, hparse, rfl⟩, ?_, rfl⟩
      exact h.accept ⟨_, p, hparse, rfl⟩ hname hclear

theorem Sound.including {reg : Registry α} (h : reg.Sound) (entry : String × String × α) :
    (reg.including entry.1 entry.2.1 entry.2.2).Sound := by
  rcases h.including_cases entry with ⟨route, -, hsound, heq⟩ | ⟨error, heq⟩
  · rw [heq]
    exact hsound
  · rw [heq]
    exact h.refuse error

theorem addAll_cons (reg : Registry α) (entry : String × String × α)
    (entries : List (String × String × α)) :
    reg.addAll (entry :: entries) =
      (reg.including entry.1 entry.2.1 entry.2.2).addAll entries := rfl

theorem Sound.addAll {reg : Registry α} (h : reg.Sound) (entries : List (String × String × α)) :
    (reg.addAll entries).Sound := by
  induction entries generalizing reg with
  | nil => exact h
  | cons entry entries ih =>
      rw [addAll_cons]
      exact ih (h.including entry)

/-- Where no refusal is remembered in the end there was none before, and each registration has its
route, in the order in which they came. -/
theorem Sound.routes_addAll {reg : Registry α} (h : reg.Sound)
    {entries : List (String × String × α)}
    (hnone : (reg.addAll entries).refusals = #[]) :
    reg.refusals = #[] ∧ ∃ added, (reg.addAll entries).routes.toList = reg.routes.toList ++ added ∧
      List.Forall₂ Registers entries added := by
  induction entries generalizing reg with
  | nil => exact ⟨hnone, [], (List.append_nil _).symm, .nil⟩
  | cons entry entries ih =>
      -- Refusals are never forgotten, so this registration was carried out as well.
      rw [addAll_cons] at hnone ⊢
      obtain ⟨hnone, added, hroutes, hadded⟩ := ih (h.including entry) hnone
      rcases h.including_cases entry with ⟨route, hroute, -, heq⟩ | ⟨error, heq⟩
      · rw [heq] at hnone hroutes
        refine ⟨hnone, route :: added, ?_, .cons hroute hadded⟩
        rw [heq, hroutes, Registry.accept, Array.toList_push, List.append_assoc,
          List.singleton_append]
      · rw [heq] at hnone
        exact absurd hnone Array.push_ne_empty

theorem finish_eq_ok_iff {reg : Registry α} {r : Router α} :
    reg.finish = .ok r ↔ reg.refusals = #[] ∧ reg.router = r := by
  rw [finish]
  split <;> simp_all [router, ← Array.toList_eq_nil_iff]

end Registry

namespace Router

variable {α : Type u}

/-- A router holds the routes that were registered, in their order, and comes from a sound
registry. -/
theorem exists_sound_of_ofList {entries : List (String × String × α)} {r : Router α}
    (h : ofList entries = .ok r) :
    List.Forall₂ Registry.Registers entries r.routes.toList ∧
      ∃ reg : Registry α, reg.Sound ∧ reg.router = r := by
  obtain ⟨hnone, rfl⟩ := Registry.finish_eq_ok_iff.1 h
  have hsound := Registry.sound_empty.addAll entries
  obtain ⟨-, added, hroutes, hadded⟩ := Registry.sound_empty.routes_addAll hnone
  refine ⟨?_, _, hsound, rfl⟩
  rw [Registry.router, hroutes]
  exact hadded

end Router

end PathRouter

import PathRouter.Proofs.Router.Registry

/-!
How a registration is judged. Whether there is room for a new route is said in terms of path sets
alone, and so is which of the existing routes stands in the way of one that is refused. A refusal
changes nothing but the list of refusals: the trie is touched only after all comparisons, and by
then the place of the new route is known to be free.
-/

namespace PathRouter

/-- On no path are both sets equally good: no path is in both, or one of the sets is larger. -/
def Compatible (first second : Set String) : Prop :=
  Disjoint first second ∨ first ⊂ second ∨ second ⊂ first

theorem Compatible.symm {first second : Set String} (h : Compatible first second) :
    Compatible second first := by
  rcases h with hdisjoint | hless | hgreater
  · exact .inl hdisjoint.symm
  · exact .inr (.inr hless)
  · exact .inr (.inl hgreater)

/-- Sets that have members are compatible exactly in the relations that are not ambiguous. -/
theorem Relation.Holds.isAmbiguous_eq_false_iff {r : Relation} {first second : Set String}
    (hfirst : first.Nonempty) (h : r.Holds first second) :
    r.isAmbiguous = false ↔ Compatible first second := by
  cases r with
  | equivalent =>
      obtain rfl : first = second := h
      simp [Relation.isAmbiguous, Compatible, hfirst.ne_empty]
  | moreGeneral => exact iff_of_true rfl (.inr (.inr h))
  | moreSpecific => exact iff_of_true rfl (.inr (.inl h))
  | overlapping =>
      obtain ⟨⟨path, hpath, hpath'⟩, hsub, hsub'⟩ := h
      refine iff_of_false (by decide) ?_
      rintro (hdisjoint | hless | hgreater)
      · exact Set.disjoint_left.1 hdisjoint hpath hpath'
      · exact hsub hless.subset
      · exact hsub' hgreater.subset
  | disjoint =>
      have hapart : Disjoint first second :=
        Set.disjoint_left.2 fun path hpath hpath' => h path ⟨hpath, hpath'⟩
      exact iff_of_true rfl (.inl hapart)

theorem Pattern.isAmbiguous_eq_false_iff {p q : Pattern} (hp : Tidy p.segments)
    (hq : Tidy q.segments) : (p.relation q).isAmbiguous = false ↔ Compatible p.paths q.paths :=
  (relation_holds hp hq).isAmbiguous_eq_false_iff (paths_nonempty hp)

namespace Registry

variable {α : Type u}

/-- The names of two patterns in conflict. -/
def conflictPair (name : String) (p : Pattern) (other : Route α) : RoutePair :=
  ⟨name, p.render, other.name, other.pattern.render⟩

/-- Why a pattern cannot stand beside an existing route. -/
inductive Clash (name : String) (p : Pattern) (other : Route α) : RouteError → Prop where
  | equivalent (h : p.paths = other.pattern.paths) :
      Clash name p other (.equivalent (conflictPair name p other) (p.sharedPath other.pattern))
  | overlapping (hshared : ∃ path, path ∈ p.paths ∧ path ∈ other.pattern.paths)
      (hnew : ¬ p.paths ⊆ other.pattern.paths) (hexisting : ¬ other.pattern.paths ⊆ p.paths) :
      Clash name p other (.overlapping (conflictPair name p other) (p.sharedPath other.pattern)
        (p.ownPath other.pattern) (other.pattern.ownPath p))

/-- There is room for a route beside the accepted ones. -/
structure Admitted (accepted : List (Route α)) (name text : String) (p : Pattern) : Prop where
  free : name ∉ accepted.map Route.name
  parsed : Pattern.parse text = .ok p
  apart : ∀ other ∈ accepted, Compatible p.paths other.pattern.paths

/-- Why there is no room for a route beside the accepted ones. A taken name is told first, then a
pattern that does not parse, then the earliest of the routes that it is in conflict with. -/
inductive Refused (accepted : List (Route α)) (name text : String) : RouteError → Prop where
  | taken (hname : name ∈ accepted.map Route.name) :
      Refused accepted name text (.duplicateName name)
  | unreadable (hname : name ∉ accepted.map Route.name) {source : Pattern.ParseError}
      (hparse : Pattern.parse text = .error source) :
      Refused accepted name text (.parse name source)
  | conflicting (hname : name ∉ accepted.map Route.name) {p : Pattern}
      (hparse : Pattern.parse text = .ok p) {i : RouteId} {other : Route α}
      (hother : accepted[i]? = some other)
      (hearlier : ∀ (j : RouteId) (route : Route α), j < i → accepted[j]? = some route →
        Compatible p.paths route.pattern.paths)
      {error : RouteError} (hclash : Clash name p other error) : Refused accepted name text error

theorem Clash.not_compatible {name : String} {p : Pattern} {other : Route α} {error : RouteError}
    (h : Clash name p other error) (hp : Tidy p.segments) :
    ¬ Compatible p.paths other.pattern.paths := by
  have hnonempty := Pattern.paths_nonempty hp
  cases h with
  | equivalent h =>
      have hholds : Relation.equivalent.Holds p.paths other.pattern.paths := h
      rw [← hholds.isAmbiguous_eq_false_iff hnonempty]
      decide
  | overlapping hshared hnew hexisting =>
      have hholds : Relation.overlapping.Holds p.paths other.pattern.paths :=
        ⟨hshared, hnew, hexisting⟩
      rw [← hholds.isAmbiguous_eq_false_iff hnonempty]
      decide

theorem clash_of_conflict? {name : String} {p : Pattern} {other : Route α} {error : RouteError}
    (hp : Tidy p.segments) (hother : Tidy other.pattern.segments)
    (h : conflict? name p other = some error) : Clash name p other error := by
  have hholds := Pattern.relation_holds hp hother
  rw [conflict?] at h
  cases hrelation : p.relation other.pattern <;> rw [hrelation] at h hholds
  case equivalent =>
    obtain rfl := Option.some.inj h
    exact .equivalent hholds
  case overlapping =>
    obtain rfl := Option.some.inj h
    obtain ⟨hshared, hnew, hexisting⟩ := hholds
    exact .overlapping hshared hnew hexisting
  all_goals contradiction

/-- A clash is told in one way only. -/
theorem Clash.unique {name : String} {p : Pattern} {other : Route α} {error error' : RouteError}
    (h : Clash name p other error) (h' : Clash name p other error') : error = error' := by
  cases h with
  | equivalent h => cases h' with
    | equivalent => rfl
    | overlapping _ hnew _ => exact absurd h.subset hnew
  | overlapping _ hnew _ => cases h' with
    | equivalent h => exact absurd h.subset hnew
    | overlapping => rfl

theorem Admitted.not_refused {accepted : List (Route α)} {name text : String} {p : Pattern}
    (h : Admitted accepted name text p) {error : RouteError} :
    ¬ Refused accepted name text error := by
  intro hrefused
  obtain ⟨hfree, hparsed, hapart⟩ := h
  cases hrefused with
  | taken hname => exact hfree hname
  | unreadable _ hparse =>
      rw [hparsed] at hparse
      contradiction
  | conflicting _ hparse hother _ hclash =>
      obtain rfl := Except.ok.inj (hparsed.symm.trans hparse)
      exact hclash.not_compatible (Pattern.wellFormed_of_parse hparse).tidy
        (hapart _ (List.mem_of_getElem? hother))

/-- A registration is refused for one reason only. -/
theorem Refused.unique {accepted : List (Route α)} {name text : String} {error error' : RouteError}
    (h : Refused accepted name text error) (h' : Refused accepted name text error') :
    error = error' := by
  cases h with
  | taken hname => cases h' with
    | taken => rfl
    | unreadable hfree | conflicting hfree => exact absurd hname hfree
  | unreadable hfree hparse => cases h' with
    | taken hname => exact absurd hname hfree
    | unreadable _ hparse' => rw [Except.error.inj (hparse.symm.trans hparse')]
    | conflicting _ hparse' =>
        rw [hparse] at hparse'
        contradiction
  | @conflicting hfree p hparse i other hother hearlier _ hclash => cases h' with
    | taken hname => exact absurd hname hfree
    | unreadable _ hparse' =>
        rw [hparse] at hparse'
        contradiction
    | @conflicting _ _ hparse' j other' hother' hearlier' _ hclash' =>
        obtain rfl := Except.ok.inj (hparse.symm.trans hparse')
        have hp := (Pattern.wellFormed_of_parse hparse).tidy
        -- Each of the two routes is the earliest one in conflict.
        rcases Nat.lt_trichotomy i j with hlt | rfl | hlt
        · exact absurd (hearlier' i other hlt hother) (hclash.not_compatible hp)
        · obtain rfl := Option.some.inj (hother.symm.trans hother')
          exact hclash.unique hclash'
        · exact absurd (hearlier j other' hlt hother') (hclash'.not_compatible hp)

/-! ### The verdict of a registry -/

theorem Sound.contains_iff {reg : Registry α} (h : reg.Sound) {name : String} :
    reg.index.contains name = true ↔ name ∈ reg.routes.toList.map Route.name := by
  rw [Std.HashMap.contains_eq_isSome_getElem?, Option.isSome_iff_exists, List.mem_map]
  constructor
  · rintro ⟨id, hid⟩
    obtain ⟨route, hroute, hname⟩ := (h.indexed name id).1 hid
    exact ⟨route, Array.mem_toList_iff.2 (Array.mem_of_getElem? hroute), hname⟩
  · rintro ⟨route, hroute, rfl⟩
    obtain ⟨id, hid⟩ := Array.getElem?_of_mem (Array.mem_toList_iff.1 hroute)
    exact ⟨id, h.indexed.look_eq hid⟩

/-- The conflict that is reported is that with the earliest route in the way. -/
theorem Sound.exists_first_clash {reg : Registry α} (h : reg.Sound) {name : String} {p : Pattern}
    (hp : Tidy p.segments) {error : RouteError}
    (hconflict : reg.routes.findSome? (conflict? name p) = some error) :
    ∃ (i : RouteId) (other : Route α), reg.routes.toList[i]? = some other ∧
      (∀ (j : RouteId) (route : Route α), j < i → reg.routes.toList[j]? = some route →
        Compatible p.paths route.pattern.paths) ∧ Clash name p other error := by
  rw [← Array.findSome?_toList, List.findSome?_eq_some_iff] at hconflict
  obtain ⟨earlier, other, later, hroutes, hother, hearlier⟩ := hconflict
  have htidy (route : Route α) (hroute : route ∈ earlier ++ other :: later) :
      Tidy route.pattern.segments :=
    h.tidy (Array.mem_toList_iff.1 (hroutes ▸ hroute))
  refine ⟨earlier.length, other, ?_, fun j route hj hroute => ?_,
    clash_of_conflict? hp (htidy other List.mem_append_cons_self) hother⟩
  · rw [hroutes, List.getElem?_append_right (Nat.le_refl _), Nat.sub_self]
    rfl
  · rw [hroutes, List.getElem?_append_left hj] at hroute
    have hroute := List.mem_of_getElem? hroute
    have hclear := conflict?_eq_none_iff.1 (hearlier route hroute)
    exact (Pattern.isAmbiguous_eq_false_iff hp (htidy route (List.mem_append_left _ hroute))).1
      hclear

/-- A registration is carried out exactly as it was asked for, or nothing changes but the list of
refusals. -/
theorem Sound.add_cases {reg : Registry α} (h : reg.Sound) (name text : String) (action : α) :
    (∃ p, Admitted reg.routes.toList name text p ∧
      reg.add name text action =
        (.ok reg.routes.size, reg.accept ⟨name, p.withName name, action⟩)) ∨
    ∃ error, Refused reg.routes.toList name text error ∧
      reg.add name text action = (.error error, reg.refuse error) := by
  have hjudged := h.judged_tryAdd name text action
  rw [add]
  generalize reg.tryAdd name text action = outcome at hjudged ⊢
  cases hjudged with
  | taken hname => exact .inr ⟨_, .taken (h.contains_iff.1 hname), rfl⟩
  | unreadable hname hparse =>
      rw [← Bool.not_eq_true, h.contains_iff] at hname
      exact .inr ⟨_, .unreadable hname hparse, rfl⟩
  | @conflicting hname p hparse error hconflict =>
      rw [← Bool.not_eq_true, h.contains_iff] at hname
      have hp := (Pattern.wellFormed_of_parse hparse).tidy
      -- What a pattern is called plays no part in its conflicts.
      have hconflict : reg.routes.findSome? (conflict? name p) = some error := hconflict
      obtain ⟨i, other, hother, hearlier, hclash⟩ := h.exists_first_clash hp hconflict
      exact .inr ⟨error, .conflicting hname hparse hother hearlier hclash, rfl⟩
  | @accepted hname p hparse hclear =>
      rw [← Bool.not_eq_true, h.contains_iff] at hname
      have hp := (Pattern.wellFormed_of_parse hparse).tidy
      refine .inl ⟨p, ⟨hname, hparse, fun other hother => ?_⟩, rfl⟩
      have hother := Array.mem_toList_iff.1 hother
      exact (Pattern.isAmbiguous_eq_false_iff hp (h.tidy hother)).1 (hclear other hother)

/-! ### Refusals leave no trace -/

/-- Which routes a registry has after a registration does not depend on the refusals so far. -/
theorem router_including {reg reg' : Registry α} (h : reg.router = reg'.router)
    (entry : String × String × α) :
    (reg.including entry.1 entry.2.1 entry.2.2).router =
      (reg'.including entry.1 entry.2.1 entry.2.2).router := by
  obtain ⟨root, routes, index, refusals⟩ := reg
  obtain ⟨root', routes', index', refusals'⟩ := reg'
  obtain ⟨rfl, rfl, rfl⟩ := Router.mk.inj h
  simp only [including, add, tryAdd, place]
  by_cases hname : index.contains entry.1 = true
  · simp only [hname]
    rfl
  · simp only [hname]
    cases Pattern.parse entry.2.1 with
    | error source => rfl
    | ok p =>
        dsimp only
        cases routes.findSome? (conflict? entry.1 (p.withName entry.1)) with
        | some error => rfl
        | none =>
            dsimp only
            obtain ⟨holder, root⟩ := root.insert routes.size (p.withName entry.1).segments
            cases holder <;> rfl

theorem router_addAll {reg reg' : Registry α} (h : reg.router = reg'.router)
    (entries : List (String × String × α)) :
    (reg.addAll entries).router = (reg'.addAll entries).router := by
  induction entries generalizing reg reg' with
  | nil => exact h
  | cons entry entries ih =>
      rw [addAll_cons, addAll_cons]
      exact ih (router_including h entry)

/-- A registration that comes to the trie finds its place free. -/
theorem Sound.insert_fst_eq_none {reg : Registry α} (h : reg.Sound) {name text : String}
    {p : Pattern} (hparse : Pattern.parse text = .ok p)
    (hclear : reg.routes.findSome? (conflict? name (p.withName name)) = none) :
    (reg.root.insert reg.routes.size p.segments).1 = none := by
  rw [Trie.insert_fst]
  refine h.route?_key (Pattern.wellFormed_of_parse hparse).tidy fun other hother => ?_
  exact conflict?_eq_none_iff.1 (Array.findSome?_eq_none_iff.1 hclear other hother)

/-- Where there is room for a route it gets the next number. -/
theorem Sound.add_of_admitted {reg : Registry α} (h : reg.Sound) {name text : String} {p : Pattern}
    (hadmitted : Admitted reg.routes.toList name text p) (action : α) :
    reg.add name text action =
      (.ok reg.routes.size, reg.accept ⟨name, p.withName name, action⟩) := by
  rcases h.add_cases name text action with ⟨q, hq, hadd⟩ | ⟨error, hrefused, -⟩
  · obtain rfl := Except.ok.inj (hadmitted.parsed.symm.trans hq.parsed)
    exact hadd
  · exact absurd hrefused hadmitted.not_refused

/-- Whatever was registered before, no registration finds its place in the trie taken, and one that
is refused leaves the trie, the table and the index as they were: the refusal is remembered, what is
registered afterwards fares as if there had been none, and the name can be used again. -/
theorem add_refused {earlier : List (String × String × α)} {reg : Registry α}
    (hreg : empty.addAll earlier = reg) (name text : String) (action : α) :
    (∀ p, reg.index.contains name = false → Pattern.parse text = .ok p →
      reg.routes.findSome? (conflict? name (p.withName name)) = none →
      (reg.root.insert reg.routes.size p.segments).1 = none) ∧
    ∀ error reg', reg.add name text action = (.error error, reg') →
      reg' = { reg with refusals := reg.refusals.push error } ∧
      (∀ first second, error ≠ .sameNode first second) ∧
      (∀ later : List (String × String × α),
        (reg'.addAll later).router = (reg.addAll later).router) ∧
      (error = .duplicateName name ∨ reg'.index.contains name = false) ∧
      ∀ text' p action', Admitted reg.routes.toList name text' p →
        (reg'.add name text' action').1 = .ok reg.routes.size := by
  have hsound : reg.Sound := hreg ▸ sound_empty.addAll earlier
  refine ⟨fun p _ hparse hclear => hsound.insert_fst_eq_none hparse hclear, ?_⟩
  intro error reg' hadd
  rcases hsound.add_cases name text action with ⟨p, -, hok⟩ | ⟨error', hrefused, herror⟩
  · rw [hok] at hadd
    cases hadd
  · rw [herror] at hadd
    obtain ⟨⟨⟩, rfl⟩ := Prod.mk.inj hadd
    refine ⟨rfl, ?_, router_addAll rfl, ?_, fun text' p action' hadmitted => ?_⟩
    · rintro first second rfl
      cases hrefused with
      | conflicting _ _ _ _ hclash => cases hclash
    · cases hrefused with
      | taken => exact .inl rfl
      | unreadable hfree | conflicting hfree =>
          exact .inr (Bool.eq_false_iff.2 fun hname => hfree (hsound.contains_iff.1 hname))
    · rw [(hsound.refuse error).add_of_admitted hadmitted]
      rfl

/-- The pattern that is refused has a literal where the trie has only a wildcard so far. -/
theorem add_refused_beside_wildcard :
    ∃ (reg reg' : Registry Nat) (error : RouteError),
      empty.addAll [("raw", "/\x7bowner\x7d/raw", 0)] = reg ∧
      reg.add "file" "/ada/\x7bfile\x7d" 1 = (.error error, reg') ∧
      reg' = { reg with refusals := reg.refusals.push error } ∧
      (reg'.add "file" "/ada/readme" 2).1 = .ok reg.routes.size := by
  obtain ⟨hroutes, hrun⟩ :
      (empty.addAll [("raw", "/\x7bowner\x7d/raw", 0)]).routes.toList =
        [⟨"raw", ⟨[.single "owner", .literal "raw"], some "raw"⟩, 0⟩] ∧
      ((empty.addAll [("raw", "/\x7bowner\x7d/raw", 0)]).add "file" "/ada/\x7bfile\x7d" 1).1 =
        .error (.overlapping ⟨"file", "/ada/\x7bfile\x7d", "raw", "/\x7bowner\x7d/raw"⟩
          "/ada/raw" "/ada/file" "/owner/raw") := by
    constructor <;> cbv
  obtain ⟨-, hrefused⟩ := @add_refused Nat [("raw", "/\x7bowner\x7d/raw", 0)] _ rfl
    "file" "/ada/\x7bfile\x7d" 1
  obtain ⟨hsame, -, -, -, hreuse⟩ := hrefused _ _ (Prod.ext hrun rfl)
  have hp : Pattern.parse "/ada/readme" = .ok ⟨[.literal "ada", .literal "readme"], none⟩ := rfl
  have hq : Pattern.parse "/\x7bowner\x7d/raw" =
      .ok ⟨[.single "owner", .literal "raw"], none⟩ := rfl
  refine ⟨_, _, _, rfl, Prod.ext hrun rfl, hsame, hreuse _ _ 2 ⟨?_, hp, ?_⟩⟩
  · rw [hroutes]
    decide
  · rw [hroutes, List.forall_mem_singleton]
    exact (Pattern.isAmbiguous_eq_false_iff (Pattern.wellFormed_of_parse hp).tidy
      (Pattern.wellFormed_of_parse hq).tidy).1 rfl

end Registry

end PathRouter

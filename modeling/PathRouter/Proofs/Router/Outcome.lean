import PathRouter.Proofs.Router.Verdict

/-!
What comes of a list of registrations. They make a router exactly if no two of them stand in each
other's way, and this is a property of the list that does not speak of the order in which the
registrations are judged. Where they make none, the order matters, since a route that was refused
stands in nobody's way: each registration is judged beside the routes that were accepted before it.
-/

namespace PathRouter

namespace Registry

variable {α : Type u}

/-! ### One registration after the other -/

/-- Registrations are judged one after the other beside the routes accepted so far; what has been
accepted in the end is given, and the refusals in their order. -/
inductive Course : List (Route α) → List (String × String × α) → List (Route α) →
    List RouteError → Prop where
  | done (accepted : List (Route α)) : Course accepted [] accepted []
  | accept {accepted routes : List (Route α)} {name text : String} {action : α}
      {later : List (String × String × α)} {errors : List RouteError} {p : Pattern}
      (h : Admitted accepted name text p)
      (hlater : Course (accepted ++ [⟨name, p.withName name, action⟩]) later routes errors) :
      Course accepted ((name, text, action) :: later) routes errors
  | refuse {accepted routes : List (Route α)} {name text : String} {action : α}
      {later : List (String × String × α)} {errors : List RouteError} {error : RouteError}
      (h : Refused accepted name text error) (hlater : Course accepted later routes errors) :
      Course accepted ((name, text, action) :: later) routes (error :: errors)

theorem Course.unique {accepted routes routes' : List (Route α)}
    {entries : List (String × String × α)} {errors errors' : List RouteError}
    (h : Course accepted entries routes errors) (h' : Course accepted entries routes' errors') :
    routes = routes' ∧ errors = errors' := by
  induction h generalizing routes' errors' with
  | done =>
      cases h'
      exact ⟨rfl, rfl⟩
  | accept hadmitted _ ih => cases h' with
    | accept hadmitted' hlater' =>
        obtain rfl := Except.ok.inj (hadmitted.parsed.symm.trans hadmitted'.parsed)
        exact ih hlater'
    | refuse hrefused => exact absurd hrefused hadmitted.not_refused
  | refuse hrefused _ ih => cases h' with
    | accept hadmitted => exact absurd hrefused hadmitted.not_refused
    | refuse hrefused' hlater' =>
        obtain ⟨rfl, rfl⟩ := ih hlater'
        obtain rfl := hrefused.unique hrefused'
        exact ⟨rfl, rfl⟩

theorem including_of_add {reg reg' : Registry α} {name text : String} {action : α}
    {answer : Except RouteError RouteId} (h : reg.add name text action = (answer, reg')) :
    reg.including name text action = reg' := by
  rw [including, h]

/-- A registry takes registrations as the course says, and remembers the refusals. -/
theorem Sound.exists_course {reg : Registry α} (h : reg.Sound)
    (entries : List (String × String × α)) :
    ∃ errors, Course reg.routes.toList entries (reg.addAll entries).routes.toList errors ∧
      (reg.addAll entries).refusals.toList = reg.refusals.toList ++ errors := by
  induction entries generalizing reg with
  | nil => exact ⟨[], .done _, (List.append_nil _).symm⟩
  | cons entry entries ih =>
      obtain ⟨name, text, action⟩ := entry
      obtain ⟨errors, hcourse, hrefusals⟩ := ih (h.including (name, text, action))
      rw [addAll_cons]
      rcases h.add_cases name text action with ⟨p, hadmitted, hadd⟩ | ⟨error, hrefused, hadd⟩
      · rw [including_of_add hadd] at hcourse hrefusals ⊢
        refine ⟨errors, .accept hadmitted ?_, hrefusals⟩
        rw [← Array.toList_push]
        exact hcourse
      · rw [including_of_add hadd] at hcourse hrefusals ⊢
        refine ⟨error :: errors, .refuse hrefused hcourse, ?_⟩
        rw [hrefusals, Registry.refuse, Array.toList_push, List.append_assoc, List.singleton_append]

/-! ### Lists without a refusal -/

/-- No two registrations stand in each other's way, and all patterns parse. -/
structure Acceptable (entries : List (String × String × α)) : Prop where
  names : (entries.map (·.1)).Nodup
  parses : ∀ entry ∈ entries, ∃ p, Pattern.parse entry.2.1 = .ok p
  apart : entries.Pairwise fun first second => ∀ p q, Pattern.parse first.2.1 = .ok p →
    Pattern.parse second.2.1 = .ok q → Compatible p.paths q.paths

theorem acceptable_nil : Acceptable ([] : List (String × String × α)) :=
  ⟨List.nodup_nil, by simp, .nil⟩

theorem Acceptable.sublist {entries entries' : List (String × String × α)}
    (h : Acceptable entries) (hsub : entries'.Sublist entries) : Acceptable entries' where
  names := h.names.sublist (hsub.map _)
  parses entry hentry := h.parses entry (hsub.subset hentry)
  apart := h.apart.sublist hsub

theorem Acceptable.perm {entries entries' : List (String × String × α)} (h : Acceptable entries)
    (hperm : entries.Perm entries') : Acceptable entries' where
  names := (hperm.map _).nodup_iff.1 h.names
  parses entry hentry := h.parses entry (hperm.symm.subset hentry)
  apart := by
    refine (hperm.pairwise_iff ?_).1 h.apart
    intro first second hpair p q hp hq
    exact (hpair q p hq hp).symm

theorem acceptable_iff_of_perm {entries entries' : List (String × String × α)}
    (h : entries.Perm entries') : Acceptable entries ↔ Acceptable entries' :=
  ⟨fun hentries => hentries.perm h, fun hentries => hentries.perm h.symm⟩

/-- One more registration is judged beside the patterns of the others. -/
theorem acceptable_cons_iff {entry : String × String × α} {entries : List (String × String × α)} :
    Acceptable (entry :: entries) ↔ entry.1 ∉ entries.map (·.1) ∧
      (∃ p, Pattern.parse entry.2.1 = .ok p) ∧
      (∀ other ∈ entries, ∀ p q, Pattern.parse entry.2.1 = .ok p →
        Pattern.parse other.2.1 = .ok q → Compatible p.paths q.paths) ∧ Acceptable entries := by
  constructor
  · rintro ⟨hnames, hparses, hapart⟩
    obtain ⟨hname, hnames⟩ := List.nodup_cons.1 hnames
    obtain ⟨hparse, hparses⟩ := List.forall_mem_cons.1 hparses
    obtain ⟨hbeside, hapart⟩ := List.pairwise_cons.1 hapart
    exact ⟨hname, hparse, hbeside, hnames, hparses, hapart⟩
  · rintro ⟨hname, hparse, hbeside, hnames, hparses, hapart⟩
    exact ⟨List.nodup_cons.2 ⟨hname, hnames⟩, List.forall_mem_cons.2 ⟨hparse, hparses⟩,
      List.pairwise_cons.2 ⟨hbeside, hapart⟩⟩

/-- A registration asks for one route at most. -/
theorem Registers.unique {entry : String × String × α} {route route' : Route α}
    (h : Registers entry route) (h' : Registers entry route') : route = route' := by
  obtain ⟨p, hp, rfl⟩ := h
  obtain ⟨q, hq, rfl⟩ := h'
  rw [Except.ok.inj (hp.symm.trans hq)]

section Registered

variable {entries : List (String × String × α)} {routes : List (Route α)}

theorem map_name_of_registers (h : List.Forall₂ Registers entries routes) :
    routes.map Route.name = entries.map (·.1) := by
  induction h with
  | nil => rfl
  | cons hroute _ ih =>
      obtain ⟨p, -, rfl⟩ := hroute
      rw [List.map_cons, List.map_cons, ih]

theorem forall_mem_routes_iff (h : List.Forall₂ Registers entries routes) {P : Route α → Prop} :
    (∀ route ∈ routes, P route) ↔ ∀ entry ∈ entries, ∀ route, Registers entry route → P route := by
  induction h with
  | nil => simp
  | cons hroute _ ih =>
      rw [List.forall_mem_cons, List.forall_mem_cons, ih]
      refine and_congr_left' ⟨fun hP route hroute' => ?_, fun hP => hP _ hroute⟩
      exact hroute.unique hroute' ▸ hP

theorem forall_compatible_iff (h : List.Forall₂ Registers entries routes) (p : Pattern) :
    (∀ other ∈ routes, Compatible p.paths other.pattern.paths) ↔
      ∀ entry ∈ entries, ∀ q, Pattern.parse entry.2.1 = .ok q → Compatible p.paths q.paths := by
  rw [forall_mem_routes_iff h]
  constructor
  · intro hall entry hentry q hq
    exact hall entry hentry _ ⟨q, hq, rfl⟩
  · rintro hall entry hentry _ ⟨q, hq, rfl⟩
    exact hall entry hentry q hq

/-- One more registration can be accepted exactly if there is room for it beside the routes of the
others. -/
theorem acceptable_concat_iff (h : List.Forall₂ Registers entries routes)
    (hentries : Acceptable entries) {name text : String} {action : α} :
    Acceptable (entries ++ [(name, text, action)]) ↔ ∃ p, Admitted routes name text p := by
  -- The order of a list plays no part, so the new registration may as well come first.
  have hperm := List.perm_append_singleton (name, text, action) entries
  rw [acceptable_iff_of_perm hperm, acceptable_cons_iff, ← map_name_of_registers h]
  constructor
  · rintro ⟨hfree, ⟨p, hp⟩, hapart, -⟩
    refine ⟨p, hfree, hp, (forall_compatible_iff h p).2 fun entry hentry q hq => ?_⟩
    exact hapart entry hentry p q hp hq
  · rintro ⟨p, hfree, hparsed, hapart⟩
    refine ⟨hfree, ⟨p, hparsed⟩, fun other hother p' q hp' hq => ?_, hentries⟩
    obtain rfl := Except.ok.inj (hparsed.symm.trans hp')
    exact (forall_compatible_iff h p).1 hapart other hother q hq

theorem registers_concat (h : List.Forall₂ Registers entries routes) {name text : String}
    {action : α} {p : Pattern} (hparse : Pattern.parse text = .ok p) :
    List.Forall₂ Registers (entries ++ [(name, text, action)])
      (routes ++ [⟨name, p.withName name, action⟩]) :=
  List.rel_append h (.cons ⟨p, hparse, rfl⟩ .nil)

end Registered

/-- A course has no refusal exactly if the list is acceptable as a whole. -/
theorem Course.errors_eq_nil_iff {accepted routes : List (Route α)}
    {later : List (String × String × α)} {errors : List RouteError}
    (h : Course accepted later routes errors) {earlier : List (String × String × α)}
    (hearlier : List.Forall₂ Registers earlier accepted) (hacceptable : Acceptable earlier) :
    errors = [] ↔ Acceptable (earlier ++ later) := by
  induction h generalizing earlier with
  | done => exact iff_of_true rfl (by rwa [List.append_nil])
  | @accept _ _ name text action later _ p hadmitted _ ih =>
      have hregisters : List.Forall₂ Registers (earlier ++ [(name, text, action)]) _ :=
        registers_concat hearlier hadmitted.parsed
      rw [ih hregisters ((acceptable_concat_iff hearlier hacceptable).2 ⟨p, hadmitted⟩),
        List.append_assoc, List.singleton_append]
  | @refuse _ _ name text action later _ _ hrefused _ _ =>
      refine iff_of_false (List.cons_ne_nil _ _) fun hall => ?_
      have hprefix : (earlier ++ [(name, text, action)]).Sublist
          (earlier ++ (name, text, action) :: later) :=
        List.Sublist.append_left (List.singleton_sublist.2 List.mem_cons_self) earlier
      obtain ⟨p, hadmitted⟩ := (acceptable_concat_iff hearlier hacceptable).1 (hall.sublist hprefix)
      exact hadmitted.not_refused hrefused

theorem finish_eq_error_iff {reg : Registry α} {error : BuildError} :
    reg.finish = .error error ↔
      (∃ only, reg.refusals.toList = [only] ∧ error = .single only) ∨
        (2 ≤ reg.refusals.toList.length ∧ error = .batch reg.refusals.toList) := by
  rw [finish]
  cases reg.refusals.toList with
  | nil => simp
  | cons first rest => cases rest with
    | nil => simp [eq_comm]
    | cons second more => simp [eq_comm]

theorem Sound.named?_eq_some_iff {reg : Registry α} (h : reg.Sound) {name : String}
    {route : Route α} :
    reg.router.named? name = some route ↔ route ∈ reg.routes ∧ route.name = name := by
  rw [Router.named?, Option.bind_eq_some_iff]
  constructor
  · rintro ⟨id, hid, hroute⟩
    obtain ⟨held, hheld, hname⟩ := (h.indexed name id).1 hid
    obtain rfl := Option.some.inj (hheld.symm.trans hroute)
    exact ⟨Array.mem_of_getElem? hroute, hname⟩
  · rintro ⟨hroute, rfl⟩
    obtain ⟨id, hid⟩ := Array.getElem?_of_mem hroute
    exact ⟨id, h.indexed.look_eq hid, hid⟩

/-- A registry in which nothing was refused comes from an acceptable list. -/
theorem refusals_addAll_eq_empty_iff (entries : List (String × String × α)) :
    (empty.addAll entries).refusals = #[] ↔ Acceptable entries := by
  obtain ⟨errors, hcourse, hrefusals⟩ := sound_empty.exists_course entries
  rw [← Array.toList_eq_nil_iff, hrefusals]
  exact hcourse.errors_eq_nil_iff .nil acceptable_nil

theorem registers_addAll {entries : List (String × String × α)} (h : Acceptable entries) :
    List.Forall₂ Registers entries (empty.addAll entries).routes.toList := by
  have hnone := (refusals_addAll_eq_empty_iff entries).2 h
  obtain ⟨-, added, hroutes, hadded⟩ := sound_empty.routes_addAll hnone
  rw [hroutes]
  exact hadded

/-- The registrations of an acceptable list get their positions for numbers. -/
theorem add_eq_ok_of_acceptable {entries : List (String × String × α)} (h : Acceptable entries)
    {i : Nat} {entry : String × String × α} (hi : entries[i]? = some entry) :
    ((empty.addAll (entries.take i)).add entry.1 entry.2.1 entry.2.2).1 = .ok i := by
  have hearlier := h.sublist (List.take_sublist i entries)
  have hregisters := registers_addAll hearlier
  have hnext : Acceptable (entries.take i ++ [entry]) := by
    have hsub := List.take_sublist (i + 1) entries
    rw [List.take_add_one, hi] at hsub
    exact h.sublist hsub
  obtain ⟨p, hadmitted⟩ := (acceptable_concat_iff hregisters hearlier).1 hnext
  have hlength : (entries.take i).length = i := by
    obtain ⟨hlt, -⟩ := List.getElem?_eq_some_iff.1 hi
    rw [List.length_take]
    omega
  rw [(sound_empty.addAll _).add_of_admitted hadmitted, ← Array.length_toList,
    ← hregisters.length_eq, hlength]

end Registry

namespace Router

variable {α : Type u}

theorem exists_ofList_iff (entries : List (String × String × α)) :
    (∃ r, ofList entries = .ok r) ↔ Registry.Acceptable entries := by
  rw [← Registry.refusals_addAll_eq_empty_iff]
  constructor
  · rintro ⟨r, hr⟩
    exact (Registry.finish_eq_ok_iff.1 hr).1
  · intro hnone
    exact ⟨_, Registry.finish_eq_ok_iff.2 ⟨hnone, rfl⟩⟩

/-- A list of registrations makes a router exactly if it is acceptable. Then each registration has
its route, at its position, under its number and under its name. Otherwise what is reported is the
one refusal, or all of them in their order, where each registration was judged beside the routes
accepted before it. -/
theorem ofList_course (entries : List (String × String × α)) :
    ((∃ r, ofList entries = .ok r) ↔ Registry.Acceptable entries) ∧
      (∀ r, ofList entries = .ok r →
        List.Forall₂ Registry.Registers entries r.routes.toList ∧
        (∀ (i : RouteId) (entry : String × String × α), entries[i]? = some entry →
          ((Registry.empty.addAll (entries.take i)).add entry.1 entry.2.1 entry.2.2).1 = .ok i) ∧
        ∀ name route, r.named? name = some route ↔ route ∈ r.routes ∧ route.name = name) ∧
      (∃ routes errors, Registry.Course [] entries routes errors) ∧
      ∀ routes errors, Registry.Course [] entries routes errors →
        ∀ error, ofList entries = .error error ↔
          (∃ only, errors = [only] ∧ error = .single only) ∨
            (2 ≤ errors.length ∧ error = .batch errors) := by
  obtain ⟨errors, hcourse, hrefusals⟩ := Registry.sound_empty.exists_course entries
  refine ⟨exists_ofList_iff entries, fun r hr => ?_, ⟨_, errors, hcourse⟩, ?_⟩
  · have hacceptable := (exists_ofList_iff entries).1 ⟨r, hr⟩
    obtain ⟨-, rfl⟩ := Registry.finish_eq_ok_iff.1 hr
    have hsound := Registry.sound_empty.addAll entries
    exact ⟨Registry.registers_addAll hacceptable,
      fun i entry hi => Registry.add_eq_ok_of_acceptable hacceptable hi,
      fun name route => hsound.named?_eq_some_iff⟩
  · intro routes errors' hcourse' error
    obtain ⟨-, rfl⟩ := hcourse.unique hcourse'
    rw [ofList, Registry.finish_eq_error_iff, hrefusals]
    rfl

/-- The second registration is refused for its name, so its pattern is free for the last one. -/
theorem ofList_course_refused_pattern :
    ∃ routes : List (Route Nat),
      Registry.Course [] [("user", "/users/\x7bid\x7d", 0), ("user", "/posts", 1),
        ("person", "/users/\x7bname\x7d", 2), ("posts", "/posts", 3)] routes
        [.duplicateName "user",
          .equivalent ⟨"person", "/users/\x7bname\x7d", "user", "/users/\x7bid\x7d"⟩
            "/users/id"] := by
  have hrun : (match ofList [("user", "/users/\x7bid\x7d", 0), ("user", "/posts", 1),
        ("person", "/users/\x7bname\x7d", 2), ("posts", "/posts", 3)] with
      | .ok _ => none
      | .error error => some error) = some (.batch [.duplicateName "user",
        .equivalent ⟨"person", "/users/\x7bname\x7d", "user", "/users/\x7bid\x7d"⟩
          "/users/id"]) := by cbv
  obtain ⟨-, -, ⟨routes, errors, hcourse⟩, hreport⟩ := ofList_course
    [("user", "/users/\x7bid\x7d", 0), ("user", "/posts", 1),
      ("person", "/users/\x7bname\x7d", 2), ("posts", "/posts", 3)]
  split at hrun
  · contradiction
  · rename_i error hr
    obtain rfl := Option.some.inj hrun
    rcases (hreport routes errors hcourse _).1 hr with ⟨only, -, herror⟩ | ⟨-, herror⟩
    · contradiction
    · obtain rfl := BuildError.batch.inj herror
      exact ⟨routes, hcourse⟩

end Router

end PathRouter

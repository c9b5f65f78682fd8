import PathRouter.Proofs.Router.Resolve
import PathRouter.Proofs.Server.Table

/-!
What a table says of a request. The path alone decides on the route, and only then is the method
looked at, so a method that the most specific route does not allow is refused even where a less
specific route would allow it. The refusal tells the methods that are allowed in a form from which
they can be read back: they are tokens, so a comma in the list always ends one of them.
-/

namespace PathRouter

namespace Http

/-! ### Lists in headers -/

/-- What stands between the separators of a list, each of which is a comma with a space after it. -/
def members : List Char → List (List Char)
  | [] => [[]]
  | ',' :: ' ' :: rest => [] :: members rest
  | c :: rest => match members rest with
      | [] => [[c]]
      | member :: later => (c :: member) :: later

/-- The members of a list in a header. -/
def splitList (s : String) : List String := (members s.toList).map String.ofList

theorem members_cons_of_ne {c : Char} (h : c ≠ ',') (rest : List Char) :
    members (c :: rest) = match members rest with
      | [] => [[c]]
      | member :: later => (c :: member) :: later :=
  members.eq_3 c rest fun _ hc => absurd hc h

theorem members_of_comma_not_mem {member : List Char} (h : ',' ∉ member) :
    members member = [member] := by
  induction member with
  | nil => rfl
  | cons c rest ih =>
      rw [List.mem_cons, not_or] at h
      rw [members_cons_of_ne (Ne.symm h.1), ih h.2]

theorem members_append {member : List Char} (h : ',' ∉ member) (rest : List Char) :
    members (member ++ ',' :: ' ' :: rest) = member :: members rest := by
  induction member with
  | nil => rw [List.nil_append, members]
  | cons c more ih =>
      rw [List.mem_cons, not_or] at h
      rw [List.cons_append, members_cons_of_ne (Ne.symm h.1), ih h.2]

theorem members_intercalate {items : List (List Char)} (hne : items ≠ [])
    (h : ∀ item ∈ items, ',' ∉ item) : members ([',', ' '].intercalate items) = items := by
  induction items with
  | nil => contradiction
  | cons item items ih =>
      obtain ⟨hitem, hitems⟩ := List.forall_mem_cons.1 h
      cases items with
      | nil => rw [List.intercalate_singleton, members_of_comma_not_mem hitem]
      | cons next more =>
          rw [List.intercalate_cons_cons, List.append_assoc]
          exact (members_append hitem _).trans (congrArg _ (ih (List.cons_ne_nil _ _) hitems))

theorem comma_not_mem_of_isToken {s : String} (h : isToken s) : ',' ∉ s.toList := by
  rw [isToken, Bool.and_eq_true, List.all_eq_true] at h
  intro hcomma
  exact absurd (h.2 ',' hcomma) (by decide)

/-- Tokens are read back from their list. -/
theorem splitList_intercalate {tokens : List String} (hne : tokens ≠ [])
    (h : ∀ token ∈ tokens, isToken token) : splitList (", ".intercalate tokens) = tokens := by
  have hcomma : ∀ item ∈ tokens.map String.toList, ',' ∉ item := by
    simpa using fun token htoken => comma_not_mem_of_isToken (h token htoken)
  rw [splitList, String.toList_intercalate]
  show (members ([',', ' '].intercalate _)).map _ = _
  rw [members_intercalate (by simpa using hne) hcomma, List.map_map]
  simp

end Http

theorem Action.accepts_iff {a : Action} {method : String} :
    a.accepts method ↔ a.methods = [] ∨ method ∈ a.methods := by
  rw [accepts, Bool.or_eq_true, List.isEmpty_iff, List.contains_iff_mem]

namespace Table

variable {entries : List RouteEntry} {table : Router Action} {method path : String}
  {totals : Metrics} {m : Match Action}

/-! ### One request -/

theorem dispatch_of_resolve_eq_none (h : table.resolve path = none) :
    dispatch table method path totals = (.notFound path, totals.countMiss) := by
  rw [dispatch, h]

theorem dispatch_of_accepts (h : table.resolve path = some m)
    (hmethod : m.route.action.accepts method) :
    dispatch table method path totals =
      (.matched m.route.name m.route.action.status (Outcome.matchBody m),
        totals.countMatch m.route.name) := by
  rw [dispatch, h]
  exact if_pos hmethod

theorem dispatch_of_not_accepts (h : table.resolve path = some m)
    (hmethod : ¬ m.route.action.accepts method) :
    dispatch table method path totals =
      (.methodNotAllowed m.route.name m.route.action.methodList,
        totals.countRefusal m.route.name) := by
  rw [dispatch, h]
  exact if_neg hmethod

/-! ### All requests for a path -/

/-- The route of the match answers the requests for the path, whatever their methods. -/
structure Answers (table : Router Action) (path : String) (m : Match Action) : Prop where
  /-- A method that it allows gets its status and its content. -/
  allowed : ∀ method totals, m.route.action.methods = [] ∨ method ∈ m.route.action.methods →
    (dispatch table method path totals).1 =
      .matched m.route.name m.route.action.status (Outcome.matchBody m)
  /-- Any other method is refused, and the methods of the route are told in their order. -/
  refused : ∀ method totals, ¬ (m.route.action.methods = [] ∨ method ∈ m.route.action.methods) →
    ∃ allow, (dispatch table method path totals).1 = .methodNotAllowed m.route.name allow ∧
      Http.splitList allow = m.route.action.methods
  /-- A request that is made again with a method that was told is answered, and with any other
  method it is refused in the same way. -/
  repeated : ∀ method totals name allow,
    (dispatch table method path totals).1 = .methodNotAllowed name allow →
      (∀ listed ∈ Http.splitList allow, ∀ totals,
        (dispatch table listed path totals).1 =
          .matched m.route.name m.route.action.status (Outcome.matchBody m)) ∧
      ∀ unlisted, unlisted ∉ Http.splitList allow → ∀ totals,
        (dispatch table unlisted path totals).1 = .methodNotAllowed name allow

theorem answers_of_resolve_eq_some (h : ofEntries entries = .ok table)
    (hm : table.resolve path = some m) (hroute : m.route ∈ table.routes) :
    Answers table path m := by
  have htoken : ∀ method ∈ m.route.action.methods, Http.isToken method :=
    fun method hmethod => isToken_of_mem_methods h hroute hmethod
  have hsplit (hne : m.route.action.methods ≠ []) :
      Http.splitList m.route.action.methodList = m.route.action.methods :=
    Http.splitList_intercalate hne htoken
  have hallowed (method : String) (totals : Metrics)
      (hmethod : m.route.action.methods = [] ∨ method ∈ m.route.action.methods) :
      (dispatch table method path totals).1 =
        .matched m.route.name m.route.action.status (Outcome.matchBody m) := by
    rw [dispatch_of_accepts hm (Action.accepts_iff.2 hmethod)]
  have hrefused (method : String) (totals : Metrics)
      (hmethod : ¬ (m.route.action.methods = [] ∨ method ∈ m.route.action.methods)) :
      (dispatch table method path totals).1 =
        .methodNotAllowed m.route.name m.route.action.methodList := by
    rw [dispatch_of_not_accepts hm (mt Action.accepts_iff.1 hmethod)]
  refine ⟨hallowed, fun method totals hmethod => ?_, fun method totals name allow hallow => ?_⟩
  · obtain ⟨hne, -⟩ := not_or.1 hmethod
    exact ⟨_, hrefused method totals hmethod, hsplit hne⟩
  · have hmethod : ¬ (m.route.action.methods = [] ∨ method ∈ m.route.action.methods) := by
      intro hmethod
      rw [hallowed method totals hmethod] at hallow
      contradiction
    rw [hrefused method totals hmethod] at hallow
    obtain ⟨rfl, rfl⟩ := Outcome.methodNotAllowed.inj hallow
    obtain ⟨hne, -⟩ := not_or.1 hmethod
    rw [hsplit hne]
    exact ⟨fun listed hlisted totals => hallowed listed totals (.inr hlisted),
      fun unlisted hunlisted totals => hrefused unlisted totals (not_or.2 ⟨hne, hunlisted⟩)⟩

/-- A path that no route of the table matches is not found, whatever the method. For any other path
there is a route that matches it and has fewer paths than all others that do, and this route answers
the requests: a method that it does not allow is refused, even if another of them allows it. -/
theorem dispatch_mostSpecific (h : ofEntries entries = .ok table) (path : String) :
    List.Forall₂ Registry.Registers (entries.map RouteEntry.registration) table.routes.toList ∧
      ((∀ route ∈ table.routes, path ∉ route.pattern.paths) →
        ∀ method totals, (dispatch table method path totals).1 = .notFound path) ∧
      ((∃ route ∈ table.routes, path ∈ route.pattern.paths) →
        ∃ (id : RouteId) (m : Match Action),
          table.routes[id]? = some m.route ∧ path ∈ m.route.pattern.paths ∧
          (∀ (other : RouteId) (route : Route Action), other ≠ id →
            table.routes[other]? = some route → path ∈ route.pattern.paths →
            m.route.pattern.paths ⊂ route.pattern.paths) ∧
          (Outcome.matchBody m).field? "route" = some (.str m.route.name) ∧
          (Outcome.matchBody m).field? "body" = some m.route.action.body ∧
          Answers table path m) := by
  obtain ⟨reg, hsound, hreg⟩ := exists_sound_of_ofEntries h
  refine ⟨registers_of_ofEntries h, fun hnone method totals => ?_, fun hsome => ?_⟩
  · subst hreg
    rw [dispatch_of_resolve_eq_none (hsound.resolve_eq_none_iff.2 hnone)]
  · subst hreg
    have hfound : reg.router.resolve path ≠ none := by
      rw [Ne, hsound.resolve_eq_none_iff]
      intro hnone
      obtain ⟨route, hroute, hpath⟩ := hsome
      exact hnone route hroute hpath
    obtain ⟨m, hm⟩ := Option.ne_none_iff_exists'.1 hfound
    obtain ⟨id, values, hid, hvalues, -⟩ := hsound.resolve_eq_some hm
    refine ⟨id, m, hid, ⟨values, hvalues⟩, ?_, rfl, rfl, ?_⟩
    · intro other route hne hother hpath
      exact hsound.paths_ssubset hm hid hother hne hpath
    · exact answers_of_resolve_eq_some h hm (Array.mem_of_getElem? hid)

/-- A route for all paths and all methods does not help a method that the route of the path does not
allow; a method from the list does. -/
theorem dispatch_mostSpecific_no_fallback :
    ∃ table, ofEntries [⟨"any", "/\x7brest...\x7d", [], 200, none⟩,
        ⟨"user", "/users/\x7bid\x7d", ["get", "x-purge"], 202, none⟩] = .ok table ∧
      (dispatch table "POST" "/users/42" {}).1 = .methodNotAllowed "user" "GET, X-PURGE" ∧
      ∃ status body, (dispatch table "X-PURGE" "/users/42" {}).1 = .matched "user" status body := by
  have hrun : (match ofEntries [⟨"any", "/\x7brest...\x7d", [], 200, none⟩,
        ⟨"user", "/users/\x7bid\x7d", ["get", "x-purge"], 202, none⟩] with
      | .ok table => some (dispatch table "POST" "/users/42" {}).1
      | .error _ => none) = some (.methodNotAllowed "user" "GET, X-PURGE") := by cbv
  split at hrun
  · rename_i table htable
    have hpost := Option.some.inj hrun
    obtain ⟨-, hnone, hsome⟩ := dispatch_mostSpecific htable "/users/42"
    have hmatched : ∃ route ∈ table.routes, "/users/42" ∈ route.pattern.paths := by
      by_contra hno
      have hmiss := hnone (fun route hroute hpath => hno ⟨route, hroute, hpath⟩) "POST" {}
      rw [hpost] at hmiss
      contradiction
    obtain ⟨id, m, -, -, -, -, -, hanswers⟩ := hsome hmatched
    obtain ⟨hlisted, -⟩ := hanswers.repeated _ _ _ _ hpost
    have hname : m.route.name = "user" := by
      by_cases hmethod : m.route.action.methods = [] ∨ "POST" ∈ m.route.action.methods
      · rw [hanswers.allowed "POST" {} hmethod] at hpost
        contradiction
      · obtain ⟨allow, hallow, -⟩ := hanswers.refused "POST" {} hmethod
        rw [hallow] at hpost
        exact (Outcome.methodNotAllowed.inj hpost).1
    have hpurge := hlisted "X-PURGE" (by decide) {}
    rw [hname] at hpurge
    exact ⟨table, htable, hpost, _, _, hpurge⟩
  · contradiction

end Table

end PathRouter

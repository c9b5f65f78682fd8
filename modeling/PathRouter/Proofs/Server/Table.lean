import PathRouter.Proofs.Router.Outcome
import PathRouter.Server.Basic

/-!
From the entries of the settings to the table of a server. Two kinds of faults are met on the way,
and they are treated differently: an entry that has no action ends the work at once, while the
refusal of a route is remembered and told in the end. Since ending the work throws away all that was
registered, this is the same as reading all entries first and registering their routes afterwards.
So no refusal is told as long as any entry has a fault of its own, and where there is a table each
entry has its route.
-/

namespace PathRouter

/-! ### Reading the members of a list -/

section Reading

variable {ε α β : Type}

/-- A check that passes gives its value. -/
theorem ite_eq_ok_iff {c : Prop} [Decidable c] {a b : α} {e : ε} :
    (if c then Except.ok a else Except.error e) = .ok b ↔ c ∧ b = a := by
  split <;> simp [*, eq_comm]

theorem ite_eq_error_iff {c : Prop} [Decidable c] {a : α} {e e' : ε} :
    (if c then Except.ok a else Except.error e) = .error e' ↔ ¬ c ∧ e' = e := by
  split <;> simp [*, eq_comm]

/-- Some member is bad, and all members before it are good. -/
def FirstBad (good bad : α → Prop) (xs : List α) : Prop :=
  ∃ earlier x later, xs = earlier ++ x :: later ∧ (∀ y ∈ earlier, good y) ∧ bad x

theorem not_firstBad_nil {good bad : α → Prop} : ¬ FirstBad good bad [] := by
  rintro ⟨earlier, x, later, hxs, -⟩
  exact List.append_ne_nil_of_right_ne_nil earlier (List.cons_ne_nil x later) hxs.symm

theorem firstBad_cons_iff {good bad : α → Prop} {x : α} {xs : List α} :
    FirstBad good bad (x :: xs) ↔ bad x ∨ good x ∧ FirstBad good bad xs := by
  constructor
  · rintro ⟨earlier, y, later, hxs, hgood, hbad⟩
    cases earlier with
    | nil =>
        obtain ⟨rfl, -⟩ := List.cons.inj hxs
        exact .inl hbad
    | cons z earlier =>
        obtain ⟨rfl, rfl⟩ := List.cons.inj hxs
        obtain ⟨hx, hgood⟩ := List.forall_mem_cons.1 hgood
        exact .inr ⟨hx, earlier, y, later, rfl, hgood, hbad⟩
  · rintro (hbad | ⟨hx, earlier, y, later, rfl, hgood, hbad⟩)
    · exact ⟨[], x, xs, rfl, by simp, hbad⟩
    · exact ⟨x :: earlier, y, later, rfl, List.forall_mem_cons.2 ⟨hx, hgood⟩, hbad⟩

variable {f : α → Except ε β} {good : α → Prop} {value : α → β} {fault : α → ε → Prop}

/-- Where each member is good and has a value or else has a fault, a list of good members has their
values. -/
theorem mapM_eq_ok_iff (hok : ∀ x y, f x = .ok y ↔ good x ∧ y = value x) {xs : List α}
    {ys : List β} : xs.mapM f = .ok ys ↔ (∀ x ∈ xs, good x) ∧ ys = xs.map value := by
  induction xs generalizing ys with
  | nil => simp [pure, Except.pure, eq_comm]
  | cons x xs ih =>
      simp only [List.mapM_cons, bind_eq_ok_iff, hok, ih, pure, Except.pure, Except.ok.injEq,
        List.forall_mem_cons, List.map_cons]
      constructor
      · rintro ⟨_, ⟨hx, rfl⟩, _, ⟨hxs, rfl⟩, rfl⟩
        exact ⟨⟨hx, hxs⟩, rfl⟩
      · rintro ⟨⟨hx, hxs⟩, rfl⟩
        exact ⟨_, ⟨hx, rfl⟩, _, ⟨hxs, rfl⟩, rfl⟩

/-- The fault of a list is that of its first member that is not good. -/
theorem mapM_eq_error_iff (hok : ∀ x y, f x = .ok y ↔ good x ∧ y = value x)
    (herror : ∀ x e, f x = .error e ↔ fault x e) {xs : List α} {e : ε} :
    xs.mapM f = .error e ↔ FirstBad good (fault · e) xs := by
  induction xs with
  | nil => simp [pure, Except.pure, not_firstBad_nil]
  | cons x xs ih =>
      rw [firstBad_cons_iff, ← ih]
      simp [bind_eq_error_iff, hok, herror, pure, Except.pure]

end Reading

/-! ### Entries -/

namespace Action

theorem readMethod_eq_ok_iff {route method read : String} :
    readMethod route method = .ok read ↔ Http.isToken method.toUpper ∧ read = method.toUpper := by
  rw [readMethod, ite_eq_ok_iff]

theorem readMethod_eq_error_iff {route method : String} {e : StartupError} :
    readMethod route method = .error e ↔
      ¬ Http.isToken method.toUpper ∧ e = .invalidMethod route method := by
  rw [readMethod, ite_eq_error_iff]

theorem isStatus_iff {n : Nat} : Http.isStatus n ↔ 100 ≤ n ∧ n ≤ 999 := by
  rw [Http.isStatus, Bool.and_eq_true, decide_eq_true_iff, decide_eq_true_iff]
  omega

theorem readStatus_eq_ok_iff {route : String} {status : UInt16} {read : Nat} :
    readStatus route status = .ok read ↔
      (100 ≤ status.toNat ∧ status.toNat ≤ 999) ∧ read = status.toNat := by
  rw [readStatus, ite_eq_ok_iff, isStatus_iff]

theorem readStatus_eq_error_iff {route : String} {status : UInt16} {e : StartupError} :
    readStatus route status = .error e ↔
      ¬ (100 ≤ status.toNat ∧ status.toNat ≤ 999) ∧ e = .invalidStatus route status := by
  rw [readStatus, ite_eq_error_iff, isStatus_iff]

end Action

namespace RouteEntry

/-- In capital letters all methods of the entry are tokens, and its status has three digits. -/
structure Proper (entry : RouteEntry) : Prop where
  methods : ∀ method ∈ entry.methods, Http.isToken method.toUpper
  status : 100 ≤ entry.status.toNat ∧ entry.status.toNat ≤ 999

/-- What an entry is faulted for: the first of its methods that is no token, or else its status. -/
inductive Fault (entry : RouteEntry) : StartupError → Prop where
  | method {earlier later : List String} {method : String}
      (hmethods : entry.methods = earlier ++ method :: later)
      (hearlier : ∀ other ∈ earlier, Http.isToken other.toUpper)
      (hmethod : ¬ Http.isToken method.toUpper) : Fault entry (.invalidMethod entry.name method)
  | status (hmethods : ∀ method ∈ entry.methods, Http.isToken method.toUpper)
      (hstatus : ¬ (100 ≤ entry.status.toNat ∧ entry.status.toNat ≤ 999)) :
      Fault entry (.invalidStatus entry.name entry.status)

/-- The action that the entry asks for. -/
def action (entry : RouteEntry) : Action :=
  ⟨entry.methods.map String.toUpper, entry.status.toNat, entry.body.getD .null⟩

/-- The route that the entry asks for, as a router registers it. -/
def registration (entry : RouteEntry) : String × String × Action :=
  (entry.name, entry.pattern, entry.action)

end RouteEntry

namespace Action

variable {entry : RouteEntry}

theorem ofEntry_eq_ok_iff {action : Action} :
    ofEntry entry = .ok action ↔ entry.Proper ∧ action = entry.action := by
  simp only [ofEntry, bind_eq_ok_iff, mapM_eq_ok_iff fun _ _ => readMethod_eq_ok_iff,
    readStatus_eq_ok_iff, Except.ok.injEq]
  constructor
  · rintro ⟨_, ⟨hmethods, rfl⟩, _, ⟨hstatus, rfl⟩, rfl⟩
    exact ⟨⟨hmethods, hstatus⟩, rfl⟩
  · rintro ⟨⟨hmethods, hstatus⟩, rfl⟩
    exact ⟨_, ⟨hmethods, rfl⟩, _, ⟨hstatus, rfl⟩, rfl⟩

theorem ofEntry_eq_error_iff {e : StartupError} : ofEntry entry = .error e ↔ entry.Fault e := by
  simp only [ofEntry, bind_eq_error_iff, mapM_eq_ok_iff fun _ _ => readMethod_eq_ok_iff,
    mapM_eq_error_iff (fun _ _ => readMethod_eq_ok_iff) fun _ _ => readMethod_eq_error_iff,
    readStatus_eq_error_iff]
  constructor
  · rintro (⟨earlier, method, later, hmethods, hearlier, hmethod, rfl⟩ |
      ⟨_, ⟨hmethods, -⟩, ⟨hstatus, rfl⟩ | ⟨_, -, hok⟩⟩)
    · exact .method hmethods hearlier hmethod
    · exact .status hmethods hstatus
    · cases hok
  · rintro (⟨hmethods, hearlier, hmethod⟩ | ⟨hmethods, hstatus⟩)
    · exact .inl ⟨_, _, _, hmethods, hearlier, hmethod, rfl⟩
    · exact .inr ⟨_, ⟨hmethods, rfl⟩, .inl ⟨hstatus, rfl⟩⟩

end Action

/-! ### Tables -/

namespace Table

variable {reg reg' : Registry Action} {entry : RouteEntry} {entries : List RouteEntry}
  {e : StartupError} {table : Router Action}

theorem enter_eq_ok_iff :
    enter reg entry = .ok reg' ↔
      entry.Proper ∧ reg' = reg.including entry.name entry.pattern entry.action := by
  simp only [enter, bind_eq_ok_iff, Action.ofEntry_eq_ok_iff, Except.ok.injEq]
  constructor
  · rintro ⟨_, ⟨hproper, rfl⟩, rfl⟩
    exact ⟨hproper, rfl⟩
  · rintro ⟨hproper, rfl⟩
    exact ⟨_, ⟨hproper, rfl⟩, rfl⟩

theorem enter_eq_error_iff : enter reg entry = .error e ↔ entry.Fault e := by
  simp [enter, bind_eq_error_iff, Action.ofEntry_eq_error_iff]

/-- Where each entry has an action the routes of all of them are registered. -/
theorem foldlM_enter_eq_ok_iff :
    entries.foldlM enter reg = .ok reg' ↔
      (∀ entry ∈ entries, entry.Proper) ∧
        reg' = reg.addAll (entries.map RouteEntry.registration) := by
  induction entries generalizing reg with
  | nil => simp [pure, Except.pure, Registry.addAll, eq_comm]
  | cons entry entries ih =>
      rw [List.foldlM_cons, bind_eq_ok_iff, List.map_cons, Registry.addAll_cons,
        List.forall_mem_cons, and_assoc]
      constructor
      · rintro ⟨next, hnext, hlater⟩
        obtain ⟨hproper, rfl⟩ := enter_eq_ok_iff.1 hnext
        exact ⟨hproper, ih.1 hlater⟩
      · rintro ⟨hproper, hlater⟩
        exact ⟨_, enter_eq_ok_iff.2 ⟨hproper, rfl⟩, ih.2 hlater⟩

/-- The first entry without an action ends the work, whatever was refused before it. -/
theorem foldlM_enter_eq_error_iff :
    entries.foldlM enter reg = .error e ↔
      FirstBad RouteEntry.Proper (RouteEntry.Fault · e) entries := by
  induction entries generalizing reg with
  | nil => simp [pure, Except.pure, not_firstBad_nil]
  | cons entry entries ih =>
      rw [List.foldlM_cons, bind_eq_error_iff, firstBad_cons_iff, enter_eq_error_iff]
      refine or_congr_right ?_
      constructor
      · rintro ⟨next, hnext, hlater⟩
        exact ⟨(enter_eq_ok_iff.1 hnext).1, ih.1 hlater⟩
      · rintro ⟨hproper, hlater⟩
        exact ⟨_, enter_eq_ok_iff.2 ⟨hproper, rfl⟩, ih.2 hlater⟩

theorem ofEntries_eq_ok_iff :
    ofEntries entries = .ok table ↔
      (∀ entry ∈ entries, entry.Proper) ∧
        Router.ofList (entries.map RouteEntry.registration) = .ok table := by
  rw [ofEntries, bind_eq_ok_iff, Router.ofList]
  simp only [foldlM_enter_eq_ok_iff, and_assoc, exists_and_left, exists_eq_left]
  generalize (Registry.empty.addAll (entries.map RouteEntry.registration)).finish = finished
  cases finished <;> simp [Except.mapError]

theorem ofEntries_eq_error_iff :
    ofEntries entries = .error e ↔
      FirstBad RouteEntry.Proper (RouteEntry.Fault · e) entries ∨
        (∀ entry ∈ entries, entry.Proper) ∧
          ∃ error, Router.ofList (entries.map RouteEntry.registration) = .error error ∧
            e = .invalidTable error := by
  rw [ofEntries, bind_eq_error_iff, Router.ofList, foldlM_enter_eq_error_iff]
  simp only [foldlM_enter_eq_ok_iff, and_assoc, exists_and_left, exists_eq_left]
  generalize (Registry.empty.addAll (entries.map RouteEntry.registration)).finish = finished
  cases finished <;> simp [Except.mapError, eq_comm]

/-! ### The routes of a table -/

theorem registers_of_ofEntries (h : ofEntries entries = .ok table) :
    List.Forall₂ Registry.Registers (entries.map RouteEntry.registration) table.routes.toList :=
  (Router.exists_sound_of_ofList (ofEntries_eq_ok_iff.1 h).2).1

theorem exists_sound_of_ofEntries (h : ofEntries entries = .ok table) :
    ∃ reg : Registry Action, reg.Sound ∧ reg.router = table :=
  (Router.exists_sound_of_ofList (ofEntries_eq_ok_iff.1 h).2).2

/-- The methods of a route are those of its entry, which were checked. -/
theorem isToken_of_mem_methods (h : ofEntries entries = .ok table) {route : Route Action}
    (hroute : route ∈ table.routes) {method : String} (hmethod : method ∈ route.action.methods) :
    Http.isToken method := by
  have hall : ∀ route ∈ table.routes.toList, ∀ method ∈ route.action.methods,
      Http.isToken method := by
    rw [Registry.forall_mem_routes_iff (registers_of_ofEntries h), List.forall_mem_map]
    rintro entry hentry route ⟨p, -, rfl⟩
    exact List.forall_mem_map.2 ((ofEntries_eq_ok_iff.1 h).1 entry hentry).methods
  exact hall route (Array.mem_toList_iff.2 hroute) method hmethod

end Table

namespace Server

variable {totals : Metrics} {settings : Settings}

theorem prepareAfter_of_ok {table : Router Action}
    (h : Table.ofEntries settings.routes = .ok table) :
    prepareAfter totals settings =
      (.ok ⟨table, settings, totals.setRegistered table.size⟩,
        totals.setRegistered table.size) := by
  rw [prepareAfter, h]

theorem prepareAfter_of_error {e : StartupError} (h : Table.ofEntries settings.routes = .error e) :
    prepareAfter totals settings = (.error e, totals) := by
  rw [prepareAfter, h]

theorem prepareAfter_fst_eq_ok_iff {s : Server} :
    (prepareAfter totals settings).1 = .ok s ↔
      ∃ table, Table.ofEntries settings.routes = .ok table ∧
        s = ⟨table, settings, totals.setRegistered table.size⟩ := by
  cases h : Table.ofEntries settings.routes with
  | error e => simp [prepareAfter_of_error h]
  | ok table => simp [prepareAfter_of_ok h, eq_comm]

theorem prepareAfter_fst_eq_error_iff {e : StartupError} :
    (prepareAfter totals settings).1 = .error e ↔ Table.ofEntries settings.routes = .error e := by
  cases h : Table.ofEntries settings.routes with
  | error e => simp [prepareAfter_of_error h]
  | ok table => simp [prepareAfter_of_ok h]

/-- A server gets its table exactly if each entry is proper and the routes that they ask for are
acceptable together. The table has the routes of the entries in their order, and their number is
recorded. Otherwise nothing is recorded, and what is told is the fault of the first entry that has
one; only if none has one is it what the registry says of the routes. -/
theorem prepareAfter_outcome (totals : Metrics) (settings : Settings) :
    ((∃ s, (prepareAfter totals settings).1 = .ok s) ↔
      (∀ entry ∈ settings.routes, entry.Proper) ∧
        Registry.Acceptable (settings.routes.map RouteEntry.registration)) ∧
      (∀ s, (prepareAfter totals settings).1 = .ok s →
        List.Forall₂ Registry.Registers (settings.routes.map RouteEntry.registration)
          s.table.routes.toList ∧
        s.settings = settings ∧
        s.metrics = { totals with registered := some settings.routes.length } ∧
        (prepareAfter totals settings).2 = s.metrics) ∧
      ∀ e,
        ((prepareAfter totals settings).1 = .error e ↔
          FirstBad RouteEntry.Proper (RouteEntry.Fault · e) settings.routes ∨
            (∀ entry ∈ settings.routes, entry.Proper) ∧
              ∃ error, Router.ofList (settings.routes.map RouteEntry.registration) = .error error ∧
                e = .invalidTable error) ∧
        ((prepareAfter totals settings).1 = .error e →
          (prepareAfter totals settings).2 = totals) := by
  refine ⟨?_, fun s hs => ?_, fun e => ⟨?_, fun he => ?_⟩⟩
  · rw [← Router.exists_ofList_iff, ← exists_and_left]
    simp only [prepareAfter_fst_eq_ok_iff, Table.ofEntries_eq_ok_iff]
    constructor
    · rintro ⟨s, table, htable, -⟩
      exact ⟨table, htable⟩
    · rintro ⟨table, htable⟩
      exact ⟨_, table, htable, rfl⟩
  · obtain ⟨table, htable, rfl⟩ := prepareAfter_fst_eq_ok_iff.1 hs
    have hroutes := Table.registers_of_ofEntries htable
    have hsize : settings.routes.length = table.size := by
      rw [← List.length_map RouteEntry.registration, hroutes.length_eq]
      rfl
    refine ⟨hroutes, rfl, ?_, ?_⟩
    · rw [hsize]
      rfl
    · rw [prepareAfter_of_ok htable]
  · rw [prepareAfter_fst_eq_error_iff, Table.ofEntries_eq_error_iff]
  · rw [prepareAfter_of_error (prepareAfter_fst_eq_error_iff.1 he)]

/-- Both routes get their place, with methods in capital letters. Beside a route for the same paths
it is still the status of a later entry that is told. -/
theorem prepareAfter_outcome_status_first :
    (∃ s,
      (prepareAfter { requests := 7 } { routes :=
        [⟨"user", "/users/\x7bid\x7d", ["get", "Delete"], 202, none⟩,
          ⟨"me", "/users/me", [], 200, none⟩] }).1 = .ok s ∧
      s.table.routes.toList.map (fun route => route.action.methods) = [["GET", "DELETE"], []] ∧
      s.metrics = { requests := 7, registered := some 2 }) ∧
    prepareAfter { requests := 7 } { routes :=
        [⟨"user", "/users/\x7bid\x7d", ["get", "Delete"], 202, none⟩,
          ⟨"person", "/users/\x7bname\x7d", [], 200, none⟩, ⟨"home", "/", [], 1000, none⟩] } =
      (.error (.invalidStatus "home" 1000), { requests := 7 }) := by
  constructor
  · have hrun : (match (prepareAfter { requests := 7 } { routes :=
          [⟨"user", "/users/\x7bid\x7d", ["get", "Delete"], 202, none⟩,
            ⟨"me", "/users/me", [], 200, none⟩] }).1 with
        | .ok s => s.table.routes.toList.map fun route => route.action.methods
        | .error _ => []) = [["GET", "DELETE"], []] := by cbv
    split at hrun
    · rename_i s hs
      obtain ⟨-, hserver, -⟩ := prepareAfter_outcome { requests := 7 } { routes :=
        [⟨"user", "/users/\x7bid\x7d", ["get", "Delete"], 202, none⟩,
          ⟨"me", "/users/me", [], 200, none⟩] }
      obtain ⟨-, -, hmetrics, -⟩ := hserver s hs
      exact ⟨s, hs, hrun, hmetrics⟩
    · contradiction
  · obtain ⟨-, -, herror⟩ := prepareAfter_outcome { requests := 7 } { routes :=
      [⟨"user", "/users/\x7bid\x7d", ["get", "Delete"], 202, none⟩,
        ⟨"person", "/users/\x7bname\x7d", [], 200, none⟩, ⟨"home", "/", [], 1000, none⟩] }
    obtain ⟨hiff, htotals⟩ := herror (.invalidStatus "home" 1000)
    have hfault : RouteEntry.Fault ⟨"home", "/", [], 1000, none⟩ (.invalidStatus "home" 1000) :=
      .status (by simp) (by decide)
    have hfirst := hiff.2 (.inl ⟨[_, _], _, [], rfl, ?_, hfault⟩)
    · exact Prod.ext hfirst (htotals hfirst)
    · simp only [List.mem_cons, List.not_mem_nil, or_false]
      rintro entry (rfl | rfl)
      · exact ⟨by decide +kernel, by decide⟩
      · exact ⟨by simp, by decide⟩

end Server

end PathRouter

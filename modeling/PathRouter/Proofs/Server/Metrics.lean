import Mathlib
import PathRouter.Server.Basic

/-!
What the totals of a server say about the requests that it has answered. Each request is counted
when it comes in and timed when it is done, and between the two exactly one more total is raised,
which one depends on the outcome. So the totals that tell outcomes apart always add up to the number
of requests, and nothing has to be known about the table.
-/

namespace PathRouter

/-! ### Outcomes -/

namespace Outcome

def isMatchOf (route : String) : Outcome → Bool
  | .matched name _ _ => name == route
  | _ => false

def isRefusalOf (route : String) : Outcome → Bool
  | .methodNotAllowed name _ => name == route
  | _ => false

def isMiss : Outcome → Bool
  | .notFound _ => true
  | _ => false

/-- Raises the total of the outcome. -/
def count : Outcome → Metrics → Metrics
  | .matched route _ _, m => m.countMatch route
  | .methodNotAllowed route _, m => m.countRefusal route
  | .notFound _, m => m.countMiss

end Outcome

namespace Table

variable (table : Router Action) (method path : String) (totals : Metrics)

/-- A request raises the total of its outcome and no other. -/
theorem dispatch_snd :
    (dispatch table method path totals).2 =
      (dispatch table method path totals).1.count totals := by
  rw [dispatch]
  split
  · rfl
  · dsimp only
    split <;> rfl

/-- The outcome does not depend on what was recorded before. -/
theorem dispatch_fst (totals' : Metrics) :
    (dispatch table method path totals).1 = (dispatch table method path totals').1 := by
  rw [dispatch, dispatch]
  split
  · rfl
  · dsimp only
    split <;> rfl

end Table

/-! ### Totals by route -/

namespace Counter

@[simp] theorem value_nil (route : String) : value [] route = 0 := rfl

theorem value_cons (name : String) (n : Nat) (c : Counter) (route : String) :
    value ((name, n) :: c) route = if name = route then n else value c route := by
  rw [value, List.lookup_cons]
  by_cases h : name = route
  · rw [if_pos h, beq_iff_eq.2 h.symm]
    rfl
  · rw [if_neg h, beq_false_of_ne (Ne.symm h)]
    rfl

theorem value_raise (c : Counter) (route other : String) :
    (c.raise route).value other = c.value other + if route = other then 1 else 0 := by
  induction c with
  | nil => simp [raise, value_cons]
  | cons entry c ih =>
      obtain ⟨name, n⟩ := entry
      rw [raise]
      by_cases hroute : name = route
      · subst hroute
        rw [if_pos rfl, value_cons, value_cons]
        split <;> rfl
      · rw [if_neg hroute, value_cons, value_cons, ih]
        by_cases hother : name = other
        · have hne : ¬ route = other := fun h => hroute (hother.trans h.symm)
          rw [if_pos hother, if_pos hother, if_neg hne, Nat.add_zero]
        · rw [if_neg hother, if_neg hother]

theorem total_cons (name : String) (n : Nat) (c : Counter) :
    total ((name, n) :: c) = n + total c := rfl

theorem total_raise (c : Counter) (route : String) : (c.raise route).total = c.total + 1 := by
  induction c with
  | nil => rfl
  | cons entry c ih =>
      obtain ⟨name, n⟩ := entry
      rw [raise]
      split
      · rw [total_cons, total_cons]
        omega
      · rw [total_cons, total_cons, ih]
        omega

end Counter

/-! ### Totals and outcomes -/

namespace Metrics

/-- All totals that tell outcomes apart, together. -/
def answered (m : Metrics) : Nat := m.matched.total + m.refused.total + m.unmatched

/-- Between the first and the second state of the totals, requests with these outcomes were
answered. -/
structure Grown (before after : Metrics) (outcomes : List Outcome) : Prop where
  requests : after.requests = before.requests + outcomes.length
  latencySamples : after.latencySamples = before.latencySamples + outcomes.length
  matched : ∀ route, after.matched.value route =
    before.matched.value route + outcomes.countP (·.isMatchOf route)
  refused : ∀ route, after.refused.value route =
    before.refused.value route + outcomes.countP (·.isRefusalOf route)
  unmatched : after.unmatched = before.unmatched + outcomes.countP (·.isMiss)
  answered : after.answered = before.answered + outcomes.length
  registered : after.registered = before.registered

variable {m m' m'' : Metrics} {outcomes later : List Outcome}

theorem Grown.refl (m : Metrics) : Grown m m [] :=
  ⟨rfl, rfl, fun _ => rfl, fun _ => rfl, rfl, rfl, rfl⟩

theorem Grown.trans (h : Grown m m' outcomes) (h' : Grown m' m'' later) :
    Grown m m'' (outcomes ++ later) where
  requests := by rw [h'.requests, h.requests, List.length_append, Nat.add_assoc]
  latencySamples := by rw [h'.latencySamples, h.latencySamples, List.length_append, Nat.add_assoc]
  matched route := by rw [h'.matched, h.matched, List.countP_append, Nat.add_assoc]
  refused route := by rw [h'.refused, h.refused, List.countP_append, Nat.add_assoc]
  unmatched := by rw [h'.unmatched, h.unmatched, List.countP_append, Nat.add_assoc]
  answered := by rw [h'.answered, h.answered, List.length_append, Nat.add_assoc]
  registered := h'.registered.trans h.registered

/-- Counting a request, raising the total of its outcome and timing it is what one outcome asks
for. -/
theorem grown_count (m : Metrics) (o : Outcome) :
    Grown m (o.count m.countRequest).sampleLatency [o] := by
  cases o with
  | matched route status body =>
      refine ⟨rfl, rfl, fun other => ?_, fun _ => rfl, rfl, ?_, rfl⟩
      · show (m.matched.raise route).value other = _
        rw [Counter.value_raise, List.countP_singleton, Outcome.isMatchOf]
        simp
      · show (m.matched.raise route).total + m.refused.total + m.unmatched = m.answered + 1
        rw [Counter.total_raise, Metrics.answered]
        omega
  | methodNotAllowed route allow =>
      refine ⟨rfl, rfl, fun _ => rfl, fun other => ?_, rfl, ?_, rfl⟩
      · show (m.refused.raise route).value other = _
        rw [Counter.value_raise, List.countP_singleton, Outcome.isRefusalOf]
        simp
      · show m.matched.total + (m.refused.raise route).total + m.unmatched = m.answered + 1
        rw [Counter.total_raise, Metrics.answered]
        omega
  | notFound path => exact ⟨rfl, rfl, fun _ => rfl, fun _ => rfl, rfl, rfl, rfl⟩

end Metrics

/-! ### What is shown -/

namespace Metrics

/-- What is shown of the series with the name. -/
def ofSeries (m : Metrics) (name : String) : List Sample :=
  m.samples.filter (·.series.name == name)

/-- The value of a route, or the one that belongs to no route. What is not shown is zero. -/
def valueFor (route : Option String) (shown : List Sample) : Nat :=
  ((shown.find? (·.route == route)).map (·.value)).getD 0

def reading (m : Metrics) (name : String) (route : Option String) : Nat :=
  valueFor route (m.ofSeries name)

/-- The sum over all routes. -/
def readingSum (m : Metrics) (name : String) : Nat := ((m.ofSeries name).map (·.value)).sum

theorem filter_series {shown : List Sample} {series : Series} (h : ∀ x ∈ shown, x.series = series)
    (name : String) :
    shown.filter (·.series.name == name) = if series.name = name then shown else [] := by
  split
  · next hname =>
      refine List.filter_eq_self.2 fun x hx => ?_
      rw [h x hx, hname, beq_self_eq_true]
  · next hname =>
      refine List.filter_eq_nil_iff.2 fun x hx => ?_
      rw [h x hx, beq_iff_eq]
      exact hname

theorem series_of_mem_counted {series : Series} {n : Nat} :
    ∀ x ∈ counted series n, x.series = series := by
  intro x hx
  rw [counted] at hx
  split at hx
  · contradiction
  · rw [List.mem_singleton.1 hx]

theorem series_of_mem_byRoute {series : Series} {c : Counter} :
    ∀ x ∈ byRoute series c, x.series = series := by
  rw [byRoute, List.forall_mem_map]
  exact fun _ _ => rfl

theorem series_of_mem_gauged {series : Series} {registered : Option Nat} :
    ∀ x ∈ registered.toList.map (gauged series), x.series = series := by
  rw [List.forall_mem_map]
  exact fun _ _ => rfl

/-- No two series have the same name, so each of them is shown by itself. -/
theorem ofSeries_names (m : Metrics) :
    m.ofSeries "waymark_requests_total" = counted requestsSeries m.requests ∧
      m.ofSeries "waymark_matches_total" = byRoute matchedSeries m.matched ∧
      m.ofSeries "waymark_unmatched_total" = counted unmatchedSeries m.unmatched ∧
      m.ofSeries "waymark_method_not_allowed_total" = byRoute refusedSeries m.refused ∧
      m.ofSeries "waymark_routes_registered" =
        m.registered.toList.map (gauged registeredSeries) ∧
      m.ofSeries "waymark_match_latency_seconds" = counted latencySeries m.latencySamples := by
  simp only [ofSeries, samples, List.filter_append, filter_series series_of_mem_counted,
    filter_series series_of_mem_byRoute, filter_series series_of_mem_gauged]
  simp [requestsSeries, matchedSeries, unmatchedSeries, refusedSeries, registeredSeries,
    latencySeries]

theorem valueFor_counted (series : Series) (n : Nat) : valueFor none (counted series n) = n := by
  rw [valueFor, counted]
  split
  · next hzero => exact hzero.symm
  · simp

theorem sum_counted (series : Series) (n : Nat) :
    ((counted series n).map (·.value)).sum = n := by
  rw [counted]
  split
  · next hzero => exact hzero.symm
  · simp

theorem valueFor_byRoute (series : Series) (c : Counter) (route : String) :
    valueFor (some route) (byRoute series c) = c.value route := by
  induction c with
  | nil => rfl
  | cons entry c ih =>
      obtain ⟨name, n⟩ := entry
      rw [Counter.value_cons, ← ih, valueFor, byRoute, List.map_cons, List.find?_cons]
      by_cases h : name = route
      · rw [if_pos h, h, beq_self_eq_true]
        rfl
      · rw [if_neg h, beq_false_of_ne (mt Option.some.inj h)]
        rfl

theorem sum_byRoute (series : Series) (c : Counter) :
    ((byRoute series c).map (·.value)).sum = c.total := by
  rw [byRoute, List.map_map, Counter.total, List.sum]
  rfl

/-- Under the name of each series its total is shown. -/
theorem readings (m : Metrics) :
    m.reading "waymark_requests_total" none = m.requests ∧
      m.reading "waymark_match_latency_seconds" none = m.latencySamples ∧
      (∀ route, m.reading "waymark_matches_total" (some route) = m.matched.value route) ∧
      (∀ route, m.reading "waymark_method_not_allowed_total" (some route) =
        m.refused.value route) ∧
      m.reading "waymark_unmatched_total" none = m.unmatched := by
  obtain ⟨hrequests, hmatched, hunmatched, hrefused, -, hlatency⟩ := ofSeries_names m
  simp only [reading, hrequests, hlatency, hmatched, hrefused, hunmatched, valueFor_counted,
    valueFor_byRoute, implies_true, and_self]

theorem readingSums (m : Metrics) :
    m.readingSum "waymark_matches_total" + m.readingSum "waymark_method_not_allowed_total" +
        m.readingSum "waymark_unmatched_total" = m.answered ∧
      m.readingSum "waymark_requests_total" = m.requests := by
  obtain ⟨hrequests, hmatched, hunmatched, hrefused, -, -⟩ := ofSeries_names m
  simp only [readingSum, hrequests, hmatched, hrefused, hunmatched, sum_counted, sum_byRoute,
    answered, and_self]

end Metrics

/-! ### Runs -/

namespace Server

variable {s : Server}

theorem grown_handle (s : Server) (method path : String) :
    s.metrics.Grown (s.handle method path).2.metrics [(s.handle method path).1] := by
  have h := Metrics.grown_count s.metrics
    (Table.dispatch s.table method path s.metrics.countRequest).1
  rw [← Table.dispatch_snd] at h
  exact h

theorem grown_handleAll (s : Server) (requests : List (String × String)) :
    s.metrics.Grown (s.handleAll requests).2.metrics (s.handleAll requests).1 := by
  induction requests generalizing s with
  | nil => exact .refl _
  | cons request later ih =>
      exact (s.grown_handle request.1 request.2).trans (ih _)

/-- Requests are answered by the table, one like the other. -/
theorem handleAll_fst (s : Server) (requests : List (String × String)) :
    (s.handleAll requests).1 =
      requests.map fun request => (Table.dispatch s.table request.1 request.2 {}).1 := by
  induction requests generalizing s with
  | nil => rfl
  | cons request later ih =>
      have hlater := ih (s.handle request.1 request.2).2
      rw [List.map_cons, ← Table.dispatch_fst _ _ _ s.metrics.countRequest]
      exact congrArg _ hlater

/-- However many requests a server answers, beginning without any, the totals that it shows are the
numbers of its outcomes, for each route by itself. Together they are the number of the requests, and
the number of routes is shown as before. -/
theorem handleAll_metrics {requests : List (String × String)} {outcomes : List Outcome}
    {s' : Server} (hzero : s.metrics = { registered := s.metrics.registered })
    (hrun : s.handleAll requests = (outcomes, s')) :
    (outcomes = requests.map fun request => (Table.dispatch s.table request.1 request.2 {}).1) ∧
      s'.metrics.reading "waymark_requests_total" none = requests.length ∧
      s'.metrics.reading "waymark_match_latency_seconds" none = requests.length ∧
      (∀ route, s'.metrics.reading "waymark_matches_total" (some route) =
        outcomes.countP (·.isMatchOf route)) ∧
      (∀ route, s'.metrics.reading "waymark_method_not_allowed_total" (some route) =
        outcomes.countP (·.isRefusalOf route)) ∧
      s'.metrics.reading "waymark_unmatched_total" none = outcomes.countP (·.isMiss) ∧
      s'.metrics.readingSum "waymark_matches_total" +
          s'.metrics.readingSum "waymark_method_not_allowed_total" +
          s'.metrics.readingSum "waymark_unmatched_total" =
        s'.metrics.readingSum "waymark_requests_total" ∧
      s'.metrics.ofSeries "waymark_routes_registered" =
        s.metrics.ofSeries "waymark_routes_registered" := by
  have houtcomes := s.handleAll_fst requests
  have hgrown := s.grown_handleAll requests
  rw [hrun] at houtcomes hgrown
  dsimp only at houtcomes hgrown
  have hlength : outcomes.length = requests.length := by rw [houtcomes, List.length_map]
  obtain ⟨hrequests, hlatency, hmatched, hrefused, hunmatched⟩ := s'.metrics.readings
  obtain ⟨hanswered, hsum⟩ := s'.metrics.readingSums
  obtain ⟨-, -, -, -, hafter, -⟩ := s'.metrics.ofSeries_names
  obtain ⟨-, -, -, -, hbefore, -⟩ := s.metrics.ofSeries_names
  refine ⟨houtcomes, ?_, ?_, fun route => ?_, fun route => ?_, ?_, ?_, ?_⟩
  · rw [hrequests, hgrown.requests, hzero, hlength, Nat.zero_add]
  · rw [hlatency, hgrown.latencySamples, hzero, hlength, Nat.zero_add]
  · rw [hmatched, hgrown.matched, hzero, Counter.value_nil, Nat.zero_add]
  · rw [hrefused, hgrown.refused, hzero, Counter.value_nil, Nat.zero_add]
  · rw [hunmatched, hgrown.unmatched, hzero, Nat.zero_add]
  · rw [hanswered, hsum, hgrown.answered, hgrown.requests, hzero]
    rfl
  · rw [hafter, hbefore, hgrown.registered]

/-- One of these requests has a method that its route does not allow, and one has no route. -/
theorem handleAll_metrics_each_outcome :
    ∃ (s s' : Server) (outcomes : List Outcome),
      prepare { routes := [⟨"user", "/users/\x7bid\x7d", ["get"], 200, none⟩] } = .ok s ∧
      s.handleAll [("GET", "/users/1"), ("POST", "/users/1"), ("GET", "/"), ("GET", "/users/2")] =
        (outcomes, s') ∧
      s'.metrics.reading "waymark_requests_total" none = 4 ∧
      s'.metrics.reading "waymark_matches_total" (some "user") = 2 ∧
      s'.metrics.reading "waymark_method_not_allowed_total" (some "user") = 1 ∧
      s'.metrics.reading "waymark_unmatched_total" none = 1 := by
  have hrun : (match prepare { routes := [⟨"user", "/users/\x7bid\x7d", ["get"], 200, none⟩] } with
      | .ok s =>
          let outcomes := (s.handleAll
            [("GET", "/users/1"), ("POST", "/users/1"), ("GET", "/"), ("GET", "/users/2")]).1
          some (s.metrics, outcomes.countP (·.isMatchOf "user"),
            outcomes.countP (·.isRefusalOf "user"), outcomes.countP (·.isMiss))
      | .error _ => none) = some ({ registered := some 1 }, 2, 1, 1) := by cbv
  split at hrun
  · rename_i s hs
    generalize hall : s.handleAll
      [("GET", "/users/1"), ("POST", "/users/1"), ("GET", "/"), ("GET", "/users/2")] = run at hrun
    obtain ⟨outcomes, s'⟩ := run
    simp only [Option.some.injEq, Prod.mk.injEq] at hrun
    obtain ⟨hmetrics, hmatched, hrefused, hunmatched⟩ := hrun
    obtain ⟨-, hrequests, -, hmatches, hrefusals, hmisses, -⟩ :=
      handleAll_metrics (by rw [hmetrics]) hall
    exact ⟨s, s', outcomes, hs, hall, hrequests, (hmatches "user").trans hmatched,
      (hrefusals "user").trans hrefused, hmisses.trans hunmatched⟩
  · contradiction

end Server

end PathRouter

/-!
Totals of what a server has done. Counters that were never raised are not shown.
-/

namespace PathRouter

/-- Counts by the name of a route, in the order in which the routes first came. -/
abbrev Counter := List (String × Nat)

namespace Counter

def value (c : Counter) (route : String) : Nat := (c.lookup route).getD 0

def raise (route : String) : Counter → Counter
  | [] => [(route, 1)]
  | (name, n) :: rest =>
      if name = route then (name, n + 1) :: rest else (name, n) :: raise route rest

def total (c : Counter) : Nat := (c.map (·.2)).foldr (· + ·) 0

end Counter

structure Metrics where
  requests : Nat := 0
  /-- Requests that were answered by a route. -/
  matched : Counter := []
  /-- Requests whose method the route of their path does not allow. -/
  refused : Counter := []
  /-- Requests whose path has no route. -/
  unmatched : Nat := 0
  /-- How many times the search for a route was timed. -/
  latencySamples : Nat := 0
  registered : Option Nat := none
  deriving DecidableEq, Repr

namespace Metrics

def countRequest (m : Metrics) : Metrics := { m with requests := m.requests + 1 }

def sampleLatency (m : Metrics) : Metrics := { m with latencySamples := m.latencySamples + 1 }

def countMatch (route : String) (m : Metrics) : Metrics :=
  { m with matched := m.matched.raise route }

def countRefusal (route : String) (m : Metrics) : Metrics :=
  { m with refused := m.refused.raise route }

def countMiss (m : Metrics) : Metrics := { m with unmatched := m.unmatched + 1 }

def setRegistered (count : Nat) (m : Metrics) : Metrics := { m with registered := some count }

inductive Kind where
  | counter
  | gauge
  | histogram
  deriving DecidableEq, Repr

def Kind.label : Kind → String
  | .counter => "counter"
  | .gauge => "gauge"
  | .histogram => "histogram"

/-- A total as it is published. -/
structure Series where
  name : String
  kind : Kind
  help : String

def requestsSeries : Series :=
  ⟨"waymark_requests_total", .counter, "Total number of requests dispatched"⟩

def matchedSeries : Series :=
  ⟨"waymark_matches_total", .counter, "Requests that matched a route, by route name"⟩

def unmatchedSeries : Series :=
  ⟨"waymark_unmatched_total", .counter, "Requests whose path matched no route"⟩

def refusedSeries : Series :=
  ⟨"waymark_method_not_allowed_total", .counter,
    "Requests that matched a route with a disallowed method"⟩

def registeredSeries : Series :=
  ⟨"waymark_routes_registered", .gauge, "Number of registered routes"⟩

def latencySeries : Series :=
  ⟨"waymark_match_latency_seconds", .histogram, "Path lookup latency in seconds"⟩

def allSeries : List Series :=
  [requestsSeries, matchedSeries, unmatchedSeries, refusedSeries, registeredSeries, latencySeries]

/-- A value of a series, for one route if the series tells routes apart. -/
structure Sample where
  series : Series
  route : Option String
  value : Nat

/-- The nearest number with no more than `places` binary digits before zeros; of two that are as
near, the one whose last digit is even. -/
def nearest (places n : Nat) : Nat :=
  let unit := 1 <<< (Nat.log2 n + 1 - places)
  let low := n / unit
  let twice := 2 * (n % unit)
  if unit < twice || (unit = twice && low % 2 = 1) then (low + 1) * unit else low * unit

/-- A gauge is published as a floating-point number, which has 53 binary digits. -/
def gauged (series : Series) (n : Nat) : Sample := ⟨series, none, nearest 53 n⟩

def counted (series : Series) (n : Nat) : List Sample :=
  if n = 0 then [] else [⟨series, none, n⟩]

def byRoute (series : Series) (c : Counter) : List Sample :=
  c.map fun (route, n) => ⟨series, some route, n⟩

/-- All values there are to show. -/
def samples (m : Metrics) : List Sample :=
  counted requestsSeries m.requests ++ byRoute matchedSeries m.matched ++
    counted unmatchedSeries m.unmatched ++ byRoute refusedSeries m.refused ++
    m.registered.toList.map (gauged registeredSeries) ++
    counted latencySeries m.latencySamples

end Metrics

end PathRouter

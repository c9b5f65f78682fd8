import PathRouter.Path
import PathRouter.Segment
import PathRouter.SmallMap

/-!
The trie that paths are looked up in. A node stands for the parts that lead to it. Up to three
routes end at a node: one whose path ends there, one whose path ends in a slash there, and one
whose last wildcard takes all that is left. Below it, each literal part has a node of its own and
all wildcards for one part share one.
-/

namespace PathRouter

/-- The index of a route in the table of routes. -/
abbrev RouteId := Nat

structure Trie where
  exact : Option RouteId
  slash : Option RouteId
  rest : Option RouteId
  children : SmallMap Trie
  wild : Option Trie

namespace Trie

def empty : Trie := ⟨none, none, none, .empty, none⟩

instance : Inhabited Trie := ⟨empty⟩

/-- Puts a route into a slot, or tells which route holds the slot. -/
def occupy (slot : Option RouteId) (id : RouteId) : Option RouteId × Option RouteId :=
  match slot with
  | some holder => (some holder, slot)
  | none => (none, some id)

/-- Stores a route where the segments lead. If another route is there already it stays, and it is
returned beside the trie. Nodes that were missing on the way are there afterwards in any case.
Segments after one that takes the end of a path are not looked at. -/
def insert (id : RouteId) : List Segment → Trie → Option RouteId × Trie
  | [], t =>
      let (holder, slot) := occupy t.exact id
      (holder, { t with exact := slot })
  | .slash :: _, t =>
      let (holder, slot) := occupy t.slash id
      (holder, { t with slash := slot })
  | .multi _ :: _, t =>
      let (holder, slot) := occupy t.rest id
      (holder, { t with rest := slot })
  | .literal text :: later, t =>
      let (child, children) := t.children.getOrInsert text empty
      let (holder, child) := insert id later child
      (holder, { t with children := children.put text child })
  | .single _ :: later, t =>
      let (holder, child) := insert id later (t.wild.getD empty)
      (holder, { t with wild := some child })

/-- A search looks for a route. It works on the values captured so far, to which it adds those of
the route that it finds. -/
abbrev Search := Array String → Option RouteId × Array String

namespace Search

/-- Finds what is there already and captures nothing. -/
def yield (found : Option RouteId) : Search := fun captures => (found, captures)

/-- Searches a place if there is one. -/
def within (place : Option Trie) (search : Trie → Search) : Search :=
  match place with
  | some t => search t
  | none => yield none

/-- The second search runs where the first one finds nothing. -/
def orElse (first second : Search) : Search := fun captures =>
  match first captures with
  | (some id, captures) => (some id, captures)
  | (none, captures) => second captures

/-- Captures a value before the search, and drops it where the search finds nothing. -/
def capturing (value : String) (search : Search) : Search := fun captures =>
  match search (captures.push value) with
  | (some id, captures) => (some id, captures)
  | (none, captures) => (none, captures.pop)

end Search

/-- Searches for the parts that are left of a path. The end of the path comes first, then a
literal, then a wildcard for one part, then one for all that is left. -/
def search (t : Trie) : List String → Search
  | [] => Search.yield t.exact
  | part :: later =>
      (Search.yield (if part = "" ∧ later = [] then t.slash else none)).orElse <|
      (Search.within (t.children.get? part) fun child => child.search later).orElse <|
      (Search.within (if part = "" then none else t.wild) fun child =>
        (child.search later).capturing part).orElse <|
      (Search.yield t.rest).capturing (Path.join (part :: later))

/-- Searches for a path; one that is neither empty nor rooted matches nothing. -/
def find (t : Trie) (path : String) : Search :=
  match Path.parts? path with
  | some parts => t.search parts
  | none => Search.yield none

/-- The nodes right below this one. -/
def subtries (t : Trie) : List Trie := t.children.values ++ t.wild.toList

theorem sizeOf_lt_of_mem_subtries {t child : Trie} (h : child ∈ t.subtries) :
    sizeOf child < sizeOf t := by
  obtain ⟨exact, slash, rest, children, wild⟩ := t
  simp only [subtries, List.mem_append, Option.mem_toList] at h
  simp only [Trie.mk.sizeOf_spec]
  rcases h with h | h
  · have := SmallMap.sizeOf_lt_of_mem_values h
    omega
  · subst h
    simp only [Option.some.sizeOf_spec]
    omega

/-- The routes that end at this node. -/
def here (t : Trie) : List RouteId := t.exact.toList ++ t.slash.toList ++ t.rest.toList

/-- How many routes end at this node or below it. -/
def size (t : Trie) : Nat :=
  t.here.length + (t.subtries.attach.map fun ⟨child, _⟩ => child.size).foldr (· + ·) 0
termination_by t
decreasing_by exact sizeOf_lt_of_mem_subtries ‹_›

def isEmpty (t : Trie) : Bool := t.size == 0

/-- How many nodes there are, with this one. -/
def nodeCount (t : Trie) : Nat :=
  1 + (t.subtries.attach.map fun ⟨child, _⟩ => child.nodeCount).foldr (· + ·) 0
termination_by t
decreasing_by exact sizeOf_lt_of_mem_subtries ‹_›

/-- The length of the longest way down from this node. -/
def depth (t : Trie) : Nat :=
  (t.subtries.attach.map fun ⟨child, _⟩ => child.depth + 1).foldr max 0
termination_by t
decreasing_by exact sizeOf_lt_of_mem_subtries ‹_›

theorem size_eq (t : Trie) : t.size = t.here.length + (t.subtries.map size).foldr (· + ·) 0 := by
  rw [size, List.attach_map_val (f := size)]

end Trie

end PathRouter

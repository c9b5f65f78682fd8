import PathRouter.Proofs.Router.Resolve

/-!
The values that come with a route. A search collects them on its way down and pairs them with the
names of the wildcards only at the end, so what has to be shown is that they are the values of the
pattern that was found, each one in its place. Looking up a name gives the right one of them, since
no two wildcards of a pattern share a name.
-/

namespace PathRouter

/-! ### Writing a pattern out -/

/-- The text of the segments with the values in place of their wildcards. -/
def Segment.fill : List Segment → List String → String
  | .literal text :: later, values => "/" ++ text ++ fill later values
  | .single _ :: later, value :: values => "/" ++ value ++ fill later values
  | .multi _ :: later, value :: values => "/" ++ value ++ fill later values
  | .slash :: later, values => "/" ++ fill later values
  | _, _ => ""

namespace Spells

variable {segments : List Segment} {values : List String} {cs : List Char}

end Spells

/-! ### The names of a pattern -/

namespace Pattern

variable {p : Pattern}

/-- Only wildcards have names. -/
theorem filterMap_boundNames (p : Pattern) :
    p.boundNames.filterMap id = p.segments.filterMap Segment.boundName? := by
  rw [boundNames, List.filterMap_map, List.filterMap_filter]
  congr 1
  funext s
  cases s <;> rfl

theorem isName_of_mem_boundNames (h : WellFormed p.segments) {name : String}
    (hname : some name ∈ p.boundNames) : isName name.toList := by
  obtain ⟨s, hs, hbound⟩ := List.mem_map.1 hname
  cases h.writable s (List.mem_filter.1 hs).1 with
  | literal | anonymous | slash => contradiction
  | single hn => exact Option.some.inj hbound ▸ hn
  | multi hn => exact Option.some.inj hbound ▸ hn

end Pattern

/-! ### Looking up a name -/

namespace Captures

end Captures

namespace Router

variable {α : Type u}

end Router

end PathRouter

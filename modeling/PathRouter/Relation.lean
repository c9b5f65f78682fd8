import PathRouter.Pattern.Basic

/-!
How the path sets of two patterns compare. The segments are walked side by side. Where a wildcard
stands opposite a literal, its side admits paths that the other does not; if that happens on both
sides, neither set contains the other.
-/

namespace PathRouter

inductive Relation where
  /-- Both match the same paths. -/
  | equivalent
  /-- The first matches all paths of the second and more. -/
  | moreGeneral
  /-- The first matches some paths of the second and no others. -/
  | moreSpecific
  /-- They share paths, and each matches a path that the other does not. -/
  | overlapping
  /-- They share no path. -/
  | disjoint
  deriving DecidableEq, Repr

namespace Relation

/-- The relation seen from the second pattern. -/
def swap : Relation → Relation
  | .equivalent => .equivalent
  | .moreGeneral => .moreSpecific
  | .moreSpecific => .moreGeneral
  | .overlapping => .overlapping
  | .disjoint => .disjoint

@[simp] theorem swap_swap (r : Relation) : r.swap.swap = r := by
  cases r <;> rfl

/-- Two patterns in this relation share a path, and neither is to be preferred on it. -/
def isAmbiguous : Relation → Bool
  | .equivalent | .overlapping => true
  | .moreGeneral | .moreSpecific | .disjoint => false

def label : Relation → String
  | .equivalent => "equivalent"
  | .moreGeneral => "more general"
  | .moreSpecific => "more specific"
  | .overlapping => "overlapping"
  | .disjoint => "disjoint"

/-- The relation of two patterns from what each has beyond the other. -/
def ofSurplus (first second : Bool) : Relation :=
  match first, second with
  | false, false => .equivalent
  | true, false => .moreGeneral
  | false, true => .moreSpecific
  | true, true => .overlapping

/-- Compares what is left of two patterns; `first` and `second` tell whether that side has had a
wildcard opposite a literal. -/
def between (first second : Bool) : List Segment → List Segment → Relation
  | [], [] => ofSurplus first second
  | .multi _ :: _, .multi _ :: _ => ofSurplus first second
  | .multi _ :: _, _ :: _ => ofSurplus true second
  | _ :: _, .multi _ :: _ => ofSurplus first true
  | .slash :: ss, .slash :: ts => between first second ss ts
  | .single _ :: ss, .single _ :: ts => between first second ss ts
  | .single _ :: ss, .literal _ :: ts => between true second ss ts
  | .literal _ :: ss, .single _ :: ts => between first true ss ts
  | .literal s :: ss, .literal t :: ts => if s = t then between first second ss ts else .disjoint
  | _, _ => .disjoint

theorem ofSurplus_swap (first second : Bool) :
    ofSurplus second first = (ofSurplus first second).swap := by
  cases first <;> cases second <;> rfl

theorem between_nil_left (first second : Bool) (t : Segment) (ts : List Segment) :
    between first second [] (t :: ts) = .disjoint := by
  cases t <;> rfl

theorem between_nil_right (first second : Bool) (s : Segment) (ss : List Segment) :
    between first second (s :: ss) [] = .disjoint := by
  cases s <;> rfl

theorem between_literals (first second : Bool) (x y : String) (ss ts : List Segment) :
    between first second (.literal x :: ss) (.literal y :: ts) =
      if x = y then between first second ss ts else .disjoint := rfl

/-- Comparing the other way round gives the same relation seen from the other side. -/
theorem between_swap (first second : Bool) (ss ts : List Segment) :
    between second first ts ss = (between first second ss ts).swap := by
  induction ss generalizing first second ts with
  | nil =>
      cases ts with
      | nil => exact ofSurplus_swap first second
      | cons t ts => rw [between_nil_left, between_nil_right, swap]
  | cons s ss ih =>
      cases ts with
      | nil => rw [between_nil_left, between_nil_right, swap]
      | cons t ts =>
          cases s with
          | multi => cases t <;> exact ofSurplus_swap _ _
          | slash => cases t with
            | multi => exact ofSurplus_swap _ _
            | slash => exact ih _ _ ts
            | literal | single => rfl
          | single => cases t with
            | multi => exact ofSurplus_swap _ _
            | literal | single => exact ih _ _ ts
            | slash => rfl
          | literal x => cases t with
            | multi => exact ofSurplus_swap _ _
            | single => exact ih _ _ ts
            | slash => rfl
            | literal y =>
                rw [between_literals, between_literals]
                by_cases h : x = y
                · rw [if_pos h, if_pos h.symm]
                  exact ih _ _ ts
                · rw [if_neg h, if_neg (Ne.symm h)]
                  rfl

end Relation

def Pattern.relation (p q : Pattern) : Relation :=
  Relation.between false false p.segments q.segments

end PathRouter

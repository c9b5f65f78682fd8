import PathRouter.Path
import PathRouter.Segment

/-!
Keys: what matters of a list of segments where paths are looked up. The names of the wildcards do
not, nor does anything after the first segment that takes the end of a path. A key fits the parts of
a path in one way at most, which gives a value to each of its wildcards.
-/

namespace PathRouter

inductive Key where
  /-- The path ends here. -/
  | exact
  /-- The path ends after one more slash. -/
  | slash
  /-- All that is left of the path, with the slash before it. -/
  | rest
  | literal (text : String) (later : Key)
  | single (later : Key)
  deriving DecidableEq, Repr

namespace Key

def ofSegments : List Segment → Key
  | [] => .exact
  | .slash :: _ => .slash
  | .multi _ :: _ => .rest
  | .literal text :: later => .literal text (ofSegments later)
  | .single _ :: later => .single (ofSegments later)

/-- The values that the wildcards take from the parts of a path, if the key fits them. -/
def values? : Key → List String → Option (List String)
  | .exact, [] => some []
  | .slash, [part] => if part = "" then some [] else none
  | .rest, part :: later => some [Path.join (part :: later)]
  | .literal text k, part :: later => if part = text then k.values? later else none
  | .single k, part :: later =>
      if part = "" then none else (k.values? later).map (part :: ·)
  | _, _ => none

def Fits (k : Key) (parts : List String) : Prop := ∃ values, k.values? parts = some values

@[simp] theorem values?_exact_iff {parts values : List String} :
    exact.values? parts = some values ↔ parts = [] ∧ values = [] := by
  cases parts <;> simp [values?, eq_comm]

@[simp] theorem values?_slash_iff {parts values : List String} :
    slash.values? parts = some values ↔ parts = [""] ∧ values = [] := by
  match parts with
  | [] => simp [values?]
  | [part] => simp [values?, eq_comm]
  | _ :: _ :: _ => simp [values?]

@[simp] theorem values?_rest_iff {parts values : List String} :
    rest.values? parts = some values ↔ parts ≠ [] ∧ values = [Path.join parts] := by
  cases parts <;> simp [values?, eq_comm]

@[simp] theorem values?_nil_literal {text : String} {k : Key} :
    (literal text k).values? [] = none := rfl

@[simp] theorem values?_nil_single {k : Key} : (single k).values? [] = none := rfl

@[simp] theorem values?_literal_iff {text part : String} {k : Key} {later values : List String} :
    (literal text k).values? (part :: later) = some values ↔
      part = text ∧ k.values? later = some values := by
  simp [values?]

@[simp] theorem values?_single_iff {part : String} {k : Key} {later values : List String} :
    (single k).values? (part :: later) = some values ↔
      part ≠ "" ∧ ∃ more, k.values? later = some more ∧ part :: more = values := by
  by_cases h : part = ""
  · simp [values?, h]
  · simp [values?, h]

@[simp] theorem fits_exact {parts : List String} : exact.Fits parts ↔ parts = [] := by
  simp [Fits]

@[simp] theorem fits_slash {parts : List String} : slash.Fits parts ↔ parts = [""] := by
  simp [Fits]

@[simp] theorem fits_rest {parts : List String} : rest.Fits parts ↔ parts ≠ [] := by
  simp [Fits]

@[simp] theorem not_fits_nil_literal {text : String} {k : Key} : ¬ (literal text k).Fits [] := by
  simp [Fits]

@[simp] theorem not_fits_nil_single {k : Key} : ¬ (single k).Fits [] := by
  simp [Fits]

@[simp] theorem fits_literal {text part : String} {k : Key} {later : List String} :
    (literal text k).Fits (part :: later) ↔ part = text ∧ k.Fits later := by
  simp [Fits]

@[simp] theorem fits_single {part : String} {k : Key} {later : List String} :
    (single k).Fits (part :: later) ↔ part ≠ "" ∧ k.Fits later := by
  simp only [Fits, values?_single_iff]
  constructor
  · rintro ⟨_, hpart, more, hmore, -⟩
    exact ⟨hpart, more, hmore⟩
  · rintro ⟨hpart, more, hmore⟩
    exact ⟨part :: more, hpart, more, hmore, rfl⟩

theorem exists_of_fits_literal {text : String} {k : Key} {parts : List String}
    (h : (literal text k).Fits parts) : ∃ later, parts = text :: later ∧ k.Fits later := by
  cases parts with
  | nil => exact absurd h not_fits_nil_literal
  | cons part later =>
      obtain ⟨rfl, hlater⟩ := fits_literal.1 h
      exact ⟨later, rfl, hlater⟩

theorem exists_of_fits_single {k : Key} {parts : List String} (h : (single k).Fits parts) :
    ∃ part later, parts = part :: later ∧ part ≠ "" ∧ k.Fits later := by
  cases parts with
  | nil => exact absurd h not_fits_nil_single
  | cons part later => exact ⟨part, later, rfl, fits_single.1 h⟩

/-! ### The order in which keys are tried -/

/-- At the first place where the keys differ, the first of them is tried first: an end of the path
before a literal, a literal before a wildcard for one part, and that before a wildcard for all that
is left. -/
inductive Before : Key → Key → Prop where
  | slashLiteral (text : String) (k : Key) : Before .slash (.literal text k)
  | slashSingle (k : Key) : Before .slash (.single k)
  | slashRest : Before .slash .rest
  | literalSingle (text : String) (k k' : Key) : Before (.literal text k) (.single k')
  | literalRest (text : String) (k : Key) : Before (.literal text k) .rest
  | singleRest (k : Key) : Before (.single k) .rest
  | literal (text : String) {k k' : Key} (h : Before k k') :
      Before (.literal text k) (.literal text k')
  | single {k k' : Key} (h : Before k k') : Before (.single k) (.single k')

theorem Before.ne {k k' : Key} (h : k.Before k') : k ≠ k' := by
  induction h with
  | literal text _ ih => exact fun heq => ih (Key.literal.inj heq).2
  | single _ ih => exact fun heq => ih (Key.single.inj heq)
  | slashLiteral | slashSingle | slashRest | literalSingle | literalRest | singleRest =>
      exact Key.noConfusion

theorem Before.asymm {k k' : Key} (h : k.Before k') : ¬ k'.Before k := by
  induction h with
  | literal text _ ih =>
      rintro (_ | _ | _ | _ | _ | _ | ⟨_, h⟩)
      exact ih h
  | single _ ih =>
      rintro (_ | _ | _ | _ | _ | _ | _ | h)
      exact ih h
  | slashLiteral | slashSingle | slashRest | literalSingle | literalRest | singleRest =>
      exact fun h => nomatch h

end Key

end PathRouter

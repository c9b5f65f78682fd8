import Mathlib
import PathRouter.Proofs.Pattern.PathSet
import PathRouter.Relation

/-!
The relation of two patterns is that of their path sets. A comparison that does not end in
`disjoint` finds for either side whether it has something beyond the other. Where a side has
nothing, its paths are all paths of the other side; where it has something, a sample path shows it.
-/

namespace PathRouter

namespace Relation

/-- What a relation says of two sets of paths. -/
def Holds (r : Relation) (first second : Set String) : Prop :=
  match r with
  | .equivalent => first = second
  | .moreGeneral => second ⊂ first
  | .moreSpecific => first ⊂ second
  | .overlapping => (∃ path, path ∈ first ∧ path ∈ second) ∧ ¬ first ⊆ second ∧ ¬ second ⊆ first
  | .disjoint => ∀ path, ¬ (path ∈ first ∧ path ∈ second)

/-- Sets that have members are related in one way only. -/
theorem Holds.unique {first second : Set String} (hfirst : first.Nonempty)
    (hsecond : second.Nonempty) {r r' : Relation} (h : r.Holds first second)
    (h' : r'.Holds first second) : r = r' := by
  obtain ⟨x, hx⟩ := hfirst
  obtain ⟨y, hy⟩ := hsecond
  have hfirst_subset (hsub : first ⊆ second) : ∃ path, path ∈ first ∧ path ∈ second :=
    ⟨x, hx, hsub hx⟩
  have hsecond_subset (hsub : second ⊆ first) : ∃ path, path ∈ first ∧ path ∈ second :=
    ⟨y, hsub hy, hy⟩
  cases r <;> cases r' <;>
    simp only [Holds, ssubset_iff_subset_not_subset, Set.Subset.antisymm_iff] at h h' <;>
    grind

/-- What either side of a comparison has beyond the other. Nothing is said of sides that share no
path. -/
inductive Surplus : List Segment → List Segment → Bool → Bool → Prop where
  | nil : Surplus [] [] false false
  | multis {m n : Option String} {ss ts : List Segment} :
      Surplus (.multi m :: ss) (.multi n :: ts) false false
  | multiLeft {m : Option String} {t : Segment} {ss ts : List Segment} (ht : t.takesRest = false) :
      Surplus (.multi m :: ss) (t :: ts) true false
  | multiRight {n : Option String} {s : Segment} {ss ts : List Segment}
      (hs : s.takesRest = false) : Surplus (s :: ss) (.multi n :: ts) false true
  | slashes {ss ts : List Segment} {a b : Bool} (h : Surplus ss ts a b) :
      Surplus (.slash :: ss) (.slash :: ts) a b
  | singles {m n : String} {ss ts : List Segment} {a b : Bool} (h : Surplus ss ts a b) :
      Surplus (.single m :: ss) (.single n :: ts) a b
  | singleLiteral {name text : String} {ss ts : List Segment} {a b : Bool}
      (h : Surplus ss ts a b) : Surplus (.single name :: ss) (.literal text :: ts) true b
  | literalSingle {text name : String} {ss ts : List Segment} {a b : Bool}
      (h : Surplus ss ts a b) : Surplus (.literal text :: ss) (.single name :: ts) a true
  | literals {text : String} {ss ts : List Segment} {a b : Bool} (h : Surplus ss ts a b) :
      Surplus (.literal text :: ss) (.literal text :: ts) a b

theorem Surplus.swap {ss ts : List Segment} {a b : Bool} (h : Surplus ss ts a b) :
    Surplus ts ss b a := by
  induction h with
  | nil => exact .nil
  | multis => exact .multis
  | multiLeft ht => exact .multiRight ht
  | multiRight hs => exact .multiLeft hs
  | slashes _ ih => exact .slashes ih
  | singles _ ih => exact .singles ih
  | singleLiteral _ ih => exact .literalSingle ih
  | literalSingle _ ih => exact .singleLiteral ih
  | literals _ ih => exact .literals ih

/-- A comparison adds what it finds to what has been found before. -/
theorem Surplus.between_eq {ss ts : List Segment} {a b : Bool} (h : Surplus ss ts a b)
    (first second : Bool) :
    between first second ss ts = ofSurplus (first || a) (second || b) := by
  induction h generalizing first second with
  | nil => simp [between]
  | multis => simp [between]
  | @multiLeft m t _ _ ht => cases t <;> simp_all [between, Segment.takesRest]
  | @multiRight n s _ _ hs => cases s <;> simp_all [between, Segment.takesRest]
  | slashes _ ih => exact ih first second
  | singles _ ih => exact ih first second
  | singleLiteral _ ih => simpa [between] using ih true second
  | literalSingle _ ih => simpa [between] using ih first true
  | literals _ ih => simpa [between] using ih first second

theorem exists_surplus_of_between {ss ts : List Segment} {first second : Bool}
    (h : between first second ss ts ≠ .disjoint) : ∃ a b, Surplus ss ts a b := by
  induction ss generalizing first second ts with
  | nil =>
      cases ts with
      | nil => exact ⟨_, _, .nil⟩
      | cons t ts => exact absurd (between_nil_left ..) h
  | cons s ss ih =>
      cases ts with
      | nil => exact absurd (between_nil_right ..) h
      | cons t ts =>
          cases s with
          | multi m => cases t with
            | multi n => exact ⟨_, _, .multis⟩
            | literal | single | slash => exact ⟨_, _, .multiLeft rfl⟩
          | slash => cases t with
            | multi n => exact ⟨_, _, .multiRight rfl⟩
            | slash =>
                obtain ⟨a, b, hlater⟩ := ih h
                exact ⟨a, b, .slashes hlater⟩
            | literal | single => exact absurd rfl h
          | single m => cases t with
            | multi n => exact ⟨_, _, .multiRight rfl⟩
            | single n =>
                obtain ⟨a, b, hlater⟩ := ih h
                exact ⟨a, b, .singles hlater⟩
            | literal text =>
                obtain ⟨a, b, hlater⟩ := ih h
                exact ⟨true, b, .singleLiteral hlater⟩
            | slash => exact absurd rfl h
          | literal x => cases t with
            | multi n => exact ⟨_, _, .multiRight rfl⟩
            | single n =>
                obtain ⟨a, b, hlater⟩ := ih h
                exact ⟨a, true, .literalSingle hlater⟩
            | slash => exact absurd rfl h
            | literal y =>
                rw [between_literals] at h
                split at h
                · rename_i hxy
                  obtain ⟨a, b, hlater⟩ := ih h
                  exact ⟨a, b, hxy ▸ .literals hlater⟩
                · exact absurd rfl h

/-- A side whose key is tried before that of the other has a literal opposite a wildcard, or an end
opposite a wildcard for all that is left. -/
theorem Surplus.of_before {ss ts : List Segment} {a b : Bool} (h : Surplus ss ts a b)
    (hbefore : (Key.ofSegments ss).Before (Key.ofSegments ts)) : b = true := by
  induction h with
  | nil | multis | slashes => cases hbefore
  | multiLeft => cases hbefore
  | multiRight => rfl
  | singles _ ih =>
      cases hbefore with
      | single hlater => exact ih hlater
  | singleLiteral => cases hbefore
  | literalSingle => rfl
  | literals _ ih =>
      cases hbefore with
      | literal _ hlater => exact ih hlater

@[simp] theorem isAmbiguous_swap (r : Relation) : r.swap.isAmbiguous = r.isAmbiguous := by
  cases r <;> rfl

/-! ### From a common path to a comparison -/

/-- Sides that share a path are compared to the end. -/
theorem exists_surplus_of_fits {ss ts : List Segment} (hs : Tidy ss) (ht : Tidy ts)
    {parts : List String} (hss : (Key.ofSegments ss).Fits parts)
    (hts : (Key.ofSegments ts).Fits parts) : ∃ a b, Surplus ss ts a b := by
  -- The first side says what the next part of the path is like, and by that the second side can
  -- only go on in the ways that have a constructor.
  induction hs generalizing ts parts with
  | nil =>
      obtain rfl := Key.fits_exact.1 hss
      cases ht with
      | nil => exact ⟨_, _, .nil⟩
      | literal => exact absurd hts Key.not_fits_nil_literal
      | single => exact absurd hts Key.not_fits_nil_single
      | multi => exact absurd rfl (Key.fits_rest.1 hts)
      | slash => exact absurd (Key.fits_slash.1 hts) (by simp)
  | literal htext _ ih =>
      obtain ⟨later, rfl, hlater⟩ := Key.exists_of_fits_literal hss
      cases ht with
      | nil => exact absurd (Key.fits_exact.1 hts) (List.cons_ne_nil _ _)
      | literal _ ht =>
          obtain ⟨rfl, hlater'⟩ := Key.fits_literal.1 hts
          obtain ⟨a, b, h⟩ := ih ht hlater hlater'
          exact ⟨a, b, .literals h⟩
      | single _ ht =>
          obtain ⟨a, b, h⟩ := ih ht hlater (Key.fits_single.1 hts).2
          exact ⟨a, true, .literalSingle h⟩
      | multi => exact ⟨_, _, .multiRight rfl⟩
      | slash => exact absurd (List.cons.inj (Key.fits_slash.1 hts)).1 htext.1
  | single _ _ ih =>
      obtain ⟨part, later, rfl, hpart, hlater⟩ := Key.exists_of_fits_single hss
      cases ht with
      | nil => exact absurd (Key.fits_exact.1 hts) (List.cons_ne_nil _ _)
      | literal _ ht =>
          obtain ⟨a, b, h⟩ := ih ht hlater (Key.fits_literal.1 hts).2
          exact ⟨true, b, .singleLiteral h⟩
      | single _ ht =>
          obtain ⟨a, b, h⟩ := ih ht hlater (Key.fits_single.1 hts).2
          exact ⟨a, b, .singles h⟩
      | multi => exact ⟨_, _, .multiRight rfl⟩
      | slash => exact absurd (List.cons.inj (Key.fits_slash.1 hts)).1 hpart
  | multi =>
      cases ht with
      | nil => exact absurd (Key.fits_exact.1 hts) (Key.fits_rest.1 hss)
      | multi => exact ⟨_, _, .multis⟩
      | literal | single | slash => exact ⟨_, _, .multiLeft rfl⟩
  | slash =>
      obtain rfl := Key.fits_slash.1 hss
      cases ht with
      | nil => exact absurd (Key.fits_exact.1 hts) (by simp)
      | literal htext => exact absurd (Key.fits_literal.1 hts).1.symm htext.1
      | single => exact absurd rfl (Key.fits_single.1 hts).1
      | multi => exact ⟨_, _, .multiRight rfl⟩
      | slash => exact ⟨_, _, .slashes .nil⟩

theorem ne_nil_of_fits {s : Segment} {ss : List Segment} {parts : List String}
    (h : (Key.ofSegments (s :: ss)).Fits parts) : parts ≠ [] := by
  rintro rfl
  cases s with
  | literal => exact Key.not_fits_nil_literal h
  | single => exact Key.not_fits_nil_single h
  | multi => exact Key.fits_rest.1 h rfl
  | slash => exact absurd (Key.fits_slash.1 h) (by simp)

/-- A side without surplus has no path but those of the other side. -/
theorem Surplus.fits {ss ts : List Segment} {a b : Bool} (h : Surplus ss ts a b) (hs : Tidy ss)
    (ha : a = false) {parts : List String} (hss : (Key.ofSegments ss).Fits parts) :
    (Key.ofSegments ts).Fits parts := by
  induction h generalizing parts with
  | nil => exact hss
  | multis => exact hss
  | multiLeft => contradiction
  | multiRight => exact Key.fits_rest.2 (ne_nil_of_fits hss)
  | slashes => exact hss
  | singles _ ih =>
      cases hs with | single _ hs =>
      obtain ⟨part, later, rfl, hpart, hlater⟩ := Key.exists_of_fits_single hss
      exact Key.fits_single.2 ⟨hpart, ih hs ha hlater⟩
  | singleLiteral => contradiction
  | literalSingle _ ih =>
      cases hs with | literal htext hs =>
      obtain ⟨later, rfl, hlater⟩ := Key.exists_of_fits_literal hss
      exact Key.fits_single.2 ⟨htext.1, ih hs ha hlater⟩
  | literals _ ih =>
      cases hs with | literal _ hs =>
      obtain ⟨later, rfl, hlater⟩ := Key.exists_of_fits_literal hss
      exact Key.fits_literal.2 ⟨rfl, ih hs ha hlater⟩

/-! ### Sample paths -/

open Segment (samples sample narrower placeholder)
open Pattern (ownSample sharedSample)

/-- The path cuts into parts that the key of the segments fits. -/
def Reaches (segments : List Segment) (path : String) : Prop :=
  ∃ parts, Path.parts? path = some parts ∧ (Key.ofSegments segments).Fits parts

theorem reaches_nil : Reaches [] "" := ⟨[], Path.parts?_empty, Key.fits_exact.2 rfl⟩

theorem reaches_slash : Reaches [.slash] "/" := ⟨[""], rfl, Key.fits_slash.2 rfl⟩

theorem reaches_multi {name : Option String} {value : String} (hv : '/' ∉ value.toList) :
    Reaches [.multi name] ("/" ++ value) :=
  ⟨[value], Path.parts?_slash hv, Key.fits_rest.2 (List.cons_ne_nil _ _)⟩

theorem reaches_multi_empty {name : Option String} : Reaches [.multi name] "/" :=
  ⟨[""], rfl, Key.fits_rest.2 (List.cons_ne_nil _ _)⟩

theorem Reaches.literal {text path : String} {later : List Segment} (ht : IsPart text)
    (h : Reaches later path) : Reaches (.literal text :: later) ("/" ++ text ++ path) := by
  obtain ⟨parts, hparts, hfits⟩ := h
  exact ⟨text :: parts, Path.parts?_slash_append ht.2 hparts, Key.fits_literal.2 ⟨rfl, hfits⟩⟩

theorem Reaches.single {name value path : String} {later : List Segment} (hv : IsPart value)
    (h : Reaches later path) : Reaches (.single name :: later) ("/" ++ value ++ path) := by
  obtain ⟨parts, hparts, hfits⟩ := h
  exact ⟨value :: parts, Path.parts?_slash_append hv.2 hparts, Key.fits_single.2 ⟨hv.1, hfits⟩⟩

@[simp] theorem samples_nil : samples [] = "" := by simp [samples]

@[simp] theorem samples_cons (s : Segment) (later : List Segment) :
    samples (s :: later) = s.sample ++ samples later := by
  simp [samples]

theorem reaches_samples {segments : List Segment} (h : Tidy segments) :
    Reaches segments (samples segments) := by
  induction h with
  | nil => exact samples_nil ▸ reaches_nil
  | literal ht _ ih => exact samples_cons .. ▸ ih.literal ht
  | single hn _ ih => exact samples_cons .. ▸ ih.single hn
  | multi => exact samples_cons .. ▸ samples_nil ▸ reaches_multi_empty
  | slash => exact samples_cons .. ▸ samples_nil ▸ reaches_slash

theorem reaches_literal_iff {text value path : String} {later other : List Segment}
    (hv : '/' ∉ value.toList) (hpath : Reaches other path) :
    Reaches (.literal text :: later) ("/" ++ value ++ path) ↔
      value = text ∧ Reaches later path := by
  obtain ⟨parts, hparts, -⟩ := hpath
  simp only [Reaches, Path.parts?_slash_append hv hparts, hparts, Option.some.injEq,
    exists_eq_left', Key.ofSegments, Key.fits_literal]

theorem reaches_single_iff {name value path : String} {later other : List Segment}
    (hv : '/' ∉ value.toList) (hpath : Reaches other path) :
    Reaches (.single name :: later) ("/" ++ value ++ path) ↔ value ≠ "" ∧ Reaches later path := by
  obtain ⟨parts, hparts, -⟩ := hpath
  simp only [Reaches, Path.parts?_slash_append hv hparts, hparts, Option.some.injEq,
    exists_eq_left', Key.ofSegments, Key.fits_single]

theorem ownSample_nil_right (ss : List Segment) : ownSample ss [] = samples ss := by
  cases ss with
  | nil => rfl
  | cons s ss => cases s <;> rfl

theorem ownSample_nil_left (ts : List Segment) : ownSample [] ts = "" := by
  cases ts with
  | nil => exact samples_nil
  | cons t ts => rfl

/-- What stands for a wildcard opposite a literal: a part that is not the literal. -/
def evasion (name text : String) : String := if name = text then text ++ placeholder else name

theorem isPart_evasion {name text : String} (hn : IsPart name) : IsPart (evasion name text) := by
  unfold evasion
  split
  · rename_i h
    subst h
    refine ⟨fun h => ?_, ?_⟩
    · simpa [placeholder] using congrArg String.toList h
    · simpa [placeholder] using hn.2
  · exact hn

theorem evasion_ne (name text : String) : evasion name text ≠ text := by
  unfold evasion
  split
  · intro h
    simpa [placeholder] using congrArg String.toList h
  · assumption

/-- The own path of a side is one of its paths. -/
theorem reaches_ownSample {ss : List Segment} (hs : Tidy ss) (ts : List Segment) :
    Reaches ss (ownSample ss ts) := by
  induction hs generalizing ts with
  | nil => exact ownSample_nil_left ts ▸ reaches_nil
  | literal htext hs ih =>
      cases ts with
      | nil => exact ownSample_nil_right _ ▸ reaches_samples (hs.literal htext)
      | cons t ts => cases t <;> exact (ih ts).literal htext
  | single hname hs ih =>
      cases ts with
      | nil => exact ownSample_nil_right _ ▸ reaches_samples (hs.single hname)
      | cons t ts =>
          cases t with
          | literal text => exact (ih ts).single (isPart_evasion hname)
          | single | multi | slash => exact (ih ts).single hname
  | multi hname =>
      cases ts with
      | nil => exact ownSample_nil_right _ ▸ reaches_samples (.multi hname)
      | cons t ts =>
          cases t with
          | slash => exact reaches_multi hname.2
          | literal | single | multi => exact reaches_multi_empty
  | slash =>
      cases ts with
      | nil => exact ownSample_nil_right _ ▸ reaches_samples .slash
      | cons t ts =>
          have h : ownSample [.slash] (t :: ts) = "/" ++ ownSample [] ts := by cases t <;> rfl
          rw [h, ownSample_nil_left]
          exact reaches_slash

/-- The own path of a side that has something beyond the other is none of the other's. -/
theorem Surplus.not_reaches_ownSample {ss ts : List Segment} {a b : Bool} (h : Surplus ss ts a b)
    (hs : Tidy ss) (ht : Tidy ts) (ha : a = true) : ¬ Reaches ts (ownSample ss ts) := by
  induction h with
  | nil => contradiction
  | multis => contradiction
  | @multiLeft m t ss ts htake =>
      cases hs with | multi hname =>
      rintro ⟨parts, hparts, hfits⟩
      -- Opposite a slash the path goes on after it; elsewhere it has an empty part there.
      cases t with
      | multi => contradiction
      | slash =>
          cases (Path.parts?_slash hname.2).symm.trans hparts
          exact hname.1 (List.cons.inj (Key.fits_slash.1 hfits)).1
      | literal text =>
          cases (show Path.parts? "/" = some [""] from rfl).symm.trans hparts
          cases ht with | literal htext =>
          exact htext.1 (Key.fits_literal.1 hfits).1.symm
      | single name =>
          cases (show Path.parts? "/" = some [""] from rfl).symm.trans hparts
          exact (Key.fits_single.1 hfits).1 rfl
  | multiRight => contradiction
  | slashes h =>
      -- Nothing is left on either side, so there is no surplus to show.
      cases hs
      cases ht
      cases h
      contradiction
  | @singles m n ss ts a b _ ih =>
      cases hs with | single hname hs =>
      cases ht with | single _ ht =>
      change ¬ Reaches (.single n :: ts) ("/" ++ m ++ ownSample ss ts)
      rw [reaches_single_iff hname.2 (reaches_ownSample hs ts), not_and]
      exact fun _ => ih hs ht ha
  | @singleLiteral name text ss ts a b _ ih =>
      cases hs with | single hname hs =>
      change ¬ Reaches (.literal text :: ts) ("/" ++ evasion name text ++ ownSample ss ts)
      rw [reaches_literal_iff (isPart_evasion hname).2 (reaches_ownSample hs ts), not_and]
      exact fun heq => absurd heq (evasion_ne name text)
  | @literalSingle text name ss ts a b _ ih =>
      cases hs with | literal htext hs =>
      cases ht with | single _ ht =>
      change ¬ Reaches (.single name :: ts) ("/" ++ text ++ ownSample ss ts)
      rw [reaches_single_iff htext.2 (reaches_ownSample hs ts), not_and]
      exact fun _ => ih hs ht ha
  | @literals text ss ts a b _ ih =>
      cases hs with | literal htext hs =>
      cases ht with | literal _ ht =>
      change ¬ Reaches (.literal text :: ts) ("/" ++ text ++ ownSample ss ts)
      rw [reaches_literal_iff htext.2 (reaches_ownSample hs ts), not_and]
      exact fun _ => ih hs ht ha

theorem sharedSample_nil_left (ts : List Segment) : sharedSample [] ts = samples ts := by
  cases ts <;> rfl

theorem sharedSample_nil_right (ss : List Segment) : sharedSample ss [] = samples ss := by
  cases ss <;> rfl

theorem narrower_multi_left {m : Option String} {t : Segment} (ht : t.takesRest = false) :
    narrower (.multi m) t = t := by
  cases t with
  | multi => contradiction
  | literal | single | slash => rfl

theorem Reaches.of_multi {s : Segment} {ss : List Segment} {path : String} {name : Option String}
    (h : Reaches (s :: ss) path) : Reaches [.multi name] path := by
  obtain ⟨parts, hparts, hfits⟩ := h
  exact ⟨parts, hparts, Key.fits_rest.2 (ne_nil_of_fits hfits)⟩

/-- The shared path of two sides that share one is a path of both. -/
theorem Surplus.reaches_sharedSample {ss ts : List Segment} {a b : Bool} (h : Surplus ss ts a b)
    (hs : Tidy ss) (ht : Tidy ts) :
    Reaches ss (sharedSample ss ts) ∧ Reaches ts (sharedSample ss ts) := by
  induction h with
  | nil =>
      rw [sharedSample_nil_left, samples_nil]
      exact ⟨reaches_nil, reaches_nil⟩
  | @multis m n =>
      cases hs
      cases ht
      have hpath : sharedSample [.multi m] [.multi n] = samples [.multi m] := rfl
      rw [hpath, samples_cons, samples_nil]
      exact ⟨reaches_multi_empty, reaches_multi_empty⟩
  | @multiLeft m t ss ts htake =>
      cases hs
      have hpath : sharedSample [.multi m] (t :: ts) = samples (t :: ts) := by
        rw [sharedSample, narrower_multi_left htake, sharedSample_nil_left, samples_cons]
      rw [hpath]
      have hsamples := reaches_samples ht
      exact ⟨hsamples.of_multi, hsamples⟩
  | @multiRight n s ss ts htake =>
      cases ht
      have hpath : sharedSample (s :: ss) [.multi n] = samples (s :: ss) := by
        rw [sharedSample, narrower, sharedSample_nil_right, samples_cons]
      rw [hpath]
      have hsamples := reaches_samples hs
      exact ⟨hsamples, hsamples.of_multi⟩
  | slashes =>
      cases hs
      cases ht
      have hpath : sharedSample [.slash] [.slash] = samples [.slash] := rfl
      rw [hpath, samples_cons, samples_nil]
      exact ⟨reaches_slash, reaches_slash⟩
  | singles _ ih =>
      cases hs with | single _ hs =>
      cases ht with | single hname ht =>
      obtain ⟨hss, hts⟩ := ih hs ht
      exact ⟨hss.single hname, hts.single hname⟩
  | singleLiteral _ ih =>
      cases hs with | single _ hs =>
      cases ht with | literal htext ht =>
      obtain ⟨hss, hts⟩ := ih hs ht
      exact ⟨hss.single htext, hts.literal htext⟩
  | literalSingle _ ih =>
      cases hs with | literal htext hs =>
      cases ht with | single _ ht =>
      obtain ⟨hss, hts⟩ := ih hs ht
      exact ⟨hss.literal htext, hts.single htext⟩
  | literals _ ih =>
      cases hs with | literal htext hs =>
      cases ht with | literal _ ht =>
      obtain ⟨hss, hts⟩ := ih hs ht
      exact ⟨hss.literal htext, hts.literal htext⟩

end Relation

/-! ### Patterns -/

namespace Pattern

open PathRouter.Relation (Surplus Reaches)

theorem mem_paths_iff_reaches {p : Pattern} (h : Tidy p.segments) {path : String} :
    path ∈ p.paths ↔ Reaches p.segments path := matches_iff h

theorem paths_nonempty {p : Pattern} (h : Tidy p.segments) : p.paths.Nonempty :=
  ⟨Segment.samples p.segments, (mem_paths_iff_reaches h).2 (Relation.reaches_samples h)⟩

/-- Patterns that are compared to the end are related by what either has beyond the other. -/
theorem relation_eq_ofSurplus {p q : Pattern} {a b : Bool}
    (h : Surplus p.segments q.segments a b) : p.relation q = Relation.ofSurplus a b := by
  rw [relation, h.between_eq, Bool.false_or, Bool.false_or]

theorem relation_swap (p q : Pattern) : q.relation p = (p.relation q).swap :=
  Relation.between_swap ..

theorem paths_subset_iff {p q : Pattern} (hp : Tidy p.segments) (hq : Tidy q.segments) {a b : Bool}
    (h : Surplus p.segments q.segments a b) : p.paths ⊆ q.paths ↔ a = false := by
  constructor
  · intro hsub
    cases a with
    | false => rfl
    | true =>
        have hown := hsub ((mem_paths_iff_reaches hp).2 (Relation.reaches_ownSample hp q.segments))
        exact absurd ((mem_paths_iff_reaches hq).1 hown) (h.not_reaches_ownSample hp hq rfl)
  · intro ha path hpath
    obtain ⟨parts, hparts, hfits⟩ := (mem_paths_iff_reaches hp).1 hpath
    exact (mem_paths_iff_reaches hq).2 ⟨parts, hparts, h.fits hp ha hfits⟩

/-- The relation that is found is the one of the path sets. -/
theorem relation_holds {p q : Pattern} (hp : Tidy p.segments) (hq : Tidy q.segments) :
    (p.relation q).Holds p.paths q.paths := by
  by_cases h : ∃ a b, Surplus p.segments q.segments a b
  · obtain ⟨a, b, h⟩ := h
    have hpq := paths_subset_iff hp hq h
    have hqp := paths_subset_iff hq hp h.swap
    rw [relation_eq_ofSurplus h]
    cases a <;> cases b
    · exact Set.Subset.antisymm (hpq.2 rfl) (hqp.2 rfl)
    · exact ⟨hpq.2 rfl, mt hqp.1 (by simp)⟩
    · exact ⟨hqp.2 rfl, mt hpq.1 (by simp)⟩
    · obtain ⟨hshared_p, hshared_q⟩ := h.reaches_sharedSample hp hq
      exact ⟨⟨_, (mem_paths_iff_reaches hp).2 hshared_p, (mem_paths_iff_reaches hq).2 hshared_q⟩,
        mt hpq.1 (by simp), mt hqp.1 (by simp)⟩
  · have hdisjoint : p.relation q = .disjoint :=
      Classical.byContradiction fun hne => h (Relation.exists_surplus_of_between hne)
    rw [hdisjoint]
    rintro path ⟨hpath_p, hpath_q⟩
    obtain ⟨parts, hparts, hfits_p⟩ := (mem_paths_iff_reaches hp).1 hpath_p
    exact h (Relation.exists_surplus_of_fits hp hq hfits_p
      ((matches_iff_fits hq hparts).1 hpath_q))

/-- The keys of patterns decide which paths they match, so patterns of one key are equivalent. -/
theorem relation_eq_equivalent {p q : Pattern} (hp : Tidy p.segments) (hq : Tidy q.segments)
    (h : p.key = q.key) : p.relation q = .equivalent := by
  have hpaths : p.paths = q.paths := by
    ext path
    rw [mem_paths, mem_paths, matches_iff hp, matches_iff hq, h]
  exact (relation_holds hp hq).unique (paths_nonempty hp) (paths_nonempty hq) hpaths

/-- Where two patterns can be told apart and match one path, the one whose key is tried first is the
more specific one. -/
theorem paths_ssubset_of_before {p q : Pattern} (hp : Tidy p.segments) (hq : Tidy q.segments)
    (hclear : (p.relation q).isAmbiguous = false) (hbefore : p.key.Before q.key) {path : String}
    (hpath_p : p.Matches path) (hpath_q : q.Matches path) : p.paths ⊂ q.paths := by
  obtain ⟨parts, hparts, hfits_p⟩ := (matches_iff hp).1 hpath_p
  obtain ⟨a, b, h⟩ :=
    Relation.exists_surplus_of_fits hp hq hfits_p ((matches_iff_fits hq hparts).1 hpath_q)
  obtain rfl := h.of_before hbefore
  have hholds := relation_holds hp hq
  rw [relation_eq_ofSurplus h] at hclear hholds
  cases a with
  | false => exact hholds
  | true => contradiction

/-- Of two patterns that were read, the comparison tells the relation of their path sets, whichever
it is. -/
theorem relation_eq_iff_holds {s t : String} {p q : Pattern} (hp : parse s = .ok p)
    (hq : parse t = .ok q) (r : Relation) : p.relation q = r ↔ r.Holds p.paths q.paths := by
  have htp := (wellFormed_of_parse hp).tidy
  have htq := (wellFormed_of_parse hq).tidy
  constructor
  · rintro rfl
    exact relation_holds htp htq
  · exact (relation_holds htp htq).unique (paths_nonempty htp) (paths_nonempty htq)

/-- Each of the two wildcards for one part stands opposite a literal, one of them before the
wildcard for all that is left. -/
theorem relation_eq_iff_holds_crossing :
    ∃ p q, parse "/\x7bx\x7d/b/\x7bz...\x7d" = .ok p ∧ parse "/a/\x7by...\x7d" = .ok q ∧
      p.relation q = .overlapping ∧ Relation.overlapping.Holds p.paths q.paths := by
  have hp : parse "/\x7bx\x7d/b/\x7bz...\x7d" =
      .ok ⟨[.single "x", .literal "b", .multi (some "z")], none⟩ := rfl
  have hq : parse "/a/\x7by...\x7d" = .ok ⟨[.literal "a", .multi (some "y")], none⟩ := rfl
  exact ⟨_, _, hp, hq, rfl, (relation_eq_iff_holds hp hq .overlapping).1 rfl⟩

end Pattern

end PathRouter

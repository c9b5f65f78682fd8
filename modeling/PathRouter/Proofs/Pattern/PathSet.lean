import Mathlib.Data.Set.Basic
import PathRouter.Pattern.PathSet
import PathRouter.Proofs.Key
import PathRouter.Proofs.Pattern.Grammar
import PathRouter.Relation.Witness

/-!
The paths of a pattern through its key. A pattern that was read matches a path with some values
exactly if its key fits the parts of the path and takes these values from them.
-/

namespace PathRouter

/-! ### Spelling, one segment at a time -/

theorem spells_nil_iff {values : List String} {cs : List Char} :
    Spells [] values cs ↔ values = [] ∧ cs = [] := by
  constructor
  · rintro ⟨⟩
    exact ⟨rfl, rfl⟩
  · rintro ⟨rfl, rfl⟩
    exact .nil

theorem spells_literal_iff {text : String} {later : List Segment} {values : List String}
    {cs : List Char} :
    Spells (.literal text :: later) values cs ↔
      ∃ tail, cs = '/' :: text.toList ++ tail ∧ Spells later values tail := by
  constructor
  · rintro ⟨⟩
    exact ⟨_, rfl, ‹_›⟩
  · rintro ⟨tail, rfl, h⟩
    exact .literal text h

theorem spells_single_iff {name : String} {later : List Segment} {values : List String}
    {cs : List Char} :
    Spells (.single name :: later) values cs ↔
      ∃ value more tail, IsPart value ∧ values = value :: more ∧
        cs = '/' :: value.toList ++ tail ∧ Spells later more tail := by
  constructor
  · rintro ⟨⟩
    exact ⟨_, _, _, ‹_›, rfl, rfl, ‹_›⟩
  · rintro ⟨value, more, tail, hv, rfl, rfl, h⟩
    exact .single name value hv h

/-- The last wildcard may take any text. -/
theorem spells_multi_iff {name : Option String} {values : List String} {cs : List Char} :
    Spells [.multi name] values cs ↔ ∃ value, values = [value] ∧ cs = '/' :: value.toList := by
  constructor
  · rintro ⟨⟩
    obtain ⟨rfl, rfl⟩ := spells_nil_iff.1 ‹_›
    exact ⟨_, rfl, by simp⟩
  · rintro ⟨value, rfl, rfl⟩
    simpa using Spells.multi name value .nil

theorem spells_slash_iff {values : List String} {cs : List Char} :
    Spells [.slash] values cs ↔ values = [] ∧ cs = ['/'] := by
  constructor
  · rintro ⟨⟩
    obtain ⟨rfl, rfl⟩ := spells_nil_iff.1 ‹_›
    exact ⟨rfl, rfl⟩
  · rintro ⟨rfl, rfl⟩
    exact .slash .nil

/-! ### Segments that stand together in a pattern -/

/-- What matching depends on in segments that were read: literals are parts, so are the names of
wildcards, which stand in sample paths, and nothing follows a segment that takes the end of a
path. -/
inductive Tidy : List Segment → Prop where
  | nil : Tidy []
  | literal {text : String} {later : List Segment} (ht : IsPart text) (h : Tidy later) :
      Tidy (.literal text :: later)
  | single {name : String} {later : List Segment} (hn : IsPart name) (h : Tidy later) :
      Tidy (.single name :: later)
  | multi {name : Option String} (hn : IsPart (name.getD Segment.placeholder)) :
      Tidy [.multi name]
  | slash : Tidy [.slash]

theorem isPart_of_isName {name : String} (h : isName name.toList) : IsPart name := by
  refine ⟨?_, Segment.delimiter_not_mem h (by decide)⟩
  rintro rfl
  exact Bool.false_ne_true h

theorem isPart_placeholder : IsPart Segment.placeholder := ⟨by decide, by decide⟩

theorem tidy_of_isWritable {segments : List Segment} (hwrite : ∀ s ∈ segments, s.IsWritable)
    (hlast : ∀ s ∈ segments.dropLast, ¬ s.IsFinal) : Tidy segments := by
  induction segments with
  | nil => exact .nil
  | cons s later ih =>
      obtain ⟨hend, hlater⟩ := Pattern.finalLast_cons_iff.1 hlast
      have htidy : Tidy later := ih (fun t ht => hwrite t (List.mem_cons_of_mem _ ht)) hlater
      cases hwrite s List.mem_cons_self with
      | literal nonempty free plain => exact .literal ⟨nonempty, free⟩ htidy
      | single hn => exact .single (isPart_of_isName hn) htidy
      | multi hn => exact hend trivial ▸ .multi (isPart_of_isName hn)
      | anonymous => exact hend trivial ▸ .multi isPart_placeholder
      | slash => exact hend trivial ▸ .slash

theorem Pattern.WellFormed.tidy {segments : List Segment} (h : WellFormed segments) :
    Tidy segments :=
  tidy_of_isWritable h.writable h.finalLast

/-! ### Spelling and keys -/

/-- A text that tidy segments spell is rooted, and their key takes the same values from its
parts. -/
theorem spells_iff {segments : List Segment} (h : Tidy segments) {values : List String}
    {cs : List Char} :
    Spells segments values cs ↔
      ∃ parts, cs = Path.rooted (parts.map String.toList) ∧ (∀ part ∈ parts, '/' ∉ part.toList) ∧
        (Key.ofSegments segments).values? parts = some values := by
  induction h generalizing values cs with
  | nil =>
      rw [spells_nil_iff]
      constructor
      · rintro ⟨rfl, rfl⟩
        exact ⟨[], rfl, by simp, rfl⟩
      · rintro ⟨parts, rfl, -, hv⟩
        obtain ⟨rfl, rfl⟩ := Key.values?_exact_iff.1 hv
        exact ⟨rfl, rfl⟩
  | @literal text later ht _ ih =>
      rw [spells_literal_iff]
      constructor
      · rintro ⟨tail, rfl, htail⟩
        obtain ⟨parts, rfl, hfree, hv⟩ := ih.1 htail
        exact ⟨text :: parts, by simp, by simpa using ⟨ht.2, hfree⟩,
          Key.values?_literal_iff.2 ⟨rfl, hv⟩⟩
      · rintro ⟨parts, rfl, hfree, hv⟩
        cases parts with
        | nil => simp [Key.ofSegments] at hv
        | cons part more =>
            obtain ⟨rfl, hmore⟩ := Key.values?_literal_iff.1 hv
            have hfree' := fun q hq => hfree q (List.mem_cons_of_mem _ hq)
            exact ⟨_, rfl, ih.2 ⟨more, rfl, hfree', hmore⟩⟩
  | single _ _ ih =>
      rw [spells_single_iff]
      constructor
      · rintro ⟨value, more, tail, hvalue, rfl, rfl, htail⟩
        obtain ⟨parts, rfl, hfree, hv⟩ := ih.1 htail
        exact ⟨value :: parts, by simp, by simpa using ⟨hvalue.2, hfree⟩,
          Key.values?_single_iff.2 ⟨hvalue.1, more, hv, rfl⟩⟩
      · rintro ⟨parts, rfl, hfree, hv⟩
        cases parts with
        | nil => simp [Key.ofSegments] at hv
        | cons part later =>
            obtain ⟨hpart, more, hmore, rfl⟩ := Key.values?_single_iff.1 hv
            have hfree' := fun q hq => hfree q (List.mem_cons_of_mem _ hq)
            exact ⟨part, more, _, ⟨hpart, hfree part List.mem_cons_self⟩, rfl, rfl,
              ih.2 ⟨later, rfl, hfree', hmore⟩⟩
  | multi =>
      rw [spells_multi_iff]
      constructor
      · rintro ⟨value, rfl, rfl⟩
        obtain ⟨parts, hne, rfl, hfree⟩ := Path.exists_join_eq value
        exact ⟨parts, Path.slash_join hne, hfree, Key.values?_rest_iff.2 ⟨hne, rfl⟩⟩
      · rintro ⟨parts, rfl, -, hv⟩
        obtain ⟨hne, rfl⟩ := Key.values?_rest_iff.1 hv
        exact ⟨_, rfl, (Path.slash_join hne).symm⟩
  | slash =>
      rw [spells_slash_iff]
      constructor
      · rintro ⟨rfl, rfl⟩
        exact ⟨[""], rfl, by simp, rfl⟩
      · rintro ⟨parts, rfl, -, hv⟩
        obtain ⟨rfl, rfl⟩ := Key.values?_slash_iff.1 hv
        exact ⟨rfl, rfl⟩

namespace Pattern

def key (p : Pattern) : Key := Key.ofSegments p.segments

def paths (p : Pattern) : Set String := {path | p.Matches path}

@[simp] theorem mem_paths {p : Pattern} {path : String} : path ∈ p.paths ↔ p.Matches path := Iff.rfl

/-- The key of a pattern decides which paths it matches and with which values. -/
theorem matchesWith_iff {p : Pattern} (h : Tidy p.segments) {values : List String}
    {path : String} :
    p.MatchesWith values path ↔
      ∃ parts, Path.parts? path = some parts ∧ p.key.values? parts = some values := by
  rw [MatchesWith, spells_iff h]
  constructor
  · rintro ⟨parts, htext, hfree, hv⟩
    exact ⟨parts, Path.parts?_eq_some_iff.2 ⟨htext, hfree⟩, hv⟩
  · rintro ⟨parts, hparts, hv⟩
    obtain ⟨htext, hfree⟩ := Path.parts?_eq_some_iff.1 hparts
    exact ⟨parts, htext, hfree, hv⟩

theorem matches_iff {p : Pattern} (h : Tidy p.segments) {path : String} :
    p.Matches path ↔ ∃ parts, Path.parts? path = some parts ∧ p.key.Fits parts := by
  constructor
  · rintro ⟨values, hv⟩
    obtain ⟨parts, hparts, hv⟩ := (matchesWith_iff h).1 hv
    exact ⟨parts, hparts, values, hv⟩
  · rintro ⟨parts, hparts, values, hv⟩
    exact ⟨values, (matchesWith_iff h).2 ⟨parts, hparts, hv⟩⟩

theorem matches_iff_fits {p : Pattern} (h : Tidy p.segments) {path : String}
    {parts : List String} (hparts : Path.parts? path = some parts) :
    p.Matches path ↔ p.key.Fits parts := by
  rw [matches_iff h]
  simp [hparts]

end Pattern

end PathRouter

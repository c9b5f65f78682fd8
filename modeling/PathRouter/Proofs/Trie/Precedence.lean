import PathRouter.Proofs.Pattern.PathSet
import PathRouter.Proofs.Trie.Insertion

/-!
Which of the patterns in a trie a path leads to. Patterns that overlap may be in a trie together, so
a path may be matched by several of which none is the most specific one. A search still has its
choice: it takes the pattern that comes first when any two are compared at the first position where
their shapes differ.
-/

namespace PathRouter

/-! ### The order of patterns -/

/-- Of two segments at one place, the first one is to be preferred. -/
inductive Segment.Outranks : Segment → Segment → Prop where
  | literalSingle (text name : String) : Outranks (.literal text) (.single name)
  | literalMulti (text : String) (name : Option String) : Outranks (.literal text) (.multi name)
  | singleMulti (name : String) (name' : Option String) : Outranks (.single name) (.multi name')
  | slashMulti (name : Option String) : Outranks .slash (.multi name)

theorem Segment.Outranks.not_alike {s t : Segment} (h : s.Outranks t) : ¬ s.alike t ∧ ¬ t.alike s := by
  cases h <;> exact ⟨Bool.false_ne_true, Bool.false_ne_true⟩

theorem Segment.Outranks.asymm {s t : Segment} (h : s.Outranks t) : ¬ t.Outranks s := by
  cases h <;> exact fun h => nomatch h

/-- At the first position where their shapes differ, the first list has the segment that is to be
preferred. -/
inductive Precedes : List Segment → List Segment → Prop where
  | here {s t : Segment} {ss ts : List Segment} (h : s.Outranks t) : Precedes (s :: ss) (t :: ts)
  | later {s t : Segment} {ss ts : List Segment} (hst : s.alike t) (h : Precedes ss ts) :
      Precedes (s :: ss) (t :: ts)

theorem Precedes.asymm {ss ts : List Segment} (h : Precedes ss ts) : ¬ Precedes ts ss := by
  induction h with
  | here h =>
      rintro (h' | ⟨hts, -⟩)
      · exact h.asymm h'
      · exact h.not_alike.2 hts
  | later hst _ ih =>
      rintro (h' | ⟨-, h'⟩)
      · exact h'.not_alike.2 hst
      · exact ih h'

/-- Where two patterns match the same path, the order of their keys is that of their segments. -/
theorem precedes_of_before {ss ts : List Segment} (hs : Tidy ss) (ht : Tidy ts)
    {parts : List String} (hss : (Key.ofSegments ss).Fits parts)
    (hts : (Key.ofSegments ts).Fits parts)
    (h : (Key.ofSegments ss).Before (Key.ofSegments ts)) : Precedes ss ts := by
  induction hs generalizing ts parts with
  | nil => cases ht <;> cases h
  | literal _ _ ih =>
      cases ht with
      | nil | slash => cases h
      | single => exact .here (.literalSingle ..)
      | multi => exact .here (.literalMulti ..)
      | literal _ ht =>
          obtain ⟨later, rfl, hlater⟩ := Key.exists_of_fits_literal hss
          obtain ⟨rfl, hlater'⟩ := Key.fits_literal.1 hts
          cases h with
          | literal _ h => exact .later (by simp [Segment.alike]) (ih ht hlater hlater' h)
  | single _ _ ih =>
      cases ht with
      | nil | slash | literal => cases h
      | multi => exact .here (.singleMulti ..)
      | single _ ht =>
          obtain ⟨part, later, rfl, -, hlater⟩ := Key.exists_of_fits_single hss
          cases h with
          | single h => exact .later rfl (ih ht hlater (Key.fits_single.1 hts).2 h)
  | multi => cases ht <;> cases h
  | slash =>
      -- A part that ends the path is empty, and then it is neither a literal nor a value.
      obtain rfl := Key.fits_slash.1 hss
      cases ht with
      | nil | slash => cases h
      | multi => exact .here (.slashMulti _)
      | literal htext => exact absurd (Key.fits_literal.1 hts).1.symm htext.1
      | single => exact absurd rfl (Key.fits_single.1 hts).1

/-! ### The choice of a search -/

def Insertion.pattern (call : Insertion) : Pattern := ⟨call.segments, none⟩

/-- The segments were read from a text. -/
def Insertion.WasRead (call : Insertion) : Prop :=
  ∃ text p, Pattern.parse text = .ok p ∧ p.segments = call.segments

theorem Insertion.WasRead.tidy {call : Insertion} (h : call.WasRead) : Tidy call.segments := by
  obtain ⟨text, p, hparse, hsegments⟩ := h
  exact hsegments ▸ (Pattern.wellFormed_of_parse hparse).tidy

namespace Stock

/-- Of all patterns in the trie that match the path, that of the insertion comes first. -/
structure IsFirst (stock : Stock) (path : String) (call : Insertion) : Prop where
  mem : call ∈ stock.stored
  fits : call.pattern.Matches path
  first : ∀ other ∈ stock.stored, other.pattern.Matches path →
    other = call ∨ Precedes call.segments other.segments

variable {stock : Stock} {path : String}

theorem IsFirst.unique {call other : Insertion} (h : stock.IsFirst path call)
    (h' : stock.IsFirst path other) : other = call := by
  rcases h.first other h'.mem h'.fits with heq | hprecedes
  · exact heq
  · rcases h'.first call h.mem h.fits with heq | hprecedes'
    · exact heq.symm
    · exact absurd hprecedes' hprecedes.asymm

theorem Sound.eq_of_key_eq (h : stock.Sound) {call other : Insertion} (hcall : call ∈ stock.stored)
    (hother : other ∈ stock.stored) (hkey : call.key = other.key) : call = other :=
  List.inj_on_of_nodup_map h.distinct hcall hother hkey

/-- What is picked is the first pattern that matches the path. -/
theorem Sound.exists_isFirst (h : stock.Sound) (htidy : ∀ call ∈ stock.stored, Tidy call.segments)
    {parts : List String} (hparts : Path.parts? path = some parts) {f : Trie.Found}
    (hpick : stock.trie.pick parts = some f) :
    ∃ call, stock.IsFirst path call ∧ call.id = f.id ∧
      ∀ values, call.pattern.MatchesWith values path ↔ values = f.values := by
  obtain ⟨hroute, hvalues, hfirst⟩ := Trie.pick_eq_some_iff.1 hpick
  obtain ⟨call, hcall, hkey, hid⟩ := (h.route?_eq_some_iff _ _).1 hroute
  rw [← hkey] at hvalues hfirst
  have hfits : call.key.Fits parts := ⟨f.values, hvalues⟩
  refine ⟨call, ⟨hcall, ?_, fun other hother hmatches => ?_⟩, hid, fun values => ?_⟩
  · exact (Pattern.matches_iff_fits (htidy call hcall) hparts).2 hfits
  · have hfits' := (Pattern.matches_iff_fits (htidy other hother) hparts).1 hmatches
    have hroute' := (h.route?_eq_some_iff _ _).2 ⟨other, hother, rfl, rfl⟩
    rcases hfirst other.key other.id hroute' hfits' with heq | hbefore
    · exact .inl (h.eq_of_key_eq hother hcall heq.symm)
    · exact .inr (precedes_of_before (htidy call hcall) (htidy other hother) hfits hfits' hbefore)
  · rw [Pattern.matchesWith_iff (htidy call hcall)]
    simp only [hparts, Option.some.injEq, exists_eq_left']
    rw [show call.pattern.key = call.key from rfl, hvalues, Option.some.injEq, eq_comm]

/-- Where nothing is picked no pattern matches the path. -/
theorem Sound.not_matches (h : stock.Sound) (htidy : ∀ call ∈ stock.stored, Tidy call.segments)
    (hnone : (Path.parts? path).bind stock.trie.pick = none) :
    ∀ call ∈ stock.stored, ¬ call.pattern.Matches path := by
  intro call hcall hmatches
  obtain ⟨parts, hparts, hfits⟩ := (Pattern.matches_iff (htidy call hcall)).1 hmatches
  rw [hparts, Option.bind_some, Trie.pick_eq_none_iff] at hnone
  exact hnone call.key call.id ((h.route?_eq_some_iff _ _).2 ⟨call, hcall, rfl, rfl⟩) hfits

/-- Whatever patterns are inserted, with conflicts among them or not, a search finds nothing exactly
if none of those in the trie matches the path, and then the captures are as before; otherwise it
finds the route of the first pattern that matches, and adds to the captures the values with which it
does, and which are the only ones. -/
theorem find_first {calls : List Insertion} (hread : ∀ call ∈ calls, call.WasRead)
    (hstock : ofList calls = stock) (path : String) (captures : Array String) :
    ((stock.trie.find path captures).1 = none ↔
      ∀ call ∈ stock.stored, ¬ call.pattern.Matches path) ∧
    ((stock.trie.find path captures).1 = none →
      (stock.trie.find path captures).2 = captures) ∧
    ∀ id, (stock.trie.find path captures).1 = some id →
      ∃ call values, (∀ other, stock.IsFirst path other ↔ other = call) ∧ call.id = id ∧
        (∀ values', call.pattern.MatchesWith values' path ↔ values' = values) ∧
        (stock.trie.find path captures).2 = captures ++ values.toArray := by
  have hsound : stock.Sound := hstock ▸ sound_ofList calls
  have htidy : ∀ call ∈ stock.stored, Tidy call.segments := by
    intro call hcall
    rw [← hstock] at hcall
    exact (hread call ((stored_ofList_sublist calls).subset hcall)).tidy
  rw [Trie.finds_find stock.trie path captures]
  cases hpick : (Path.parts? path).bind stock.trie.pick with
  | none =>
      refine ⟨iff_of_true rfl (hsound.not_matches htidy hpick), fun _ => rfl, ?_⟩
      rintro id ⟨⟩
  | some f =>
      obtain ⟨parts, hparts, hpick⟩ := Option.bind_eq_some_iff.1 hpick
      obtain ⟨call, hfirst, hid, hvalues⟩ := hsound.exists_isFirst htidy hparts hpick
      refine ⟨iff_of_false (by simp) ?_, fun hnone => by simp at hnone, ?_⟩
      · exact fun hall => hall call hfirst.mem hfirst.fits
      · rintro _ ⟨⟩
        refine ⟨call, f.values, fun other => ⟨hfirst.unique, ?_⟩, hid, hvalues, rfl⟩
        rintro rfl
        exact hfirst

/-- Two patterns that overlap, and one that has the place of the first of them. On the first path
both match; on the second one the search backs out of the literal, and keeps the captures that it
was given. -/
theorem find_first_overlapping :
    ∃ (calls : List Insertion) (stock : Stock) (call other : Insertion),
      calls = [⟨0, [.literal "a", .single "x", .literal "c"]⟩,
        ⟨1, [.single "y", .literal "b", .multi (some "z")]⟩,
        ⟨2, [.literal "a", .single "w", .literal "c"]⟩] ∧
      (∀ call ∈ calls, call.WasRead) ∧ ofList calls = stock ∧ stock.stored.length = 2 ∧
      stock.trie.find "/a/b/c" #["kept"] = (some 0, #["kept", "b"]) ∧
      stock.IsFirst "/a/b/c" call ∧ call.id = 0 ∧
      stock.trie.find "/a/b/d" #["kept"] = (some 1, #["kept", "a", "d"]) ∧
      stock.IsFirst "/a/b/d" other ∧ other.id = 1 ∧
      ∀ call ∈ stock.stored, ¬ call.pattern.Matches "/c/d" := by
  have hread : ∀ call ∈ [Insertion.mk 0 [.literal "a", .single "x", .literal "c"],
      ⟨1, [.single "y", .literal "b", .multi (some "z")]⟩,
      ⟨2, [.literal "a", .single "w", .literal "c"]⟩], call.WasRead := by
    simp only [List.forall_mem_cons]
    exact ⟨⟨"/a/\x7bx\x7d/c", _, rfl, rfl⟩, ⟨"/\x7by\x7d/b/\x7bz...\x7d", _, rfl, rfl⟩,
      ⟨"/a/\x7bw\x7d/c", _, rfl, rfl⟩, by simp⟩
  obtain ⟨-, -, hfound⟩ := find_first hread rfl "/a/b/c" #["kept"]
  obtain ⟨-, -, hfound'⟩ := find_first hread rfl "/a/b/d" #["kept"]
  obtain ⟨hmissed, -, -⟩ := find_first hread rfl "/c/d" #["kept"]
  obtain ⟨call, -, hcall, hid, -⟩ := hfound 0 (by rfl)
  obtain ⟨other, -, hother, hid', -⟩ := hfound' 1 (by rfl)
  exact ⟨_, _, call, other, rfl, hread, rfl, by rfl, by rfl, (hcall call).2 rfl, hid, by rfl,
    (hother other).2 rfl, hid', hmissed.1 (by rfl)⟩

end Stock

end PathRouter

import PathRouter.Proofs.Path
import PathRouter.Proofs.Pattern.Piece

/-!
Reading patterns. A text is read exactly if it is a spelling of well-formed segments, and then as
these segments. So a pattern that was read is read again from its rendering.
-/

namespace PathRouter

theorem bind_eq_ok_iff {ε α β : Type} {x : Except ε α} {f : α → Except ε β} {b : β} :
    (x >>= f) = .ok b ↔ ∃ a, x = .ok a ∧ f a = .ok b := by
  cases x <;> simp [bind, Except.bind]

theorem bind_eq_error_iff {ε α β : Type} {x : Except ε α} {f : α → Except ε β} {e : ε} :
    (x >>= f) = .error e ↔ x = .error e ∨ ∃ a, x = .ok a ∧ f a = .error e := by
  cases x <;> simp [bind, Except.bind]

theorem check_bind_eq_ok_iff {ε β : Type} {x : Except ε Unit} {y : Except ε β} {b : β} :
    (x >>= fun _ => y) = .ok b ↔ x = .ok () ∧ y = .ok b := by
  cases x <;> simp [bind, Except.bind]

namespace Pattern

open Segment (piece written marker)

/-! ### Lists of pieces -/

/-- The pieces between the slashes of a text, and the segments they spell. -/
inductive Writes : List (List Char) → List Segment → Prop where
  | nil : Writes [] []
  | implied : Writes [[]] [.slash]
  | marked : Writes [marker] [.slash]
  | doubled : Writes [marker, []] [.slash]
  | cons {s : Segment} {pieces : List (List Char)} {segments : List Segment} (hs : s ≠ .slash)
      (h : Writes pieces segments) : Writes (s.piece :: pieces) (s :: segments)

/-- The segments may follow others that bind the names in the list. -/
structure MayFollow (taken : List String) (segments : List Segment) : Prop where
  writable : ∀ s ∈ segments, s.IsWritable
  distinctNames : (taken ++ segments.filterMap Segment.boundName?).Nodup
  finalLast : ∀ s ∈ segments.dropLast, ¬ s.IsFinal

theorem checkFresh_eq_ok_iff {taken : List String} {s : Segment} :
    checkFresh taken s = .ok () ↔ ∀ name ∈ s.boundName?, name ∉ taken := by
  unfold checkFresh
  cases s.boundName? with
  | none => simp
  | some name => simp

theorem checkFinal_eq_ok_iff {s : Segment} (hs : s.IsFinal) {pieces : List (List Char)} :
    checkFinal s pieces = .ok () ↔ pieces = [] ∨ s = .slash ∧ pieces = [[]] := by
  cases s with
  | literal => exact absurd hs id
  | single => exact absurd hs id
  | multi => cases pieces <;> simp [checkFinal]
  | slash =>
      match pieces with
      | [] => simp [checkFinal]
      | [[]] => simp [checkFinal]
      | [_ :: _] => simp [checkFinal]
      | _ :: _ :: _ => simp [checkFinal]

/-- Reading goes on after a segment exactly if it is not one that takes the end of a path. -/
theorem ofPieces_cons_eq_ok_iff {taken : List String} {cs : List Char} (hne : cs ≠ [])
    {pieces : List (List Char)} {segments : List Segment} :
    ofPieces taken (cs :: pieces) = .ok segments ↔
      ∃ s, Segment.ofPiece cs = .ok s ∧ (∀ name ∈ s.boundName?, name ∉ taken) ∧
        ((¬ s.IsFinal ∧ ∃ later, ofPieces (taken ++ s.boundName?.toList) pieces = .ok later ∧
            segments = s :: later) ∨
          (s.IsFinal ∧ (pieces = [] ∨ s = .slash ∧ pieces = [[]]) ∧ segments = [s])) := by
  -- The other equations of the reader are about empty pieces.
  rw [ofPieces.eq_4 _ _ _ (fun h => absurd h hne) (fun h => absurd h hne), bind_eq_ok_iff]
  refine exists_congr fun s => and_congr_right fun _ => ?_
  rw [check_bind_eq_ok_iff, checkFresh_eq_ok_iff]
  refine and_congr_right fun _ => ?_
  by_cases hs : s.IsFinal
  · have hend : (checkFinal s pieces >>= fun _ => pure [s]) = .ok segments ↔
        (pieces = [] ∨ s = .slash ∧ pieces = [[]]) ∧ segments = [s] := by
      rw [check_bind_eq_ok_iff, checkFinal_eq_ok_iff hs]
      simp only [pure, Except.pure, Except.ok.injEq, eq_comm]
    rw [or_iff_right fun h => h.1 hs, and_iff_right hs, ← hend]
    cases s with
    | literal | single => exact absurd hs id
    | multi | slash => rfl
  · have hmore : (ofPieces (taken ++ s.boundName?.toList) pieces >>= fun later =>
          pure (s :: later)) = .ok segments ↔
        ∃ later, ofPieces (taken ++ s.boundName?.toList) pieces = .ok later ∧
          segments = s :: later := by
      rw [bind_eq_ok_iff]
      simp only [pure, Except.pure, Except.ok.injEq, eq_comm]
    rw [or_iff_left fun h => hs h.1, and_iff_right hs, ← hmore]
    cases s with
    | literal | single => rfl
    | multi | slash => exact absurd trivial hs

theorem finalLast_cons_iff {s : Segment} {later : List Segment} :
    (∀ t ∈ (s :: later).dropLast, ¬ t.IsFinal) ↔
      (s.IsFinal → later = []) ∧ ∀ t ∈ later.dropLast, ¬ t.IsFinal := by
  cases later with
  | nil => simp
  | cons next more => simp

theorem names_cons (s : Segment) (later : List Segment) :
    (s :: later).filterMap Segment.boundName? =
      s.boundName?.toList ++ later.filterMap Segment.boundName? := by
  cases h : s.boundName? <;> simp [h]

theorem mayFollow_nil_iff {taken : List String} : MayFollow taken [] ↔ taken.Nodup := by
  constructor
  · intro h
    simpa using h.distinctNames
  · intro h
    exact ⟨by simp, by simpa using h, by simp⟩

theorem mayFollow_cons_iff {taken : List String} {s : Segment} {later : List Segment} :
    MayFollow taken (s :: later) ↔
      s.IsWritable ∧ (s.IsFinal → later = []) ∧ MayFollow (taken ++ s.boundName?.toList) later := by
  constructor
  · rintro ⟨hwrite, hnames, hlast⟩
    obtain ⟨hs, hlater⟩ := finalLast_cons_iff.1 hlast
    refine ⟨hwrite s List.mem_cons_self, hs, fun t ht => hwrite t (List.mem_cons_of_mem _ ht), ?_,
      hlater⟩
    rwa [List.append_assoc, ← names_cons]
  · rintro ⟨hwrite, hs, hlater⟩
    refine ⟨?_, ?_, finalLast_cons_iff.2 ⟨hs, hlater.finalLast⟩⟩
    · intro t ht
      rcases List.mem_cons.1 ht with rfl | ht
      · exact hwrite
      · exact hlater.writable t ht
    · rw [names_cons, ← List.append_assoc]
      exact hlater.distinctNames

theorem mayFollow_slash {taken : List String} (h : taken.Nodup) : MayFollow taken [.slash] :=
  mayFollow_cons_iff.2 ⟨.slash, fun _ => rfl, mayFollow_nil_iff.2 (by simpa [Segment.boundName?])⟩

theorem MayFollow.nodup {taken : List String} {segments : List Segment}
    (h : MayFollow taken segments) : taken.Nodup :=
  (List.nodup_append.1 h.distinctNames).1

/-- A name is free exactly if it can be added to those that are taken. -/
theorem nodup_append_boundName_iff {taken : List String} (h : taken.Nodup) {s : Segment} :
    (taken ++ s.boundName?.toList).Nodup ↔ ∀ name ∈ s.boundName?, name ∉ taken := by
  cases s.boundName? with
  | none => simpa using h
  | some name => simp [List.nodup_append, h]; grind

theorem piece_ne_nil {s : Segment} (hs : s.IsWritable) (hne : s ≠ .slash) : s.piece ≠ [] := by
  cases hs with
  | literal nonempty => simpa [piece] using nonempty
  | slash => exact absurd rfl hne
  | single | multi | anonymous => simp [piece]

theorem written_of_ne_slash {s : Segment} (hne : s ≠ .slash) : s.written = s.piece := by
  cases s with
  | slash => exact absurd rfl hne
  | literal | single | multi => rfl

theorem writes_nil_iff {segments : List Segment} : Writes [] segments ↔ segments = [] := by
  constructor
  · rintro ⟨⟩
    rfl
  · rintro rfl
    exact .nil

theorem eq_nil_of_writes {pieces : List (List Char)} (h : Writes pieces []) : pieces = [] := by
  cases h
  rfl

theorem writes_cons_iff {cs : List Char} {pieces : List (List Char)} {segments : List Segment} :
    Writes (cs :: pieces) segments ↔
      (cs = [] ∧ pieces = [] ∧ segments = [.slash]) ∨
      (cs = marker ∧ (pieces = [] ∨ pieces = [[]]) ∧ segments = [.slash]) ∨
      ∃ s later, s ≠ .slash ∧ cs = s.piece ∧ Writes pieces later ∧ segments = s :: later := by
  constructor
  · intro h
    generalize hall : cs :: pieces = all at h
    cases h with
    | nil => contradiction
    | implied =>
        cases hall
        exact .inl ⟨rfl, rfl, rfl⟩
    | marked =>
        cases hall
        exact .inr (.inl ⟨rfl, .inl rfl, rfl⟩)
    | doubled =>
        cases hall
        exact .inr (.inl ⟨rfl, .inr rfl, rfl⟩)
    | cons hs hlater =>
        obtain ⟨rfl, rfl⟩ := List.cons.inj hall
        exact .inr (.inr ⟨_, _, hs, rfl, hlater, rfl⟩)
  · rintro (⟨rfl, rfl, rfl⟩ | ⟨rfl, rfl | rfl, rfl⟩ | ⟨s, later, hs, rfl, hlater, rfl⟩)
    · exact .implied
    · exact .marked
    · exact .doubled
    · exact .cons hs hlater

theorem writes_written {s : Segment} (hs : s.IsFinal) : Writes [s.written] [s] := by
  cases s with
  | literal | single => exact absurd hs id
  | multi name =>
      have hne : Segment.multi name ≠ .slash := by simp
      exact .cons hne .nil
  | slash => exact .marked

/-- An empty piece can only be the last one, and stands for a trailing slash there. -/
theorem ofPieces_empty_eq_ok_iff {taken : List String} {pieces : List (List Char)}
    {segments : List Segment} :
    ofPieces taken ([] :: pieces) = .ok segments ↔ pieces = [] ∧ segments = [.slash] := by
  cases pieces with
  | nil => simp [ofPieces, eq_comm]
  | cons next more => simp [ofPieces]

/-- What pieces spell is determined piece by piece, as they are read. -/
theorem writes_mayFollow_cons_iff {taken : List String} (htaken : taken.Nodup) {cs : List Char}
    (hne : cs ≠ []) {pieces : List (List Char)} {segments : List Segment} :
    Writes (cs :: pieces) segments ∧ MayFollow taken segments ↔
      ∃ s, (s.IsWritable ∧ cs = s.written) ∧ (∀ name ∈ s.boundName?, name ∉ taken) ∧
        ((¬ s.IsFinal ∧ ∃ later, (Writes pieces later ∧
              MayFollow (taken ++ s.boundName?.toList) later) ∧ segments = s :: later) ∨
          (s.IsFinal ∧ (pieces = [] ∨ s = .slash ∧ pieces = [[]]) ∧ segments = [s])) := by
  rw [writes_cons_iff]
  constructor
  · rintro ⟨⟨h, -⟩ | ⟨rfl, hend, rfl⟩ | ⟨s, later, hs, rfl, hlater, rfl⟩, hmay⟩
    · exact absurd h hne
    · refine ⟨.slash, ⟨.slash, rfl⟩, by simp [Segment.boundName?], .inr ⟨trivial, ?_, rfl⟩⟩
      exact hend.imp id fun h => ⟨rfl, h⟩
    · obtain ⟨hwrite, hfinal, hmay⟩ := mayFollow_cons_iff.1 hmay
      refine ⟨s, ⟨hwrite, (written_of_ne_slash hs).symm⟩,
        (nodup_append_boundName_iff htaken).1 hmay.nodup, ?_⟩
      by_cases hlast : s.IsFinal
      · obtain rfl := hfinal hlast
        exact .inr ⟨hlast, .inl (eq_nil_of_writes hlater), rfl⟩
      · exact .inl ⟨hlast, later, ⟨hlater, hmay⟩, rfl⟩
  · rintro ⟨s, ⟨hwrite, rfl⟩, hfresh, ⟨hs, later, ⟨hlater, hmay⟩, rfl⟩ | ⟨hs, hend, rfl⟩⟩
    · have hslash : s ≠ .slash := fun h => hs (h ▸ trivial)
      exact ⟨.inr (.inr ⟨s, later, hslash, written_of_ne_slash hslash, hlater, rfl⟩),
        mayFollow_cons_iff.2 ⟨hwrite, fun h => absurd h hs, hmay⟩⟩
    · have hmay : MayFollow (taken ++ s.boundName?.toList) [] :=
        mayFollow_nil_iff.2 ((nodup_append_boundName_iff htaken).2 hfresh)
      refine ⟨?_, mayFollow_cons_iff.2 ⟨hwrite, fun _ => rfl, hmay⟩⟩
      rcases hend with rfl | ⟨rfl, rfl⟩
      · exact writes_cons_iff.1 (writes_written hs)
      · exact .inr (.inl ⟨rfl, .inr rfl, rfl⟩)

/-- Pieces are read as segments exactly if they spell them and these may follow. -/
theorem ofPieces_eq_ok_iff {taken : List String} {pieces : List (List Char)}
    {segments : List Segment} (htaken : taken.Nodup) (hfree : ∀ cs ∈ pieces, '/' ∉ cs) :
    ofPieces taken pieces = .ok segments ↔ Writes pieces segments ∧ MayFollow taken segments := by
  induction pieces generalizing taken segments with
  | nil =>
      rw [writes_nil_iff, ofPieces, Except.ok.injEq, eq_comm]
      exact ⟨fun h => ⟨h, h ▸ mayFollow_nil_iff.2 htaken⟩, fun h => h.1⟩
  | cons cs pieces ih =>
      have hpieces : ∀ p ∈ pieces, '/' ∉ p := fun p hp => hfree p (List.mem_cons_of_mem _ hp)
      have hcs : '/' ∉ cs := hfree cs List.mem_cons_self
      by_cases hne : cs = []
      · subst hne
        rw [ofPieces_empty_eq_ok_iff, writes_cons_iff]
        constructor
        · rintro ⟨rfl, rfl⟩
          exact ⟨.inl ⟨rfl, rfl, rfl⟩, mayFollow_slash htaken⟩
        · rintro ⟨⟨-, h⟩ | ⟨h, -⟩ | ⟨s, later, hs, hpiece, -, rfl⟩, hmay⟩
          · exact h
          · exact absurd h (by simp [marker])
          · exact absurd hpiece.symm (piece_ne_nil (mayFollow_cons_iff.1 hmay).1 hs)
      · rw [ofPieces_cons_eq_ok_iff hne, writes_mayFollow_cons_iff htaken hne]
        refine exists_congr fun s => ?_
        rw [Segment.ofPiece_eq_ok_iff hne hcs]
        -- The rest is read with the name of the segment taken, which is why `taken` varies.
        refine and_congr_right fun _ => and_congr_right fun hfresh => ?_
        have hnext := (nodup_append_boundName_iff htaken).2 hfresh
        simp only [ih hnext hpieces]

/-! ### Texts -/

theorem toList_render (p : Pattern) : p.render.toList = Path.rooted (p.segments.map piece) := by
  rw [render, String.toList_join, Path.rooted, List.flatMap_map, List.flatMap_map]
  exact congrArg (List.flatMap · p.segments) (funext Segment.toList_render)

theorem slash_not_mem_piece {s : Segment} (hs : s.IsWritable) : '/' ∉ s.piece := by
  have hname {name : String} (h : isName name.toList) : '/' ∉ name.toList :=
    Segment.delimiter_not_mem h (by decide)
  cases hs with
  | literal _ free => exact free
  | single h => simp [piece, hname h]
  | multi h => simp [piece, hname h]
  | anonymous => decide
  | slash => decide

theorem slash_not_mem_of_writes {pieces : List (List Char)} {segments : List Segment}
    (h : Writes pieces segments) (hwrite : ∀ s ∈ segments, s.IsWritable) :
    ∀ cs ∈ pieces, '/' ∉ cs := by
  induction h with
  | nil => simp
  | implied => simp
  | marked => simp [marker]
  | doubled => simp [marker]
  | cons _ _ ih =>
      intro cs hcs
      rcases List.mem_cons.1 hcs with rfl | hcs
      · exact slash_not_mem_piece (hwrite _ List.mem_cons_self)
      · exact ih (fun t ht => hwrite t (List.mem_cons_of_mem _ ht)) cs hcs

/-- Every list of segments is spelled by its rendering. -/
theorem writes_map_piece {segments : List Segment}
    (hlast : ∀ s ∈ segments.dropLast, ¬ s.IsFinal) : Writes (segments.map piece) segments := by
  induction segments with
  | nil => exact .nil
  | cons s later ih =>
      obtain ⟨hs, hlater⟩ := finalLast_cons_iff.1 hlast
      by_cases h : s = .slash
      · subst h
        rw [hs trivial]
        exact .implied
      · exact .cons h (ih hlater)

theorem writes_append {front segments : List Segment} {pieces : List (List Char)}
    (hfront : ∀ s ∈ front, ¬ s.IsFinal) (h : Writes pieces segments) :
    Writes (front.map piece ++ pieces) (front ++ segments) := by
  induction front with
  | nil => exact h
  | cons s later ih =>
      have hs : s ≠ .slash := fun heq => hfront s List.mem_cons_self (heq ▸ trivial)
      exact .cons hs (ih fun t ht => hfront t (List.mem_cons_of_mem _ ht))

/-- There is no other spelling than the rendering but for a trailing slash. -/
theorem writes_iff {pieces : List (List Char)} {segments : List Segment}
    (hlast : ∀ s ∈ segments.dropLast, ¬ s.IsFinal) :
    Writes pieces segments ↔
      pieces = segments.map piece ∨
        ∃ front, segments = front ++ [.slash] ∧
          (pieces = front.map piece ++ [marker] ∨ pieces = front.map piece ++ [marker, []]) := by
  constructor
  · intro h
    -- This half holds of any segments, and the hypothesis would stand in the way of the induction.
    clear hlast
    induction h with
    | nil => exact .inl rfl
    | implied => exact .inl rfl
    | marked => exact .inr ⟨[], rfl, .inl rfl⟩
    | doubled => exact .inr ⟨[], rfl, .inr rfl⟩
    | @cons s _ _ _ _ ih =>
        obtain rfl | ⟨front, rfl, rfl | rfl⟩ := ih
        · exact .inl rfl
        · exact .inr ⟨s :: front, rfl, .inl rfl⟩
        · exact .inr ⟨s :: front, rfl, .inr rfl⟩
  · rintro (rfl | ⟨front, rfl, rfl | rfl⟩)
    · exact writes_map_piece hlast
    · exact writes_append (by simpa using hlast) .marked
    · exact writes_append (by simpa using hlast) .doubled

theorem isSpelling_iff {segments : List Segment} {text : String}
    (hlast : ∀ s ∈ segments.dropLast, ¬ s.IsFinal) :
    IsSpelling segments text ↔
      ∃ pieces, text.toList = Path.rooted pieces ∧ Writes pieces segments := by
  have hshown := toList_render ⟨segments, none⟩
  simp only [writes_iff hlast, IsSpelling, List.getLast?_eq_some_iff, ← String.toList_inj,
    String.toList_append, hshown]
  constructor
  · rintro (h | ⟨⟨front, rfl⟩, h | h⟩)
    · exact ⟨_, h, .inl rfl⟩
    · exact ⟨_, by simpa [piece, marker] using h, .inr ⟨front, rfl, .inl rfl⟩⟩
    · exact ⟨_, by simpa [piece, marker] using h, .inr ⟨front, rfl, .inr rfl⟩⟩
  · rintro ⟨pieces, h, rfl | ⟨front, rfl, rfl | rfl⟩⟩
    · exact .inl h
    · exact .inr ⟨⟨front, rfl⟩, .inl (by simpa [piece, marker] using h)⟩
    · exact .inr ⟨⟨front, rfl⟩, .inr (by simpa [piece, marker] using h)⟩

theorem wellFormed_iff {segments : List Segment} :
    WellFormed segments ↔ segments ≠ [] ∧ MayFollow [] segments :=
  ⟨fun h => ⟨h.nonempty, h.writable, h.distinctNames, h.finalLast⟩,
    fun h => ⟨h.1, h.2.writable, h.2.distinctNames, h.2.finalLast⟩⟩

/-- A text is read as segments exactly if it spells them and they are well formed. -/
theorem readSegments_eq_ok_iff {text : String} {segments : List Segment} :
    readSegments text = .ok segments ↔ WellFormed segments ∧ IsSpelling segments text := by
  rw [wellFormed_iff]
  constructor
  · intro h
    unfold readSegments at h
    split at h
    · contradiction
    · rename_i rest htext
      obtain ⟨hwrites, hmay⟩ := (ofPieces_eq_ok_iff List.nodup_nil fun _ =>
        Path.slash_not_mem_of_mem_pieces).1 h
      refine ⟨⟨?_, hmay⟩, (isSpelling_iff hmay.finalLast).2 ⟨_, ?_, hwrites⟩⟩
      · rintro rfl
        exact Path.pieces_ne_nil rest (eq_nil_of_writes hwrites)
      · rw [htext, Path.rooted_pieces]
    · contradiction
  · rintro ⟨⟨hne, hmay⟩, hspell⟩
    obtain ⟨pieces, htext, hwrites⟩ := (isSpelling_iff hmay.finalLast).1 hspell
    have hfree := slash_not_mem_of_writes hwrites hmay.writable
    have hpieces : pieces ≠ [] := by
      rintro rfl
      exact hne (writes_nil_iff.1 hwrites)
    obtain ⟨first, later, rfl⟩ := List.exists_cons_of_ne_nil hpieces
    have hcut : Path.pieces (first ++ Path.rooted later) = first :: later :=
      (Path.pieces_eq_iff hpieces hfree).2 (Path.rooted_cons first later).symm
    -- The slash in front is taken off and the rest is cut into the pieces again.
    rw [readSegments, htext, Path.rooted_cons]
    change ofPieces [] (Path.pieces (first ++ Path.rooted later)) = _
    rw [hcut]
    exact (ofPieces_eq_ok_iff List.nodup_nil hfree).2 ⟨hwrites, hmay⟩

theorem parse_eq_ok_iff {text : String} {p : Pattern} :
    parse text = .ok p ↔ readSegments text = .ok p.segments ∧ p.name = none := by
  obtain ⟨segments, name⟩ := p
  unfold parse
  cases readSegments text with
  | error fault => simp
  | ok read => simp [eq_comm]

theorem wellFormed_of_parse {text : String} {p : Pattern} (h : parse text = .ok p) :
    WellFormed p.segments :=
  (readSegments_eq_ok_iff.1 (parse_eq_ok_iff.1 h).1).1

/-- A text is accepted exactly if it spells well-formed segments, and these are what is read.
Nothing else is accepted, and rendering a pattern that was read gives a text of the same
segments. -/
theorem parse_spelling (text : String) (segments : List Segment) :
    (parse text = .ok ⟨segments, none⟩ ↔ WellFormed segments ∧ IsSpelling segments text) ∧
      (∀ p, parse text = .ok p →
        (WellFormed p.segments ∧ IsSpelling p.segments text) ∧ parse p.render = .ok p) := by
  refine ⟨?_, fun p h => ?_⟩
  · rw [parse_eq_ok_iff, readSegments_eq_ok_iff]
    exact and_iff_left rfl
  · obtain ⟨hread, hname⟩ := parse_eq_ok_iff.1 h
    have hspells := readSegments_eq_ok_iff.1 hread
    exact ⟨hspells, parse_eq_ok_iff.2
      ⟨readSegments_eq_ok_iff.2 ⟨hspells.1, .inl rfl⟩, hname⟩⟩

/-- The marker for a trailing slash is written out and followed by an empty piece. -/
theorem parse_spelling_doubled :
    parse "/posts/\x7bslug\x7d/\x7b$\x7d/" =
        .ok ⟨[.literal "posts", .single "slug", .slash], none⟩ ∧
      WellFormed [.literal "posts", .single "slug", .slash] ∧
      IsSpelling [.literal "posts", .single "slug", .slash] "/posts/\x7bslug\x7d/\x7b$\x7d/" ∧
      parse (Pattern.mk [.literal "posts", .single "slug", .slash] none).render =
        .ok ⟨[.literal "posts", .single "slug", .slash], none⟩ := by
  have hparse : parse "/posts/\x7bslug\x7d/\x7b$\x7d/" =
      .ok ⟨[.literal "posts", .single "slug", .slash], none⟩ := by rfl
  obtain ⟨⟨hwell, hspell⟩, hrender⟩ :=
    (parse_spelling _ [.literal "posts", .single "slug", .slash]).2 _ hparse
  exact ⟨hparse, hwell, hspell, hrender⟩

end Pattern

end PathRouter

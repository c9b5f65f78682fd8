import PathRouter.Path

/-!
Paths as texts and as lists of parts. A rooted text is a list of pieces with a slash before each of
them; cutting it at its slashes gives the pieces back, and no other list of pieces without slashes
makes the same text.
-/

namespace PathRouter.Path

/-- The pieces with a slash before each of them. -/
def rooted (pieces : List (List Char)) : List Char := pieces.flatMap ('/' :: ·)

@[simp] theorem rooted_nil : rooted [] = [] := rfl

@[simp] theorem rooted_cons (piece : List Char) (later : List (List Char)) :
    rooted (piece :: later) = '/' :: (piece ++ rooted later) := rfl

@[simp] theorem rooted_append (first second : List (List Char)) :
    rooted (first ++ second) = rooted first ++ rooted second := List.flatMap_append

theorem rooted_eq_nil_iff {pieces : List (List Char)} : rooted pieces = [] ↔ pieces = [] := by
  cases pieces <;> simp

/-- A rooted text and the same pieces with slashes between them differ in the first slash. -/
theorem rooted_eq_intercalate {pieces : List (List Char)} (h : pieces ≠ []) :
    rooted pieces = '/' :: ['/'].intercalate pieces := by
  induction pieces with
  | nil => exact absurd rfl h
  | cons piece later ih =>
      cases later with
      | nil => simp [List.intercalate_singleton]
      | cons next more =>
          rw [rooted_cons, ih (List.cons_ne_nil _ _), List.intercalate_cons_cons]
          simp

theorem rooted_pieces (cs : List Char) : rooted (pieces cs) = '/' :: cs := by
  rw [rooted_eq_intercalate (pieces_ne_nil cs), intercalate_pieces]

theorem pieces_append_rooted {piece : List Char} {later : List (List Char)} (hpiece : '/' ∉ piece)
    (hlater : ∀ p ∈ later, '/' ∉ p) : pieces (piece ++ rooted later) = piece :: later := by
  induction later generalizing piece with
  | nil => rw [rooted_nil, List.append_nil, pieces_of_slash_not_mem hpiece]
  | cons next more ih =>
      have hnext := ih (hlater next List.mem_cons_self) fun p hp =>
        hlater p (List.mem_cons_of_mem _ hp)
      rw [rooted_cons, pieces_append hpiece, hnext]

/-- The pieces of a text are the one list of pieces without slashes that it is made of. -/
theorem pieces_eq_iff {cs : List Char} {ps : List (List Char)} (hne : ps ≠ [])
    (hfree : ∀ p ∈ ps, '/' ∉ p) : pieces cs = ps ↔ '/' :: cs = rooted ps := by
  constructor
  · rintro rfl
    exact (rooted_pieces cs).symm
  · intro h
    obtain ⟨piece, later, rfl⟩ := List.exists_cons_of_ne_nil hne
    rw [rooted_cons, List.cons_inj_right] at h
    rw [h]
    exact pieces_append_rooted (hfree piece List.mem_cons_self) fun p hp =>
      hfree p (List.mem_cons_of_mem _ hp)

/-- A slash between two texts keeps their pieces apart. -/
theorem pieces_slash_append (cs ds : List Char) :
    pieces (cs ++ '/' :: ds) = pieces cs ++ pieces ds := by
  have hne : pieces cs ++ pieces ds ≠ [] := List.append_ne_nil_of_left_ne_nil (pieces_ne_nil cs) _
  rw [pieces_eq_iff hne]
  · rw [rooted_append, rooted_pieces, rooted_pieces, List.cons_append]
  · intro piece hpiece
    rcases List.mem_append.1 hpiece with hpiece | hpiece
    · exact slash_not_mem_of_mem_pieces hpiece
    · exact slash_not_mem_of_mem_pieces hpiece

theorem map_ofList_eq_iff {ps : List (List Char)} {parts : List String} :
    ps.map String.ofList = parts ↔ ps = parts.map String.toList := by
  constructor
  · rintro rfl
    simp [Function.comp_def]
  · rintro rfl
    simp [Function.comp_def]

/-- The parts of a path are the one list of parts without slashes that it is made of. -/
theorem parts?_eq_some_iff {path : String} {parts : List String} :
    parts? path = some parts ↔
      path.toList = rooted (parts.map String.toList) ∧ ∀ part ∈ parts, '/' ∉ part.toList := by
  unfold parts?
  split
  · rename_i hpath
    rw [hpath, eq_comm (a := []), rooted_eq_nil_iff, List.map_eq_nil_iff]
    constructor
    · intro h
      obtain rfl := Option.some.inj h
      exact ⟨rfl, by simp⟩
    · rintro ⟨rfl, -⟩
      rfl
  · rename_i rest hpath
    rw [hpath, Option.some.injEq, map_ofList_eq_iff]
    constructor
    · intro h
      have hfree : ∀ piece ∈ pieces rest, '/' ∉ piece := fun _ => slash_not_mem_of_mem_pieces
      refine ⟨(pieces_eq_iff (h ▸ pieces_ne_nil rest) (h ▸ hfree)).1 h, fun part hpart => ?_⟩
      exact hfree _ (h ▸ List.mem_map_of_mem hpart)
    · rintro ⟨htext, hfree⟩
      have hne : parts.map String.toList ≠ [] := by
        rintro hnil
        rw [hnil] at htext
        exact List.cons_ne_nil _ _ htext
      exact (pieces_eq_iff hne (by simpa using hfree)).2 htext
  · rename_i hnil hslash
    -- The text is neither empty nor rooted, and lists of parts make no other texts.
    refine iff_of_false (by simp) ?_
    rintro ⟨htext, -⟩
    cases parts with
    | nil => exact hnil htext
    | cons part later => exact hslash _ htext

/-- Whatever parts without slashes there are, some path has them. -/
theorem exists_parts?_eq {parts : List String} (hfree : ∀ part ∈ parts, '/' ∉ part.toList) :
    ∃ path, parts? path = some parts :=
  ⟨String.ofList (rooted (parts.map String.toList)),
    parts?_eq_some_iff.2 ⟨String.toList_ofList, hfree⟩⟩

@[simp] theorem parts?_empty : parts? "" = some [] := rfl

/-- One part more in front of a path. -/
theorem parts?_slash_append {part rest : String} {parts : List String} (hpart : '/' ∉ part.toList)
    (h : parts? rest = some parts) : parts? ("/" ++ part ++ rest) = some (part :: parts) := by
  obtain ⟨htext, hfree⟩ := parts?_eq_some_iff.1 h
  refine parts?_eq_some_iff.2 ⟨?_, ?_⟩
  · simp [htext]
  · intro q hq
    rcases List.mem_cons.1 hq with rfl | hq
    · exact hpart
    · exact hfree q hq

theorem parts?_slash {part : String} (hpart : '/' ∉ part.toList) :
    parts? ("/" ++ part) = some [part] := by
  simpa using parts?_slash_append hpart parts?_empty

/-- The parts that are left of a path, written out with the slash before them. -/
theorem slash_join {parts : List String} (h : parts ≠ []) :
    '/' :: (join parts).toList = rooted (parts.map String.toList) := by
  rw [rooted_eq_intercalate (by simpa using h), join, String.toList_intercalate]
  rfl

/-- Every text is some parts with slashes between them. -/
theorem exists_join_eq (text : String) :
    ∃ parts, parts ≠ [] ∧ join parts = text ∧ ∀ part ∈ parts, '/' ∉ part.toList := by
  have hmap : ((pieces text.toList).map String.ofList).map String.toList = pieces text.toList :=
    (map_ofList_eq_iff.1 rfl).symm
  refine ⟨(pieces text.toList).map String.ofList, ?_, ?_, fun part hpart => ?_⟩
  · simpa using pieces_ne_nil text.toList
  · rw [← String.toList_inj, join, String.toList_intercalate, hmap]
    exact intercalate_pieces text.toList
  · exact slash_not_mem_of_mem_pieces (hmap ▸ List.mem_map_of_mem hpart)

end PathRouter.Path

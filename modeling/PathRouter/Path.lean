/-!
Paths and their parts. A path is rooted when it starts with a slash; its parts are then what
stands after each slash, so there are as many parts as slashes. The empty path has no part.
-/

namespace PathRouter.Path

/-- The pieces between slashes, one more than there are slashes. -/
def pieces : List Char → List (List Char)
  | [] => [[]]
  | c :: rest =>
      if c = '/' then [] :: pieces rest
      else match pieces rest with
        | [] => [[c]]
        | piece :: later => (c :: piece) :: later

theorem pieces_ne_nil (cs : List Char) : pieces cs ≠ [] := by
  cases cs with
  | nil => simp [pieces]
  | cons c rest =>
      unfold pieces
      split
      · simp
      · split <;> simp

/-- Slashes between the pieces give the text back. -/
theorem intercalate_pieces (cs : List Char) : ['/'].intercalate (pieces cs) = cs := by
  induction cs with
  | nil => rfl
  | cons c rest ih =>
      obtain ⟨piece, later, hp⟩ := List.exists_cons_of_ne_nil (pieces_ne_nil rest)
      rw [hp] at ih
      by_cases hc : c = '/'
      · rw [pieces, if_pos hc, hp, List.intercalate_cons_cons, ih, hc]
        rfl
      · rw [pieces, if_neg hc, hp]
        cases later with
        | nil =>
            rw [List.intercalate_singleton] at ih ⊢
            rw [ih]
        | cons next more =>
            rw [List.intercalate_cons_cons] at ih ⊢
            rw [← ih]
            rfl

theorem pieces_of_slash_not_mem {piece : List Char} (h : '/' ∉ piece) : pieces piece = [piece] := by
  induction piece with
  | nil => rfl
  | cons c rest ih =>
      rw [List.mem_cons, not_or] at h
      rw [pieces, if_neg (Ne.symm h.1), ih h.2]

theorem pieces_append {piece : List Char} (h : '/' ∉ piece) (rest : List Char) :
    pieces (piece ++ '/' :: rest) = piece :: pieces rest := by
  induction piece with
  | nil => rw [List.nil_append, pieces, if_pos rfl]
  | cons c more ih =>
      rw [List.mem_cons, not_or] at h
      rw [List.cons_append, pieces, if_neg (Ne.symm h.1), ih h.2]

theorem slash_not_mem_of_mem_pieces {cs piece : List Char} (h : piece ∈ pieces cs) :
    '/' ∉ piece := by
  induction cs generalizing piece with
  | nil =>
      rw [pieces, List.mem_singleton] at h
      simp [h]
  | cons c rest ih =>
      obtain ⟨first, later, hp⟩ := List.exists_cons_of_ne_nil (pieces_ne_nil rest)
      by_cases hc : c = '/'
      · rw [pieces, if_pos hc] at h
        rcases List.mem_cons.1 h with rfl | h
        · simp
        · exact ih h
      · rw [pieces, if_neg hc, hp] at h
        rcases List.mem_cons.1 h with rfl | h
        · have hfirst : '/' ∉ first := ih (hp ▸ List.mem_cons_self)
          simp [Ne.symm hc, hfirst]
        · exact ih (hp ▸ List.mem_cons_of_mem first h)

/-- Nothing for a path that is neither empty nor rooted. -/
def parts? (path : String) : Option (List String) :=
  match path.toList with
  | [] => some []
  | '/' :: rest => some ((pieces rest).map String.ofList)
  | _ => none

/-- The text that a list of parts was cut from, without the slash before the first of them. -/
def join (parts : List String) : String := "/".intercalate parts

end PathRouter.Path

import PathRouter.Proofs.Pattern.Grammar

/-!
Texts that go on. The reader tells the first fault of a text, so it never looks beyond that fault:
whatever follows after one more slash, the fault is told again. That a piece is the last one matters
in two places only, for an empty piece and for what follows the marker for a trailing slash, and in
both a last piece is allowed more than any other.
-/

namespace PathRouter

/-- A composition fails as another one does, if it starts in the same way and goes on to fail
wherever the other one does. -/
theorem bind_eq_error_of_forall {ε α β : Type} {x : Except ε α} {f g : α → Except ε β} {e : ε}
    (h : (x >>= f) = .error e) (hfg : ∀ a, f a = .error e → g a = .error e) :
    (x >>= g) = .error e := by
  rw [bind_eq_error_iff] at h ⊢
  exact h.imp_right fun ⟨a, ha, hf⟩ => ⟨a, ha, hfg a hf⟩

theorem bind_pure_eq_error_iff {ε α β : Type} {x : Except ε α} {f : α → β} {e : ε} :
    (x >>= fun a => pure (f a)) = .error e ↔ x = .error e := by
  simp [bind_eq_error_iff, pure, Except.pure]

namespace Pattern

/-- What may not follow a segment may not do so with more behind it. -/
theorem checkFinal_append_of_error {s : Segment} {pieces : List (List Char)} {fault : Fault}
    (h : checkFinal s pieces = .error fault) (more : List (List Char)) :
    checkFinal s (pieces ++ more) = .error fault := by
  cases s with
  | literal | single => contradiction
  | multi name =>
      cases pieces with
      | nil => contradiction
      | cons next later => exact h
  | slash =>
      match pieces with
      | [] => contradiction
      | [[]] => contradiction
      | [] :: _ :: _ => exact h
      | (_ :: _) :: _ => exact h

/-- Pieces with a fault have the same fault with more pieces behind them. -/
theorem ofPieces_append_of_error {taken : List String} {pieces : List (List Char)} {fault : Fault}
    (h : ofPieces taken pieces = .error fault) (more : List (List Char)) :
    ofPieces taken (pieces ++ more) = .error fault := by
  induction pieces generalizing taken with
  | nil => contradiction
  | cons cs rest ih =>
      by_cases hne : cs = []
      · subst hne
        cases rest with
        | nil => contradiction
        | cons next later => exact h
      · rw [List.cons_append]
        rw [ofPieces.eq_4 _ _ _ (fun h => absurd h hne) (fun h => absurd h hne)] at h ⊢
        refine bind_eq_error_of_forall h fun s hs => ?_
        refine bind_eq_error_of_forall hs fun _ hrest => ?_
        -- A rest is left to be read, or there must be none.
        cases s with
        | literal | single => exact bind_pure_eq_error_iff.2 (ih (bind_pure_eq_error_iff.1 hrest))
        | multi | slash =>
            have hfinal := bind_pure_eq_error_iff.1 hrest
            exact bind_pure_eq_error_iff.2 (checkFinal_append_of_error hfinal more)

theorem readSegments_of_rooted {text : String} {rest : List Char} (h : text.toList = '/' :: rest) :
    readSegments text = ofPieces [] (Path.pieces rest) := by
  rw [readSegments, h]
  rfl

theorem parse_eq_error_iff {text : String} {e : ParseError} :
    parse text = .error e ↔ ∃ fault, readSegments text = .error fault ∧ e = ⟨text, fault⟩ := by
  rw [parse]
  cases readSegments text with
  | ok segments => simp
  | error fault => simp [eq_comm]

/-- Whatever follows a rooted text after one more slash, the fault of the text is told of the whole.
So a pattern that can be read has no prefix at a slash that cannot. -/
theorem parse_extension {s : String} (hroot : s.toList.head? = some '/') (t : String) :
    (∀ e, parse s = .error e →
      e.pattern = s ∧ parse (s ++ "/" ++ t) = .error { e with pattern := s ++ "/" ++ t }) ∧
    ((∃ q, parse (s ++ "/" ++ t) = .ok q) → ∃ p, parse s = .ok p) := by
  obtain ⟨rest, hrest⟩ := List.head?_eq_some_iff.1 hroot
  have hlonger : (s ++ "/" ++ t).toList = '/' :: (rest ++ '/' :: t.toList) := by
    simp [hrest]
  have hfault (e : ParseError) (he : parse s = .error e) :
      e.pattern = s ∧ parse (s ++ "/" ++ t) = .error { e with pattern := s ++ "/" ++ t } := by
    obtain ⟨fault, hread, rfl⟩ := parse_eq_error_iff.1 he
    rw [readSegments_of_rooted hrest] at hread
    refine ⟨rfl, parse_eq_error_iff.2 ⟨fault, ?_, rfl⟩⟩
    rw [readSegments_of_rooted hlonger, Path.pieces_slash_append]
    exact ofPieces_append_of_error hread _
  refine ⟨hfault, ?_⟩
  rintro ⟨q, hq⟩
  cases hs : parse s with
  | ok p => exact ⟨p, rfl⟩
  | error e =>
      rw [(hfault e hs).2] at hq
      contradiction

/-- After the marker for a trailing slash one empty piece may follow, but not two; and a slash after
the marker does not ask for more than the marker. -/
theorem parse_extension_doubled :
    ("/posts/\x7b$\x7d//").toList.head? = some '/' ∧
      parse "/posts/\x7b$\x7d//" = .error ⟨"/posts/\x7b$\x7d//", .slashNotFinal⟩ ∧
      parse ("/posts/\x7b$\x7d//" ++ "/" ++ "\x7bid\x7d") =
        .error ⟨"/posts/\x7b$\x7d///\x7bid\x7d", .slashNotFinal⟩ ∧
      ("/posts/\x7b$\x7d").toList.head? = some '/' ∧
      (∃ q, parse ("/posts/\x7b$\x7d" ++ "/" ++ "") = .ok q) ∧
      ∃ p, parse "/posts/\x7b$\x7d" = .ok p := by
  have hfault : parse "/posts/\x7b$\x7d//" = .error ⟨"/posts/\x7b$\x7d//", .slashNotFinal⟩ := rfl
  have hread : parse ("/posts/\x7b$\x7d" ++ "/" ++ "") =
      .ok ⟨[.literal "posts", .slash], none⟩ := rfl
  obtain ⟨hlonger, -⟩ := parse_extension (s := "/posts/\x7b$\x7d//") rfl "\x7bid\x7d"
  obtain ⟨-, hshorter⟩ := parse_extension (s := "/posts/\x7b$\x7d") rfl ""
  exact ⟨rfl, hfault, (hlonger _ hfault).2, rfl, ⟨_, hread⟩, hshorter ⟨_, hread⟩⟩

end Pattern

end PathRouter

import PathRouter.Pattern.Grammar

/-!
Reading one piece of a pattern. A piece that is not empty is read as a segment exactly if the
segment is writable and the piece is its text, with the marker for a trailing slash written out.
-/

namespace PathRouter

namespace Segment

/-- The segment as it is written between two slashes. -/
def piece : Segment → List Char
  | .literal text => text.toList
  | .single name => '{' :: name.toList ++ ['}']
  | .multi name => '{' :: (name.getD "").toList ++ ['.', '.', '.', '}']
  | .slash => []

/-- The marker for a trailing slash where it is written out. -/
def marker : List Char := ['{', '$', '}']

theorem toList_render (s : Segment) : s.render.toList = '/' :: s.piece := by
  cases s <;> simp [render, piece]

theorem unbrace?_eq_some_iff {cs body : List Char} :
    unbrace? cs = some body ↔ cs = '{' :: body ++ ['}'] := by
  constructor
  · intro h
    unfold unbrace? at h
    split at h
    · rename_i rest
      split at h
      · rename_i hlast
        obtain rfl := Option.some.inj h
        obtain ⟨front, rfl⟩ := List.getLast?_eq_some_iff.1 hlast
        simp
      · contradiction
    · contradiction
  · rintro rfl
    simp [unbrace?]

theorem beforeDots?_eq_some_iff {body name : List Char} :
    beforeDots? body = some name ↔ body = name ++ ['.', '.', '.'] := by
  unfold beforeDots?
  constructor
  · intro h
    split at h
    · rename_i hdots
      obtain ⟨front, rfl⟩ := List.isSuffixOf_iff_suffix.1 hdots
      obtain rfl := Option.some.inj h
      simp
    · contradiction
  · rintro rfl
    rw [if_pos (List.isSuffixOf_iff_suffix.2 (List.suffix_append _ _))]
    simp

theorem checkName_eq_ok_iff {cs : List Char} {name : String} :
    checkName cs = .ok name ↔ isName name.toList ∧ cs = name.toList := by
  have hname : String.ofList cs = name ↔ cs = name.toList := by
    rw [← String.toList_inj, String.toList_ofList]
  by_cases h : isName cs
  · rw [checkName, if_pos h, Except.ok.injEq, hname]
    exact ⟨fun heq => ⟨heq ▸ h, heq⟩, fun heq => heq.2⟩
  · rw [checkName, if_neg h]
    refine iff_of_false (by simp) ?_
    rintro ⟨hn, rfl⟩
    exact h hn

theorem map_checkName_eq_ok_iff {cs : List Char} {wrap : String → Segment} {s : Segment} :
    (checkName cs).map wrap = .ok s ↔
      ∃ name, isName name.toList ∧ cs = name.toList ∧ wrap name = s := by
  simp only [← and_assoc, ← checkName_eq_ok_iff]
  cases checkName cs <;> simp [Except.map]

theorem isNamePart_of_mem {name : List Char} (h : isName name) {c : Char} (hc : c ∈ name) :
    isNamePart c := by
  cases name with
  | nil => simp at hc
  | cons first rest =>
      rw [isName, Bool.and_eq_true] at h
      rcases List.mem_cons.1 hc with rfl | hc
      · exact isNamePart_of_isNameStart h.1
      · exact List.all_eq_true.1 h.2 c hc

theorem delimiter_not_mem {name : List Char} (h : isName name) {c : Char}
    (hc : c ∈ ['/', '{', '}', '.', '$']) : c ∉ name := fun hmem =>
  Bool.false_ne_true ((isNamePart_delimiter hc).symm.trans (isNamePart_of_mem h hmem))

theorem any_isBrace_eq_false {cs : List Char} (hopen : '{' ∉ cs) (hclose : '}' ∉ cs) :
    cs.any isBrace = false := by
  rw [List.any_eq_false]
  intro c hc hbrace
  rw [isBrace, Bool.or_eq_true, beq_iff_eq, beq_iff_eq] at hbrace
  rcases hbrace with rfl | rfl
  · exact hopen hc
  · exact hclose hc

/-- What may stand between the braces, and the segment it is read as. -/
inductive Encloses : Segment → List Char → Prop where
  | slash : Encloses .slash ['$']
  | anonymous : Encloses (.multi none) ['.', '.', '.']
  | multi {name : String} (h : isName name.toList) :
      Encloses (.multi (some name)) (name.toList ++ ['.', '.', '.'])
  | single {name : String} (h : isName name.toList) : Encloses (.single name) name.toList

theorem encloses_of_ofBody {body : List Char} {s : Segment} (h : ofBody body = .ok s) :
    s.Encloses body := by
  unfold ofBody at h
  split at h
  · rename_i hbody
    cases h
    exact hbody ▸ .slash
  · split at h
    · rename_i hdots
      cases h
      exact beforeDots?_eq_some_iff.1 hdots ▸ .anonymous
    · rename_i front _ hdots
      obtain ⟨name, hname, rfl, rfl⟩ := map_checkName_eq_ok_iff.1 h
      exact beforeDots?_eq_some_iff.1 hdots ▸ .multi hname
    · obtain ⟨name, hname, rfl, rfl⟩ := map_checkName_eq_ok_iff.1 h
      exact .single hname

theorem ofBody_of_encloses {body : List Char} {s : Segment} (h : s.Encloses body) :
    ofBody body = .ok s := by
  unfold ofBody
  cases h with
  | slash => rfl
  | anonymous => rfl
  | @multi name hname =>
      have hmarker : name.toList ++ ['.', '.', '.'] ≠ ['$'] := by
        intro hdollar
        simpa using congrArg List.length hdollar
      rw [if_neg hmarker, beforeDots?_eq_some_iff.2 rfl]
      -- The anonymous wildcard is told apart by the empty list before the dots.
      cases hlist : name.toList with
      | nil =>
          rw [hlist] at hname
          exact absurd hname Bool.false_ne_true
      | cons first rest => exact map_checkName_eq_ok_iff.2 ⟨name, hname, hlist.symm, rfl⟩
  | @single name hname =>
      have hdots : beforeDots? name.toList = none := by
        rw [Option.eq_none_iff_forall_ne_some]
        intro front hfront
        rw [beforeDots?_eq_some_iff.1 hfront] at hname
        exact delimiter_not_mem hname (c := '.') (by decide) (by simp)
      have hmarker : name.toList ≠ ['$'] := by
        intro hdollar
        rw [hdollar] at hname
        exact delimiter_not_mem hname (c := '$') (by decide) (by simp)
      rw [if_neg hmarker, hdots]
      exact map_checkName_eq_ok_iff.2 ⟨name, hname, rfl, rfl⟩

theorem Encloses.isWritable {s : Segment} {body : List Char} (h : s.Encloses body) :
    s.IsWritable := by
  cases h with
  | slash => exact .slash
  | anonymous => exact .anonymous
  | multi hname => exact .multi hname
  | single hname => exact .single hname

theorem Encloses.any_isBrace {s : Segment} {body : List Char} (h : s.Encloses body) :
    body.any isBrace = false := by
  have hbrace {name : String} (hname : isName name.toList) : name.toList.any isBrace = false :=
    any_isBrace_eq_false (delimiter_not_mem hname (by decide))
      (delimiter_not_mem hname (by decide))
  cases h with
  | slash => rfl
  | anonymous => rfl
  | multi hname =>
      rw [List.any_append, hbrace hname]
      rfl
  | single hname => exact hbrace hname

/-- The text of a segment that is read from one piece that is not empty. -/
def written : Segment → List Char
  | .slash => marker
  | s => s.piece

theorem Encloses.written_eq {s : Segment} {body : List Char} (h : s.Encloses body) :
    s.written = '{' :: body ++ ['}'] := by
  cases h <;> simp [written, piece, marker]

theorem IsWritable.literal_or_encloses {s : Segment} (h : s.IsWritable) :
    (∃ text, s = .literal text) ∨ ∃ body, s.Encloses body := by
  cases h with
  | literal => exact .inl ⟨_, rfl⟩
  | single hname => exact .inr ⟨_, .single hname⟩
  | multi hname => exact .inr ⟨_, .multi hname⟩
  | anonymous => exact .inr ⟨_, .anonymous⟩
  | slash => exact .inr ⟨_, .slash⟩

/-- A piece that is not empty is read as a segment exactly if it is the text of that segment. A
brace anywhere in the piece decides that it is not a literal; what stands between braces is the
rest. -/
theorem ofPiece_eq_ok_iff {cs : List Char} (hne : cs ≠ []) (hfree : '/' ∉ cs) {s : Segment} :
    ofPiece cs = .ok s ↔ s.IsWritable ∧ cs = s.written := by
  constructor
  · intro h
    unfold ofPiece at h
    split at h
    · split at h
      · rename_i body hbody
        split at h
        · contradiction
        · have hs := encloses_of_ofBody h
          exact ⟨hs.isWritable, hs.written_eq ▸ unbrace?_eq_some_iff.1 hbody⟩
      · contradiction
    · rename_i hplain
      cases h
      refine ⟨.literal ?_ (by simpa using hfree) (by simpa using hplain), ?_⟩
      · intro hempty
        rw [← String.toList_inj, String.toList_ofList] at hempty
        exact hne hempty
      · simp [written, piece]
  · rintro ⟨hs, rfl⟩
    obtain ⟨text, rfl⟩ | ⟨body, hbody⟩ := hs.literal_or_encloses
    · cases hs with
      | literal _ _ plain =>
          change ofPiece text.toList = .ok (.literal text)
          rw [ofPiece, if_neg plain, String.ofList_toList]
    · have hany : ('{' :: body ++ ['}']).any isBrace = true := by simp [isBrace]
      rw [hbody.written_eq, ofPiece, if_pos hany, unbrace?_eq_some_iff.2 rfl]
      change (if body.any isBrace = true then _ else ofBody body) = _
      rw [hbody.any_isBrace, if_neg Bool.false_ne_true, ofBody_of_encloses hbody]

end Segment

end PathRouter

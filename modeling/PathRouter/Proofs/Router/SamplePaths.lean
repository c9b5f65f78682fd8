import PathRouter.Proofs.Router.Verdict

/-!
The paths by which two patterns are told apart, and the one on which they meet. They are written
from the texts of the patterns without looking for a path, and yet the own path of a pattern leaves
the other one wherever any path does, and the shared path is a path of both wherever there is one.
So a refusal shows paths on which the two routes differ and meet indeed.
-/

namespace PathRouter

namespace Pattern

variable {p q : Pattern}

theorem ownPath_mem_paths (hp : Tidy p.segments) (q : Pattern) : p.ownPath q ∈ p.paths :=
  (mem_paths_iff_reaches hp).2 (Relation.reaches_ownSample hp q.segments)

/-- The other pattern has the own path of this one only if it has all its paths. -/
theorem paths_subset_of_ownPath_mem (hp : Tidy p.segments) (hq : Tidy q.segments)
    (h : p.ownPath q ∈ q.paths) : p.paths ⊆ q.paths := by
  -- The own path is a common one, so the two patterns are compared to the end.
  obtain ⟨parts, hparts, hfits⟩ := (matches_iff hp).1 (ownPath_mem_paths hp q)
  obtain ⟨a, b, hsurplus⟩ :=
    Relation.exists_surplus_of_fits hp hq hfits ((matches_iff_fits hq hparts).1 h)
  apply (paths_subset_iff hp hq hsurplus).2
  cases a with
  | false => rfl
  | true => exact absurd ((mem_paths_iff_reaches hq).1 h) (hsurplus.not_reaches_ownSample hp hq rfl)

theorem ownPath_mem_diff (hp : Tidy p.segments) (hq : Tidy q.segments)
    (h : ¬ p.paths ⊆ q.paths) : p.ownPath q ∈ p.paths \ q.paths :=
  ⟨ownPath_mem_paths hp q, fun hmem => h (paths_subset_of_ownPath_mem hp hq hmem)⟩

theorem not_paths_subset_of_relation (hp : Tidy p.segments) (hq : Tidy q.segments)
    (h : p.relation q = .moreGeneral ∨ p.relation q = .overlapping ∨ p.relation q = .disjoint) :
    ¬ p.paths ⊆ q.paths := by
  have hholds := relation_holds hp hq
  rcases h with h | h | h <;> rw [h] at hholds
  · exact hholds.not_subset
  · exact hholds.2.1
  · obtain ⟨path, hpath⟩ := paths_nonempty hp
    exact fun hsub => hholds path ⟨hpath, hsub hpath⟩

theorem sharedPath_mem_of_relation (hp : Tidy p.segments) (hq : Tidy q.segments)
    (h : p.relation q ≠ .disjoint) : p.sharedPath q ∈ p.paths ∩ q.paths := by
  obtain ⟨a, b, hsurplus⟩ := Relation.exists_surplus_of_between h
  obtain ⟨hshared_p, hshared_q⟩ := hsurplus.reaches_sharedSample hp hq
  exact ⟨(mem_paths_iff_reaches hp).2 hshared_p, (mem_paths_iff_reaches hq).2 hshared_q⟩

theorem inter_paths_nonempty_iff (hp : Tidy p.segments) (hq : Tidy q.segments) :
    (p.paths ∩ q.paths).Nonempty ↔ p.relation q ≠ .disjoint := by
  constructor
  · rintro ⟨path, hpath⟩ hdisjoint
    have hholds := relation_holds hp hq
    rw [hdisjoint] at hholds
    exact hholds path hpath
  · intro h
    exact ⟨p.sharedPath q, sharedPath_mem_of_relation hp hq h⟩

theorem sharedPath_mem_inter (hp : Tidy p.segments) (hq : Tidy q.segments)
    (h : (p.paths ∩ q.paths).Nonempty) : p.sharedPath q ∈ p.paths ∩ q.paths :=
  sharedPath_mem_of_relation hp hq ((inter_paths_nonempty_iff hp hq).1 h)

end Pattern

/-- The two routes of a conflict, with the path on which they are said to meet. -/
def RouteError.meeting? : RouteError → Option (RoutePair × String)
  | .equivalent pair witness | .overlapping pair witness _ _ => some (pair, witness)
  | .parse _ _ | .duplicateName _ | .sameNode _ _ => none

namespace Registry

variable {α : Type u} {reg reg' : Registry α} {name text : String} {action : α}
  {error : RouteError}

/-- A refusal that names two routes comes from a clash of the new pattern with an existing one. -/
theorem Sound.exists_clash (h : reg.Sound) (hadd : reg.add name text action = (.error error, reg'))
    {pair : RoutePair} {witness : String} (hmeeting : error.meeting? = some (pair, witness)) :
    ∃ p other, Pattern.parse text = .ok p ∧ other ∈ reg.routes ∧ Clash name p other error := by
  rcases h.add_cases name text action with ⟨p, -, hok⟩ | ⟨error', hrefused, herror⟩
  · rw [hok] at hadd
    cases hadd
  · rw [herror] at hadd
    obtain ⟨⟨⟩, -⟩ := Prod.mk.inj hadd
    cases hrefused with
    | taken | unreadable => contradiction
    | @conflicting _ p hparse i other hother _ _ hclash =>
        have hmem : other ∈ reg.routes := Array.mem_toList_iff.1 (List.mem_of_getElem? hother)
        exact ⟨p, other, hparse, hmem, hclash⟩

/-- The own path of a pattern is always one of its paths, and one of the other pattern only if all
its paths are. Where a registration is refused because of an overlap, the path for the new route
belongs to it alone, and so does the path for the existing one. -/
theorem ownPath_tells_apart {earlier : List (String × String × α)}
    (hreg : empty.addAll earlier = reg) :
    (∀ s t p q, Pattern.parse s = .ok p → Pattern.parse t = .ok q →
      p.ownPath q ∈ p.paths ∧ (p.ownPath q ∈ q.paths → p.paths ⊆ q.paths) ∧
      (p.relation q = .moreGeneral ∨ p.relation q = .overlapping ∨ p.relation q = .disjoint →
        p.ownPath q ∉ q.paths)) ∧
    ∀ name text action pair witness onlyNew onlyExisting reg',
      reg.add name text action =
        (.error (.overlapping pair witness onlyNew onlyExisting), reg') →
      ∃ p other, Pattern.parse text = .ok p ∧ other ∈ reg.routes ∧
        pair = conflictPair name p other ∧ onlyNew ∈ p.paths \ other.pattern.paths ∧
        onlyExisting ∈ other.pattern.paths \ p.paths := by
  constructor
  · intro s t p q hp hq
    have htp := (Pattern.wellFormed_of_parse hp).tidy
    have htq := (Pattern.wellFormed_of_parse hq).tidy
    refine ⟨Pattern.ownPath_mem_paths htp q, Pattern.paths_subset_of_ownPath_mem htp htq, ?_⟩
    intro hrelation
    have hsub := Pattern.not_paths_subset_of_relation htp htq hrelation
    exact (Pattern.ownPath_mem_diff htp htq hsub).2
  · intro name text action pair witness onlyNew onlyExisting reg' hadd
    have hsound : reg.Sound := hreg ▸ sound_empty.addAll earlier
    obtain ⟨p, other, hparse, hother, hclash⟩ := hsound.exists_clash hadd rfl
    have htp := (Pattern.wellFormed_of_parse hparse).tidy
    have hto := hsound.tidy hother
    cases hclash with
    | overlapping hshared hnew hexisting =>
        exact ⟨p, other, hparse, hother, rfl, Pattern.ownPath_mem_diff htp hto hnew,
          Pattern.ownPath_mem_diff hto htp hexisting⟩

/-- The wildcard of the first pattern is called as the literal that it has to avoid, and in the
refusal each of the two patterns has a wildcard where the other has a literal. -/
theorem ownPath_tells_apart_same_text :
    ∃ (p q : Pattern) (reg reg' : Registry Nat) (pair : RoutePair) (witness : String),
      Pattern.parse "/\x7bb\x7d" = .ok p ∧ Pattern.parse "/b" = .ok q ∧
      p.relation q = .moreGeneral ∧ p.ownPath q = "/bx" ∧ "/bx" ∉ q.paths ∧
      empty.addAll [("raw", "/\x7bowner\x7d/raw", 0)] = reg ∧
      reg.add "file" "/ada/\x7bfile\x7d" 1 =
        (.error (.overlapping pair witness "/ada/file" "/owner/raw"), reg') ∧
      ∃ p other, Pattern.parse "/ada/\x7bfile\x7d" = .ok p ∧ other ∈ reg.routes ∧
        pair = conflictPair "file" p other ∧ "/ada/file" ∈ p.paths \ other.pattern.paths ∧
        "/owner/raw" ∈ other.pattern.paths \ p.paths := by
  have hp : Pattern.parse "/\x7bb\x7d" = .ok ⟨[.single "b"], none⟩ := rfl
  have hq : Pattern.parse "/b" = .ok ⟨[.literal "b"], none⟩ := rfl
  have hrun : ((empty.addAll [("raw", "/\x7bowner\x7d/raw", 0)]).add "file"
      "/ada/\x7bfile\x7d" 1).1 =
        .error (.overlapping ⟨"file", "/ada/\x7bfile\x7d", "raw", "/\x7bowner\x7d/raw"⟩
          "/ada/raw" "/ada/file" "/owner/raw") := by cbv
  obtain ⟨hpatterns, hrefused⟩ :=
    @ownPath_tells_apart Nat _ [("raw", "/\x7bowner\x7d/raw", 0)] rfl
  obtain ⟨-, -, happart⟩ := hpatterns _ _ _ _ hp hq
  exact ⟨_, _, _, _, _, _, hp, hq, rfl, rfl, happart (.inl rfl), rfl, Prod.ext hrun rfl,
    hrefused _ _ _ _ _ _ _ _ (Prod.ext hrun rfl)⟩

/-- Patterns have a path in common exactly if they are not disjoint, and then their shared path is
one. So the path that is shown with a conflict is a path of both routes that are named. -/
theorem sharedPath_of_both {earlier : List (String × String × α)}
    (hreg : empty.addAll earlier = reg) :
    (∀ s t p q, Pattern.parse s = .ok p → Pattern.parse t = .ok q →
      ((p.paths ∩ q.paths).Nonempty ↔ p.relation q ≠ .disjoint) ∧
      ((p.paths ∩ q.paths).Nonempty → p.sharedPath q ∈ p.paths ∩ q.paths)) ∧
    ∀ name text action error reg' pair witness,
      reg.add name text action = (.error error, reg') →
      error.meeting? = some (pair, witness) →
      ∃ p other, Pattern.parse text = .ok p ∧ other ∈ reg.routes ∧
        pair = conflictPair name p other ∧ witness ∈ p.paths ∩ other.pattern.paths := by
  constructor
  · intro s t p q hp hq
    have htp := (Pattern.wellFormed_of_parse hp).tidy
    have htq := (Pattern.wellFormed_of_parse hq).tidy
    exact ⟨Pattern.inter_paths_nonempty_iff htp htq, Pattern.sharedPath_mem_inter htp htq⟩
  · intro name text action error reg' pair witness hadd hmeeting
    have hsound : reg.Sound := hreg ▸ sound_empty.addAll earlier
    obtain ⟨p, other, hparse, hother, hclash⟩ := hsound.exists_clash hadd hmeeting
    have htp := (Pattern.wellFormed_of_parse hparse).tidy
    have hto := hsound.tidy hother
    have hshared := Pattern.sharedPath_mem_inter htp hto
    cases hclash with
    | equivalent hsame =>
        cases hmeeting
        obtain ⟨path, hpath⟩ := Pattern.paths_nonempty htp
        exact ⟨p, other, hparse, hother, rfl, hshared ⟨path, hpath, hsame ▸ hpath⟩⟩
    | overlapping hmeet =>
        cases hmeeting
        exact ⟨p, other, hparse, hother, rfl, hshared hmeet⟩

/-- The wildcard for all that is left has to take what the other pattern still has after it. -/
theorem sharedPath_of_both_rest :
    ∃ (p q : Pattern) (reg reg' : Registry Nat) (error : RouteError) (pair : RoutePair),
      Pattern.parse "/\x7bx\x7d/\x7bw\x7d/c" = .ok p ∧
      Pattern.parse "/a/\x7bz...\x7d" = .ok q ∧
      p.relation q = .overlapping ∧ p.sharedPath q = "/a/w/c" ∧
      "/a/w/c" ∈ p.paths ∩ q.paths ∧
      empty.addAll [("below", "/a/\x7bz...\x7d", 0)] = reg ∧
      reg.add "third" "/\x7bx\x7d/\x7bw\x7d/c" 1 = (.error error, reg') ∧
      error.meeting? = some (pair, "/a/w/c") ∧
      ∃ p other, Pattern.parse "/\x7bx\x7d/\x7bw\x7d/c" = .ok p ∧ other ∈ reg.routes ∧
        pair = conflictPair "third" p other ∧ "/a/w/c" ∈ p.paths ∩ other.pattern.paths := by
  have hp : Pattern.parse "/\x7bx\x7d/\x7bw\x7d/c" =
      .ok ⟨[.single "x", .single "w", .literal "c"], none⟩ := rfl
  have hq : Pattern.parse "/a/\x7bz...\x7d" =
      .ok ⟨[.literal "a", .multi (some "z")], none⟩ := rfl
  have hrun : ((empty.addAll [("below", "/a/\x7bz...\x7d", 0)]).add "third"
      "/\x7bx\x7d/\x7bw\x7d/c" 1).1 =
        .error (.overlapping
          ⟨"third", "/\x7bx\x7d/\x7bw\x7d/c", "below", "/a/\x7bz...\x7d"⟩
          "/a/w/c" "/x/w/c" "/a/") := by cbv
  obtain ⟨hpatterns, hrefused⟩ := @sharedPath_of_both Nat _ [("below", "/a/\x7bz...\x7d", 0)] rfl
  obtain ⟨hmeet, hshared⟩ := hpatterns _ _ _ _ hp hq
  exact ⟨_, _, _, _, _, _, hp, hq, rfl, rfl, hshared (hmeet.2 (by decide)), rfl,
    Prod.ext hrun rfl, rfl, hrefused _ _ _ _ _ _ _ (Prod.ext hrun rfl) rfl⟩

end Registry

end PathRouter

import PathRouter.Proofs.Relation
import PathRouter.Proofs.Trie.Insertion

/-!
When two patterns are the same. They may be compared by their shapes, by what either has beyond the
other, by the place that a trie has for them, or by the paths that they match. Each of the first
three is a walk of its own over the segments, and all of them come down to the key: patterns that
were read have the same key exactly if they are the same in any of these ways.
-/

namespace PathRouter

/-! ### Shapes -/

/-- Segments that were read have the same shapes exactly if they have the same key, since a key
leaves out nothing but names and what stands behind an end. -/
theorem Tidy.alikeAll_iff {ss ts : List Segment} (hs : Tidy ss) (ht : Tidy ts) :
    Pattern.alikeAll ss ts ↔ Key.ofSegments ss = Key.ofSegments ts := by
  induction hs generalizing ts with
  | nil => cases ht <;> simp [Pattern.alikeAll, Key.ofSegments]
  | literal _ _ ih =>
      cases ht with
      | literal _ ht => simp [Pattern.alikeAll, Segment.alike, Key.ofSegments, ih ht]
      | nil | single | multi | slash => simp [Pattern.alikeAll, Segment.alike, Key.ofSegments]
  | single _ _ ih =>
      cases ht with
      | single _ ht => simp [Pattern.alikeAll, Segment.alike, Key.ofSegments, ih ht]
      | nil | literal | multi | slash => simp [Pattern.alikeAll, Segment.alike, Key.ofSegments]
  | multi => cases ht <;> simp [Pattern.alikeAll, Segment.alike, Key.ofSegments]
  | slash => cases ht <;> simp [Pattern.alikeAll, Segment.alike, Key.ofSegments]

/-! ### Comparisons -/

namespace Relation

theorem ofSurplus_eq_equivalent_iff {a b : Bool} :
    ofSurplus a b = .equivalent ↔ a = false ∧ b = false := by
  cases a <;> cases b <;> simp [ofSurplus]

/-- Sides of which neither has anything beyond the other have the same key. -/
theorem Surplus.key_eq {ss ts : List Segment} {a b : Bool} (h : Surplus ss ts a b)
    (ha : a = false) (hb : b = false) : Key.ofSegments ss = Key.ofSegments ts := by
  induction h with
  | nil | multis | slashes => rfl
  | multiLeft | singleLiteral => contradiction
  | multiRight | literalSingle => contradiction
  | singles _ ih => exact congrArg Key.single (ih ha hb)
  | @literals text _ _ _ _ _ ih => exact congrArg (Key.literal text) (ih ha hb)

end Relation

namespace Pattern

variable {p q : Pattern}

theorem beq_iff_key_eq (hp : Tidy p.segments) (hq : Tidy q.segments) :
    (p == q) = true ↔ p.key = q.key :=
  hp.alikeAll_iff hq

theorem relation_eq_equivalent_iff (hp : Tidy p.segments) (hq : Tidy q.segments) :
    p.relation q = .equivalent ↔ p.key = q.key := by
  constructor
  · intro h
    have hne : p.relation q ≠ .disjoint := by
      rw [h]
      exact Relation.noConfusion
    obtain ⟨a, b, hsurplus⟩ := Relation.exists_surplus_of_between hne
    rw [relation_eq_ofSurplus hsurplus, Relation.ofSurplus_eq_equivalent_iff] at h
    exact hsurplus.key_eq h.1 h.2
  · exact relation_eq_equivalent hp hq

/-- The relation tells whether the paths are the same, as it tells everything else about them. -/
theorem paths_eq_iff (hp : Tidy p.segments) (hq : Tidy q.segments) :
    p.paths = q.paths ↔ p.key = q.key := by
  rw [← relation_eq_equivalent_iff hp hq]
  have hholds := relation_holds hp hq
  constructor
  · exact fun hpaths => hholds.unique (paths_nonempty hp) (paths_nonempty hq) hpaths
  · intro h
    rw [h] at hholds
    exact hholds

end Pattern

/-! ### Places -/

namespace Stock

variable {stock : Stock}

/-- Which insertion has the place already is a matter of the key. -/
theorem Sound.into_fst_eq_some_iff (h : stock.Sound) {call : Insertion} {holder : RouteId} :
    (call.into stock.trie).1 = some holder ↔
      ∃ earlier ∈ stock.stored, earlier.key = call.key ∧ earlier.id = holder := by
  rw [Insertion.into, Trie.insert_fst, h.route?_eq_some_iff]
  rfl

/-- Where no two insertions have the same number, the number of one is found exactly in the place of
its own key. -/
theorem Sound.into_fst_eq_id_iff (h : stock.Sound) (hids : (stock.stored.map Insertion.id).Nodup)
    {earlier : Insertion} (hearlier : earlier ∈ stock.stored) {call : Insertion} :
    (call.into stock.trie).1 = some earlier.id ↔ earlier.key = call.key := by
  rw [h.into_fst_eq_some_iff]
  constructor
  · rintro ⟨other, hother, hkey, hid⟩
    obtain rfl := List.inj_on_of_nodup_map hids hother hearlier hid
    exact hkey
  · exact fun hkey => ⟨earlier, hearlier, hkey, rfl⟩

theorem nodup_stored_ids {calls : List Insertion} (h : (calls.map Insertion.id).Nodup) :
    ((ofList calls).stored.map Insertion.id).Nodup :=
  h.sublist ((stored_ofList_sublist calls).map Insertion.id)

/-- The first insertion finds its place free. -/
theorem stored_singleton (call : Insertion) : (ofList [call]).stored = [call] := by
  have hfree : (call.into empty.trie).1 = none := by
    rw [Insertion.into, Trie.insert_fst]
    exact Trie.route?_empty _
  show (empty.add call).stored = [call]
  rw [add_of_free hfree]
  rfl

end Stock

namespace Pattern

/-- In whatever trie the first pattern has a place, the second one finds that place, and finds it
taken by the first. -/
def SharePlace (p q : Pattern) : Prop :=
  ∀ calls : List Insertion, (calls.map Insertion.id).Nodup →
    ∀ call ∈ (Stock.ofList calls).stored, call.segments = p.segments →
      ∀ id : RouteId, ((Insertion.mk id q.segments).into (Stock.ofList calls).trie).1 = some call.id

variable {p q : Pattern}

/-- On each single trie in which the first pattern has a place. -/
theorem into_fst_eq_id_iff {calls : List Insertion} (hids : (calls.map Insertion.id).Nodup)
    {call : Insertion} (hcall : call ∈ (Stock.ofList calls).stored)
    (hsegments : call.segments = p.segments) (id : RouteId) :
    ((Insertion.mk id q.segments).into (Stock.ofList calls).trie).1 = some call.id ↔
      p.key = q.key := by
  rw [(Stock.sound_ofList calls).into_fst_eq_id_iff (Stock.nodup_stored_ids hids) hcall,
    Insertion.key, hsegments]
  rfl

theorem sharePlace_iff : p.SharePlace q ↔ p.key = q.key := by
  constructor
  · intro h
    -- There is a trie in which the first pattern has a place: the one that holds nothing else.
    have hcall : Insertion.mk 0 p.segments ∈ (Stock.ofList [⟨0, p.segments⟩]).stored := by
      rw [Stock.stored_singleton]
      exact List.mem_singleton_self _
    have hids : ([Insertion.mk 0 p.segments].map Insertion.id).Nodup := List.nodup_singleton _
    exact (into_fst_eq_id_iff hids hcall rfl 0).1 (h _ hids _ hcall rfl 0)
  · intro hkey calls hids call hcall hsegments id
    exact (into_fst_eq_id_iff hids hcall hsegments id).2 hkey

/-- Patterns that were read are equal in shape, compare as equivalent, share a place in every trie
and match the same paths all at once; and one trie in which the first of them has a place is enough
to tell. -/
theorem sameness {s t : String} (hp : parse s = .ok p) (hq : parse t = .ok q) :
    [(p == q) = true, p.relation q = .equivalent, p.SharePlace q, p.paths = q.paths].TFAE ∧
      ∀ calls : List Insertion, (calls.map Insertion.id).Nodup →
        ∀ call ∈ (Stock.ofList calls).stored, call.segments = p.segments → ∀ id : RouteId,
          (((Insertion.mk id q.segments).into (Stock.ofList calls).trie).1 = some call.id ↔
            (p == q) = true) := by
  have htp := (wellFormed_of_parse hp).tidy
  have htq := (wellFormed_of_parse hq).tidy
  have hshape := beq_iff_key_eq htp htq
  constructor
  · tfae_have 1 ↔ 2 := hshape.trans (relation_eq_equivalent_iff htp htq).symm
    tfae_have 1 ↔ 3 := hshape.trans sharePlace_iff.symm
    tfae_have 1 ↔ 4 := hshape.trans (paths_eq_iff htp htq).symm
    tfae_finish
  · intro calls hids call hcall hsegments id
    rw [hshape]
    exact into_fst_eq_id_iff hids hcall hsegments id

/-- Another name and another spelling of the end make no other pattern, but to leave the end out
does. -/
theorem sameness_other_names :
    ∃ (p q other : Pattern) (stock : Stock),
      parse "/users/\x7bid\x7d/" = .ok p ∧ parse "/users/\x7bname\x7d/\x7b$\x7d" = .ok q ∧
      parse "/users/\x7bid\x7d" = .ok other ∧
      Stock.ofList [⟨4, p.segments⟩, ⟨7, other.segments⟩, ⟨5, q.segments⟩] = stock ∧
      (p == q) = true ∧ p.relation q = .equivalent ∧ p.SharePlace q ∧ p.paths = q.paths ∧
      ((Insertion.mk 9 q.segments).into stock.trie).1 = some 4 ∧
      (p == other) = false ∧ p.relation other ≠ .equivalent ∧ p.paths ≠ other.paths ∧
      ((Insertion.mk 9 other.segments).into stock.trie).1 ≠ some 4 := by
  have hp : parse "/users/\x7bid\x7d/" = .ok ⟨[.literal "users", .single "id", .slash], none⟩ := rfl
  have hq : parse "/users/\x7bname\x7d/\x7b$\x7d" =
      .ok ⟨[.literal "users", .single "name", .slash], none⟩ := rfl
  have hother : parse "/users/\x7bid\x7d" = .ok ⟨[.literal "users", .single "id"], none⟩ := rfl
  obtain ⟨hsame, hplaces⟩ := sameness hp hq
  obtain ⟨hdiffer, hplaces'⟩ := sameness hp hother
  let calls : List Insertion := [⟨4, [.literal "users", .single "id", .slash]⟩,
    ⟨7, [.literal "users", .single "id"]⟩, ⟨5, [.literal "users", .single "name", .slash]⟩]
  have hids : (calls.map Insertion.id).Nodup := by decide
  have hcall : ⟨4, [.literal "users", .single "id", .slash]⟩ ∈ (Stock.ofList calls).stored :=
    List.mem_cons_self
  have hrelation := (hsame.out 0 1).1 rfl
  have hshare := (hsame.out 0 2).1 rfl
  have hpaths := (hsame.out 0 3).1 rfl
  refine ⟨_, _, _, _, hp, hq, hother, rfl, rfl, hrelation, hshare, hpaths,
    (hplaces calls hids _ hcall rfl 9).2 rfl, rfl, ?_, ?_, ?_⟩
  · exact fun h => Bool.false_ne_true ((hdiffer.out 0 1).2 h)
  · exact fun h => Bool.false_ne_true ((hdiffer.out 0 3).2 h)
  · exact fun h => Bool.false_ne_true ((hplaces' calls hids _ hcall rfl 9).1 h)

end Pattern

end PathRouter

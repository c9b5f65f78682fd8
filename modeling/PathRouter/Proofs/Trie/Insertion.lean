import PathRouter.Pattern.Grammar
import PathRouter.Proofs.Trie.Entries

/-!
Insertions one after the other, of whatever segments. Only the outline of a list of segments matters:
an insertion fails exactly if an earlier one with the same outline was successful. One that fails
changes no answer of the trie, and one that is successful changes only those answers that are now
its own route.
-/

namespace PathRouter

/-! ### Outlines -/

namespace Segment

/-- The segment without the name of its wildcard. -/
def nameless : Segment → Segment
  | .single _ => .single ""
  | .multi _ => .multi none
  | s => s

/-- The segments up to the first after which nothing may follow, without the names of their
wildcards. -/
def outline (segments : List Segment) : List Segment :=
  (segments.take (segments.findIdx (IsFinal ·) + 1)).map nameless

theorem outline_nil : outline [] = [] := rfl

theorem outline_cons (s : Segment) (later : List Segment) :
    outline (s :: later) = s.nameless :: if s.IsFinal then [] else outline later := by
  by_cases hs : s.IsFinal
  · simp [outline, List.findIdx_cons, hs]
  · simp [outline, List.findIdx_cons, hs]

/-- Lists of segments have the same outline exactly if they have the same key. -/
theorem outline_eq_iff {ss ts : List Segment} :
    outline ss = outline ts ↔ Key.ofSegments ss = Key.ofSegments ts := by
  induction ss generalizing ts with
  | nil =>
      cases ts with
      | nil => exact iff_of_true rfl rfl
      | cons t ts => cases t <;> simp [outline_nil, outline_cons, Key.ofSegments]
  | cons s ss ih =>
      cases ts with
      | nil => cases s <;> simp [outline_nil, outline_cons, Key.ofSegments]
      | cons t ts =>
          cases s <;> cases t <;> simp [outline_cons, nameless, IsFinal, Key.ofSegments, ih]

end Segment

namespace Trie

variable {t t' : Trie}

/-! ### Answers and routes -/

theorem pick_congr (hsame : ∀ k, t.route? k = t'.route? k) (parts : List String) :
    t.pick parts = t'.pick parts := by
  ext f
  rw [pick_eq_some_iff, pick_eq_some_iff]
  simp only [hsame]

/-- What the new route does not answer is answered as before. -/
theorem pick_of_new {key : Key} {id : RouteId} (hnew : t.route? key = none)
    (hroute : ∀ k, t'.route? k = if k = key then some id else t.route? k) (parts : List String) :
    t'.pick parts = t.pick parts ∨ ∃ f, t'.pick parts = some f ∧ f.id = id := by
  have hold {k : Key} {i : RouteId} (h : t.route? k = some i) : t'.route? k = some i := by
    have hk : k ≠ key := by
      rintro rfl
      rw [hnew] at h
      contradiction
    rw [hroute, if_neg hk, h]
  cases hpick : t'.pick parts with
  | none =>
      have hnone := pick_eq_none_iff.1 hpick
      exact .inl (pick_eq_none_iff.2 fun k i h => hnone k i (hold h)).symm
  | some f =>
      obtain ⟨hf, hvalues, hfirst⟩ := pick_eq_some_iff.1 hpick
      rw [hroute] at hf
      by_cases hkey : f.key = key
      · rw [if_pos hkey] at hf
        exact .inr ⟨f, rfl, (Option.some.inj hf).symm⟩
      · rw [if_neg hkey] at hf
        exact .inl (pick_eq_some_iff.2 ⟨hf, hvalues, fun k i h => hfirst k i (hold h)⟩).symm

/-- Tries that pick the same give the same answer to a search, captures included. -/
theorem find_eq_of_pick {path : String}
    (h : ∀ parts, Path.parts? path = some parts → t.pick parts = t'.pick parts) :
    t.find path = t'.find path := by
  funext captures
  have hbind : (Path.parts? path).bind t.pick = (Path.parts? path).bind t'.pick := by
    cases hparts : Path.parts? path with
    | none => rfl
    | some parts => exact h parts hparts
  rw [finds_find, finds_find, hbind]

theorem find_fst_of_pick {path : String} {parts : List String} {f : Found}
    (hparts : Path.parts? path = some parts) (hpick : t.pick parts = some f)
    (captures : Array String) : (t.find path captures).1 = some f.id := by
  rw [finds_find, hparts, Option.bind_some, hpick]

/-! ### One insertion -/

/-- An insertion that fails leaves everything that can be asked of the trie as it was. -/
theorem Orderly.answers_of_occupied (h : t.Orderly) {id holder : RouteId} {segments : List Segment}
    (hheld : (t.insert id segments).1 = some holder) :
    (t.insert id segments).2.find = t.find ∧ (t.insert id segments).2.size = t.size := by
  have hsame := route?_insert_of_occupied hheld
  constructor
  · funext path
    exact find_eq_of_pick fun parts _ => pick_congr hsame parts
  · exact (h.insert id segments).size_congr h hsame

/-- An insertion that is successful adds one route, which it puts in the place of some answers. -/
theorem Orderly.answers_of_free (h : t.Orderly) {id : RouteId} {segments : List Segment}
    (hfree : (t.insert id segments).1 = none) :
    (t.insert id segments).2.size = t.size + 1 ∧
      ∀ path, (t.insert id segments).2.find path = t.find path ∨
        ∀ captures, ((t.insert id segments).2.find path captures).1 = some id := by
  have hroute := route?_insert_of_free hfree
  rw [insert_fst] at hfree
  refine ⟨h.size_eq_succ (h.insert id segments) hfree hroute, fun path => ?_⟩
  cases hparts : Path.parts? path with
  | none =>
      left
      exact find_eq_of_pick fun parts h => absurd (hparts.symm.trans h) (by simp)
  | some parts =>
      rcases pick_of_new hfree hroute parts with hsame | ⟨f, hpick, rfl⟩
      · left
        refine find_eq_of_pick fun parts' h => ?_
        obtain rfl := Option.some.inj (hparts.symm.trans h)
        exact hsame
      · exact .inr (find_fst_of_pick hparts hpick)

end Trie

/-! ### Insertions one after the other -/

/-- A request to store a route where the segments lead. -/
structure Insertion where
  id : RouteId
  segments : List Segment
  deriving DecidableEq, Repr

namespace Insertion

def key (call : Insertion) : Key := Key.ofSegments call.segments

/-- Who holds the place already, and the trie afterwards. -/
def into (call : Insertion) (t : Trie) : Option RouteId × Trie :=
  t.insert call.id call.segments

end Insertion

/-- A trie with the insertions by which its routes came into it. -/
structure Stock where
  trie : Trie
  stored : List Insertion

namespace Stock

def empty : Stock := ⟨.empty, []⟩

/-- Makes an insertion, and records it if it is successful. -/
def add (stock : Stock) (call : Insertion) : Stock :=
  match call.into stock.trie with
  | (none, t) => ⟨t, stock.stored ++ [call]⟩
  | (some _, t) => ⟨t, stock.stored⟩

/-- Makes insertions one after the other, the first of them into an empty trie. -/
def ofList (calls : List Insertion) : Stock := calls.foldl add empty

/-- The trie has the routes of the recorded insertions, and no two of these have the same key. -/
structure Sound (stock : Stock) : Prop where
  orderly : stock.trie.Orderly
  route?_eq_some_iff : ∀ k id, stock.trie.route? k = some id ↔
    ∃ call ∈ stock.stored, call.key = k ∧ call.id = id
  distinct : (stock.stored.map Insertion.key).Nodup

theorem sound_empty : empty.Sound where
  orderly := Trie.orderly_empty
  route?_eq_some_iff k id := by simp [empty]
  distinct := List.nodup_nil

variable {stock : Stock}

theorem add_of_occupied {call : Insertion} {holder : RouteId}
    (h : (call.into stock.trie).1 = some holder) :
    stock.add call = ⟨(call.into stock.trie).2, stock.stored⟩ := by
  have hinto : call.into stock.trie = (some holder, (call.into stock.trie).2) := Prod.ext h rfl
  rw [add, hinto]

theorem add_of_free {call : Insertion} (h : (call.into stock.trie).1 = none) :
    stock.add call = ⟨(call.into stock.trie).2, stock.stored ++ [call]⟩ := by
  have hinto : call.into stock.trie = (none, (call.into stock.trie).2) := Prod.ext h rfl
  rw [add, hinto]

theorem Sound.add (h : stock.Sound) (call : Insertion) : (stock.add call).Sound := by
  obtain ⟨horderly, hroute, hdistinct⟩ := h
  cases hresult : (call.into stock.trie).1 with
  | some holder =>
      rw [add_of_occupied hresult]
      refine ⟨horderly.insert _ _, fun k id => ?_, hdistinct⟩
      rw [← hroute]
      exact iff_of_eq (congrArg (· = some id) (Trie.route?_insert_of_occupied hresult k))
  | none =>
      rw [add_of_free hresult]
      have hnew : stock.trie.route? call.key = none := Trie.insert_fst .. ▸ hresult
      refine ⟨horderly.insert _ _, fun k id => ?_, ?_⟩
      · have hinsert : (call.into stock.trie).2.route? k =
            if k = call.key then some call.id else stock.trie.route? k :=
          Trie.route?_insert_of_free hresult k
        rw [hinsert]
        simp only [List.mem_append, List.mem_singleton, or_and_right, exists_or, exists_eq_left,
          ← hroute]
        by_cases hk : k = call.key
        · subst hk
          simp [hnew]
        · simp [hk, Ne.symm hk]
      · have hfresh : call.key ∉ stock.stored.map Insertion.key := by
          intro hmem
          -- The key of an earlier insertion has a route.
          obtain ⟨earlier, hearlier, hkey⟩ := List.mem_map.1 hmem
          rw [(hroute _ _).2 ⟨earlier, hearlier, hkey, rfl⟩] at hnew
          contradiction
        rw [List.map_append, List.map_singleton, ← List.concat_eq_append]
        exact hdistinct.concat hfresh

theorem Sound.addAll (h : stock.Sound) (calls : List Insertion) :
    (calls.foldl Stock.add stock).Sound := by
  induction calls generalizing stock with
  | nil => exact h
  | cons call calls ih => exact ih (h.add call)

theorem sound_ofList (calls : List Insertion) : (ofList calls).Sound := sound_empty.addAll calls

/-- What is recorded are some of the insertions, in their order. -/
theorem stored_foldl_sublist (calls : List Insertion) (stock : Stock) :
    (calls.foldl Stock.add stock).stored.Sublist (stock.stored ++ calls) := by
  induction calls generalizing stock with
  | nil => rw [List.append_nil, List.foldl_nil]
  | cons call calls ih =>
      refine (ih (stock.add call)).trans ?_
      cases hresult : (call.into stock.trie).1 with
      | some holder =>
          rw [add_of_occupied hresult]
          exact (List.sublist_cons_self call calls).append_left stock.stored
      | none =>
          rw [add_of_free hresult, List.append_assoc, List.singleton_append]

theorem stored_ofList_sublist (calls : List Insertion) : (ofList calls).stored.Sublist calls :=
  stored_foldl_sublist calls empty

/-- Whatever was inserted before, an insertion fails exactly if an earlier one with the same outline
was successful, and it tells the route of that one. Then the trie answers every search as before and
has the same size; otherwise it has one route more, and what it answers is what it answered before
or this route. -/
theorem outcome_of_into {calls : List Insertion} (hstock : ofList calls = stock) {call : Insertion}
    {outcome : Option RouteId} {t : Trie} (hinto : call.into stock.trie = (outcome, t)) :
    (∀ holder, outcome = some holder ↔ ∃ earlier ∈ stock.stored,
      Segment.outline earlier.segments = Segment.outline call.segments ∧ earlier.id = holder) ∧
    (outcome ≠ none → t.size = stock.trie.size ∧
      ∀ path captures, t.find path captures = stock.trie.find path captures) ∧
    (outcome = none → t.size = stock.trie.size + 1 ∧
      ∀ path captures, t.find path captures = stock.trie.find path captures ∨
        (t.find path captures).1 = some call.id) := by
  obtain ⟨horderly, hroute, -⟩ : stock.Sound := hstock ▸ sound_ofList calls
  obtain ⟨rfl, rfl⟩ := Prod.mk.inj hinto
  refine ⟨fun holder => ?_, fun hheld => ?_, fun hfree => ?_⟩
  · rw [Trie.insert_fst, hroute]
    simp only [Segment.outline_eq_iff]
    rfl
  · obtain ⟨holder, hholder⟩ := Option.ne_none_iff_exists'.1 hheld
    obtain ⟨hfind, hsize⟩ := horderly.answers_of_occupied hholder
    exact ⟨hsize, fun path captures => by rw [hfind]⟩
  · obtain ⟨hsize, hfind⟩ := horderly.answers_of_free hfree
    refine ⟨hsize, fun path captures => ?_⟩
    rcases hfind path with hsame | hown
    · exact .inl (congrFun hsame captures)
    · exact .inr (hown captures)

/-- Segments that no pattern has: an empty literal, and literals with a slash or behind an end. -/
theorem outcome_of_into_odd_segments :
    ∃ (stock : Stock) (t t' : Trie),
      ofList [⟨5, [.literal "", .multi (some "n"), .slash]⟩, ⟨6, [.literal "a/b"]⟩] = stock ∧
      (Insertion.mk 7 [.literal "", .multi none, .literal "c"]).into stock.trie = (some 5, t) ∧
      (∃ earlier ∈ stock.stored, Segment.outline earlier.segments =
        Segment.outline [.literal "", .multi none, .literal "c"] ∧ earlier.id = 5) ∧
      t.size = stock.trie.size ∧
      (∀ path captures, t.find path captures = stock.trie.find path captures) ∧
      (Insertion.mk 8 [.literal ""]).into stock.trie = (none, t') ∧
      t'.size = stock.trie.size + 1 ∧
      ∀ path captures, t'.find path captures = stock.trie.find path captures ∨
        (t'.find path captures).1 = some 8 := by
  obtain ⟨hheld, hfree⟩ :
      ((Insertion.mk 7 [.literal "", .multi none, .literal "c"]).into
        (ofList [⟨5, [.literal "", .multi (some "n"), .slash]⟩, ⟨6, [.literal "a/b"]⟩]).trie).1 =
          some 5 ∧
      ((Insertion.mk 8 [.literal ""]).into
        (ofList [⟨5, [.literal "", .multi (some "n"), .slash]⟩, ⟨6, [.literal "a/b"]⟩]).trie).1 =
          none := by
    constructor <;> rfl
  obtain ⟨hholder, hoccupied, -⟩ := outcome_of_into rfl (Prod.ext hheld rfl)
  obtain ⟨-, -, hadded⟩ := outcome_of_into rfl (Prod.ext hfree rfl)
  obtain ⟨hsize, hsame⟩ := hoccupied (by simp)
  obtain ⟨hsize', hanswers⟩ := hadded rfl
  exact ⟨_, _, _, rfl, Prod.ext hheld rfl, (hholder 5).1 rfl, hsize, hsame, Prod.ext hfree rfl,
    hsize', hanswers⟩

end Stock

end PathRouter

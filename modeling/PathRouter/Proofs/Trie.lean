import PathRouter.Proofs.Key
import PathRouter.Trie

/-!
The trie as a map from keys to routes. Inserting a route is an update of that map at one key, and a
search gives the route of the first key that fits.

A search is compared with `pick`, which makes the same choices and captures nothing on the way. All
that lies between the two is that nothing is left behind in the captures where a branch of the trie
is given up.
-/

namespace PathRouter

namespace Trie

/-! ### The routes by their keys -/

/-- The route of a key. -/
def route? : Trie → Key → Option RouteId
  | t, .exact => t.exact
  | t, .slash => t.slash
  | t, .rest => t.rest
  | t, .literal text k => (t.children.get? text).bind fun child => child.route? k
  | t, .single k => t.wild.bind fun child => child.route? k

@[simp] theorem route?_literal (t : Trie) (text : String) (k : Key) :
    t.route? (.literal text k) = (t.children.get? text).bind fun child => child.route? k := rfl

@[simp] theorem route?_single (t : Trie) (k : Key) :
    t.route? (.single k) = t.wild.bind fun child => child.route? k := rfl

@[simp] theorem route?_empty (k : Key) : empty.route? k = none := by
  cases k <;> rfl

/-- A node that is not there has the routes of an empty one. -/
theorem route?_getD_empty (place : Option Trie) (k : Key) :
    (place.getD empty).route? k = place.bind fun t => t.route? k := by
  cases place with
  | none => exact route?_empty k
  | some t => rfl

/-! ### Inserting a route -/

theorem occupy_fst (slot : Option RouteId) (id : RouteId) : (occupy slot id).1 = slot := by
  cases slot <;> rfl

theorem occupy_snd (slot : Option RouteId) (id : RouteId) :
    (occupy slot id).2 = some (slot.getD id) := by
  cases slot <;> rfl

/-- What an insertion returns is the route that had the key before. -/
theorem insert_fst (id : RouteId) (segments : List Segment) (t : Trie) :
    (insert id segments t).1 = t.route? (Key.ofSegments segments) := by
  induction segments generalizing t with
  | nil => exact occupy_fst t.exact id
  | cons s later ih =>
      cases s with
      | slash => exact occupy_fst t.slash id
      | multi name => exact occupy_fst t.rest id
      | literal text =>
          show (insert id later (t.children.getOrInsert text empty).1).1 = _
          rw [ih, SmallMap.getOrInsert_fst, route?_getD_empty]
          rfl
      | single name =>
          show (insert id later (t.wild.getD empty)).1 = _
          rw [ih, route?_getD_empty]
          rfl

/-- An insertion gives the route to its key if the key has none, and leaves all other keys alone. -/
theorem route?_insert (id : RouteId) (segments : List Segment) (t : Trie) (k : Key) :
    (insert id segments t).2.route? k =
      if k = Key.ofSegments segments then some ((t.route? k).getD id) else t.route? k := by
  induction segments generalizing t k with
  | nil =>
      cases k with
      | exact => exact occupy_snd t.exact id
      | slash | rest | literal | single => rfl
  | cons s later ih =>
      cases s with
      | slash =>
          cases k with
          | slash => exact occupy_snd t.slash id
          | exact | rest | literal | single => rfl
      | multi name =>
          cases k with
          | rest => exact occupy_snd t.rest id
          | exact | slash | literal | single => rfl
      | literal text =>
          cases k with
          | exact | slash | rest | single => rfl
          | literal text' k =>
              -- Only the node of the literal has changed, and in it only the rest of the key.
              simp only [insert, Key.ofSegments, route?_literal, SmallMap.get?_put_getOrInsert,
                SmallMap.getOrInsert_fst, Key.literal.injEq]
              by_cases htext : text' = text
              · subst htext
                simp only [if_pos, Option.bind_some, ih, route?_getD_empty, true_and]
              · simp only [htext, false_and, if_false]
      | single name =>
          cases k with
          | exact | slash | rest | literal => rfl
          | single k =>
              simp only [insert, Key.ofSegments, route?_single, Option.bind_some, ih,
                route?_getD_empty, Key.single.injEq]

theorem route?_insert_of_occupied {id holder : RouteId} {segments : List Segment} {t : Trie}
    (h : (insert id segments t).1 = some holder) (k : Key) :
    (insert id segments t).2.route? k = t.route? k := by
  rw [insert_fst] at h
  rw [route?_insert]
  by_cases hk : k = Key.ofSegments segments
  · rw [if_pos hk, hk, h, Option.getD_some]
  · rw [if_neg hk]

theorem route?_insert_of_free {id : RouteId} {segments : List Segment} {t : Trie}
    (h : (insert id segments t).1 = none) (k : Key) :
    (insert id segments t).2.route? k =
      if k = Key.ofSegments segments then some id else t.route? k := by
  rw [insert_fst] at h
  rw [route?_insert]
  by_cases hk : k = Key.ofSegments segments
  · rw [if_pos hk, if_pos hk, hk, h, Option.getD_none]
  · rw [if_neg hk, if_neg hk]

/-! ### Searching -/

/-- What a search finds: a key with its route and the values of its wildcards. -/
structure Found where
  key : Key
  id : RouteId
  values : List String

/-- What is found below a literal, seen from above it. -/
def Found.underLiteral (text : String) (f : Found) : Found :=
  ⟨.literal text f.key, f.id, f.values⟩

/-- What is found below a wildcard for one part, seen from above it. -/
def Found.underSingle (part : String) (f : Found) : Found :=
  ⟨.single f.key, f.id, part :: f.values⟩

/-- A route whose path ends in a slash here. -/
def pickSlash (t : Trie) (part : String) (later : List String) : Option Found :=
  if part = "" ∧ later = [] then t.slash.map fun id => ⟨.slash, id, []⟩ else none

/-- What there is below a literal. -/
def pickLiteral (t : Trie) (part : String) (below : Trie → Option Found) : Option Found :=
  (t.children.get? part).bind fun child => (below child).map (.underLiteral part)

/-- What there is below a wildcard for one part. -/
def pickSingle (t : Trie) (part : String) (below : Trie → Option Found) : Option Found :=
  if part = "" then none else t.wild.bind fun child => (below child).map (.underSingle part)

/-- A route whose last wildcard takes all the parts. -/
def pickRest (t : Trie) (parts : List String) : Option Found :=
  t.rest.map fun id => ⟨.rest, id, [Path.join parts]⟩

/-- The choices of a search. -/
def pick (t : Trie) : List String → Option Found
  | [] => t.exact.map fun id => ⟨.exact, id, []⟩
  | part :: later =>
      (t.pickSlash part later).or <|
      (t.pickLiteral part fun child => child.pick later).or <|
      (t.pickSingle part fun child => child.pick later).or <|
      t.pickRest (part :: later)

variable {t : Trie} {part : String} {later parts : List String} {below : Trie → Option Found}
  {f : Found}

theorem pickSlash_eq_some_iff :
    t.pickSlash part later = some f ↔
      (part = "" ∧ later = []) ∧ ∃ id, t.slash = some id ∧ f = ⟨.slash, id, []⟩ := by
  rw [pickSlash, Option.ite_none_right_eq_some, Option.map_eq_some_iff]
  simp only [@eq_comm _ f]

theorem pickLiteral_eq_some_iff :
    t.pickLiteral part below = some f ↔
      ∃ child, t.children.get? part = some child ∧
        ∃ g, below child = some g ∧ f = g.underLiteral part := by
  rw [pickLiteral, Option.bind_eq_some_iff]
  simp only [Option.map_eq_some_iff, @eq_comm _ f]

theorem pickSingle_eq_some_iff :
    t.pickSingle part below = some f ↔
      part ≠ "" ∧ ∃ child, t.wild = some child ∧
        ∃ g, below child = some g ∧ f = g.underSingle part := by
  rw [pickSingle, Option.ite_none_left_eq_some, Option.bind_eq_some_iff]
  simp only [Option.map_eq_some_iff, @eq_comm _ f, ne_eq]

theorem pickRest_eq_some_iff :
    t.pickRest parts = some f ↔ ∃ id, t.rest = some id ∧ f = ⟨.rest, id, [Path.join parts]⟩ := by
  rw [pickRest, Option.map_eq_some_iff]
  simp only [@eq_comm _ f]

/-- What is picked is a key of the trie that fits the parts. -/
theorem pick_sound (h : t.pick parts = some f) :
    t.route? f.key = some f.id ∧ f.key.values? parts = some f.values := by
  induction parts generalizing t f with
  | nil =>
      obtain ⟨id, hid, rfl⟩ := Option.map_eq_some_iff.1 h
      exact ⟨hid, rfl⟩
  | cons part later ih =>
      simp only [pick, Option.or_eq_some_iff] at h
      rcases h with hslash | ⟨-, hliteral | ⟨-, hsingle | ⟨-, hrest⟩⟩⟩
      · obtain ⟨⟨rfl, rfl⟩, id, hid, rfl⟩ := pickSlash_eq_some_iff.1 hslash
        exact ⟨hid, rfl⟩
      · obtain ⟨child, hchild, g, hg, rfl⟩ := pickLiteral_eq_some_iff.1 hliteral
        obtain ⟨hroute, hvalues⟩ := ih hg
        refine ⟨?_, Key.values?_literal_iff.2 ⟨rfl, hvalues⟩⟩
        simpa only [Found.underLiteral, route?_literal, hchild, Option.bind_some] using hroute
      · obtain ⟨hpart, child, hchild, g, hg, rfl⟩ := pickSingle_eq_some_iff.1 hsingle
        obtain ⟨hroute, hvalues⟩ := ih hg
        refine ⟨?_, Key.values?_single_iff.2 ⟨hpart, _, hvalues, rfl⟩⟩
        simpa only [Found.underSingle, route?_single, hchild, Option.bind_some] using hroute
      · obtain ⟨id, hid, rfl⟩ := pickRest_eq_some_iff.1 hrest
        exact ⟨hid, rfl⟩

/-- One of two places has something good, if the first has nothing bad and the second has something
good in case the first has nothing. -/
theorem exists_or_eq_some {first second : Option Found} {P : Found → Prop}
    (hfirst : ∀ f, first = some f → P f)
    (hsecond : first = none → ∃ f, second = some f ∧ P f) :
    ∃ f, first.or second = some f ∧ P f := by
  cases first with
  | none => exact hsecond rfl
  | some f => exact ⟨f, rfl, hfirst f rfl⟩

/-- Whatever key of the trie fits the parts, something is picked, and no later than that key. -/
theorem exists_pick {k : Key} {id : RouteId} (hroute : t.route? k = some id)
    (hfits : k.Fits parts) : ∃ f, t.pick parts = some f ∧ (f.key = k ∨ f.key.Before k) := by
  induction k generalizing t parts with
  | exact =>
      obtain rfl := Key.fits_exact.1 hfits
      have hpick : t.pick [] = some ⟨.exact, id, []⟩ := Option.map_eq_some_iff.2 ⟨id, hroute, rfl⟩
      exact ⟨_, hpick, .inl rfl⟩
  | slash =>
      obtain rfl := Key.fits_slash.1 hfits
      have hslash : t.pickSlash "" [] = some ⟨.slash, id, []⟩ :=
        pickSlash_eq_some_iff.2 ⟨⟨rfl, rfl⟩, id, hroute, rfl⟩
      exact ⟨_, by rw [pick, hslash, Option.some_or], .inl rfl⟩
  | rest =>
      obtain ⟨part, later, rfl⟩ := List.exists_cons_of_ne_nil (Key.fits_rest.1 hfits)
      refine exists_or_eq_some (fun f hf => ?_) fun _ =>
        exists_or_eq_some (fun f hf => ?_) fun _ =>
          exists_or_eq_some (fun f hf => ?_) fun _ => ?_
      -- Whatever is found in one of the first three places comes before the key.
      · obtain ⟨-, _, -, rfl⟩ := pickSlash_eq_some_iff.1 hf
        exact .inr .slashRest
      · obtain ⟨_, -, _, -, rfl⟩ := pickLiteral_eq_some_iff.1 hf
        exact .inr (.literalRest ..)
      · obtain ⟨-, _, -, _, -, rfl⟩ := pickSingle_eq_some_iff.1 hf
        exact .inr (.singleRest _)
      · exact ⟨_, pickRest_eq_some_iff.2 ⟨id, hroute, rfl⟩, .inl rfl⟩
  | literal text k ih =>
      obtain ⟨later, rfl, hlater⟩ := Key.exists_of_fits_literal hfits
      obtain ⟨child, hchild, hroute⟩ := Option.bind_eq_some_iff.1 hroute
      obtain ⟨g, hg, hk⟩ := ih hroute hlater
      refine exists_or_eq_some (fun f hf => ?_) fun _ => ?_
      · obtain ⟨-, _, -, rfl⟩ := pickSlash_eq_some_iff.1 hf
        exact .inr (.slashLiteral ..)
      · have hliteral : t.pickLiteral text (fun child => child.pick later) =
            some (g.underLiteral text) :=
          pickLiteral_eq_some_iff.2 ⟨child, hchild, g, hg, rfl⟩
        rw [hliteral, Option.some_or]
        exact ⟨_, rfl, hk.imp (congrArg (Key.literal text)) (.literal text)⟩
  | single k ih =>
      obtain ⟨part, later, rfl, hpart, hlater⟩ := Key.exists_of_fits_single hfits
      obtain ⟨child, hchild, hroute⟩ := Option.bind_eq_some_iff.1 hroute
      obtain ⟨g, hg, hk⟩ := ih hroute hlater
      refine exists_or_eq_some (fun f hf => ?_) fun _ =>
        exists_or_eq_some (fun f hf => ?_) fun _ => ?_
      · obtain ⟨-, _, -, rfl⟩ := pickSlash_eq_some_iff.1 hf
        exact .inr (.slashSingle _)
      · obtain ⟨_, -, _, -, rfl⟩ := pickLiteral_eq_some_iff.1 hf
        exact .inr (.literalSingle ..)
      · have hsingle : t.pickSingle part (fun child => child.pick later) =
            some (g.underSingle part) :=
          pickSingle_eq_some_iff.2 ⟨hpart, child, hchild, g, hg, rfl⟩
        rw [hsingle, Option.some_or]
        exact ⟨_, rfl, hk.imp (congrArg Key.single) .single⟩

/-- What is picked is the first of the keys that have a route and fit the parts. -/
theorem pick_eq_some_iff :
    t.pick parts = some f ↔
      t.route? f.key = some f.id ∧ f.key.values? parts = some f.values ∧
        ∀ k id, t.route? k = some id → k.Fits parts → f.key = k ∨ f.key.Before k := by
  constructor
  · intro hpick
    obtain ⟨hroute, hvalues⟩ := pick_sound hpick
    refine ⟨hroute, hvalues, fun k id hk hfits => ?_⟩
    obtain ⟨g, hg, hfirst⟩ := exists_pick hk hfits
    obtain rfl := Option.some.inj (hpick.symm.trans hg)
    exact hfirst
  · rintro ⟨hroute, hvalues, hfirst⟩
    obtain ⟨g, hg, hgf⟩ := exists_pick hroute ⟨f.values, hvalues⟩
    obtain ⟨hroute', hvalues'⟩ := pick_sound hg
    have hkey : g.key = f.key := by
      rcases hfirst g.key g.id hroute' ⟨g.values, hvalues'⟩ with heq | hbefore
      · exact heq.symm
      · exact hgf.resolve_right hbefore.asymm
    obtain ⟨key, id, values⟩ := f
    obtain ⟨_, id', values'⟩ := g
    obtain rfl : _ = key := hkey
    obtain rfl : id' = id := Option.some.inj (hroute'.symm.trans hroute)
    obtain rfl : values' = values := Option.some.inj (hvalues'.symm.trans hvalues)
    exact hg

theorem pick_eq_none_iff : t.pick parts = none ↔ ∀ k id, t.route? k = some id → ¬ k.Fits parts := by
  constructor
  · intro hnone k id hroute hfits
    obtain ⟨f, hf, -⟩ := exists_pick hroute hfits
    rw [hnone] at hf
    contradiction
  · intro hnone
    rw [Option.eq_none_iff_forall_ne_some]
    intro f hf
    obtain ⟨hroute, hvalues⟩ := pick_sound hf
    exact hnone f.key f.id hroute ⟨f.values, hvalues⟩

/-! ### The search itself -/

namespace Search

/-- The search finds this, if anything: it adds the values to those captured so far, and leaves them
as they were if it finds nothing. -/
def Finds (search : Search) (found : Option Found) : Prop :=
  ∀ captures, search captures =
    match found with
    | some f => (some f.id, captures ++ f.values.toArray)
    | none => (none, captures)

theorem finds_yield (slot : Option RouteId) (k : Key) :
    (yield slot).Finds (slot.map fun id => ⟨k, id, []⟩) := by
  intro captures
  cases slot with
  | none => rfl
  | some id =>
      show (some id, captures) = (some id, captures ++ #[])
      rw [Array.append_empty]

/-- Where the key is seen from does not matter to the search. -/
theorem Finds.relabel {search : Search} {found : Option Found} (h : search.Finds found)
    (wrap : Found → Found) (hid : ∀ f, (wrap f).id = f.id)
    (hvalues : ∀ f, (wrap f).values = f.values) : search.Finds (found.map wrap) := by
  intro captures
  rw [h captures]
  cases found with
  | none => rfl
  | some f =>
      show _ = (some (wrap f).id, captures ++ (wrap f).values.toArray)
      rw [hid, hvalues]

theorem Finds.within {place : Option Trie} {search : Trie → Search} {found : Trie → Option Found}
    (h : ∀ t, (search t).Finds (found t)) : (within place search).Finds (place.bind found) := by
  cases place with
  | none => exact fun captures => rfl
  | some t => exact h t

theorem Finds.orElse {first second : Search} {found found' : Option Found}
    (hfirst : first.Finds found) (hsecond : second.Finds found') :
    (first.orElse second).Finds (found.or found') := by
  intro captures
  rw [Search.orElse, hfirst captures]
  cases found with
  | none => exact hsecond captures
  | some f => rfl

/-- A captured value comes first among the values, and it is dropped if nothing is found. -/
theorem Finds.capturing {search : Search} {found : Option Found} (h : search.Finds found)
    (value : String) (wrap : Found → Found) (hid : ∀ f, (wrap f).id = f.id)
    (hvalues : ∀ f, (wrap f).values = value :: f.values) :
    (search.capturing value).Finds (found.map wrap) := by
  intro captures
  rw [Search.capturing, h (captures.push value)]
  cases found with
  | none =>
      -- The search left the captures as they were, so the last of them is the value.
      show (none, (captures.push value).pop) = (none, captures)
      rw [Array.pop_push]
  | some f =>
      show (some f.id, captures.push value ++ f.values.toArray) =
        (some (wrap f).id, captures ++ (wrap f).values.toArray)
      rw [hid, hvalues, List.toArray_cons, Array.push_eq_append, Array.append_assoc]

end Search

theorem finds_search (t : Trie) (parts : List String) : (t.search parts).Finds (t.pick parts) := by
  induction parts generalizing t with
  | nil => exact Search.finds_yield t.exact .exact
  | cons part later ih =>
      have hslash : (Search.yield (if part = "" ∧ later = [] then t.slash else none)).Finds
          (t.pickSlash part later) := by
        rw [pickSlash]
        split
        · exact Search.finds_yield t.slash .slash
        · exact Search.finds_yield none .slash
      have hliteral : (Search.within (t.children.get? part) fun child => child.search later).Finds
          (t.pickLiteral part fun child => child.pick later) :=
        .within fun child => (ih child).relabel (.underLiteral part) (fun _ => rfl) fun _ => rfl
      have hsingle : (Search.within (if part = "" then none else t.wild) fun child =>
          (child.search later).capturing part).Finds
          (t.pickSingle part fun child => child.pick later) := by
        rw [pickSingle]
        split
        · exact fun captures => rfl
        · exact .within fun child =>
            (ih child).capturing part (.underSingle part) (fun _ => rfl) fun _ => rfl
      have hrest : ((Search.yield t.rest).capturing (Path.join (part :: later))).Finds
          (t.pickRest (part :: later)) := by
        have h := (Search.finds_yield t.rest .rest).capturing (Path.join (part :: later))
          (fun f => { f with values := Path.join (part :: later) :: f.values }) (fun _ => rfl)
          fun _ => rfl
        rwa [Option.map_map] at h
      exact hslash.orElse (hliteral.orElse (hsingle.orElse hrest))

theorem finds_find (t : Trie) (path : String) :
    (t.find path).Finds ((Path.parts? path).bind t.pick) := by
  rw [find]
  cases Path.parts? path with
  | none => exact fun captures => rfl
  | some parts => exact finds_search t parts

end Trie

end PathRouter

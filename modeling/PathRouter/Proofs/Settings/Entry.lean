import Mathlib.Data.List.Forall2
import PathRouter.Settings.Reader

/-!
What a value stands for. The relations here tell which text, number, list or route stands in a
value, without a word on how it is found there; each reader finds exactly that, and so it finds
nothing exactly where nothing stands. A route is described by the values of five keys, two of which
have to be there.
-/

namespace PathRouter

namespace Conversion

/-! ### Plain values -/

/-- A plain value that is taken for the text. -/
def IsText (v : Json) (text : String) : Prop := lenient.text v = some text

/-- A plain value that is taken for the flag. -/
def IsFlag (v : Json) (b : Bool) : Prop := lenient.flag v = some b

/-- A plain value that is taken for the number. Sixteen bits hold no other numbers than these. -/
def IsWord (v : Json) (w : UInt16) : Prop := lenient.number v = some (w.toNat : Int)

theorem toNat_ofNat_toNat {n : Int} (hlow : 0 ≤ n) (hhigh : n < 65536) :
    ((UInt16.ofNat n.toNat).toNat : Int) = n := by
  have hsmall : n.toNat < UInt16.size := by
    show n.toNat < 65536
    omega
  rw [UInt16.toNat_ofNat_of_lt' hsmall, Int.toNat_of_nonneg hlow]

theorem word_eq_some_iff {v : Json} {w : UInt16} : lenient.word v = some w ↔ IsWord v w := by
  rw [word, IsWord, Option.bind_eq_bind, Option.bind_eq_some_iff]
  constructor
  · rintro ⟨n, hn, hw⟩
    split at hw
    · next hrange =>
        obtain ⟨hlow, hhigh⟩ : 0 ≤ n ∧ n < 65536 := by simpa using hrange
        obtain rfl := Option.some.inj hw
        rw [hn, toNat_ofNat_toNat hlow hhigh]
    · contradiction
  · intro hn
    have hsmall : w.toNat < 65536 := w.toNat_lt_size
    have hrange : (0 : Int) ≤ w.toNat ∧ (w.toNat : Int) < 65536 := by omega
    refine ⟨_, hn, ?_⟩
    rw [if_pos (by simpa using hrange), Int.toNat_natCast, UInt16.ofNat_toNat]

/-- There is a number of sixteen bits exactly if the number is not too large and not negative. -/
theorem exists_isWord_iff {v : Json} :
    (∃ w, IsWord v w) ↔ ∃ n, lenient.number v = some n ∧ 0 ≤ n ∧ n < 65536 := by
  constructor
  · rintro ⟨w, hw⟩
    have hsmall : w.toNat < 65536 := w.toNat_lt_size
    exact ⟨_, hw, by omega, by omega⟩
  · rintro ⟨n, hn, hlow, hhigh⟩
    refine ⟨UInt16.ofNat n.toNat, ?_⟩
    rw [IsWord, hn, toNat_ofNat_toNat hlow hhigh]

/-! ### Values made of others -/

section Made

variable {α : Type} {Is : Json → α → Prop}

/-- A list of values that stand for the members, one for each. -/
def IsListOf (Is : Json → α → Prop) (v : Json) (xs : List α) : Prop :=
  ∃ items, v = .arr items ∧ List.Forall₂ Is items xs

/-- A value of any kind, where null is none. -/
inductive IsPayload : Json → Option Json → Prop
  | null : IsPayload .null none
  | value {v : Json} (h : v ≠ .null) : IsPayload v (some v)

/-- A setting is the default where there is no value, and else what the value stands for. -/
inductive IsSet (Is : Json → α → Prop) (default : α) : Option Json → α → Prop
  | missing : IsSet Is default none default
  | given {v : Json} {x : α} (h : Is v x) : IsSet Is default (some v) x

theorem mapM_eq_some_iff {read : Json → Option α} (h : ∀ v x, read v = some x ↔ Is v x)
    {items : List Json} {xs : List α} :
    items.mapM read = some xs ↔ List.Forall₂ Is items xs := by
  induction items generalizing xs with
  | nil => simp [eq_comm]
  | cons item items ih =>
      simp only [List.mapM_cons, Option.bind_eq_bind, Option.bind_eq_some_iff, h, ih]
      rw [List.forall₂_cons_left_iff]
      constructor
      · rintro ⟨x, hx, more, hmore, heq⟩
        exact ⟨x, more, hx, hmore, (Option.some.inj heq).symm⟩
      · rintro ⟨x, more, hx, hmore, rfl⟩
        exact ⟨x, hx, more, hmore, rfl⟩

theorem listOf_eq_some_iff {read : Json → Option α} (h : ∀ v x, read v = some x ↔ Is v x)
    {v : Json} {xs : List α} : listOf read v = some xs ↔ IsListOf Is v xs := by
  cases v with
  | arr items => simp [listOf, IsListOf, mapM_eq_some_iff h]
  | _ => simp [listOf, IsListOf]

theorem exists_forall₂_iff {items : List Json} :
    (∃ xs, List.Forall₂ Is items xs) ↔ ∀ item ∈ items, ∃ x, Is item x := by
  induction items with
  | nil => simp
  | cons item items ih =>
      rw [List.forall_mem_cons, ← ih]
      constructor
      · rintro ⟨_, hall⟩
        obtain ⟨x, xs, hx, hxs, -⟩ := List.forall₂_cons_left_iff.1 hall
        exact ⟨⟨x, hx⟩, xs, hxs⟩
      · rintro ⟨⟨x, hx⟩, xs, hxs⟩
        exact ⟨x :: xs, .cons hx hxs⟩

/-- There is a list exactly if each member stands for something. -/
theorem exists_isListOf_iff {v : Json} :
    (∃ xs, IsListOf Is v xs) ↔ ∃ items, v = .arr items ∧ ∀ item ∈ items, ∃ x, Is item x := by
  simp only [← exists_forall₂_iff]
  constructor
  · rintro ⟨xs, items, rfl, hxs⟩
    exact ⟨items, rfl, xs, hxs⟩
  · rintro ⟨items, rfl, xs, hxs⟩
    exact ⟨xs, items, rfl, hxs⟩

theorem payload_eq_some_iff {v : Json} {b : Option Json} :
    payload v = some b ↔ IsPayload v b := by
  constructor
  · intro h
    cases v with
    | null => exact Option.some.inj h ▸ .null
    | _ => exact Option.some.inj h ▸ .value Json.noConfusion
  · rintro (_ | ⟨hne⟩)
    · rfl
    · cases v with
      | null => contradiction
      | _ => rfl

theorem withDefault_eq_some_iff {read : Json → Option α} (h : ∀ v x, read v = some x ↔ Is v x)
    {default x : α} {v? : Option Json} :
    withDefault default read v? = some x ↔ IsSet Is default v? x := by
  constructor
  · intro hx
    cases v? with
    | none => exact Option.some.inj hx ▸ .missing
    | some v => exact .given ((h v x).1 hx)
  · rintro (_ | hx)
    · rfl
    · exact (h _ x).2 hx

theorem withDefault_text_eq_some_iff {default text : String} {v? : Option Json} :
    withDefault default lenient.text v? = some text ↔ IsSet IsText default v? text :=
  withDefault_eq_some_iff fun _ _ => Iff.rfl

theorem withDefault_flag_eq_some_iff {default b : Bool} {v? : Option Json} :
    withDefault default lenient.flag v? = some b ↔ IsSet IsFlag default v? b :=
  withDefault_eq_some_iff fun _ _ => Iff.rfl

theorem withDefault_word_eq_some_iff {default w : UInt16} {v? : Option Json} :
    withDefault default lenient.word v? = some w ↔ IsSet IsWord default v? w :=
  withDefault_eq_some_iff fun _ _ => word_eq_some_iff

theorem withDefault_listOf_eq_some_iff {read : Json → Option α}
    (h : ∀ v x, read v = some x ↔ Is v x) {default xs : List α} {v? : Option Json} :
    withDefault default (listOf read) v? = some xs ↔ IsSet (IsListOf Is) default v? xs :=
  withDefault_eq_some_iff fun _ _ => listOf_eq_some_iff h

theorem exists_isSet_iff {default : α} {v? : Option Json} :
    (∃ x, IsSet Is default v? x) ↔ ∀ v, v? = some v → ∃ x, Is v x := by
  constructor
  · rintro ⟨x, _ | hx⟩ v hv
    · contradiction
    · exact ⟨x, Option.some.inj hv ▸ hx⟩
  · intro h
    cases v? with
    | none => exact ⟨default, .missing⟩
    | some v =>
        obtain ⟨x, hx⟩ := h v rfl
        exact ⟨x, .given hx⟩

end Made

end Conversion

/-! ### Routes -/

namespace RouteEntry

open Conversion

/-- The route that the values of its keys describe. It has to have a name and a pattern; it is for
all methods and has the status 200 and no body unless something else is given. -/
structure Described (name? pattern? methods? status? body? : Option Json) (r : RouteEntry) :
    Prop where
  name : ∃ v, name? = some v ∧ IsText v r.name
  pattern : ∃ v, pattern? = some v ∧ IsText v r.pattern
  methods : IsSet (IsListOf IsText) [] methods? r.methods
  status : IsSet IsWord 200 status? r.status
  body : IsSet IsPayload none body? r.body

/-- An entry is a table with the values under their keys, or the list of the values in the order of
the keys. Whatever else is in it does not matter. -/
inductive IsEntry : Json → RouteEntry → Prop
  | table {entries : List (String × Json)} {r : RouteEntry}
      (h : Described (entries.lookup "name") (entries.lookup "pattern")
        (entries.lookup "methods") (entries.lookup "status") (entries.lookup "body") r) :
      IsEntry (.obj entries) r
  | row {items : List Json} {r : RouteEntry}
      (h : Described items[0]? items[1]? items[2]? items[3]? items[4]? r) :
      IsEntry (.arr items) r

theorem read_eq_some_iff_described {v : Json} {field : String → Option Json}
    (h : lenient.fields? ["name", "pattern", "methods", "status", "body"] v = some field)
    {r : RouteEntry} :
    read lenient v = some r ↔
      Described (field "name") (field "pattern") (field "methods") (field "status")
        (field "body") r := by
  have hmethods {v? : Option Json} {methods : List String} :
      withDefault [] (listOf lenient.text) v? = some methods ↔
        IsSet (IsListOf IsText) [] v? methods :=
    withDefault_listOf_eq_some_iff fun _ _ => Iff.rfl
  have hbody {v? body : Option Json} :
      withDefault none payload v? = some body ↔ IsSet IsPayload none v? body :=
    withDefault_eq_some_iff fun _ _ => payload_eq_some_iff
  simp only [read, h, Option.bind_eq_bind, Option.bind_some, Option.bind_eq_some_iff, hmethods,
    withDefault_word_eq_some_iff, hbody, Option.some.injEq]
  constructor
  · rintro ⟨_, hname, _, hpattern, _, hmethods, _, hstatus, _, hbody, rfl⟩
    exact ⟨hname, hpattern, hmethods, hstatus, hbody⟩
  · rintro ⟨hname, hpattern, hmethods, hstatus, hbody⟩
    exact ⟨_, hname, _, hpattern, _, hmethods, _, hstatus, _, hbody, rfl⟩

/-- An entry is read as the route that it describes, and it is not read where it describes none. -/
theorem read_eq_some_iff {v : Json} {r : RouteEntry} :
    read lenient v = some r ↔ IsEntry v r := by
  have htable (entries : List (String × Json)) :
      read lenient (.obj entries) = some r ↔
        Described (entries.lookup "name") (entries.lookup "pattern") (entries.lookup "methods")
          (entries.lookup "status") (entries.lookup "body") r := by
    rw [read_eq_some_iff_described rfl]
    simp only [Json.field?_obj]
  have hrow (items : List Json) :
      read lenient (.arr items) = some r ↔
        Described items[0]? items[1]? items[2]? items[3]? items[4]? r := by
    have hfields : lenient.fields? ["name", "pattern", "methods", "status", "body"] (.arr items) =
        some fun key => items[["name", "pattern", "methods", "status", "body"].idxOf key]? :=
      if_pos (Bool.or_true _)
    exact read_eq_some_iff_described hfields
  constructor
  · intro h
    cases v with
    | obj entries => exact .table ((htable entries).1 h)
    | arr items => exact .row ((hrow items).1 h)
    | _ => contradiction
  · rintro (h | h)
    · exact (htable _).2 h
    · exact (hrow _).2 h

end RouteEntry

end PathRouter

import PathRouter.Settings.Layers

/-!
Values laid over each other. A value that is set at the end of a way is found there, and what other
ways lead to stays as it was. A table that is laid over nothing keeps all its values, under their
keys in lower case, as long as no two of its keys are the same then.
-/

namespace PathRouter

namespace Layers

/-! ### Entries of a table -/

theorem lookup_entriesOf (key : String) (v : Json) :
    (entriesOf v).lookup key = v.field? key := by
  cases v with
  | obj entries => exact (Json.field?_obj key entries).symm
  | _ => rfl

theorem field?_entriesOf (key : String) (v : Json) :
    (Json.obj (entriesOf v)).field? key = v.field? key := by
  rw [← lookup_entriesOf, ← lookup_entriesOf, entriesOf]

/-! ### Ways into a value -/

/-- What the keys lead to. -/
def follow? : List String → Json → Option Json
  | [], v => some v
  | key :: later, v => (v.field? key).bind (follow? later)

/-- The ways lead apart: neither of them goes on where the other ends. -/
def Parted (keys path : List String) : Prop := ¬ keys <+: path ∧ ¬ path <+: keys

instance (keys path : List String) : Decidable (Parted keys path) :=
  inferInstanceAs (Decidable (_ ∧ _))

theorem Parted.of_cons {key : String} {keys path : List String}
    (h : Parted (key :: keys) (key :: path)) : Parted keys path := by
  simpa [Parted, List.cons_prefix_cons] using h

theorem Parted.ne_nil {keys path : List String} (h : Parted keys path) : keys ≠ [] := by
  rintro rfl
  exact h.1 List.nil_prefix

/-- The keys are in lower case. -/
def Lower (keys : List String) : Prop := keys.map Text.lowercase = keys

@[simp]
theorem follow?_singleton (key : String) (v : Json) : follow? [key] v = v.field? key := by
  rw [follow?]
  cases v.field? key <;> rfl

theorem follow?_empty {keys : List String} (h : keys ≠ []) : follow? keys (.obj []) = none := by
  cases keys with
  | nil => contradiction
  | cons => rfl

theorem field?_setAt (v below : Json) (name : String) (path : List Step) (key : String) :
    (setAt v (.key name :: path) below).field? key =
      if Text.lowercase name = key then
        some (setAt v path ((below.field? key).getD (.obj [])))
      else below.field? key := by
  rw [setAt, Json.field?_put, lookup_entriesOf, field?_entriesOf]
  split
  · next hname => rw [hname]
  · rfl

theorem follow?_setAt_self {path : List String} (hlower : Lower path) (v below : Json) :
    ∃ old, follow? path (setAt v (path.map .key) below) = some (overlay old v) := by
  induction path generalizing below with
  | nil => exact ⟨below, by rw [List.map_nil, setAt, follow?]⟩
  | cons key path ih =>
      obtain ⟨hkey, hlower⟩ := List.cons.inj hlower
      obtain ⟨old, hold⟩ := ih hlower ((below.field? key).getD (.obj []))
      refine ⟨old, ?_⟩
      rw [List.map_cons, follow?, field?_setAt, if_pos hkey, Option.bind_some, hold]

/-- Setting a value leaves alone what lies on other ways. -/
theorem follow?_setAt_of_parted {path : List String} (hlower : Lower path) {keys : List String}
    (h : Parted keys path) (v below : Json) :
    follow? keys (setAt v (path.map .key) below) = follow? keys below := by
  induction path generalizing keys below with
  | nil => exact absurd List.nil_prefix h.2
  | cons key path ih =>
      obtain ⟨hkey, hlower⟩ := List.cons.inj hlower
      cases keys with
      | nil => exact absurd List.nil_prefix h.1
      | cons k keys =>
          rw [List.map_cons, follow?, follow?, field?_setAt, hkey]
          split
          · next hk =>
              subst hk
              rw [Option.bind_some, ih hlower h.of_cons]
              -- Where there was nothing a table is made, which is empty for all that is asked.
              cases below.field? key with
              | none => exact follow?_empty h.of_cons.ne_nil
              | some old => rfl
          · rfl

/-! ### Tables laid over nothing -/

/-- No two keys of a table are the same in lower case. -/
def Distinct : Json → Prop
  | .obj entries => (entries.map (Text.lowercase ·.1)).Nodup
  | _ => True

/-- The value of a key that may be written in any case. -/
def caseField? (key : String) : Json → Option Json
  | .obj entries => (entries.find? (Text.lowercase ·.1 = key)).map (·.2)
  | _ => none

/-- What the keys lead to where they may be written in any case. -/
def given? : List String → Json → Option Json
  | [], v => some v
  | key :: later, v => (caseField? key v).bind (given? later)

@[simp]
theorem given?_singleton (key : String) (v : Json) : given? [key] v = caseField? key v := by
  rw [given?]
  cases caseField? key v <;> rfl

/-- No two keys are the same in lower case, in any table on the way. -/
def DistinctAlong : List String → Json → Prop
  | [], _ => True
  | key :: later, v =>
      Distinct v ∧ ∀ below, caseField? key v = some below → DistinctAlong later below

theorem caseField?_cons (key k : String) (v : Json) (entries : List (String × Json)) :
    caseField? key (.obj ((k, v) :: entries)) =
      if Text.lowercase k = key then some v else caseField? key (.obj entries) := by
  by_cases hk : Text.lowercase k = key <;> simp [caseField?, hk]

theorem caseField?_eq_none {key : String} {entries : List (String × Json)}
    (h : key ∉ entries.map (Text.lowercase ·.1)) : caseField? key (.obj entries) = none := by
  rw [caseField?, Option.map_eq_none_iff, List.find?_eq_none]
  intro entry hentry hkey
  exact h (List.mem_map.2 ⟨entry, hentry, by simpa using hkey⟩)

/-- The entries are laid over those that were there before, each over the one of its key. -/
theorem field?_overlayEntries {entries : List (String × Json)} (h : Distinct (.obj entries))
    (below : Json) (key : String) :
    (overlayEntries below entries).field? key =
      ((caseField? key (.obj entries)).map (overlay ((below.field? key).getD (.obj [])))).or
        (below.field? key) := by
  induction entries generalizing below with
  | nil => rfl
  | cons entry entries ih =>
      obtain ⟨k, v⟩ := entry
      obtain ⟨hk, h⟩ := List.nodup_cons.1 h
      rw [overlayEntries, ih h, Json.field?_put, lookup_entriesOf, field?_entriesOf,
        caseField?_cons]
      split
      · next hkey =>
          subst hkey
          -- The key does not come again, so no later entry is laid over this one.
          have hnone : caseField? (Text.lowercase k) (.obj entries) = none := caseField?_eq_none hk
          rw [hnone]
          rfl
      · rfl

theorem overlay_of_not_obj {v : Json} (h : ∀ entries, v ≠ .obj entries) (below : Json) :
    overlay below v = v := by
  cases v with
  | obj entries => exact absurd rfl (h entries)
  | _ => rfl

theorem exists_overlay_eq_obj (entries below : List (String × Json)) :
    ∃ laid, overlay (.obj below) (.obj entries) = .obj laid := by
  rw [overlay]
  induction entries generalizing below with
  | nil => exact ⟨below, rfl⟩
  | cons entry entries ih => exact ih _

theorem follow?_overlay {keys : List String} {v : Json} (h : DistinctAlong keys v) :
    follow? keys (overlay (.obj []) v) = (given? keys v).map (overlay (.obj [])) := by
  induction keys generalizing v with
  | nil => rfl
  | cons key keys ih =>
      obtain ⟨hdistinct, hbelow⟩ := h
      have hfield : (overlay (.obj []) v).field? key =
          (caseField? key v).map (overlay (.obj [])) := by
        cases v with
        | obj entries =>
            rw [overlay, field?_overlayEntries hdistinct]
            exact Option.or_none
        | _ => rfl
      rw [follow?, given?, hfield]
      cases hv : caseField? key v with
      | none => rfl
      | some below => exact ih (hbelow below hv)

/-! ### Whole layers -/

/-- A key without points and brackets names one value of its table. -/
def IsPlainKey (key : String) : Prop := '.' ∉ key.toList ∧ '[' ∉ key.toList

instance (key : String) : Decidable (IsPlainKey key) := inferInstanceAs (Decidable (_ ∧ _))

theorem readSteps_eq_none {c : Char} (hpoint : c ≠ '.') (hbracket : c ≠ '[') (bound : Nat)
    (rest : List Char) : readSteps bound (c :: rest) = none := by
  cases bound with
  | zero => rfl
  | succ bound =>
      unfold readSteps
      split <;> simp_all

theorem pathOf_of_isPlainKey {key : String} (h : IsPlainKey key) : pathOf key = [.key key] := by
  simp only [pathOf]
  cases hdrop : key.toList.dropWhile isPathChar with
  | nil =>
      have htake : key.toList.takeWhile isPathChar = key.toList := by
        have happend := key.toList.takeWhile_append_dropWhile (p := isPathChar)
        rwa [hdrop, List.append_nil] at happend
      rw [htake, readSteps]
      split
      · next hname hsteps =>
          rw [← hname, String.ofList_toList, ← Option.some.inj hsteps]
      · rfl
  | cons c rest =>
      have hc : c ∈ key.toList :=
        (List.dropWhile_suffix isPathChar).mem (hdrop ▸ List.mem_cons_self)
      rw [readSteps_eq_none (ne_of_mem_of_not_mem hc h.1) (ne_of_mem_of_not_mem hc h.2)]
      split
      · next hsteps => contradiction
      · rfl

theorem laid_eq_overlay {table : List (String × Json)} (hplain : ∀ e ∈ table, IsPlainKey e.1)
    (below : Json) : laid (.obj table) below = overlay below (.obj table) := by
  rw [laid, overlay, entriesOf]
  induction table generalizing below with
  | nil => rfl
  | cons entry table ih =>
      obtain ⟨key, v⟩ := entry
      obtain ⟨hkey, hplain⟩ := List.forall_mem_cons.1 hplain
      rw [List.foldl_cons, overlayEntries, pathOf_of_isPlainKey hkey, ih hplain, setAt, setAt]

end Layers

end PathRouter

import PathRouter.SmallMap

/-!
Small maps as finite maps. In either form no key has two entries, and the entries are exactly what a
lookup finds. So whatever is computed from all entries depends on the lookups alone, and neither the
order in which keys came nor the moment at which the list became a tree can be seen in it.
-/

namespace PathRouter

namespace SearchTree

variable {α : Type u}

/-- What is found on the left of a key is less, and what is found on its right is greater. -/
def Ordered : SearchTree α → Prop
  | .leaf => True
  | .node left k _ right =>
      (∀ entry ∈ left.toList, compare entry.1 k = .lt) ∧
        (∀ entry ∈ right.toList, compare entry.1 k = .gt) ∧ left.Ordered ∧ right.Ordered

theorem mem_toList_node {left right : SearchTree α} {k : String} {v : α} {entry : String × α} :
    entry ∈ (node left k v right).toList ↔
      entry ∈ left.toList ∨ entry = (k, v) ∨ entry ∈ right.toList := by
  rw [toList, List.mem_append, List.mem_cons]

/-- An insertion adds no entry but its own. -/
theorem eq_or_mem_of_mem_insert {t : SearchTree α} {key : String} {value : α}
    {entry : String × α} (h : entry ∈ (t.insert key value).toList) :
    entry = (key, value) ∨ entry ∈ t.toList := by
  induction t with
  | leaf => exact .inl (List.mem_singleton.1 h)
  | node left k v right ihl ihr =>
      rw [insert] at h
      split at h <;> rw [mem_toList_node] at h ⊢
      · rcases h with h | h | h
        · exact (ihl h).imp id .inl
        · exact .inr (.inr (.inl h))
        · exact .inr (.inr (.inr h))
      · rcases h with h | h | h
        · exact .inr (.inl h)
        · exact .inl h
        · exact .inr (.inr (.inr h))
      · rcases h with h | h | h
        · exact .inr (.inl h)
        · exact .inr (.inr (.inl h))
        · exact (ihr h).imp id fun h => .inr (.inr h)

theorem Ordered.insert {t : SearchTree α} (h : t.Ordered) (key : String) (value : α) :
    (t.insert key value).Ordered := by
  induction t with
  | leaf => simp [SearchTree.insert, Ordered, toList]
  | node left k v right ihl ihr =>
      obtain ⟨hless, hgreater, hleft, hright⟩ := h
      rw [SearchTree.insert]
      split
      · rename_i hkey
        refine ⟨fun entry hentry => ?_, hgreater, ihl hleft, hright⟩
        rcases eq_or_mem_of_mem_insert hentry with rfl | hentry
        · exact hkey
        · exact hless entry hentry
      · rename_i hkey
        obtain rfl := Std.LawfulEqOrd.eq_of_compare hkey
        exact ⟨hless, hgreater, hleft, hright⟩
      · rename_i hkey
        refine ⟨hless, fun entry hentry => ?_, hleft, ihr hright⟩
        rcases eq_or_mem_of_mem_insert hentry with rfl | hentry
        · exact hkey
        · exact hgreater entry hentry

theorem ordered_ofList (entries : List (String × α)) : (ofList entries).Ordered := by
  induction entries with
  | nil => trivial
  | cons entry rest ih => exact ih.insert entry.1 entry.2

/-- The comparison with the key of a node tells in which part of the tree an entry is. -/
theorem Ordered.mem_node_iff {left right : SearchTree α} {k : String} {v : α}
    (h : (node left k v right).Ordered) {key : String} {value : α} :
    (key, value) ∈ (node left k v right).toList ↔
      match compare key k with
      | .lt => (key, value) ∈ left.toList
      | .eq => value = v
      | .gt => (key, value) ∈ right.toList := by
  have hleft := h.1 (key, value)
  have hright := h.2.1 (key, value)
  have hself (heq : key = k) : compare key k = .eq := heq ▸ Std.ReflOrd.compare_self
  rw [mem_toList_node, Prod.mk.injEq]
  cases hkey : compare key k with
  | lt => grind
  | gt => grind
  | eq =>
      obtain rfl := Std.LawfulEqOrd.eq_of_compare hkey
      grind

theorem Ordered.nodup_keys {t : SearchTree α} (h : t.Ordered) : (t.toList.map (·.1)).Nodup := by
  induction t with
  | leaf => exact List.nodup_nil
  | node left k v right ihl ihr =>
      obtain ⟨hless, hgreater, hleft, hright⟩ := h
      rw [toList, List.map_append, List.map_cons, List.nodup_append, List.nodup_cons]
      refine ⟨ihl hleft, ⟨?_, ihr hright⟩, ?_⟩
      · intro hk
        obtain ⟨entry, hentry, rfl⟩ := List.mem_map.1 hk
        have hgt := hgreater entry hentry
        rw [Std.ReflOrd.compare_self] at hgt
        contradiction
      · rintro a ha b hb rfl
        obtain ⟨entry, hentry, rfl⟩ := List.mem_map.1 ha
        have hlt := hless entry hentry
        rcases List.mem_cons.1 hb with hb | hb
        · rw [hb, Std.ReflOrd.compare_self] at hlt
          contradiction
        · obtain ⟨other, hother, heq⟩ := List.mem_map.1 hb
          have hgt := hgreater other hother
          rw [heq, hlt] at hgt
          contradiction

theorem Ordered.mem_toList_iff {t : SearchTree α} (h : t.Ordered) {key : String} {value : α} :
    (key, value) ∈ t.toList ↔ t.get? key = some value := by
  induction t with
  | leaf => simp [toList, get?]
  | node left k v right ihl ihr =>
      rw [h.mem_node_iff, get?]
      cases compare key k with
      | lt => exact ihl h.2.2.1
      | eq =>
          show value = v ↔ some v = some value
          rw [Option.some.injEq, eq_comm]
      | gt => exact ihr h.2.2.2

end SearchTree

namespace SmallMap

variable {α : Type u}

/-- The list has one entry for a key at most, and the tree is ordered. -/
def Lawful : SmallMap α → Prop
  | .list entries => (entries.map (·.1)).Nodup
  | .tree t => t.Ordered

theorem lawful_empty : (empty : SmallMap α).Lawful := List.nodup_nil

theorem mem_keys_putEntry {key : String} {value : α} {entries : List (String × α)} {k : String} :
    k ∈ (putEntry key value entries).map (·.1) ↔ k = key ∨ k ∈ entries.map (·.1) := by
  induction entries with
  | nil => simp [putEntry]
  | cons entry rest ih =>
      rw [putEntry]
      split
      · rename_i hkey
        simp [hkey]
      · rw [List.map_cons, List.mem_cons, ih, List.map_cons, List.mem_cons, or_left_comm]

theorem nodup_keys_putEntry {key : String} {value : α} {entries : List (String × α)}
    (h : (entries.map (·.1)).Nodup) : ((putEntry key value entries).map (·.1)).Nodup := by
  induction entries with
  | nil => simp [putEntry]
  | cons entry rest ih =>
      obtain ⟨hnew, hrest⟩ := List.nodup_cons.1 h
      rw [putEntry]
      split
      · rename_i hkey
        rw [List.map_cons, ← hkey]
        exact h
      · rename_i hkey
        refine List.nodup_cons.2 ⟨?_, ih hrest⟩
        rw [mem_keys_putEntry, not_or]
        exact ⟨hkey, hnew⟩

theorem Lawful.insert {m : SmallMap α} (h : m.Lawful) (key : String) (value : α) :
    (m.insert key value).Lawful := by
  cases m with
  | tree t => exact SearchTree.Ordered.insert h key value
  | list entries =>
      rw [SmallMap.insert, ofEntries]
      split
      · exact nodup_keys_putEntry h
      · exact SearchTree.ordered_ofList _

theorem Lawful.put {m : SmallMap α} (h : m.Lawful) (key : String) (value : α) :
    (m.put key value).Lawful := by
  cases m with
  | list entries => exact nodup_keys_putEntry h
  | tree t => exact SearchTree.Ordered.insert h key value

theorem Lawful.makeRoom {m : SmallMap α} (h : m.Lawful) : m.makeRoom.Lawful := by
  cases m with
  | tree t => exact h
  | list entries =>
      rw [SmallMap.makeRoom]
      split
      · exact h
      · exact SearchTree.ordered_ofList entries

theorem Lawful.getOrInsert {m : SmallMap α} (h : m.Lawful) (key : String) (value : α) :
    (m.getOrInsert key value).2.Lawful := by
  rw [SmallMap.getOrInsert]
  cases m.get? key with
  | some held => exact h
  | none => exact h.makeRoom.put key value

theorem Lawful.nodup_keys {m : SmallMap α} (h : m.Lawful) : m.keys.Nodup := by
  cases m with
  | list entries => exact h
  | tree t => exact SearchTree.Ordered.nodup_keys h

theorem mem_iff_lookup_eq_some {entries : List (String × α)} (h : (entries.map (·.1)).Nodup)
    {key : String} {value : α} : (key, value) ∈ entries ↔ entries.lookup key = some value := by
  induction entries with
  | nil => simp
  | cons entry rest ih =>
      obtain ⟨hnew, hrest⟩ := List.nodup_cons.1 h
      rw [List.mem_cons, SearchTree.lookup_cons_eq_ite]
      by_cases hkey : key = entry.1
      · have hlater : (key, value) ∉ rest := by
          rw [hkey]
          exact fun hmem => hnew (List.mem_map_of_mem (f := (·.1)) hmem)
        rw [or_iff_left hlater, if_pos hkey, Prod.ext_iff, Option.some.injEq]
        simp [hkey, eq_comm]
      · rw [if_neg hkey, ← ih hrest, Prod.ext_iff]
        simp [hkey]

/-- The entries are what a lookup finds. -/
theorem Lawful.mem_toList_iff {m : SmallMap α} (h : m.Lawful) {key : String} {value : α} :
    (key, value) ∈ m.toList ↔ m.get? key = some value := by
  cases m with
  | list entries => exact mem_iff_lookup_eq_some h
  | tree t => exact SearchTree.Ordered.mem_toList_iff h

end SmallMap

end PathRouter

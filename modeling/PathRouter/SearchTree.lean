/-!
Binary search trees keyed by text. Keys are ordered by their code points; in-order enumeration
lists them from the least to the greatest.
-/

namespace PathRouter

inductive SearchTree (α : Type u) where
  | leaf
  | node (left : SearchTree α) (key : String) (value : α) (right : SearchTree α)

namespace SearchTree

variable {α : Type u}

def get? : SearchTree α → String → Option α
  | .leaf, _ => none
  | .node left k v right, key =>
      match compare key k with
      | .lt => left.get? key
      | .eq => some v
      | .gt => right.get? key

/-- Stores a value, in place of the one that the key had if there was one. -/
def insert : SearchTree α → String → α → SearchTree α
  | .leaf, key, value => .node .leaf key value .leaf
  | .node left k v right, key, value =>
      match compare key k with
      | .lt => .node (left.insert key value) k v right
      | .eq => .node left key value right
      | .gt => .node left k v (right.insert key value)

/-- The entries in the order of their keys. -/
def toList : SearchTree α → List (String × α)
  | .leaf => []
  | .node left k v right => left.toList ++ (k, v) :: right.toList

/-- The tree of the entries. Of several entries for one key the first one counts. -/
def ofList (entries : List (String × α)) : SearchTree α :=
  entries.foldr (fun entry t => t.insert entry.1 entry.2) .leaf

def size : SearchTree α → Nat
  | .leaf => 0
  | .node left _ _ right => left.size + 1 + right.size

theorem get?_insert (t : SearchTree α) (key : String) (value : α) (k : String) :
    (t.insert key value).get? k = if k = key then some value else t.get? k := by
  induction t with
  | leaf =>
      by_cases h : k = key
      · simp [insert, get?, h]
      · cases hc : compare k key with
        | eq => exact absurd (Std.LawfulEqOrd.eq_of_compare hc) h
        | lt => simp [insert, get?, h, hc]
        | gt => simp [insert, get?, h, hc]
  | node left k' v right ihl ihr =>
      by_cases h : k = key
      · subst h
        cases hc : compare k k' with
        | eq => simp [insert, get?, hc]
        | lt => simp [insert, get?, hc, ihl]
        | gt => simp [insert, get?, hc, ihr]
      · cases hc : compare key k' with
        | lt => simp only [insert, hc, get?, ihl, if_neg h]
        | gt => simp only [insert, hc, get?, ihr, if_neg h]
        | eq =>
            obtain rfl := Std.LawfulEqOrd.eq_of_compare hc
            cases hk : compare k key with
            | eq => exact absurd (Std.LawfulEqOrd.eq_of_compare hk) h
            | lt => simp [insert, get?, h, hk]
            | gt => simp [insert, get?, h, hk]

theorem lookup_cons_eq_ite (entry : String × α) (rest : List (String × α)) (key : String) :
    (entry :: rest).lookup key = if key = entry.1 then some entry.2 else rest.lookup key := by
  obtain ⟨name, value⟩ := entry
  by_cases h : key = name
  · simp [h]
  · have hb : (key == name) = false := beq_false_of_ne h
    simp [List.lookup_cons, h, hb]

theorem get?_ofList (entries : List (String × α)) (key : String) :
    (ofList entries).get? key = entries.lookup key := by
  induction entries with
  | nil => rfl
  | cons entry rest ih =>
      have hcons : ofList (entry :: rest) = (ofList rest).insert entry.1 entry.2 := rfl
      rw [hcons, get?_insert, ih, lookup_cons_eq_ite]

theorem length_toList (t : SearchTree α) : t.toList.length = t.size := by
  induction t with
  | leaf => rfl
  | node left k v right ihl ihr => simp [toList, size, ihl, ihr]; omega

theorem sizeOf_lt_of_mem [SizeOf α] {t : SearchTree α} {entry : String × α}
    (h : entry ∈ t.toList) : sizeOf entry.2 < sizeOf t := by
  induction t with
  | leaf => simp [toList] at h
  | node left k v right ihl ihr =>
      simp only [toList, List.mem_append, List.mem_cons] at h
      rcases h with h | rfl | h
      · have := ihl h
        simp only [SearchTree.node.sizeOf_spec]
        omega
      · simp only [SearchTree.node.sizeOf_spec]
        omega
      · have := ihr h
        simp only [SearchTree.node.sizeOf_spec]
        omega

end SearchTree

end PathRouter

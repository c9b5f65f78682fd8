import PathRouter.SearchTree

/-!
Maps keyed by text that are small in most places. A few entries are kept as a list in the order in
which they came; beyond `SmallMap.listLimit` entries the map turns into a search tree, and it stays
one, since no operation removes an entry.
-/

namespace PathRouter

inductive SmallMap (α : Type u) where
  | list (entries : List (String × α))
  | tree (t : SearchTree α)

namespace SmallMap

variable {α : Type u}

/-- The most entries that are kept as a list. -/
def listLimit : Nat := 11

def empty : SmallMap α := .list []

instance : Inhabited (SmallMap α) := ⟨empty⟩

/-- The entries; a key occurs in one of them at most. -/
def toList : SmallMap α → List (String × α)
  | .list entries => entries
  | .tree t => t.toList

def keys (m : SmallMap α) : List String := m.toList.map (·.1)

def values (m : SmallMap α) : List α := m.toList.map (·.2)

def size : SmallMap α → Nat
  | .list entries => entries.length
  | .tree t => t.size

def isEmpty (m : SmallMap α) : Bool := m.size == 0

/-- The map has outgrown the list. -/
def isTree : SmallMap α → Bool
  | .list _ => false
  | .tree _ => true

def get? : SmallMap α → String → Option α
  | .list entries, key => entries.lookup key
  | .tree t, key => t.get? key

/-- Replaces the value of the key, or adds an entry at the end. -/
def putEntry (key : String) (value : α) : List (String × α) → List (String × α)
  | [] => [(key, value)]
  | (k, v) :: rest => if k = key then (key, value) :: rest else (k, v) :: putEntry key value rest

/-- A list that is too long becomes a tree. -/
def ofEntries (entries : List (String × α)) : SmallMap α :=
  if entries.length ≤ listLimit then .list entries else .tree (SearchTree.ofList entries)

def insert : SmallMap α → String → α → SmallMap α
  | .list entries, key, value => ofEntries (putEntry key value entries)
  | .tree t, key, value => .tree (t.insert key value)

/-- Stores a value and returns the one that it replaces. -/
def exchange (m : SmallMap α) (key : String) (value : α) : Option α × SmallMap α :=
  (m.get? key, m.insert key value)

/-- Stores a value in the form that the map has. -/
def put : SmallMap α → String → α → SmallMap α
  | .list entries, key, value => .list (putEntry key value entries)
  | .tree t, key, value => .tree (t.insert key value)

/-- Stores a value only where the key has one, and returns the one that it replaces. -/
def replace (m : SmallMap α) (key : String) (value : α) : Option α × SmallMap α :=
  match m.get? key with
  | some old => (some old, m.put key value)
  | none => (none, m)

/-- A list that has no room for one more entry becomes a tree. -/
def makeRoom : SmallMap α → SmallMap α
  | .list entries =>
      if entries.length < listLimit then .list entries else .tree (SearchTree.ofList entries)
  | .tree t => .tree t

/-- The value of the key, which is first given to it if it has none. There is room for a new entry
before it is made, so a full list that has the key already stays one. -/
def getOrInsert (m : SmallMap α) (key : String) (value : α) : α × SmallMap α :=
  match m.get? key with
  | some held => (held, m)
  | none => (value, m.makeRoom.put key value)

theorem lookup_putEntry (key : String) (value : α) (entries : List (String × α)) (k : String) :
    (putEntry key value entries).lookup k = if k = key then some value else entries.lookup k := by
  induction entries with
  | nil => rw [putEntry, SearchTree.lookup_cons_eq_ite]
  | cons entry rest ih =>
      rw [putEntry, SearchTree.lookup_cons_eq_ite]
      by_cases hk : entry.1 = key
      · rw [if_pos hk, SearchTree.lookup_cons_eq_ite, hk]
        by_cases h : k = key
        · rw [if_pos h, if_pos h]
        · rw [if_neg h, if_neg h, if_neg h]
      · rw [if_neg hk, SearchTree.lookup_cons_eq_ite, ih]
        by_cases h : k = entry.1
        · rw [if_pos h, if_pos h, if_neg (h ▸ hk)]
        · rw [if_neg h, if_neg h]

theorem get?_ofEntries (entries : List (String × α)) (key : String) :
    (ofEntries entries).get? key = entries.lookup key := by
  unfold ofEntries
  split
  · rfl
  · exact SearchTree.get?_ofList entries key

/-- Storing a value changes what is found for its key and nothing else. -/
theorem get?_insert (m : SmallMap α) (key : String) (value : α) (k : String) :
    (m.insert key value).get? k = if k = key then some value else m.get? k := by
  cases m with
  | list entries =>
      simp only [insert, get?_ofEntries, lookup_putEntry]
      rfl
  | tree t => exact SearchTree.get?_insert t key value k

theorem get?_put (m : SmallMap α) (key : String) (value : α) (k : String) :
    (m.put key value).get? k = if k = key then some value else m.get? k := by
  cases m with
  | list entries => exact lookup_putEntry key value entries k
  | tree t => exact SearchTree.get?_insert t key value k

theorem get?_makeRoom (m : SmallMap α) (k : String) : m.makeRoom.get? k = m.get? k := by
  cases m with
  | tree t => rfl
  | list entries =>
      rw [makeRoom]
      split
      · rfl
      · exact SearchTree.get?_ofList entries k

theorem getOrInsert_fst (m : SmallMap α) (key : String) (value : α) :
    (m.getOrInsert key value).1 = (m.get? key).getD value := by
  rw [getOrInsert]
  cases m.get? key <;> rfl

/-- A value that is stored in the place that was made for its key is all that has changed. -/
theorem get?_put_getOrInsert (m : SmallMap α) (key : String) (first value : α) (k : String) :
    ((m.getOrInsert key first).2.put key value).get? k =
      if k = key then some value else m.get? k := by
  rw [getOrInsert, get?_put]
  split
  · rfl
  · next hk =>
      cases m.get? key with
      | some held => rfl
      | none => rw [get?_put, if_neg hk, get?_makeRoom]

theorem sizeOf_lt_of_mem_values [SizeOf α] {m : SmallMap α} {v : α} (h : v ∈ m.values) :
    sizeOf v < sizeOf m := by
  obtain ⟨⟨k, v⟩, hmem, rfl⟩ := List.mem_map.1 h
  cases m with
  | list entries =>
      have hlt := List.sizeOf_lt_of_mem (show (k, v) ∈ entries from hmem)
      simp only [Prod.mk.sizeOf_spec] at hlt
      simp only [SmallMap.list.sizeOf_spec]
      omega
  | tree t =>
      have hlt : sizeOf v < sizeOf t :=
        SearchTree.sizeOf_lt_of_mem (show (k, v) ∈ t.toList from hmem)
      simp only [SmallMap.tree.sizeOf_spec]
      omega

end SmallMap

end PathRouter

import Mathlib.Data.Finmap
import PathRouter.Proofs.SmallMap

/-!
Small maps in use. Whatever is asked of a small map, one request after the other, it answers as a
finite map does that has no form at all, and it shows the same keys and values. What its form shows
is the number of its entries: it is a list as long as they fit into one. The two ways of storing a
new key turn the list into a tree at different moments, one when the entry is there and one before,
and each is right because a lawful map has exactly as many entries as keys.
-/

namespace PathRouter

/-- A finite map, of which nothing can be seen but what each key is mapped to. -/
abbrev PlainMap (α : Type u) := Finmap fun _ : String => α

namespace PlainMap

variable {α : Type u}

theorem lookup_insert_eq_ite (f : PlainMap α) (key : String) (value : α) (k : String) :
    (f.insert key value).lookup k = if k = key then some value else f.lookup k := by
  by_cases hk : k = key
  · rw [if_pos hk, hk, Finmap.lookup_insert]
  · rw [if_neg hk, Finmap.lookup_insert_of_ne f hk]

theorem keys_insert (f : PlainMap α) (key : String) (value : α) :
    (f.insert key value).keys = insert key f.keys := by
  ext k
  rw [Finmap.mem_keys, Finmap.mem_insert, Finset.mem_insert, Finmap.mem_keys]

theorem card_keys_insert_of_mem {f : PlainMap α} {key : String} (h : key ∈ f) (value : α) :
    (f.insert key value).keys.card = f.keys.card := by
  rw [keys_insert, Finset.insert_eq_of_mem (Finmap.mem_keys.2 h)]

theorem card_keys_insert_of_not_mem {f : PlainMap α} {key : String} (h : key ∉ f) (value : α) :
    (f.insert key value).keys.card = f.keys.card + 1 := by
  rw [keys_insert, Finset.card_insert_of_notMem fun hmem => h (Finmap.mem_keys.1 hmem)]

end PlainMap

namespace SmallMap

variable {α : Type u}

/-! ### Entries -/

theorem length_toList (m : SmallMap α) : m.toList.length = m.size := by
  cases m with
  | list entries => rfl
  | tree t => exact t.length_toList

/-- The map and the finite map have the same value for each key. -/
structure Represents (m : SmallMap α) (f : PlainMap α) : Prop where
  lawful : m.Lawful
  lookup : ∀ key, m.get? key = f.lookup key

section Represents

variable {m : SmallMap α} {f : PlainMap α}

theorem represents_empty : (empty : SmallMap α).Represents ∅ := ⟨lawful_empty, fun _ => rfl⟩

theorem Represents.insert (h : m.Represents f) (key : String) (value : α) :
    (m.insert key value).Represents (f.insert key value) where
  lawful := h.lawful.insert key value
  lookup k := by rw [get?_insert, h.lookup, PlainMap.lookup_insert_eq_ite]

theorem Represents.put (h : m.Represents f) (key : String) (value : α) :
    (m.put key value).Represents (f.insert key value) where
  lawful := h.lawful.put key value
  lookup k := by rw [get?_put, h.lookup, PlainMap.lookup_insert_eq_ite]

theorem Represents.makeRoom (h : m.Represents f) : m.makeRoom.Represents f where
  lawful := h.lawful.makeRoom
  lookup k := by rw [get?_makeRoom, h.lookup]

/-- An entry as a finite map has it. -/
def plainEntry (entry : String × α) : Sigma fun _ : String => α := ⟨entry.1, entry.2⟩

/-- The entries are those of the finite map: none is lost and none is there twice. -/
theorem Represents.entries_eq (h : m.Represents f) :
    (m.toList.map plainEntry : Multiset (Sigma fun _ : String => α)) = f.entries := by
  have hnodup : (m.toList.map plainEntry).Nodup := by
    have hkeys := h.lawful.nodup_keys
    refine List.Nodup.of_map Sigma.fst ?_
    rw [List.map_map]
    exact hkeys
  rw [Multiset.Nodup.ext (Multiset.coe_nodup.2 hnodup) f.nodup_entries]
  rintro ⟨key, value⟩
  rw [← Finmap.lookup_eq_some_iff, ← h.lookup]
  show ⟨key, value⟩ ∈ m.toList.map plainEntry ↔ m.get? key = some value
  rw [← h.lawful.mem_toList_iff, List.mem_map]
  constructor
  · rintro ⟨entry, hentry, heq⟩
    cases heq
    exact hentry
  · exact fun hentry => ⟨_, hentry, rfl⟩

theorem Represents.keys_eq (h : m.Represents f) : (m.keys : Multiset String) = f.keys.val := by
  show (m.keys : Multiset String) = f.entries.map Sigma.fst
  rw [← h.entries_eq, Multiset.map_coe, List.map_map]
  rfl

theorem Represents.values_eq (h : m.Represents f) :
    (m.values : Multiset α) = f.entries.map (·.2) := by
  rw [← h.entries_eq, Multiset.map_coe, List.map_map]
  rfl

theorem Represents.size_eq (h : m.Represents f) : m.size = f.keys.card := by
  rw [← length_toList, Finset.card_def, ← h.keys_eq, Multiset.coe_card, keys, List.length_map]

theorem Represents.isEmpty_iff (h : m.Represents f) : m.isEmpty ↔ f = ∅ := by
  rw [isEmpty, beq_iff_eq, h.size_eq, Finset.card_eq_zero]
  constructor
  · intro hkeys
    refine Finmap.ext_lookup fun key => ?_
    have hkey : key ∉ f := by
      rw [← Finmap.mem_keys, hkeys]
      exact Finset.notMem_empty key
    rw [Finmap.lookup_eq_none.2 hkey, Finmap.lookup_empty]
  · rintro rfl
    exact Finmap.keys_empty

end Represents

/-! ### The form of a map -/

/-- The map is a list as long as its entries fit into one. -/
def InForm (m : SmallMap α) : Prop := m.isTree ↔ listLimit < m.size

theorem inForm_empty : (empty : SmallMap α).InForm := by
  simp [InForm, empty, isTree, size]

theorem isTree_put (m : SmallMap α) (key : String) (value : α) :
    (m.put key value).isTree = m.isTree := by
  cases m <;> rfl

theorem isTree_makeRoom (m : SmallMap α) :
    m.makeRoom.isTree ↔ m.isTree ∨ listLimit ≤ m.size := by
  cases m with
  | tree t => simp [makeRoom, isTree]
  | list entries =>
      rw [makeRoom]
      split
      · rename_i hroom
        simpa [isTree, size] using hroom
      · rename_i hfull
        simpa [isTree, size] using hfull

theorem isTree_ofEntries (entries : List (String × α)) :
    (ofEntries entries).isTree ↔ listLimit < entries.length := by
  rw [ofEntries]
  split
  · rename_i hfits
    simpa [isTree] using hfits
  · rename_i hmany
    simpa [isTree] using hmany

/-- A list of entries with different keys keeps its length when it becomes a tree. -/
theorem size_ofEntries {entries : List (String × α)} (h : (entries.map (·.1)).Nodup) :
    (ofEntries entries).size = entries.length := by
  rw [ofEntries]
  split
  · rfl
  · have htree : (SearchTree.ofList entries).toList.Perm entries := by
      have hordered := SearchTree.ordered_ofList entries
      rw [List.perm_ext_iff_of_nodup hordered.nodup_keys.of_map h.of_map]
      rintro ⟨key, value⟩
      rw [hordered.mem_toList_iff, SearchTree.get?_ofList, mem_iff_lookup_eq_some h]
    rw [size, ← SearchTree.length_toList, htree.length_eq]

variable {m : SmallMap α} {f : PlainMap α}

theorem InForm.insert (hform : m.InForm) (h : m.Represents f) (key : String) (value : α) :
    (m.insert key value).InForm := by
  cases m with
  | list entries =>
      have hnodup : ((putEntry key value entries).map (·.1)).Nodup := nodup_keys_putEntry h.lawful
      rw [SmallMap.insert, InForm, isTree_ofEntries, size_ofEntries hnodup]
  | tree t =>
      -- A tree has too many entries for a list, and an insertion takes none away.
      have hmany : listLimit < (tree t).size := hform.1 rfl
      have hgrown : (tree t).size ≤ ((tree t).insert key value).size := by
        rw [h.size_eq, (h.insert key value).size_eq, PlainMap.keys_insert]
        exact Finset.card_le_card (Finset.subset_insert key f.keys)
      exact iff_of_true rfl (Nat.lt_of_lt_of_le hmany hgrown)

/-- A new value for a key that has one leaves the number of entries as it was. -/
theorem InForm.put (hform : m.InForm) (h : m.Represents f) {key : String} (hkey : key ∈ f)
    (value : α) : (m.put key value).InForm := by
  rw [InForm, h.size_eq] at hform
  rw [InForm, isTree_put, hform, (h.put key value).size_eq,
    PlainMap.card_keys_insert_of_mem hkey]

/-- Room that is made for a new entry is filled by it. -/
theorem InForm.put_makeRoom (hform : m.InForm) (h : m.Represents f) {key : String} (hkey : key ∉ f)
    (value : α) : (m.makeRoom.put key value).InForm := by
  rw [InForm, h.size_eq] at hform
  rw [InForm, isTree_put, isTree_makeRoom, hform, (h.makeRoom.put key value).size_eq,
    PlainMap.card_keys_insert_of_not_mem hkey, h.size_eq]
  omega

/-- The map has the values of the finite map, in the form that their number asks for. -/
structure StandsFor (m : SmallMap α) (f : PlainMap α) : Prop extends m.Represents f where
  inForm : m.InForm

theorem standsFor_empty : (empty : SmallMap α).StandsFor ∅ := ⟨represents_empty, inForm_empty⟩

end SmallMap

/-! ### Requests one after the other -/

/-- Something that is asked of a map. -/
inductive MapRequest (α : Type u) where
  /-- Store a value, and tell the one that it replaces. -/
  | exchange (key : String) (value : α)
  /-- Tell the value of a key. -/
  | look (key : String)
  /-- Store a value if it replaces one, which is told. -/
  | replace (key : String) (value : α)
  /-- Store a value unless the key has one, and tell what the key has then. -/
  | getOrInsert (key : String) (value : α)
  /-- Go on with a copy of the map. -/
  | copy

namespace MapRequest

variable {α : Type u} {σ : Type v}

/-- The answer of a small map, and the map afterwards. -/
def serve (m : SmallMap α) : MapRequest α → Option α × SmallMap α
  | exchange key value => m.exchange key value
  | look key => (m.get? key, m)
  | replace key value => m.replace key value
  | getOrInsert key value => (some (m.getOrInsert key value).1, (m.getOrInsert key value).2)
  | copy => (none, m)

/-- The answer of a finite map, and the map afterwards. -/
def servePlain (f : PlainMap α) : MapRequest α → Option α × PlainMap α
  | exchange key value => (f.lookup key, f.insert key value)
  | look key => (f.lookup key, f)
  | replace key value => (f.lookup key, if key ∈ f then f.insert key value else f)
  | getOrInsert key value =>
      if key ∈ f then (f.lookup key, f) else (some value, f.insert key value)
  | copy => (none, f)

/-- The answers to the requests, each with the map after it. -/
def history (serve : σ → MapRequest α → Option α × σ) (start : σ) :
    List (MapRequest α) → List (Option α × σ)
  | [] => []
  | request :: later => serve start request :: history serve (serve start request).2 later

/-- The answers are the same, and nothing that can be seen of the maps differs. The small map is a
list exactly as long as its entries fit into one, and it is a list of different keys. -/
structure Agree (shown : Option α × SmallMap α) (plain : Option α × PlainMap α) : Prop where
  answer : shown.1 = plain.1
  lookup : ∀ key, shown.2.get? key = plain.2.lookup key
  size : shown.2.size = plain.2.keys.card
  isEmpty : shown.2.isEmpty ↔ plain.2 = ∅
  keys : (shown.2.keys : Multiset String) = plain.2.keys.val
  values : (shown.2.values : Multiset α) = plain.2.entries.map (·.2)
  isTree : shown.2.isTree ↔ SmallMap.listLimit < shown.2.size
  isList : ∀ entries, shown.2 = .list entries →
    (entries.map (·.1)).Nodup ∧ entries.length ≤ SmallMap.listLimit

variable {m : SmallMap α} {f : PlainMap α}

theorem agree_of_standsFor (h : m.StandsFor f) {answer answer' : Option α}
    (heq : answer = answer') : Agree (answer, m) (answer', f) where
  answer := heq
  lookup := h.lookup
  size := h.size_eq
  isEmpty := h.isEmpty_iff
  keys := h.keys_eq
  values := h.values_eq
  isTree := h.inForm
  isList := by
    rintro entries rfl
    refine ⟨h.lawful, Nat.le_of_not_lt fun hmany => ?_⟩
    exact Bool.false_ne_true (h.inForm.2 hmany)

/-- What is asked of a map that stands for a finite map has the answer of that map, and afterwards
the one still stands for the other. -/
theorem standsFor_serve (h : m.StandsFor f) (request : MapRequest α) :
    (serve m request).1 = (servePlain f request).1 ∧
      (serve m request).2.StandsFor (servePlain f request).2 := by
  cases request with
  | exchange key value => exact ⟨h.lookup key, h.insert key value, h.inForm.insert h.1 key value⟩
  | look key => exact ⟨h.lookup key, h⟩
  | replace key value =>
      have hlookup := h.lookup key
      rw [serve, servePlain, SmallMap.replace]
      cases hget : m.get? key with
      | none =>
          have hkey : key ∉ f := Finmap.lookup_eq_none.1 (hlookup.symm.trans hget)
          rw [if_neg hkey]
          exact ⟨hget.symm.trans hlookup, h⟩
      | some old =>
          have hkey : key ∈ f := Finmap.mem_of_lookup_eq_some (hlookup.symm.trans hget)
          rw [if_pos hkey]
          exact ⟨hget.symm.trans hlookup, h.put key value, h.inForm.put h.1 hkey value⟩
  | getOrInsert key value =>
      have hlookup := h.lookup key
      rw [serve, servePlain, SmallMap.getOrInsert]
      cases hget : m.get? key with
      | none =>
          have hkey : key ∉ f := Finmap.lookup_eq_none.1 (hlookup.symm.trans hget)
          rw [if_neg hkey]
          exact ⟨rfl, h.makeRoom.put key value, h.inForm.put_makeRoom h.1 hkey value⟩
      | some held =>
          have hkey : key ∈ f := Finmap.mem_of_lookup_eq_some (hlookup.symm.trans hget)
          rw [if_pos hkey]
          exact ⟨hget.symm.trans hlookup, h⟩
  | copy => exact ⟨rfl, h⟩

theorem agree_history (h : m.StandsFor f) (requests : List (MapRequest α)) :
    List.Forall₂ Agree (history serve m requests) (history servePlain f requests) := by
  induction requests generalizing m f with
  | nil => exact .nil
  | cons request later ih =>
      obtain ⟨hanswer, hafter⟩ := standsFor_serve h request
      exact .cons (agree_of_standsFor hafter hanswer) (ih hafter)

/-- No request makes a list of a tree. -/
theorem isTree_serve (htree : m.isTree) (request : MapRequest α) : (serve m request).2.isTree := by
  obtain ⟨entries⟩ | ⟨t⟩ := m
  · contradiction
  · cases request with
    | exchange | look | copy => rfl
    | replace key value =>
        rw [serve, SmallMap.replace]
        split <;> rfl
    | getOrInsert key value =>
        rw [serve, SmallMap.getOrInsert]
        split <;> rfl

theorem isTree_of_mem_history (htree : m.isTree) {requests : List (MapRequest α)}
    {later : Option α × SmallMap α} (hlater : later ∈ history serve m requests) :
    later.2.isTree := by
  induction requests generalizing m with
  | nil => exact absurd hlater List.not_mem_nil
  | cons request requests ih =>
      have hnext := isTree_serve htree request
      rcases List.mem_cons.1 hlater with rfl | hlater
      · exact hnext
      · exact ih hnext hlater

/-- A tree stays one. -/
theorem pairwise_isTree_history (m : SmallMap α) (requests : List (MapRequest α)) :
    (history serve m requests).Pairwise fun earlier later => earlier.2.isTree → later.2.isTree := by
  induction requests generalizing m with
  | nil => exact .nil
  | cons request requests ih =>
      exact .cons (fun later hlater htree => isTree_of_mem_history htree hlater) (ih _)

/-- Whatever is asked of an empty small map, it agrees with an empty finite map in every answer and
in all that can be seen afterwards, and once it is a tree it never is a list again. -/
theorem history_agrees (requests : List (MapRequest α)) :
    List.Forall₂ Agree (history serve SmallMap.empty requests) (history servePlain ∅ requests) ∧
      (history serve (SmallMap.empty : SmallMap α) requests).Pairwise fun earlier later =>
        earlier.2.isTree → later.2.isTree :=
  ⟨agree_history SmallMap.standsFor_empty requests, pairwise_isTree_history _ requests⟩

end MapRequest

end PathRouter

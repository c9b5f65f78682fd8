import PathRouter.Proofs.Trie
import PathRouter.Proofs.Trie.Places

/-!
The routes of a trie as a list, each with its key. The size of a trie, which adds up what ends at
each node, is the length of this list. In an orderly trie the list is made of what a lookup finds,
each key once, so the size depends on the lookups alone, and a new key counts for one.
-/

namespace PathRouter

/-- A key seen from one step above. -/
def Step.under : Step → Key → Key
  | .literal text, k => .literal text k
  | .wild, k => .single k

theorem Step.under_injective (s : Step) : Function.Injective s.under := by
  cases s with
  | literal text => exact fun _ _ h => (Key.literal.inj h).2
  | wild => exact fun _ _ h => Key.single.inj h

/-- The first step of a key can be read off it. -/
theorem Step.eq_of_under_eq {s s' : Step} {k k' : Key} (h : s.under k = s'.under k') : s = s' := by
  cases s <;> cases s' <;> cases h <;> rfl

namespace Trie

theorem route?_under (t : Trie) (s : Step) (k : Key) :
    t.route? (s.under k) = (t.below? s).bind fun child => child.route? k := by
  cases s <;> rfl

/-- The keys that end at this node. -/
def entriesHere (t : Trie) : List (Key × RouteId) :=
  t.exact.toList.map (Key.exact, ·) ++ t.slash.toList.map (Key.slash, ·) ++
    t.rest.toList.map (Key.rest, ·)

/-- The keys that have a route. -/
def entries (t : Trie) : List (Key × RouteId) :=
  t.entriesHere ++ t.branches.attach.flatMap fun ⟨branch, _⟩ =>
    branch.2.entries.map fun entry => (branch.1.under entry.1, entry.2)
termination_by t
decreasing_by exact sizeOf_lt_of_mem_branches ‹_›

theorem entries_eq (t : Trie) :
    t.entries = t.entriesHere ++ t.branches.flatMap fun branch =>
      branch.2.entries.map fun entry => (branch.1.under entry.1, entry.2) := by
  rw [entries, List.flatMap_subtype fun _ _ => rfl, List.unattach_attach]

/-- A key that ends at a node does not go on below it. -/
theorem ne_under_of_mem_entriesHere {t : Trie} {entry : Key × RouteId} (h : entry ∈ t.entriesHere)
    (s : Step) (k : Key) : entry.1 ≠ s.under k := by
  simp only [entriesHere, List.mem_append, List.mem_map] at h
  rcases h with (⟨_, -, rfl⟩ | ⟨_, -, rfl⟩) | ⟨_, -, rfl⟩ <;> cases s <;> exact Key.noConfusion

theorem map_snd_entriesHere (t : Trie) : t.entriesHere.map (·.2) = t.here := by
  simp [entriesHere, here, Function.comp_def]

theorem length_entriesHere (t : Trie) : t.entriesHere.length = t.here.length := by
  rw [← map_snd_entriesHere, List.length_map]

theorem size_eq_length_entries (t : Trie) : t.size = t.entries.length := by
  induction t using branches_induction with
  | step t ih =>
      have hbelow : t.branches.map (fun branch => branch.2.size) =
          t.branches.map fun branch => (branch.2.entries.map fun entry =>
            (branch.1.under entry.1, entry.2)).length := by
        apply List.map_congr_left
        intro branch hbranch
        rw [ih branch hbranch, List.length_map]
      rw [size_eq, entries_eq, List.length_append, length_entriesHere, List.length_flatMap,
        ← hbelow, ← map_snd_branches, List.map_map]
      rfl

/-- What is listed below a step is what is listed at the node that the step leads to. -/
theorem mem_entries_under_iff {t : Trie} {s : Step} {k : Key} {id : RouteId} :
    (s.under k, id) ∈ t.entries ↔ ∃ child, (s, child) ∈ t.branches ∧ (k, id) ∈ child.entries := by
  have hhere : (s.under k, id) ∉ t.entriesHere := fun h => ne_under_of_mem_entriesHere h s k rfl
  rw [entries_eq, List.mem_append, or_iff_right hhere]
  simp only [List.mem_flatMap, List.mem_map, Prod.mk.injEq]
  constructor
  · rintro ⟨⟨s', child⟩, hbranch, ⟨k', id'⟩, hentry, hkey, rfl⟩
    obtain rfl := Step.eq_of_under_eq hkey
    obtain rfl := s'.under_injective hkey
    exact ⟨child, hbranch, hentry⟩
  · rintro ⟨child, hbranch, hentry⟩
    exact ⟨(s, child), hbranch, (k, id), hentry, rfl, rfl⟩

/-- Keys from below a step do not end at this node. -/
theorem mem_entries_iff_here {t : Trie} {k : Key} (hk : ∀ s k', k ≠ Step.under s k') {id : RouteId} :
    (k, id) ∈ t.entries ↔ (k, id) ∈ t.entriesHere := by
  rw [entries_eq, List.mem_append, or_iff_left]
  simp only [List.mem_flatMap, List.mem_map, Prod.mk.injEq]
  rintro ⟨branch, -, entry, -, hkey, -⟩
  exact hk branch.1 entry.1 hkey.symm

/-! ### In orderly tries each key is listed once -/

theorem Orderly.mem_entries_under_iff {t : Trie} (h : t.Orderly) {k : Key} {id : RouteId}
    (ih : ∀ child : Trie, child.Orderly → ((k, id) ∈ child.entries ↔ child.route? k = some id))
    (s : Step) : (s.under k, id) ∈ t.entries ↔ t.route? (s.under k) = some id := by
  rw [Trie.mem_entries_under_iff, route?_under, Option.bind_eq_some_iff]
  apply exists_congr
  intro child
  constructor
  · rintro ⟨hbranch, hentry⟩
    exact ⟨h.mem_branches_iff.1 hbranch, (ih child (h.of_mem_branches hbranch)).1 hentry⟩
  · rintro ⟨hchild, hroute⟩
    have hbranch := h.mem_branches_iff.2 hchild
    exact ⟨hbranch, (ih child (h.of_mem_branches hbranch)).2 hroute⟩

/-- The list is made of what a lookup finds. -/
theorem Orderly.mem_entries_iff {t : Trie} (h : t.Orderly) {k : Key} {id : RouteId} :
    (k, id) ∈ t.entries ↔ t.route? k = some id := by
  induction k generalizing t with
  | exact | slash | rest =>
      rw [mem_entries_iff_here (by rintro (_ | _) k' <;> exact Key.noConfusion)]
      simp [entriesHere, route?]
  | literal text k ih => exact h.mem_entries_under_iff (fun _ hchild => ih hchild) (.literal text)
  | single k ih => exact h.mem_entries_under_iff (fun _ hchild => ih hchild) .wild

theorem Orderly.nodup_keys {t : Trie} (h : t.Orderly) : (t.entries.map (·.1)).Nodup := by
  induction t using branches_induction with
  | step t ih =>
      rw [entries_eq, List.map_append, List.map_flatMap, List.nodup_append, List.nodup_flatMap]
      refine ⟨?_, ⟨fun branch hbranch => ?_, ?_⟩, ?_⟩
      · cases hexact : t.exact <;> cases hslash : t.slash <;> cases hrest : t.rest <;>
          simp [entriesHere, hexact, hslash, hrest]
      · have hkeys := (ih branch hbranch (h.of_mem_branches hbranch)).map branch.1.under_injective
        rw [List.map_map] at hkeys ⊢
        exact hkeys
      · -- Keys on different branches differ in the first step.
        refine (List.pairwise_map.1 h.nodup_steps).imp fun hne => ?_
        simp only [Function.onFun, List.disjoint_left, List.mem_map]
        rintro _ ⟨_, ⟨_, -, rfl⟩, rfl⟩ ⟨_, ⟨_, -, rfl⟩, heq⟩
        exact hne (Step.eq_of_under_eq heq).symm
      · intro key hkey key' hkey'
        obtain ⟨entry, hentry, rfl⟩ := List.mem_map.1 hkey
        obtain ⟨branch, -, hbelow⟩ := List.mem_flatMap.1 hkey'
        rw [List.map_map] at hbelow
        obtain ⟨below, -, rfl⟩ := List.mem_map.1 hbelow
        exact ne_under_of_mem_entriesHere hentry branch.1 below.1

theorem Orderly.nodup_entries {t : Trie} (h : t.Orderly) : t.entries.Nodup :=
  h.nodup_keys.of_map _

variable {t t' : Trie}

/-- Tries in which a lookup finds the same have the same size. -/
theorem Orderly.size_congr (h : t.Orderly) (h' : t'.Orderly)
    (hsame : ∀ k, t.route? k = t'.route? k) : t.size = t'.size := by
  have hperm : t.entries.Perm t'.entries := by
    rw [List.perm_ext_iff_of_nodup h.nodup_entries h'.nodup_entries]
    rintro ⟨k, id⟩
    rw [h.mem_entries_iff, h'.mem_entries_iff, hsame]
  rw [size_eq_length_entries, size_eq_length_entries, hperm.length_eq]

/-- A key that had no route before counts for one. -/
theorem Orderly.size_eq_succ (h : t.Orderly) (h' : t'.Orderly) {key : Key} {id : RouteId}
    (hnew : t.route? key = none)
    (hroute : ∀ k, t'.route? k = if k = key then some id else t.route? k) :
    t'.size = t.size + 1 := by
  have hfresh : (key, id) ∉ t.entries := by
    rw [h.mem_entries_iff, hnew]
    simp
  have hperm : t'.entries.Perm ((key, id) :: t.entries) := by
    rw [List.perm_ext_iff_of_nodup h'.nodup_entries (h.nodup_entries.cons hfresh)]
    rintro ⟨k, i⟩
    rw [h'.mem_entries_iff, hroute, List.mem_cons, h.mem_entries_iff, Prod.mk.injEq]
    by_cases hk : k = key
    · subst hk
      simp [hnew, eq_comm]
    · simp [hk]
  rw [size_eq_length_entries, size_eq_length_entries, hperm.length_eq, List.length_cons]

end Trie

end PathRouter

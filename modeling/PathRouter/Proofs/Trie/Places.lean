import Mathlib.Data.List.Nodup
import PathRouter.Proofs.Key
import PathRouter.Proofs.SmallMap
import PathRouter.Trie

/-!
The nodes of a trie by the steps that lead to them. An insertion makes the nodes that are missing on
the way of its key and no others, so which nodes there are depends on the keys alone. The two
measures of a trie, how many nodes it has and how far down they go, are read off the list of all
ways down, in which each node occurs once.
-/

namespace PathRouter

/-- One step down in a trie. -/
inductive Step where
  | literal (text : String)
  | wild
  deriving DecidableEq, Repr

/-- The step that a segment takes, unless it takes the end of a path. -/
def Segment.step? : Segment → Option Step
  | .literal text => some (.literal text)
  | .single _ => some .wild
  | .multi _ | .slash => none

/-- The steps to the node that holds the route of a key. -/
def Key.steps : Key → List Step
  | .exact | .slash | .rest => []
  | .literal text k => .literal text :: k.steps
  | .single k => .wild :: k.steps

theorem Key.steps_ofSegments_of_some {segment : Segment} {s : Step} (h : segment.step? = some s)
    (later : List Segment) :
    (ofSegments (segment :: later)).steps = s :: (ofSegments later).steps := by
  cases segment <;> cases h <;> rfl

theorem Key.steps_ofSegments_of_none {segment : Segment} (h : segment.step? = none)
    (later : List Segment) : (ofSegments (segment :: later)).steps = [] := by
  cases segment <;> cases h <;> rfl

namespace Trie

/-! ### Going down -/

/-- The node one step below. -/
def below? (t : Trie) : Step → Option Trie
  | .literal text => t.children.get? text
  | .wild => t.wild

/-- The steps lead to a node. -/
def HasNode : Trie → List Step → Prop
  | _, [] => True
  | t, s :: later => ∃ child, t.below? s = some child ∧ child.HasNode later

theorem below?_empty (s : Step) : empty.below? s = none := by
  cases s <;> rfl

theorem hasNode_empty_iff {steps : List Step} : empty.HasNode steps ↔ steps = [] := by
  cases steps with
  | nil => exact iff_of_true trivial rfl
  | cons s later => simp [HasNode, below?_empty]

/-- Only the node that the first segment steps to is another one after an insertion. -/
theorem below?_insert_of_some {segment : Segment} {first : Step} (h : segment.step? = some first)
    (id : RouteId) (later : List Segment) (t : Trie) (s : Step) :
    (insert id (segment :: later) t).2.below? s =
      if s = first then some (insert id later ((t.below? first).getD empty)).2
      else t.below? s := by
  cases segment with
  | multi | slash => contradiction
  | single name =>
      cases h
      cases s <;> rfl
  | literal text =>
      cases h
      cases s with
      | wild => rfl
      | literal text' =>
          simp only [insert, below?, SmallMap.get?_put_getOrInsert, SmallMap.getOrInsert_fst,
            Step.literal.injEq]

theorem below?_insert_of_none {segment : Segment} (h : segment.step? = none) (id : RouteId)
    (later : List Segment) (t : Trie) (s : Step) :
    (insert id (segment :: later) t).2.below? s = t.below? s := by
  cases segment <;> cases h <;> cases s <;> rfl

/-- An insertion makes the nodes on the way of its key. -/
theorem hasNode_insert_iff (id : RouteId) (segments : List Segment) (t : Trie)
    (steps : List Step) :
    (insert id segments t).2.HasNode steps ↔
      t.HasNode steps ∨ steps <+: (Key.ofSegments segments).steps := by
  induction segments generalizing t steps with
  | nil =>
      cases steps with
      | nil => exact iff_of_true trivial (.inl trivial)
      | cons s more => cases s <;> simp [HasNode, insert, below?, Key.ofSegments, Key.steps]
  | cons segment later ih =>
      cases steps with
      | nil => exact iff_of_true trivial (.inl trivial)
      | cons s more =>
          cases hstep : segment.step? with
          | none =>
              rw [HasNode, below?_insert_of_none hstep, Key.steps_ofSegments_of_none hstep]
              simp [HasNode]
          | some first =>
              rw [HasNode, below?_insert_of_some hstep, Key.steps_ofSegments_of_some hstep,
                List.cons_prefix_cons]
              by_cases hs : s = first
              · subst hs
                rw [HasNode]
                cases hbelow : t.below? s with
                | none =>
                    -- The node is new, and below it there is only the way of the key.
                    have hnil : more = [] → more <+: (Key.ofSegments later).steps := by
                      rintro rfl
                      exact List.nil_prefix
                    simpa [ih, hasNode_empty_iff] using hnil
                | some child => simp [ih]
              · simp [hs, HasNode]

/-! ### Tries with lawful maps -/

/-- At every node the map of the children is lawful. -/
inductive Orderly : Trie → Prop where
  | intro {t : Trie} (hchildren : t.children.Lawful)
      (hbelow : ∀ s child, t.below? s = some child → Orderly child) : Orderly t

theorem orderly_empty : empty.Orderly := by
  refine .intro SmallMap.lawful_empty fun s child hchild => ?_
  rw [below?_empty] at hchild
  contradiction

theorem lawful_children_insert {t : Trie} (h : t.children.Lawful) (id : RouteId)
    (segments : List Segment) : (insert id segments t).2.children.Lawful := by
  cases segments with
  | nil => exact h
  | cons segment later => cases segment with
    | literal text => exact (h.getOrInsert text empty).put text _
    | single | multi | slash => exact h

theorem Orderly.insert {t : Trie} (h : t.Orderly) (id : RouteId) (segments : List Segment) :
    (insert id segments t).2.Orderly := by
  induction segments generalizing t with
  | nil =>
      obtain ⟨hchildren, hbelow⟩ := h
      refine .intro hchildren fun s child hchild => hbelow s child ?_
      cases s <;> exact hchild
  | cons segment later ih =>
      obtain ⟨hchildren, hbelow⟩ := h
      refine .intro (lawful_children_insert hchildren id _) fun s child hchild => ?_
      cases hstep : segment.step? with
      | none =>
          rw [below?_insert_of_none hstep] at hchild
          exact hbelow s child hchild
      | some first =>
          rw [below?_insert_of_some hstep] at hchild
          split at hchild
          · obtain rfl := Option.some.inj hchild
            apply ih
            cases hfirst : t.below? first with
            | none => exact orderly_empty
            | some old => exact hbelow first old hfirst
          · exact hbelow s child hchild

/-! ### The list of all places -/

/-- The steps that can be taken at a node, with the nodes below. -/
def branches (t : Trie) : List (Step × Trie) :=
  t.children.toList.map (fun entry => (.literal entry.1, entry.2)) ++
    t.wild.toList.map fun child => (.wild, child)

theorem map_snd_branches (t : Trie) : t.branches.map (·.2) = t.subtries := by
  simp [branches, subtries, SmallMap.values, Function.comp_def]

theorem sizeOf_lt_of_mem_branches {t : Trie} {branch : Step × Trie} (h : branch ∈ t.branches) :
    sizeOf branch.2 < sizeOf t :=
  sizeOf_lt_of_mem_subtries (map_snd_branches t ▸ List.mem_map_of_mem h)

/-- What holds of a trie if it holds of all tries right below it holds of every trie. -/
@[elab_as_elim]
theorem branches_induction {P : Trie → Prop}
    (step : ∀ t, (∀ branch ∈ t.branches, P branch.2) → P t) (t : Trie) : P t :=
  step t fun branch _ => branches_induction step branch.2
termination_by t
decreasing_by exact sizeOf_lt_of_mem_branches ‹_›

/-- The steps to each of the nodes. -/
def places (t : Trie) : List (List Step) :=
  [] :: t.branches.attach.flatMap fun ⟨branch, _⟩ => branch.2.places.map (branch.1 :: ·)
termination_by t
decreasing_by exact sizeOf_lt_of_mem_branches ‹_›

theorem places_eq (t : Trie) :
    t.places = [] :: t.branches.flatMap fun branch => branch.2.places.map (branch.1 :: ·) := by
  rw [places, List.flatMap_subtype fun _ _ => rfl, List.unattach_attach]

theorem nil_mem_places (t : Trie) : [] ∈ t.places := places_eq t ▸ List.mem_cons_self

theorem mem_places_cons_iff {t : Trie} {s : Step} {later : List Step} :
    s :: later ∈ t.places ↔ ∃ child, (s, child) ∈ t.branches ∧ later ∈ child.places := by
  rw [places_eq]
  simp

theorem nodeCount_eq (t : Trie) :
    t.nodeCount = 1 + (t.subtries.map nodeCount).foldr (· + ·) 0 := by
  rw [nodeCount, List.attach_map_val (f := nodeCount)]

theorem nodeCount_eq_length_places (t : Trie) : t.nodeCount = t.places.length := by
  induction t using branches_induction with
  | step t ih =>
      have hbelow : t.branches.map (fun branch => branch.2.nodeCount) =
          t.branches.map fun branch => (branch.2.places.map (branch.1 :: ·)).length := by
        apply List.map_congr_left
        intro branch hbranch
        rw [ih branch hbranch, List.length_map]
      rw [nodeCount_eq, places_eq, List.length_cons, List.length_flatMap, ← hbelow,
        ← map_snd_branches, List.map_map, Nat.add_comm]
      rfl

theorem foldr_max_le_iff {ns : List Nat} {n : Nat} : ns.foldr max 0 ≤ n ↔ ∀ m ∈ ns, m ≤ n := by
  induction ns with
  | nil => simp
  | cons m ns ih => rw [List.foldr_cons, Nat.max_le, ih, List.forall_mem_cons]

/-- The way down from a node is one step longer than that from the node below. -/
theorem depth_le_iff_branches {t : Trie} {n : Nat} :
    t.depth ≤ n ↔ ∀ branch ∈ t.branches, branch.2.depth + 1 ≤ n := by
  have hdepth : t.depth = (t.subtries.map fun child => child.depth + 1).foldr max 0 := by
    rw [depth, List.attach_map_val (f := fun child : Trie => child.depth + 1)]
  rw [hdepth, foldr_max_le_iff, ← map_snd_branches, List.map_map, List.forall_mem_map]
  rfl

/-- The depth is the length of the longest way down. -/
theorem depth_le_iff {t : Trie} {n : Nat} : t.depth ≤ n ↔ ∀ steps ∈ t.places, steps.length ≤ n := by
  induction t using branches_induction generalizing n with
  | step t ih =>
      rw [depth_le_iff_branches]
      constructor
      · intro h steps hsteps
        cases steps with
        | nil => exact Nat.zero_le n
        | cons s later =>
            obtain ⟨child, hbranch, hlater⟩ := mem_places_cons_iff.1 hsteps
            have hchild := h _ hbranch
            have hlength := (ih _ hbranch).1 (Nat.le_refl _) later hlater
            rw [List.length_cons]
            omega
      · intro h branch hbranch
        have hstep (later : List Step) (hlater : later ∈ branch.2.places) : later.length + 1 ≤ n :=
          h (branch.1 :: later) (mem_places_cons_iff.2 ⟨branch.2, hbranch, hlater⟩)
        have hpos : 0 < n := hstep [] (nil_mem_places branch.2)
        have hdepth : branch.2.depth ≤ n - 1 :=
          (ih branch hbranch).2 fun later hlater => Nat.le_sub_one_of_lt (hstep later hlater)
        omega

theorem depth_le_depth {t t' : Trie} (h : t.places ⊆ t'.places) : t.depth ≤ t'.depth :=
  depth_le_iff.2 fun steps hsteps => depth_le_iff.1 (Nat.le_refl t'.depth) steps (h hsteps)

/-! ### In orderly tries each node is listed once -/

theorem Orderly.mem_branches_iff {t : Trie} (h : t.Orderly) {s : Step} {child : Trie} :
    (s, child) ∈ t.branches ↔ t.below? s = some child := by
  obtain ⟨hchildren, -⟩ := h
  cases s with
  | wild => simp [branches, below?]
  | literal text => simp [branches, below?, ← hchildren.mem_toList_iff]

theorem Orderly.nodup_steps {t : Trie} (h : t.Orderly) : (t.branches.map (·.1)).Nodup := by
  obtain ⟨hchildren, -⟩ := h
  have hliterals : (t.children.keys.map Step.literal).Nodup :=
    hchildren.nodup_keys.map fun _ _ => Step.literal.inj
  rw [branches, List.map_append, List.map_map, List.map_map, List.nodup_append]
  refine ⟨?_, ?_, ?_⟩
  · rw [SmallMap.keys, List.map_map] at hliterals
    exact hliterals
  · cases t.wild <;> simp
  · -- No literal is the wildcard.
    intro first hfirst second hsecond
    obtain ⟨_, -, rfl⟩ := List.mem_map.1 hfirst
    obtain ⟨_, -, rfl⟩ := List.mem_map.1 hsecond
    exact Step.noConfusion

theorem Orderly.of_mem_branches {t : Trie} (h : t.Orderly) {branch : Step × Trie}
    (hbranch : branch ∈ t.branches) : branch.2.Orderly := by
  have hbelow := h.mem_branches_iff.1 hbranch
  obtain ⟨-, hall⟩ := h
  exact hall _ _ hbelow

theorem Orderly.mem_places_iff {t : Trie} (h : t.Orderly) {steps : List Step} :
    steps ∈ t.places ↔ t.HasNode steps := by
  induction steps generalizing t with
  | nil => exact iff_of_true (nil_mem_places t) trivial
  | cons s later ih =>
      rw [mem_places_cons_iff, HasNode]
      constructor
      · rintro ⟨child, hbranch, hlater⟩
        exact ⟨child, h.mem_branches_iff.1 hbranch, (ih (h.of_mem_branches hbranch)).1 hlater⟩
      · rintro ⟨child, hchild, hlater⟩
        have hbranch := h.mem_branches_iff.2 hchild
        exact ⟨child, hbranch, (ih (h.of_mem_branches hbranch)).2 hlater⟩

theorem Orderly.nodup_places {t : Trie} (h : t.Orderly) : t.places.Nodup := by
  induction t using branches_induction with
  | step t ih =>
      rw [places_eq, List.nodup_cons, List.nodup_flatMap]
      refine ⟨by simp, fun branch hbranch => ?_, ?_⟩
      · exact (ih branch hbranch (h.of_mem_branches hbranch)).map fun _ _ => List.tail_eq_of_cons_eq
      · -- Places on different branches differ in the first step.
        refine (List.pairwise_map.1 h.nodup_steps).imp fun hne => ?_
        simp only [Function.onFun, List.disjoint_left, List.mem_map]
        rintro _ ⟨_, -, rfl⟩ ⟨_, -, heq⟩
        exact hne (List.cons.inj heq).1.symm

variable {t t' : Trie}

theorem Orderly.perm_places (h : t.Orderly) (h' : t'.Orderly)
    (hsame : ∀ steps, t.HasNode steps ↔ t'.HasNode steps) : t.places.Perm t'.places := by
  rw [List.perm_ext_iff_of_nodup h.nodup_places h'.nodup_places]
  intro steps
  rw [h.mem_places_iff, h'.mem_places_iff, hsame]

/-- Tries with the same nodes have the same measures. -/
theorem Orderly.measures_eq (h : t.Orderly) (h' : t'.Orderly)
    (hsame : ∀ steps, t.HasNode steps ↔ t'.HasNode steps) :
    t.nodeCount = t'.nodeCount ∧ t.depth = t'.depth := by
  have hperm := h.perm_places h' hsame
  constructor
  · rw [nodeCount_eq_length_places, nodeCount_eq_length_places, hperm.length_eq]
  · exact Nat.le_antisymm (depth_le_depth hperm.subset) (depth_le_depth hperm.symm.subset)

end Trie

end PathRouter

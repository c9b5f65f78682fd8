import PathRouter.Proofs.Router.Dimensions
import PathRouter.Proofs.Router.Outcome
import PathRouter.Proofs.Text.Numeral
import PathRouter.Sample.Siblings

/-!
Tables with many literals below one node, however many these are. Two numbers have two numerals, so
neither two names nor two patterns of such a table are the same, and each pattern has one path. What
a path leads to and how large the trie is follows from this for any number of routes, whether the
literals below the node are kept in a list or in a tree.
-/

namespace PathRouter.Sample.Siblings

theorem append_toString_injective (stem : String) :
    Function.Injective fun i : Nat => stem ++ toString i := fun _ _ h =>
  Nat.repr_injective ((String.append_right_inj stem).1 h)

/-! ### One sibling -/

/-- The name of the route with a number. -/
def name (i : Nat) : String := "item_" ++ toString i

/-- The literal that sets the route apart from the others. -/
def leaf (i : Nat) : String := "item" ++ toString i

/-- The pattern of the route as it is written. -/
def text (i : Nat) : String := "/items/item" ++ toString i

def pattern (i : Nat) : Pattern := ⟨[.literal "items", .literal (leaf i)], none⟩

def route (i : Nat) : Route Nat := ⟨name i, (pattern i).withName (name i), i⟩

/-- The path ends in the numeral of the number. -/
def EndsIn (i : Nat) (path : String) : Prop :=
  ∃ digits, Text.IsNumeral digits i ∧ path.toList = "/items/item".toList ++ digits

theorem text_eq (i : Nat) : text i = "/items/" ++ leaf i := by
  rw [leaf, ← String.append_assoc]
  rfl

theorem render_pattern (i : Nat) : (pattern i).render = text i := by
  rw [text_eq]
  rfl

theorem not_mem_leaf {c : Char} (hstem : c ∉ "item".toList) (hdigit : c.isDigit = false) (i : Nat) :
    c ∉ (leaf i).toList := by
  rw [leaf, String.toList_append, List.mem_append, not_or]
  exact ⟨hstem, Text.not_mem_toString hdigit i⟩

theorem isWritable_leaf (i : Nat) : (Segment.literal (leaf i)).IsWritable := by
  have hopen := not_mem_leaf (c := '{') (by decide) rfl i
  have hclose := not_mem_leaf (c := '}') (by decide) rfl i
  refine .literal (fun hnil => ?_) (not_mem_leaf (by decide) rfl i) ?_
  · have hlist := congrArg String.toList hnil
    rw [leaf, String.toList_append] at hlist
    contradiction
  · rw [Segment.any_isBrace_eq_false hopen hclose]
    exact Bool.false_ne_true

theorem wellFormed_pattern (i : Nat) : Pattern.WellFormed (pattern i).segments where
  nonempty := List.cons_ne_nil _ _
  writable := by
    have hfirst : (Segment.literal "items").IsWritable :=
      .literal (by decide) (by decide) (by decide)
    simpa [pattern] using ⟨hfirst, isWritable_leaf i⟩
  distinctNames := List.nodup_nil
  finalLast := by simp [pattern, Segment.IsFinal]

theorem parse_text (i : Nat) : Pattern.parse (text i) = .ok (pattern i) := by
  have hsegments : Pattern.readSegments (text i) = .ok (pattern i).segments :=
    Pattern.readSegments_eq_ok_iff.2 ⟨wellFormed_pattern i, .inl (render_pattern i).symm⟩
  exact Pattern.parse_eq_ok_iff.2 ⟨hsegments, rfl⟩

/-- A pattern without wildcards has one path, the text of the pattern. -/
theorem matchesWith_iff {i : Nat} {values : List String} {path : String} :
    (pattern i).MatchesWith values path ↔ values = [] ∧ path = text i := by
  rw [Pattern.MatchesWith, pattern, spells_literal_iff, text_eq, ← String.toList_inj]
  simp [spells_literal_iff, spells_nil_iff, and_comm]

theorem mem_paths_iff {i : Nat} {path : String} : path ∈ (pattern i).paths ↔ path = text i := by
  simp [Pattern.Matches, matchesWith_iff]

theorem eq_text_iff {i : Nat} {path : String} : path = text i ↔ EndsIn i path := by
  rw [← String.toList_inj, text, String.toList_append, EndsIn]
  constructor
  · exact fun h => ⟨_, Text.isNumeral_toString i, h⟩
  · rintro ⟨digits, hdigits, hpath⟩
    rw [hpath, Text.isNumeral_iff.1 hdigits, ← Text.isNumeral_iff.1 (Text.isNumeral_toString i)]

/-! ### The table -/

theorem numbered_routes (n : Nat) :
    numbered (routes n) = (List.range n).map fun i => (name i, text i, i) := by
  refine List.ext_getElem? fun i => ?_
  simp only [numbered, routes, List.getElem?_mapIdx, List.getElem?_map]
  cases h : (List.range n)[i]? with
  | none => rfl
  | some j =>
      obtain ⟨hlt, hj⟩ := List.getElem?_eq_some_iff.1 h
      rw [List.getElem_range] at hj
      subst hj
      rfl

theorem acceptable_routes (n : Nat) : Registry.Acceptable (numbered (routes n)) := by
  rw [numbered_routes]
  constructor
  case names =>
    rw [List.map_map]
    exact List.nodup_range.map (append_toString_injective "item_")
  case parses =>
    rw [List.forall_mem_map]
    exact fun i _ => ⟨pattern i, parse_text i⟩
  case apart =>
    rw [List.pairwise_map]
    refine List.pairwise_lt_range.imp fun {i j} hlt p q hp hq => .inl ?_
    obtain rfl := Except.ok.inj ((parse_text i).symm.trans hp)
    obtain rfl := Except.ok.inj ((parse_text j).symm.trans hq)
    refine Set.disjoint_left.2 fun path hi hj => ?_
    have htext := (mem_paths_iff.1 hi).symm.trans (mem_paths_iff.1 hj)
    exact hlt.ne (append_toString_injective "/items/item" htext)

/-- The registry that the table makes, with what is known of any registry. -/
theorem exists_registry (n : Nat) :
    ∃ reg : Registry Nat, router n = .ok reg.router ∧ reg.Sound ∧ reg.Grown ∧
      reg.routes.toList = (List.range n).map route := by
  have hacceptable := acceptable_routes n
  obtain ⟨r, hr⟩ := (Router.exists_ofList_iff _).2 hacceptable
  obtain ⟨-, rfl⟩ := Registry.finish_eq_ok_iff.1 hr
  refine ⟨_, hr, Registry.sound_empty.addAll _,
    Registry.sound_empty.grown_addAll Registry.grown_empty _, ?_⟩
  have hregisters := Registry.registers_addAll hacceptable
  have hroutes : List.Forall₂ Registry.Registers (numbered (routes n))
      ((List.range n).map route) := by
    rw [numbered_routes, List.forall₂_map_left_iff, List.forall₂_map_right_iff, List.forall₂_same]
    exact fun i _ => ⟨pattern i, parse_text i, rfl⟩
  have hunique : Relator.RightUnique (@Registry.Registers Nat) :=
    fun _ _ _ => Registry.Registers.unique
  exact hunique.forall₂ hregisters hroutes

section Registry

variable {n : Nat} {reg : Registry Nat} (hroutes : reg.routes.toList = (List.range n).map route)

include hroutes

theorem mem_routes_iff {r : Route Nat} : r ∈ reg.routes ↔ ∃ i < n, route i = r := by
  rw [← Array.mem_toList_iff, hroutes, List.mem_map]
  simp only [List.mem_range]

/-- A path leads to the sibling whose text it is, with nothing captured. -/
theorem resolve_eq_some_iff (h : reg.Sound) {path : String} {m : Match Nat} :
    reg.router.resolve path = some m ↔ ∃ i < n, path = text i ∧ m = ⟨route i, ⟨[]⟩⟩ := by
  have hsome {m : Match Nat} (hm : reg.router.resolve path = some m) :
      ∃ i < n, path = text i ∧ m = ⟨route i, ⟨[]⟩⟩ := by
    obtain ⟨id, values, hroute, hvalues, hcaptures⟩ := h.resolve_eq_some hm
    obtain ⟨i, hi, hr⟩ := (mem_routes_iff hroutes).1 (Array.mem_of_getElem? hroute)
    obtain ⟨r, captures⟩ := m
    subst hr
    obtain ⟨rfl, rfl⟩ := matchesWith_iff.1 hvalues
    exact ⟨i, hi, rfl, congrArg _ hcaptures⟩
  refine ⟨hsome, ?_⟩
  rintro ⟨i, hi, rfl, rfl⟩
  cases hm : reg.router.resolve (text i) with
  | none =>
      have hmem := (mem_routes_iff hroutes).2 ⟨i, hi, rfl⟩
      exact absurd (mem_paths_iff.2 rfl) (h.resolve_eq_none_iff.1 hm _ hmem)
  | some m =>
      obtain ⟨j, -, htext, rfl⟩ := hsome hm
      rw [append_toString_injective "/items/item" htext]

/-- All routes start in the same way, and each of them ends in a way of its own. -/
theorem starts_eq (hn : n ≠ 0) : reg.router.starts =
    insert [.literal "items"]
      ((Finset.range n).image fun i => [.literal "items", .literal (leaf i)]) := by
  have hprefix {steps : List Step} {i : Nat} : steps <+: (route i).pattern.steps ↔
      steps = [] ∨ steps = [.literal "items"] ∨
        steps = [.literal "items", .literal (leaf i)] := by
    change steps <+: [.literal "items", .literal (leaf i)] ↔ _
    simp [List.prefix_cons_iff, and_or_left, exists_or]
  ext steps
  rw [Router.mem_starts_iff, Finset.mem_insert, Finset.mem_image]
  constructor
  · rintro ⟨hne, r, hr, hsteps⟩
    obtain ⟨i, hi, rfl⟩ := (mem_routes_iff hroutes).1 hr
    rcases hprefix.1 hsteps with hnil | hfirst | hall
    · exact absurd hnil hne
    · exact .inl hfirst
    · exact .inr ⟨i, Finset.mem_range.2 hi, hall.symm⟩
  · rintro (rfl | ⟨i, hi, rfl⟩)
    · have hzero := (mem_routes_iff hroutes).2 ⟨0, Nat.pos_of_ne_zero hn, rfl⟩
      exact ⟨List.cons_ne_nil _ _, _, hzero, hprefix.2 (.inr (.inl rfl))⟩
    · have hmem := (mem_routes_iff hroutes).2 ⟨i, Finset.mem_range.1 hi, rfl⟩
      exact ⟨List.cons_ne_nil _ _, _, hmem, hprefix.2 (.inr (.inr rfl))⟩

theorem card_starts (hn : n ≠ 0) : reg.router.starts.card = n + 1 := by
  have hinjective : Function.Injective fun i => [Step.literal "items", .literal (leaf i)] := by
    intro i j h
    have hleaf : leaf i = leaf j := by simpa using h
    exact append_toString_injective "item" hleaf
  have hnew : [Step.literal "items"] ∉
      (Finset.range n).image fun i => [Step.literal "items", .literal (leaf i)] := by
    simp
  rw [starts_eq hroutes hn, Finset.card_insert_of_notMem hnew,
    Finset.card_image_of_injective _ hinjective, Finset.card_range]

theorem depth_eq (h : reg.Sound) (hgrown : reg.Grown) (hn : n ≠ 0) : reg.root.depth = 2 := by
  rw [h.depth_eq hgrown, hroutes, List.map_map]
  refine eq_of_forall_ge_iff fun d => ?_
  rw [Trie.foldr_max_le_iff, List.forall_mem_map]
  constructor
  · exact fun hall => hall 0 (List.mem_range.2 (Nat.pos_of_ne_zero hn))
  · exact fun hd _ _ => hd

theorem dimensions_eq (h : reg.Sound) (hgrown : reg.Grown) :
    reg.router.dimensions = if n = 0 then ⟨0, 1, 0⟩ else ⟨n, n + 2, 2⟩ := by
  have hsize : reg.routes.size = n := by
    rw [← Array.length_toList, hroutes, List.length_map, List.length_range]
  change Router.Dimensions.mk reg.routes.size reg.root.nodeCount reg.root.depth = _
  rw [hsize, h.nodeCount_eq hgrown]
  split
  case isTrue hn =>
    subst hn
    have hnone : reg.router.starts = ∅ := by
      rw [Finset.eq_empty_iff_forall_notMem]
      intro steps hsteps
      obtain ⟨-, r, hr, -⟩ := Router.mem_starts_iff.1 hsteps
      obtain ⟨i, hi, -⟩ := (mem_routes_iff hroutes).1 hr
      exact absurd hi (Nat.not_lt_zero i)
    rw [hnone, h.depth_eq hgrown, hroutes]
    rfl
  case isFalse hn =>
    rw [card_starts hroutes hn, depth_eq hroutes h hgrown hn, Nat.add_comm 1]

end Registry

/-- A table of any size makes a router. The path of each number leads to the route of that number,
no other path leads anywhere, and all siblings are below one node. -/
theorem exists_router_resolve (n : Nat) :
    ∃ r : Router Nat, router n = .ok r ∧ r.size = n ∧
      (∀ path i, (∃ m, r.resolve path = some m ∧ m.route.action = i) ↔ i < n ∧ EndsIn i path) ∧
      (∀ path, r.resolve path = none ↔ ∀ i < n, ¬ EndsIn i path) ∧
      r.dimensions = if n = 0 then ⟨0, 1, 0⟩ else ⟨n, n + 2, 2⟩ := by
  obtain ⟨reg, hrouter, hsound, hgrown, hroutes⟩ := exists_registry n
  have hresolve {path : String} {m : Match Nat} :
      reg.router.resolve path = some m ↔ ∃ i < n, path = text i ∧ m = ⟨route i, ⟨[]⟩⟩ :=
    resolve_eq_some_iff hroutes hsound
  refine ⟨_, hrouter, ?_, fun path i => ?_, fun path => ?_, dimensions_eq hroutes hsound hgrown⟩
  · rw [Router.size, Registry.router, ← Array.length_toList, hroutes, List.length_map,
      List.length_range]
  · constructor
    · rintro ⟨m, hm, rfl⟩
      obtain ⟨i, hi, htext, rfl⟩ := hresolve.1 hm
      exact ⟨hi, eq_text_iff.1 htext⟩
    · rintro ⟨hi, hpath⟩
      exact ⟨_, hresolve.2 ⟨i, hi, eq_text_iff.2 hpath, rfl⟩, rfl⟩
  · rw [Option.eq_none_iff_forall_ne_some]
    constructor
    · intro hnone i hi hpath
      exact hnone _ (hresolve.2 ⟨i, hi, eq_text_iff.2 hpath, rfl⟩)
    · intro hnone m hm
      obtain ⟨i, hi, htext, -⟩ := hresolve.1 hm
      exact hnone i hi (eq_text_iff.1 htext)

end PathRouter.Sample.Siblings

import Mathlib
import PathRouter.Proofs.Settings.Reader

/-!
Variables by their names. A name leads to a field exactly if it is one of the names that the field
has, in any case of its letters, and it leads nowhere exactly if it starts in another way than the
names of the program. Variables of which no two are for the same field give each of these fields its
value, and leave all else as it was.
-/

namespace PathRouter

namespace Layers

/-! ### Points from underscores -/

/-- The word has neither points nor underscores. -/
def IsWhole (word : List Char) : Prop := '.' ∉ word ∧ '_' ∉ word

instance (word : List Char) : Decidable (IsWhole word) := inferInstanceAs (Decidable (_ ∧ _))

theorem dotted_eq_nil_iff {cs : List Char} : dotted cs = [] ↔ cs = [] := by
  rw [dotted.eq_def]
  split <;> simp

/-- A point comes from a point or from two underscores. -/
theorem dotted_eq_point_iff {cs later : List Char} :
    dotted cs = '.' :: later ↔
      ∃ rest, (cs = '_' :: '_' :: rest ∨ cs = '.' :: rest) ∧ dotted rest = later := by
  rw [dotted.eq_def]
  split
  · simp
  · next c rest hpair =>
      rw [List.cons.injEq]
      constructor
      · rintro ⟨rfl, hrest⟩
        exact ⟨rest, .inr rfl, hrest⟩
      · rintro ⟨_, hpoint | hpoint, hrest⟩
        · obtain ⟨rfl, rfl⟩ := List.cons.inj hpoint
          exact (hpair _ rfl rfl).elim
        · obtain ⟨rfl, rfl⟩ := List.cons.inj hpoint
          exact ⟨rfl, hrest⟩
  · simp

/-- Any other character but an underscore comes from itself. -/
theorem dotted_eq_cons_iff {c : Char} (hpoint : c ≠ '.') (hscore : c ≠ '_')
    {cs later : List Char} :
    dotted cs = c :: later ↔ ∃ rest, cs = c :: rest ∧ dotted rest = later := by
  rw [dotted.eq_def]
  split
  · simp [hpoint.symm, hscore.symm]
  · simp
  · simp

theorem dotted_eq_append_iff {word : List Char} (h : IsWhole word) {cs later : List Char} :
    dotted cs = word ++ later ↔ ∃ rest, cs = word ++ rest ∧ dotted rest = later := by
  induction word generalizing cs with
  | nil => simp
  | cons c word ih =>
      obtain ⟨hpoint, hscore⟩ := h
      rw [List.mem_cons, not_or] at hpoint hscore
      rw [List.cons_append, dotted_eq_cons_iff (Ne.symm hpoint.1) (Ne.symm hscore.1)]
      simp only [ih ⟨hpoint.2, hscore.2⟩, List.cons_append]
      constructor
      · rintro ⟨_, rfl, rest, rfl, hrest⟩
        exact ⟨rest, rfl, hrest⟩
      · rintro ⟨rest, rfl, hrest⟩
        exact ⟨_, rfl, rest, rfl, hrest⟩

theorem dotted_eq_iff {word : List Char} (h : IsWhole word) {cs : List Char} :
    dotted cs = word ↔ cs = word := by
  have happend : dotted cs = word ++ [] ↔ ∃ rest, cs = word ++ rest ∧ dotted rest = [] :=
    dotted_eq_append_iff h
  simpa [dotted_eq_nil_iff] using happend

/-- The point between two words is written as a point or as two underscores. -/
theorem dotted_eq_pair_iff {first second : List Char} (hfirst : IsWhole first)
    (hsecond : IsWhole second) {cs : List Char} :
    dotted cs = first ++ '.' :: second ↔
      cs = first ++ '_' :: '_' :: second ∨ cs = first ++ '.' :: second := by
  simp only [dotted_eq_append_iff hfirst, dotted_eq_point_iff, dotted_eq_iff hsecond]
  constructor
  · rintro ⟨_, rfl, _, rfl | rfl, rfl⟩
    · exact .inl rfl
    · exact .inr rfl
  · rintro (rfl | rfl)
    · exact ⟨_, rfl, _, .inl rfl, rfl⟩
    · exact ⟨_, rfl, _, .inr rfl, rfl⟩

/-! ### Keys of ways -/

/-- Steps end with the text, or the first of them is a name behind a point, or an index. -/
theorem readSteps_cases {bound : Nat} {cs : List Char} {steps : List Step}
    (h : readSteps bound cs = some steps) :
    (cs = [] ∧ steps = []) ∨
      (∃ less name rest more, cs = '.' :: (name ++ rest) ∧
        steps = .key (String.ofList name) :: more ∧ readSteps less rest = some more) ∨
      ∃ index more, steps = .index index :: more := by
  unfold readSteps at h
  split at h
  · exact .inl ⟨rfl, (Option.some.inj h).symm⟩
  · contradiction
  · next less rest =>
      split at h
      · contradiction
      · obtain ⟨more, hmore, rfl⟩ := Option.map_eq_some_iff.1 h
        refine .inr (.inl ⟨less, _, _, more, ?_, rfl, hmore⟩)
        rw [List.takeWhile_append_dropWhile]
  · split at h
    · obtain ⟨more, -, rfl⟩ := Option.map_eq_some_iff.1 h
      exact .inr (.inr ⟨_, more, rfl⟩)
    · contradiction
  · contradiction

/-- Steps into tables are read from names with a point before each. -/
theorem eq_flatMap_of_readSteps {keys : List String} {bound : Nat} {cs : List Char}
    (h : readSteps bound cs = some (keys.map .key)) :
    cs = keys.flatMap fun key => '.' :: key.toList := by
  induction keys generalizing bound cs with
  | nil =>
      obtain ⟨hcs, -⟩ | ⟨_, _, _, _, -, hsteps, -⟩ | ⟨_, _, hsteps⟩ := readSteps_cases h
      · exact hcs
      · contradiction
      · contradiction
  | cons key keys ih =>
      obtain ⟨-, hsteps⟩ | ⟨_, name, rest, _, hcs, hsteps, hrest⟩ | ⟨_, _, hsteps⟩ :=
        readSteps_cases h
      · contradiction
      · obtain ⟨hkey, rfl⟩ := List.cons.inj hsteps
        rw [hcs, ih hrest, List.flatMap_cons, Step.key.inj hkey, String.toList_ofList]
        rfl
      · cases hsteps

/-- The key of a way into tables has the names of the steps with points between them. -/
theorem toList_eq_of_pathOf {key first : String} {later : List String}
    (h : pathOf key = (first :: later).map .key) :
    key.toList = first.toList ++ later.flatMap fun key => '.' :: key.toList := by
  simp only [pathOf] at h
  split at h
  · next c name steps hname hsteps =>
      obtain ⟨hfirst, rfl⟩ := List.cons.inj h
      have happend := key.toList.takeWhile_append_dropWhile (p := isPathChar)
      rw [← happend, hname, eq_flatMap_of_readSteps hsteps, ← Step.key.inj hfirst,
        String.toList_ofList]
  · obtain ⟨hfirst, hlater⟩ := List.cons.inj h
    obtain rfl := List.map_eq_nil_iff.1 hlater.symm
    rw [Step.key.inj hfirst, List.flatMap_nil, List.append_nil]

/-! ### Variables of the program -/

/-- The variable is none of the program. -/
def IsForeign (name : String) : Prop := ¬ "waymark_".toList <+: (Text.lowercase name).toList

theorem keyOfVariable?_eq_none_iff {name : String} :
    keyOfVariable? name = none ↔ IsForeign name := by
  simp only [keyOfVariable?, ite_eq_right_iff, reduceCtorEq, List.isPrefixOf_iff_prefix]
  rfl

theorem keyOfVariable?_eq_some_iff {name key : String} :
    keyOfVariable? name = some key ↔
      ∃ rest, (Text.lowercase name).toList = "waymark_".toList ++ rest ∧
        dotted rest = key.toList := by
  have hdropped (rest : List Char) :
      (variablePrefix.toList ++ rest).drop variablePrefix.toList.length = rest :=
    List.drop_left
  simp only [keyOfVariable?]
  constructor
  · intro h
    split at h
    · next hprefix =>
        obtain ⟨rest, hrest⟩ := List.isPrefixOf_iff_prefix.1 hprefix
        rw [← hrest, hdropped] at h
        refine ⟨rest, hrest.symm, ?_⟩
        rw [← Option.some.inj h, String.toList_ofList]
    · contradiction
  · rintro ⟨rest, hname, hkey⟩
    have hname : (Text.lowercase name).toList = variablePrefix.toList ++ rest := hname
    rw [hname, hdropped, hkey, String.ofList_toList]
    exact if_pos (List.isPrefixOf_iff_prefix.2 (List.prefix_append _ _))

/-- A way of one step that is a word has one name, up to the case of its letters. -/
theorem lowercase_eq_of_word {name word : String} (hword : IsWhole word.toList)
    (h : (keyOfVariable? name).map pathOf = some [.key word]) :
    Text.lowercase name = "waymark_" ++ word := by
  obtain ⟨key, hkey, hpath⟩ := Option.map_eq_some_iff.1 h
  obtain ⟨rest, hname, hrest⟩ := keyOfVariable?_eq_some_iff.1 hkey
  have htext : key.toList = word.toList ++ [] := @toList_eq_of_pathOf key word [] hpath
  rw [List.append_nil] at htext
  obtain rfl := (dotted_eq_iff hword).1 (hrest.trans htext)
  rw [← String.toList_inj, hname, String.toList_append]

/-- A way of two words has two names, one for each way to write the point. -/
theorem lowercase_eq_of_words {name first second : String} (hfirst : IsWhole first.toList)
    (hsecond : IsWhole second.toList)
    (h : (keyOfVariable? name).map pathOf = some [.key first, .key second]) :
    Text.lowercase name = "waymark_" ++ (first ++ "__" ++ second) ∨
      Text.lowercase name = "waymark_" ++ (first ++ "." ++ second) := by
  obtain ⟨key, hkey, hpath⟩ := Option.map_eq_some_iff.1 h
  obtain ⟨rest, hname, hrest⟩ := keyOfVariable?_eq_some_iff.1 hkey
  have htext : key.toList = first.toList ++ '.' :: (second.toList ++ []) :=
    @toList_eq_of_pathOf key first [second] hpath
  rw [List.append_nil] at htext
  refine ((dotted_eq_pair_iff hfirst hsecond).1 (hrest.trans htext)).imp ?_ ?_
  · rintro rfl
    simp [← String.toList_inj, hname]
  · rintro rfl
    simp [← String.toList_inj, hname]

end Layers

namespace Settings

open Layers

/-! ### Variables of the fields -/

namespace Field

/-- The names of the variables for the field, in lower case. -/
def variableNames : Field → List String
  | .host => ["waymark_host"]
  | .port => ["waymark_port"]
  | .metricsEnabled => ["waymark_metrics__enabled", "waymark_metrics.enabled"]
  | .metricsPort => ["waymark_metrics__port", "waymark_metrics.port"]

/-- The variable is one for the field. The letters of its name may be in any case. -/
def IsSetBy (f : Field) (name : String) : Prop := Text.lowercase name ∈ f.variableNames

instance (f : Field) (name : String) : Decidable (f.IsSetBy name) :=
  inferInstanceAs (Decidable (_ ∈ _))

theorem eq_of_isSetBy {f g : Field} {name : String} (hf : f.IsSetBy name) (hg : g.IsSetBy name) :
    f = g := by
  have hapart : ∀ text ∈ f.variableNames, text ∈ g.variableNames → f = g := by
    cases f <;> cases g <;> decide
  exact hapart _ hf hg

/-- The names of a field are all the names that lead to it. -/
theorem isSetBy_iff {f : Field} {name : String} :
    f.IsSetBy name ↔ (keyOfVariable? name).map pathOf = some (f.keys.map .key) := by
  constructor
  · intro h
    rw [IsSetBy] at h
    rw [keyOfVariable?]
    cases f with
    | host | port =>
        rw [List.mem_singleton.1 h]
        cbv
    | metricsEnabled | metricsPort =>
        obtain h | h := List.mem_pair.1 h
        all_goals
          rw [h]
          cbv
  · intro h
    cases f with
    | host | port => exact List.mem_singleton.2 (lowercase_eq_of_word (by decide) h)
    | metricsEnabled | metricsPort =>
        exact List.mem_pair.2 (lowercase_eq_of_words (by decide) (by decide) h)

theorem lower_keys (f : Field) : Lower f.keys := by
  cases f <;> cbv

theorem parted_of_ne {f g : Field} (h : f ≠ g) : Parted f.keys g.keys := by
  cases f <;> cases g <;> first | contradiction | decide

theorem parted_routes (f : Field) : Parted ["routes"] f.keys := by
  cases f <;> decide

end Field

/-! ### Laying variables over a value -/

/-- What the variables set the field to. -/
def setBy? (vars : List (String × String)) (f : Field) : Option Json :=
  (vars.find? (f.IsSetBy ·.1)).map (valueOfVariable ·.2)

/-- Each variable is either none of the program or one for a field, and no two are for the same. -/
structure SetsFields (vars : List (String × String)) : Prop where
  known : ∀ var ∈ vars, IsForeign var.1 ∨ ∃ f : Field, f.IsSetBy var.1
  once : vars.Pairwise fun var later => ∀ f : Field, f.IsSetBy var.1 → ¬ f.IsSetBy later.1

theorem overlay_valueOfVariable (below : Json) (text : String) :
    overlay below (valueOfVariable text) = valueOfVariable text := by
  refine overlay_of_not_obj (fun entries => ?_) below
  unfold valueOfVariable
  cases Decimal.parse? text <;> grind

section LaidOfVariables

variable {var : String × String} {vars : List (String × String)}

theorem laid_ofVariables_cons_of_isSetBy {f : Field} (h : f.IsSetBy var.1) (below : Json) :
    laid (ofVariables (var :: vars)) below =
      laid (ofVariables vars) (setAt (valueOfVariable var.2) (f.keys.map .key) below) := by
  obtain ⟨key, hkey, hpath⟩ := Option.map_eq_some_iff.1 (Field.isSetBy_iff.1 h)
  simp [laid, ofVariables, entriesOf, hkey, hpath]

theorem laid_ofVariables_cons_of_isForeign (h : IsForeign var.1) (below : Json) :
    laid (ofVariables (var :: vars)) below = laid (ofVariables vars) below := by
  simp [laid, ofVariables, entriesOf, keyOfVariable?_eq_none_iff.2 h]

theorem not_isSetBy_of_isForeign {name : String} (h : IsForeign name) (f : Field) :
    ¬ f.IsSetBy name := by
  intro hf
  have hpath := Field.isSetBy_iff.1 hf
  rw [keyOfVariable?_eq_none_iff.2 h] at hpath
  contradiction

theorem map_overlay_setBy? (f : Field) (below : Json) :
    (setBy? vars f).map (overlay below) = setBy? vars f := by
  rw [setBy?, Option.map_map]
  congr 1
  exact funext fun var => overlay_valueOfVariable below var.2

theorem setBy?_eq_none {f : Field} (h : ∀ var ∈ vars, ¬ f.IsSetBy var.1) :
    setBy? vars f = none := by
  simpa [setBy?] using h

theorem setBy?_cons_of_isSetBy {f : Field} (h : f.IsSetBy var.1) :
    setBy? (var :: vars) f = some (valueOfVariable var.2) := by
  simp [setBy?, h]

theorem setBy?_cons_of_not {f : Field} (h : ¬ f.IsSetBy var.1) :
    setBy? (var :: vars) f = setBy? vars f := by
  simp [setBy?, h]

theorem SetsFields.of_cons (h : SetsFields (var :: vars)) : SetsFields vars :=
  ⟨fun later hlater => h.known later (List.mem_cons_of_mem _ hlater), h.once.of_cons⟩

/-- What is not on the way to a field is left alone. -/
theorem follow?_laid_ofVariables_of_parted (hvars : SetsFields vars) {keys : List String}
    (hkeys : ∀ f : Field, Parted keys f.keys) (below : Json) :
    follow? keys (laid (ofVariables vars) below) = follow? keys below := by
  induction vars generalizing below with
  | nil => rfl
  | cons var vars ih =>
      obtain hforeign | ⟨f, hf⟩ := hvars.known var List.mem_cons_self
      · rw [laid_ofVariables_cons_of_isForeign hforeign, ih hvars.of_cons]
      · rw [laid_ofVariables_cons_of_isSetBy hf, ih hvars.of_cons,
          follow?_setAt_of_parted f.lower_keys (hkeys f)]

/-- A field has the value of its variable, and where it has none it is left alone. -/
theorem follow?_laid_ofVariables (hvars : SetsFields vars) (f : Field) (below : Json) :
    follow? f.keys (laid (ofVariables vars) below) =
      (setBy? vars f).or (follow? f.keys below) := by
  induction vars generalizing below with
  | nil => rfl
  | cons var vars ih =>
      have hlater := (List.pairwise_cons.1 hvars.once).1
      obtain hforeign | ⟨g, hg⟩ := hvars.known var List.mem_cons_self
      · rw [laid_ofVariables_cons_of_isForeign hforeign, ih hvars.of_cons,
          setBy?_cons_of_not (not_isSetBy_of_isForeign hforeign f)]
      rw [laid_ofVariables_cons_of_isSetBy hg, ih hvars.of_cons]
      obtain rfl | hne := eq_or_ne f g
      · -- No later variable is for the same field, so the value stays.
        obtain ⟨old, hold⟩ := follow?_setAt_self f.lower_keys (valueOfVariable var.2) below
        rw [setBy?_eq_none fun later hmem => hlater later hmem f hg, setBy?_cons_of_isSetBy hg,
          hold, overlay_valueOfVariable]
        rfl
      · rw [follow?_setAt_of_parted g.lower_keys (Field.parted_of_ne hne),
          setBy?_cons_of_not fun hf => hne (Field.eq_of_isSetBy hf hg)]

end LaidOfVariables

end Settings

end PathRouter

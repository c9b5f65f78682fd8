import PathRouter.Proofs.Server.Dispatch
import PathRouter.Proofs.Router.Captures
import PathRouter.Proofs.Router.Order
import PathRouter.Proofs.Text.Percent

/-!
What a request carries in its path. A path is matched as it is encoded, and each value is decoded
once, after the match; so a value of a wildcard may hold anything, slashes too, as long as it is
encoded where its place asks for it. The values are told under the names of their wildcards. No
value is lost to another there: no two wildcards of a pattern share a name, only the last one may
have none, and what stands for its name is no name.
-/

namespace PathRouter

/-! ### Objects -/

namespace Json

variable {key : String} {v : Json} {fields members : List (String × Json)}

theorem put_of_not_mem (h : key ∉ fields.map (·.1)) : put key v fields = fields ++ [(key, v)] := by
  induction fields with
  | nil => rfl
  | cons field rest ih =>
      obtain ⟨hne, hrest⟩ := not_or.1 (mt List.mem_cons.2 h)
      rw [put, if_neg (Ne.symm hne), ih hrest, List.cons_append]

theorem foldl_put_of_nodup (h : ((fields ++ members).map (·.1)).Nodup) :
    members.foldl (fun fields member => put member.1 member.2 fields) fields =
      fields ++ members := by
  induction members generalizing fields with
  | nil => rw [List.foldl_nil, List.append_nil]
  | cons member members ih =>
      have hnew : member.1 ∉ fields.map (·.1) := by
        rw [List.map_append, List.map_cons] at h
        exact fun hmem => (List.nodup_append.1 h).2.2 _ hmem _ List.mem_cons_self rfl
      rw [List.append_cons] at h ⊢
      rw [List.foldl_cons, put_of_not_mem hnew, ih h]

/-- Members with different keys are all kept. -/
theorem ofMembers_of_nodup (h : (members.map (·.1)).Nodup) : ofMembers members = .obj members := by
  rw [ofMembers, foldl_put_of_nodup (by simpa using h), List.nil_append]

theorem field?_of_mem (hdistinct : (fields.map (·.1)).Nodup) (h : (key, v) ∈ fields) :
    (obj fields).field? key = some v := by
  induction fields with
  | nil => exact absurd h List.not_mem_nil
  | cons field rest ih =>
      obtain ⟨hnew, hdistinct⟩ := List.nodup_cons.1 hdistinct
      rw [field?, List.find?_cons]
      rcases List.mem_cons.1 h with rfl | hrest
      · simp
      · -- The key stands further on, so it is not the first one.
        have hne : field.1 ≠ key := by
          rintro rfl
          exact hnew (List.mem_map.2 ⟨_, hrest, rfl⟩)
        rw [beq_false_of_ne hne]
        exact ih hdistinct hrest

end Json

/-! ### Names and what stands for them -/

theorem Tidy.nodup_boundNames {segments : List Segment} (h : Tidy segments)
    (hnames : (segments.filterMap Segment.boundName?).Nodup) :
    (Pattern.mk segments none).boundNames.Nodup := by
  induction h with
  | nil => exact List.nodup_nil
  | literal ht h ih => exact ih hnames
  | @single name later hn h ih =>
      obtain ⟨hnew, hnames⟩ := List.nodup_cons.1 hnames
      refine List.nodup_cons.2 ⟨fun hmem => hnew ?_, ih hnames⟩
      rw [← Pattern.filterMap_boundNames ⟨later, none⟩]
      exact List.mem_filterMap.2 ⟨_, hmem, rfl⟩
  | multi hn => exact List.nodup_singleton _
  | slash => exact List.nodup_nil

/-- Different wildcards of a pattern are told apart by what stands for their names. -/
theorem Pattern.WellFormed.nodup_labels {p : Pattern} (h : WellFormed p.segments) :
    (p.boundNames.map Captures.label).Nodup := by
  have hlabel {name : String} (hname : some name ∈ p.boundNames) :
      name ≠ Captures.anonymousLabel := by
    rintro rfl
    exact absurd (Pattern.isName_of_mem_boundNames h hname) (by decide)
  refine List.Nodup.map_on ?_ (h.tidy.nodup_boundNames h.distinctNames)
  intro first hfirst second hsecond heq
  cases first with
  | none =>
      cases second with
      | none => rfl
      | some name => exact absurd heq.symm (hlabel hsecond)
  | some name =>
      cases second with
      | none => exact absurd heq (hlabel hfirst)
      | some other => exact congrArg some heq

/-- The members that tell the values of the wildcards. -/
def Pattern.captureFields (p : Pattern) (values : List String) : List (String × Json) :=
  (p.boundNames.map Captures.label).zip (values.map .str)

section Fields

variable {p : Pattern} {values : List String}

theorem Pattern.map_fst_captureFields (hlength : values.length = p.boundNames.length) :
    (p.captureFields values).map (·.1) = p.boundNames.map Captures.label :=
  List.map_fst_zip (by simp [hlength])

theorem Pattern.WellFormed.nodup_captureFields (h : WellFormed p.segments)
    (hlength : values.length = p.boundNames.length) :
    ((p.captureFields values).map (·.1)).Nodup := by
  rw [map_fst_captureFields hlength]
  exact h.nodup_labels

/-- The value of a wildcard is told under its name. -/
theorem Pattern.WellFormed.field?_captureFields (h : WellFormed p.segments)
    (hlength : values.length = p.boundNames.length) {i : Nat} {name : Option String}
    {value : String} (hname : p.boundNames[i]? = some name) (hvalue : values[i]? = some value) :
    (Json.obj (p.captureFields values)).field? (Captures.label name) = some (.str value) := by
  refine Json.field?_of_mem (h.nodup_captureFields hlength) (List.mem_iff_getElem?.2 ⟨i, ?_⟩)
  rw [captureFields, List.getElem?_zip_eq_some, List.getElem?_map, List.getElem?_map, hname, hvalue]
  exact ⟨rfl, rfl⟩

theorem Outcome.capturesJson_pair (h : Pattern.WellFormed p.segments) {codes : List String}
    (hlength : codes.length = p.boundNames.length) :
    capturesJson (.pair p.boundNames codes) =
      .obj (p.captureFields (codes.map Text.Percent.decode)) := by
  rw [← Json.ofMembers_of_nodup (h.nodup_captureFields (by rw [List.length_map, hlength])),
    Pattern.captureFields, List.map_map, List.zip_map]
  rfl

end Fields

/-! ### Values and their codes -/

/-- A wildcard may take the value, and the code is one of the value that may stand in its place. -/
def Segment.Writes : Segment → String × String → Prop
  | .single _, (value, code) =>
      value ≠ "" ∧ Text.Percent.Encodes (· = '/') value.toList code.toList
  | .multi _, (value, code) => Text.Percent.Encodes (fun _ => False) value.toList code.toList
  | _, _ => False

section Codes

variable {segments : List Segment} {assigned : List (String × String)}

theorem Segment.Writes.decode_eq {s : Segment} {value code : String} (h : s.Writes (value, code)) :
    Text.Percent.decode code = value := by
  cases s with
  | literal | slash => exact h.elim
  | single => exact Text.Percent.decode_encodes h.2
  | multi => exact Text.Percent.decode_encodes h

theorem decode_codes {wildcards : List Segment}
    (h : List.Forall₂ Segment.Writes wildcards assigned) :
    (assigned.map (·.2)).map Text.Percent.decode = assigned.map (·.1) := by
  induction h with
  | nil => rfl
  | cons hwrites _ ih => rw [List.map_cons, List.map_cons, List.map_cons, ih, hwrites.decode_eq]

theorem isPart_of_encodes {value code : String} (hne : value ≠ "")
    (h : Text.Percent.Encodes (· = '/') value.toList code.toList) : IsPart code := by
  refine ⟨fun hcode => ?_, Text.Percent.slash_not_mem_of_encodes h⟩
  rw [hcode] at h
  exact Text.Percent.ne_nil_of_encodes h (mt String.toList_eq_nil_iff.1 hne) rfl

/-- Values that are encoded as their places ask for spell a path, and none of them divides it. -/
theorem spells_codes
    (h : List.Forall₂ Segment.Writes (segments.filter Segment.isWildcard) assigned) :
    Spells segments (assigned.map (·.2))
      (Segment.fill segments (assigned.map (·.2))).toList := by
  induction segments generalizing assigned with
  | nil =>
      cases h
      exact .nil
  | cons s later ih =>
      cases s with
      | literal text =>
          simpa [Segment.fill] using Spells.literal text (ih h)
      | slash =>
          simpa [Segment.fill] using Spells.slash (ih h)
      | single name =>
          obtain _ | ⟨hwrites, hlater⟩ := h
          have hpart := isPart_of_encodes hwrites.1 hwrites.2
          simpa [Segment.fill] using Spells.single name _ hpart (ih hlater)
      | multi name =>
          obtain _ | @⟨_, assignment, _, _, -, hlater⟩ := h
          simpa [Segment.fill] using Spells.multi name assignment.2 (ih hlater)

end Codes

/-- The path that the pattern makes with the codes in place of its wildcards. -/
def Pattern.pathOf (p : Pattern) (assigned : List (String × String)) : String :=
  Segment.fill p.segments (assigned.map (·.2))

namespace Table

variable {entries : List RouteEntry} {table : Router Action} {route : Route Action}
  {assigned : List (String × String)}

/-- If a path is made from values of the wildcards of its route, the captures of the match are the
codes of these values. -/
theorem captures_of_resolve_pathOf (h : ofEntries entries = .ok table)
    (hassigned : List.Forall₂ Segment.Writes
      (route.pattern.segments.filter Segment.isWildcard) assigned) {m : Match Action}
    (hm : table.resolve (route.pattern.pathOf assigned) = some m) (hroute : m.route = route) :
    m.captures = .pair route.pattern.boundNames (assigned.map (·.2)) := by
  obtain ⟨reg, hsound, rfl⟩ := exists_sound_of_ofEntries h
  obtain ⟨id, values, hid, hvalues, hcaptures⟩ := hsound.resolve_eq_some hm
  subst hroute
  rw [hcaptures, hsound.values_unique (Array.mem_of_getElem? hid) hvalues (spells_codes hassigned)]

/-- Values written into a pattern, each in any code that its place allows, make a path of the
pattern; and if the path leads to its route, the values are told as they were, each under the name
of its wildcard, and nothing else is told there. -/
theorem dispatch_captures (h : ofEntries entries = .ok table) (hroute : route ∈ table.routes)
    (hassigned : List.Forall₂ Segment.Writes
      (route.pattern.segments.filter Segment.isWildcard) assigned) :
    route.pattern.MatchesWith (assigned.map (·.2)) (route.pattern.pathOf assigned) ∧
      ∀ m, table.resolve (route.pattern.pathOf assigned) = some m → m.route = route →
        ∀ method totals, route.action.methods = [] ∨ method ∈ route.action.methods →
          ∃ body fields,
            (dispatch table method (route.pattern.pathOf assigned) totals).1 =
              .matched route.name route.action.status body ∧
            body.field? "captures" = some (.obj fields) ∧
            (fields.map (·.1)).Nodup ∧
            (fields.map (·.1)).Perm (route.pattern.boundNames.map Captures.label) ∧
            ∀ (i : Nat) (name : Option String) (value code : String),
              route.pattern.boundNames[i]? = some name → assigned[i]? = some (value, code) →
                (Json.obj fields).field? (Captures.label name) = some (.str value) := by
  refine ⟨spells_codes hassigned, fun m hm hroute_eq method totals hmethod => ?_⟩
  have hcaptures := captures_of_resolve_pathOf h hassigned hm hroute_eq
  subst hroute_eq
  obtain ⟨reg, hsound, rfl⟩ := exists_sound_of_ofEntries h
  have hwell := hsound.wellFormed hroute
  have hlength : assigned.length = m.route.pattern.boundNames.length := by
    rw [Pattern.boundNames, List.length_map, hassigned.length_eq]
  have hvalues_length : (assigned.map (·.1)).length = m.route.pattern.boundNames.length := by
    rw [List.length_map, hlength]
  have hjson : Outcome.capturesJson (.pair m.route.pattern.boundNames (assigned.map (·.2))) = _ :=
    Outcome.capturesJson_pair hwell (by rw [List.length_map, hlength])
  rw [← hcaptures, decode_codes hassigned] at hjson
  refine ⟨_, _, congrArg Prod.fst (dispatch_of_accepts hm (Action.accepts_iff.2 hmethod)),
    congrArg some hjson, hwell.nodup_captureFields hvalues_length, ?_, ?_⟩
  · rw [Pattern.map_fst_captureFields hvalues_length]
  · intro i name value code hname hassignment
    apply hwell.field?_captureFields hvalues_length hname
    rw [List.getElem?_map, hassignment, Option.map_some]

/-- A slash that is encoded stays in the value of a wildcard for one part, and one that is not stays
in the value of a wildcard for all that is left. -/
theorem dispatch_captures_slashes :
    ∃ table, ofEntries
        [⟨"file", "/\x7bowner\x7d/files/\x7b...\x7d", ["get"], 200, none⟩] = .ok table ∧
      ∃ status body fields,
        (dispatch table "GET" "/a%2fb/files/%C3%A9/%25" {}).1 = .matched "file" status body ∧
        body.field? "captures" = some (.obj fields) ∧
        (Json.obj fields).field? "owner" = some (.str "a/b") ∧
        (Json.obj fields).field? "..." = some (.str "é/%") := by
  have hrun : (match ofEntries
        [⟨"file", "/\x7bowner\x7d/files/\x7b...\x7d", ["get"], 200, none⟩] with
      | .ok table => (table.resolve "/a%2fb/files/%C3%A9/%25").map fun m =>
          (m.route.name, m.route.action.methods, m.route.pattern.segments)
      | .error _ => none) =
        some ("file", ["GET"], [.single "owner", .literal "files", .multi none]) := by cbv
  split at hrun
  · rename_i table htable
    obtain ⟨m, hm, hroute⟩ := Option.map_eq_some_iff.1 hrun
    simp only [Prod.mk.injEq] at hroute
    obtain ⟨hname, hmethods, hsegments⟩ := hroute
    have hroute : m.route ∈ table.routes := by
      obtain ⟨reg, hsound, rfl⟩ := exists_sound_of_ofEntries htable
      obtain ⟨id, -, hid, -⟩ := hsound.resolve_eq_some hm
      exact Array.mem_of_getElem? hid
    have howner : Text.Percent.Encodes (· = '/') ['a', '/', 'b'] ['a', '%', '2', 'f', 'b'] :=
      .plain 'a' (by decide) (by decide)
        (.escaped '/' ['%', '2', 'f'] (.cons 0x2F '2' 'f' (by decide) (by decide) .nil)
          (.plain 'b' (by decide) (by decide) .nil))
    have hrest : Text.Percent.Encodes (fun _ => False) ['é', '/', '%']
        ['%', 'C', '3', '%', 'A', '9', '/', '%', '2', '5'] :=
      .escaped 'é' ['%', 'C', '3', '%', 'A', '9']
        (.cons 0xC3 'C' '3' (by decide) (by decide)
          (.cons 0xA9 'A' '9' (by decide) (by decide) .nil))
        (.plain '/' (by decide) not_false
          (.escaped '%' ['%', '2', '5'] (.cons 0x25 '2' '5' (by decide) (by decide) .nil) .nil))
    have hassigned : List.Forall₂ Segment.Writes
        (m.route.pattern.segments.filter Segment.isWildcard)
        [("a/b", "a%2fb"), ("é/%", "%C3%A9/%25")] := by
      rw [hsegments]
      exact .cons ⟨by decide, howner⟩ (.cons hrest .nil)
    have hpath : m.route.pattern.pathOf [("a/b", "a%2fb"), ("é/%", "%C3%A9/%25")] =
        "/a%2fb/files/%C3%A9/%25" := by
      rw [Pattern.pathOf, hsegments]
      decide
    have hnames : m.route.pattern.boundNames = [some "owner", none] := by
      rw [Pattern.boundNames, hsegments]
      rfl
    obtain ⟨-, hanswer⟩ := dispatch_captures htable hroute hassigned
    rw [hpath, hnames] at hanswer
    obtain ⟨body, fields, hmatched, hfields, -, -, hvalues⟩ :=
      hanswer m hm rfl "GET" {} (.inr (by rw [hmethods]; exact List.mem_singleton_self _))
    rw [hname] at hmatched
    exact ⟨table, htable, _, body, fields, hmatched, hfields,
      hvalues 0 (some "owner") "a/b" "a%2fb" rfl rfl, hvalues 1 none "é/%" "%C3%A9/%25" rfl rfl⟩
  · contradiction

end Table

end PathRouter

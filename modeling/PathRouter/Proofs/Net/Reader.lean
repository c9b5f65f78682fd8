import PathRouter.Net.SocketAddress

/-!
How far readers of addresses go. The parts of an address are made of digits and of few other
characters, so their readers stop before the first character that is none of these, and what stands
from there on plays no part in what they read.
-/

namespace PathRouter.Net

/-! ### Readers that stop -/

/-- The reader goes no further than to the character. It leaves an end of the text, and what stands
from the character on does not change what it reads. -/
structure StopsAt {α : Type} (c : Char) (read : List Char → Option (α × List Char)) : Prop where
  suffix {cs rest : List Char} {v : α} (h : read cs = some (v, rest)) : rest <:+ cs
  append (cs more : List Char) :
    read (cs ++ c :: more) = (read cs).map fun (v, rest) => (v, rest ++ c :: more)

section StopsAt

variable {α β : Type} {c d : Char} {read : List Char → Option (α × List Char)}
  {next : α → List Char → Option (β × List Char)}

theorem StopsAt.bind (h : StopsAt c read) (hnext : ∀ v, StopsAt c (next v)) :
    StopsAt c fun cs => (read cs).bind fun p => next p.1 p.2 where
  suffix hread := by
    obtain ⟨⟨v, rest⟩, hv, hnext'⟩ := Option.bind_eq_some_iff.1 hread
    exact ((hnext v).suffix hnext').trans (h.suffix hv)
  append cs more := by
    rw [h.append]
    cases read cs with
    | none => rfl
    | some p => exact (hnext p.1).append p.2 more

theorem stopsAt_pure (v : α) : StopsAt c fun cs => some (v, cs) where
  suffix hread := by
    obtain ⟨rfl, rfl⟩ := Prod.mk.inj (Option.some.inj hread)
    exact List.suffix_rfl
  append _ _ := rfl

theorem stopsAt_none : StopsAt c fun _ => (none : Option (α × List Char)) where
  suffix hread := by contradiction
  append _ _ := rfl

theorem StopsAt.or {other : List Char → Option (α × List Char)} (h : StopsAt c read)
    (hother : StopsAt c other) : StopsAt c fun cs => (read cs).or (other cs) where
  suffix hread := by
    rcases Option.or_eq_some_iff.1 hread with hread | ⟨-, hread⟩
    · exact h.suffix hread
    · exact hother.suffix hread
  append cs more := by
    rw [h.append, hother.append]
    cases read cs <;> rfl

theorem suffix_of_expect {cs rest : List Char} (h : Text.expect d cs = some rest) :
    rest <:+ cs := by
  cases cs with
  | nil => contradiction
  | cons e cs =>
      rw [Text.expect] at h
      split at h
      · obtain rfl := Option.some.inj h
        exact List.suffix_cons e cs
      · contradiction

theorem expect_append (hne : d ≠ c) (cs more : List Char) :
    Text.expect d (cs ++ c :: more) = (Text.expect d cs).map (· ++ c :: more) := by
  cases cs with
  | nil => exact if_neg hne
  | cons e cs =>
      rw [List.cons_append, Text.expect, Text.expect]
      split <;> rfl

/-- A reader may ask for another character first. -/
theorem StopsAt.after (h : StopsAt c read) (hne : d ≠ c) :
    StopsAt c fun cs => (Text.expect d cs).bind read where
  suffix hread := by
    obtain ⟨cs, hcs, hread⟩ := Option.bind_eq_some_iff.1 hread
    exact (h.suffix hread).trans (suffix_of_expect hcs)
  append cs more := by
    rw [expect_append hne]
    cases Text.expect d cs with
    | none => rfl
    | some rest => exact h.append rest more

theorem expect_eq_none {cs : List Char} (h : d ∉ cs) : Text.expect d cs = none := by
  cases cs with
  | nil => rfl
  | cons e cs => exact if_neg (List.ne_of_not_mem_cons h)

/-- What was read, if nothing follows it. -/
def atEnd (p : α × List Char) : Option α := if p.2 = [] then some p.1 else none

/-- What is read up to the character, which has to follow. -/
def closed (c : Char) (read : List Char → Option (α × List Char)) (cs : List Char) :
    Option (α × List Char) :=
  (read cs).bind fun p => (Text.expect c p.2).map (p.1, ·)

theorem StopsAt.closed_eq_none (h : StopsAt c read) {cs : List Char} (hcs : c ∉ cs) :
    closed c read cs = none := by
  rw [closed, Option.bind_eq_none_iff]
  intro ⟨v, rest⟩ hread
  rw [expect_eq_none fun hmem => hcs ((h.suffix hread).subset hmem), Option.map_none]

theorem StopsAt.closed_append_cons (h : StopsAt c read) {cs : List Char} (hcs : c ∉ cs)
    (more : List Char) :
    closed c read (cs ++ c :: more) = ((read cs).bind atEnd).map (·, more) := by
  rw [closed, h.append]
  cases hread : read cs with
  | none => rfl
  | some p =>
      obtain ⟨v, rest⟩ := p
      cases rest with
      | nil => simp [atEnd, Text.expect]
      | cons d rest =>
          have hne : c ≠ d := by
            rintro rfl
            exact hcs ((h.suffix hread).subset List.mem_cons_self)
          simp [atEnd, Text.expect, hne]

/-- A text in which the character does not occur plays no part in what is read up to there. -/
theorem StopsAt.closed_append (h : StopsAt c read) {more : List Char} (hmore : c ∉ more)
    (cs : List Char) :
    closed c read (cs ++ more) =
      (closed c read cs).map fun (v, rest) => (v, rest ++ more) := by
  by_cases hc : c ∈ cs
  · obtain ⟨before, after, rfl, hbefore⟩ := List.eq_append_cons_of_mem hc
    rw [List.append_assoc, List.cons_append, h.closed_append_cons hbefore,
      h.closed_append_cons hbefore, Option.map_map]
    rfl
  · rw [h.closed_eq_none hc, h.closed_eq_none (by simp [hc, hmore]), Option.map_none]

end StopsAt

/-! ### Parts of an address -/

section Parts

variable {c : Char}

theorem stopsAt_spanDigits {base : Nat} (hc : Text.digitValue? base c = none) :
    StopsAt c fun cs => some (Text.spanDigits base cs) where
  suffix {cs rest digits} hread := by
    have hspan := Option.some.inj hread
    clear hread
    induction cs generalizing digits with
    | nil =>
        obtain ⟨-, rfl⟩ := Prod.mk.inj hspan
        exact List.suffix_rfl
    | cons e cs ih =>
        rw [Text.spanDigits] at hspan
        split at hspan
        · obtain ⟨-, rfl⟩ := Prod.mk.inj hspan
          exact (ih rfl).trans (List.suffix_cons e cs)
        · obtain ⟨-, rfl⟩ := Prod.mk.inj hspan
          exact List.suffix_rfl
  append cs more := by
    refine congrArg some ?_
    induction cs with
    | nil => simp only [List.nil_append, Text.spanDigits, hc]
    | cons e cs ih =>
        rw [List.cons_append, Text.spanDigits, Text.spanDigits, ih]
        split <;> rfl

theorem stopsAt_number {form : NumberForm} (hc : Text.digitValue? form.base c = none) :
    StopsAt c form.read := by
  have hnext (digits : List Nat) : StopsAt c fun rest =>
      if form.accepts digits then some (Text.valueOf form.base digits, rest) else none := by
    split
    · exact stopsAt_pure _
    · exact stopsAt_none
  exact (stopsAt_spanDigits hc).bind hnext

theorem stopsAt_IPv4 (hc : Text.digitValue? 10 c = none) (hdot : '.' ≠ c) :
    StopsAt c IPv4.read := by
  have hoctet : StopsAt c NumberForm.octet.read := stopsAt_number hc
  have hlater {β : Type} {next : Nat → List Char → Option (β × List Char)}
      (hnext : ∀ v, StopsAt c (next v)) :
      StopsAt c fun cs => (Text.expect '.' cs).bind fun cs =>
        (NumberForm.octet.read cs).bind fun p => next p.1 p.2 :=
    (hoctet.bind hnext).after hdot
  exact hoctet.bind fun first => hlater fun second => hlater fun third => hlater fun fourth =>
    stopsAt_pure (IPv4.mk first second third fourth)

/-- The groups that are read, as one value with the answer whether an IPv4 address came last. -/
def IPv6.readRun (isFirst : Bool) (room : Nat) (cs : List Char) :
    Option ((List Nat × Bool) × List Char) :=
  let (groups, hasIPv4, rest) := readGroups isFirst room cs
  some ((groups, hasIPv4), rest)

theorem IPv6.readRun_succ (isFirst : Bool) (room : Nat) (cs : List Char) :
    readRun isFirst (room + 1) cs =
      ((if 0 < room then (readSeparator isFirst cs).bind IPv4.read else none).bind
          fun p => some ((p.1.groups, true), p.2)).or
        ((((readSeparator isFirst cs).bind NumberForm.group.read).bind
            fun p => (readRun false room p.2).bind
              fun q => some ((p.1 :: q.1.1, q.1.2), q.2)).or
          (some (([], false), cs))) := by
  rw [readRun, readGroups]
  cases if 0 < room then (readSeparator isFirst cs).bind IPv4.read else none with
  | some p => rfl
  | none =>
      cases (readSeparator isFirst cs).bind NumberForm.group.read with
      | some p => rfl
      | none => rfl

theorem stopsAt_readRun (isFirst : Bool) (room : Nat) :
    StopsAt ']' (IPv6.readRun isFirst room) := by
  have hseparated {α : Type} {read : List Char → Option (α × List Char)} (h : StopsAt ']' read)
      (isFirst : Bool) : StopsAt ']' fun cs => (IPv6.readSeparator isFirst cs).bind read := by
    cases isFirst with
    | true => exact h
    | false => exact h.after (by decide)
  have hembedded (isFirst : Bool) (room : Nat) : StopsAt ']' fun cs =>
      if 0 < room then (IPv6.readSeparator isFirst cs).bind IPv4.read else none := by
    split
    · exact hseparated (stopsAt_IPv4 rfl (by decide)) isFirst
    · exact stopsAt_none
  have hgroup : StopsAt ']' NumberForm.group.read := stopsAt_number rfl
  induction room generalizing isFirst with
  | zero => exact stopsAt_pure _
  | succ room ih =>
      rw [funext (IPv6.readRun_succ isFirst room)]
      have hip := (hembedded isFirst room).bind fun ip => stopsAt_pure (ip.groups, true)
      have hlater := (hseparated hgroup isFirst).bind fun group =>
        (ih false).bind fun run => stopsAt_pure (group :: run.1, run.2)
      exact hip.or (hlater.or (stopsAt_pure ([], false)))

/-- What `read` does after the first run of groups. -/
def IPv6.readAfter (head : List Nat × Bool) (cs : List Char) : Option (IPv6 × List Char) :=
  if head.1.length = 8 then some (⟨head.1⟩, cs)
  else if head.2 then none
  else (Text.expect ':' cs).bind fun cs => (Text.expect ':' cs).bind fun cs =>
    (readRun true (7 - head.1.length) cs).bind fun tail =>
      some (⟨head.1 ++ List.replicate (8 - head.1.length - tail.1.1.length) 0 ++ tail.1.1⟩, tail.2)

theorem IPv6.read_eq (cs : List Char) :
    read cs = (readRun true 8 cs).bind fun head => readAfter head.1 head.2 := rfl

theorem stopsAt_IPv6 : StopsAt ']' IPv6.read := by
  have hafter (head : List Nat × Bool) : StopsAt ']' (IPv6.readAfter head) := by
    unfold IPv6.readAfter
    split
    · exact stopsAt_pure _
    split
    · exact stopsAt_none
    have htail := (stopsAt_readRun true (7 - head.1.length)).bind fun tail =>
      stopsAt_pure (IPv6.mk
        (head.1 ++ List.replicate (8 - head.1.length - tail.1.length) 0 ++ tail.1))
    exact (htail.after (by decide)).after (by decide)
  rw [funext IPv6.read_eq]
  exact (stopsAt_readRun true 8).bind hafter

theorem stopsAt_readScope : StopsAt ']' fun cs => some (SocketAddress.readScope cs) := by
  have hscope : StopsAt ']' NumberForm.scope.read := stopsAt_number rfl
  have heq (cs : List Char) : some (SocketAddress.readScope cs) =
      ((Text.expect '%' cs).bind NumberForm.scope.read).or (some (0, cs)) :=
    Option.or_some.symm
  rw [funext heq]
  exact (hscope.after (by decide)).or (stopsAt_pure 0)

end Parts

end PathRouter.Net

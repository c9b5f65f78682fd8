import PathRouter.Path
import PathRouter.Pattern.Basic
import PathRouter.Pattern.Error
import PathRouter.Text.Alphabetic
import PathRouter.Text.Numeric

/-!
Reading a pattern. The text is cut at its slashes and the pieces are read from left to right, so
the fault that is told is the one that stands first.
-/

namespace PathRouter

/-- Names are identifiers: they start with a letter or an underscore. -/
def isNameStart (c : Char) : Bool := c == '_' || Text.isAlphabetic c

def isNamePart (c : Char) : Bool := c == '_' || Text.isAlphabetic c || Text.isNumeric c

def isName : List Char → Bool
  | [] => false
  | c :: rest => isNameStart c && rest.all isNamePart

/-- The characters that have a meaning of their own in a pattern occur in no name. -/
theorem isNamePart_delimiter {c : Char} (h : c ∈ ['/', '{', '}', '.', '$']) :
    isNamePart c = false := by
  simp only [List.mem_cons, List.not_mem_nil, or_false] at h
  rcases h with rfl | rfl | rfl | rfl | rfl <;> decide

theorem isNamePart_of_isNameStart {c : Char} (h : isNameStart c) : isNamePart c := by
  rw [isNamePart, Bool.or_eq_true]
  exact Or.inl h

namespace Segment

/-- A brace of either kind. -/
def isBrace (c : Char) : Bool := c == '{' || c == '}'

/-- What an opening brace at the front and a closing brace at the end enclose. -/
def unbrace? : List Char → Option (List Char)
  | '{' :: rest => if rest.getLast? = some '}' then some rest.dropLast else none
  | _ => none

/-- What stands before three dots at the end. -/
def beforeDots? (body : List Char) : Option (List Char) :=
  if ['.', '.', '.'].isSuffixOf body then some (body.take (body.length - 3)) else none

def checkName (name : List Char) : Except Pattern.Fault String :=
  if isName name then .ok (String.ofList name) else .error (.invalidName (String.ofList name))

/-- Reads what stands between the braces of a wildcard. -/
def ofBody (body : List Char) : Except Pattern.Fault Segment :=
  if body = ['$'] then .ok .slash
  else match beforeDots? body with
    | some [] => .ok (.multi none)
    | some name => (checkName name).map (.multi ∘ some)
    | none => (checkName body).map .single

/-- Reads one piece that is not empty. -/
def ofPiece (piece : List Char) : Except Pattern.Fault Segment :=
  if piece.any isBrace then
    match unbrace? piece with
    | some body =>
        if body.any isBrace then .error (.malformedWildcard (String.ofList piece))
        else ofBody body
    | none => .error (.malformedWildcard (String.ofList piece))
  else .ok (.literal (String.ofList piece))

end Segment

namespace Pattern

/-- Reads the pieces after a segment that has to be the last one. An empty piece may follow the
marker for a trailing slash, of which it is another spelling. -/
def checkFinal : Segment → List (List Char) → Except Fault Unit
  | .multi _, _ :: _ => .error .multiNotFinal
  | .slash, [[]] => .ok ()
  | .slash, _ :: _ => .error .slashNotFinal
  | _, _ => .ok ()

/-- A wildcard may not bind a name that is taken. -/
def checkFresh (taken : List String) (s : Segment) : Except Fault Unit :=
  match s.boundName? with
  | some name => if name ∈ taken then .error (.duplicateName name) else .ok ()
  | none => .ok ()

/-- Reads pieces given the names that the segments before them bind. -/
def ofPieces (taken : List String) : List (List Char) → Except Fault (List Segment)
  | [] => .ok []
  | [[]] => .ok [.slash]
  | [] :: _ => .error .emptySegment
  | piece :: rest => do
      let s ← Segment.ofPiece piece
      checkFresh taken s
      match s with
      | .literal _ | .single _ =>
          let later ← ofPieces (taken ++ s.boundName?.toList) rest
          pure (s :: later)
      | .multi _ | .slash =>
          checkFinal s rest
          pure [s]

/-- The segments that a text spells, or its first fault. -/
def readSegments (text : String) : Except Fault (List Segment) :=
  match text.toList with
  | [] => .error .empty
  | '/' :: rest => ofPieces [] (Path.pieces rest)
  | _ => .error .noLeadingSlash

def parse (text : String) : Except ParseError Pattern :=
  match readSegments text with
  | .ok segments => .ok ⟨segments, none⟩
  | .error fault => .error ⟨text, fault⟩

end Pattern

end PathRouter

import PathRouter.Text.Digits
import PathRouter.Toml.Scan

/-!
The four kinds of TOML strings, and keys. A string is basic, with escapes, or literal; either kind
stands on one line between single quotation marks or spans lines between triple ones. Readers
start after the opening mark.
-/

namespace PathRouter.Toml

/-- The character of a code point that an escape names. -/
def charOf? (digits : List Char) : Option Char :=
  match Text.spanDigits 16 digits with
  | (values, []) =>
      let n := Text.valueOf 16 values
      if n.isValidChar then some (Char.ofNat n) else none
  | _ => none

/-- Escapes of one letter. -/
def simpleEscape? : Char → Option Char
  | 'b' => some '\x08'
  | 't' => some '\t'
  | 'n' => some '\n'
  | 'f' => some '\x0c'
  | 'r' => some '\r'
  | '"' => some '"'
  | '\\' => some '\\'
  | _ => none

/-- Reads an escape after its backslash. -/
def readEscape : List Char → Option (Char × List Char)
  | 'u' :: a :: b :: c :: d :: rest => (charOf? [a, b, c, d]).map (·, rest)
  | 'U' :: a :: b :: c :: d :: e :: f :: g :: h :: rest =>
      (charOf? [a, b, c, d, e, f, g, h]).map (·, rest)
  | c :: rest => (simpleEscape? c).map (·, rest)
  | [] => none

theorem length_lt_of_readEscape {cs rest : List Char} {c : Char}
    (h : readEscape cs = some (c, rest)) : rest.length < cs.length := by
  unfold readEscape at h
  split at h
  case h_4 => simp at h
  all_goals
    obtain ⟨_, _, heq⟩ := Option.map_eq_some_iff.1 h
    cases heq
    simp only [List.length_cons]
    omega

abbrev Scanned := Option (List Char × List Char)

/-- Puts a character before those that are read later. -/
def Scanned.push (c : Char) (later : Scanned) : Scanned :=
  later.map fun (text, rest) => (c :: text, rest)

def readBasic (cs : List Char) : Scanned :=
  match cs with
  | [] => none
  | '"' :: rest => some ([], rest)
  | '\\' :: rest =>
      match _h : readEscape rest with
      | some (c, later) => Scanned.push c (readBasic later)
      | none => none
  | c :: rest => if isPlain c then Scanned.push c (readBasic rest) else none
termination_by cs.length
decreasing_by
  all_goals
    try have := length_lt_of_readEscape ‹_›
    simp only [List.length_cons]
    omega

def readLiteral : List Char → Scanned
  | [] => none
  | '\'' :: rest => some ([], rest)
  | c :: rest => if isPlain c then Scanned.push c (readLiteral rest) else none

/-- The rest of a line is blank, so that a backslash before it removes the end of the line. -/
def blankToNewline (cs : List Char) : Bool := (newline? (skipBlank cs)).isSome

/-- Up to two quotation marks may stand right before the closing ones. While `trimming`, blanks and
ends of lines are dropped. -/
def readMultilineBasic (trimming : Bool) (cs : List Char) : Scanned :=
  match cs with
  | [] => none
  | '"' :: '"' :: '"' :: '"' :: '"' :: rest => some (['"', '"'], rest)
  | '"' :: '"' :: '"' :: '"' :: rest => some (['"'], rest)
  | '"' :: '"' :: '"' :: rest => some ([], rest)
  | '\n' :: rest | '\r' :: '\n' :: rest =>
      if trimming then readMultilineBasic true rest
      else Scanned.push '\n' (readMultilineBasic false rest)
  | '\\' :: rest =>
      if blankToNewline rest then readMultilineBasic true rest
      else match _h : readEscape rest with
        | some (c, later) => Scanned.push c (readMultilineBasic false later)
        | none => none
  | c :: rest =>
      if trimming && isBlank c then readMultilineBasic true rest
      else if isPlain c then Scanned.push c (readMultilineBasic false rest)
      else none
termination_by cs.length
decreasing_by
  all_goals
    try have := length_lt_of_readEscape ‹_›
    simp only [List.length_cons]
    omega

def readMultilineLiteral : List Char → Scanned
  | [] => none
  | '\'' :: '\'' :: '\'' :: '\'' :: '\'' :: rest => some (['\'', '\''], rest)
  | '\'' :: '\'' :: '\'' :: '\'' :: rest => some (['\''], rest)
  | '\'' :: '\'' :: '\'' :: rest => some ([], rest)
  | '\n' :: rest | '\r' :: '\n' :: rest => Scanned.push '\n' (readMultilineLiteral rest)
  | c :: rest => if isPlain c then Scanned.push c (readMultilineLiteral rest) else none

/-- The end of a line right after triple marks is not part of the string. -/
def skipNewline (cs : List Char) : List Char := (newline? cs).getD cs

/-- Reads a string of any kind with its opening marks. -/
def readString : List Char → Option (String × List Char)
  | '"' :: '"' :: '"' :: rest => finish (readMultilineBasic false (skipNewline rest))
  | '\'' :: '\'' :: '\'' :: rest => finish (readMultilineLiteral (skipNewline rest))
  | '"' :: rest => finish (readBasic rest)
  | '\'' :: rest => finish (readLiteral rest)
  | _ => none
where
  finish (scanned : Scanned) : Option (String × List Char) :=
    scanned.map fun (text, rest) => (String.ofList text, rest)

def isKeyChar (c : Char) : Bool := c.isAlphanum || c = '-' || c = '_'

/-- Reads a key without points: a string on one line, or a bare word. -/
def readSimpleKey : List Char → Option (String × List Char)
  | '"' :: rest => (readBasic rest).map fun (text, rest) => (String.ofList text, rest)
  | '\'' :: rest => (readLiteral rest).map fun (text, rest) => (String.ofList text, rest)
  | cs =>
      match cs.takeWhile isKeyChar with
      | [] => none
      | word => some (String.ofList word, cs.dropWhile isKeyChar)

/-- Reads simple keys between points. The bound is the number of keys that may still come. -/
def readKeyParts : (bound : Nat) → List Char → Option (List String × List Char)
  | 0, _ => none
  | bound + 1, cs => do
      let (part, cs) ← readSimpleKey (skipBlank cs)
      match skipBlank cs with
      | '.' :: rest =>
          let (parts, rest) ← readKeyParts bound rest
          some (part :: parts, rest)
      | rest => some ([part], rest)

/-- How many parts a key may have, and how many arrays and inline tables a value may nest. -/
def nestingLimit : Nat := 79

/-- Reads a key: a path of simple keys that is not empty. -/
def readKey (cs : List Char) : Option (List String × List Char) := readKeyParts nestingLimit cs

end PathRouter.Toml

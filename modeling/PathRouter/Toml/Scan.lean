/-!
What separates the parts of a TOML document: blanks, comments and the ends of lines.
-/

namespace PathRouter.Toml

def isBlank (c : Char) : Bool := c = ' ' || c = '\t'

/-- Every character but the control characters; the tab is allowed. -/
def isPlain (c : Char) : Bool := c = '\t' || (' ' ≤ c && c ≠ '\x7f')

def skipBlank (cs : List Char) : List Char := cs.dropWhile isBlank

/-- What follows the end of a line, if the text starts with one. -/
def newline? : List Char → Option (List Char)
  | '\n' :: rest | '\r' :: '\n' :: rest => some rest
  | _ => none

/-- What follows the rest of a line on which nothing more is to be read. -/
def endLine? (cs : List Char) : Option (List Char) :=
  let cs := match skipBlank cs with
    | '#' :: rest => rest.dropWhile isPlain
    | cs => cs
  if cs = [] then some [] else newline? cs

/-- Skips blanks, comments and ends of lines. -/
def skipFiller (inComment : Bool) : List Char → Option (List Char)
  | [] => some []
  | '\n' :: rest | '\r' :: '\n' :: rest => skipFiller false rest
  | c :: rest =>
      if inComment then if isPlain c then skipFiller true rest else none
      else if isBlank c then skipFiller false rest
      else if c = '#' then skipFiller true rest
      else if c = '\r' then none
      else some (c :: rest)

end PathRouter.Toml

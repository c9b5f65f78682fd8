import PathRouter.Text.CombiningMark
import PathRouter.Text.Digits
import PathRouter.Text.Printable

/-!
Text between double quotes, as messages show it. The quote and the backslash are written with a
backslash before them, four control characters have a letter of their own, and every other
character that cannot be seen on its own is written as its code point. All else stands for itself.
-/

namespace PathRouter.Text

namespace Quoted

/-- A character that leaves no mark, or attaches to the one before it, is hidden. -/
def isHidden (c : Char) : Bool := isCombiningMark c || !isPrintable c

def escape (c : Char) : List Char :=
  if c = '\x00' then ['\\', '0']
  else if c = '\t' then ['\\', 't']
  else if c = '\n' then ['\\', 'n']
  else if c = '\r' then ['\\', 'r']
  else if c = '"' || c = '\\' then ['\\', c]
  else if isHidden c then ['\\', 'u', '{'] ++ hexDigits c.toNat ++ ['}']
  else [c]

end Quoted

def quote (text : String) : String :=
  String.ofList (['"'] ++ text.toList.flatMap Quoted.escape ++ ['"'])

end PathRouter.Text

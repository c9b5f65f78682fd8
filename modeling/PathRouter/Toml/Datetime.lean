import PathRouter.Json

/-!
TOML dates and times. They are kept as text in one form: a `T` before the time, a fraction of a
second without zeros at its end and of nine digits at most, and `Z` for the offset of that name.

In a table that has just been read, a date or time is itself a table with one entry, its text under
a reserved key. A table that is written with that key in the first place is a date or time as well.
-/

namespace PathRouter.Toml.Datetime

/-- Reads exactly `count` decimal digits as a number between two bounds. -/
def readField (count least most : Nat) (cs : List Char) : Option (Nat × List Char) :=
  match Text.spanDigits 10 (cs.take count) with
  | (digits, []) =>
      let n := Text.valueOf 10 digits
      if digits.length = count && least ≤ n && n ≤ most then some (n, cs.drop count) else none
  | _ => none

def isLeapYear (year : Nat) : Bool := year % 4 = 0 && (year % 100 ≠ 0 || year % 400 = 0)

def daysIn (year month : Nat) : Nat :=
  if month = 2 then if isLeapYear year then 29 else 28
  else if month ∈ [4, 6, 9, 11] then 30
  else 31

def padded (width n : Nat) : List Char :=
  let digits := Nat.toDigits 10 n
  List.replicate (width - digits.length) '0' ++ digits

abbrev Scanned := Option (List Char × List Char)

def readDate (cs : List Char) : Scanned := do
  let (year, cs) ← readField 4 0 9999 cs
  let (month, cs) ← readField 2 1 12 (← Text.expect '-' cs)
  let (day, cs) ← readField 2 1 (daysIn year month) (← Text.expect '-' cs)
  some (padded 4 year ++ ['-'] ++ padded 2 month ++ ['-'] ++ padded 2 day, cs)

def trimZeros (digits : List Char) : List Char := (digits.reverse.dropWhile (· = '0')).reverse

/-- Reads a fraction of a second if there is one. -/
def readFraction : List Char → Scanned
  | '.' :: rest =>
      match rest.takeWhile Char.isDigit with
      | [] => none
      | digits =>
          let shown := match trimZeros (digits.take 9) with
            | [] => []
            | kept => '.' :: kept
          some (shown, rest.dropWhile Char.isDigit)
  | cs => some ([], cs)

def readTime (cs : List Char) : Scanned := do
  let (hour, cs) ← readField 2 0 23 cs
  let (minute, cs) ← readField 2 0 59 (← Text.expect ':' cs)
  let (second, cs) ← readField 2 0 60 (← Text.expect ':' cs)
  let (fraction, cs) ← readFraction cs
  some (padded 2 hour ++ [':'] ++ padded 2 minute ++ [':'] ++ padded 2 second ++ fraction, cs)

/-- Reads an offset if there is one. No offset at all is written with the sign plus. -/
def readOffset : List Char → Scanned
  | 'Z' :: rest | 'z' :: rest => some (['Z'], rest)
  | c :: rest =>
      if c = '+' || c = '-' then do
        let (hour, rest) ← readField 2 0 23 rest
        let (minute, rest) ← readField 2 0 59 (← Text.expect ':' rest)
        let sign := if hour = 0 && minute = 0 then '+' else c
        some ([sign] ++ padded 2 hour ++ [':'] ++ padded 2 minute, rest)
      else some ([], c :: rest)
  | [] => some ([], [])

/-- Reads a time with its offset after a date. -/
def readTimeOfDate : List Char → Scanned
  | c :: rest =>
      if c = 'T' || c = 't' || c = ' ' then do
        let (time, rest) ← readTime rest
        let (offset, rest) ← readOffset rest
        some ('T' :: time ++ offset, rest)
      else none
  | [] => none

/-- Reads a date, a time, or both. -/
def read (cs : List Char) : Scanned :=
  match readDate cs with
  | some (date, rest) =>
      match readTimeOfDate rest with
      | some (time, rest) => some (date ++ time, rest)
      | none => some (date, rest)
  | none => readTime cs

/-- The key that a date or time has in a table of its own. -/
def reservedKey : String := "$__toml_private_datetime"

/-- The date or time that a value under the reserved key stands for. -/
def ofReserved? : Json → Option Json
  | .str text =>
      match read text.toList with
      | some (shown, []) => some (.str (String.ofList shown))
      | _ => none
  | _ => none

/-- A date or time as a table of its own. -/
def toReserved (shown : List Char) : Json := .obj [(reservedKey, .str (String.ofList shown))]

end PathRouter.Toml.Datetime

import Annotator.Text.Digit

/-!
# Dates and times

The dates and times of TOML documents. They are read with every part in range, a day in particular
within its month, and written in one form: a `T` between date and time, the fraction of a second
without zeros at its end, and an offset of zero minutes with a plus sign. The range of hours and of
offsets depends on where a time is written: on its own or within a string.
-/

namespace Annotator.Toml

/-- A day of the calendar. -/
structure Date where
  year : Nat
  month : Nat
  day : Nat
  deriving Repr, DecidableEq

/-- A time of the day. -/
structure Time where
  hour : Nat
  minute : Nat
  second : Nat
  nanosecond : Nat
  deriving Repr, DecidableEq

/-- How far a time is from universal time. -/
inductive Offset where
  | zulu
  | minutes (behind : Bool) (count : Nat)
  deriving Repr, DecidableEq

/-- A date, a time, or both. -/
inductive Moment where
  | date (d : Date)
  | dateTime (d : Date) (t : Time) (offset : Option Offset)
  | time (t : Time)
  deriving Repr, DecidableEq

namespace Moment

/-! ## Reading -/

/-- How far hours and offsets go. -/
structure Bounds where
  /-- The last hour of a day. -/
  lastHour : Nat
  /-- Whether an offset may have so many hours and minutes. -/
  offset : (hours minutes : Nat) → Bool

/-- The bounds of a time that is written on its own. -/
def Bounds.plain : Bounds := ⟨23, fun hours minutes => hours ≤ 23 && minutes ≤ 59⟩

/-- The bounds of a time in a string: a day may end at 24 o'clock, and an offset is a day at most, in
hours and minutes of any number. -/
def Bounds.inString : Bounds := ⟨24, fun hours minutes => 60 * hours + minutes ≤ 24 * 60⟩

/-- The number of so many digits at the front of a text and what follows them. -/
def digitsFront? (count : Nat) (text : List Char) : Option (Nat × List Char) :=
  let digits := text.take count
  if digits.length = count ∧ digits.all Char.isDigit then
    some (Text.ofDigits 10 digits, text.drop count)
  else none

/-- What follows a mark at the front of a text. -/
def mark? (mark : Char) : List Char → Option (List Char)
  | c :: later => if c == mark then some later else none
  | [] => none

/-- Whether a year has a day more than others. -/
def isLeap (year : Nat) : Bool := year % 4 == 0 && (year % 100 != 0 || year % 400 == 0)

/-- How many days a month has. -/
def daysOf (year month : Nat) : Nat :=
  if month = 2 then (if isLeap year then 29 else 28)
  else if month ∈ [4, 6, 9, 11] then 30
  else 31

/-- The date at the front of a text and what follows it. -/
def dateFront? (text : List Char) : Option (Date × List Char) := do
  let (year, text) ← digitsFront? 4 text
  let (month, text) ← digitsFront? 2 (← mark? '-' text)
  let (day, text) ← digitsFront? 2 (← mark? '-' text)
  if 1 ≤ month ∧ month ≤ 12 ∧ 1 ≤ day ∧ day ≤ daysOf year month then
    return (⟨year, month, day⟩, text)
  else none

/-- The nanoseconds of the fraction at the front of a text and what follows it: nine digits count, and
those that are missing are zeros. -/
def fractionFront : List Char → Nat × List Char
  | '.' :: later =>
    match later.takeWhile Char.isDigit with
    | [] => (0, '.' :: later)
    | digits => (Text.ofDigits 10 ((digits ++ List.replicate 9 '0').take 9),
        later.dropWhile Char.isDigit)
  | text => (0, text)

/-- The time of the day at the front of a text and what follows it. A minute may have a leap second. -/
def timeFront? (bounds : Bounds) (text : List Char) : Option (Time × List Char) := do
  let (hour, text) ← digitsFront? 2 text
  let (minute, text) ← digitsFront? 2 (← mark? ':' text)
  let (second, text) ← digitsFront? 2 (← mark? ':' text)
  if hour ≤ bounds.lastHour ∧ minute ≤ 59 ∧ second ≤ 60 then
    let (nanosecond, text) := fractionFront text
    return (⟨hour, minute, second, nanosecond⟩, text)
  else none

/-- The offset at the front of a text, if there is one, and what follows it. -/
def offsetFront? (bounds : Bounds) : List Char → Option (Option Offset × List Char)
  | [] => some (none, [])
  | c :: later =>
    if c == 'Z' || c == 'z' then some (some .zulu, later)
    else if c == '+' || c == '-' then do
      let (hours, text) ← digitsFront? 2 later
      let (minutes, text) ← digitsFront? 2 (← mark? ':' text)
      if bounds.offset hours minutes then
        return (some (.minutes (c == '-') (60 * hours + minutes)), text)
      else none
    else some (none, c :: later)

/-- The date or time at the front of a text and what follows it. A blank may stand between a date and
a time. -/
def front? (bounds : Bounds) (text : List Char) : Option (Moment × List Char) :=
  match dateFront? text with
  | some (d, rest) =>
    match rest with
    | c :: later =>
      if c == 'T' || c == 't' || c == ' ' then
        match timeFront? bounds later with
        | some (t, rest) => do
          let (offset, rest) ← offsetFront? bounds rest
          return (dateTime d t offset, rest)
        | none => some (date d, rest)
      else some (date d, rest)
    | [] => some (date d, [])
  | none => (timeFront? bounds text).map fun (t, rest) => (time t, rest)

/-- The date or time that a string is the text of. -/
def ofString? (s : String) : Option Moment :=
  match front? .inString s.toList with
  | some (m, []) => some m
  | _ => none

/-! ## Writing -/

/-- The text of a date. -/
def dateText (d : Date) : List Char :=
  Text.padded 4 d.year ++ '-' :: Text.padded 2 d.month ++ '-' :: Text.padded 2 d.day

/-- The text of the fraction of a second, which is empty for a whole second. -/
def fractionText (nanosecond : Nat) : List Char :=
  if nanosecond = 0 then []
  else '.' :: ((Text.padded 9 nanosecond).reverse.dropWhile (· == '0')).reverse

/-- The text of a time of the day. -/
def timeText (t : Time) : List Char :=
  Text.padded 2 t.hour ++ ':' :: Text.padded 2 t.minute ++ ':' :: Text.padded 2 t.second ++
    fractionText t.nanosecond

/-- The text of an offset. -/
def offsetText : Offset → List Char
  | .zulu => ['Z']
  | .minutes behind count =>
    (if behind && count != 0 then '-' else '+') ::
      (Text.padded 2 (count / 60) ++ ':' :: Text.padded 2 (count % 60))

/-- The text of a date or time. -/
def text : Moment → List Char
  | date d => dateText d
  | dateTime d t offset => dateText d ++ 'T' :: timeText t ++ (offset.map offsetText).getD []
  | time t => timeText t

end Moment

end Annotator.Toml

import Annotator.Pattern.Escape

/-!
# Brackets

Reading classes in brackets: characters, ranges, named classes, brackets within brackets, and the
operations on what stands to the left and to the right of them, which group to the left.
-/

namespace Annotator.Pattern

/-- A named class of ASCII characters. -/
def asciiClass? : String → Option AsciiClass
  | "alnum" => some .alnum
  | "alpha" => some .alpha
  | "ascii" => some .ascii
  | "blank" => some .blank
  | "cntrl" => some .cntrl
  | "digit" => some .digit
  | "graph" => some .graph
  | "lower" => some .lower
  | "print" => some .print
  | "punct" => some .punct
  | "space" => some .space
  | "upper" => some .upper
  | "word" => some .word
  | "xdigit" => some .xdigit
  | _ => none

/-- Reads a named class such as `[:alpha:]`, after its opening bracket; `none` if there is none. -/
def asciiBracket? : List Char → Option (Bracket × List Char)
  | ':' :: text =>
    let (negated, text) := match text with
      | '^' :: later => (true, later)
      | text => (false, text)
    let name := text.takeWhile (· != ':')
    match text.dropWhile (· != ':') with
    | ':' :: ']' :: rest =>
      (asciiClass? (String.ofList name)).map fun kind => (.ascii negated kind, rest)
    | _ => none
  | _ => none

/-- An open bracket: the items before it in the brackets around it, whether it is negated, and the
operation with its left side, if its right side is being read. -/
structure OpenBracket where
  before : List Bracket
  negated : Bool
  pending : Option (SetOperation × Bracket)

/-- The class of some items, given in reverse. -/
def bracketOf : List Bracket → Bracket
  | [] => .empty
  | [b] => b
  | items => .union items.reverse

/-- Applies the pending operation, if there is one, to a right side. -/
def settle (pending : Option (SetOperation × Bracket)) (right : Bracket) : Bracket :=
  match pending with
  | some (op, left) => .operation op left right
  | none => right

/-- The item that an escape or a character is in brackets; assertions are none. -/
def Escape.toBracket? : Escape → Option Bracket
  | literal l => some (.literal l)
  | shorthand n k => some (.shorthand n k)
  | property n q => some (.property n q)
  | assertion _ => none

/-- Reads one character or escape in brackets. -/
def bracketItem? (extended : Bool) : List Char → Option (Escape × List Char)
  | [] => none
  | '\\' :: later => escape? extended later
  | c :: later => some (.literal ⟨c, false⟩, later)

/-- The character after the first one of a text that counts. After a number sign in an extended
pattern that is the next character which is no blank. -/
def peek (extended : Bool) (text : List Char) : Option Char :=
  if extended then
    match text.tail.dropWhile Text.isBlank with
    | '#' :: later => (later.dropWhile Text.isBlank).head?
    | later => later.head?
  else text.tail.head?

/-- Reads a character, an escape or a range in brackets. -/
def bracketRange? (extended : Bool) (text : List Char) : Option (Bracket × List Char) := do
  let (first, rest) ← bracketItem? extended text
  match skip extended rest with
  | [] => none
  | '-' :: later =>
    let next := peek extended ('-' :: later)
    if next == some ']' || next == some '-' then
      return (← first.toBracket?, '-' :: later)
    else
      let (last, rest) ← bracketItem? extended (skip extended later)
      match first, last with
      | .literal a, .literal b => if a.char ≤ b.char then return (.range a b, rest) else none
      | _, _ => none
  | rest => return (← first.toBracket?, rest)

/-- Reads the hyphens at the start of brackets, which stand for themselves, onto some items. -/
def leadingHyphens (extended : Bool) (items : List Bracket) : List Char → List Bracket × List Char
  | '-' :: later => leadingHyphens extended (.literal ⟨'-', false⟩ :: items) (skip extended later)
  | text => (items, text)
  termination_by text => text.length
  decreasing_by
    have := length_skip_le extended later
    simp only [List.length_cons]
    omega

/-- Reads the start of brackets, after the opening one: whether they are negated, and the items that
stand for themselves there. -/
def bracketStart (extended : Bool) (text : List Char) : Bool × List Bracket × List Char :=
  let (negated, text) := match skip extended text with
    | '^' :: later => (true, skip extended later)
    | text => (false, text)
  match leadingHyphens extended [] text with
  | ([], ']' :: later) => (negated, [.literal ⟨']', false⟩], skip extended later)
  | (items, text) => (negated, items, text)

/-- Reads on in brackets that are open around each other, the innermost first; `items` are those read
in the innermost, in reverse. `fuel` bounds the number of steps. -/
def bracketsFrom (extended : Bool) :
    Nat → List OpenBracket → List Bracket → List Char → Option ((Bool × Bracket) × List Char)
  | 0, _, _, _ => none
  | _, [], _, _ => none
  | fuel + 1, top :: around, items, text =>
    let operate (op : SetOperation) (later : List Char) :=
      let left := settle top.pending (bracketOf items)
      bracketsFrom extended fuel ({ top with pending := some (op, left) } :: around) [] later
    match skip extended text with
    | [] => none
    | '[' :: later =>
      match asciiBracket? later with
      | some (b, rest) => bracketsFrom extended fuel (top :: around) (b :: items) rest
      | none =>
        let (negated, inner, rest) := bracketStart extended later
        bracketsFrom extended fuel (⟨items, negated, none⟩ :: top :: around) inner rest
    | ']' :: later =>
      let inner := settle top.pending (bracketOf items)
      match around with
      | [] => some ((top.negated, inner), later)
      | _ => bracketsFrom extended fuel around (.nested top.negated inner :: top.before) later
    | '&' :: '&' :: later => operate .intersection later
    | '-' :: '-' :: later => operate .difference later
    | '~' :: '~' :: later => operate .symmetricDifference later
    | text => do
      let (b, rest) ← bracketRange? extended text
      bracketsFrom extended fuel (top :: around) (b :: items) rest

/-- Reads a class in brackets, after the opening bracket: whether it is negated, and what it holds. -/
def brackets? (extended : Bool) (text : List Char) : Option ((Bool × Bracket) × List Char) :=
  let (negated, items, rest) := bracketStart extended text
  bracketsFrom extended (text.length + 1) [⟨[], negated, none⟩] items rest

end Annotator.Pattern

import Annotator.Pattern.Brackets
import Annotator.Unicode.Latest

/-!
# Reading patterns

The tree of a pattern. The pattern is read from left to right with a stack of the groups that are
open; `Tree.parse?` is `none` for a pattern that is not well formed, and for one that is nested too
deep.
-/

namespace Annotator.Pattern

/-- How deep a pattern may be nested. -/
def maxDepth : Nat := 250

/-- The greatest count of a repetition. -/
def maxCount : Nat := Nat.pow 2 32 - 1

/-! ## Repetitions -/

/-- Reads decimal digits onto the value of those before, if there were any. -/
def decimalFrom (extended : Bool) (value : Option Nat) : List Char → Option Nat × List Char
  | [] => (value, [])
  | c :: later =>
    if c.isDigit then
      decimalFrom extended (some (10 * value.getD 0 + (c.toNat - 48))) (skip extended later)
    else (value, c :: later)
  termination_by text => text.length
  decreasing_by
    have := length_skip_le extended later
    simp only [List.length_cons]
    omega

/-- Reads a count with blanks around it; there may be none at all. -/
def count? (extended : Bool) (text : List Char) : Option (Option Nat × List Char) :=
  let (value, rest) := decimalFrom extended none (text.dropWhile Text.isBlank)
  if value.any (· > maxCount) then none
  else
    let rest := if (rest.head?.any Text.isBlank) then skip extended (rest.dropWhile Text.isBlank)
      else rest
    some (value, rest)

/-- Reads the bounds of a repetition, after the opening brace. -/
def bounds? (extended : Bool) (text : List Char) : Option ((Nat × Option Nat) × List Char) := do
  let (low, rest) ← count? extended (skip extended text)
  match rest with
  | ',' :: later =>
    match skip extended later with
    | '}' :: rest => return ((← low, none), rest)
    | later =>
      let low ← low
      let (high, rest) ← count? extended later
      let high ← high
      match rest with
      | '}' :: rest => if low ≤ high then return ((low, some high), rest) else none
      | _ => none
  | '}' :: rest =>
    let low ← low
    return ((low, some low), rest)
  | _ => none

/-- Whether a question mark, which is passed over, makes a repetition prefer few. -/
def greed (text : List Char) : Bool × List Char :=
  match text with
  | '?' :: later => (false, later)
  | text => (true, text)

/-! ## Groups -/

/-- The flag of a letter. -/
def flag? : Char → Option Flag
  | 'i' => some .ignoreCase
  | 'm' => some .multiLine
  | 's' => some .dotAll
  | 'U' => some .swapGreed
  | 'u' => some .unicode
  | 'R' => some .crlf
  | 'x' => some .extended
  | _ => none

/-- Reads the flags of a group up to a colon or a closing parenthesis, which is given too. No flag
comes twice, and a minus comes at most once and before some flag. -/
def flags? (changes : List (Flag × Bool)) (on dangling : Bool) :
    List Char → Option (List (Flag × Bool) × Char × List Char)
  | [] => none
  | c :: later =>
    if c == ':' || c == ')' then
      if dangling then none else some (changes.reverse, c, later)
    else if c == '-' then
      if on then flags? changes false true later else none
    else
      match flag? c with
      | none => none
      | some f =>
        if changes.any (·.1 == f) then none else flags? ((f, on) :: changes) on false later

/-- Whether a character is a letter or counts as one. -/
def isLetter (c : Char) : Bool :=
  if c.toNat < 128 then c.isAlpha else Unicode.Latest.alphabetic.contains c.toNat

/-- Whether a character is a letter, or one that numbers are written with. -/
def isLetterOrNumber (c : Char) : Bool :=
  if c.toNat < 128 then c.isAlphanum else Unicode.Latest.alphanumeric.contains c.toNat

/-- Whether a character can stand in the name of a group. -/
def isNameChar (first : Bool) (c : Char) : Bool :=
  if first then c == '_' || isLetter c
  else c == '_' || c == '.' || c == '[' || c == ']' || isLetterOrNumber c

/-- Reads the name of a group up to the closing angle bracket. -/
def groupName? (text : List Char) : Option (String × List Char) :=
  let name := text.takeWhile (· != '>')
  match name, text.dropWhile (· != '>') with
  | c :: others, '>' :: rest =>
    if isNameChar true c && others.all (isNameChar false) then some (String.ofList name, rest)
    else none
  | _, _ => none

/-- The opening of a group, or flags for what follows. -/
inductive Opening where
  | group (kind : GroupKind)
  | flags (changes : List (Flag × Bool))

/-- Reads the opening of a group, after its parenthesis; `groups` is the number of capturing groups
before it. -/
def opening? (extended : Bool) (groups : Nat) (text : List Char) :
    Option (Opening × List Char) := do
  match skip extended text with
  | '?' :: '=' :: _ | '?' :: '!' :: _ | '?' :: '<' :: '=' :: _ | '?' :: '<' :: '!' :: _ => none
  | '?' :: 'P' :: '<' :: later | '?' :: '<' :: later =>
    let (name, rest) ← groupName? later
    return (.group (.capturing (groups + 1) (some name)), rest)
  | '?' :: later =>
    let (changes, final, rest) ← flags? [] true false later
    if final == ':' then return (.group (.plain changes), rest)
    else if changes.isEmpty then none
    else return (.flags changes, rest)
  | text => return (.group (.capturing (groups + 1) none), text)

/-- What some changes set a flag to, if anything. -/
def setting? (f : Flag) (changes : List (Flag × Bool)) : Option Bool := changes.lookup f

/-! ## Patterns -/

/-- A group that is open: what stands before it among the items and branches around it, its kind, and
whether the pattern around it is extended. -/
structure OpenGroup where
  items : List Tree
  branches : List Tree
  kind : GroupKind
  extended : Bool

/-- How far a pattern has been read: the items of the current branch and the branches before it, both
in reverse, the groups that are open, the innermost first, the number of capturing groups, their
names, and whether the pattern is extended here. -/
structure Progress where
  items : List Tree
  branches : List Tree
  around : List OpenGroup
  groups : Nat
  names : List String
  extended : Bool

namespace Progress

/-- The state before the first character. -/
def start : Progress := ⟨[], [], [], 0, [], false⟩

/-- Adds an item to the current branch. -/
def add (p : Progress) (t : Tree) : Progress := { p with items := t :: p.items }

/-- The pattern of the innermost group so far. -/
def tree (p : Progress) : Tree :=
  match p.branches with
  | [] => Tree.ofItems p.items.reverse
  | branches => Tree.ofBranches (branches.reverse ++ [Tree.ofItems p.items.reverse])

/-- Repeats the last item of the current branch, if there is one that can be repeated. -/
def repeatLast (p : Progress) (min : Nat) (max : Option Nat) (greedy : Bool) : Option Progress :=
  match p.items with
  | [] | .empty :: _ | .flags _ :: _ => none
  | t :: before => some { p with items := .repetition min max greedy t :: before }

/-- Begins a group, or changes flags. -/
def begin? (p : Progress) : Opening → Option Progress
  | .flags changes =>
    some { p.add (.flags changes) with
      extended := (setting? .extended changes).getD p.extended }
  | .group kind =>
    let inner (groups : Nat) (names : List String) (extended : Bool) : Progress :=
      { items := [], branches := [], groups, names, extended,
        around := ⟨p.items, p.branches, kind, p.extended⟩ :: p.around }
    match kind with
    | .capturing index name =>
      match name with
      | none => some (inner index p.names p.extended)
      | some n => if p.names.contains n then none else some (inner index (n :: p.names) p.extended)
    | .plain changes =>
      some (inner p.groups p.names ((setting? .extended changes).getD p.extended))

/-- Ends the innermost group, if one is open. -/
def end? (p : Progress) : Option Progress :=
  match p.around with
  | [] => none
  | g :: around =>
    some { p with
      items := .group g.kind p.tree :: g.items
      branches := g.branches
      extended := g.extended
      around }

end Progress

/-- The item that an escape is. -/
def Escape.toTree : Escape → Tree
  | literal l => .literal l
  | assertion a => .assertion a
  | shorthand n k => .shorthand n k
  | property n q => .property n q

/-- Reads the next part of a pattern, which begins with the character `c`. -/
def step? (p : Progress) (c : Char) (later : List Char) : Option (Progress × List Char) := do
  match c with
  | '(' =>
    let (opening, rest) ← opening? p.extended p.groups later
    return (← p.begin? opening, rest)
  | ')' => return (← p.end?, later)
  | '|' =>
    return ({ p with items := [], branches := Tree.ofItems p.items.reverse :: p.branches }, later)
  | '[' =>
    let ((negated, inner), rest) ← brackets? p.extended later
    return (p.add (.bracketed negated inner), rest)
  | '?' =>
    let (greedy, rest) := greed later
    return (← p.repeatLast 0 (some 1) greedy, rest)
  | '*' =>
    let (greedy, rest) := greed later
    return (← p.repeatLast 0 none greedy, rest)
  | '+' =>
    let (greedy, rest) := greed later
    return (← p.repeatLast 1 none greedy, rest)
  | '{' =>
    let ((min, max), rest) ← bounds? p.extended later
    let (greedy, rest) := greed (skip p.extended rest)
    return (← p.repeatLast min max greedy, rest)
  | '\\' =>
    let (e, rest) ← escape? p.extended later
    return (p.add e.toTree, rest)
  | '.' => return (p.add .dot, later)
  | '^' => return (p.add (.assertion .lineStart), later)
  | '$' => return (p.add (.assertion .lineEnd), later)
  | c => return (p.add (.literal ⟨c, false⟩), later)

/-- Reads the rest of a pattern. `fuel` bounds the number of steps. -/
def parseFrom : Nat → Progress → List Char → Option Tree
  | 0, _, _ => none
  | fuel + 1, p, text =>
    match skip p.extended text with
    | [] => if p.around.isEmpty then some p.tree else none
    | c :: later =>
      match step? p c later with
      | none => none
      | some (next, rest) => parseFrom fuel next rest

/-- The tree of a pattern; `none` if it is not well formed. -/
def Tree.parse? (pattern : List Char) : Option Tree := do
  let t ← parseFrom (pattern.length + 1) Progress.start pattern
  if t.depth ≤ maxDepth then some t else none

end Annotator.Pattern

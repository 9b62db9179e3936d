/-!
# Pattern trees

Patterns as they are written: what stands where, before flags and properties are looked up.
-/

namespace Annotator.Pattern

/-- A flag that a pattern can turn on and off. -/
inductive Flag where
  | ignoreCase
  | multiLine
  | dotAll
  | swapGreed
  | unicode
  | crlf
  | extended
  deriving Repr, DecidableEq

/-- A character as it is written. `byte` marks one that is given by two hexadecimal digits, which
without Unicode mean a byte. -/
structure Literal where
  char : Char
  byte : Bool
  deriving Repr, DecidableEq

/-- A condition on a place between two characters. -/
inductive Assertion where
  | lineStart
  | lineEnd
  | textStart
  | textEnd
  | wordBoundary
  | notWordBoundary
  | wordStart
  | wordEnd
  | wordStartHalf
  | wordEndHalf
  deriving Repr, DecidableEq

/-- The classes of one letter. -/
inductive Shorthand where
  | digit
  | space
  | word
  deriving Repr, DecidableEq

/-- A Unicode property as it is asked for: by one name, or by the names of a property and a value. -/
inductive PropertyQuery where
  | named (name : String)
  | valued (property value : String)
  deriving Repr, DecidableEq

/-- The classes of ASCII characters that have a name in brackets. -/
inductive AsciiClass where
  | alnum | alpha | ascii | blank | cntrl | digit | graph | lower | print | punct | space | upper
  | word | xdigit
  deriving Repr, DecidableEq

/-- The operations on classes in brackets. -/
inductive SetOperation where
  | intersection
  | difference
  | symmetricDifference
  deriving Repr, DecidableEq

/-- What stands in brackets. -/
inductive Bracket where
  | empty
  | literal (l : Literal)
  | range (first last : Literal)
  | ascii (negated : Bool) (kind : AsciiClass)
  | shorthand (negated : Bool) (kind : Shorthand)
  | property (negated : Bool) (query : PropertyQuery)
  /-- Brackets within brackets. -/
  | nested (negated : Bool) (inner : Bracket)
  | union (items : List Bracket)
  | operation (op : SetOperation) (left right : Bracket)
  deriving Repr, Inhabited

/-- How a group treats what it holds. -/
inductive GroupKind where
  | capturing (index : Nat) (name : Option String)
  | plain (flags : List (Flag × Bool))
  deriving Repr, DecidableEq

/-- A pattern as it is written. -/
inductive Tree where
  | empty
  | flags (changes : List (Flag × Bool))
  | literal (l : Literal)
  | dot
  | assertion (a : Assertion)
  | shorthand (negated : Bool) (kind : Shorthand)
  | property (negated : Bool) (query : PropertyQuery)
  | bracketed (negated : Bool) (inner : Bracket)
  | repetition (min : Nat) (max : Option Nat) (greedy : Bool) (sub : Tree)
  | group (kind : GroupKind) (sub : Tree)
  | alternation (branches : List Tree)
  | concat (items : List Tree)
  deriving Repr, Inhabited

namespace Bracket

mutual

/-- How deep brackets, unions and operations are nested. -/
def depth : Bracket → Nat
  | nested _ inner => inner.depth + 1
  | union items => depthOf items + 1
  | operation _ l r => max l.depth r.depth + 1
  | _ => 0

/-- The greatest depth of some brackets. -/
def depthOf : List Bracket → Nat
  | [] => 0
  | b :: later => max b.depth (depthOf later)

end

end Bracket

namespace Tree

mutual

/-- How deep a pattern is nested; characters, classes and assertions on their own do not count. -/
def depth : Tree → Nat
  | bracketed _ inner => inner.depth + 1
  | repetition _ _ _ sub => sub.depth + 1
  | group _ sub => sub.depth + 1
  | alternation branches => depthOf branches + 1
  | concat items => depthOf items + 1
  | _ => 0

/-- The greatest depth of some patterns. -/
def depthOf : List Tree → Nat
  | [] => 0
  | t :: later => max t.depth (depthOf later)

end

/-- The pattern of some items one after another. -/
def ofItems : List Tree → Tree
  | [] => empty
  | [t] => t
  | items => concat items

/-- The pattern of some branches. -/
def ofBranches : List Tree → Tree
  | [t] => t
  | branches => alternation branches

end Tree

end Annotator.Pattern

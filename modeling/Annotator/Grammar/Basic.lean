import Annotator.Json.Basic
import Annotator.Json.NumberText

/-!
# Grammars

What a grammar document describes: rules that annotate a text, and the styles of the types that they
annotate it with.
-/

namespace Annotator

/-- A word of the vocabulary, the type that it belongs to, and what it means. -/
structure Token where
  keyword : String
  typeName : String
  description : String
  deriving Repr, DecidableEq

/-- A font weight: a number or a name. -/
inductive FontWeight where
  | numeric (n : Number)
  | named (s : String)
  deriving Repr, DecidableEq

namespace FontWeight

/-- Whether the weight counts as given: zero and the empty name do not. -/
def isSet : FontWeight → Bool
  | numeric n => !n.isZero
  | named s => s != ""

/-- The weight as a stylesheet has it. -/
def text : FontWeight → String
  | numeric n => toString n
  | named s => s

/-- The weight of text that is not emphasised. -/
def normal : FontWeight := named "normal"

end FontWeight

/-- How the words of a type look. -/
structure TypeStyle where
  className : String
  color : String
  parent : String
  weight : Option FontWeight
  slant : Option String
  deriving Repr, DecidableEq

/-- A rule that annotates each of some words. -/
structure KeywordRule where
  name : String
  caseSensitive : Bool
  wordBoundaries : Bool
  tokens : List Token
  deriving Repr, DecidableEq

/-- A rule that annotates or replaces what a pattern matches. -/
structure PatternRule where
  name : String
  pattern : String
  typeName : Option String
  replacement : Option String
  deriving Repr, DecidableEq

/-- A rule of a grammar. -/
inductive Rule where
  | keyword (rule : KeywordRule)
  | pattern (rule : PatternRule)
  /-- A rule of another kind, which annotates nothing and is kept as it was written. -/
  | other (value : Json)
  deriving Repr, DecidableEq

namespace Rule

/-- The name of the rule, if it has one. -/
def name? : Rule → Option String
  | keyword r => some r.name
  | pattern r => some r.name
  | other v => (v.get? "name").bind Json.text?

/-- The words of the rule. -/
def tokens : Rule → List Token
  | keyword r => r.tokens
  | _ => []

end Rule

/-- A grammar. -/
structure Grammar where
  version : String
  description : Option String
  reference : Option String
  rules : List Rule
  types : List TypeStyle
  metadata : Option (List (String × Json))
  deriving Repr, DecidableEq

namespace Grammar

/-- The grammar without rules and types. -/
def empty : Grammar := ⟨"1.0.0", none, none, [], [], none⟩

/-- All words, in the order of the rules and of the words in each. -/
def tokens (g : Grammar) : List Token := g.rules.flatMap Rule.tokens

end Grammar

end Annotator

import Annotator.Stylesheet
import Annotator.Grammar.Check

/-!
# Vocabularies

The words and styles of a grammar, indexed once for look-up: words without regard to case, the words
of a type, and styles by their class. Of several words or styles under one key the last counts.
-/

namespace Annotator

/-- A grammar with its indices. -/
structure Vocabulary where
  grammar : Grammar
  /-- The last word under each keyword in lower case. -/
  byKeyword : Index Token
  /-- The words of each type, in order. -/
  byType : Index (List Token)
  /-- The last style of each class. -/
  byClass : Index TypeStyle

/-- Words that belong together, with the look of the first of their types. -/
structure KeywordGroup where
  parent : String
  keywords : List String
  color : String
  weight : FontWeight
  deriving Repr, DecidableEq

namespace Vocabulary

/-- Adds a word to the words of its type. -/
def addToType (i : Index (List Token)) (t : Token) : Index (List Token) :=
  i.put t.typeName ((i.get? t.typeName).getD [] ++ [t])

/-- The vocabulary of a grammar. -/
def ofGrammar (g : Grammar) : Vocabulary where
  grammar := g
  byKeyword := g.tokens.foldl (fun i t => i.put (Text.lowercaseString t.keyword) t) Index.empty
  byType := g.tokens.foldl addToType Index.empty
  byClass := g.types.foldl (fun i s => i.put s.className s) Index.empty

/-- The word with a spelling, whatever its case. -/
def token? (v : Vocabulary) (keyword : String) : Option Token :=
  v.byKeyword.get? (Text.lowercaseString keyword)

/-- Whether there is a word with a spelling, whatever its case. -/
def has (v : Vocabulary) (keyword : String) : Bool := (v.token? keyword).isSome

/-- The meaning of a word. -/
def description? (v : Vocabulary) (keyword : String) : Option String :=
  (v.token? keyword).map Token.description

/-- The words of a type. -/
def tokensOf (v : Vocabulary) (typeName : String) : List Token :=
  (v.byType.get? typeName).getD []

/-- The style of a class. -/
def style? (v : Vocabulary) (className : String) : Option TypeStyle := v.byClass.get? className

/-- The styles with a parent. -/
def stylesUnder (v : Vocabulary) (parent : String) : List TypeStyle :=
  v.grammar.types.filter (·.parent == parent)

/-- The display class of a type; that of unknown types if it has no style. -/
def classOf (v : Vocabulary) (typeName : String) : String :=
  ((v.style? typeName).map fun s => ClassName.ofType s.className).getD ClassName.unknown

/-- The display class of a word whose type has a style. -/
def tokenClass? (v : Vocabulary) (keyword : String) : Option String := do
  let t ← v.token? keyword
  let s ← v.style? t.typeName
  return ClassName.ofType s.className

/-! ## Lists of keywords -/

/-- The parent of operators. -/
def operatorParent : String := "Operator"

/-- The parent of functions. -/
def functionParent : String := "Function"

/-- The type of custom words. -/
def customType : String := "CustomToken"

/-- The type of truth values. -/
def booleanType : String := "BooleanLiteral"

/-- The keywords whose type has a style with the given parent. -/
def keywordsUnder (v : Vocabulary) (parent : String) : List String :=
  (v.byKeyword.values.filter fun t => (v.style? t.typeName).any (·.parent == parent)).map
    Token.keyword

/-- The operators. -/
def operators (v : Vocabulary) : List String := v.keywordsUnder operatorParent

/-- The functions. -/
def functions (v : Vocabulary) : List String := v.keywordsUnder functionParent

/-- The custom words. -/
def customKeywords (v : Vocabulary) : List String := (v.tokensOf customType).map Token.keyword

/-- The spellings of truth values. -/
def booleans (v : Vocabulary) : List String := (v.tokensOf booleanType).map Token.keyword

/-! ## Groups -/

/-- Adds the words of a type to the group of its parent. -/
def addGroup (v : Vocabulary) (groups : Index KeywordGroup) (style : TypeStyle) :
    Index KeywordGroup :=
  let group := (groups.get? style.parent).getD
    ⟨style.parent, [], style.color, (style.weight.filter FontWeight.isSet).getD FontWeight.normal⟩
  groups.put style.parent
    { group with keywords := group.keywords ++ (v.tokensOf style.className).map Token.keyword }

/-- The keywords grouped by the parents of their types, in the order of the types. -/
def groups (v : Vocabulary) : List KeywordGroup :=
  (v.grammar.types.foldl v.addGroup Index.empty).values

/-- A group as a JSON document has it. -/
def groupField (g : KeywordGroup) : String × Json :=
  (g.parent, .object [("keywords", .array (g.keywords.map Json.string)),
    ("style", .object [("color", .string g.color),
      ("fontWeight", match g.weight with | .numeric n => .number n | .named s => .string s)])])

/-- The groups as a JSON document. -/
def groupsJson (v : Vocabulary) : Json := .object (v.groups.map groupField)

/-- The text of the stylesheet. -/
def css (v : Vocabulary) : String := (Stylesheet.ofTypes v.grammar.types).text

/-- The metadata of the grammar; none at all if it is absent. -/
def metadata (v : Vocabulary) : Json := .object (v.grammar.metadata.getD [])

end Vocabulary

end Annotator

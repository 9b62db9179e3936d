import Annotator.Grammar.Basic
import Annotator.Grammar.Check

/-!
# Reading grammar documents

The grammar that a document describes. The fields of a record are read in ascending order of their
keys, and the first that is of the wrong type is reported; after that the first required one that is
missing, in the order in which the record declares them. A field that is null counts as absent where
it may be absent. Records are also read from sequences, field by field as they are declared.

`Grammar.ofDocument?` checks a document and reads it.
-/

namespace Annotator.Grammar

/-- Reading of one kind of value. -/
abbrev Reading (α : Type) := Json → Except Malformed α

/-- Reads a text. -/
def readText : Reading String
  | .string s => .ok s
  | v => .error (.wrongType v .text)

/-- Reads a truth value. -/
def readBool : Reading Bool
  | .bool b => .ok b
  | v => .error (.wrongType v .boolean)

/-- Reads a sequence, item by item. -/
def readList {α : Type} (read : Reading α) : Reading (List α)
  | .array items => items.mapM read
  | v => .error (.wrongType v .sequence)

/-- Reads the fields of an object as they are. -/
def readMap : Reading (List (String × Json))
  | .object fields => .ok fields
  | v => .error (.wrongType v .map)

/-- Reads a value that may be null. -/
def nullable {α : Type} (read : Reading α) : Reading (Option α)
  | .null => .ok none
  | v => some <$> read v

/-- Reads a value that may be null, which stands for `standard`. -/
def orElse {α : Type} (standard : α) (read : Reading α) : Reading α := fun v => do
  return (← nullable read v).getD standard

/-- Reads a font weight. -/
def readWeight : Reading FontWeight
  | .number n => .ok (.numeric n)
  | .string s => .ok (.named s)
  | _ => .error .badFontWeight

/-- Reads a version: a text, or a number or truth value as it is printed. -/
def readVersion : Reading String
  | .string s => .ok s
  | .null => .ok ""
  | .number n => .ok (toString n)
  | .bool b => .ok (if b then "true" else "false")
  | v => .error (.versionNotText v)

/-! ## Fields -/

/-- Reads a field if it is there. -/
def field? {α : Type} (fields : List (String × Json)) (key : String) (read : Reading α) :
    Except Malformed (Option α) :=
  match fields.lookup key with
  | none => .ok none
  | some v => some <$> read v

/-- The value of a field that has to be there. -/
def need {α : Type} (key : String) : Option α → Except Malformed α
  | some x => .ok x
  | none => .error (.missingField key)

/-- Reads the field at a place of a record given as a sequence, if there is one. -/
def place? {α : Type} (items : List Json) (place : Nat) (read : Reading α) :
    Except Malformed (Option α) :=
  match items[place]? with
  | none => .ok none
  | some v => some <$> read v

/-- Reads the field at a place of a record given as a sequence, which needs it. -/
def place {α : Type} (record : String) (count : Nat) (items : List Json) (place : Nat)
    (read : Reading α) : Except Malformed α :=
  match items[place]? with
  | none => .error (.tooFewFields place record count)
  | some v => read v

/-- Refuses items of a sequence beyond the fields of the record. -/
def noMore (count : Nat) (items : List Json) : Except Malformed Unit :=
  if items.length > count then .error (.tooManyFields items.length) else .ok ()

/-! ## Records -/

/-- Reads a word. -/
def readToken : Reading Token
  | .object fields => do
    let description ← field? fields "description" (orElse "" readText)
    let keyword ← field? fields "keyword" readText
    let typeName ← field? fields "type" readText
    let keyword ← need "keyword" keyword
    let typeName ← need "type" typeName
    return ⟨keyword, typeName, description.getD ""⟩
  | .array items => do
    let keyword ← place "TokenDefinition" 3 items 0 readText
    let typeName ← place "TokenDefinition" 3 items 1 readText
    let description ← place? items 2 (orElse "" readText)
    noMore 3 items
    return ⟨keyword, typeName, description.getD ""⟩
  | v => .error (.wrongType v (.record "TokenDefinition"))

/-- Reads the style of a type. -/
def readType : Reading TypeStyle
  | .object fields => do
    let className ← field? fields "className" readText
    let slant ← field? fields "fontStyle" (nullable readText)
    let weight ← field? fields "fontWeight" (nullable readWeight)
    let color ← field? fields "highlightColor" readText
    let parent ← field? fields "parentType" readText
    let className ← need "className" className
    let color ← need "highlightColor" color
    let parent ← need "parentType" parent
    return ⟨className, color, parent, weight.join, slant.join⟩
  | .array items => do
    let className ← place "TypeStyle" 5 items 0 readText
    let color ← place "TypeStyle" 5 items 1 readText
    let parent ← place "TypeStyle" 5 items 2 readText
    let weight ← place? items 3 (nullable readWeight)
    let slant ← place? items 4 (nullable readText)
    noMore 5 items
    return ⟨className, color, parent, weight.join, slant.join⟩
  | v => .error (.wrongType v (.record "TypeStyle"))

/-- Reads the fields of a keyword rule. -/
def readKeywordRule (fields : List (String × Json)) : Except Malformed KeywordRule := do
  let wordBoundaries ← field? fields "addWordBoundaries" (orElse false readBool)
  let caseSensitive ← field? fields "caseSensitive" (orElse false readBool)
  let name ← field? fields "name" readText
  let tokens ← field? fields "tokens" (readList readToken)
  let name ← need "name" name
  let tokens ← need "tokens" tokens
  return ⟨name, caseSensitive.getD false, wordBoundaries.getD false, tokens⟩

/-- Reads the fields of a pattern rule. -/
def readPatternRule (fields : List (String × Json)) : Except Malformed PatternRule := do
  let name ← field? fields "name" readText
  let pattern ← field? fields "pattern" readText
  let replacement ← field? fields "replacement" (nullable readText)
  let typeName ← field? fields "type" (nullable readText)
  let name ← need "name" name
  let pattern ← need "pattern" pattern
  return ⟨name, pattern, typeName.join, replacement.join⟩

/-- Reads a rule. What does not say that it is a keyword rule or a pattern rule is kept as it is. -/
def readRule : Reading Rule
  | .object fields =>
    match (fields.lookup "matchType").bind Json.text? with
    | some "keyword" => .keyword <$> readKeywordRule fields
    | some "regex" => .pattern <$> readPatternRule fields
    | _ => .ok (.other (.object fields))
  | v => .ok (.other v)

/-- Reads a grammar without checking the document first. -/
def read : Reading Grammar
  | .object fields => do
    let description ← field? fields "description" (nullable readText)
    let rules ← field? fields "highlightingRules" (readList readRule)
    let metadata ← field? fields "metadata" (nullable readMap)
    let reference ← field? fields "reference" (nullable readText)
    let types ← field? fields "types" (readList readType)
    let version ← field? fields "version" readVersion
    let version ← need "version" version
    let rules ← need "highlightingRules" rules
    let types ← need "types" types
    return ⟨version, description.join, reference.join, rules, types, metadata.join⟩
  | .array items => do
    let version ← place "SyntaxConfig" 6 items 0 readVersion
    let description ← place? items 1 (nullable readText)
    let reference ← place? items 2 (nullable readText)
    let rules ← place "SyntaxConfig" 6 items 3 (readList readRule)
    let types ← place "SyntaxConfig" 6 items 4 (readList readType)
    let metadata ← place? items 5 (nullable readMap)
    noMore 6 items
    return ⟨version, description.join, reference.join, rules, types, metadata.join⟩
  | v => .error (.wrongType v (.record "SyntaxConfig"))

/-- The grammar of a document, which is checked first. -/
def ofDocument? (document : Json) : Except Error Grammar := do
  check document
  (read document).mapError .malformed

end Annotator.Grammar

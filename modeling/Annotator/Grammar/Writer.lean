import Annotator.Grammar.Basic
import Annotator.Grammar.Check

/-!
# Writing grammar documents

The document of a grammar. Options that are absent are left out; rules that annotate nothing are
written as they were read.
-/

namespace Annotator

namespace Json

/-- A field that is written only if it is there. -/
def optional (key : String) (value : Option Json) : List (String × Json) :=
  match value with
  | some v => [(key, v)]
  | none => []

end Json

/-- A word as a document has it. -/
def Token.toJson (t : Token) : Json :=
  .object [("keyword", .string t.keyword), ("type", .string t.typeName),
    ("description", .string t.description)]

/-- A font weight as a document has it. -/
def FontWeight.toJson : FontWeight → Json
  | numeric n => .number n
  | named s => .string s

/-- The style of a type as a document has it. -/
def TypeStyle.toJson (t : TypeStyle) : Json :=
  .object (
    [("className", .string t.className), ("highlightColor", .string t.color),
      ("parentType", .string t.parent)] ++
    Json.optional "fontWeight" (t.weight.map FontWeight.toJson) ++
    Json.optional "fontStyle" (t.slant.map Json.string))

/-- A rule as a document has it. -/
def Rule.toJson : Rule → Json
  | keyword r =>
    .object [("matchType", .string "keyword"), ("name", .string r.name),
      ("caseSensitive", .bool r.caseSensitive), ("addWordBoundaries", .bool r.wordBoundaries),
      ("tokens", .array (r.tokens.map Token.toJson))]
  | pattern r =>
    .object (
      [("matchType", .string "regex"), ("name", .string r.name), ("pattern", .string r.pattern)] ++
      Json.optional "type" (r.typeName.map Json.string) ++
      Json.optional "replacement" (r.replacement.map Json.string))
  | other v => v

namespace Grammar

/-- The document of a grammar. -/
def toJson (g : Grammar) : Json :=
  .object (
    [("version", .string g.version)] ++
    Json.optional "description" (g.description.map Json.string) ++
    Json.optional "reference" (g.reference.map Json.string) ++
    [("highlightingRules", .array (g.rules.map Rule.toJson)),
      ("types", .array (g.types.map TypeStyle.toJson))] ++
    Json.optional "metadata" (g.metadata.map Json.object))

/-- The text of the document of a grammar. -/
def toText (g : Grammar) : String := String.ofList g.toJson.pretty

/-- Checks the document of a grammar. -/
def validate (g : Grammar) : Except Error Unit := check g.toJson

end Grammar

end Annotator

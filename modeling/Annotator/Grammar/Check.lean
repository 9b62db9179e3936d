import Annotator.Error

/-!
# The shape of a grammar document

A document is checked before it is read: the keys that every grammar has are there, the rules and the
types are sequences, and every entry has the fields it needs. A field is there when it is set; what it
holds is the business of reading.
-/

namespace Annotator.Grammar

/-- Whether a value counts as set: null, false, zero and the empty string do not. -/
def isSet : Json → Bool
  | .null => false
  | .bool b => b
  | .string s => s != ""
  | .number n => !n.isZero
  | .array _ => true
  | .object _ => true

/-- Whether a value has a field that is set. -/
def has (v : Json) (key : String) : Bool :=
  (v.get? key).any isSet

/-- The text of a field, or the empty text where there is none. -/
def textOf (v : Json) (key : String) : String :=
  ((v.get? key).bind Json.text?).getD ""

/-- Checks a word of the keyword rule with the given name. -/
def checkToken (rule : String) (token : Json) : Except Error Unit :=
  if has token "keyword" && has token "type" then .ok () else .error (.tokenMissingField rule)

/-- Checks a rule. -/
def checkRule (rule : Json) : Except Error Unit :=
  if !(has rule "name" && has rule "matchType") then .error .ruleMissingField
  else
    let name := textOf rule "name"
    match (rule.get? "matchType").bind Json.text? with
    | some "keyword" =>
      match (rule.get? "tokens").bind Json.items? with
      | none => .error (.keywordRuleWithoutTokens name)
      | some tokens => tokens.forM (checkToken name)
    | some "regex" =>
      if has rule "pattern" then .ok () else .error (.patternRuleWithoutPattern name)
    | _ => .ok ()

/-- Checks the style of a type. -/
def checkType (style : Json) : Except Error Unit :=
  if has style "className" && has style "highlightColor" && has style "parentType" then .ok ()
  else .error .typeMissingField

/-- The keys that every document has. -/
def requiredKeys : List String := ["version", "highlightingRules", "types"]

/-- The sequence under a key. -/
def sequence (root : Json) (key : String) : Except Error (List Json) :=
  match (root.get? key).bind Json.items? with
  | some items => .ok items
  | none => .error (.notASequence key)

/-- Checks a document: first its keys, then its rules in order, then its types. -/
def check (document : Json) : Except Error Unit := do
  match document with
  | .object _ => pure ()
  | _ => throw (.malformed .notAnObject)
  requiredKeys.forM fun key =>
    if (document.get? key).isSome then .ok () else .error (.missingKey key)
  let rules ← sequence document "highlightingRules"
  rules.forM checkRule
  let types ← sequence document "types"
  types.forM checkType

end Annotator.Grammar

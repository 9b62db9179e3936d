import Annotator.Json.Printer
import Annotator.Text.Quoted

/-!
# Errors

What can be wrong with a grammar document, a pattern, a remote document or a file, and how it is
reported.
-/

namespace Annotator

/-- What a part of a document should have been. -/
inductive Expected where
  | text
  | boolean
  | sequence
  | map
  /-- A record with a name. -/
  | record (name : String)
  deriving Repr, DecidableEq

namespace Expected

/-- The wording of what was expected. -/
def message : Expected → String
  | text => "a string"
  | boolean => "a boolean"
  | sequence => "a sequence"
  | map => "a map"
  | record name => "struct " ++ name

end Expected

/-- Why a document of the right shape does not describe a grammar. -/
inductive Malformed where
  | notAnObject
  | versionNotText (found : Json)
  | wrongType (found : Json) (expected : Expected)
  | missingField (name : String)
  /-- A record that was given as a sequence has too few fields. -/
  | tooFewFields (count : Nat) (record : String) (fields : Nat)
  /-- A record that was given as a sequence has too many fields. -/
  | tooManyFields (count : Nat)
  | badFontWeight
  /-- The command line and the settings name no grammar. -/
  | noGrammar
  deriving Repr, DecidableEq

namespace Malformed

/-- How a value is named that is of the wrong type. -/
def found : Json → String
  | .null => "null"
  | .bool b => "boolean `" ++ (if b then "true" else "false") ++ "`"
  | .number n =>
    (if n.isInteger then "integer `" else "floating point `") ++ toString n ++ "`"
  | .string s => "string " ++ Text.quoted s
  | .array _ => "sequence"
  | .object _ => "map"

/-- The wording of the cause. -/
def message : Malformed → String
  | notAnObject => "configuration must be an object"
  | versionNotText v => "version must be text, found " ++ String.ofList v.compact
  | wrongType v expected => "invalid type: " ++ found v ++ ", expected " ++ expected.message
  | missingField name => "missing field `" ++ name ++ "`"
  | tooFewFields count record fields =>
    "invalid length " ++ toString count ++ ", expected struct " ++ record ++ " with " ++
      toString fields ++ " elements"
  | tooManyFields count =>
    "invalid length " ++ toString count ++ ", expected fewer elements in array"
  | badFontWeight => "data did not match any variant of untagged enum FontWeight"
  | noGrammar => "no grammar given (use --grammar or set one in ~/.rcse.conf)"

end Malformed

/-- What can go wrong. -/
inductive Error where
  | missingKey (key : String)
  | notASequence (key : String)
  | ruleMissingField
  | keywordRuleWithoutTokens (rule : String)
  | tokenMissingField (rule : String)
  | patternRuleWithoutPattern (rule : String)
  | typeMissingField
  /-- The text is no JSON document. -/
  | json
  /-- The text is no TOML document. -/
  | toml
  | malformed (cause : Malformed)
  /-- The pattern of a rule, or the one made for a keyword, cannot be used. -/
  | invalidPattern (rule : String)
  /-- A server answered with a status that is no success. -/
  | fetch (url : String) (status : Nat)
  /-- No server answered. -/
  | transport (url message : String)
  /-- A file cannot be read. -/
  | io
  deriving Repr, DecidableEq

namespace Error

/-- Whether the error is about the shape of a document. -/
def isValidation : Error → Bool
  | missingKey _ | notASequence _ | ruleMissingField | keywordRuleWithoutTokens _
  | tokenMissingField _ | patternRuleWithoutPattern _ | typeMissingField => true
  | _ => false

/-- Whether the error has a cause of its own, in the words of whoever came upon it: a reader of
documents or patterns, or the system. -/
def hasCause : Error → Bool
  | json | toml | invalidPattern _ | io => true
  | _ => false

/-- The wording of the error, up to its cause. -/
def message : Error → String
  | missingKey key => "Missing required key: " ++ key
  | notASequence key => key ++ " must be an array"
  | ruleMissingField => "Each rule must have name and matchType"
  | keywordRuleWithoutTokens rule => "Keyword rule '" ++ rule ++ "' must have a tokens array"
  | tokenMissingField rule => "Each token must have keyword and type (in rule '" ++ rule ++ "')"
  | patternRuleWithoutPattern rule => "Regex rule '" ++ rule ++ "' must have a pattern"
  | typeMissingField => "Each type must have className, highlightColor, and parentType"
  | json => "Invalid JSON document"
  | toml => "Invalid TOML document"
  | malformed cause => "Malformed configuration: " ++ cause.message
  | invalidPattern rule => "Invalid pattern in rule '" ++ rule ++ "'"
  | fetch url status =>
    "Failed to fetch configuration from " ++ url ++ " (status " ++ toString status ++ ")"
  | transport url message => "Failed to fetch configuration from " ++ url ++ ": " ++ message
  | io => "I/O error"

/-- The wording of the error, with its cause behind it if it has one. -/
def withCause (e : Error) (cause : String) : String :=
  if e.hasCause then e.message ++ ": " ++ cause else e.message

end Error

end Annotator

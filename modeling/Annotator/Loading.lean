import Annotator.Grammar.Reader
import Annotator.Grammar.Writer
import Annotator.Json.Parser
import Annotator.Toml.Parser
import Annotator.Vocabulary

/-!
# Loading grammars

Grammars from the texts of documents, and from documents that a server sends.
-/

namespace Annotator

/-- The value of a JSON text. -/
def Json.ofText (text : String) : Except Error Json :=
  match Json.parse? text.toList with
  | some v => .ok v
  | none => .error .json

/-- The JSON value of a TOML text. -/
def Json.ofTomlText (text : String) : Except Error Json :=
  match Toml.parse? text.toList with
  | some v => .ok v
  | none => .error .toml

namespace Grammar

/-- The grammar of a JSON document. -/
def ofJsonText (text : String) : Except Error Grammar := do
  ofDocument? (← Json.ofText text)

/-- The grammar of a TOML document. -/
def ofTomlText (text : String) : Except Error Grammar := do
  ofDocument? (← Json.ofTomlText text)

end Grammar

/-- What a server answered: a status and a text. -/
structure Response where
  status : Nat
  body : String
  deriving Repr, DecidableEq

namespace Response

/-- Whether the status is one of success. -/
def isSuccess (r : Response) : Bool := 200 ≤ r.status && r.status < 300

end Response

namespace Grammar

/-- The grammar that a server sent from an address, or why it did not. -/
def ofResponse (url : String) (answer : Except Error Response) : Except Error Grammar := do
  let response ← answer
  if response.isSuccess then ofJsonText response.body else throw (.fetch url response.status)

end Grammar

end Annotator

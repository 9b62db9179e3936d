import Annotator.Marking
import Annotator.Markup

/-!
# Highlighters

All rules of a grammar made ready, and the markup of a text: the escaped text, changed by each rule
in turn wherever it is plain text outside comments.
-/

namespace Annotator

/-- The rules of a grammar, ready in order. -/
structure Highlighter where
  markings : List Marking

namespace Highlighter

/-- The highlighter of a vocabulary. The first rule that cannot be made ready is an error. -/
def ofVocabulary (v : Vocabulary) : Except Error Highlighter :=
  (v.grammar.rules.mapM (Marking.ofRule v)).map fun as => ⟨as.filterMap id⟩

/-- The markup after one more rule. -/
def applyRule (text : List Char) (a : Marking) : List Char :=
  Markup.mapPlain a.apply text

/-- The markup of a text. -/
def highlight (h : Highlighter) (text : List Char) : List Char :=
  if text = [] then [] else h.markings.foldl applyRule (Markup.escape text)

end Highlighter

end Annotator

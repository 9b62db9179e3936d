/-!
# Words

The characters of an ASCII word, and the places where such a word begins or ends.
-/

namespace Annotator.Text

/-- An ASCII letter, an ASCII digit or an underscore. -/
def isWord (c : Char) : Bool :=
  c.isAlphanum || c == '_'

/-- Whether exactly one of the two neighbours of a place is a word character. The start and the end
of a text have no neighbour, which counts as none. -/
def wordBoundary (before after : Option Char) : Bool :=
  before.any isWord != after.any isWord

theorem wordBoundary_comm (a b : Option Char) : wordBoundary a b = wordBoundary b a := by
  unfold wordBoundary
  cases a.any isWord <;> cases b.any isWord <;> rfl

end Annotator.Text

import Annotator.Pattern.Machine
import Annotator.Pattern.Meaning
import Annotator.Pattern.Template

/-!
# Matchers

A pattern made ready for searching.
-/

namespace Annotator.Pattern

/-- A pattern that can be searched for, and its groups. -/
structure Matcher where
  program : Program
  groups : Groups

namespace Matcher

/-- The matcher of a pattern; `none` if the pattern is not well formed or would take too much
memory. -/
def ofPattern? (pattern : String) : Option Matcher :=
  (Form.parse? pattern.toList).map fun f => ⟨Program.ofForm f, ⟨f.groupCount, f.groupNames⟩⟩

/-- The search for the pattern. -/
def search (m : Matcher) : Search := m.program.search

end Matcher

end Annotator.Pattern

import Annotator.Scan

/-!
# Markup

Texts with tags in them. A text is escaped before it gets tags, is cut into plain segments and tags,
and is changed by changing its plain segments; what stands in a comment is left alone.

The segments of a text make up the text (`flatten_segments`), and there is always an odd number of
them, tags at the even places (`segments_odd`).
-/

namespace Annotator.Markup

/-- A character of a text that is to be shown as it is. Single quotes stay. -/
def escapeChar : Char → List Char
  | '&' => "&amp;".toList
  | '<' => "&lt;".toList
  | '>' => "&gt;".toList
  | '"' => "&quot;".toList
  | c => [c]

/-- A text with nothing in it that looks like markup. -/
def escape (text : List Char) : List Char := text.flatMap escapeChar

/-- Finds a tag at the front of a text: an angle bracket, at least one character and the closing
bracket. -/
def tagFront (_ : Option Char) : List Char → Option Nat
  | '<' :: later =>
    let inner := later.takeWhile (· != '>')
    if inner.length = 0 ∨ inner.length = later.length then none else some (inner.length + 2)
  | _ => none

/-- The search for tags. -/
def tag : Search := Search.ofFront tagFront

end Markup

/-- The pieces between the hits and the hits, by turns. -/
def Cut.segments : Cut → List (List Char)
  | .rest t => [t]
  | .hit before matched _ after => before :: matched :: after.segments

namespace Markup

/-- The plain segments and the tags of a text, by turns; plain segments may be empty. -/
def segments (text : List Char) : List (List Char) := (tag.cut text).segments

/-- Whether a segment is taken for a tag. -/
def isTag (segment : List Char) : Bool := segment.head? == some '<'

/-- The tag that closes a span. -/
def closing : List Char := "</span>".toList

/-- What the opening tag of a comment begins with. -/
def commentOpening : List Char := "<span class='rcse-comment'".toList

/-- Whether a comment is open after a segment, when `was` tells it of the place before. The last
closing tag or opening tag of a comment decides; other tags do not count. -/
def commentAfter (was : Bool) (segment : List Char) : Bool :=
  if isTag segment then
    if segment == closing then false
    else if commentOpening.isPrefixOf segment then true
    else was
  else was

/-- Changes the plain segments that are in no comment; `was` tells whether a comment is open. -/
def mapSegments (f : List Char → List Char) (was : Bool) : List (List Char) → List Char
  | [] => []
  | s :: later =>
    (if isTag s || was then s else f s) ++ mapSegments f (commentAfter was s) later

/-- Changes the plain text of a text that is in no comment. -/
def mapPlain (f : List Char → List Char) (text : List Char) : List Char :=
  mapSegments f false (segments text)

theorem flatten_cutSegments (c : Cut) : c.segments.flatten = c.text := by
  induction c with
  | rest t => simp [Cut.segments]
  | hit b m g a ih => simp [Cut.segments, ih]

/-- The segments of a text make up the text. -/
theorem flatten_segments (text : List Char) : (segments text).flatten = text := by
  rw [segments, flatten_cutSegments, Search.text_cut]

/-- Plain segments and tags alternate, with plain segments at both ends. -/
theorem segments_odd (text : List Char) : (segments text).length % 2 = 1 := by
  have key (c : Cut) : c.segments.length % 2 = 1 := by
    induction c with
    | rest t => rfl
    | hit b m g a ih => simp only [Cut.segments, List.length_cons]; omega
  exact key _

/-- Changing plain text by nothing changes nothing. -/
theorem mapPlain_id (text : List Char) : mapPlain id text = text := by
  have key (was : Bool) (l : List (List Char)) : mapSegments id was l = l.flatten := by
    induction l generalizing was with
    | nil => rfl
    | cons s later ih => simp [mapSegments, ih]
  rw [mapPlain, key, flatten_segments]

end Markup

end Annotator

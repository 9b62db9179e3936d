import Annotator.Text.LowercaseTable
import Annotator.Unicode.Latest

/-!
# Lowercase

Full lowercasing of a text, in no language. Two letters are special: the capital dotted I becomes an
`i` with a dot above, and a capital sigma at the end of a word becomes a final sigma.
-/

namespace Annotator.Text

/-- The lowercase of one character on its own. -/
def lowercaseChar (c : Char) : List Char :=
  if c.toNat < 128 then [c.toLower]
  else if c.toNat == 0x130 then ['i', Char.ofNat 0x307]
  else [Char.ofNat (CaseRun.mapCode lowercaseRuns c.toNat)]

/-- Whether a character with case comes next, once those that do not separate it are passed over. -/
def casedNext : List Char → Bool
  | [] => false
  | c :: later =>
    if Unicode.Latest.caseIgnorable.contains c.toNat then casedNext later
    else Unicode.Latest.cased.contains c.toNat

/-- Whether a character with case came last, once those that do not separate it are passed over:
`was` tells it of what stood before `c`. -/
def casedAfter (was : Bool) (c : Char) : Bool :=
  if Unicode.Latest.caseIgnorable.contains c.toNat then was else Unicode.Latest.cased.contains c.toNat

/-- The lowercase of a character where `was` tells whether a character with case came before it and
`later` follows. -/
def lowercaseAt (was : Bool) (c : Char) (later : List Char) : List Char :=
  if c == 'Σ' then (if was && !casedNext later then ['ς'] else ['σ']) else lowercaseChar c

/-- The lowercase of the rest of a text, in front of which stands `done`, reversed. -/
def lowercaseOnto (done : List Char) (was : Bool) : List Char → List Char
  | [] => done.reverse
  | c :: later =>
    lowercaseOnto ((lowercaseAt was c later).reverse ++ done) (casedAfter was c) later

/-- The lowercase of a text. -/
def lowercase (text : List Char) : List Char :=
  lowercaseOnto [] false text

/-- The lowercase of a string. -/
def lowercaseString (s : String) : String :=
  String.ofList (lowercase s.toList)

theorem lowercaseOnto_eq (done : List Char) (was : Bool) (text : List Char) :
    lowercaseOnto done was text = done.reverse ++ lowercaseOnto [] was text := by
  induction text generalizing done was with
  | nil => simp [lowercaseOnto]
  | cons c later ih =>
    simp only [lowercaseOnto]
    rw [ih, ih ((lowercaseAt was c later).reverse ++ [])]
    simp

end Annotator.Text

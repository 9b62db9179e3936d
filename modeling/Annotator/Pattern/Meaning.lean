import Annotator.Pattern.Form
import Annotator.Pattern.Parser
import Annotator.Text.Fold
import Annotator.Unicode.Query

/-!
# The meaning of patterns

The form of a pattern tree: flags in force are followed from left to right, classes and properties
become sets of characters. Without Unicode only ASCII characters can be meant, so a set is not
complemented then.
-/

namespace Annotator.Pattern

open Unicode (CodeSet)

/-- The flags in force. -/
structure Mode where
  ignoreCase : Bool
  multiLine : Bool
  dotAll : Bool
  swapGreed : Bool
  unicode : Bool
  crlf : Bool
  deriving Repr, DecidableEq

namespace Mode

/-- The flags at the start of a pattern. -/
def standard : Mode := ⟨false, false, false, false, true, false⟩

/-- The flags after one has been set. -/
def set (m : Mode) (f : Flag) (on : Bool) : Mode :=
  match f with
  | .ignoreCase => { m with ignoreCase := on }
  | .multiLine => { m with multiLine := on }
  | .dotAll => { m with dotAll := on }
  | .swapGreed => { m with swapGreed := on }
  | .unicode => { m with unicode := on }
  | .crlf => { m with crlf := on }
  | .extended => m

/-- The flags after some changes. -/
def change (m : Mode) (changes : List (Flag × Bool)) : Mode :=
  changes.foldl (fun m c => m.set c.1 c.2) m

end Mode

/-! ## Sets -/

/-- The code points that folding moves, each with what it folds to. -/
def foldPairs : List (Nat × Nat) := Text.foldRuns.flatMap Text.CaseRun.pairs

/-- A set with all spellings of its letters. -/
def spellings (s : CodeSet) : CodeSet :=
  let targets := (foldPairs.filter fun (c, t) => s.contains c || s.contains t).map Prod.snd
  CodeSet.ofRanges (s ++ (targets.flatMap Text.codesFoldingTo).map fun c => (c, c))

/-- A set of ASCII characters with the capitals and small letters of its letters. -/
def asciiSpellings (s : CodeSet) : CodeSet :=
  let small := s.inter [(97, 122)]
  let capital := s.inter [(65, 90)]
  CodeSet.ofRanges (s ++ (small.map fun (a, b) => (a - 32, b - 32)) ++
    capital.map fun (a, b) => (a + 32, b + 32))

/-- A set as the flag for case and a negation have it. -/
def finishSet (m : Mode) (negated : Bool) (s : CodeSet) : Option CodeSet :=
  if m.unicode then
    let s := if m.ignoreCase then spellings s else s
    some (if negated then s.complement else s)
  else if negated then none
  else some (if m.ignoreCase then asciiSpellings s else s)

/-- The characters of a named ASCII class. -/
def AsciiClass.codes : AsciiClass → CodeSet
  | alnum => [(48, 57), (65, 90), (97, 122)]
  | alpha => [(65, 90), (97, 122)]
  | ascii => [(0, 127)]
  | blank => [(9, 9), (32, 32)]
  | cntrl => [(0, 31), (127, 127)]
  | digit => [(48, 57)]
  | graph => [(33, 126)]
  | lower => [(97, 122)]
  | print => [(32, 126)]
  | punct => [(33, 47), (58, 64), (91, 96), (123, 126)]
  | space => [(9, 13), (32, 32)]
  | upper => [(65, 90)]
  | word => [(48, 57), (65, 90), (95, 95), (97, 122)]
  | xdigit => [(48, 57), (65, 70), (97, 102)]

/-- The characters of a class of one letter. -/
def Shorthand.codes (unicode : Bool) : Shorthand → CodeSet
  | digit => if unicode then Unicode.digits else AsciiClass.digit.codes
  | space => if unicode then Text.blankRanges else AsciiClass.space.codes
  | word => if unicode then Unicode.wordChars else AsciiClass.word.codes

/-- The set of a class of one letter, which may be negated. -/
def shorthandSet (m : Mode) (negated : Bool) (kind : Shorthand) : Option CodeSet :=
  if !negated then some (kind.codes m.unicode)
  else if m.unicode then some (kind.codes true).complement
  else none

/-- The set of a property, which may be negated. -/
def propertySet (m : Mode) (negated : Bool) (query : PropertyQuery) : Option CodeSet := do
  if !m.unicode then none
  let s ← match query with
    | .named name => Unicode.named? name
    | .valued property value => Unicode.valued? property value
  finishSet m negated s

/-- The character of a literal. Without Unicode one given by two digits is a byte, and must be ASCII. -/
def literalChar (m : Mode) (l : Literal) : Option Char :=
  if !m.unicode && l.byte && l.char.toNat > 127 then none else some l.char

/-- The code point of a literal in brackets. -/
def bracketCode (m : Mode) (l : Literal) : Option Nat :=
  if !m.unicode && l.char.toNat > 127 then none else some l.char.toNat

mutual

/-- The set of what stands in brackets. -/
def bracketSet (m : Mode) : Bracket → Option CodeSet
  | .empty => some []
  | .literal l => do
    let c ← bracketCode m l
    return [(c, c)]
  | .range a b => do return [(← bracketCode m a, ← bracketCode m b)]
  | .ascii negated kind => finishSet m negated kind.codes
  | .shorthand negated kind => shorthandSet m negated kind
  | .property negated query => propertySet m negated query
  | .nested negated inner => do finishSet m negated (← bracketSet m inner)
  | .union items => unionSet m items
  | .operation op left right => do
    let left ← bracketSet m left
    let right ← bracketSet m right
    let spelled (s : CodeSet) : CodeSet :=
      if !m.ignoreCase then s else if m.unicode then spellings s else asciiSpellings s
    return match op with
      | .intersection => (spelled left).inter (spelled right)
      | .difference => (spelled left).diff (spelled right)
      | .symmetricDifference => (spelled left).symmDiff (spelled right)

/-- The set of some items in brackets. -/
def unionSet (m : Mode) : List Bracket → Option CodeSet
  | [] => some []
  | b :: later => do return CodeSet.ofRanges ((← bracketSet m b) ++ (← unionSet m later))

end

/-! ## Forms -/

/-- The form of a character. -/
def literalForm (m : Mode) (l : Literal) : Option Form := do
  let c ← literalChar m l
  if m.unicode || !m.ignoreCase then return Form.ofChar m.ignoreCase c
  else if c.isAlpha then return Form.ofSet (asciiSpellings [(c.toNat, c.toNat)]) true
  else return .literal [c]

/-- The form of any character, line breaks apart unless the flag says so. -/
def dotForm (m : Mode) : Option Form :=
  if !m.unicode then none
  else if m.dotAll then some (Form.ofSet CodeSet.all false)
  else
    let breaks : CodeSet := if m.crlf then [(10, 10), (13, 13)] else [(10, 10)]
    some (Form.ofSet breaks.complement false)

/-- The condition of an assertion. -/
def assertionLook (m : Mode) : Assertion → Look
  | .lineStart => if m.multiLine then .lineStart m.crlf else .textStart
  | .lineEnd => if m.multiLine then .lineEnd m.crlf else .textEnd
  | .textStart => .textStart
  | .textEnd => .textEnd
  | .wordBoundary => .word .boundary m.unicode
  | .notWordBoundary => .word .notBoundary m.unicode
  | .wordStart => .word .start m.unicode
  | .wordEnd => .word .finish m.unicode
  | .wordStartHalf => .word .startHalf m.unicode
  | .wordEndHalf => .word .finishHalf m.unicode

mutual

/-- The form of a tree under some flags, and the flags after it. -/
def formOf (m : Mode) : Tree → Option (Form × Mode)
  | .empty => some (.empty, m)
  | .flags changes => some (.empty, m.change changes)
  | .literal l => (literalForm m l).map (·, m)
  | .dot => (dotForm m).map (·, m)
  | .assertion a => some (.look (assertionLook m a), m)
  | .shorthand negated kind =>
    (shorthandSet m negated kind).map fun s => (Form.ofSet s !m.unicode, m)
  | .property negated query => (propertySet m negated query).map fun s => (Form.ofSet s false, m)
  | .bracketed negated inner => do
    let s ← bracketSet m inner
    let s ← finishSet m negated (CodeSet.ofRanges s)
    return (Form.ofSet s !m.unicode, m)
  | .repetition min max greedy sub => do
    let (f, m) ← formOf m sub
    return (Form.ofRepetition min max (greedy != m.swapGreed) f, m)
  | .group kind sub => do
    match kind with
    | .plain changes =>
      let (f, _) ← formOf (m.change changes) sub
      return (f, m)
    | .capturing index name =>
      let (f, _) ← formOf m sub
      return (.capture index name f, m)
  | .concat items => do
    let (fs, m) ← formsOf m items
    return (Form.ofItems fs, m)
  | .alternation branches => do
    let (fs, m) ← formsOf m branches
    return (Form.ofBranches fs, m)

/-- The forms of some trees, each under the flags after the one before. -/
def formsOf (m : Mode) : List Tree → Option (List Form × Mode)
  | [] => some ([], m)
  | t :: later => do
    let (f, m) ← formOf m t
    let (fs, m) ← formsOf m later
    return (f :: fs, m)

end

/-- The form of a pattern; `none` if the pattern is not well formed or would take too much memory. -/
def Form.parse? (pattern : List Char) : Option Form := do
  let t ← Tree.parse? pattern
  let (f, _) ← formOf Mode.standard t
  if f.memory ≤ Form.memoryLimit then some f else none

end Annotator.Pattern

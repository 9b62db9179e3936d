import Annotator.Text.Fold
import Annotator.Unicode.ByteRanges

/-!
# Pattern forms

Patterns with all flags and names resolved, in a simplified form. The functions that build a form
simplify it: what is written in pieces becomes one literal, a choice between single characters becomes
a set, branches that begin alike share what they begin with. Which of several matches a pattern
prefers, and which groups it has, is that of the simplified form. So is the memory that a pattern takes:
one that takes too much cannot be searched for.
-/

namespace Annotator.Pattern

open Unicode (ByteRanges CodeSet)

/-- A place in a word, or none. -/
inductive WordPlace where
  | boundary
  | notBoundary
  | start
  | finish
  | startHalf
  | finishHalf
  deriving Repr, DecidableEq

/-- A condition on a place between two characters, with its flags resolved. -/
inductive Look where
  | textStart
  | textEnd
  | lineStart (crlf : Bool)
  | lineEnd (crlf : Bool)
  | word (place : WordPlace) (unicode : Bool)
  deriving Repr, DecidableEq

/-- A simplified pattern. -/
inductive Form where
  | empty
  | literal (text : List Char)
  /-- One character of a set; `ascii` tells that the set was written without Unicode. -/
  | chars (set : CodeSet) (ascii : Bool)
  | look (l : Look)
  | repetition (min : Nat) (max : Option Nat) (greedy : Bool) (sub : Form)
  | capture (index : Nat) (name : Option String) (sub : Form)
  | concat (items : List Form)
  | alternation (branches : List Form)
  deriving Repr, BEq, Inhabited

/-- The set of the spellings of a character. -/
def spellingsOf (c : Char) : CodeSet :=
  CodeSet.ofAscending (Text.codesFoldingTo (Text.foldCode c.toNat))

namespace Form

/-- The form that matches nothing. -/
def fail : Form := chars [] true

/-! ## Lengths -/

mutual

/-- The least length of a match; `none` if there is no match or the length is unknown. -/
def minLength : Form → Option Nat
  | empty => some 0
  | literal t => some t.length
  | chars s _ => if s.isEmpty then none else some 1
  | look _ => some 0
  | repetition min _ _ sub => sub.minLength.map (· * min)
  | capture _ _ sub => sub.minLength
  | concat items => sumMin items
  | alternation branches => leastMin branches

/-- The sum of the least lengths. -/
def sumMin : List Form → Option Nat
  | [] => some 0
  | f :: later => do return (← f.minLength) + (← sumMin later)

/-- The least of the least lengths, if all are known. -/
def leastMin : List Form → Option Nat
  | [] => none
  | [f] => f.minLength
  | f :: later => do return Nat.min (← f.minLength) (← leastMin later)

end

mutual

/-- The greatest length of a match; `none` if there is no match or no bound. -/
def maxLength : Form → Option Nat
  | empty => some 0
  | literal t => some t.length
  | chars s _ => if s.isEmpty then none else some 1
  | look _ => some 0
  | repetition _ max _ sub => do return (← sub.maxLength) * (← max)
  | capture _ _ sub => sub.maxLength
  | concat items => sumMax items
  | alternation branches => greatestMax branches

/-- The sum of the greatest lengths. -/
def sumMax : List Form → Option Nat
  | [] => some 0
  | f :: later => do return (← f.maxLength) + (← sumMax later)

/-- The greatest of the greatest lengths, if all are known. -/
def greatestMax : List Form → Option Nat
  | [] => none
  | [f] => f.maxLength
  | f :: later => do return Nat.max (← f.maxLength) (← greatestMax later)

end

/-! ## Building -/

/-- One character of a set. -/
def ofSet (s : CodeSet) (ascii : Bool) : Form :=
  if s.isEmpty then fail
  else match s.single? with
    | some c => literal [Char.ofNat c]
    | none => chars s ascii

/-- One character, or any of its spellings if case does not count. -/
def ofChar (ignoreCase : Bool) (c : Char) : Form :=
  if ignoreCase then ofSet (spellingsOf c) false else literal [c]

/-- A repetition. What only matches the empty text need not be repeated more than once. -/
def ofRepetition (min : Nat) (max : Option Nat) (greedy : Bool) (sub : Form) : Form :=
  let (min, max) :=
    if sub.maxLength = some 0 then (Nat.min min 1, some ((max.map (Nat.min · 1)).getD 1))
    else (min, max)
  if max = some 0 then empty
  else if min = 1 ∧ max = some 1 then sub
  else repetition min max greedy sub

/-- The items of a concatenation, or the form itself as the only one. -/
def items : Form → List Form
  | empty => []
  | concat fs => fs
  | f => [f]

/-- Joins neighbouring literals. -/
def joinLiterals : List Form → List Form
  | [] => []
  | f :: later =>
    match f, joinLiterals later with
    | literal a, literal b :: rest => literal (a ++ b) :: rest
    | f, rest => f :: rest

/-- Forms one after another. -/
def ofItems (fs : List Form) : Form :=
  match joinLiterals (fs.flatMap items) with
  | [] => empty
  | [f] => f
  | fs => concat fs

/-- The branches of an alternation, or the form itself as the only one. -/
def branches : Form → List Form
  | alternation fs => fs
  | f => [f]

/-- The set of a form that is one character. -/
def set? : Form → Option CodeSet
  | literal [c] => some [(c.toNat, c.toNat)]
  | chars s _ => some s
  | _ => none

/-- The items of a concatenation. -/
def concat? : Form → Option (List Form)
  | concat fs => some fs
  | _ => none

/-- A choice between branches, as one set if every branch is one character. -/
def choice (fs : List Form) : Form :=
  match fs with
  | [] => fail
  | [f] => f
  | fs =>
    match fs.mapM set? with
    | some sets => ofSet (CodeSet.ofRanges sets.flatten) false
    | none => alternation fs

/-- A choice between branches. Branches that are concatenations and all begin alike are split into
what they begin with and a choice between the rests. -/
def ofBranches (fs : List Form) : Form :=
  let fs := fs.flatMap branches
  match fs.mapM concat? with
  | some (first :: second :: others) =>
    let n := (second :: others).foldl (fun n c => Nat.min n (commonLength first c)) first.length
    if n = 0 then choice fs
    else
      let rests := (first :: second :: others).map fun c => ofItems (c.drop n)
      ofItems (first.take n ++ [choice (rests.flatMap branches)])
  | _ => choice fs

/-! ## Groups -/

mutual

/-- The numbers and names of the groups, in order. -/
def groups : Form → List (Nat × Option String)
  | capture index name sub => (index, name) :: sub.groups
  | repetition _ _ _ sub => sub.groups
  | concat items => groupsOf items
  | alternation branches => groupsOf branches
  | _ => []

/-- The numbers and names of the groups of some forms. -/
def groupsOf : List Form → List (Nat × Option String)
  | [] => []
  | f :: later => f.groups ++ groupsOf later

end

/-- The number of the last group that is left. -/
def groupCount (f : Form) : Nat := f.groups.foldl (fun n g => Nat.max n g.1) 0

/-- The names of groups with their numbers. -/
def groupNames (f : Form) : List (String × Nat) :=
  f.groups.filterMap fun g => g.2.map fun name => (name, g.1)

/-! ## Memory -/

/-- The memory that a pattern may take. -/
def memoryLimit : Nat := 10 * Nat.pow 2 20

/-- The memory that a set takes, by estimate: a state with its ranges for ASCII characters, and else a
state for every range of bytes. -/
def setMemory (s : CodeSet) : Nat :=
  if List.all s (·.2 < 128) then 64 + 8 * s.length
  else
    let sequences := ByteRanges.ofSet s
    64 + 32 * ByteRanges.rangeCount [] sequences + 4 * sequences.length

/-- Any character but a line feed. -/
example : setMemory (CodeSet.complement [(10, 10)]) = 1000 := by decide

mutual

/-- The memory that a form takes once every repetition is written out, by estimate. -/
def memory : Form → Nat
  | empty => 0
  | literal t => t.foldl (fun n c => n + 32 * c.utf8Size) 0
  | chars s _ => setMemory s
  | look _ => 32
  | repetition min none _ sub => Nat.max min 1 * sub.memory + 40
  | repetition min (some max) _ sub => max * sub.memory + 40 * (max - min) + 32
  | capture _ _ sub => sub.memory + 64
  | concat items => memoryOf items
  | alternation branches => memoryOf branches + 4 * branches.length + 64

/-- The memory that some forms take. -/
def memoryOf : List Form → Nat
  | [] => 0
  | f :: later => f.memory + memoryOf later

end

/-- Whether forms one after another can be searched for: they take no more memory than they may. -/
def areSearchable (fs : List Form) : Bool := fs.foldl (fun n f => n + f.memory) 0 ≤ memoryLimit

end Form

end Annotator.Pattern

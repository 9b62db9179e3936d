import Annotator.Pattern.Program
import Annotator.Scan
import Annotator.Text.Word
import Annotator.Unicode.Lookup

/-!
# Running pattern programs

All ways through a program are followed at once, one character of the text after another, in the
order in which the program prefers them. In one place of the text each step is followed only for the
most preferred way that reaches it. The match that is found starts as far left as possible, and is the
preferred one of those that start there.
-/

namespace Annotator.Pattern

/-- Whether a neighbour is a character of a word. -/
def isWordAt (unicode : Bool) (c : Option Char) : Bool :=
  c.any fun c => if unicode && c.toNat > 127 then Unicode.wordChars.contains c.toNat
    else Text.isWord c

/-- Whether a condition holds between two neighbours. -/
def Look.holds (l : Look) (prev next : Option Char) : Bool :=
  match l with
  | textStart => prev.isNone
  | textEnd => next.isNone
  | lineStart false => prev.isNone || prev == some '\n'
  | lineStart true =>
    prev.isNone || prev == some '\n' || (prev == some '\r' && next != some '\n')
  | lineEnd false => next.isNone || next == some '\n'
  | lineEnd true =>
    next.isNone || next == some '\r' || (next == some '\n' && prev != some '\r')
  | word place unicode =>
    let was := isWordAt unicode prev
    let is := isWordAt unicode next
    match place with
    | .boundary => was != is
    | .notBoundary => was == is
    | .start => !was && is
    | .finish => was && !is
    | .startHalf => !was
    | .finishHalf => !is

/-- A way through a program: the step it has come to, and the places it noted. -/
structure Thread where
  step : Nat
  places : Array (Option Nat)

/-- The threads in one place, the preferred ones first, and the steps that have been reached. -/
structure Front where
  threads : Array Thread
  reached : Array Bool

namespace Program

/-- No threads. -/
def noThreads (p : Program) : Front := ⟨#[], Array.replicate p.steps.size false⟩

/-- Follows the steps that pass over no character, from those on the stack, the preferred ones first.
`place` is the place in the text and `prev` and `next` are its neighbours; `fuel` bounds the number of
steps. -/
def follow (p : Program) (place : Nat) (prev next : Option Char) :
    Nat → List Thread → Front → Front
  | 0, _, front => front
  | _, [], front => front
  | fuel + 1, t :: stack, front =>
    if front.reached.getD t.step true then follow p place prev next fuel stack front
    else
      let front := { front with reached := front.reached.setIfInBounds t.step true }
      match p.steps.getD t.step .done with
      | .choose targets =>
        follow p place prev next fuel (targets.map (fun n => { t with step := n }) ++ stack) front
      | .mark slot n =>
        let t := { t with step := n, places := t.places.setIfInBounds slot (some place) }
        follow p place prev next fuel (t :: stack) front
      | .test l n =>
        if l.holds prev next then
          follow p place prev next fuel ({ t with step := n } :: stack) front
        else follow p place prev next fuel stack front
      | _ => follow p place prev next fuel stack { front with threads := front.threads.push t }

/-- Adds the ways that go on from a thread. -/
def reach (p : Program) (bound place : Nat) (prev next : Option Char) (front : Front) (t : Thread) :
    Front :=
  p.follow place prev next bound [t] front

/-- The places of the match that a thread has completed, if it has. -/
def completed? (p : Program) (t : Thread) : Option (Array (Option Nat)) :=
  match p.steps.getD t.step .done with
  | .done => some t.places
  | _ => none

/-- The step that a thread goes on with after passing over a character, if it can. -/
def pass? (p : Program) (c : Char) (t : Thread) : Option Thread :=
  match p.steps.getD t.step .done with
  | .char d n => if c == d then some { t with step := n } else none
  | .oneOf s n => if s.contains c.toNat then some { t with step := n } else none
  | _ => none

/-- The threads that are preferred to the first one that completes a match, and that match. -/
def cutAtMatch (p : Program) : List Thread → List Thread × Option (Array (Option Nat))
  | [] => ([], none)
  | t :: later =>
    match p.completed? t with
    | some places => ([], some places)
    | none =>
      let (kept, found) := cutAtMatch p later
      (t :: kept, found)

/-- Goes on through the text with the threads of a place and the best match so far. As long as there is
none a match may start at every place. -/
def run (p : Program) (bound : Nat) (place : Nat) (prev : Option Char)
    (front : Front) (best : Option (Array (Option Nat))) (text : List Char) :
    Option (Array (Option Nat)) :=
  let front :=
    if best.isSome then front
    else p.reach bound place prev text.head? front ⟨p.first, Array.replicate p.slots none⟩
  let (threads, found) := p.cutAtMatch front.threads.toList
  let best := found.or best
  match text with
  | [] => best
  | c :: later =>
    if threads.isEmpty && best.isSome then best
    else
      let front := (threads.filterMap (p.pass? c)).foldl
        (p.reach bound (place + 1) (some c) later.head?) p.noThreads
      run p bound (place + 1) (some c) front best later

/-- The part of a text between two noted places. -/
def slice (text : List Char) (first last : Option Nat) : Option (List Char) := do
  let a ← first
  let b ← last
  return (text.drop a).take (b - a)

/-- The texts of the groups of a match, from the first group on. -/
def groupTexts (p : Program) (text : List Char) (places : Array (Option Nat)) :
    List (Option (List Char)) :=
  (List.range (p.slots / 2 - 1)).map fun i =>
    slice text (places.getD (2 * i + 2) none) (places.getD (2 * i + 3) none)

/-- The search for what a program matches. -/
def search (p : Program) : Search := fun prev text => do
  let places ← p.run (p.successors + 1) 0 prev p.noThreads none text
  let first ← places.getD 0 none
  let last ← places.getD 1 none
  return ⟨first, last - first, p.groupTexts text places⟩

end Program

end Annotator.Pattern

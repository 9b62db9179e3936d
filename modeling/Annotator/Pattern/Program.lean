import Annotator.Pattern.Form

/-!
# Pattern programs

A form as a program of small steps. A step that has several successors names the preferred one first;
a repetition of something that can be empty enters its first round by a step of its own, so that an
empty round is preferred no more than it should be.
-/

namespace Annotator.Pattern

open Unicode (CodeSet)

/-- One step of a program; steps are named by their places in the program. -/
inductive Step where
  /-- Passes over one given character. -/
  | char (c : Char) (next : Nat)
  /-- Passes over one character of a set. -/
  | oneOf (set : CodeSet) (next : Nat)
  /-- Goes on at any of some steps. -/
  | choose (targets : List Nat)
  /-- Notes the place in the text. -/
  | mark (slot next : Nat)
  /-- Goes on if a condition on the place holds. -/
  | test (l : Look) (next : Nat)
  /-- A match is complete. -/
  | done
  deriving Repr, Inhabited

/-- A program: its steps, the first one, and the number of slots for places. -/
structure Program where
  steps : Array Step
  first : Nat
  slots : Nat
  deriving Repr, Inhabited

namespace Program

/-- Adds a step; gives its place and the steps. -/
def push (s : Step) (steps : Array Step) : Nat × Array Step := (steps.size, steps.push s)

/-- The step that chooses between going on inside and going on behind, the preferred one first. -/
def choice (greedy : Bool) (inside behind : Nat) : Step :=
  .choose (if greedy then [inside, behind] else [behind, inside])

/-- Puts characters in front of a step. -/
def pushText (text : List Char) (next : Nat) (steps : Array Step) : Nat × Array Step :=
  text.foldr (fun c (n, steps) => push (.char c n) steps) (next, steps)

/-- Does something `n` times over. -/
def times {α : Type} (n : Nat) (f : α → α) (x : α) : α :=
  match n with
  | 0 => x
  | n + 1 => times n f (f x)

mutual

/-- Puts a form in front of the step `next`; gives the place of its first step, and the steps. -/
def pushForm (next : Nat) (steps : Array Step) : Form → Nat × Array Step
  | .empty => (next, steps)
  | .literal t => pushText t next steps
  | .chars s _ => push (.oneOf s next) steps
  | .look l => push (.test l next) steps
  | .capture index _ sub =>
    let (n, steps) := push (.mark (2 * index + 1) next) steps
    let (n, steps) := pushForm n steps sub
    push (.mark (2 * index) n) steps
  | .concat items => pushItems next steps items
  | .alternation branches =>
    let (targets, steps) := pushBranches next steps branches
    push (.choose targets) steps
  | .repetition min max greedy sub =>
    let before (state : Nat × Array Step) : Nat × Array Step := pushForm state.1 state.2 sub
    match max with
    | some max =>
      let optional (state : Nat × Array Step) : Nat × Array Step :=
        let (n, steps) := before state
        push (choice greedy n next) steps
      times min before (times (max - min) optional (next, steps))
    | none =>
      let (loop, steps) := push .done steps
      let (inside, steps) := before (loop, steps)
      let steps := steps.setIfInBounds loop (choice greedy inside next)
      if min = 0 then
        if sub.minLength.any (· > 0) then (loop, steps)
        else push (choice greedy inside next) steps
      else times (min - 1) before (inside, steps)

/-- Puts forms one after another in front of a step. -/
def pushItems (next : Nat) (steps : Array Step) : List Form → Nat × Array Step
  | [] => (next, steps)
  | f :: later =>
    let (n, steps) := pushItems next steps later
    pushForm n steps f

/-- Puts each of some forms in front of a step; gives the places of their first steps. -/
def pushBranches (next : Nat) (steps : Array Step) : List Form → List Nat × Array Step
  | [] => ([], steps)
  | f :: later =>
    let (n, steps) := pushForm next steps f
    let (targets, steps) := pushBranches next steps later
    (n :: targets, steps)

end

/-- The program of a form. -/
def ofForm (f : Form) : Program :=
  let (n, steps) := push .done #[]
  let (n, steps) := push (.mark 1 n) steps
  let (n, steps) := pushForm n steps f
  let (n, steps) := push (.mark 0 n) steps
  ⟨steps, n, 2 * f.groupCount + 2⟩

/-- The number of successors of all steps, a bound on how often a step can be reached in one place. -/
def successors (p : Program) : Nat :=
  p.steps.foldl (fun n s =>
    match s with
    | .choose targets => n + targets.length
    | _ => n + 1) 0

end Program

end Annotator.Pattern

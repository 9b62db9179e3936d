import Annotator.Text.Digit

/-!
# Arguments of the command line

What the arguments of a run ask for. Options stand before the task or after it; an option for the whole
program may stand on both sides, and then the later one counts, but no option is given twice on one
side.

Arguments are read from left to right, and the first that asks for help, for the version, or for
something that there is not decides the run. The value of an option that is an argument of its own is
taken in only when the next option comes, or at the end of its side.
-/

namespace Annotator.CommandLine

/-- What a run does. -/
inductive Task where
  | highlight
  | prettify
  | extract
  | css
  | groups
  | validate
  deriving Repr, DecidableEq

/-- An option. -/
inductive Switch where
  | grammar
  | input
  | css
  | maxLineLength
  | help
  | version
  deriving Repr, DecidableEq

namespace Task

/-- All tasks. -/
def all : List Task := [highlight, prettify, extract, css, groups, validate]

/-- The word for a task. -/
def name : Task → String
  | highlight => "highlight"
  | prettify => "prettify"
  | extract => "extract"
  | css => "css"
  | groups => "groups"
  | validate => "validate"

/-- The task with a name. -/
def ofName? (word : String) : Option Task := all.find? fun t => t.name == word

end Task

namespace Switch

/-- The long name of an option. -/
def name : Switch → String
  | grammar => "grammar"
  | input => "input"
  | css => "css"
  | maxLineLength => "max-line-length"
  | help => "help"
  | version => "version"

/-- The letter of an option. -/
def letter? : Switch → Option Char
  | grammar => some 'g'
  | input => some 'i'
  | help => some 'h'
  | version => some 'V'
  | css | maxLineLength => none

/-- Whether an option has a value. -/
def takesValue : Switch → Bool
  | grammar | input | maxLineLength => true
  | css | help | version => false

/-- The options before the task, or after a task. -/
def allowed : Option Task → List Switch
  | none => [grammar, input, help, version]
  | some .highlight => [css, grammar, input, help]
  | some .prettify => [maxLineLength, grammar, input, help]
  | some _ => [grammar, input, help]

end Switch

/-- The options that have been taken in. -/
structure Given where
  grammar : Option String
  input : Option String
  maxLineLength : Option Nat
  css : Bool
  deriving Repr, DecidableEq

/-- A run that has been asked for. -/
structure Invocation where
  task : Task
  given : Given
  deriving Repr, DecidableEq

/-- Why arguments ask for no run. -/
inductive Stop where
  /-- They ask for help, perhaps on a task. -/
  | help (topic : Option Task)
  | version
  | misuse
  deriving Repr, DecidableEq

namespace Given

/-- No options. -/
def nothing : Given := ⟨none, none, none, false⟩

/-- The options with another one that has a value. -/
def put (g : Given) (s : Switch) (value : String) : Except Stop Given :=
  match s with
  | .grammar =>
    if g.grammar.isSome || value == "" then .error .misuse else .ok { g with grammar := some value }
  | .input =>
    if g.input.isSome || value == "" then .error .misuse else .ok { g with input := some value }
  | .maxLineLength =>
    match g.maxLineLength, Text.size? value.toList with
    | none, some n => .ok { g with maxLineLength := some n }
    | _, _ => .error .misuse
  | .css | .help | .version => .error .misuse

end Given

/-- How far one side of the arguments has been read: the options that have been taken in, and the last
option with what is known of its value, if it has not been taken in. -/
structure Progress where
  given : Given
  pending : Option (Switch × Option String)

namespace Progress

/-- Nothing has been read. -/
def start : Progress := ⟨.nothing, none⟩

/-- The options when the last one has been taken in. -/
def settle (p : Progress) : Except Stop Given :=
  match p.pending with
  | none => .ok p.given
  | some (s, some value) => p.given.put s value
  | some (_, none) => .error .misuse

/-- Takes an option in with a value that is part of the same argument. -/
def attach (p : Progress) (s : Switch) (value : String) : Except Stop Progress := do
  return ⟨← (← p.settle).put s value, none⟩

/-- Leaves an option to wait for its value. -/
def await (p : Progress) (s : Switch) : Except Stop Progress := do
  return ⟨← p.settle, some (s, none)⟩

/-- Takes an option in that has no value. -/
def raise (side : Option Task) (p : Progress) (s : Switch) : Except Stop Progress := do
  let g ← p.settle
  match s with
  | .help => throw (.help side)
  | .version => throw .version
  | .css => if g.css then throw .misuse else return ⟨{ g with css := true }, none⟩
  | .grammar | .input | .maxLineLength => throw .misuse

end Progress

/-- Reads the letters of an argument after its hyphen. What follows the letter of an option with a
value is that value, without the equals sign in front if there is one. -/
def readLetters (side : Option Task) (p : Progress) : List Char → Except Stop Progress
  | [] => .ok p
  | c :: later => do
    match (Switch.allowed side).find? fun s => s.letter? == some c with
    | none => throw .misuse
    | some s =>
      if s.takesValue then
        match later with
        | [] => p.await s
        | '=' :: value => p.attach s (String.ofList value)
        | value => p.attach s (String.ofList value)
      else readLetters side (← p.raise side s) later

/-- Reads an argument after its two hyphens. -/
def readLong (side : Option Task) (p : Progress) (text : List Char) : Except Stop Progress :=
  let name := String.ofList (text.takeWhile (· != '='))
  match (Switch.allowed side).find? fun s => s.name == name with
  | none => .error .misuse
  | some s =>
    match text.dropWhile (· != '='), s.takesValue with
    | [], true => p.await s
    | [], false => p.raise side s
    | _ :: value, true => p.attach s (String.ofList value)
    | _ :: _, false => .error .misuse

/-- What the arguments after the word `help` ask for. -/
def helpTopic : List String → Stop
  | [] => .help none
  | [word] =>
    match Task.ofName? word with
    | some t => .help (some t)
    | none => if word == "help" then .help none else .misuse
  | _ => .misuse

/-- Reads one side of the arguments. Before the task, gives the task and the arguments after it, if
there is one. -/
def readSide (side : Option Task) (p : Progress) :
    List String → Except Stop (Progress × Option (Task × List String))
  | [] => .ok (p, none)
  | arg :: later =>
    match p.pending, arg.toList with
    | some (_, none), '-' :: _ :: _ => .error .misuse
    | some (s, none), _ => readSide side ⟨p.given, some (s, some arg)⟩ later
    | _, ['-', '-'] => if later = [] then .ok (p, none) else .error .misuse
    | _, '-' :: '-' :: text => do readSide side (← readLong side p text) later
    | _, '-' :: c :: letters => do readSide side (← readLetters side p (c :: letters)) later
    | _, _ =>
      if side.isSome then .error .misuse
      else
        match Task.ofName? arg with
        | some t => .ok (p, some (t, later))
        | none => .error (if arg == "help" then helpTopic later else .misuse)

/-- The run that arguments ask for. -/
def Invocation.ofArguments (arguments : List String) : Except Stop Invocation := do
  match ← readSide none .start arguments with
  | (_, none) => throw .misuse
  | (before, some (task, later)) =>
    let (after, _) ← readSide (some task) .start later
    let inner ← after.settle
    let outer ← before.settle
    return ⟨task, { inner with
      grammar := inner.grammar.or outer.grammar
      input := inner.input.or outer.input }⟩

end Annotator.CommandLine

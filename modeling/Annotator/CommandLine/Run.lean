import Annotator.CommandLine.Help
import Annotator.CommandLine.Host
import Annotator.Highlighter
import Annotator.Identifiers
import Annotator.Loading
import Annotator.Spacing

/-!
# Runs of the command line

What a run does on a host: it reads the settings, the grammar and, for some tasks, a text, and then
writes. A run that fails has written nothing and ends with code 1; arguments that ask for nothing end
it with code 2.
-/

namespace Annotator

/-- The settings of a host. They are the default ones if there is no settings file or it cannot be
read. -/
def Settings.load {m : Type → Type} [Monad m] (h : CommandLine.Host m) : m Settings :=
  match Settings.path? h.environment with
  | none => pure .default
  | some path => do
    match ← h.readFile path with
    | none => pure .default
    | some contents => pure (.ofContents contents.toList)

namespace CommandLine

variable {m : Type → Type} [Monad m]

/-- The text of a file, or the error that it cannot be read. -/
def readFile (h : Host m) (path : String) : ExceptT Error m String := do
  match ← h.readFile path with
  | some text => return text
  | none => throw .io

/-- The text that a run works on: that of a file, or the one that is given to the run. -/
def readText (h : Host m) : Option String → ExceptT Error m String
  | some path => readFile h path
  | none => do
    match ← h.readInput with
    | some text => return text
    | none => throw .io

/-- Whether a file is written in TOML, which its extension tells. -/
def isToml (path : String) : Bool := (Path.extension? path).any fun e => e.toLower == "toml"

/-- The grammar in a file. -/
def readGrammar (h : Host m) (path : String) : ExceptT Error m Grammar := do
  let text ← readFile h path
  MonadExcept.ofExcept (if isToml path then Grammar.ofTomlText text else Grammar.ofJsonText text)

/-- What there is in a grammar, in one line. -/
def summary (path : String) (g : Grammar) : String :=
  path ++ ": version " ++ g.version ++ ", " ++ toString g.rules.length ++ " rules, " ++
    toString g.types.length ++ " types, " ++ toString g.tokens.length ++ " keywords\n"

/-- Does what a run was asked for. -/
def perform (h : Host m) (i : Invocation) : ExceptT Error m Unit := do
  let settings ← ExceptT.lift (Settings.load h)
  let some path := i.given.grammar.or settings.grammar | throw (.malformed .noGrammar)
  let grammar ← readGrammar h path
  let vocabulary := Vocabulary.ofGrammar grammar
  match i.task with
  | .highlight =>
    let text ← readText h i.given.input
    let highlighter ← MonadExcept.ofExcept (Highlighter.ofVocabulary vocabulary)
    if i.given.css || settings.generateCss then
      h.write ("<style>\n" ++ vocabulary.css ++ "</style>\n")
    h.write (String.ofList (highlighter.highlight text.toList) ++ "\n")
  | .prettify =>
    let text ← readText h i.given.input
    let length := i.given.maxLineLength.getD settings.maxLineLength
    let spacing ← MonadExcept.ofExcept (Spacing.ofVocabulary vocabulary length)
    h.write (String.ofList (spacing.prettify text.toList) ++ "\n")
  | .extract =>
    let text ← readText h i.given.input
    (Identifiers.extract vocabulary text.toList).forM fun name => h.write (name ++ "\n")
  | .css => h.write vocabulary.css
  | .groups => h.write (String.ofList vocabulary.groupsJson.pretty ++ "\n")
  | .validate => h.write (summary path grammar)

/-- Runs the program with some arguments and gives the code that it ends with. -/
def run (h : Host m) (arguments : List String) : m UInt32 := do
  match Invocation.ofArguments arguments with
  | .error (.help topic) =>
    h.write (helpText topic)
    return 0
  | .error .version =>
    h.write versionLine
    return 0
  | .error .misuse =>
    h.report (usageText none)
    return 2
  | .ok i =>
    match ← (perform h i).run with
    | .ok () => return 0
    | .error e =>
      h.report ("Error: " ++ e.withCause (h.cause e) ++ "\n")
      return 1

end CommandLine

end Annotator

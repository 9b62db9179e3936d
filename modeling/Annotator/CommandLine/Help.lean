import Annotator.CommandLine.Arguments

/-!
# Help texts

What the command line says about itself.
-/

namespace Annotator.CommandLine

/-- The name of the program. -/
def programName : String := "rcse"

/-- The line that tells the version. -/
def versionLine : String := programName ++ " 0.1.0\n"

/-- What a task does. -/
def Task.about : Task → String
  | highlight => "Print the text as span markup"
  | prettify => "Print the text with operators re-spaced"
  | extract => "Print the bare identifiers of the text, one per line"
  | css => "Print the generated stylesheet"
  | groups => "Print keyword groups as JSON"
  | validate => "Validate the grammar document"

/-- What an option does. -/
def Switch.about : Switch → String
  | grammar => "Grammar document (.json or .toml); defaults to the settings file entry"
  | input => "Read text from this file instead of stdin"
  | css => "Prepend the generated stylesheet in a <style> block"
  | maxLineLength => ""
  | help => "Print help"
  | version => "Print version"

/-- How an option is written. -/
def Switch.usage (s : Switch) : String :=
  let short := match s.letter? with
    | some c => "-" ++ String.singleton c ++ ", "
    | none => "    "
  let value := match s with
    | grammar => " <GRAMMAR>"
    | input => " <INPUT>"
    | maxLineLength => " <MAX_LINE_LENGTH>"
    | _ => ""
  short ++ "--" ++ s.name ++ value

/-- Rows of two columns, the second of which is aligned. -/
def columns (rows : List (String × String)) : String :=
  let width := rows.foldl (fun w r => max w r.1.length) 0
  String.join <| rows.map fun (left, right) =>
    "  " ++ left ++
      (if right == "" then "" else "".pushn ' ' (width - left.length + 2) ++ right) ++ "\n"

/-- The options on one side of the arguments. -/
def optionsText (side : Option Task) : String :=
  "Options:\n" ++ columns ((Switch.allowed side).map fun s => (s.usage, s.about))

/-- How the program, or one of its tasks, is called. -/
def usageText : Option Task → String
  | none => "Usage: " ++ programName ++ " [OPTIONS] <COMMAND>\n"
  | some t => "Usage: " ++ programName ++ " " ++ t.name ++ " [OPTIONS]\n"

/-- The help on the program, or on one of its tasks. -/
def helpText : Option Task → String
  | none =>
    "Configuration-driven syntax annotation\n\n" ++ usageText none ++ "\nCommands:\n" ++
      columns (Task.all.map (fun t => (t.name, t.about)) ++
        [("help", "Print this message or the help of the given subcommand(s)")]) ++
      "\n" ++ optionsText none
  | some t => t.about ++ "\n\n" ++ usageText (some t) ++ "\n" ++ optionsText (some t)

end Annotator.CommandLine

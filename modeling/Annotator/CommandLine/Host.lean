import Annotator.Error
import Annotator.Settings

/-!
# Hosts

What a run needs of the world around it, and a world that is only recorded. A run is written for any
host, so that the order in which it reads and writes can be seen.
-/

namespace Annotator.CommandLine

/-- What a run needs of the world around it. -/
structure Host (m : Type → Type) where
  /-- The variables of the environment. -/
  environment : String → Option String
  /-- The text of a file; `none` if it cannot be read or is no text. -/
  readFile : String → m (Option String)
  /-- The text that is given to the run; `none` if it cannot be read or is no text. -/
  readInput : m (Option String)
  /-- What is said about the cause of an error by whoever came upon it. -/
  cause : Error → String
  /-- Adds to what the run puts out. -/
  write : String → m Unit
  /-- Tells the user what went wrong. -/
  report : String → m Unit

/-- A world that stands still. A run comes upon no more than one error in it, so what is said about the
cause is given by the error. -/
structure World where
  environment : String → Option String
  file? : String → Option String
  input? : Option String
  cause : Error → String := fun _ => ""

/-- What a run has written and reported, piece by piece. -/
structure Transcript where
  written : List String
  reported : List String
  deriving Repr, DecidableEq

namespace Transcript

/-- Nothing has been written or reported. -/
def empty : Transcript := ⟨[], []⟩

/-- All that was written. -/
def output (t : Transcript) : String := String.join t.written

/-- All that was reported. -/
def reports (t : Transcript) : String := String.join t.reported

end Transcript

namespace World

/-- The host that reads from a world and records what is written. -/
def host (w : World) : Host (StateM Transcript) where
  environment := w.environment
  readFile path := pure (w.file? path)
  readInput := pure w.input?
  cause := w.cause
  write text := modify fun t => { t with written := t.written ++ [text] }
  report text := modify fun t => { t with reported := t.reported ++ [text] }

/-- Reading a file records nothing. -/
theorem run_readFile (w : World) (path : String) (t : Transcript) :
    (w.host.readFile path).run t = (w.file? path, t) := rfl

/-- Reading the text that is given to the run records nothing. -/
theorem run_readInput (w : World) (t : Transcript) : w.host.readInput.run t = (w.input?, t) := rfl

/-- What is written comes after what was written before. -/
theorem run_write (w : World) (text : String) (t : Transcript) :
    (w.host.write text).run t = ((), { t with written := t.written ++ [text] }) := rfl

/-- What is reported comes after what was reported before, and is not written. -/
theorem run_report (w : World) (text : String) (t : Transcript) :
    (w.host.report text).run t = ((), { t with reported := t.reported ++ [text] }) := rfl

end World

end Annotator.CommandLine

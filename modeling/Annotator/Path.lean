/-!
# Paths

Paths of files as texts whose parts are separated by slashes.
-/

namespace Annotator.Path

/-- The path of a file in a directory; the directory may end in a slash, or be empty. -/
def inDirectory (directory file : String) : String :=
  if directory == "" || directory.endsWith "/" then directory ++ file else directory ++ "/" ++ file

/-- The parts of a path between slashes. -/
def parts : List Char → List (List Char)
  | [] => [[]]
  | c :: later =>
    if c == '/' then [] :: parts later
    else match parts later with
      | [] => [[c]]
      | first :: others => (c :: first) :: others

/-- The last part of a path, without regard to parts that stand for the same directory. -/
def fileName? (path : String) : Option (List Char) :=
  ((parts path.toList).filter fun p => p != [] && p != ['.']).getLast?

/-- What follows the last point of the name of a file, if the name has one that does not begin it. -/
def extension? (path : String) : Option String := do
  let name ← fileName? path
  if name = ['.', '.'] then none
  else
    match name.reverse.dropWhile (· != '.') with
    | [] => none
    | [_] => none
    | _ => some (String.ofList (name.reverse.takeWhile (· != '.')).reverse)

end Annotator.Path

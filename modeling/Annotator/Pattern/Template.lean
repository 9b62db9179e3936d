import Annotator.Text.Digit
import Annotator.Text.Word

/-!
# Replacement templates

A template says what is put in place of a match. In the form in which it is written, `$&` is the whole
match, `$1` to `$99` and `$<name>` are groups and `$$` is a dollar; a dollar that does not begin such a
reference stands for itself, as does one before a group that there is not. In the resolved form
every reference is in braces and every other dollar is doubled. That form belongs to a language of
its own, in which a name may also stand without braces, and a name that is a number is that of the
group with this number.
-/

namespace Annotator.Pattern

/-- The groups of a pattern: how many there are, and the names with their numbers. -/
structure Groups where
  count : Nat
  names : List (String × Nat)
  deriving Repr, DecidableEq

namespace Template

/-- The value of a digit. -/
def digit? (c : Char) : Option Nat := if c.isDigit then some (c.toNat - 48) else none

/-- A reference in braces. -/
def braced (name : List Char) : List Char := '$' :: '{' :: name ++ ['}']

/-- A reference to a group by its number. -/
def numbered (n : Nat) : List Char := braced (Nat.toDigits 10 n)

/-- Whether there is a group with a number. -/
def Groups.has (g : Groups) (n : Nat) : Bool := 1 ≤ n && n ≤ g.count

/-- The reference that begins after a dollar, if there is one: its resolved form, and how many
characters after the dollar it takes. -/
def reference? (g : Groups) : List Char → Option (List Char × Nat)
  | [] => none
  | '$' :: _ => some (['$', '$'], 1)
  | '&' :: _ => some (numbered 0, 1)
  | '<' :: later =>
    if g.names.isEmpty then none
    else
      let name := later.takeWhile (· != '>')
      if name.length = later.length then none
      else if g.names.any (·.1.toList == name) then some (braced name, name.length + 2)
      else some ([], name.length + 2)
  | c :: later =>
    match digit? c with
    | none => none
    | some a =>
      let two := (later.head?.bind digit?).map (10 * a + ·)
      match two.filter (Groups.has g) with
      | some n => some (numbered n, 2)
      | none => if Groups.has g a then some (numbered a, 1) else none

/-- The resolved form of a template whose first `skip` characters have been dealt with. -/
def resolveFrom (g : Groups) : Nat → List Char → List Char
  | _, [] => []
  | skip + 1, _ :: later => resolveFrom g skip later
  | 0, c :: later =>
    if c == '$' then
      match reference? g later with
      | some (resolved, n) => resolved ++ resolveFrom g n later
      | none => '$' :: '$' :: resolveFrom g 0 later
    else c :: resolveFrom g 0 later

/-- The resolved form of a template. -/
def resolve (g : Groups) (template : List Char) : List Char := resolveFrom g 0 template

/-- The text of a group of a match; nothing if it took no part or does not exist. -/
def groupText (matched : List Char) (groups : List (Option (List Char))) (n : Nat) : List Char :=
  match n with
  | 0 => matched
  | n + 1 => (groups.getD n none).getD []

/-- The name that follows a dollar of a resolved template, if there is one, and how many characters it
takes: all up to a closing brace, or the word characters that come next. -/
def name? : List Char → Option (List Char × Nat)
  | '{' :: later =>
    let name := later.takeWhile (· != '}')
    if name.length = later.length then none else some (name, name.length + 2)
  | later =>
    let name := later.takeWhile Text.isWord
    if name = [] then none else some (name, name.length)

/-- The number that a name refers to: a size is a number, and every other name is that of a group. -/
def refersTo (g : Groups) (name : List Char) : Option Nat :=
  (Text.size? name).or (g.names.lookup (String.ofList name))

/-- What a resolved template, whose first `skip` characters have been dealt with, stands for. -/
def expandFrom (g : Groups) (matched : List Char) (groups : List (Option (List Char))) :
    Nat → List Char → List Char
  | _, [] => []
  | skip + 1, _ :: later => expandFrom g matched groups skip later
  | 0, c :: later =>
    if c == '$' then
      if later.head? == some '$' then '$' :: expandFrom g matched groups 1 later
      else
        match name? later with
        | some (name, n) =>
          ((refersTo g name).map (groupText matched groups)).getD [] ++
            expandFrom g matched groups n later
        | none => '$' :: expandFrom g matched groups 0 later
    else c :: expandFrom g matched groups 0 later

/-- What a resolved template stands for, given a match and the texts of its groups. -/
def expand (g : Groups) (template matched : List Char) (groups : List (Option (List Char))) :
    List Char :=
  expandFrom g matched groups 0 template

end Template

end Annotator.Pattern

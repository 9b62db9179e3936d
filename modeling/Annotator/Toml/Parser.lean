import Annotator.Toml.Number
import Annotator.Toml.Table

/-!
# Reading TOML documents

What a TOML document says, and its JSON value. Arrays and tables that are written as values may be
nested 79 deep.
-/

namespace Annotator.Toml

/-- The value of the number, date or time at the front of a text and what follows it. -/
def scalarFront? (text : List Char) : Option (Item × List Char) :=
  match Moment.front? .plain text with
  | some (m, rest) => some (.value m.toJson, rest)
  | none => (numberFront? text).map fun (v, rest) => (.value v, rest)

mutual

/-- The value at the front of a text and what follows it, for arrays and tables nested at most `depth`
deep. `fuel` bounds the number of steps. -/
def valueFront? : (fuel depth : Nat) → List Char → Option (Item × List Char)
  | 0, _, _ => none
  | fuel + 1, depth, text =>
    match text with
    | 't' :: 'r' :: 'u' :: 'e' :: later => some (.value (.bool true), later)
    | 'f' :: 'a' :: 'l' :: 's' :: 'e' :: later => some (.value (.bool false), later)
    | '[' :: later =>
      match depth with
      | 0 => none
      | depth + 1 => itemsFront? fuel depth [] later
    | '{' :: later =>
      match depth with
      | 0 => none
      | depth + 1 =>
        match skipBlanks later with
        | '}' :: rest => some (.table .whole [], rest)
        | rest => fieldsFront? fuel depth [] rest
    | c :: later =>
      if c == '"' || c == '\'' then do
        let (s, rest) ← stringFront? (c :: later)
        return (.value (.string s), rest)
      else scalarFront? (c :: later)
    | [] => none

/-- The rest of an array, of which `done` has been read, in reverse. Its items may be on several
lines, and a comma may follow the last. -/
def itemsFront? : (fuel depth : Nat) → List Item → List Char → Option (Item × List Char)
  | 0, _, _, _ => none
  | fuel + 1, depth, done, text =>
    match skipLines false text with
    | ']' :: later => some (.array done.reverse, later)
    | rest => do
      let (v, rest) ← valueFront? fuel depth rest
      match skipLines false rest with
      | ',' :: later => itemsFront? fuel depth (v :: done) later
      | ']' :: later => some (.array (v :: done).reverse, later)
      | _ => none

/-- The rest of a table, of which `done` has been read, in reverse. It is on one line, and no comma
follows its last field. -/
def fieldsFront? : (fuel depth : Nat) → List (Key × Item) → List Char → Option (Item × List Char)
  | 0, _, _, _ => none
  | fuel + 1, depth, done, text => do
    let (key, rest) ← keyFront? text
    match rest with
    | '=' :: later =>
      let (v, rest) ← valueFront? fuel depth (skipBlanks later)
      match skipBlanks rest with
      | ',' :: later => fieldsFront? fuel depth ((key, v) :: done) later
      | '}' :: later => (wholeTable? ((key, v) :: done).reverse).map (·, later)
      | _ => none
    | _ => none

end

/-- How deep arrays and tables that are written as values may be nested. -/
def maxDepth : Nat := 79

/-- The statement at the front of a text of at most `size` characters and what follows its line. -/
def statementFront? (size : Nat) (text : List Char) : Option (Statement × List Char) :=
  match text with
  | '[' :: '[' :: later => do
    let (key, rest) ← keyFront? later
    match rest with
    | ']' :: ']' :: rest => (lineEnd? rest).map (.row key, ·)
    | _ => none
  | '[' :: later => do
    let (key, rest) ← keyFront? later
    match rest with
    | ']' :: rest => (lineEnd? rest).map (.table key, ·)
    | _ => none
  | text => do
    let (key, rest) ← keyFront? text
    match rest with
    | '=' :: later =>
      let (v, rest) ← valueFront? (2 * size + 2) maxDepth (skipBlanks later)
      (lineEnd? rest).map (.assign key v, ·)
    | _ => none

/-- The statements of a text of at most `size` characters, after those in `done`, which are in
reverse. -/
def statementsFrom? (size : Nat) (done : List Statement) (text : List Char) :
    Option (List Statement) :=
  match skipLines false text, size with
  | [], _ => some done.reverse
  | _, 0 => none
  | rest, size + 1 => do
    let (s, rest) ← statementFront? (size + 1) rest
    statementsFrom? size (s :: done) rest

/-- A text without the mark at its front that tells the order of bytes. -/
def dropByteOrderMark : List Char → List Char
  | '\ufeff' :: later => later
  | text => text

/-- The JSON value of a TOML document; `none` if the text is not one. -/
def parse? (text : List Char) : Option Json := do
  let text := dropByteOrderMark text
  let entries ← Statement.entries? (← statementsFrom? text.length [] text)
  tableJson? entries (fieldsJson? entries)

end Annotator.Toml

import Annotator.Index
import Annotator.Json.Basic
import Annotator.Toml.Moment
import Annotator.Toml.Text

/-!
# Tables of TOML documents

What the statements of a document build. A statement adds to what is there and never changes it: a
value is given once, a header opens a table once, and a table that a header opened is not extended by
the keys of another table.

A date or time has a JSON value of its own: an object with its text in a field of a name that is kept
for it. A table whose first entry has this name is taken for a date or time too, and its other entries
do not count.
-/

namespace Annotator.Toml

/-- Where a table comes from. -/
inductive Origin where
  /-- A header opens it. -/
  | header
  /-- It is on the way to a table that a header opens. -/
  | between
  /-- It is on the way to a value. -/
  | dotted
  /-- It is written as one value. -/
  | whole
  deriving Repr, DecidableEq

/-- What a name stands for. -/
inductive Item where
  /-- A value that holds no others, or a date or time. -/
  | value (v : Json)
  | array (items : List Item)
  | table (origin : Origin) (entries : List (String × Item))
  /-- Tables that headers open one after the other, the last of them first. -/
  | rows (last : List (String × Item)) (earlier : List (List (String × Item)))

/-- The names of a table and what they stand for. -/
abbrev Entries := List (String × Item)

namespace Entries

/-- The entries with an item in place of the one of the same name, or at the end. -/
def put (name : String) (item : Item) (entries : Entries) : Entries :=
  Index.putEntry name item entries

/-- The item that was put is found under its name. -/
theorem lookup_put_self (name : String) (item : Item) (entries : Entries) :
    (put name item entries).lookup name = some item :=
  Index.get?_put_self ⟨entries⟩ name item

/-- What is found under other names stays as it was. -/
theorem lookup_put_of_ne {name other : String} (h : other ≠ name) (item : Item)
    (entries : Entries) : (put name item entries).lookup other = entries.lookup other :=
  Index.get?_put_of_ne ⟨entries⟩ item h

/-- The entries in which the table at a path is changed. Tables that are missing on the way come into
being; of rows the last counts. -/
def within (change : Entries → Option Entries) : List String → Entries → Option Entries
  | [], entries => change entries
  | name :: path, entries => do
    match entries.lookup name with
    | none => return put name (.table .between (← within change path [])) entries
    | some (.value _) | some (.array _) | some (.table .whole _) => none
    | some (.table origin inner) =>
      return put name (.table origin (← within change path inner)) entries
    | some (.rows last earlier) =>
      return put name (.rows (← within change path last) earlier) entries

/-- The entries with the table of a name opened by a header. It comes last, wherever it was before. -/
def openTable (name : String) (entries : Entries) : Option Entries :=
  let others := entries.filter (·.1 != name)
  match entries.lookup name with
  | none => some (others ++ [(name, .table .header [])])
  | some (.table .between inner) => some (others ++ [(name, .table .header inner)])
  | some _ => none

/-- The entries with another row of a name opened by a header. -/
def openRow (name : String) (entries : Entries) : Option Entries :=
  match entries.lookup name with
  | none => some (put name (.rows [] []) entries)
  | some (.rows last earlier) => some (put name (.rows [] (last :: earlier)) entries)
  | some _ => none

/-- The entries with a value for a key. The tables on the way are those that earlier keys made, and new
ones. The value itself is never put into a table that is only there for a header. -/
def assign (value : Item) : Key → Entries → Option Entries
  | [], _ => none
  | [name], entries =>
    if (entries.lookup name).isNone then some (put name value entries) else none
  | name :: key, entries => do
    match entries.lookup name with
    | none => return put name (.table .dotted (← assign value key [])) entries
    | some (.table .dotted inner) =>
      return put name (.table .dotted (← assign value key inner)) entries
    | some (.table .between inner) =>
      if key.length = 1 then none
      return put name (.table .between (← assign value key inner)) entries
    | some (.rows last earlier) =>
      if key.length = 1 then none
      return put name (.rows (← assign value key last) earlier) entries
    | some (.table .header _) | some (.table .whole _) | some (.array _) | some (.value _) => none

end Entries

/-! ## JSON values -/

/-- The name of the field that holds the text of a date or time. -/
def momentField : String := "$__toml_private_datetime"

/-- The JSON value of a date or time. -/
def Moment.toJson (m : Moment) : Json :=
  .object [(momentField, .string (String.ofList m.text))]

/-- The JSON value of the date or time that an item gives the text of. -/
def Item.moment? : Item → Option Json
  | .value (.string s) => (Moment.ofString? s).map Moment.toJson
  | _ => none

/-- The JSON value of a table, given its entries and the JSON fields that they make up. -/
def tableJson? (entries : Entries) (fields : Option (List (String × Json))) : Option Json :=
  match entries with
  | (name, item) :: _ => if name == momentField then item.moment? else fields.map .ofFields
  | [] => fields.map .ofFields

mutual

/-- The JSON value of an item, unless a date or time in it is none. -/
def Item.toJson? : Item → Option Json
  | .value v => some v
  | .array items => (itemsJson? items).map .array
  | .table _ entries => tableJson? entries (fieldsJson? entries)
  | .rows last earlier => do
    let v ← tableJson? last (fieldsJson? last)
    (rowsJson? [v] earlier).map .array

/-- The JSON values of items. -/
def itemsJson? : List Item → Option (List Json)
  | [] => some []
  | item :: later => do return (← item.toJson?) :: (← itemsJson? later)

/-- The JSON fields of entries. -/
def fieldsJson? : List (String × Item) → Option (List (String × Json))
  | [] => some []
  | (name, item) :: later => do return (name, ← item.toJson?) :: (← fieldsJson? later)

/-- The JSON objects of rows, in front of those that come after them. -/
def rowsJson? (later : List Json) : List (List (String × Item)) → Option (List Json)
  | [] => some later
  | last :: earlier => do
    let v ← tableJson? last (fieldsJson? last)
    rowsJson? (v :: later) earlier

end

/-- A statement of a document. -/
inductive Statement where
  | assign (key : Key) (value : Item)
  | table (key : Key)
  | row (key : Key)

namespace Statement

/-- What a document has built: its entries, and the path of the table that values go to. -/
structure Progress where
  entries : Entries
  place : List String

/-- What a document has built after another statement. -/
def step (p : Progress) : Statement → Option Progress
  | assign key value => do
    return { p with entries := ← Entries.within (Entries.assign value key) p.place p.entries }
  | table key => do
    let name ← key.getLast?
    return ⟨← Entries.within (Entries.openTable name) key.dropLast p.entries, key⟩
  | row key => do
    let name ← key.getLast?
    return ⟨← Entries.within (Entries.openRow name) key.dropLast p.entries, key⟩

/-- The entries of a document with these statements; `none` if one of them changes what was there
before. -/
def entries? (statements : List Statement) : Option Entries := do
  return (← statements.foldlM step ⟨[], []⟩).entries

end Statement

/-- The table that is written as one value with these fields. -/
def wholeTable? (fields : List (Key × Item)) : Option Item := do
  return .table .whole (← Statement.entries? (fields.map fun (key, value) => .assign key value))

end Annotator.Toml

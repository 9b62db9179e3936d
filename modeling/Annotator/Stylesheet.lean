import Annotator.ClassName
import Annotator.Grammar.Basic
import Annotator.Index

/-!
# Stylesheets

The stylesheet of a grammar: a block for the class of every type, then a block for every parent of
types, which looks like the first type with that parent. No selector has two blocks; the first one
counts.
-/

namespace Annotator

/-- A block of a stylesheet. The selector is a class, without the point in front. -/
structure Block where
  selector : String
  color : String
  weight : Option FontWeight
  slant : Option String
  deriving Repr, DecidableEq

namespace Block

/-- The block for the class of a type. A weight or a slant that is not set is left out. -/
def ofType (style : TypeStyle) : Block where
  selector := ClassName.ofType style.className
  color := style.color
  weight := style.weight.filter FontWeight.isSet
  slant := style.slant.filter (· != "")

/-- The block for the parent of a type. A slant that is not set is left out. -/
def ofParent (style : TypeStyle) : Block where
  selector := ClassName.ofType (Text.lowercaseString style.parent)
  color := style.color
  weight := style.weight
  slant := style.slant.filter (· != "")

/-- A line of a block. -/
def line (property value : String) : String := "  " ++ property ++ ": " ++ value ++ ";\n"

/-- The text of a block. -/
def text (b : Block) : String :=
  "." ++ b.selector ++ " \x7b\n" ++ line "color" b.color ++
    (b.weight.elim "" fun w => line "font-weight" w.text) ++
    (b.slant.elim "" fun s => line "font-style" s) ++ "\x7d\n"

end Block

/-- Blocks whose selectors are apart. -/
abbrev Stylesheet := List Block

namespace Stylesheet

/-- Adds a block at the end unless its selector has one. -/
def add (sheet : Stylesheet) (b : Block) : Stylesheet :=
  if sheet.any fun other => other.selector == b.selector then sheet else sheet ++ [b]

/-- The first type of each parent, in the order of the parents. -/
def firstOfParents (types : List TypeStyle) : List TypeStyle :=
  (types.foldl (fun i style => i.putNew style.parent style) Index.empty).values

/-- The stylesheet of some types. -/
def ofTypes (types : List TypeStyle) : Stylesheet :=
  ((types.map Block.ofType) ++ (firstOfParents types).map Block.ofParent).foldl add []

/-- What the text of every stylesheet begins with. -/
def heading : String := "/* Auto-generated from syntax configuration */\n\n"

/-- The text of a stylesheet. -/
def text (sheet : Stylesheet) : String :=
  sheet.foldl (fun s b => s ++ b.text ++ "\n") heading

end Stylesheet

end Annotator

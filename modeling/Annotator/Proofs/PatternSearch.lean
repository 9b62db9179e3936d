import Annotator.Proofs.JoinedForms
import Annotator.Proofs.StraightPrograms

/-!
# What the pattern of a straight form finds

A form without choices, repetitions and groups comes down to items one after another, however it is
put together. Its program is the one of these items, so a pattern with such a form finds them where
they stand one behind the other.

## Key results

- `Form.byParts_lines`: putting forms together keeps the items
- `Program.ofForm_of_line`: the program of a straight form
- `Program.search_ofForm`: the search for a straight form as one from the front
- `Matcher.search_of_chars`: a pattern of one class finds the first character of the class
-/

namespace Annotator.Pattern

open Unicode (CodeSet)

/-! ### Straight forms -/

namespace Form

mutual

/-- The items of a form that is one item after another. -/
def line? : Form → Option (List Item)
  | empty => some []
  | literal t => some (t.map Item.char)
  | chars s _ => some [.oneOf s]
  | look l => some [.look l]
  | concat fs => lines? fs
  | _ => none

/-- The items of some forms one after another. -/
def lines? : List Form → Option (List Item)
  | [] => some []
  | f :: later => do return (← f.line?) ++ (← lines? later)

end

/-- The items of one form and those of others behind it, if there are both. -/
def joined (a b : Option (List Item)) : Option (List Item) := do return (← a) ++ (← b)

theorem joined_eq_some {a b : Option (List Item)} {items : List Item} :
    joined a b = some items ↔ ∃ x y, a = some x ∧ b = some y ∧ items = x ++ y := by
  simp only [joined, Option.bind_eq_bind, Option.pure_def, Option.bind_eq_some_iff,
    Option.some.injEq]
  constructor
  · rintro ⟨x, hx, y, hy, rfl⟩
    exact ⟨x, y, hx, hy, rfl⟩
  · rintro ⟨x, y, hx, hy, rfl⟩
    exact ⟨x, hx, y, hy, rfl⟩

/-- Forms one after another have the items of all of them, and neighbouring literals the same characters
as the literal that they are joined to. -/
theorem byParts_lines : ByParts joined (some []) line? lines? where
  assoc a b c := by cases a <;> cases b <;> cases c <;> simp [joined]
  zero_add a := by cases a <;> simp [joined]
  add_zero a := by cases a <;> simp [joined]
  nil := rfl
  cons _ _ := rfl
  empty := rfl
  concat _ := rfl
  literal_append _ _ := by simp [line?, joined]

theorem lines?_cons_eq_some {f : Form} {fs : List Form} {items : List Item} :
    lines? (f :: fs) = some items ↔
      ∃ a b, f.line? = some a ∧ lines? fs = some b ∧ items = a ++ b := by
  rw [byParts_lines.cons, joined_eq_some]

theorem lines?_append_eq_some {fs gs : List Form} {items : List Item} :
    lines? (fs ++ gs) = some items ↔
      ∃ a b, lines? fs = some a ∧ lines? gs = some b ∧ items = a ++ b := by
  rw [byParts_lines.append, joined_eq_some]

end Form

/-! ### Programs of straight forms -/

namespace Program

/-- Puts items in front of a step. -/
def pushLine (next : Nat) (steps : Array Step) (items : List Item) : Nat × Array Step :=
  items.foldr (fun item (n, steps) => push (item.step n) steps) (next, steps)

theorem pushLine_append (next : Nat) (steps : Array Step) (a b : List Item) :
    pushLine next steps (a ++ b) =
      pushLine (pushLine next steps b).1 (pushLine next steps b).2 a := by
  rw [pushLine, List.foldr_append]
  rfl

theorem pushText_eq (text : List Char) (next : Nat) (steps : Array Step) :
    pushText text next steps = pushLine next steps (text.map Item.char) := by
  rw [pushLine, List.foldr_map]
  rfl

theorem pushLine_eq (items : List Item) :
    pushLine 1 #[.done, .mark 1 0] items = (items.length + 1, lineSteps items) := by
  induction items with
  | nil => rfl
  | cons item items ih =>
    have hcons : pushLine 1 #[.done, .mark 1 0] (item :: items) =
        push (item.step (pushLine 1 #[.done, .mark 1 0] items).1)
          (pushLine 1 #[.done, .mark 1 0] items).2 := rfl
    rw [hcons, ih, push, size_lineSteps]
    rfl

mutual

/-- A straight form is put in front of a step as its items are. -/
theorem pushForm_of_line {f : Form} {items : List Item} (h : f.line? = some items) (next : Nat)
    (steps : Array Step) : pushForm next steps f = pushLine next steps items := by
  match f with
  | .empty => cases h; rfl
  | .literal t => cases h; exact pushText_eq t next steps
  | .chars s ascii => cases h; rfl
  | .look l => cases h; rfl
  | .concat fs => exact pushItems_of_lines h next steps
  | .repetition .. => cases h
  | .capture .. => cases h
  | .alternation _ => cases h

theorem pushItems_of_lines {fs : List Form} {items : List Item} (h : Form.lines? fs = some items)
    (next : Nat) (steps : Array Step) : pushItems next steps fs = pushLine next steps items := by
  match fs with
  | [] => cases h; rfl
  | f :: fs =>
    obtain ⟨a, b, ha, hb, rfl⟩ := Form.lines?_cons_eq_some.mp h
    rw [pushItems, pushItems_of_lines hb, pushLine_append]
    exact pushForm_of_line ha _ _

end

mutual

/-- A straight form has no groups. -/
theorem groups_of_line {f : Form} {items : List Item} (h : f.line? = some items) :
    f.groups = [] := by
  match f with
  | .empty => rfl
  | .literal t => rfl
  | .chars s ascii => rfl
  | .look l => rfl
  | .concat fs => exact groupsOf_of_lines h
  | .repetition .. => cases h
  | .capture .. => cases h
  | .alternation _ => cases h

theorem groupsOf_of_lines {fs : List Form} {items : List Item} (h : Form.lines? fs = some items) :
    Form.groupsOf fs = [] := by
  match fs with
  | [] => rfl
  | f :: fs =>
    obtain ⟨a, b, ha, hb, -⟩ := Form.lines?_cons_eq_some.mp h
    rw [Form.groupsOf, groups_of_line ha, groupsOf_of_lines hb, List.append_nil]

end

/-- The program of a straight form is that of its items. -/
theorem ofForm_of_line {f : Form} {items : List Item} (h : f.line? = some items) :
    ofForm f = ofLine items := by
  have hform : pushForm 1 #[.done, .mark 1 0] f = (items.length + 1, lineSteps items) :=
    (pushForm_of_line h 1 _).trans (pushLine_eq items)
  have hcount : f.groupCount = 0 := by rw [Form.groupCount, groups_of_line h, List.foldl_nil]
  have hstart : ofForm f =
      let (n, steps) := pushForm 1 #[.done, .mark 1 0] f
      let (n, steps) := push (.mark 0 n) steps
      ⟨steps, n, 2 * f.groupCount + 2⟩ := rfl
  rw [hstart, hform, hcount]
  simp only [push, size_lineSteps]
  rfl

/-- A straight form is found where its items are found one after another. -/
theorem search_ofForm {f : Form} {items : List Item} (h : f.line? = some items) :
    (ofForm f).search = Search.ofFront (lineFront items) := by
  rw [ofForm_of_line h, search_ofLine]

/-! ### One class -/

/-- The program of a pattern that is one class of characters. -/
def ofClass (set : CodeSet) : Program :=
  ⟨#[.done, .mark 1 0, .oneOf set 1, .mark 0 2], 3, 2⟩

/-- Finds a character of a class at the front of a text. -/
def classFront (set : CodeSet) (_ : Option Char) : List Char → Option Nat
  | [] => none
  | c :: _ => if set.contains c.toNat then some 1 else none

variable {set : CodeSet}

theorem classFront_proper : Search.Proper (classFront set) where
  pos {prev text n} h := by
    cases text with
    | nil => cases h
    | cons c text =>
      rw [classFront, Option.ite_none_right_eq_some, Option.some.injEq] at h
      omega
  le {prev text n} h := by
    cases text with
    | nil => cases h
    | cons c text =>
      rw [classFront, Option.ite_none_right_eq_some, Option.some.injEq] at h
      rw [List.length_cons]
      omega

/-- The search for the class finds its first character. -/
theorem search_ofClass (set : CodeSet) :
    (ofClass set).search = Search.ofFront (classFront set) := by
  have hfront : lineFront [.oneOf set] = classFront set := by
    funext prev text
    cases text <;> rfl
  rw [← hfront]
  exact search_ofLine [.oneOf set]

end Program

/-- A pattern whose form is a class is searched for as that class. -/
theorem Matcher.search_of_chars {pattern : String} {m : Matcher}
    (hm : ofPattern? pattern = some m) {set : Unicode.CodeSet} {ascii : Bool}
    (hform : Form.parse? pattern.toList = some (.chars set ascii)) :
    m.search = Search.ofFront (Program.classFront set) := by
  rw [ofPattern?, hform, Option.map_some, Option.some.injEq] at hm
  subst hm
  exact Program.search_ofClass set

end Annotator.Pattern

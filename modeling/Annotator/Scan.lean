/-!
# Scanning

Cutting a text at the hits of a search. A search looks for its leftmost hit in a text, knowing the
character in front of it; `Search.cut` repeats it from the end of each hit to the next, and gives
what lies between the hits, the hits, and what is left.

Whatever the search answers, nothing of the text is lost: `text_cut`.
-/

namespace Annotator

/-- The part of a text that a search found: how far it starts from the start of the text, how long
it is, and the texts of its groups, `none` for a group that took no part. -/
structure Hit where
  skipped : Nat
  length : Nat
  groups : List (Option (List Char))
  deriving Repr, DecidableEq

/-- A search for the leftmost hit in a text, given the character in front of the text. -/
abbrev Search := Option Char → List Char → Option Hit

/-- A text cut at the hits of a search. -/
inductive Cut where
  /-- No further hit. -/
  | rest (text : List Char)
  /-- The text before a hit, the hit with the texts of its groups, and what follows it. -/
  | hit (before matched : List Char) (groups : List (Option (List Char))) (after : Cut)
  deriving Repr, DecidableEq

namespace Cut

/-- The text that was cut. -/
def text : Cut → List Char
  | .rest t => t
  | .hit before matched _ after => before ++ matched ++ after.text

/-- The text with something else in place of each hit. -/
def replace (f : List Char → List (Option (List Char)) → List Char) : Cut → List Char
  | .rest t => t
  | .hit before matched groups after => before ++ f matched groups ++ after.replace f

/-- The texts between the hits; there is one more of them than there are hits. -/
def between : Cut → List (List Char)
  | .rest t => [t]
  | .hit before _ _ after => before :: after.between

/-- The hits, in order. -/
def hits : Cut → List (List Char)
  | .rest _ => []
  | .hit _ matched _ after => matched :: after.hits

@[simp] theorem text_rest (t : List Char) : (rest t).text = t := rfl

@[simp] theorem text_hit (b m : List Char) (g : List (Option (List Char))) (a : Cut) :
    (hit b m g a).text = b ++ m ++ a.text := rfl

/-- Putting every hit back in its own place gives the text. -/
theorem replace_matched (c : Cut) : c.replace (fun matched _ => matched) = c.text := by
  induction c with
  | rest t => rfl
  | hit b m g a ih => simp [replace, ih]

theorem length_between (c : Cut) : c.between.length = c.hits.length + 1 := by
  induction c with
  | rest t => rfl
  | hit b m g a ih => simp [between, hits, ih]

end Cut

namespace Search

/-- The character in front of what follows a part of a text. -/
def lastOf (prev : Option Char) (part : List Char) : Option Char :=
  part.getLast?.or prev

/-- The next hit. Where a hit has just ended (`fresh` is false) an empty hit at that very place does
not count, and the search goes on one character later. -/
def next (s : Search) (fresh : Bool) (prev : Option Char) (text : List Char) : Option Hit :=
  match s prev text with
  | none => none
  | some h =>
    if fresh || h.skipped + h.length != 0 then some h
    else match text with
      | [] => none
      | c :: later => (s (some c) later).map fun h => { h with skipped := h.skipped + 1 }

/-- The cut of a text whose front neighbour is `prev`. -/
def cutFrom (s : Search) (fresh : Bool) (prev : Option Char) (text : List Char) : Cut :=
  match s.next fresh prev text with
  | none => .rest text
  | some h =>
    let consumed := text.take (h.skipped + h.length)
    let left := text.drop (h.skipped + h.length)
    if left.length < text.length ∨ fresh = true then
      .hit (consumed.take h.skipped) (consumed.drop h.skipped) h.groups
        (s.cutFrom false (lastOf prev consumed) left)
    else .rest text
  termination_by 2 * text.length + fresh.toNat
  decreasing_by
    have : (text.drop (h.skipped + h.length)).length ≤ text.length := by simp
    rename_i progress
    rcases progress with short | rfl
    · have := Bool.toNat_le fresh
      simp only [left] at short ⊢
      simp only [Bool.toNat_false]
      omega
    · simp only [Bool.toNat_false, Bool.toNat_true]
      omega

/-- The cut of a whole text at the hits of a search. -/
def cut (s : Search) (text : List Char) : Cut :=
  s.cutFrom true none text

theorem text_cutFrom (s : Search) (fresh : Bool) (prev : Option Char) (text : List Char) :
    (s.cutFrom fresh prev text).text = text := by
  fun_induction cutFrom s fresh prev text with
  | case1 => rfl
  | case2 fresh prev text h _ consumed left _ ih =>
    simp only [Cut.text_hit, ih]
    simp [consumed, left, List.take_append_drop]
  | case3 => rfl

/-- A cut loses nothing of the text. -/
theorem text_cut (s : Search) (text : List Char) : (s.cut text).text = text :=
  text_cutFrom s true none text

/-- The leftmost place where `front` finds something at the front of the remaining text: the number
of characters before it, and the length found. -/
def leftmost (front : Option Char → List Char → Option Nat) :
    Option Char → List Char → Option (Nat × Nat)
  | prev, [] => (front prev []).map fun n => (0, n)
  | prev, c :: later =>
    match front prev (c :: later) with
    | some n => some (0, n)
    | none => (leftmost front (some c) later).map fun (k, n) => (k + 1, n)

/-- The search for what `front` finds at the front of a text, without groups. -/
def ofFront (front : Option Char → List Char → Option Nat) : Search := fun prev text =>
  (leftmost front prev text).map fun (k, n) => ⟨k, n, []⟩

end Search

end Annotator

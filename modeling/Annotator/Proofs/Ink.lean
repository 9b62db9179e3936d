import Annotator.Proofs.Respacing

/-!
# What spacing keeps

The *ink* of a text is what it shows: its characters without the blanks. Spacing changes blanks and the
case of letters, and nothing else. What the search for an operator finds has the ink of the operator up
to case, since a blank is spelled only as a blank, so the operator may be put in its place. Tidying
exchanges blanks for blanks and takes some away. This holds for all operators, the empty one and those
with blanks in them included, and for all texts.

## Key results

- `Inked.respace`: respacing keeps the ink up to case
- `ink_tidy`: tidying keeps the ink
- `inked_prettify`: so does spacing, and in what comes out blanks are regular
-/

namespace Annotator.Spacing

open Text (isBlank)

/-! ### Ink -/

/-- The characters of a text that are no blanks. -/
def ink (text : List Char) : List Char := text.filter fun c => !isBlank c

example : ink "a \t b\r\n c".toList = "abc".toList := by decide

@[simp] theorem ink_append (a b : List Char) : ink (a ++ b) = ink a ++ ink b :=
  List.filter_append a b

theorem ink_of_blanks {text : List Char} (h : ∀ c ∈ text, isBlank c = true) : ink text = [] := by
  rw [ink, List.filter_eq_nil_iff]
  intro c hc
  simp [h c hc]

/-- Texts with the same ink, character by character up to case. -/
def Inked (a b : List Char) : Prop := Spelled (ink a) (ink b)

namespace Inked

variable {a b c a' b' : List Char}

theorem of_eq (h : ink a = ink b) : Inked a b := by
  rw [Inked, h, Spelled]
  exact List.forall₂_same.mpr fun c _ => Text.foldEq_refl c

theorem trans (h : Inked a b) (h' : Inked b c) : Inked a c := Spelled.trans h h'

theorem append (h : Inked a b) (h' : Inked a' b') : Inked (a ++ a') (b ++ b') := by
  rw [Inked, ink_append, ink_append]
  exact List.rel_append h h'

/-- A spelling of a word has the ink of the word. -/
theorem of_spelled (h : Spelled a b) : Inked b a := by
  unfold Spelled at h
  induction h with
  | nil => exact .nil
  | @cons c d a b hcd _ ih =>
    -- a blank is a spelling of blanks only, so both characters are taken out or both stay
    rw [Inked, ink, ink, List.filter_cons, List.filter_cons, Text.isBlank_eq_of_foldEq hcd]
    cases isBlank d with
    | true => exact ih
    | false =>
      rw [Text.foldEq_comm] at hcd
      exact .cons hcd ih

/-- Putting something with the same ink in place of each hit keeps the ink. -/
theorem replace {f : List Char → List (Option (List Char)) → List Char} {c : Cut}
    (h : ∀ m ∈ c.hits, ∀ g, Inked m (f m g)) : Inked c.text (c.replace f) := by
  induction c with
  | rest t => exact of_eq rfl
  | hit b m g d ih =>
    obtain ⟨hm, hd⟩ := List.forall_mem_cons.mp h
    exact ((of_eq rfl).append (hm g)).append (ih hd)

/-- What the search for an operator finds has the ink of the operator. -/
theorem padded {o : String} {prev : Option Char} {text : List Char} {n : Nat}
    (h : front (keyword o) prev text = some n) : Inked (text.take n) (padded o) := by
  obtain ⟨b, m, r, rfl, hb, hspelled, -, -, rfl⟩ := exists_of_front_eq_some h
  have htake : (b ++ (m ++ r)).take (b.length + m.length + (r.takeWhile isBlank).length) =
      b ++ (m ++ r.takeWhile isBlank) := by
    rw [Nat.add_assoc, List.take_length_add_append, List.take_length_add_append,
      ← List.prefix_iff_eq_take.mp (List.takeWhile_prefix isBlank)]
  -- the blanks in front and behind have no ink, nor do the spaces that are put in their places
  have hspace : ∀ c ∈ [' '], isBlank c = true := List.forall_mem_singleton.mpr (by decide)
  have hfront : Inked b [' '] := of_eq ((ink_of_blanks hb).trans (ink_of_blanks hspace).symm)
  have hback : Inked (r.takeWhile isBlank) [' '] :=
    of_eq ((ink_of_blanks fun c hc => List.mem_takeWhile_imp hc).trans (ink_of_blanks hspace).symm)
  rw [htake]
  exact hfront.append ((of_spelled hspelled).append hback)

/-- Respacing keeps the ink up to case. -/
theorem respace (o : String) (text : List Char) : Inked text (respace text o) := by
  have h := replace (f := fun _ _ => Spacing.padded o) (c := (search o).cut text) fun m hm _ => by
    obtain ⟨p, rest, n, hn, rfl⟩ := Search.exists_of_mem_hits_cutFrom hm
    exact padded hn
  rwa [Search.text_cut] at h

/-- Respacing for all operators in turn keeps the ink up to case. -/
theorem foldl (operators : List String) (text : List Char) :
    Inked text (operators.foldl Spacing.respace text) := by
  induction operators generalizing text with
  | nil => exact of_eq rfl
  | cons o later ih => exact (respace o text).trans (ih _)

end Inked

/-! ### Tidying -/

/-- Exchanging blanks keeps the ink. -/
theorem Reblanked.ink_eq {u v : List Char} (h : Reblanked u v) : ink u = ink v := by
  induction h with
  | nil => rfl
  | char hc _ ih => simp only [ink, List.filter_cons, hc] at ih ⊢; rw [ih]
  | run _ _ hw hw' _ _ ih => rw [ink_append, ink_append, ink_of_blanks hw, ink_of_blanks hw', ih]

theorem ink_trim (text : List Char) : ink (Text.trim text) = ink text := by
  obtain ⟨p, s, h, hp, hs⟩ := exists_of_trim text
  conv => rhs; rw [h]
  rw [ink_append, ink_append, ink_of_blanks hp, ink_of_blanks hs, List.nil_append, List.append_nil]

/-- Tidying keeps the ink. -/
theorem ink_tidy (text : List Char) : ink (tidy text) = ink text := by
  obtain ⟨hbreaks, hsqueeze⟩ := reblanked_squeeze text
  rw [tidy_eq, ink_trim, ← hsqueeze.ink_eq, ← hbreaks.ink_eq]

/-! ### Spacing -/

/-- Spacing changes nothing but blanks and the case of letters, whatever the operators are: the
characters of a text that are no blanks are as many as those of the text in regular spacing, and the
same up to case one by one. And the text in regular spacing has no tab, no carriage return, no two
spaces in a row, and no blank at either end. -/
theorem inked_prettify (s : Spacing) (text : List Char) :
    List.Forall₂ (fun a b => Text.foldEq a b = true) (ink text) (ink (s.prettify text)) ∧
      '\t' ∉ s.prettify text ∧ '\r' ∉ s.prettify text ∧ ¬ [' ', ' '] <:+: s.prettify text ∧
      (∀ c ∈ (s.prettify text).head?, isBlank c = false) ∧
      ∀ c ∈ (s.prettify text).getLast?, isBlank c = false := by
  have htidy : s.prettify text = tidy (s.operators.foldl respace text) ∨
      text = [] ∧ s.prettify text = [] := by
    rw [prettify]
    split
    · rename_i h
      exact .inr ⟨h, rfl⟩
    · exact .inl rfl
  rcases htidy with h | ⟨rfl, h⟩
  · rw [h]
    have hinked : Inked text (tidy (s.operators.foldl respace text)) := by
      rw [Inked, ink_tidy]
      exact Inked.foldl s.operators text
    have hsqueezed := squeezed_tidy (s.operators.foldl respace text)
    refine ⟨hinked, hsqueezed.noTab, hsqueezed.noReturn, hsqueezed.noSpaces, ?_⟩
    rw [tidy_eq]
    exact isBlank_ends_trim _
  · rw [h]
    exact ⟨.nil, List.not_mem_nil, List.not_mem_nil, by simp, by simp, by simp⟩

end Annotator.Spacing

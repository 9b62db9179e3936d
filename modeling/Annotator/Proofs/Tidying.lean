import Mathlib.Data.List.Infix
import Mathlib.Data.List.TakeWhile
import Annotator.Spacing

/-!
# Tidying

Tidying a text unifies its line breaks, puts one space in place of every run of spaces and tabs, and
trims the result. What comes out has no tab, no carriage return and no two spaces in a row, and such a
text is only trimmed. A space more or less in a run of spaces, or at either end, makes no difference.

Both steps in front of trimming change nothing but blanks, and put blanks in place of blanks. This is
said by `Reblanked`, from which it can be read what stands next to a word before and after.

## Key results

- `tidy_eq`: tidying in two passes over the text, without cutting it into lines
- `tidy_tidy`: tidying again changes nothing
- `tidy_space`: more spaces next to a space make no difference
- `Reblanked.exists_of_append`: a word keeps its place between blanks
-/

namespace Annotator.Spacing

open Text (isBlank)

/-! ### Without lines -/

/-- The text with a line feed at the end of every line. -/
def breaks : List Char → List Char
  | [] => []
  | '\r' :: '\n' :: later => '\n' :: breaks later
  | c :: later => (if c == '\r' then '\n' else c) :: breaks later

/-- A text with one kind of line break, and one space in place of every run of spaces and tabs. -/
def squeeze (text : List Char) : List Char := collapseFrom false (breaks text)

example : squeeze "a \t b\r\n c".toList = "a b\n c".toList := by decide

theorem lines_ne_nil (text : List Char) : lines text ≠ [] := by
  unfold lines
  split
  · exact List.cons_ne_nil _ _
  · exact List.cons_ne_nil _ _
  · split
    · exact List.cons_ne_nil _ _
    · split <;> exact List.cons_ne_nil _ _

private theorem intercalate_cons_append (sep : List Char) (a b : List Char)
    (others : List (List Char)) :
    List.intercalate sep ((a ++ b) :: others) = a ++ List.intercalate sep (b :: others) := by
  cases others with
  | nil => simp
  | cons l others => simp [List.append_assoc]

/-- A line feed ends a run of spaces and tabs. -/
private theorem collapseFrom_lineFeed (was : Bool) (later : List Char) :
    collapseFrom was ('\n' :: later) = '\n' :: collapseFrom false later := by
  simp [collapseFrom]

/-- Joining collapsed lines, the first of which goes on where `was` tells of what stands before. -/
private theorem intercalate_lines (was : Bool) (text : List Char) :
    ∀ first others, lines text = first :: others →
      List.intercalate ['\n'] (collapseFrom was first :: others.map collapse) =
        collapseFrom was (breaks text) := by
  -- where a line ends, the rest of the text begins with a line of its own
  have hbreak {later : List Char}
      (ih : ∀ was first others, lines later = first :: others →
        List.intercalate ['\n'] (collapseFrom was first :: others.map collapse) =
          collapseFrom was (breaks later)) (was : Bool) :
      List.intercalate ['\n'] (collapseFrom was [] :: (lines later).map collapse) =
        collapseFrom was ('\n' :: breaks later) := by
    obtain ⟨l, ls, hl⟩ := List.exists_cons_of_ne_nil (lines_ne_nil later)
    rw [hl, List.map_cons, List.intercalate_cons_cons, collapseFrom_lineFeed, ← ih false l ls hl]
    rfl
  induction text using lines.induct generalizing was with
  | case1 =>
    intro first others h
    obtain ⟨rfl, rfl⟩ := List.cons.inj h
    rfl
  | case2 later ih =>
    intro first others h
    obtain ⟨rfl, rfl⟩ := List.cons.inj h
    exact hbreak (fun was => ih was) was
  | case3 c later hnot hc ih =>
    intro first others h
    rw [lines.eq_3 c later hnot, if_pos hc] at h
    obtain ⟨rfl, rfl⟩ := List.cons.inj h
    have hbreaks : breaks (c :: later) = '\n' :: breaks later := by
      rw [breaks.eq_3 c later hnot]
      rcases (Bool.or_eq_true _ _).mp hc with h | h
      · rw [beq_iff_eq.mp h]
        rfl
      · rw [if_pos h]
    rw [hbreaks]
    exact hbreak (fun was => ih was) was
  | case4 c later hnot hc hnil ih => exact absurd hnil (lines_ne_nil later)
  | case5 c later hnot hc l ls hl ih =>
    intro first others h
    rw [lines.eq_3 c later hnot, if_neg hc, hl] at h
    obtain ⟨rfl, rfl⟩ := List.cons.inj h
    have hbreaks : breaks (c :: later) = c :: breaks later := by
      rw [breaks.eq_3 c later hnot, if_neg]
      exact fun h => hc ((Bool.or_eq_true _ _).mpr (.inr h))
    have hcons (a : Char) (b : List Char) :
        List.intercalate ['\n'] ((a :: b) :: ls.map collapse) =
          a :: List.intercalate ['\n'] (b :: ls.map collapse) := intercalate_cons_append _ [a] b _
    rw [hbreaks, collapseFrom, collapseFrom]
    split
    · split
      · exact ih true l ls hl
      · rw [hcons, ih true l ls hl]
    · rw [hcons, ih false l ls hl]

/-- Tidying is trimming a squeezed text. -/
theorem tidy_eq (text : List Char) : tidy text = Text.trim (squeeze text) := by
  obtain ⟨first, others, h⟩ := List.exists_cons_of_ne_nil (lines_ne_nil text)
  rw [tidy, h, squeeze, ← intercalate_lines false text first others h]
  rfl

/-! ### Squeezed texts -/

/-- A text without tabs, carriage returns and two spaces in a row. -/
structure Squeezed (text : List Char) : Prop where
  noReturn : '\r' ∉ text
  noTab : '\t' ∉ text
  noSpaces : ¬ [' ', ' '] <:+: text

theorem Squeezed.of_part {a b : List Char} (h : Squeezed b) (hab : a <:+: b) : Squeezed a where
  noReturn hmem := h.noReturn (hab.subset hmem)
  noTab hmem := h.noTab (hab.subset hmem)
  noSpaces hsub := h.noSpaces (hsub.trans hab)

theorem not_mem_breaks (text : List Char) : '\r' ∉ breaks text := by
  induction text using breaks.induct with
  | case1 => exact List.not_mem_nil
  | case2 later ih => simp [breaks, ih]
  | case3 c later hnot ih =>
    rw [breaks.eq_3 c later hnot, List.mem_cons, not_or]
    refine ⟨?_, ih⟩
    split
    · decide
    · rename_i hc
      exact fun heq => hc (by simp [← heq])

theorem mem_breaks {text : List Char} {c : Char} (h : c ∈ breaks text) : c = '\n' ∨ c ∈ text := by
  induction text using breaks.induct with
  | case1 => cases h
  | case2 later ih =>
    rcases List.mem_cons.mp h with rfl | h
    · exact .inl rfl
    · exact (ih h).imp_right fun h => List.mem_cons_of_mem _ (List.mem_cons_of_mem _ h)
  | case3 d later hnot ih =>
    rw [breaks.eq_3 d later hnot] at h
    rcases List.mem_cons.mp h with rfl | h
    · split
      · exact .inl rfl
      · exact .inr List.mem_cons_self
    · exact (ih h).imp_right (List.mem_cons_of_mem d)

/-- What is collapsed has no tab, and no characters of its own but spaces. -/
theorem mem_collapseFrom {was : Bool} {text : List Char} {c : Char}
    (h : c ∈ collapseFrom was text) : c ≠ '\t' ∧ (c = ' ' ∨ c ∈ text) := by
  induction text generalizing was with
  | nil => cases h
  | cons d later ih =>
    have hlater {was : Bool} (h : c ∈ collapseFrom was later) :
        c ≠ '\t' ∧ (c = ' ' ∨ c ∈ d :: later) :=
      (ih h).imp_right (Or.imp_right (List.mem_cons_of_mem d))
    rw [collapseFrom] at h
    split at h
    · split at h
      · exact hlater h
      · rcases List.mem_cons.mp h with rfl | h
        · exact ⟨by decide, .inl rfl⟩
        · exact hlater h
    · rename_i hd
      rcases List.mem_cons.mp h with rfl | h
      · refine ⟨?_, .inr List.mem_cons_self⟩
        rintro rfl
        exact hd rfl
      · exact hlater h

/-- What is collapsed has no two spaces in a row, counting the one that `was` tells of. -/
private theorem noSpaces_collapseFrom (was : Bool) (text : List Char) :
    ¬ [' ', ' '] <:+: collapseFrom was text ∧
      (was = true → (collapseFrom was text).head? ≠ some ' ') := by
  induction text generalizing was with
  | nil => exact ⟨by simp [collapseFrom], by simp [collapseFrom]⟩
  | cons c later ih =>
    rw [collapseFrom]
    split
    · split
      · exact ⟨(ih true).1, fun _ => (ih true).2 rfl⟩
      · rename_i hwas
        refine ⟨?_, fun h => absurd h hwas⟩
        -- behind the space that is put, no space comes first
        obtain ⟨hin, hhead⟩ := ih true
        rw [List.infix_cons_iff, not_or]
        refine ⟨fun hpre => hhead rfl ?_, hin⟩
        obtain ⟨r, hr⟩ := hpre
        obtain ⟨-, hr⟩ := List.cons.inj hr
        rw [← hr]
        rfl
    · rename_i hc
      have hne : c ≠ ' ' := by
        rintro rfl
        exact hc rfl
      refine ⟨?_, fun _ heq => hne (Option.some.inj heq)⟩
      rw [List.infix_cons_iff, not_or]
      refine ⟨fun hpre => ?_, (ih false).1⟩
      obtain ⟨r, hr⟩ := hpre
      exact hne (List.cons.inj hr).1.symm

theorem squeezed_squeeze (text : List Char) : Squeezed (squeeze text) where
  noReturn h := by
    rcases (mem_collapseFrom h).2 with heq | hmem
    · exact absurd heq (by decide)
    · exact not_mem_breaks text hmem
  noTab h := (mem_collapseFrom h).1 rfl
  noSpaces := (noSpaces_collapseFrom false (breaks text)).1

private theorem breaks_of_not_mem {text : List Char} (h : '\r' ∉ text) : breaks text = text := by
  induction text with
  | nil => rfl
  | cons c later ih =>
    rw [List.mem_cons, not_or] at h
    have hnot : ∀ l, c = '\r' → later = '\n' :: l → False := fun _ hc _ => h.1 hc.symm
    have hc : ¬ (c == '\r') = true := fun hc => h.1 (beq_iff_eq.mp hc).symm
    rw [breaks.eq_3 c later hnot, if_neg hc, ih h.2]

private theorem collapseFrom_eq_self (was : Bool) {text : List Char} (htab : '\t' ∉ text)
    (hspaces : ¬ [' ', ' '] <:+: text) (hhead : was = true → text.head? ≠ some ' ') :
    collapseFrom was text = text := by
  induction text generalizing was with
  | nil => rfl
  | cons c later ih =>
    rw [List.mem_cons, not_or] at htab
    have hlater : ¬ [' ', ' '] <:+: later := fun h => hspaces (List.infix_cons h)
    rw [collapseFrom]
    by_cases hc : c = ' '
    · subst hc
      have hwas : ¬ was = true := fun h => hhead h rfl
      have hnext : later.head? ≠ some ' ' := by
        intro hnext
        obtain ⟨l, rfl⟩ : ∃ l, later = ' ' :: l := ⟨later.tail, List.eq_cons_of_mem_head? hnext⟩
        exact hspaces ⟨[], l, rfl⟩
      have hspace : (' ' == ' ' || ' ' == '\t') = true := rfl
      rw [if_pos hspace, if_neg hwas, ih true htab.2 hlater fun _ => hnext]
    · have hne : ¬ (c == ' ' || c == '\t') = true := by simp [hc, Ne.symm htab.1]
      rw [if_neg hne, ih false htab.2 hlater Bool.noConfusion]

/-- Collapsing changes nothing where there is no tab and no two spaces in a row. -/
theorem collapse_eq_self {text : List Char} (htab : '\t' ∉ text)
    (hspaces : ¬ [' ', ' '] <:+: text) : collapse text = text :=
  collapseFrom_eq_self false htab hspaces Bool.noConfusion

theorem collapse_collapse (text : List Char) : collapse (collapse text) = collapse text :=
  collapse_eq_self (fun h => (mem_collapseFrom h).1 rfl) (noSpaces_collapseFrom false text).1

/-- Squeezing a squeezed text changes nothing. -/
theorem squeeze_of_squeezed {text : List Char} (h : Squeezed text) : squeeze text = text := by
  rw [squeeze, breaks_of_not_mem h.noReturn]
  exact collapse_eq_self h.noTab h.noSpaces

/-! ### Trimming -/

/-- Trimming takes blanks away at either end. -/
theorem exists_of_trim (text : List Char) : ∃ p s, text = p ++ (Text.trim text ++ s) ∧
    (∀ c ∈ p, isBlank c = true) ∧ ∀ c ∈ s, isBlank c = true := by
  refine ⟨text.takeWhile isBlank,
    ((Text.trimLeft text).reverse.takeWhile isBlank).reverse, ?_, ?_, ?_⟩
  · have hright : Text.trim text ++ ((Text.trimLeft text).reverse.takeWhile isBlank).reverse =
        Text.trimLeft text := by
      rw [Text.trim, Text.trimRight, ← List.reverse_append, List.takeWhile_append_dropWhile,
        List.reverse_reverse]
    rw [hright, Text.trimLeft, List.takeWhile_append_dropWhile]
  · exact fun c hc => List.mem_takeWhile_imp hc
  · exact fun c hc => List.mem_takeWhile_imp (List.mem_reverse.mp hc)

theorem trim_part (text : List Char) : Text.trim text <:+: text := by
  obtain ⟨p, s, h, _, _⟩ := exists_of_trim text
  exact ⟨p, s, by rw [List.append_assoc, ← h]⟩

/-- Blanks in front of a text are trimmed. -/
theorem trim_append_left {p : List Char} (hp : ∀ c ∈ p, isBlank c = true) (text : List Char) :
    Text.trim (p ++ text) = Text.trim text := by
  rw [Text.trim, Text.trimLeft, List.dropWhile_append_of_pos hp, Text.trim, Text.trimLeft]

/-- Blanks at the end of a text are trimmed. -/
theorem trim_append_right {s : List Char} (hs : ∀ c ∈ s, isBlank c = true) (text : List Char) :
    Text.trim (text ++ s) = Text.trim text := by
  have hnil : s.dropWhile isBlank = [] := List.dropWhile_eq_nil_iff.mpr hs
  have hright (t : List Char) : Text.trimRight (t ++ s) = Text.trimRight t := by
    have hrev : ∀ c ∈ s.reverse, isBlank c = true := fun c hc => hs c (List.mem_reverse.mp hc)
    rw [Text.trimRight, List.reverse_append, List.dropWhile_append_of_pos hrev, Text.trimRight]
  rw [Text.trim, Text.trim, Text.trimLeft, List.dropWhile_append, Text.trimLeft]
  split
  · rename_i hempty
    rw [hnil, List.isEmpty_iff.mp hempty]
  · exact hright _

/-- Trimming again changes nothing. -/
theorem trim_trim (text : List Char) : Text.trim (Text.trim text) = Text.trim text := by
  obtain ⟨p, s, h, hp, hs⟩ := exists_of_trim text
  calc Text.trim (Text.trim text)
      = Text.trim (Text.trim text ++ s) := (trim_append_right hs _).symm
    _ = Text.trim (p ++ (Text.trim text ++ s)) := (trim_append_left hp _).symm
    _ = Text.trim text := by rw [← h]

/-- A trimmed text has no blank at either end. -/
theorem isBlank_ends_trim (text : List Char) :
    (∀ c ∈ (Text.trim text).head?, isBlank c = false) ∧
      ∀ c ∈ (Text.trim text).getLast?, isBlank c = false := by
  have hhead {t : List Char} : ∀ c ∈ (t.dropWhile isBlank).head?, isBlank c = false := by
    intro c hc
    have := List.head?_dropWhile_not isBlank t
    rw [hc] at this
    exact this
  refine ⟨fun c hc => ?_, fun c hc => ?_⟩
  · -- trimming at the end leaves a beginning of the text
    obtain ⟨s, hs⟩ := Text.trimRight_prefix (Text.trimLeft text)
    refine hhead (t := text) c ?_
    rw [← Text.trimLeft, ← hs]
    exact List.mem_head?_append_of_mem_head? hc
  · rw [Text.trim, Text.trimRight, List.getLast?_reverse] at hc
    exact hhead c hc

/-- What comes out of tidying is squeezed. -/
theorem squeezed_tidy (text : List Char) : Squeezed (tidy text) := by
  rw [tidy_eq]
  exact (squeezed_squeeze text).of_part (trim_part _)

/-- Tidying again changes nothing. -/
theorem tidy_tidy (text : List Char) : tidy (tidy text) = tidy text := by
  rw [tidy_eq (tidy text), squeeze_of_squeezed (squeezed_tidy text), tidy_eq, trim_trim]

/-! ### Spaces that make no difference -/

theorem breaks_space (a b : List Char) : breaks (a ++ ' ' :: b) = breaks a ++ ' ' :: breaks b := by
  induction a using breaks.induct with
  | case1 =>
    rw [List.nil_append, breaks.eq_3 ' ' b fun _ h _ => absurd h (by decide)]
    rfl
  | case2 later ih => simp [breaks, ih]
  | case3 c later hnot ih =>
    have hnot' : ∀ l, c = '\r' → later ++ ' ' :: b = '\n' :: l → False := by
      intro l hc hl
      cases later with
      | nil => exact absurd (List.cons.inj hl).1 (by decide)
      | cons d later =>
        obtain ⟨rfl, -⟩ := List.cons.inj hl
        exact hnot later hc rfl
    rw [List.cons_append, breaks.eq_3 c _ hnot', breaks.eq_3 c _ hnot, ih, List.cons_append]

private theorem collapseFrom_spaces (was : Bool) (a b : List Char) :
    collapseFrom was (a ++ ' ' :: ' ' :: b) = collapseFrom was (a ++ ' ' :: b) := by
  induction a generalizing was with
  | nil =>
    have hspace : (' ' == ' ' || ' ' == '\t') = true := rfl
    simp only [List.nil_append, collapseFrom, hspace, if_true]
  | cons c a ih => simp only [List.cons_append, collapseFrom, ih]

/-- A space at the end stays, or goes with the run that it belongs to. -/
private theorem collapseFrom_concat_space (was : Bool) (a : List Char) :
    ∃ s, (s = [] ∨ s = [' ']) ∧ collapseFrom was (a ++ [' ']) = collapseFrom was a ++ s := by
  induction a generalizing was with
  | nil =>
    cases was with
    | true => exact ⟨[], .inl rfl, rfl⟩
    | false => exact ⟨[' '], .inr rfl, rfl⟩
  | cons c a ih =>
    rw [List.cons_append, collapseFrom, collapseFrom]
    split
    · obtain ⟨s, hs, heq⟩ := ih true
      rw [heq]
      split
      · exact ⟨s, hs, rfl⟩
      · exact ⟨s, hs, rfl⟩
    · obtain ⟨s, hs, heq⟩ := ih false
      exact ⟨s, hs, by rw [heq, List.cons_append]⟩

/-- A run that is under way makes a difference only to a space in front. -/
private theorem trimLeft_collapseFrom (was : Bool) (text : List Char) :
    Text.trimLeft (collapseFrom was text) = Text.trimLeft (collapseFrom true text) := by
  cases text with
  | nil => rfl
  | cons c later =>
    rw [collapseFrom, collapseFrom]
    split
    · rw [if_pos rfl]
      split
      · rfl
      · rw [Text.trimLeft, List.dropWhile_cons_of_pos (by decide), Text.trimLeft]
    · rfl

private theorem tidy_cons_space (b : List Char) : tidy (' ' :: b) = tidy b := by
  have hbreaks : breaks (' ' :: b) = ' ' :: breaks b := breaks_space [] b
  have hspace : (' ' == ' ' || ' ' == '\t') = true := rfl
  have hblank : ∀ c ∈ [' '], isBlank c = true := List.forall_mem_singleton.mpr (by decide)
  rw [tidy_eq, tidy_eq, squeeze, squeeze, hbreaks, collapseFrom, if_pos hspace, if_neg Bool.noConfusion]
  calc Text.trim (' ' :: collapseFrom true (breaks b))
      = Text.trim (collapseFrom true (breaks b)) := trim_append_left hblank _
    _ = Text.trim (collapseFrom false (breaks b)) := by
        rw [Text.trim, Text.trim, trimLeft_collapseFrom false]

private theorem tidy_concat_space (a : List Char) : tidy (a ++ [' ']) = tidy a := by
  obtain ⟨s, hs, heq⟩ := collapseFrom_concat_space false (breaks a)
  have hblank : ∀ c ∈ s, isBlank c = true := by
    rcases hs with rfl | rfl
    · exact fun _ h => absurd h List.not_mem_nil
    · exact List.forall_mem_singleton.mpr (by decide)
  rw [tidy_eq, tidy_eq, squeeze, squeeze, breaks_space, breaks, heq, trim_append_right hblank]

/-- A space next to another one, or at either end, makes no difference. -/
theorem tidy_space {a b : List Char}
    (h : (a = [] ∨ a.getLast? = some ' ') ∨ b = [] ∨ b.head? = some ' ') :
    tidy (a ++ ' ' :: b) = tidy (a ++ b) := by
  have hspaces (a b : List Char) : tidy (a ++ ' ' :: ' ' :: b) = tidy (a ++ ' ' :: b) := by
    have hcons (b : List Char) : breaks (' ' :: b) = ' ' :: breaks b := breaks_space [] b
    rw [tidy_eq, tidy_eq, squeeze, squeeze, breaks_space, breaks_space, hcons, collapseFrom_spaces]
  rcases h with (rfl | ha) | rfl | hb
  · exact tidy_cons_space b
  · obtain ⟨a, rfl⟩ := List.getLast?_eq_some_iff.mp ha
    rw [List.append_assoc, List.append_assoc]
    exact hspaces a b
  · rw [List.append_nil]
    exact tidy_concat_space a
  · obtain ⟨b, rfl⟩ : ∃ x, b = ' ' :: x := ⟨b.tail, List.eq_cons_of_mem_head? hb⟩
    exact hspaces a b

/-- A run of spaces counts as one. -/
theorem tidy_spaces {w : List Char} (hne : w ≠ []) (hw : ∀ c ∈ w, c = ' ') (a b : List Char) :
    tidy (a ++ (w ++ b)) = tidy (a ++ ' ' :: b) := by
  induction w with
  | nil => exact absurd rfl hne
  | cons c w ih =>
    obtain ⟨rfl, hlater⟩ := List.forall_mem_cons.mp hw
    cases w with
    | nil => rfl
    | cons d w =>
      obtain rfl := hlater d List.mem_cons_self
      rw [← ih (List.cons_ne_nil _ w) hlater]
      exact tidy_space (.inr (.inr rfl))

/-! ### Texts with other blanks -/

/-- `Reblanked u v` if `v` is `u` with other blanks in place of some runs of blanks; in place of spaces
stand spaces. -/
inductive Reblanked : List Char → List Char → Prop
  | nil : Reblanked [] []
  | char {c : Char} {u v : List Char} (hc : isBlank c = false) (later : Reblanked u v) :
      Reblanked (c :: u) (c :: v)
  | run {w w' u v : List Char} (hne : w ≠ []) (hne' : w' ≠ []) (hw : ∀ c ∈ w, isBlank c = true)
      (hw' : ∀ c ∈ w', isBlank c = true) (hspaces : (∀ c ∈ w, c = ' ') → ∀ c ∈ w', c = ' ')
      (later : Reblanked u v) : Reblanked (w ++ u) (w' ++ v)

namespace Reblanked

/-- A blank may be exchanged for a blank. -/
theorem blank {c d : Char} {u v : List Char} (hc : isBlank c = true) (hd : isBlank d = true)
    (hspace : c = ' ' → d = ' ') (later : Reblanked u v) : Reblanked (c :: u) (d :: v) := by
  have hspaces : (∀ x ∈ [c], x = ' ') → ∀ x ∈ [d], x = ' ' := by
    rw [List.forall_mem_singleton, List.forall_mem_singleton]
    exact hspace
  have hrun : Reblanked ([c] ++ u) ([d] ++ v) :=
    run (List.cons_ne_nil c []) (List.cons_ne_nil d []) (List.forall_mem_singleton.mpr hc)
      (List.forall_mem_singleton.mpr hd) hspaces later
  exact hrun

theorem append {u v u' v' : List Char} (h : Reblanked u v) (h' : Reblanked u' v') :
    Reblanked (u ++ u') (v ++ v') := by
  induction h with
  | nil => exact h'
  | char hc _ ih => exact .char hc ih
  | run hne hne' hw hw' hspaces _ ih =>
    rw [List.append_assoc, List.append_assoc]
    exact .run hne hne' hw hw' hspaces ih

theorem reverse {u v : List Char} (h : Reblanked u v) : Reblanked u.reverse v.reverse := by
  induction h with
  | nil => exact .nil
  | char hc _ ih =>
    rw [List.reverse_cons, List.reverse_cons]
    exact ih.append (.char hc .nil)
  | @run w w' u v hne hne' hw hw' hspaces _ ih =>
    rw [List.reverse_append, List.reverse_append]
    refine ih.append ?_
    have hrun : Reblanked (w.reverse ++ []) (w'.reverse ++ []) := by
      refine .run (by simpa using hne) (by simpa using hne') ?_ ?_ ?_ .nil
      · exact fun c hc => hw c (List.mem_reverse.mp hc)
      · exact fun c hc => hw' c (List.mem_reverse.mp hc)
      · exact fun h c hc => hspaces (fun d hd => h d (List.mem_reverse.mpr hd)) c
          (List.mem_reverse.mp hc)
    rwa [List.append_nil, List.append_nil] at hrun

/-- Texts begin with the same character unless they begin with blanks. -/
theorem head?_eq {u v : List Char} (h : Reblanked u v) (hv : ∀ c ∈ v.head?, isBlank c = false) :
    u.head? = v.head? := by
  cases h with
  | nil => rfl
  | char _ _ => rfl
  | @run w w' u v _ hne' _ hw' _ _ =>
    obtain ⟨c, w', rfl⟩ := List.exists_cons_of_ne_nil hne'
    have := hv c rfl
    rw [hw' c List.mem_cons_self] at this
    cases this

theorem getLast?_eq {u v : List Char} (h : Reblanked u v)
    (hv : ∀ c ∈ v.getLast?, isBlank c = false) : u.getLast? = v.getLast? := by
  rw [← List.head?_reverse] at hv
  have := h.reverse.head?_eq hv
  rwa [List.head?_reverse, List.head?_reverse] at this

/-- A character that is no blank has its place in both texts. -/
theorem exists_of_append_cons {u a r : List Char} {c : Char} (h : Reblanked u (a ++ c :: r))
    (hc : isBlank c = false) :
    ∃ a' r', u = a' ++ c :: r' ∧ Reblanked a' a ∧ Reblanked r' r := by
  generalize hv : a ++ c :: r = v at h
  -- `a` is used up part by part, until the character itself is the next part
  induction h generalizing a with
  | nil => simp at hv
  | @char d u v hd later ih =>
    cases a with
    | nil =>
      obtain ⟨rfl, rfl⟩ := List.cons.inj hv
      exact ⟨[], u, rfl, .nil, later⟩
    | cons e a =>
      obtain ⟨rfl, hv'⟩ := List.cons.inj hv
      obtain ⟨a', r', rfl, ha, hr⟩ := ih hv'
      exact ⟨e :: a', r', rfl, .char hd ha, hr⟩
  | @run w w' u v hne hne' hw hw' hspaces later ih =>
    rcases List.append_eq_append_iff.mp hv with ⟨t, rfl, ht⟩ | ⟨t, rfl, ht⟩
    · -- the character would be one of the blanks
      cases t with
      | nil =>
        obtain ⟨a', r', rfl, ha, hr⟩ := ih (a := []) ht
        have hrun := Reblanked.run hne hne' hw hw' hspaces ha
        exact ⟨w ++ a', r', by rw [List.append_assoc], by simpa using hrun, hr⟩
      | cons d t =>
        obtain ⟨rfl, -⟩ := List.cons.inj ht
        have := hw' c (List.mem_append_right a List.mem_cons_self)
        rw [hc] at this
        cases this
    · obtain ⟨a', r', rfl, ha, hr⟩ := ih ht.symm
      exact ⟨w ++ a', r', by rw [List.append_assoc], .run hne hne' hw hw' hspaces ha, hr⟩

/-- A word without blanks has its place in both texts. -/
theorem exists_of_append {u a m r : List Char} (h : Reblanked u (a ++ (m ++ r))) (hne : m ≠ [])
    (hm : ∀ c ∈ m, isBlank c = false) :
    ∃ a' r', u = a' ++ (m ++ r') ∧ Reblanked a' a ∧ Reblanked r' r := by
  induction m generalizing u a with
  | nil => exact absurd rfl hne
  | cons c m ih =>
    obtain ⟨hc, hm⟩ := List.forall_mem_cons.mp hm
    obtain ⟨a', r', rfl, ha, hr⟩ := h.exists_of_append_cons hc
    cases m with
    | nil => exact ⟨a', r', rfl, ha, hr⟩
    | cons d m =>
      -- nothing comes between two of its characters
      obtain ⟨b, s, rfl, hb, hs⟩ := ih (a := []) hr (List.cons_ne_nil d m) hm
      generalize hnil : ([] : List Char) = e at hb
      cases hb with
      | nil => exact ⟨a', s, rfl, ha, hs⟩
      | char _ _ => cases hnil
      | run _ hne' _ _ _ _ => exact absurd (List.append_eq_nil_iff.mp hnil.symm).1 hne'

end Reblanked

theorem reblanked_breaks (text : List Char) : Reblanked text (breaks text) := by
  induction text using breaks.induct with
  | case1 => exact .nil
  | case2 later ih =>
    have hspaces : (∀ c ∈ ['\r', '\n'], c = ' ') → ∀ c ∈ ['\n'], c = ' ' :=
      fun h => absurd (h '\r' List.mem_cons_self) (by decide)
    have hblank : ∀ c ∈ ['\r', '\n'], isBlank c = true := List.all_eq_true.mp (by decide)
    have hrun : Reblanked (['\r', '\n'] ++ later) (['\n'] ++ breaks later) :=
      .run (List.cons_ne_nil _ _) (List.cons_ne_nil _ _) hblank
        (List.forall_mem_singleton.mpr (by decide)) hspaces ih
    exact hrun
  | case3 c later hnot ih =>
    rw [breaks.eq_3 c later hnot]
    split
    · rename_i hc
      obtain rfl := beq_iff_eq.mp hc
      exact .blank (by decide) (by decide) (fun h => absurd h (by decide)) ih
    · cases hc : isBlank c with
      | false => exact .char hc ih
      | true => exact .blank hc hc id ih

/-- Collapsing exchanges runs of spaces and tabs for spaces. What stands in front of a run that is
under way belongs to the run. -/
private theorem reblanked_collapseFrom (text : List Char) :
    Reblanked text (collapseFrom false text) ∧ ∀ w, w ≠ [] → (∀ c ∈ w, isBlank c = true) →
      Reblanked (w ++ text) (' ' :: collapseFrom true text) := by
  have hrun {w u v : List Char} (hne : w ≠ []) (hw : ∀ c ∈ w, isBlank c = true)
      (later : Reblanked u v) : Reblanked (w ++ u) ([' '] ++ v) :=
    .run hne (List.cons_ne_nil _ _) hw (List.forall_mem_singleton.mpr (by decide))
      (fun _ => List.forall_mem_singleton.mpr rfl) later
  induction text with
  | nil => exact ⟨.nil, fun w hne hw => hrun hne hw .nil⟩
  | cons c later ih =>
    rw [collapseFrom, collapseFrom]
    split
    · rename_i hc
      have hblank : isBlank c = true := by
        rcases (Bool.or_eq_true _ _).mp hc with h | h
        · rw [beq_iff_eq.mp h]
          decide
        · rw [beq_iff_eq.mp h]
          decide
      -- a blank begins a run, or goes on with the one that is under way
      refine ⟨?_, fun w hne hw => ?_⟩
      · exact ih.2 [c] (List.cons_ne_nil c []) (List.forall_mem_singleton.mpr hblank)
      · have hmem : ∀ d ∈ w ++ [c], isBlank d = true :=
          List.forall_mem_append.mpr ⟨hw, List.forall_mem_singleton.mpr hblank⟩
        have := ih.2 (w ++ [c]) (by simp) hmem
        rwa [List.append_assoc] at this
    · have hlater : Reblanked (c :: later) (c :: collapseFrom false later) := by
        cases hc : isBlank c with
        | false => exact .char hc ih.1
        | true => exact .blank hc hc id ih.1
      exact ⟨hlater, fun w hne hw => hrun hne hw hlater⟩

theorem reblanked_collapse (text : List Char) : Reblanked text (collapse text) :=
  (reblanked_collapseFrom text).1

/-- Squeezing exchanges blanks, in two passes. -/
theorem reblanked_squeeze (text : List Char) :
    Reblanked text (breaks text) ∧ Reblanked (breaks text) (squeeze text) :=
  ⟨reblanked_breaks text, reblanked_collapse (breaks text)⟩

end Annotator.Spacing

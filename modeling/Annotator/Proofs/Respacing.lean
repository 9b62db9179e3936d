import Annotator.Proofs.Indices
import Annotator.Proofs.KeywordSearch
import Annotator.Proofs.Settled

/-!
# Respacing

Respacing settles a text for its operator and leaves it settled for all others: what stands in the
respaced text is either an operator that was put there or stood in the text before, between the same
characters or next to an operator, and words are bounded there in the same way. A word in an operator
that was put there is the operator itself, since a text that is settled for the word has spaces around
it, and no operator has a space.

In a settled text respacing changes only how many spaces there are, which tidying undoes. As tidying
keeps texts settled, doing both again changes nothing.

## Key results

- `overlap_cases`: two parts of a text lie one behind the other, or overlap in one of four ways
- `exists_of_overlap`: where the parts of a respaced text come from
- `settled_respace`: respacing settles a text for its operator, and no others are unsettled
- `tidy_respace`: respacing a settled text makes no difference to the tidied text
- `prettify_prettify`: a text in regular spacing is left as it is
-/

namespace Annotator.Spacing

open Search (lastOf)
open Text (isBlank wordBoundary)

/-! ### What the search for an operator finds -/

section Search

variable {o : String}

/-- An attempt finds the operator behind the blanks that it takes. -/
private theorem attempt_eq_some {prev : Option Char} {text : List Char} {k n : Nat}
    (h : attempt (keyword o) prev text k = some n) : ∃ m r,
      text = text.take k ++ (m ++ r) ∧ Spelled o.toList m ∧
      wordBoundary (lastOf prev (text.take k)) (m ++ r).head? = true ∧
      wordBoundary (lastOf (lastOf prev (text.take k)) m) r.head? = true ∧
      n = k + m.length + (r.takeWhile isBlank).length := by
  obtain ⟨l, hl, rfl⟩ := Option.map_eq_some_iff.mp h
  obtain ⟨hlen, m, r, htext, hspelled, hbound⟩ := Keyword.front_eq_some_iff.mp hl
  obtain ⟨hleft, hright⟩ := hbound rfl
  have hm : l = m.length := hlen.trans (Spelled.length_eq hspelled).symm
  have hdrop : text.drop (k + l) = r := by
    rw [← List.drop_drop, htext, hm, List.drop_left]
  rw [htext] at hleft
  refine ⟨m, r, ?_, hspelled, hleft, hright, ?_⟩
  · rw [← htext, List.take_append_drop]
  · rw [hdrop, hm]

/-- The search finds an operator, which may be empty, with blanks in front of it and all blanks behind
it. -/
theorem exists_of_front_eq_some {prev : Option Char} {text : List Char} {n : Nat}
    (h : front (keyword o) prev text = some n) : ∃ b m r, text = b ++ (m ++ r) ∧
      (∀ c ∈ b, isBlank c = true) ∧ Spelled o.toList m ∧
      wordBoundary (lastOf prev b) (m ++ r).head? = true ∧
      wordBoundary (lastOf (lastOf prev b) m) r.head? = true ∧
      n = b.length + m.length + (r.takeWhile isBlank).length := by
  -- which of the attempts has succeeded does not matter
  have hattempt : ∃ k ≤ (text.takeWhile isBlank).length,
      attempt (keyword o) prev text k = some n := by
    rw [front] at h
    generalize (text.takeWhile isBlank).length = k at h
    induction k with
    | zero => exact ⟨0, le_refl 0, h⟩
    | succ k ih =>
      rcases Option.or_eq_some_iff.mp h with h | ⟨_, h⟩
      · exact ⟨k + 1, le_refl _, h⟩
      · obtain ⟨j, hj, h⟩ := ih h
        exact ⟨j, Nat.le_succ_of_le hj, h⟩
  obtain ⟨k, hk, h⟩ := hattempt
  obtain ⟨m, r, htext, hspelled, hleft, hright, rfl⟩ := attempt_eq_some h
  have hlen : (text.take k).length = k := by
    have := (List.takeWhile_prefix isBlank (l := text)).length_le
    rw [List.length_take]
    omega
  refine ⟨text.take k, m, r, htext, fun c hc => ?_, hspelled, hleft, hright, by rw [hlen]⟩
  -- the attempt takes no more than the blanks in front
  have hpre : text.take k <+: text.takeWhile isBlank :=
    List.prefix_of_prefix_length_le (List.take_prefix k text) (List.takeWhile_prefix isBlank)
      (by omega)
  exact List.mem_takeWhile_imp (hpre.subset hc)

/-- The search finds an operator with all blanks around it. -/
theorem exists_of_front (ho : IsEdged o.toList) {prev : Option Char} {text : List Char} {n : Nat}
    (h : front (keyword o) prev text = some n) : ∃ b m r, text = b ++ (m ++ r) ∧
      (∀ c ∈ b, isBlank c = true) ∧ Spelled o.toList m ∧
      wordBoundary (lastOf prev b) m.head? = true ∧ wordBoundary m.getLast? r.head? = true ∧
      n = b.length + m.length + (r.takeWhile isBlank).length := by
  obtain ⟨b, m, r, htext, hb, hspelled, hleft, hright, hlen⟩ := exists_of_front_eq_some h
  have hm := hspelled.ne_nil ho.ne_nil
  refine ⟨b, m, r, htext, hb, hspelled, ?_, ?_, hlen⟩
  · rwa [List.head?_append_of_ne_nil m hm] at hleft
  · rwa [Search.lastOf_of_ne_nil hm] at hright

/-- An operator that stands behind blanks is found. -/
theorem front_ne_none (ho : IsEdged o.toList) {prev : Option Char} {b m r : List Char}
    (hb : ∀ c ∈ b, isBlank c = true) (hspelled : Spelled o.toList m)
    (hleft : wordBoundary (lastOf prev b) m.head? = true)
    (hright : wordBoundary m.getLast? r.head? = true) :
    front (keyword o) prev (b ++ (m ++ r)) ≠ none := by
  have hm := hspelled.ne_nil ho.ne_nil
  have hlen : ((b ++ (m ++ r)).takeWhile isBlank).length = b.length := by
    obtain ⟨c, m, rfl⟩ := List.exists_cons_of_ne_nil hm
    have hc := (hspelled.edged ho).head c rfl
    rw [List.takeWhile_append_of_pos hb, List.cons_append,
      List.takeWhile_cons_of_neg (by simp [hc]), List.append_nil]
  have hfront : (keyword o).front (lastOf prev b) (m ++ r) = some m.length := by
    refine Keyword.front_append_eq_some_iff.mpr ⟨hspelled, fun _ => ⟨?_, ?_⟩⟩
    · rwa [List.head?_append_of_ne_nil m hm]
    · rwa [Search.lastOf_of_ne_nil hm]
  have hattempt : attempt (keyword o) prev (b ++ (m ++ r)) b.length ≠ none := by
    rw [attempt, List.take_left, List.drop_left, hfront]
    exact Option.some_ne_none _
  rw [front, hlen]
  -- the attempt with all blanks comes first
  cases hk : b.length with
  | zero =>
    rw [hk] at hattempt
    exact hattempt
  | succ k =>
    rw [hk] at hattempt
    obtain ⟨n, hn⟩ := Option.ne_none_iff_exists'.mp hattempt
    rw [attempts, hn]
    exact Option.some_ne_none _

theorem front_proper (ho : IsEdged o.toList) : Search.Proper (front (keyword o)) where
  pos h := by
    obtain ⟨b, m, r, _, _, hspelled, _, _, rfl⟩ := exists_of_front ho h
    have := List.length_pos_iff.mpr (hspelled.ne_nil ho.ne_nil)
    omega
  le h := by
    obtain ⟨b, m, r, rfl, _, _, _, _, rfl⟩ := exists_of_front ho h
    have := (List.takeWhile_prefix isBlank (l := r)).length_le
    rw [List.length_append, List.length_append]
    omega

/-- What is known of a hit of the search: it is an operator that stands in the text with all blanks
around it, so that neither the text before it nor what follows has a blank next to it. -/
theorem exists_of_hit (ho : IsEdged o.toList) {text h : List Char}
    {g : List (Option (List Char))} {c d : Cut}
    (hc : Search.Scanned (front (keyword o)) none text (c.append (.hit [] h g d))) :
    (∃ b m b', h = b ++ (m ++ b') ∧ (∀ x ∈ b, isBlank x = true) ∧ (∀ x ∈ b', isBlank x = true) ∧
      Stands o.toList (c.text ++ b) m (b' ++ d.text)) ∧
    (∀ x, c.last.getLast? = some x → isBlank x = false) ∧
    ∀ x, d.text.head? = some x → isBlank x = false := by
  have hlast (s t : List Char) : lastOf (lastOf none s) t = (s ++ t).getLast? := by
    rw [← Search.lastOf_append, lastOf, Option.or_none]
  have hfound := hc.front_eq_some
  obtain ⟨b, m, r, htext, hb, hspelled, hleft, hright, hlen⟩ := exists_of_front ho hfound
  have hparts : h ++ d.text = b ++ (m ++ r.takeWhile isBlank) ++ r.dropWhile isBlank := by
    rw [htext, List.append_assoc, List.append_assoc, List.takeWhile_append_dropWhile]
  obtain ⟨rfl, hd⟩ := List.append_inj hparts (by simp only [List.length_append]; omega)
  refine ⟨⟨b, m, r.takeWhile isBlank, rfl, hb, fun x hx => List.mem_takeWhile_imp hx, hspelled, ?_, ?_⟩,
    fun x hx => ?_, fun x hx => ?_⟩
  · rwa [hlast] at hleft
  · rwa [hd, List.takeWhile_append_dropWhile]
  · -- a blank in front would have been found with the operator
    obtain ⟨y, hy⟩ := List.getLast?_eq_some_iff.mp hx
    obtain ⟨c', rfl, -⟩ := Cut.exists_of_last hy
    rw [Cut.append_assoc] at hc
    have hnone := hc.front_eq_none (d := .hit [] (b ++ (m ++ r.takeWhile isBlank)) g d)
      (List.cons_ne_nil x [])
    rw [Cut.text_hit, List.nil_append, htext] at hnone
    rw [Bool.eq_false_iff]
    intro hblank
    refine front_ne_none ho (b := x :: b) ?_ hspelled ?_ hright hnone
    · exact List.forall_mem_cons.mpr ⟨hblank, hb⟩
    · rw [Cut.text_append, hlast] at hleft
      rw [hlast]
      simpa using hleft
  · rw [hd] at hx
    have := List.head?_dropWhile_not isBlank r
    rw [hx] at this
    exact this

/-- Between hits the operator does not stand in the text. -/
theorem not_stands_between (ho : IsEdged o.toList) {text m : List Char} {c₁ c₂ : Cut}
    (hc : Search.Scanned (front (keyword o)) none text (c₁.append (c₂.prepend m))) :
    ¬ Stands o.toList c₁.text m c₂.text := by
  intro h
  -- it would have been found there
  have hbound : wordBoundary (lastOf (lastOf none c₁.text) []) m.head? = true := by
    rw [Search.lastOf_nil, lastOf, Option.or_none]
    exact h.left
  have hfound : front (keyword o) (lastOf none c₁.text) ([] ++ (m ++ c₂.text)) ≠ none :=
    front_ne_none ho (fun _ h => absurd h List.not_mem_nil) h.spelled hbound h.right
  exact hfound (hc.front_eq_none (h.spelled.ne_nil ho.ne_nil))

end Search

/-! ### Two parts of a text -/

/-- Two parts `t` and `m` of one text overlap, with `x` and `a` before and `y` and `r` behind them. -/
inductive Overlap {α : Type} (x t y a m r : List α) : Prop
  | inside {p q : List α} (ht : t = p ++ (m ++ q)) (ha : a = x ++ p) (hr : r = q ++ y)
  | around {p q : List α} (hm : m = p ++ (t ++ q)) (hx : x = a ++ p) (hy : y = q ++ r)
  | left {p z q : List α} (hp : p ≠ []) (hz : z ≠ []) (hq : q ≠ []) (hm : m = p ++ z)
      (ht : t = z ++ q) (hx : x = a ++ p) (hr : r = q ++ y)
  | right {p z q : List α} (hp : p ≠ []) (hz : z ≠ []) (hq : q ≠ []) (ht : t = p ++ z)
      (hm : m = z ++ q) (ha : a = x ++ p) (hy : y = q ++ r)

theorem Overlap.append_left {α : Type} {x t y a m r : List α} (h : Overlap x t y a m r) (s : List α) :
    Overlap (s ++ x) t y (s ++ a) m r := by
  cases h with
  | inside ht ha hr => exact .inside ht (by rw [ha, List.append_assoc]) hr
  | around hm hx hy => exact .around hm (by rw [hx, List.append_assoc]) hy
  | left hp hz hq hm ht hx hr => exact .left hp hz hq hm ht (by rw [hx, List.append_assoc]) hr
  | right hp hz hq ht hm ha hy => exact .right hp hz hq ht hm (by rw [ha, List.append_assoc]) hy

/-- Of two parts of a text one comes before the other, or they overlap. -/
theorem overlap_cases {α : Type} {x t y a m r : List α} (h : x ++ (t ++ y) = a ++ (m ++ r)) :
    (∃ s, x = a ++ (m ++ s) ∧ r = s ++ (t ++ y)) ∨ (∃ s, y = s ++ (m ++ r) ∧ a = x ++ (t ++ s)) ∨
      Overlap x t y a m r := by
  rcases List.append_eq_append_iff.mp h with ⟨p, rfl, h₁⟩ | ⟨p, rfl, h₁⟩
  · -- `t` begins first, or both begin together
    rcases List.append_eq_append_iff.mp h₁ with ⟨s, rfl, rfl⟩ | ⟨z, rfl, h₂⟩
    · exact .inr (.inl ⟨s, rfl, rfl⟩)
    · rcases List.append_eq_append_iff.mp h₂ with ⟨q, rfl, rfl⟩ | ⟨q, rfl, rfl⟩
      · exact .inr (.inr (.inside rfl rfl rfl))
      · by_cases hz : z = []
        · subst hz
          exact .inr (.inl ⟨[], rfl, by simp⟩)
        · by_cases hp : p = []
          · subst hp
            exact .inr (.inr (.around (p := []) rfl (by simp) rfl))
          · by_cases hq : q = []
            · subst hq
              exact .inr (.inr (.inside (q := []) (by simp) rfl rfl))
            · exact .inr (.inr (.right hp hz hq rfl rfl rfl rfl))
  · -- `m` begins first, or both begin together
    rcases List.append_eq_append_iff.mp h₁ with ⟨s, rfl, rfl⟩ | ⟨z, rfl, h₂⟩
    · exact .inl ⟨s, rfl, rfl⟩
    · rcases List.append_eq_append_iff.mp h₂ with ⟨q, rfl, rfl⟩ | ⟨q, rfl, rfl⟩
      · exact .inr (.inr (.around rfl rfl rfl))
      · by_cases hz : z = []
        · subst hz
          exact .inl ⟨[], by simp, rfl⟩
        · by_cases hp : p = []
          · subst hp
            exact .inr (.inr (.inside (p := []) rfl (by simp) rfl))
          · by_cases hq : q = []
            · subst hq
              exact .inr (.inr (.around (q := []) (by simp) rfl rfl))
            · exact .inr (.inr (.left hp hz hq rfl rfl rfl rfl))

/-! ### Words in a respaced text -/

/-- The text of a cut with an operator between spaces in place of each hit. -/
def respaced (o : String) (c : Cut) : List Char := c.replace fun _ _ => padded o

theorem respace_eq (text : List Char) (o : String) :
    respace text o = respaced o ((search o).cut text) := rfl

theorem respaced_append (o : String) (c d : Cut) :
    respaced o (c.append d) = respaced o c ++ respaced o d := Cut.replace_append _ c d

theorem respaced_rest (o : String) (t : List Char) : respaced o (.rest t) = t := rfl

theorem respaced_hit (o : String) (b h : List Char) (g : List (Option (List Char))) (d : Cut) :
    respaced o (.hit b h g d) = b ++ padded o ++ respaced o d := rfl

/-- A part of a respaced text stands between two hits, or overlaps an operator that was put there. -/
theorem exists_of_overlap {o : String} {c : Cut} {a m r : List Char} (hm : IsEdged m)
    (h : respaced o c = a ++ (m ++ r)) :
    (∃ c₁ c₂ : Cut, c = c₁.append (c₂.prepend m) ∧ a = respaced o c₁ ∧ r = respaced o c₂) ∨
    ∃ (c₁ : Cut) (hit : List Char) (g : List (Option (List Char))) (c₂ : Cut),
      c = c₁.append (.hit [] hit g c₂) ∧
      Overlap (respaced o c₁ ++ [' ']) o.toList (' ' :: respaced o c₂) a m r := by
  -- the induction is on the hits: the part comes before the first operator, in it, or behind it
  induction c generalizing a with
  | rest t =>
    obtain rfl : t = a ++ (m ++ r) := h
    exact .inl ⟨.rest a, .rest r, by simp [Cut.append, Cut.prepend], rfl, rfl⟩
  | hit b hit g d ih =>
    have hhit (b : List Char) (d : Cut) : respaced o (.hit b hit g d) =
        (b ++ [' ']) ++ (o.toList ++ ' ' :: respaced o d) := by
      rw [respaced_hit, padded]
      simp
    rw [hhit] at h
    rcases overlap_cases h with ⟨s, hx, rfl⟩ | ⟨s, hy, rfl⟩ | hover
    · -- before the operator, and before the space in front of it
      rcases List.eq_nil_or_concat s with rfl | ⟨s, c, rfl⟩
      · have hlast : m.getLast? = some ' ' := by
          rw [List.append_nil] at hx
          rw [← List.getLast?_append_of_ne_nil a hm.ne_nil, ← hx, List.getLast?_concat]
        exact absurd (hm.last ' ' hlast) (by decide)
      · rw [List.concat_eq_append, ← List.append_assoc, ← List.append_assoc] at hx
        obtain ⟨rfl, hc⟩ := List.append_inj' hx rfl
        obtain ⟨rfl, -⟩ := List.cons.inj hc
        refine .inl ⟨.rest a, .hit s hit g d, by simp [Cut.append, Cut.prepend], rfl, ?_⟩
        rw [hhit, List.concat_eq_append]
    · -- behind the operator, and behind the space there
      cases s with
      | nil =>
        have hhead : m.head? = some ' ' := by
          rw [List.nil_append] at hy
          rw [← List.head?_append_of_ne_nil m hm.ne_nil, ← hy, List.head?_cons]
        exact absurd (hm.head ' ' hhead) (by decide)
      | cons c s =>
        obtain ⟨rfl, hd⟩ := List.cons.inj hy
        rcases ih hd with ⟨c₁, c₂, rfl, rfl, rfl⟩ | ⟨c₁, hit', g', c₂, rfl, hover⟩
        · exact .inl ⟨.hit b hit g c₁, c₂, rfl, (hhit b c₁).symm, rfl⟩
        · refine .inr ⟨.hit b hit g c₁, hit', g', c₂, rfl, ?_⟩
          have := hover.append_left ((b ++ [' ']) ++ (o.toList ++ [' ']))
          simpa [hhit] using this
    · exact .inr ⟨.rest b, hit, g, d, by simp [Cut.append, Cut.prepend], hover⟩

/-- A word without spaces in a respaced text stands between two hits, or in an operator that was put
there. -/
theorem exists_of_respaced {o : String} {c : Cut} {a m r : List Char} (hedged : IsEdged m)
    (hm : ' ' ∉ m) (h : respaced o c = a ++ (m ++ r)) :
    (∃ c₁ c₂ : Cut, c = c₁.append (c₂.prepend m) ∧ a = respaced o c₁ ∧ r = respaced o c₂) ∨
    ∃ (c₁ : Cut) (hit : List Char) (g : List (Option (List Char))) (c₂ : Cut) (p q : List Char),
      c = c₁.append (.hit [] hit g c₂) ∧ o.toList = p ++ (m ++ q) ∧
      a = respaced o c₁ ++ ' ' :: p ∧ r = q ++ ' ' :: respaced o c₂ := by
  refine (exists_of_overlap hedged h).imp_right ?_
  rintro ⟨c₁, hit, g, c₂, heq, hover⟩
  -- what reaches over an end of the operator has the space there
  have hfirst {p : List Char} (hp : respaced o c₁ ++ [' '] = a ++ p) (hpm : p ⊆ m) : p = [] := by
    rcases List.eq_nil_or_concat p with rfl | ⟨p, d, rfl⟩
    · rfl
    · rw [List.concat_eq_append, ← List.append_assoc] at hp
      obtain ⟨-, hd⟩ := List.append_inj' hp rfl
      obtain ⟨rfl, -⟩ := List.cons.inj hd
      exact absurd (hpm (by simp)) hm
  have hlast {q : List Char} (hq : ' ' :: respaced o c₂ = q ++ r) (hqm : q ⊆ m) : q = [] := by
    cases q with
    | nil => rfl
    | cons d q =>
      obtain ⟨rfl, -⟩ := List.cons.inj hq
      exact absurd (hqm List.mem_cons_self) hm
  cases hover with
  | @inside p q ht ha hr =>
    exact ⟨c₁, hit, g, c₂, p, q, heq, ht, by rw [ha, List.append_assoc]; rfl, hr⟩
  | @around p q hm' hx hy =>
    obtain rfl := hfirst hx (by rw [hm']; simp)
    obtain rfl := hlast hy (by rw [hm']; simp)
    refine ⟨c₁, hit, g, c₂, [], [], heq, by simp [hm'], ?_, by simpa using hy.symm⟩
    simpa using hx.symm
  | left hp _ _ hm' _ hx _ => exact absurd (hfirst hx (by rw [hm']; simp)) hp
  | right _ _ hq _ hm' _ hy => exact absurd (hlast hy (by rw [hm']; simp)) hq

/-! ### What stands next to a word or an operator -/

section Edges

variable {o : String} {text : List Char}

/-- A space before something that is no blank. -/
theorem spaced_space_cons {d : Char} (hd : isBlank d = false) (x : List Char) :
    Spaced (' ' :: d :: x) := by
  refine .cons_space ?_
  rw [List.takeWhile_cons_of_neg (by simp [hd])]
  exact fun _ h => absurd h List.not_mem_nil

theorem padded_reverse (o : String) :
    (padded o).reverse = ' ' :: (o.toList.reverse ++ [' ']) := by
  simp [padded]

/-- On either side of an operator between spaces is one space. -/
theorem spaced_padded (ho : IsEdged o.toList) (x : List Char) :
    Spaced (padded o ++ x) ∧ Spaced ((padded o).reverse ++ x) := by
  -- the run ends with the first or the last character of the operator
  obtain ⟨d, w, hw⟩ := List.exists_cons_of_ne_nil ho.ne_nil
  obtain ⟨e, v, hv⟩ := List.exists_cons_of_ne_nil (mt List.reverse_eq_nil_iff.mp ho.ne_nil)
  have hd := ho.head d (by rw [hw]; rfl)
  have he := ho.last e (by rw [← List.head?_reverse, hv]; rfl)
  have hright : padded o ++ x = ' ' :: d :: (w ++ ' ' :: x) := by
    rw [padded, hw]
    simp
  have hleft : (padded o).reverse ++ x = ' ' :: e :: (v ++ ' ' :: x) := by
    rw [padded_reverse, hv]
    simp
  rw [hright, hleft]
  exact ⟨spaced_space_cons hd _, spaced_space_cons he _⟩

/-- What follows a word between hits is no worse in the respaced text. -/
theorem eases_right (ho : IsEdged o.toList) {c₁ c₂ : Cut} {m : List Char} (hm : m ≠ [])
    (hc : Search.Scanned (front (keyword o)) none text (c₁.append (c₂.prepend m))) :
    Eases m.getLast? c₂.text (respaced o c₂) := by
  cases c₂ with
  | rest t => exact .refl t
  | hit t h g d =>
    have hcut : c₁.append ((Cut.hit t h g d).prepend m) =
        (c₁.append (.rest (m ++ t))).append (.hit [] h g d) := by
      rw [Cut.append_assoc]
      simp [Cut.append, Cut.prepend]
    rw [hcut] at hc
    obtain ⟨⟨b, w, b', rfl, hb, _, hstands⟩, hlast, _⟩ := exists_of_hit ho hc
    cases t with
    | nil =>
      -- the operator, or a blank in front of it, bounds the word as the space does
      refine ⟨fun hbound => ?_, fun _ => (spaced_padded ho _).1⟩
      cases b with
      | nil =>
        have hw := hstands.spelled.ne_nil ho.ne_nil
        have hleft := hstands.left
        rw [List.append_nil, Cut.text_append, Cut.text_rest, List.append_nil,
          List.getLast?_append_of_ne_nil _ hm] at hleft
        rw [Cut.text_hit, List.nil_append, List.nil_append, List.append_assoc,
          List.head?_append_of_ne_nil w hw]
        exact hleft
      | cons x b =>
        have hx : ∀ e ∈ some x, isBlank e = true := fun e he =>
          hb e (Option.some.inj he ▸ List.mem_cons_self)
        have hspace : ∀ e ∈ some ' ', isBlank e = true := fun e he =>
          Option.some.inj he ▸ by decide
        exact (Eases.wordBoundary_blank hx hspace).trans hbound
    | cons x t =>
      -- what is between the word and the next hit does not end with a blank
      obtain ⟨y, hy⟩ : ∃ y, (x :: t).getLast? = some y := ⟨_, List.getLast?_cons⟩
      have hlast := hlast y <| by
        rw [Cut.last_append_rest, ← List.append_assoc,
          List.getLast?_append_of_ne_nil _ (List.cons_ne_nil x t), hy]
      rw [Cut.text_hit, respaced_hit, List.append_assoc _ _ d.text, List.append_assoc _ _ (respaced o d)]
      exact .of_append ⟨y, List.mem_of_getLast? hy, hlast⟩ _ _

/-- What stands before a word between hits is no worse in the respaced text. -/
theorem eases_left (ho : IsEdged o.toList) {c₁ c₂ : Cut} {m : List Char} (hm : m ≠ [])
    (hc : Search.Scanned (front (keyword o)) none text (c₁.append (c₂.prepend m))) :
    Eases m.head? c₁.text.reverse (respaced o c₁).reverse := by
  rcases c₁.eq_rest_or_append_hit with ⟨t, rfl⟩ | ⟨c, h, g, t, rfl⟩
  · exact .refl t.reverse
  · have hcut : (c.append (.hit [] h g (.rest t))).append (c₂.prepend m) =
        c.append (.hit [] h g (c₂.prepend (t ++ m))) := by
      rw [Cut.append_assoc]
      simp [Cut.append, Cut.prepend_prepend]
    rw [hcut] at hc
    obtain ⟨⟨b, w, b', rfl, _, hb', hstands⟩, _, hhead⟩ := exists_of_hit ho hc
    rw [Cut.text_prepend] at hstands hhead
    have htext : (c.append (.hit [] (b ++ (w ++ b')) g (.rest t))).text.reverse =
        t.reverse ++ (b'.reverse ++ (w.reverse ++ (c.text ++ b).reverse)) := by
      simp
    have hrespaced : (respaced o (c.append (.hit [] (b ++ (w ++ b')) g (.rest t)))).reverse =
        t.reverse ++ ((padded o).reverse ++ (respaced o c).reverse) := by
      rw [respaced_append, respaced_hit, respaced_rest]
      simp
    rw [htext, hrespaced]
    cases t with
    | nil =>
      -- the operator, or a blank behind it, bounds the word as the space does
      refine ⟨fun hbound => ?_, fun _ => (spaced_padded ho _).2⟩
      rcases List.eq_nil_or_concat b' with rfl | ⟨b', x, rfl⟩
      · have hw := mt List.reverse_eq_nil_iff.mp (hstands.spelled.ne_nil ho.ne_nil)
        have hright := hstands.right
        rw [List.nil_append, List.nil_append, List.head?_append_of_ne_nil m hm] at hright
        simp only [List.reverse_nil, List.nil_append]
        rw [List.head?_append_of_ne_nil _ hw, List.head?_reverse, Text.wordBoundary_comm]
        exact hright
      · have hx : ∀ e ∈ some x, isBlank e = true := fun e he =>
          hb' e (Option.some.inj he ▸ by simp)
        have hspace : ∀ e ∈ some ' ', isBlank e = true := fun e he =>
          Option.some.inj he ▸ by decide
        rw [padded_reverse] at hbound
        rw [List.concat_eq_append, List.reverse_append]
        exact (Eases.wordBoundary_blank hx hspace).trans hbound
    | cons x t =>
      -- what is between the last hit and the word does not begin with a blank
      have hx := hhead x rfl
      exact .of_append ⟨x, List.mem_reverse.mpr List.mem_cons_self, hx⟩ _ _

/-- In a respaced text there is one space on either side of an operator that was put there, or two if
another operator comes next. -/
theorem spaced_of_hit (ho : IsEdged o.toList) {c d : Cut} {h : List Char}
    {g : List (Option (List Char))}
    (hc : Search.Scanned (front (keyword o)) none text (c.append (.hit [] h g d))) :
    Spaced (' ' :: (respaced o c).reverse) ∧ Spaced (' ' :: respaced o d) := by
  have hspace : Spaced [' '] := .cons_space fun _ h => absurd h List.not_mem_nil
  obtain ⟨_, hlast, hhead⟩ := exists_of_hit ho hc
  constructor
  · -- what stands between the operator and the last hit before it does not end with a blank
    have hreverse {t x : List Char} (hx : Spaced (' ' :: x))
        (ht : ∀ e, t.getLast? = some e → isBlank e = false) : Spaced (' ' :: (t.reverse ++ x)) := by
      rcases List.eq_nil_or_concat t with rfl | ⟨t, e, rfl⟩
      · exact hx
      · rw [List.concat_eq_append, List.reverse_append]
        exact spaced_space_cons (ht e (by simp)) _
    rcases c.eq_rest_or_append_hit with ⟨t, rfl⟩ | ⟨c, h', g', t, rfl⟩
    · have := hreverse hspace hlast
      rwa [List.append_nil] at this
    · rw [Cut.last_append_hit, Cut.last] at hlast
      have hnext := spaced_padded ho (respaced o c).reverse
      have := hreverse (.cons_space hnext.2.run) hlast
      rw [respaced_append, respaced_hit, respaced_rest]
      simpa using this
  · cases d with
    | rest t =>
      cases t with
      | nil => exact hspace
      | cons e t => exact spaced_space_cons (hhead e rfl) t
    | hit t h' g' d =>
      cases t with
      | nil => exact .cons_space (spaced_padded ho _).1.run
      | cons e t => exact spaced_space_cons (hhead e rfl) _

end Edges

/-! ### Words in an operator -/

section Parts

variable {word p m q before w after : List Char}

/-- A word that is part of an operator stands in the text wherever the operator does. -/
private theorem stands_of_part (hw : word ≠ []) (ho : IsOperator (p ++ (m ++ q))) (hu : Usual w)
    (hstands : Stands (p ++ (m ++ q)) before w after) (hspelled : Spelled word m)
    (hleft : p ≠ [] → wordBoundary p.getLast? m.head? = true)
    (hright : q ≠ [] → wordBoundary m.getLast? q.head? = true) :
    ∃ p' m' q', w = p' ++ (m' ++ q') ∧ Spelled p p' ∧ Spelled q q' ∧
      Stands word (before ++ p') m' (q' ++ after) := by
  obtain ⟨p', w', rfl, hp, hw'⟩ := hstands.spelled.exists_of_append
  obtain ⟨m', q', rfl, hm, hq⟩ := hw'.exists_of_append
  have hne := hm.ne_nil (hspelled.ne_nil hw)
  have hascii := ho.ascii
  simp only [List.forall_mem_append] at hascii
  -- in a usual text the parts of the spelling are bounded like those of the operator
  have hp' := hp.map_isWord hascii.1 (hu.of_subset (by simp))
  have hm' := hm.map_isWord hascii.2.1 (hu.of_subset (by simp))
  have hq' := hq.map_isWord hascii.2.2 (hu.of_subset (by simp))
  refine ⟨p', m', q', rfl, hp, hq, hspelled.trans hm, ?_, ?_⟩
  · by_cases hnil : p' = []
    · -- the word begins where the operator does
      have hbefore := hstands.left
      rw [hnil, List.nil_append, List.head?_append_of_ne_nil m' hne] at hbefore
      rwa [hnil, List.append_nil]
    · rw [List.getLast?_append_of_ne_nil before hnil, wordBoundary_congr hp' hm']
      refine hleft ?_
      rintro rfl
      exact hnil (List.forall₂_nil_left_iff.mp hp)
  · by_cases hnil : q' = []
    · have hafter := hstands.right
      rw [hnil, List.append_nil, List.getLast?_append_of_ne_nil p' hne] at hafter
      rwa [hnil]
    · rw [List.head?_append_of_ne_nil q' hnil, wordBoundary_congr hm' hq']
      refine hright ?_
      rintro rfl
      exact hnil (List.forall₂_nil_left_iff.mp hq)

/-- It has no spaces around it there, unless it is the operator. -/
private theorem eq_nil_of_settled (hw : word ≠ []) (ho : IsOperator (p ++ (m ++ q))) (hu : Usual w)
    (hstands : Stands (p ++ (m ++ q)) before w after) (hspelled : Spelled word m)
    (hsettled : Settled word (before ++ (w ++ after)))
    (hleft : p ≠ [] → wordBoundary p.getLast? m.head? = true)
    (hright : q ≠ [] → wordBoundary m.getLast? q.head? = true) : p = [] ∧ q = [] := by
  obtain ⟨p', m', q', rfl, hp, hq, hin⟩ :=
    stands_of_part hw ho hu hstands hspelled hleft hright
  obtain ⟨-, hbefore, hafter⟩ :=
    hsettled (before ++ p') m' (q' ++ after) (by simp only [List.append_assoc]) hin
  have hblank := hstands.spelled.noBlank ho
  simp only [List.forall_mem_append] at hblank
  have hspace {c : Char} (hc : c = ' ') (hb : isBlank c = false) : False := by
    rw [hc] at hb
    exact absurd hb (by decide)
  constructor
  · rcases List.eq_nil_or_concat p' with rfl | ⟨p', c, rfl⟩
    · exact List.forall₂_nil_right_iff.mp hp
    · exact (hspace (hbefore.head c (by simp)) (hblank.1 c (by simp))).elim
  · cases q' with
    | nil => exact List.forall₂_nil_right_iff.mp hq
    | cons c q' => exact (hspace (hafter.head c rfl) (hblank.2.2 c List.mem_cons_self)).elim

end Parts

/-! ### Texts that are settled by respacing -/

section Words

variable {o : String} {word text : List Char}

/-- Between hits a word stands where it stood in the text, and there it is settled. -/
private theorem settled_between (ho : IsOperator o.toList) (hw : IsOperator word)
    (h : word = o.toList ∨ Settled word text) {c₁ c₂ : Cut} {m : List Char}
    (hc : Search.Scanned (front (keyword o)) none text (c₁.append (c₂.prepend m)))
    (hstands : Stands word (respaced o c₁) m (respaced o c₂)) :
    m = word ∧ Spaced (respaced o c₁).reverse ∧ Spaced (respaced o c₂) := by
  have hne := hstands.spelled.ne_nil hw.ne_nil
  have hleft := eases_left ho.edged hne hc
  have hright := eases_right ho.edged hne hc
  have hthere := hstands.of_eases hleft hright
  rcases h with rfl | h
  · exact absurd hthere (not_stands_between ho.edged hc)
  · have htext := hc.text_eq
    rw [Cut.text_append, Cut.text_prepend] at htext
    obtain ⟨hm, hbefore, hafter⟩ := h _ _ _ htext.symm hthere
    exact ⟨hm, hleft.spaced hbefore, hright.spaced hafter⟩

/-- A word in an operator that was put there is all of it. -/
private theorem eq_nil_of_hit (ho : IsOperator o.toList) (hw : IsOperator word) (hu : Usual text)
    (h : word = o.toList ∨ Settled word text) {c₁ c₂ : Cut} {hit : List Char}
    {g : List (Option (List Char))} {a p m q r : List Char}
    (hc : Search.Scanned (front (keyword o)) none text (c₁.append (.hit [] hit g c₂)))
    (hparts : o.toList = p ++ (m ++ q)) (hstands : Stands word (a ++ ' ' :: p) m (q ++ ' ' :: r)) :
    p = [] ∧ q = [] := by
  rcases h with rfl | h
  · -- the operator is as long as any spelling of it
    have hlen := hstands.spelled.length_eq
    rw [hparts] at hlen
    simp only [List.length_append] at hlen
    exact ⟨List.length_eq_zero_iff.mp (by omega), List.length_eq_zero_iff.mp (by omega)⟩
  · obtain ⟨⟨b, w, b', rfl, _, _, hop⟩, _, _⟩ := exists_of_hit ho.edged hc
    have htext : c₁.text ++ b ++ (w ++ (b' ++ c₂.text)) = text := by
      rw [← hc.text_eq]
      simp
    -- the hit is a spelling of the operator in the text, where the word is settled
    have hw' : w ⊆ text := by
      rw [← htext]
      intro x hx
      simp [hx]
    rw [hparts] at ho hop
    refine eq_nil_of_settled hw.ne_nil ho (hu.of_subset hw') hop hstands.spelled (htext ▸ h) ?_ ?_
    · intro hp
      have hleft := hstands.left
      rwa [List.getLast?_append_of_ne_nil _ (List.cons_ne_nil ' ' p),
        List.getLast?_cons_of_ne_nil hp] at hleft
    · intro hq
      have hright := hstands.right
      rwa [List.head?_append_of_ne_nil q hq] at hright

/-- Respacing settles a text for its operator, and unsettles it for no other. -/
theorem settled_respace (ho : IsOperator o.toList) (hw : IsOperator word) (hu : Usual text)
    (hdist : Spelled word o.toList → word = o.toList)
    (h : word = o.toList ∨ Settled word text) : Settled word (respace text o) := by
  intro a m r hcut hstands
  have hspace : ' ' ∉ m := fun hmem =>
    absurd (hstands.spelled.noBlank hw ' ' hmem) (by decide)
  have hc := Search.scanned (front_proper ho.edged) none text
  rw [respace_eq, search, Search.cut_ofFront] at hcut
  rcases exists_of_respaced (hstands.spelled.edged hw.edged) hspace hcut with
    ⟨c₁, c₂, heq, rfl, rfl⟩ | ⟨c₁, hit, g, c₂, p, q, heq, hparts, rfl, rfl⟩
  · -- between two hits the text is as it was
    rw [heq] at hc
    exact settled_between ho hw h hc hstands
  · rw [heq] at hc
    obtain ⟨rfl, rfl⟩ := eq_nil_of_hit ho hw hu h hc hparts hstands
    rw [List.nil_append, List.append_nil] at hparts
    obtain ⟨hbefore, hafter⟩ := spaced_of_hit ho.edged hc
    refine ⟨?_, ?_, hafter⟩
    · -- a word that the operator spells is the operator
      rw [← hparts]
      exact (hdist (hparts ▸ hstands.spelled)).symm
    · rw [List.reverse_append]
      exact hbefore

end Words

/-! ### Respacing what is settled -/

section Again

variable {o : String} {text : List Char}

/-- A text that ends with a space does so in its respaced form. -/
private theorem respaced_ends {c : Cut} (h : c.text = [] ∨ c.text.getLast? = some ' ') :
    respaced o c = [] ∨ (respaced o c).getLast? = some ' ' := by
  rcases c.eq_rest_or_append_hit with ⟨t, rfl⟩ | ⟨c, hit, g, t, rfl⟩
  · exact h
  · right
    rw [respaced_append, respaced_hit, respaced_rest]
    cases t with
    | nil =>
      have hspace : respaced o c ++ ([] ++ padded o ++ []) =
          (respaced o c ++ ' ' :: o.toList) ++ [' '] := by simp [padded]
      rw [hspace, List.getLast?_concat]
    | cons d t =>
      -- the texts end with the same character
      simp only [Cut.text_append, Cut.text_hit, Cut.text_rest, ← List.append_assoc] at h ⊢
      rw [List.getLast?_append_of_ne_nil _ (List.cons_ne_nil d t)] at h ⊢
      exact h.resolve_left (by simp)

/-- A hit in a settled text is the operator between spaces, so that putting the operator between spaces
in its place makes no difference to the tidied text. -/
private theorem tidy_hit (ho : IsOperator o.toList) (hs : Settled o.toList text) {c d : Cut}
    {h : List Char} {g : List (Option (List Char))}
    (hc : Search.Scanned (front (keyword o)) none text (c.append (.hit [] h g d))) :
    tidy (respaced o c ++ (padded o ++ d.text)) = tidy (respaced o c ++ (h ++ d.text)) := by
  obtain ⟨⟨b, m, b', rfl, hb, hb', hop⟩, _, _⟩ := exists_of_hit ho.edged hc
  have htext : text = c.text ++ b ++ (m ++ (b' ++ d.text)) := by
    rw [← hc.text_eq]
    simp
  obtain ⟨rfl, hbefore, hafter⟩ := hs _ _ _ htext hop
  -- the blanks of the hit are spaces; where there are none, the text has a space or ends
  have hright (a : List Char) : tidy (a ++ ' ' :: d.text) = tidy (a ++ (b' ++ d.text)) := by
    by_cases hnil : b' = []
    · subst hnil
      refine tidy_space (.inr ?_)
      cases hd : d.text with
      | nil => exact .inl rfl
      | cons x t => exact .inr (congrArg some (hafter.head x (by rw [hd]; rfl)))
    · refine (tidy_spaces hnil (fun x hx => hafter.run x ?_) a d.text).symm
      rw [List.takeWhile_append_of_pos hb']
      exact List.mem_append_left _ hx
  have hleft (z : List Char) : tidy (respaced o c ++ ' ' :: z) = tidy (respaced o c ++ (b ++ z)) := by
    rw [List.reverse_append] at hbefore
    by_cases hnil : b = []
    · subst hnil
      refine tidy_space (.inl (respaced_ends ?_))
      cases hlast : c.text.getLast? with
      | none => exact .inl (List.getLast?_eq_none_iff.mp hlast)
      | some x => exact .inr (congrArg some (hbefore.head x (by simpa using hlast)))
    · refine (tidy_spaces hnil (fun x hx => hbefore.run x ?_) _ z).symm
      rw [List.takeWhile_append_of_pos fun y hy => hb y (List.mem_reverse.mp hy)]
      exact List.mem_append_left _ (List.mem_reverse.mpr hx)
  calc tidy (respaced o c ++ (padded o ++ d.text))
      = tidy (respaced o c ++ ' ' :: (o.toList ++ ' ' :: d.text)) := by simp [padded]
    _ = tidy (respaced o c ++ (b ++ (o.toList ++ ' ' :: d.text))) := hleft _
    _ = tidy (respaced o c ++ (b ++ o.toList) ++ ' ' :: d.text) := by simp
    _ = tidy (respaced o c ++ (b ++ o.toList) ++ (b' ++ d.text)) := hright _
    _ = tidy (respaced o c ++ (b ++ (o.toList ++ b') ++ d.text)) := by simp

/-- Respacing a text that is settled for the operator makes no difference to the tidied text. -/
theorem tidy_respace (ho : IsOperator o.toList) (hs : Settled o.toList text) :
    tidy (respace text o) = tidy text := by
  -- hit by hit, with what comes before respaced and what comes after as it is
  have hrun : ∀ d c : Cut, Search.Scanned (front (keyword o)) none text (c.append d) →
      tidy (respaced o c ++ respaced o d) = tidy (respaced o c ++ d.text) := by
    intro d
    induction d with
    | rest t => exact fun _ _ => rfl
    | hit b h g d ih =>
      intro c hc
      have hcut : c.append (.hit b h g d) = (c.append (.rest b)).append (.hit [] h g d) := by
        rw [Cut.append_assoc]
        simp [Cut.append, Cut.prepend]
      have hnext : c.append (.hit b h g d) = (c.append (.hit b h g (.rest []))).append d := by
        rw [Cut.append_assoc]
        simp [Cut.append]
      have hstep := tidy_hit ho hs (hcut ▸ hc)
      have hlater := ih _ (hnext ▸ hc)
      -- first what comes after the hit, then the hit
      simp only [respaced_append, respaced_hit, respaced_rest, List.append_assoc,
        List.append_nil] at hstep hlater
      rw [respaced_hit, Cut.text_hit, List.append_assoc b, List.append_assoc b, hlater, hstep]
  have hc := Search.scanned (front_proper ho.edged) none text
  have := hrun (Search.scan (front (keyword o)) none text) (.rest []) (by simpa [Cut.append] using hc)
  rw [respaced_rest, List.nil_append, List.nil_append, hc.text_eq] at this
  exact this

end Again

/-! ### Characters of a text in regular spacing -/

private theorem usual_of_ascii {text : List Char} (h : ∀ c ∈ text, c.toNat < 128) : Usual text where
  noLongS hmem := absurd (h _ hmem) (by decide)
  noKelvin hmem := absurd (h _ hmem) (by decide)

/-- Respacing puts in no characters but spaces and those of the operator. -/
theorem usual_respace {o : String} {text : List Char} (ho : ∀ c ∈ o.toList, c.toNat < 128)
    (hu : Usual text) : Usual (respace text o) := by
  have happend {s t : List Char} (hs : Usual s) (ht : Usual t) : Usual (s ++ t) :=
    ⟨List.not_mem_append hs.noLongS ht.noLongS, List.not_mem_append hs.noKelvin ht.noKelvin⟩
  have hpadded : Usual (padded o) := by
    refine usual_of_ascii fun c hc => ?_
    simp only [padded, List.cons_append, List.mem_cons, List.mem_append, List.not_mem_nil,
      or_false] at hc
    rcases hc with rfl | hc | rfl
    · decide
    · exact ho c hc
    · decide
  have hcut : ∀ c : Cut, Usual c.text → Usual (respaced o c) := by
    intro c
    induction c with
    | rest t => exact id
    | hit b h g d ih =>
      intro hc
      rw [Cut.text_hit] at hc
      exact happend (happend (hc.of_subset (by simp)) hpadded) (ih (hc.of_subset (by simp)))
  refine hcut _ ?_
  rwa [Search.text_cut]

/-- Tidying puts in no characters but spaces and line feeds. -/
theorem usual_tidy {text : List Char} (hu : Usual text) : Usual (tidy text) := by
  have hmem {c : Char} (hspace : c ≠ ' ') (hfeed : c ≠ '\n') (hc : c ∈ tidy text) : c ∈ text := by
    rw [tidy_eq] at hc
    have hbreaks := (mem_collapseFrom ((trim_part _).subset hc)).2.resolve_left hspace
    exact (mem_breaks hbreaks).resolve_left hfeed
  exact ⟨fun h => hu.noLongS (hmem (by decide) (by decide) h),
    fun h => hu.noKelvin (hmem (by decide) (by decide) h)⟩

/-! ### All operators in turn -/

/-- No operator is a spelling of another one. -/
theorem eq_of_spelled {g : Grammar} {o o' : String}
    (hops : ∀ o ∈ (Vocabulary.ofGrammar g).operators, IsOperator o.toList)
    (ho : o ∈ (Vocabulary.ofGrammar g).operators) (ho' : o' ∈ (Vocabulary.ofGrammar g).operators)
    (h : Spelled o.toList o'.toList) : o = o' := by
  refine Vocabulary.eq_of_mem_operators ho ho' ?_
  rw [Text.lowercaseString, Text.lowercaseString, Text.lowercase_of_ascii (hops o ho).ascii,
    Text.lowercase_of_ascii (hops o' ho').ascii,
    h.map_toLower (hops o ho).ascii (hops o' ho').ascii]

section Run

variable {operators : List String} {text : List Char}

/-- Respacing for all operators settles a text for each of them. -/
theorem settled_foldl {word : List Char} (hops : ∀ o ∈ operators, IsOperator o.toList)
    (hw : IsOperator word) (hdist : ∀ o ∈ operators, Spelled word o.toList → word = o.toList)
    (hu : Usual text) (h : Settled word text ∨ ∃ o ∈ operators, word = o.toList) :
    Settled word (operators.foldl respace text) := by
  induction operators generalizing text with
  | nil =>
    refine h.resolve_right ?_
    rintro ⟨o, ho, _⟩
    exact absurd ho List.not_mem_nil
  | cons o later ih =>
    obtain ⟨ho, hlater⟩ := List.forall_mem_cons.mp hops
    obtain ⟨hword, hdist⟩ := List.forall_mem_cons.mp hdist
    refine ih hlater hdist (usual_respace ho.ascii hu) ?_
    rcases h with h | ⟨o', ho', rfl⟩
    · exact .inl (settled_respace ho hw hu hword (.inr h))
    · rcases List.mem_cons.mp ho' with rfl | ho'
      · exact .inl (settled_respace ho hw hu hword (.inl rfl))
      · exact .inr ⟨o', ho', rfl⟩

theorem usual_foldl (hops : ∀ o ∈ operators, ∀ c ∈ o.toList, c.toNat < 128) (hu : Usual text) :
    Usual (operators.foldl respace text) := by
  induction operators generalizing text with
  | nil => exact hu
  | cons o later ih =>
    obtain ⟨ho, hlater⟩ := List.forall_mem_cons.mp hops
    exact ih hlater (usual_respace ho hu)

/-- Respacing a text that is settled for all operators makes no difference to the tidied text. -/
theorem tidy_foldl (hops : ∀ o ∈ operators, IsOperator o.toList)
    (hdist : ∀ o ∈ operators, ∀ o' ∈ operators, Spelled o.toList o'.toList → o = o')
    (hu : Usual text) (h : ∀ o ∈ operators, Settled o.toList text) :
    tidy (operators.foldl respace text) = tidy text := by
  induction operators generalizing text with
  | nil => rfl
  | cons o later ih =>
    obtain ⟨ho, hlater⟩ := List.forall_mem_cons.mp hops
    -- respacing for this operator keeps the text settled for those to come
    have hnext : ∀ o' ∈ later, Settled o'.toList (respace text o) := by
      intro o' ho'
      have hmem := List.mem_cons_of_mem o ho'
      refine settled_respace ho (hlater o' ho') hu (fun hs => ?_) (.inr (h o' hmem))
      rw [hdist o' hmem o List.mem_cons_self hs]
    rw [List.foldl_cons, ih hlater (fun a ha b hb => hdist a (List.mem_cons_of_mem o ha) b
      (List.mem_cons_of_mem o hb)) (usual_respace ho.ascii hu) hnext,
      tidy_respace ho (h o List.mem_cons_self)]

end Run

/-- A spacing has the operators of its vocabulary. -/
theorem eq_of_ofVocabulary {v : Vocabulary} {maxLineLength : Nat} {s : Spacing}
    (h : ofVocabulary v maxLineLength = .ok s) : s = ⟨v.operators, maxLineLength⟩ := by
  rw [ofVocabulary] at h
  split at h
  · cases h
  · exact (Except.ok.inj h).symm

/-- A text in regular spacing is left as it is, if the operators are words without blanks in ASCII and
the text is without the letters beyond ASCII that are spellings of ASCII letters. -/
theorem prettify_prettify {g : Grammar} {maxLineLength : Nat} {s : Spacing} {text : List Char}
    (hs : ofVocabulary (.ofGrammar g) maxLineLength = .ok s)
    (hops : ∀ o ∈ (Vocabulary.ofGrammar g).operators, IsOperator o.toList) (hu : Usual text) :
    s.prettify (s.prettify text) = s.prettify text := by
  obtain rfl := eq_of_ofVocabulary hs
  have hdist : ∀ o ∈ (Vocabulary.ofGrammar g).operators,
      ∀ o' ∈ (Vocabulary.ofGrammar g).operators, Spelled o.toList o'.toList → o = o' :=
    fun o ho o' ho' => eq_of_spelled hops ho ho'
  -- the text that is tidied, the first time, is settled for all operators
  have hsettled : ∀ o ∈ (Vocabulary.ofGrammar g).operators,
      Settled o.toList (tidy ((Vocabulary.ofGrammar g).operators.foldl respace text)) := by
    intro o ho
    refine settled_tidy (hops o ho) (settled_foldl hops (hops o ho) (fun o' ho' h => ?_) hu
      (.inr ⟨o, ho, rfl⟩))
    rw [hdist o ho o' ho' h]
  have hagain := tidy_foldl hops hdist
    (usual_tidy (usual_foldl (fun o ho => (hops o ho).ascii) hu)) hsettled
  by_cases hnil : text = []
  · subst hnil
    rfl
  · rw [prettify.eq_1 _ text, if_neg hnil, prettify]
    split
    · rename_i hempty
      exact hempty.symm
    · rw [hagain, tidy_tidy]

/-- A grammar of operators. -/
def ofOperators (operators : List String) : Grammar :=
  { Grammar.empty with
    rules := [.keyword ⟨"operators", false, true, operators.map fun o => ⟨o, "Op", "an operator"⟩⟩]
    types := [⟨"Op", "gray", "Operator", none, none⟩] }

/-- A word and symbols, one of which is part of another, with a line break and no space around them. -/
theorem prettify_prettify_symbols :
    ∃ s : Spacing, ofVocabulary (.ofGrammar (ofOperators ["=", "eq", "<="])) 80 = .ok s ∧
      (∀ o ∈ (Vocabulary.ofGrammar (ofOperators ["=", "eq", "<="])).operators,
        IsOperator o.toList) ∧
      Usual "a \t EQ\r\n b<=c=d".toList ∧
      s.prettify "a \t EQ\r\n b<=c=d".toList = "a eq b <= c = d".toList ∧
      s.prettify "a eq b <= c = d".toList = "a eq b <= c = d".toList := by
  have hops : ∀ o ∈ (Vocabulary.ofGrammar (ofOperators ["=", "eq", "<="])).operators,
      IsOperator o.toList := by
    decide +kernel
  have hu : Usual "a \t EQ\r\n b<=c=d".toList := ⟨by decide, by decide⟩
  have hfirst : (ofVocabulary (.ofGrammar (ofOperators ["=", "eq", "<="])) 80).toOption.any fun s =>
      s.prettify "a \t EQ\r\n b<=c=d".toList = "a eq b <= c = d".toList := by
    decide +kernel
  obtain ⟨s, hs, hfirst⟩ := Results.exists_of_any hfirst
  have hfirst := of_decide_eq_true hfirst
  have hagain := prettify_prettify hs hops hu
  rw [hfirst] at hagain
  exact ⟨s, hs, hops, hu, hfirst, hagain⟩

end Annotator.Spacing

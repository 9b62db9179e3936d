import Annotator.Proofs.KeptNames

/-!
# Joints

Where hits are deleted, the text on both sides comes together. A cut is *apart* if no two characters of
words come together there; then every run of word characters in what is left stands in the text as it
is. Numbers, and keywords that begin or end with a word character, are found only where they have no
word character on one side, so deleting them joins nothing. String literals, points in time and keywords
between two other characters may stand directly between two names, which deleting them makes one.

## Key results

- `Cut.Apart.exists_of_plain`: a run of word characters in what is left stands in the text
- `apart_number`, `apart_keyword`: deleting numbers, and keywords with a word character at one end
- `infix_of_mem_extract`: names are parts of the expression where nothing else joins word characters
- `exists_not_infix`: a symbol between two names makes one name of them
-/

namespace Annotator

open Text (isWord wordBoundary)

namespace Cut

/-- No two characters of words come together where the hits are deleted. -/
def Apart (c : Cut) : Prop :=
  ∀ (d : Cut) (m : List Char) (g : List (Option (List Char))) (e : Cut),
    c = d.append (.hit [] m g e) →
      d.plain.getLast?.any isWord = false ∨ e.plain.head?.any isWord = false

/-- The same, hit by hit, where `before` is what is left in front. -/
private def apartFrom (before : List Char) : Cut → Bool
  | rest _ => true
  | hit b _ _ c =>
    !((before ++ b).getLast?.any isWord && c.plain.head?.any isWord) && apartFrom (before ++ b) c

private theorem apartFrom_iff {before : List Char} {c : Cut} : c.apartFrom before = true ↔
    ∀ (d : Cut) (m : List Char) (g : List (Option (List Char))) (e : Cut),
      c = d.append (.hit [] m g e) →
        (before ++ d.plain).getLast?.any isWord = false ∨ e.plain.head?.any isWord = false := by
  induction c generalizing before with
  | rest t =>
    refine iff_of_true rfl fun d m g e heq => ?_
    cases d with
    | rest _ => cases heq
    | hit _ _ _ _ => cases heq
  | hit b m g c ih =>
    rw [apartFrom, Bool.and_eq_true, Bool.not_eq_true', Bool.and_eq_false_iff, ih]
    constructor
    · rintro ⟨hfirst, hlater⟩ d m' g' e heq
      cases d with
      | rest t =>
        obtain ⟨rfl, -, -, rfl⟩ := hit.inj heq
        simpa using hfirst
      | hit b' _ _ d =>
        obtain ⟨rfl, -, -, hd⟩ := hit.inj heq
        have := hlater d m' g' e hd
        rwa [List.append_assoc, ← plain_hit] at this
    · intro h
      refine ⟨?_, fun d m' g' e heq => ?_⟩
      · simpa using h (.rest b) m g c (by simp [append, prepend])
      · have := h (.hit b m g d) m' g' e (by rw [heq]; rfl)
        rwa [plain_hit, ← List.append_assoc] at this

instance (c : Cut) : Decidable c.Apart :=
  decidable_of_iff (c.apartFrom [] = true) apartFrom_iff

theorem Apart.of_hit {b m : List Char} {g : List (Option (List Char))} {c : Cut}
    (h : (hit b m g c).Apart) : c.Apart := by
  intro d m' g' e hc
  subst hc
  refine (h (.hit b m g d) m' g' e rfl).imp_left fun hlast => ?_
  rw [plain_hit] at hlast
  by_cases hd : d.plain = []
  · rw [hd]
    rfl
  · rwa [List.getLast?_append_of_ne_nil b hd] at hlast

/-- A run of word characters in what is left stands in the text, between two hits. -/
theorem Apart.exists_of_plain {c : Cut} (hc : c.Apart) {a m r : List Char} (hne : m ≠ [])
    (hm : ∀ x ∈ m, isWord x = true) (h : c.plain = a ++ (m ++ r)) :
    ∃ c₁ c₂ : Cut, c = c₁.append (c₂.prepend m) ∧ c₁.plain = a ∧ c₂.plain = r := by
  induction c generalizing a with
  | rest t =>
    rw [plain_rest] at h
    exact ⟨.rest a, .rest r, by rw [h]; rfl, plain_rest a, plain_rest r⟩
  | hit b m' g d ih =>
    rw [plain_hit] at h
    rcases List.append_eq_append_iff.mp h with ⟨s, rfl, hs⟩ | ⟨s, rfl, hs⟩
    · -- behind the first hit
      obtain ⟨c₁, c₂, rfl, rfl, rfl⟩ := ih hc.of_hit hs
      exact ⟨.hit b m' g c₁, c₂, rfl, plain_hit b m' g c₁, rfl⟩
    · rcases List.append_eq_append_iff.mp hs with ⟨t, rfl, ht⟩ | ⟨t, rfl, ht⟩
      · -- in front of it
        exact ⟨.rest a, .hit t m' g d, by simp [append, prepend], plain_rest a, by rw [plain_hit, ht]⟩
      · -- or at the place of the hit: the run is not empty, so it lies on one side of it
        by_cases hnil : s = []
        · subst hnil
          obtain ⟨c₁, c₂, rfl, hc₁, rfl⟩ := ih (a := []) hc.of_hit ht
          exact ⟨.hit a m' g c₁, c₂, by simp [append], by simp [hc₁], rfl⟩
        · by_cases hnil' : t = []
          · subst hnil'
            refine ⟨.rest a, .hit [] m' g d, by simp [append, prepend], plain_rest a, ?_⟩
            rw [plain_hit, ht, List.nil_append, List.nil_append]
          · -- the run would reach over the first hit
            rw [List.forall_mem_append] at hm
            obtain ⟨x, hx⟩ := Option.ne_none_iff_exists'.mp (mt List.getLast?_eq_none_iff.mp hnil)
            obtain ⟨y, t, rfl⟩ := List.exists_cons_of_ne_nil hnil'
            rcases hc (.rest (a ++ s)) m' g d (by simp [append, prepend]) with hlast | hhead
            · rw [plain_rest, List.getLast?_append_of_ne_nil a hnil, hx, Option.any_some,
                hm.1 x (List.mem_of_getLast? hx)] at hlast
              cases hlast
            · rw [ht, List.cons_append, List.head?_cons, Option.any_some,
                hm.2 y List.mem_cons_self] at hhead
              cases hhead

/-- A cut is apart if there is no word character in front of any hit. -/
theorem apart_of_left {c : Cut}
    (h : ∀ (d : Cut) (m : List Char) (g : List (Option (List Char))) (e : Cut),
      c = d.append (.hit [] m g e) → d.text.getLast?.any isWord = false) : c.Apart := by
  -- hit by hit, with what comes before as far as it has been followed
  have hrun : ∀ d d₀ : Cut, d₀.plain.getLast?.any isWord = false → ∀ m g e,
      c = d₀.append (d.append (.hit [] m g e)) →
        (d₀.append d).plain.getLast?.any isWord = false := by
    intro d
    induction d with
    | rest t =>
      intro d₀ hd₀ m g e hc
      rw [← append_assoc] at hc
      have hlast := h _ m g e hc
      rw [text_append, text_rest] at hlast
      rw [plain_append, plain_rest]
      by_cases ht : t = []
      · rwa [ht, List.append_nil]
      · rwa [List.getLast?_append_of_ne_nil _ ht] at hlast ⊢
    | hit b m' g' d ih =>
      intro d₀ hd₀ m g e hc
      have hnext : d₀.append (.hit b m' g' d) = (d₀.append (.hit b m' g' (.rest []))).append d := by
        rw [append_assoc]
        simp [append]
      rw [hnext]
      refine ih _ ?_ m g e (by rw [hc, append_assoc]; simp [append])
      have hlast := h (d₀.append (.rest b)) m' g' (d.append (.hit [] m g e))
        (by rw [hc, append_assoc]; simp [append, prepend])
      rw [text_append, text_rest] at hlast
      rw [plain_append, plain_hit, plain_rest, List.append_nil]
      by_cases hb : b = []
      · rwa [hb, List.append_nil]
      · rwa [List.getLast?_append_of_ne_nil _ hb] at hlast ⊢
  intro d m g e hc
  have := hrun d (.rest []) rfl m g e (by simpa [append] using hc)
  exact .inl (by simpa [append] using this)

/-- A cut is apart if there is no word character behind any hit. -/
theorem apart_of_right {c : Cut}
    (h : ∀ (d : Cut) (m : List Char) (g : List (Option (List Char))) (e : Cut),
      c = d.append (.hit [] m g e) → e.text.head?.any isWord = false) : c.Apart := by
  intro d m g e hc
  right
  induction e generalizing d m g with
  | rest t =>
    rw [plain_rest]
    exact h d m g _ hc
  | hit b m' g' e ih =>
    have hhead := h d m g _ hc
    rw [text_hit] at hhead
    rw [plain_hit]
    cases b with
    | nil =>
      refine ih (d.append (.hit [] m g (.rest []))) m' g' ?_
      rw [hc, append_assoc]
      simp [append]
    | cons x b => exact hhead

end Cut

namespace Identifiers

open Search (scan)
open Spacing (Spelled Stands Usual)

/-! ### Numbers and keywords -/

/-- A number has no word character in front. -/
theorem apart_number (text : List Char) : ((Search.ofFront numberFront).cut text).Apart := by
  have hc := Search.scanned numberFront_proper none text
  rw [Search.cut_ofFront]
  refine Cut.apart_of_left fun d m g e heq => ?_
  rw [heq] at hc
  obtain ⟨hbound, hmem⟩ := exists_of_numberFront hc.front_eq_some
  obtain ⟨-, -, ⟨c, hhead, hdigit⟩, -⟩ := exists_of_mem_numberLengths hmem
  rw [hhead, wordBoundary, Option.any_some, isWord_of_isDigit hdigit, Search.lastOf,
    Option.or_none] at hbound
  simpa using hbound

/-- A hit of the search for a keyword is the keyword, as a word of its own. -/
theorem stands_of_hit {w : String} (hne : w.toList ≠ []) {text m : List Char}
    {g : List (Option (List Char))} {d e : Cut}
    (hc : Search.Scanned (keyword w).front none text (d.append (.hit [] m g e))) :
    Stands w.toList d.text m e.text := by
  obtain ⟨hspelled, hbound⟩ := Keyword.front_append_eq_some_iff.mp hc.front_eq_some
  obtain ⟨hleft, hright⟩ := hbound rfl
  have hm : m ≠ [] := Spelled.ne_nil hspelled hne
  rw [Search.lastOf, Option.or_none, List.head?_append_of_ne_nil m hm] at hleft
  rw [Search.lastOf_of_ne_nil hm] at hright
  exact ⟨hspelled, hleft, hright⟩

/-- A word that begins or ends with a character of words. -/
def Worded (word : List Char) : Prop :=
  word.head?.any isWord = true ∨ word.getLast?.any isWord = true

instance (word : List Char) : Decidable (Worded word) :=
  inferInstanceAs (Decidable (_ ∨ _))

theorem isWord_head_of_spelled {word m : List Char} (h : Spelled word m) (hu : Usual m)
    (hw : word.head?.any isWord = true) : m.head?.any isWord = true := by
  unfold Spelled at h
  cases h with
  | nil => cases hw
  | @cons a b word m hab _ =>
    exact hu.isWord_of_foldEq List.mem_cons_self hw hab

theorem isWord_last_of_spelled {word m : List Char} (h : Spelled word m) (hu : Usual m)
    (hw : word.getLast?.any isWord = true) : m.getLast?.any isWord = true := by
  rw [← List.head?_reverse] at hw ⊢
  exact isWord_head_of_spelled h.reverse (hu.of_subset fun _ hc => List.mem_reverse.mp hc) hw

/-- A keyword with a word character at one end has no word character next to that end. -/
theorem apart_keyword {w : String} (hw : Worded w.toList) {text : List Char} (hu : Usual text) :
    ((keyword w).search.cut text).Apart := by
  have hne : w.toList ≠ [] := by
    intro hnil
    rw [hnil] at hw
    rcases hw with hw | hw <;> cases hw
  have hc := Search.scanned (Keyword.front_proper (k := keyword w) hne) none text
  rw [Keyword.search, Search.cut_ofFront]
  have hhit {d e : Cut} {m : List Char} {g : List (Option (List Char))}
      (heq : scan (keyword w).front none text = d.append (.hit [] m g e)) :
      Stands w.toList d.text m e.text ∧ Usual m := by
    rw [heq] at hc
    refine ⟨stands_of_hit hne hc, hu.of_subset ?_⟩
    rw [← hc.text_eq, Cut.text_append, Cut.text_hit]
    simp
  rcases hw with hw | hw
  · refine Cut.apart_of_left fun d m g e heq => ?_
    obtain ⟨hstands, hm⟩ := hhit heq
    have hleft := hstands.left
    rw [wordBoundary, isWord_head_of_spelled hstands.spelled hm hw] at hleft
    simpa using hleft
  · refine Cut.apart_of_right fun d m g e heq => ?_
    obtain ⟨hstands, hm⟩ := hhit heq
    have hright := hstands.right
    rw [wordBoundary, isWord_last_of_spelled hstands.spelled hm hw] at hright
    simpa using hright

/-! ### Names as parts of the expression -/

/-- A run of word characters in what is left is part of the text if the cut is apart. -/
theorem infix_of_delete {s : Search} {text m : List Char} (hc : (s.cut text).Apart) (hne : m ≠ [])
    (hm : ∀ c ∈ m, isWord c = true) (h : m <:+: delete s text) : m <:+: text := by
  obtain ⟨a, r, har⟩ := h
  rw [delete_eq, List.append_assoc] at har
  obtain ⟨c₁, c₂, hcut, -, -⟩ := hc.exists_of_plain hne hm har.symm
  refine ⟨c₁.text, c₂.text, ?_⟩
  have := Search.text_cut s text
  rwa [hcut, Cut.text_append, Cut.text_prepend, ← List.append_assoc] at this

/-- The same for all words in turn. -/
theorem infix_of_withoutWords {words : List String} {text m : List Char}
    (hc : ∀ before w after, words = before ++ w :: after → w.toList ≠ [] →
      ((keyword w).search.cut (withoutWords before text)).Apart)
    (hne : m ≠ []) (hm : ∀ c ∈ m, isWord c = true) (h : m <:+: withoutWords words text) :
    m <:+: text := by
  induction words generalizing text with
  | nil => exact h
  | cons w later ih =>
    have hlater : m <:+: delete (keyword w).search text := ih (fun before w' after heq =>
      hc (w :: before) w' after (by rw [heq, List.cons_append])) h
    by_cases hw : w.toList = []
    · rwa [delete_empty hw] at hlater
    · exact infix_of_delete (hc [] w later rfl hw) hne hm hlater

theorem usual_delete {text : List Char} (s : Search) (hu : Usual text) : Usual (delete s text) :=
  hu.of_subset (delete_sublist s text).subset

theorem usual_withoutLiterals {text : List Char} (hu : Usual text) :
    Usual (withoutLiterals text) :=
  usual_delete _ (usual_delete _ (usual_delete _ hu))

theorem usual_withoutWords {words : List String} {text : List Char} (hu : Usual text) :
    Usual (withoutWords words text) :=
  hu.of_subset (withoutWords_sublist words text).subset

/-- A name is a part of the expression, unless the deletion of a string literal, of a point in time, or
of a known word brings two characters of words together; of the known words only those can that neither
begin nor end with a word character, or any if the text has letters beyond ASCII that are spellings of
ASCII letters. -/
theorem infix_of_mem_extract {v : Vocabulary} {text : List Char} {name : String}
    (hstrings : ((Search.ofFront stringFront).cut text).Apart)
    (htimes : ((Search.ofFront timeFront).cut (delete (.ofFront stringFront) text)).Apart)
    (hwords : ∀ before w after, knownWords v = before ++ w :: after → w.toList ≠ [] →
      ¬ (Worded w.toList ∧ Usual text) →
        ((keyword w).search.cut (withoutWords before (withoutLiterals text))).Apart)
    (h : name ∈ extract v text) : name.toList <:+: text := by
  obtain ⟨-, -, hfield, hname⟩ := mem_extract_iff.mp h
  have hm := (isWord_of_isName hname).1
  have hne : name.toList ≠ [] := by
    intro hnil
    rw [hnil] at hname
    cases hname
  obtain ⟨a, b, htext, -⟩ := mem_fields_iff.mp hfield
  have hlast : name.toList <:+: withoutWords (knownWords v) (withoutLiterals text) :=
    ⟨a, b, by rw [htext, List.append_assoc]⟩
  -- from the last deletion back to the first
  have hliterals : name.toList <:+: withoutLiterals text := by
    refine infix_of_withoutWords (fun before w after heq hnil => ?_) hne hm hlast
    by_cases hw : Worded w.toList ∧ Usual text
    · exact apart_keyword hw.1 (usual_withoutWords (usual_withoutLiterals hw.2))
    · exact hwords before w after heq hnil hw
  exact infix_of_delete hstrings hne hm
    (infix_of_delete htimes hne hm (infix_of_delete (apart_number _) hne hm hliterals))

/-- A literal next to a name, and a symbol that is not between two names. -/
theorem infix_of_mem_extract_total :
    ((Search.ofFront stringFront).cut "'x'total = 5 eq(b)".toList).Apart ∧
      "total" ∈ extract (ofWords ["eq", "="] ["@me"]) "'x'total = 5 eq(b)".toList ∧
      "total".toList <:+: "'x'total = 5 eq(b)".toList := by
  have hstrings : ((Search.ofFront stringFront).cut "'x'total = 5 eq(b)".toList).Apart := by
    decide +kernel
  have hmem : "total" ∈ extract (ofWords ["eq", "="] ["@me"]) "'x'total = 5 eq(b)".toList := by
    decide +kernel
  have hu : Usual "'x'total = 5 eq(b)".toList := ⟨by decide, by decide⟩
  refine ⟨hstrings, hmem, infix_of_mem_extract hstrings (by decide +kernel) ?_ hmem⟩
  intro before w after hwords _ hw
  have hknown : knownWords (ofWords ["eq", "="] ["@me"]) = ["eq", "=", "@me"] := by decide +kernel
  rw [hknown] at hwords
  -- the symbol is the only word that the text could be joined at
  rcases before with _ | ⟨first, _ | ⟨second, _ | ⟨third, before⟩⟩⟩
  · obtain ⟨heq, -⟩ := List.cons.inj hwords
    exact absurd ⟨heq ▸ by decide, hu⟩ hw
  · obtain ⟨hfirst, hlater⟩ := List.cons.inj hwords
    obtain ⟨heq, -⟩ := List.cons.inj hlater
    rw [← hfirst, ← heq]
    decide +kernel
  · obtain ⟨-, hlater⟩ := List.cons.inj hwords
    obtain ⟨-, hlater⟩ := List.cons.inj hlater
    obtain ⟨heq, -⟩ := List.cons.inj hlater
    exact absurd ⟨heq ▸ by decide, hu⟩ hw
  · simp at hwords

/-- A symbol between two names makes one name of them, which is no part of the expression. -/
theorem exists_not_infix : ∃ (v : Vocabulary) (text : List Char) (name : String),
    name ∈ extract v text ∧ ¬ name.toList <:+: text :=
  ⟨ofWords ["="] [], "price=tax".toList, "pricetax", by decide +kernel, by decide +kernel⟩

end Identifiers

end Annotator

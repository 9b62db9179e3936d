import Annotator.Proofs.Deletion
import Annotator.Proofs.Settled

/-!
# Names that are kept

A name that stands alone in an expression without its string literals, and is no known word, is one of
the names of the expression. For nothing is found in a field of word characters: a point in time has
hyphens, a number begins with a digit where a word may begin, and a keyword begins and ends where
words do, so it would be the whole field. And no search finds a separator, if the known words have
none, so no deletion reaches into the field from outside, or takes away what it stands between.

## Key results

- `spares_time`, `spares_number`, `spares_keyword`: the searches spare names
- `mem_fields_withoutWords`: a name stays through all deletions
- `count_extract`: a name that stands alone and is no known word is found, once
-/

namespace Annotator.Identifiers

open Search (lastOf)
open Text (isWord wordBoundary)

/-! ### Characters of names -/

theorem isSeparator_of_isWord {c : Char} (h : isWord c = true) : isSeparator c = false := by
  have hne {d : Char} (hd : isWord d = false) : (c == d) = false := by
    rw [beq_eq_false_iff_ne]
    rintro rfl
    rw [hd] at h
    cases h
  have hblank : Text.isBlank c = false := by
    rw [Bool.eq_false_iff]
    intro hblank
    rw [Spacing.isWord_eq_false_of_isBlank hblank] at h
    cases h
  rw [isSeparator, hblank, hne (by decide), hne (by decide)]
  rfl

theorem isWord_of_isDigit {c : Char} (h : c.isDigit = true) : isWord c = true := by
  simp [isWord, Char.isAlphanum, h]

theorem isDigit_of_isAlpha {c : Char} (h : c.isAlpha = true) : c.isDigit = false := by
  rw [Bool.eq_false_iff]
  intro hdigit
  -- digits come before letters
  have hdigit : c.val ≤ '9'.val := of_decide_eq_true ((Bool.and_eq_true _ _).mp hdigit).2
  have hletter : 'A'.val ≤ c.val := by
    rcases (Bool.or_eq_true c.isUpper c.isLower).mp h with h | h
    · exact (of_decide_eq_true h).1
    · have hlower : 'a'.val ≤ c.val := of_decide_eq_true ((Bool.and_eq_true _ _).mp h).1
      exact UInt32.le_trans (by decide) hlower
  exact absurd (UInt32.le_trans hletter hdigit) (by decide)

/-- A name has word characters only, and does not begin with a digit. -/
theorem isWord_of_isName {name : List Char} (h : isName name = true) :
    (∀ c ∈ name, isWord c = true) ∧ ∀ c ∈ name.head?, c.isDigit = false := by
  cases name with
  | nil => cases h
  | cons c later =>
    obtain ⟨hc, hlater⟩ := (Bool.and_eq_true _ _).mp h
    refine ⟨List.forall_mem_cons.mpr ⟨by simp [isWord, Char.isAlphanum, hc],
      List.all_eq_true.mp hlater⟩, fun d hd => ?_⟩
    obtain rfl := Option.some.inj hd
    exact isDigit_of_isAlpha hc

/-- Words are not bounded inside of a run of word characters. -/
theorem wordBoundary_of_isWord {prev : Option Char} {p m : List Char} {c : Char}
    (hp : ∀ x ∈ p, isWord x = true) (hne : p ≠ []) (hc : m.head? = some c) (hword : isWord c = true) :
    wordBoundary (lastOf prev p) m.head? = false := by
  obtain ⟨x, hx⟩ := Option.ne_none_iff_exists'.mp (mt List.getLast?_eq_none_iff.mp hne)
  rw [Search.lastOf_of_ne_nil hne, hx, hc, wordBoundary, Option.any_some, Option.any_some, hword,
    hp x (List.mem_of_getLast? hx)]
  rfl

/-! ### Points in time -/

theorem hasShape_iff {shape : List (Char → Bool)} {text : List Char} :
    hasShape shape text = true ↔
      ∃ m r, text = m ++ r ∧ List.Forall₂ (fun p c => p c = true) shape m := by
  induction shape generalizing text with
  | nil =>
    refine iff_of_true ?_ ⟨[], text, rfl, .nil⟩
    rw [hasShape]
  | cons p shape ih =>
    cases text with
    | nil =>
      refine iff_of_false (by simp [hasShape]) ?_
      rintro ⟨m, r, hnil, h⟩
      obtain ⟨rfl, -⟩ := List.append_eq_nil_iff.mp hnil.symm
      cases h
    | cons c later =>
      rw [hasShape, Bool.and_eq_true, ih]
      constructor
      · rintro ⟨hc, m, r, rfl, h⟩
        exact ⟨c :: m, r, rfl, .cons hc h⟩
      · rintro ⟨m, r, htext, h⟩
        obtain ⟨d, m, hd, hm, rfl⟩ := List.forall₂_cons_left_iff.mp h
        obtain ⟨rfl, rfl⟩ := List.cons.inj htext
        exact ⟨hd, m, r, rfl, hm⟩

/-- What is found at the front of a text as a point in time has the shape of one. -/
theorem exists_of_timeFront {prev : Option Char} {text : List Char} {n : Nat}
    (h : timeFront prev text = some n) : ∃ m r, text = m ++ r ∧ n = m.length ∧
      List.Forall₂ (fun p c => p c = true) timeShape m := by
  rw [timeFront] at h
  split at h
  · rename_i hshape
    obtain ⟨m, r, rfl, hm⟩ := hasShape_iff.mp hshape
    exact ⟨m, r, rfl, (Option.some.inj h).symm.trans hm.length_eq, hm⟩
  · cases h

theorem timeFront_proper : Search.Proper timeFront where
  pos h := by
    obtain ⟨m, r, -, rfl, hm⟩ := exists_of_timeFront h
    rw [← hm.length_eq]
    decide
  le h := by
    obtain ⟨m, r, rfl, rfl, -⟩ := exists_of_timeFront h
    simp

/-- A point in time has no separators. -/
theorem isSeparator_of_timeShape : ∀ p ∈ timeShape, ∀ c, p c = true → isSeparator c = false := by
  have hdigit (c : Char) (h : c.isDigit = true) : isSeparator c = false :=
    isSeparator_of_isWord (isWord_of_isDigit h)
  have hmark {d : Char} (hd : isSeparator d = false) (c : Char) (h : (c == d) = true) :
      isSeparator c = false := by rwa [beq_iff_eq.mp h]
  have hdigits (n : Nat) : ∀ p ∈ digits n, ∀ c, p c = true → isSeparator c = false := by
    intro p hp
    rw [List.eq_of_mem_replicate hp]
    exact hdigit
  simp only [timeShape, List.forall_mem_append, List.forall_mem_singleton]
  and_intros
  all_goals first | exact hdigits _ | exact hmark (by decide)

/-- It has a hyphen, so it is not in a name. -/
theorem spares_time {name : List Char} (hname : isName name = true) : Spares timeFront name where
  proper := timeFront_proper
  plain h c hc := by
    obtain ⟨m, r, rfl, rfl, hm⟩ := exists_of_timeFront h
    rw [List.take_left] at hc
    obtain ⟨p, hp, hpc⟩ := Results.exists_of_mem_right hm hc
    exact isSeparator_of_timeShape p hp c hpc
  nothing := by
    intro prev p m q b hfield _ _ h
    obtain ⟨m', r, htext, hlen, hm⟩ := exists_of_timeFront h
    obtain ⟨rfl, -⟩ := List.append_inj htext hlen
    have hhyphen : (· == '-') ∈ timeShape := by simp [timeShape]
    obtain ⟨c, hc, heq⟩ := Results.exists_of_mem_right hm.flip hhyphen
    have hword := (isWord_of_isName hname).1 c (by simp [hfield, hc])
    rw [beq_iff_eq.mp heq] at hword
    exact absurd hword (by decide)

/-! ### Numbers -/

/-- A number begins with a digit, and has digits and points only. -/
theorem exists_of_mem_numberLengths {text : List Char} {n : Nat} (h : n ∈ numberLengths text) :
    0 < n ∧ n ≤ text.length ∧ (∃ c ∈ text.head?, c.isDigit = true) ∧
      ∀ c ∈ text.take n, c.isDigit = true ∨ c = '.' := by
  have hparts : text = text.takeWhile Char.isDigit ++ text.dropWhile Char.isDigit :=
    List.takeWhile_append_dropWhile.symm
  have hdigits {t : List Char} : ∀ c ∈ t.takeWhile Char.isDigit, c.isDigit = true :=
    fun c hc => List.mem_takeWhile_imp hc
  -- the longest form that is there has digits and points only, and the others are parts of it
  have hform {f r : List Char} (hne : text.takeWhile Char.isDigit ≠ [])
      (htext : text = text.takeWhile Char.isDigit ++ (f ++ r))
      (hf : ∀ c ∈ f, c.isDigit = true ∨ c = '.') (hpos : 0 < n)
      (hle : n ≤ (text.takeWhile Char.isDigit).length + f.length) :
      0 < n ∧ n ≤ text.length ∧ (∃ c ∈ text.head?, c.isDigit = true) ∧
        ∀ c ∈ text.take n, c.isDigit = true ∨ c = '.' := by
    have hlen : n ≤ text.length := by
      rw [htext, List.length_append, List.length_append]
      omega
    refine ⟨hpos, hlen, ?_, fun c hc => ?_⟩
    · obtain ⟨c, w, hw⟩ := List.exists_cons_of_ne_nil hne
      exact ⟨c, by rw [hparts, hw]; rfl, hdigits c (hw ▸ List.mem_cons_self)⟩
    · rw [htext, ← List.append_assoc, List.take_append_of_le_length (by simpa using hle)] at hc
      rcases List.mem_append.mp (List.mem_of_mem_take hc) with hc | hc
      · exact .inl (hdigits c hc)
      · exact hf c hc
  rw [numberLengths] at h
  split at h
  · cases h
  · rename_i hlen
    have hne : text.takeWhile Char.isDigit ≠ [] := fun hnil => hlen (by rw [hnil]; rfl)
    have hpos := List.length_pos_iff.mpr hne
    have hdrop : text.drop (text.takeWhile Char.isDigit).length = text.dropWhile Char.isDigit := by
      have hleft : (text.takeWhile Char.isDigit ++ text.dropWhile Char.isDigit).drop
          (text.takeWhile Char.isDigit).length = text.dropWhile Char.isDigit := List.drop_left
      rwa [← hparts] at hleft
    rw [hdrop] at h
    split at h
    · rename_i later hlater
      refine hform (f := '.' :: later.takeWhile Char.isDigit) (r := later.dropWhile Char.isDigit)
        hne ?_ ?_ ?_ ?_
      · rw [List.cons_append, List.takeWhile_append_dropWhile, ← hlater,
          List.takeWhile_append_dropWhile]
      · exact List.forall_mem_cons.mpr ⟨.inr rfl, fun c hc => .inl (hdigits c hc)⟩
      · simp only [List.mem_cons, List.not_mem_nil, or_false] at h
        omega
      · simp only [List.mem_cons, List.not_mem_nil, or_false] at h
        rw [List.length_cons]
        omega
    · refine hform (f := []) (r := text.dropWhile Char.isDigit) hne ?_ ?_ ?_ ?_
      · rw [List.nil_append, List.takeWhile_append_dropWhile]
      · exact fun c hc => absurd hc List.not_mem_nil
      · rw [List.mem_singleton.mp h]
        exact hpos
      · rw [List.mem_singleton.mp h]
        exact le_refl _

theorem exists_of_numberFront {prev : Option Char} {text : List Char} {n : Nat}
    (h : numberFront prev text = some n) :
    wordBoundary prev text.head? = true ∧ n ∈ numberLengths text := by
  rw [numberFront] at h
  split at h
  · rename_i hbound
    exact ⟨hbound, List.mem_of_find?_eq_some h⟩
  · cases h

theorem numberFront_proper : Search.Proper numberFront where
  pos h := (exists_of_mem_numberLengths (exists_of_numberFront h).2).1
  le h := (exists_of_mem_numberLengths (exists_of_numberFront h).2).2.1

/-- A number begins where a word may begin, so it is not in a name. -/
theorem spares_number {name : List Char} (hname : isName name = true) :
    Spares numberFront name where
  proper := numberFront_proper
  plain h c hc := by
    obtain ⟨-, -, -, hall⟩ := exists_of_mem_numberLengths (exists_of_numberFront h).2
    rcases hall c hc with hdigit | rfl
    · exact isSeparator_of_isWord (isWord_of_isDigit hdigit)
    · decide
  nothing := by
    intro prev p m q b hfield _ _ h
    obtain ⟨hbound, hmem⟩ := exists_of_numberFront h
    obtain ⟨hpos, -, ⟨c, hc, hdigit⟩, -⟩ := exists_of_mem_numberLengths hmem
    obtain ⟨hwords, hhead⟩ := isWord_of_isName hname
    have hm : m ≠ [] := List.ne_nil_of_length_pos hpos
    rw [List.head?_append_of_ne_nil m hm] at hc
    by_cases hp : p = []
    · -- a name does not begin with a digit
      have := hhead c (by rw [hfield, hp, List.nil_append]; exact List.mem_head?_append_of_mem_head? hc)
      rw [hdigit] at this
      cases this
    · rw [List.head?_append_of_ne_nil m hm, wordBoundary_of_isWord (fun x hx => hwords x ?_) hp hc
        (isWord_of_isDigit hdigit)] at hbound
      · cases hbound
      · exact hfield ▸ List.mem_append_left _ hx

/-! ### Known words -/

/-- Spellings of separators are separators, and those of other characters are none. -/
theorem isSeparator_eq_of_foldEq {a b : Char} (h : Text.foldEq a b = true) :
    isSeparator a = isSeparator b := by
  have hmark {d : Char} (hd : Text.IsMark d) : (a == d) = (b == d) := by
    rw [Bool.eq_iff_iff, beq_iff_eq, beq_iff_eq]
    constructor
    · rintro rfl
      exact (Text.eq_of_foldEq_mark hd h).symm
    · rintro rfl
      rw [Text.foldEq_comm] at h
      exact (Text.eq_of_foldEq_mark hd h).symm
  rw [isSeparator, isSeparator, Text.isBlank_eq_of_foldEq h, hmark (by decide), hmark (by decide)]

/-- A keyword begins and ends where words do, so in a name it would be the whole name. -/
theorem spares_keyword {word : String} (hne : word.toList ≠ [])
    (hplain : ∀ c ∈ word.toList, isSeparator c = false) {name : List Char}
    (hname : isName name = true) (hnew : ¬ Spacing.Spelled word.toList name) :
    Spares (keyword word).front name where
  proper := Keyword.front_proper hne
  plain h c hc := by
    obtain ⟨rfl, m, r, rfl, hspelled, -⟩ := Keyword.front_eq_some_iff.mp h
    rw [hspelled.length_eq, List.take_left] at hc
    obtain ⟨a, ha, hac⟩ := Results.exists_of_mem_right hspelled hc
    rw [← isSeparator_eq_of_foldEq hac]
    exact hplain a ha
  nothing := by
    intro prev p m q b hfield _ _ h
    obtain ⟨hspelled, hbound⟩ := Keyword.front_append_eq_some_iff.mp h
    obtain ⟨hleft, hright⟩ := hbound rfl
    have hm : m ≠ [] := Spacing.Spelled.ne_nil hspelled hne
    have hwords := (isWord_of_isName hname).1
    rw [hfield, List.forall_mem_append, List.forall_mem_append] at hwords
    obtain ⟨hp, hm', hq⟩ := hwords
    by_cases hpnil : p = []
    · by_cases hqnil : q = []
      · rw [hpnil, hqnil, List.nil_append, List.append_nil] at hfield
        exact hnew (hfield ▸ hspelled)
      · -- the keyword would end inside of a run of word characters
        obtain ⟨c, q, rfl⟩ := List.exists_cons_of_ne_nil hqnil
        rw [wordBoundary_of_isWord hm' hm rfl (hq c List.mem_cons_self)] at hright
        cases hright
    · obtain ⟨c, m, rfl⟩ := List.exists_cons_of_ne_nil hm
      rw [wordBoundary_of_isWord hp hpnil rfl (hm' c List.mem_cons_self)] at hleft
      cases hleft

/-- A name stays when words are deleted that it is not. -/
theorem mem_fields_withoutWords {words : List String} {name text : List Char}
    (hplain : ∀ w ∈ words, ∀ c ∈ w.toList, isSeparator c = false) (hname : isName name = true)
    (hnew : ∀ w ∈ words, ¬ Spacing.Spelled w.toList name) (h : name ∈ fields text) :
    name ∈ fields (withoutWords words text) := by
  induction words generalizing text with
  | nil => exact h
  | cons w later ih =>
    obtain ⟨hw, hplain⟩ := List.forall_mem_cons.mp hplain
    obtain ⟨hnotw, hnew⟩ := List.forall_mem_cons.mp hnew
    rw [withoutWords_cons]
    refine ih hplain hnew ?_
    by_cases hne : w.toList = []
    · rwa [delete_empty hne]
    · exact mem_fields_delete (spares_keyword hne hw hname hnotw) h

/-! ### Names of an expression -/

/-- No name is lost. Where the known words have no separators, every run between separators, of the
expression without string literals, that has the form of a name and is no known word up to case is one
of the names of the expression, once. -/
theorem count_extract {v : Vocabulary} {text a name b : List Char}
    (hsearch : ∀ w ∈ knownWords v, (keyword w).isSearchable = true)
    (hplain : ∀ w ∈ knownWords v, ∀ c ∈ w.toList, isSeparator c = false)
    (htext : delete (.ofFront stringFront) text = a ++ (name ++ b))
    (ha : ∀ c ∈ a.getLast?, isSeparator c = true) (hb : ∀ c ∈ b.head?, isSeparator c = true)
    (hname : isName name = true)
    (hnew : ∀ w ∈ knownWords v, Text.foldEqText w.toList name = false) :
    (extract v text).count (String.ofList name) = 1 := by
  have hfield : name ∈ fields (delete (.ofFront stringFront) text) :=
    mem_fields_iff.mpr ⟨a, b, htext, ha, hb, fun c hc =>
      isSeparator_of_isWord ((isWord_of_isName hname).1 c hc)⟩
  have hliterals : name ∈ fields (withoutLiterals text) :=
    mem_fields_delete (spares_number hname) (mem_fields_delete (spares_time hname) hfield)
  have hwords : name ∈ fields (withoutWords (knownWords v) (withoutLiterals text)) := by
    refine mem_fields_withoutWords hplain hname (fun w hw hspelled => ?_) hliterals
    have := hnew w hw
    rw [Spacing.foldEqText_iff.mpr hspelled] at this
    cases this
  refine List.count_eq_one_of_mem (nodup_extract v text) (mem_extract_iff.mpr ⟨?_, hsearch, ?_, ?_⟩)
  · -- an empty text has no names
    rintro rfl
    have hnil : delete (.ofFront stringFront) [] = [] := by decide +kernel
    rw [hnil] at htext
    rw [(List.append_eq_nil_iff.mp (List.append_eq_nil_iff.mp htext.symm).2).1] at hname
    cases hname
  · rwa [String.toList_ofList]
  · rwa [String.toList_ofList]

/-- A grammar of operators and custom words. -/
def ofWords (operators customs : List String) : Vocabulary :=
  .ofGrammar { Grammar.empty with
    rules := [.keyword ⟨"words", false, true, operators.map (⟨·, "Op", "an operator"⟩) ++
      customs.map (⟨·, Vocabulary.customType, "a custom word"⟩)⟩]
    types := [⟨"Op", "gray", Vocabulary.operatorParent, none, none⟩] }

/-- A name between brackets and blanks, in the middle of literals, symbols and a word behind a letter
beyond ASCII. -/
theorem count_extract_amongLiterals :
    (∀ w ∈ knownWords (ofWords ["eq", "="] ["@me"]), (keyword w).isSearchable = true) ∧
      (∀ w ∈ knownWords (ofWords ["eq", "="] ["@me"]), ∀ c ∈ w.toList, isSeparator c = false) ∧
      delete (.ofFront stringFront) "a='x y'1 and(net_2\t99.5eq) éeq".toList =
        "a=1 and(".toList ++ ("net_2".toList ++ "\t99.5eq) éeq".toList) ∧
      (extract (ofWords ["eq", "="] ["@me"]) "a='x y'1 and(net_2\t99.5eq) éeq".toList).count
        "net_2" = 1 := by
  have hsearch : ∀ w ∈ knownWords (ofWords ["eq", "="] ["@me"]),
      (keyword w).isSearchable = true := by decide +kernel
  have hplain : ∀ w ∈ knownWords (ofWords ["eq", "="] ["@me"]),
      ∀ c ∈ w.toList, isSeparator c = false := by
    have hall : ((knownWords (ofWords ["eq", "="] ["@me"])).all fun w =>
        w.toList.all fun c => !isSeparator c) = true := by decide +kernel
    simpa only [List.all_eq_true, Bool.not_eq_true'] using hall
  have htext : delete (.ofFront stringFront) "a='x y'1 and(net_2\t99.5eq) éeq".toList =
      "a=1 and(".toList ++ ("net_2".toList ++ "\t99.5eq) éeq".toList) := by decide +kernel
  have hleft : ∀ c ∈ "a=1 and(".toList.getLast?, isSeparator c = true :=
    fun c hc => Option.some.inj hc ▸ rfl
  have hright : ∀ c ∈ "\t99.5eq) éeq".toList.head?, isSeparator c = true :=
    fun c hc => Option.some.inj hc ▸ rfl
  exact ⟨hsearch, hplain, htext, count_extract hsearch hplain htext hleft hright (by decide)
    (by decide +kernel)⟩

end Annotator.Identifiers

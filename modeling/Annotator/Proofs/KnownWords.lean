import Annotator.Marking
import Annotator.Proofs.Joints

/-!
# Known words

No known word is one of the names of an expression. Deleting a word leaves no occurrence of it as a word
of its own, and deleting another word brings none about: word characters are not joined, so what stands in
the text that is left stood in the text before, and where it was next to a deleted word, it was bounded
there. So what one deletion has achieved is kept by those that follow.

## Key results

- `stands_of_delete`: a word of word characters stands only where it stood before a deletion
- `absent_withoutWords`: of the known words without a mark none is left
- `extract_new`: names are distinct, have the form of names and are no known words
-/

namespace Annotator

open Text (isWord wordBoundary)

namespace Cut

/-- A text ends with no word character if what is left does not, nor a hit at the end. -/
theorem isWord_last_text {c : Cut} (h : c.plain.getLast?.any isWord = false)
    (hhit : ∀ (d : Cut) (m : List Char) (g : List (Option (List Char))),
      c = d.append (.hit [] m g (.rest [])) → m ≠ [] ∧ m.getLast?.any isWord = false) :
    c.text.getLast?.any isWord = false := by
  rcases c.eq_rest_or_append_hit with ⟨t, rfl⟩ | ⟨d, m, g, t, rfl⟩
  · rwa [plain_rest] at h
  · by_cases ht : t = []
    · subst ht
      obtain ⟨hm, hlast⟩ := hhit d m g rfl
      rwa [text_append, text_hit, text_rest, List.nil_append, List.append_nil,
        List.getLast?_append_of_ne_nil _ hm]
    · rw [plain_append, plain_hit, plain_rest, List.nil_append,
        List.getLast?_append_of_ne_nil _ ht] at h
      rwa [text_append, text_hit, text_rest, ← List.append_assoc, List.getLast?_append_of_ne_nil _ ht]

/-- A text begins with no word character if what is left does not, nor a hit at the front. -/
theorem isWord_head_text {c : Cut} (h : c.plain.head?.any isWord = false)
    (hhit : ∀ (m : List Char) (g : List (Option (List Char))) (d : Cut),
      c = .hit [] m g d → m ≠ [] ∧ m.head?.any isWord = false) :
    c.text.head?.any isWord = false := by
  cases c with
  | rest t => rwa [plain_rest] at h
  | hit b m g d =>
    cases b with
    | nil =>
      obtain ⟨hm, hhead⟩ := hhit m g d rfl
      rwa [text_hit, List.nil_append, List.head?_append_of_ne_nil m hm]
    | cons x b =>
      rw [plain_hit] at h
      exact h

end Cut

namespace Identifiers

open Search (lastOf)
open Spacing (Spelled Stands Usual isWord_ends wordBoundary_iff_of_isWord)

/-! ### Deleting a word -/

/-- A word that stands nowhere in a text as a word of its own. -/
def Absent (word text : List Char) : Prop :=
  ∀ a m r, text = a ++ (m ++ r) → ¬ Stands word a m r

section Delete

variable {k : String} {word text : List Char}

/-- A word of word characters stands only where it stood before a deletion, between the hits. -/
theorem stands_of_delete (hk : k.toList ≠ []) (hcut : ((keyword k).search.cut text).Apart)
    (hne : word ≠ []) (hword : ∀ c ∈ word, isWord c = true) (hu : Usual text) {a m r : List Char}
    (h : delete (keyword k).search text = a ++ (m ++ r)) (hstands : Stands word a m r) :
    ∃ c₁ c₂ : Cut, (keyword k).search.cut text = c₁.append (c₂.prepend m) ∧
      Stands word c₁.text m c₂.text := by
  have hm := hstands.spelled.ne_nil hne
  have hmword : ∀ c ∈ m, isWord c = true := by
    intro c hc
    obtain ⟨b, hb, hbc⟩ := Results.exists_of_mem_right hstands.spelled hc
    have hmem : c ∈ delete (keyword k).search text := by
      rw [h]
      exact List.mem_append_right a (List.mem_append_left r hc)
    exact hu.isWord_of_foldEq ((delete_sublist _ text).subset hmem) (hword b hb) hbc
  obtain ⟨hhead, hlast⟩ := isWord_ends hm hmword
  obtain ⟨hspelled, hleft, hright⟩ := hstands
  rw [wordBoundary_iff_of_isWord hhead] at hleft
  rw [Text.wordBoundary_comm, wordBoundary_iff_of_isWord hlast] at hright
  rw [delete_eq] at h
  obtain ⟨c₁, c₂, heq, rfl, rfl⟩ := hcut.exists_of_plain hm hmword h
  have hc := Search.scanned (Keyword.front_proper (k := keyword k) hk) none text
  rw [← Search.cut_ofFront, ← Keyword.search, heq] at hc
  refine ⟨c₁, c₂, heq, hspelled, (wordBoundary_iff_of_isWord hhead).mpr ?_, ?_⟩
  · -- a hit that ends at the word is bounded there
    refine Cut.isWord_last_text hleft fun d hit g hd => ?_
    have hhit : (d.append (.hit [] hit g (.rest []))).append (c₂.prepend m) =
        d.append (.hit [] hit g (c₂.prepend m)) := by
      rw [Cut.append_assoc]
      simp [Cut.append]
    rw [hd, hhit] at hc
    obtain ⟨hspelled, -, hbound⟩ := stands_of_hit hk hc
    rw [Cut.text_prepend, List.head?_append_of_ne_nil m hm, wordBoundary_iff_of_isWord hhead] at hbound
    exact ⟨hspelled.ne_nil hk, hbound⟩
  · -- so is a hit that begins there
    rw [Text.wordBoundary_comm, wordBoundary_iff_of_isWord hlast]
    refine Cut.isWord_head_text hright fun hit g e he => ?_
    have hhit : c₁.append ((Cut.hit [] hit g e).prepend m) =
        (c₁.append (.rest m)).append (.hit [] hit g e) := by
      rw [Cut.append_assoc]
      simp [Cut.append, Cut.prepend]
    rw [he, hhit] at hc
    obtain ⟨hspelled, hbound, -⟩ := stands_of_hit hk hc
    rw [Cut.text_append, Cut.text_rest, List.getLast?_append_of_ne_nil _ hm, Text.wordBoundary_comm,
      wordBoundary_iff_of_isWord hlast] at hbound
    exact ⟨hspelled.ne_nil hk, hbound⟩

/-- Deleting a word brings no other one about. -/
theorem Absent.delete (hk : k.toList ≠ []) (hcut : ((keyword k).search.cut text).Apart)
    (hne : word ≠ []) (hword : ∀ c ∈ word, isWord c = true) (hu : Usual text)
    (h : Absent word text) : Absent word (delete (keyword k).search text) := by
  intro a m r hdelete hstands
  obtain ⟨c₁, c₂, heq, hstands⟩ := stands_of_delete hk hcut hne hword hu hdelete hstands
  refine h c₁.text m c₂.text ?_ hstands
  rw [← Search.text_cut (keyword k).search text, heq, Cut.text_append, Cut.text_prepend]

/-- Deleting a word leaves none of it. -/
theorem absent_delete (hne : k.toList ≠ []) (hcut : ((keyword k).search.cut text).Apart)
    (hword : ∀ c ∈ k.toList, isWord c = true) (hu : Usual text) :
    Absent k.toList (delete (keyword k).search text) := by
  intro a m r hdelete hstands
  obtain ⟨c₁, c₂, heq, hspelled, hleft, hright⟩ :=
    stands_of_delete hne hcut hne hword hu hdelete hstands
  have hm := hspelled.ne_nil hne
  have hc := Search.scanned (Keyword.front_proper (k := keyword k) hne) none text
  rw [← Search.cut_ofFront, ← Keyword.search, heq] at hc
  -- it would have been found between the hits
  have hnone := hc.front_eq_none hm
  have hfound : (keyword k).front (lastOf none c₁.text) (m ++ c₂.text) = some m.length := by
    refine Keyword.front_append_eq_some_iff.mpr ⟨hspelled, fun _ => ⟨?_, ?_⟩⟩
    · rwa [lastOf, Option.or_none, List.head?_append_of_ne_nil m hm]
    · rwa [Search.lastOf_of_ne_nil hm]
  rw [hfound] at hnone
  cases hnone

end Delete

/-! ### All known words in turn -/

/-- What is behind the mark of a word, if it begins with one. -/
def unmarked : List Char → List Char
  | [] => []
  | c :: later => if WordMarking.sentinels.contains c then later else c :: later

/-- Word characters, with a mark in front or without. -/
structure IsMarked (word : List Char) : Prop where
  ne_nil : unmarked word ≠ []
  isWord : ∀ c ∈ unmarked word, Text.isWord c = true

instance (word : List Char) : Decidable (IsMarked word) :=
  decidable_of_iff (unmarked word ≠ [] ∧ (unmarked word).all Text.isWord = true) <| by
    rw [List.all_eq_true]
    exact ⟨fun h => ⟨h.1, h.2⟩, fun h => ⟨h.ne_nil, h.isWord⟩⟩

theorem unmarked_suffix (word : List Char) : unmarked word <:+ word := by
  cases word with
  | nil => exact List.suffix_refl []
  | cons c later =>
    rw [unmarked]
    split
    · exact List.suffix_cons c later
    · exact List.suffix_refl _

/-- A word with a mark in front ends with a word character. -/
theorem IsMarked.worded {word : List Char} (h : IsMarked word) : Worded word := by
  obtain ⟨s, hs⟩ := unmarked_suffix word
  obtain ⟨c, hc⟩ := Option.ne_none_iff_exists'.mp (mt List.getLast?_eq_none_iff.mp h.ne_nil)
  right
  rw [← hs, List.getLast?_append_of_ne_nil s h.ne_nil, hc]
  exact h.isWord c (List.mem_of_getLast? hc)

theorem IsMarked.word_ne_nil {word : List Char} (h : IsMarked word) : word ≠ [] := by
  rintro rfl
  exact h.ne_nil rfl

/-- Of the words that are deleted none is left, but for those with a mark. -/
theorem absent_withoutWords {words : List String} {text : List Char}
    (hwords : ∀ w ∈ words, IsMarked w.toList) (hu : Usual text) {k : String}
    (hk : ∀ c ∈ k.toList, isWord c = true) (hne : k.toList ≠ [])
    (h : Absent k.toList text ∨ k ∈ words) : Absent k.toList (withoutWords words text) := by
  induction words generalizing text with
  | nil => exact h.resolve_right List.not_mem_nil
  | cons w later ih =>
    obtain ⟨hw, hlater⟩ := List.forall_mem_cons.mp hwords
    have hcut := apart_keyword hw.worded hu
    refine ih hlater (usual_delete _ hu) ?_
    rcases h with h | h
    · exact .inl (h.delete hw.word_ne_nil hcut hne hk hu)
    · rcases List.mem_cons.mp h with rfl | h
      · exact .inl (absent_delete hne hcut hk hu)
      · exact .inr h

/-- A field stands in its text as a word of its own if it is spelled like a word of word characters. -/
theorem stands_of_field {word a field b : List Char} (h : Field a field b)
    (hspelled : Spelled word field) (hne : field ≠ []) (hfield : ∀ c ∈ field, isWord c = true) :
    Stands word a field b := by
  have hedge {x : Option Char} (hx : ∀ c ∈ x, isSeparator c = true) : x.any isWord = false := by
    cases x with
    | none => rfl
    | some c =>
      rw [Option.any_some, Bool.eq_false_iff]
      intro hc
      have := hx c rfl
      rw [isSeparator_of_isWord hc] at this
      cases this
  obtain ⟨hhead, hlast⟩ := isWord_ends hne hfield
  refine ⟨hspelled, (wordBoundary_iff_of_isWord hhead).mpr (hedge h.left), ?_⟩
  rw [Text.wordBoundary_comm]
  exact (wordBoundary_iff_of_isWord hlast).mpr (hedge h.right)

/-- The names of an expression are distinct; each is a letter and then letters, digits and underscores;
and none is a known word up to case. -/
theorem extract_new {v : Vocabulary} {text : List Char}
    (hwords : ∀ w ∈ knownWords v, IsMarked w.toList) (hu : Usual text) :
    (extract v text).Nodup ∧ ∀ name ∈ extract v text,
      (∃ c later, name.toList = c :: later ∧ c.isAlpha = true ∧ ∀ d ∈ later, isWord d = true) ∧
      ∀ w ∈ knownWords v, name.toList.map Char.toLower ≠ w.toList.map Char.toLower := by
  refine ⟨nodup_extract v text, fun name h => ?_⟩
  obtain ⟨-, -, hfield, hname⟩ := mem_extract_iff.mp h
  have hword := (isWord_of_isName hname).1
  obtain ⟨c, later, hcons⟩ : ∃ c later, name.toList = c :: later := by
    refine List.exists_cons_of_ne_nil fun hnil => ?_
    rw [hnil] at hname
    cases hname
  refine ⟨?_, fun w hw heq => ?_⟩
  · rw [hcons, isName, Bool.and_eq_true, List.all_eq_true] at hname
    exact ⟨c, later, hcons, hname⟩
  · have hne : name.toList ≠ [] := by
      rw [hcons]
      exact List.cons_ne_nil c later
    -- the word would be one of word characters, and would be left
    have hspelled : Spelled w.toList name.toList := .of_map_toLower heq
    have hw' : ∀ d ∈ w.toList, isWord d = true := by
      intro d hd
      have hmem : d.toLower ∈ name.toList.map Char.toLower := heq ▸ List.mem_map_of_mem hd
      obtain ⟨e, he, hed⟩ := List.mem_map.mp hmem
      rw [← Text.isWord_toLower, ← hed, Text.isWord_toLower]
      exact hword e he
    obtain ⟨a, b, htext, hbounds⟩ := mem_fields_iff.mp hfield
    exact absent_withoutWords hwords (usual_withoutLiterals hu) hw' (hwords w hw).word_ne_nil (.inr hw)
      a name.toList b htext (stands_of_field hbounds hspelled hne hword)

/-- Words of which one is a part of another, and one with a mark behind a letter. -/
theorem extract_new_nested :
    (∀ w ∈ knownWords (ofWords ["is", "is_not"] ["@me"]), IsMarked w.toList) ∧
      Usual "(IS_NOT total IS a@me) is1 Total total@ME".toList ∧
      extract (ofWords ["is", "is_not"] ["@me"]) "(IS_NOT total IS a@me) is1 Total total@ME".toList =
        ["total", "a", "is1", "Total"] ∧
      ∀ w ∈ knownWords (ofWords ["is", "is_not"] ["@me"]),
        "Total".toList.map Char.toLower ≠ w.toList.map Char.toLower := by
  have hwords : ∀ w ∈ knownWords (ofWords ["is", "is_not"] ["@me"]), IsMarked w.toList := by
    decide +kernel
  have hu : Usual "(IS_NOT total IS a@me) is1 Total total@ME".toList := ⟨by decide, by decide⟩
  have hnames : extract (ofWords ["is", "is_not"] ["@me"])
      "(IS_NOT total IS a@me) is1 Total total@ME".toList = ["total", "a", "is1", "Total"] := by
    decide +kernel
  refine ⟨hwords, hu, hnames, ((extract_new hwords hu).2 "Total" ?_).2⟩
  rw [hnames]
  decide

end Identifiers

end Annotator

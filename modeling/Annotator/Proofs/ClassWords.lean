import Mathlib.Data.List.SplitBy
import Annotator.ClassName
import Annotator.Proofs.Cuts
import Annotator.Proofs.LoweredTexts

/-!
# The words of class names

A hump is a small letter or a digit with a capital right behind it. A name falls into words at its humps,
and its class name has the words in lowercase with hyphens between. The search for humps goes on behind
the capital of the hump that it found, but misses none: a capital begins no hump.

Neither of the two characters of a hump lets a letter on its one side have a say in the lowercase of a
letter on its other side, and nor does a hyphen. So it does not matter whether the words are put in
lowercase before or after they are joined, or with the rest of the name.

## Key results

- `ClassName.fallsInto_iff`: a name falls into words in just one way
- `ClassName.replace_cut_hump`: putting a hyphen into every hump is joining the words
- `ClassName.lowercase_intercalate`: the lowercase of joined words
- `ClassName.kebabString_joins_words`: what class names are made of
-/

namespace Annotator.ClassName

open Text (isWord lowercase lowercase_append lowercase_lowercase any_isUpper_lowercase IsFirm
  isFirm_of_isWord isFirm_of_ascii isWord_of_isUpper)
open Spacing (toNat_lt_of_isWord)

/-- Whether one character is a small letter or a digit and the next one a capital. -/
def isHump (a b : Char) : Bool := isSmall a && b.isUpper

theorem isUpper_of_isHump {a b : Char} (h : isHump a b = true) : b.isUpper = true :=
  (Bool.and_eq_true_iff.mp h).2

theorem isWord_of_isSmall {c : Char} (h : isSmall c = true) : isWord c = true := by
  have hsmall : (c.isLower || c.isDigit) = true := h
  show ((c.isUpper || c.isLower) || c.isDigit || c == '_') = true
  rw [Bool.or_assoc c.isUpper, hsmall, Bool.or_true, Bool.true_or]

/-! ### Words -/

/-- The words of a name: a word ends and the next one begins where there is a hump. -/
def words (name : List Char) : List (List Char) := name.splitBy fun a b => !isHump a b

/-- Between two words there is a hump. -/
def Meet (v w : List Char) : Prop := ∃ a ∈ v.getLast?, ∃ b ∈ w.head?, isHump a b = true

/-- A name falls into words: together they are the name, none is empty, there is no hump inside a word,
and there is one between any two words that follow one another. -/
structure FallsInto (name : List Char) (ws : List (List Char)) : Prop where
  flatten_eq : ws.flatten = name
  ne_nil : [] ∉ ws
  inside : ∀ w ∈ ws, w.IsChain fun a b => isHump a b = false
  between : ws.IsChain Meet

theorem meet_iff {v w : List Char} :
    Meet v w ↔ ∃ hv hw, (!isHump (v.getLast hv) (w.head hw)) = false := by
  simp only [Bool.not_eq_false']
  constructor
  · rintro ⟨a, ha, b, hb, hhump⟩
    obtain ⟨v, rfl⟩ := List.getLast?_eq_some_iff.mp ha
    obtain ⟨w, rfl⟩ := List.head?_eq_some_iff.mp hb
    exact ⟨List.concat_ne_nil a v, List.cons_ne_nil b w, by simpa using hhump⟩
  · rintro ⟨hv, hw, hhump⟩
    exact ⟨_, List.getLast_mem_getLast? hv, _, List.head_mem_head? hw, hhump⟩

/-- A name falls into its words and in no other way. -/
theorem fallsInto_iff {name : List Char} {ws : List (List Char)} :
    FallsInto name ws ↔ ws = words name := by
  rw [eq_comm, words, List.splitBy_eq_iff]
  simp only [← meet_iff, Bool.not_eq_true']
  exact ⟨fun ⟨hflatten, hne, hinside, hbetween⟩ => ⟨hflatten.symm, hne, hinside, hbetween⟩,
    fun ⟨hflatten, hne, hinside, hbetween⟩ => ⟨hflatten.symm, hne, hinside, hbetween⟩⟩

theorem fallsInto_words (name : List Char) : FallsInto name (words name) :=
  fallsInto_iff.mpr rfl

/-- At a hump a word ends. -/
theorem words_cons_of_hump {a b : Char} (h : isHump a b = true) (later : List Char) :
    words (a :: b :: later) = [a] :: words (b :: later) := by
  apply List.splitBy_append_cons (l := [a]) later
  intro x hx
  have hx : a = x := Option.some.inj hx
  rw [← hx, h, Bool.not_true]

/-- Where there is no hump the word goes on. -/
theorem words_cons_of_not_hump {a b : Char} (h : isHump a b = false) (later : List Char) :
    ∃ w ws, words (b :: later) = w :: ws ∧ words (a :: b :: later) = (a :: w) :: ws := by
  obtain ⟨hflatten, hne, hinside, hbetween⟩ := fallsInto_words (b :: later)
  match hws : words (b :: later) with
  | [] => simp [hws] at hflatten
  | [] :: ws => simp [hws] at hne
  | (c :: w) :: ws =>
    rw [hws] at hflatten hne hinside hbetween
    obtain ⟨rfl, -⟩ := List.cons.inj hflatten
    refine ⟨c :: w, ws, rfl, (fallsInto_iff.mp ⟨?_, ?_, ?_, ?_⟩).symm⟩
    · simpa using hflatten
    · simpa using hne
    · obtain ⟨hfirst, hrest⟩ := List.forall_mem_cons.mp hinside
      exact List.forall_mem_cons.mpr ⟨List.isChain_cons_cons.mpr ⟨h, hfirst⟩, hrest⟩
    · cases ws with
      | nil => exact List.isChain_singleton _
      | cons v ws =>
        obtain ⟨hmeet, hrest⟩ := List.isChain_cons_cons.mp hbetween
        refine List.isChain_cons_cons.mpr ⟨?_, hrest⟩
        -- a character more in front of the word leaves its last one in place
        rwa [Meet, List.getLast?_cons_cons]

/-! ### The search for humps -/

theorem humpFront_cons_cons (prev : Option Char) (a b : Char) (later : List Char) :
    humpFront prev (a :: b :: later) = if isHump a b then some 2 else none := rfl

/-- What is found is a hump. -/
theorem exists_of_humpFront {prev : Option Char} {text : List Char} {n : Nat}
    (h : humpFront prev text = some n) :
    ∃ a b later, text = a :: b :: later ∧ isHump a b = true ∧ n = 2 := by
  match text with
  | [] => cases h
  | [_] => cases h
  | a :: b :: later =>
    rw [humpFront_cons_cons] at h
    split at h
    · rename_i hhump
      exact ⟨a, b, later, rfl, hhump, (Option.some.inj h).symm⟩
    · cases h

theorem humpFront_proper : Search.Proper humpFront where
  pos h := by
    obtain ⟨-, -, -, -, -, rfl⟩ := exists_of_humpFront h
    exact Nat.two_pos
  le h := by
    obtain ⟨a, b, later, rfl, -, rfl⟩ := exists_of_humpFront h
    simp

/-- A capital begins no hump. -/
theorem humpFront_of_isUpper {c : Char} (h : c.isUpper = true) (prev : Option Char)
    (later : List Char) : humpFront prev (c :: later) = none := by
  have hsmall : ∀ n < 128, (Char.ofNat n).isUpper = true → isSmall (Char.ofNat n) = false := by
    decide
  have hc := hsmall c.toNat (toNat_lt_of_isWord (isWord_of_isUpper h))
  rw [Char.ofNat_toNat] at hc
  cases later with
  | nil => rfl
  | cons b later => simp [humpFront, hc h]

/-- Putting a hyphen into every hump is joining the words with hyphens. -/
theorem replace_cut_hump (name : List Char) :
    (hump.cut name).replace split = ['-'].intercalate (words name) := by
  rw [hump, Search.cut_ofFront]
  -- by induction on the name, whatever stands before it
  generalize (none : Option Char) = prev
  induction name generalizing prev with
  | nil =>
    rw [Search.scan_nil humpFront_proper]
    rfl
  | cons a name ih =>
    cases name with
    | nil =>
      rw [Search.scan_of_none humpFront_proper rfl, Search.scan_nil humpFront_proper]
      rfl
    | cons b later =>
      cases hhump : isHump a b with
      | true =>
        have hfront : humpFront prev (a :: b :: later) = some 2 := by
          rw [humpFront_cons_cons, if_pos hhump]
        have hcapital : humpFront (some a) (b :: later) = none :=
          humpFront_of_isUpper (isUpper_of_isHump hhump) (some a) later
        -- the search goes on behind the capital, which the induction hypothesis begins with
        have hlater := ih (some a)
        rw [Search.scan_of_none humpFront_proper hcapital, Cut.replace_prepend] at hlater
        rw [Search.scan_of_some humpFront_proper hfront, words_cons_of_hump hhump,
          List.intercalate_cons_of_ne_nil (by simp [words]), ← hlater]
        rfl
      | false =>
        have hfront : humpFront prev (a :: b :: later) = none := by
          rw [humpFront_cons_cons, if_neg (by simp [hhump])]
        obtain ⟨w, ws, hwords, hwords'⟩ := words_cons_of_not_hump hhump later
        rw [Search.scan_of_none humpFront_proper hfront, Cut.replace_prepend, ih, hwords, hwords',
          List.intercalate_cons_cons_left]
        rfl

/-- A class name is the lowercase of the words of the name, joined with hyphens. -/
theorem kebab_eq (name : List Char) : kebab name = lowercase (['-'].intercalate (words name)) := by
  rw [kebab, replace_cut_hump]

/-! ### The lowercase of words -/

/-- Two words meet with firm characters. -/
theorem Meet.firm {v w : List Char} (h : Meet v w) :
    (∀ c ∈ v.getLast?, IsFirm c) ∧ ∃ b w', w = b :: w' ∧ IsFirm b := by
  obtain ⟨a, ha, b, hb, hhump⟩ := h
  obtain ⟨hsmall, hupper⟩ := Bool.and_eq_true_iff.mp hhump
  obtain ⟨w', rfl⟩ := List.head?_eq_some_iff.mp hb
  refine ⟨fun c hc => ?_, b, w', rfl, isFirm_of_isWord (isWord_of_isUpper hupper)⟩
  obtain rfl := Option.mem_unique ha hc
  exact isFirm_of_isWord (isWord_of_isSmall hsmall)

/-- The lowercase of joined words is that of the words, joined. -/
theorem lowercase_intercalate {ws : List (List Char)} (h : ws.IsChain Meet) (sep : List Char)
    (hsep : ∀ c ∈ sep, IsFirm c) :
    lowercase (sep.intercalate ws) = (lowercase sep).intercalate (ws.map lowercase) := by
  induction ws with
  | nil => rfl
  | cons w ws ih =>
    cases ws with
    | nil => simp
    | cons v ws =>
      obtain ⟨hmeet, hrest⟩ := List.isChain_cons_cons.mp h
      obtain ⟨hlast, b, v', rfl, hb⟩ := hmeet.firm
      have hhead : ∀ c ∈ (sep.intercalate ((b :: v') :: ws)).head?, IsFirm c := by
        rw [List.intercalate_cons_cons_left]
        intro c hc
        obtain rfl := Option.mem_some.mp hc
        exact hb
      have hsepLast : ∀ c ∈ sep.getLast?, IsFirm c := fun c hc => hsep c (List.mem_of_getLast? hc)
      have hsepHead : ∀ c ∈ (sep ++ sep.intercalate ((b :: v') :: ws)).head?, IsFirm c := by
        intro c hc
        rw [List.head?_append] at hc
        rcases Option.or_eq_some_iff.mp hc with hc | ⟨-, hc⟩
        · exact hsep c (List.mem_of_head? hc)
        · exact hhead c hc
      rw [List.intercalate_cons_cons, List.append_assoc, lowercase_append hlast hsepHead,
        lowercase_append hsepLast hhead, ih hrest]
      simp only [List.map_cons, List.intercalate_cons_cons, List.append_assoc]

/-- A name without capitals is one word, so it has no hyphen more in its class name. -/
theorem intercalate_words_of_no_capital {name : List Char} (h : name.any Char.isUpper = false) :
    ['-'].intercalate (words name) = name := by
  by_cases hne : name = []
  · rw [hne]
    rfl
  · have hchain : name.IsChain fun a b => (!isHump a b) = true := by
      refine List.Pairwise.isChain (List.pairwise_of_forall_mem_list fun a _ b hb => ?_)
      have := List.any_eq_false.mp h b hb
      simp [isHump, this]
    rw [words, List.splitBy_of_isChain hne hchain, List.intercalate_singleton]

/-- A class name has no capital. -/
theorem any_isUpper_kebab (name : List Char) : (kebab name).any Char.isUpper = false :=
  any_isUpper_lowercase _

/-- The class name of a class name is that name. -/
theorem kebab_kebab (name : List Char) : kebab (kebab name) = kebab name := by
  rw [kebab_eq (kebab name), intercalate_words_of_no_capital (any_isUpper_kebab name), kebab,
    lowercase_lowercase]

/-- Words joined with nothing between. -/
theorem nil_intercalate (ws : List (List Char)) : [].intercalate ws = ws.flatten := by
  induction ws with
  | nil => rfl
  | cons w ws ih =>
    cases ws with
    | nil => simp
    | cons v ws => simp only [List.intercalate_cons_cons, ih, List.append_nil, List.flatten_cons]

/-- What class names are made of. A name falls into words in just one way: a word ends wherever a capital
follows a small letter or a digit, and nowhere else. Its class name is the lowercase of the words joined
with hyphens, which is the same as the words in lowercase, joined with hyphens; without the hyphens that is
the lowercase of the name. A class name has no capital, and it is its own class name. -/
theorem kebabString_joins_words (s : String) :
    (∀ ws, FallsInto s.toList ws ↔ ws = words s.toList) ∧
    (kebabString s).toList = lowercase (['-'].intercalate (words s.toList)) ∧
    (kebabString s).toList = ['-'].intercalate ((words s.toList).map lowercase) ∧
    lowercase s.toList = ((words s.toList).map lowercase).flatten ∧
    (kebabString s).toList.any Char.isUpper = false ∧
    kebabString (kebabString s) = kebabString s := by
  have hbetween := (fallsInto_words s.toList).between
  have hkebab : (kebabString s).toList = kebab s.toList := String.toList_ofList
  have hhyphen : ∀ c ∈ ['-'], IsFirm c := by
    intro c hc
    obtain rfl := List.mem_singleton.mp hc
    exact isFirm_of_ascii (by decide) (by decide)
  refine ⟨fun ws => fallsInto_iff, ?_, ?_, ?_, ?_, ?_⟩
  · rw [hkebab, kebab_eq]
  · rw [hkebab, kebab_eq, lowercase_intercalate hbetween _ hhyphen]
    rfl
  · have hname := lowercase_intercalate hbetween [] (fun _ h => nomatch h)
    rw [nil_intercalate, (fallsInto_words s.toList).flatten_eq] at hname
    rw [hname, ← nil_intercalate]
    rfl
  · rw [hkebab]
    exact any_isUpper_kebab s.toList
  · rw [kebabString, hkebab, kebab_kebab]
    rfl

/-- The next hump may begin right behind the capital of the one before it. -/
example : words "aB1CdE".toList = ["a", "B1", "Cd", "E"].map String.toList ∧
    kebabString "aB1CdE" = "a-b1-cd-e" := by
  decide +kernel

end Annotator.ClassName

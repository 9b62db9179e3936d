import Mathlib.Data.String.Basic
import Annotator.Proofs.FoldSpellings
import Annotator.Unicode.Latest

/-!
# Sets as they are written

The tables of characters are texts: ranges in hexadecimal, with spaces between. To know something of a
set that is written so is to know it of every range that can be read in its text. Splitting a string at
a character is splitting the list of its characters, and so the ranges of a text are a list that can be
computed.

The set read here is that of the characters that do not separate a letter from the word around it. In
ASCII they are few, and neither a letter nor a digit nor the hyphen is one of them.

## Key results

- `Unicode.splitOn_ofList`: splitting a string at a character
- `Unicode.CodeSet.ofHex_ofList`: the ranges that a text is read as
- `Unicode.Latest.mem_ignorableMarks`: the characters of ASCII that do not separate
-/

namespace Annotator.Unicode

open String (utf8Len)

/-! ### Splitting a string -/

/-- Splitting a string at a character, from a place in it on: `l` has been split off already, and `m` is
the beginning of the next part. -/
theorem splitOnAux_ofList (sep : Char) (l m r : List Char) (parts : List String) :
    (String.ofList (l ++ m ++ r)).splitOnAux (String.ofList [sep]) ⟨utf8Len l⟩
        ⟨utf8Len l + utf8Len m⟩ 0 parts =
      parts.reverse ++ (r.splitOnPPrepend (· == sep) m.reverse).map String.ofList := by
  induction r generalizing l m parts with
  | nil =>
    have hend := String.atEnd_of_valid (l ++ m) []
    rw [String.utf8Len_append] at hend
    rw [String.splitOnAux, if_pos (hend.mpr rfl), String.extract_of_valid, List.splitOnPPrepend,
      List.reverse_cons, List.reverse_reverse]
    rfl
  | cons c r ih =>
    have hend := String.atEnd_of_valid (l ++ m) (c :: r)
    have hget := String.get_of_valid (l ++ m) (c :: r)
    have hnext := String.next_of_valid (l ++ m) c r
    have hsep : String.Pos.Raw.get (String.ofList [sep]) 0 = sep := String.get_of_valid [] [sep]
    rw [String.utf8Len_append] at hend hget hnext
    rw [String.splitOnAux, if_neg (by rw [hend]; exact List.cons_ne_nil c r), hget, hsep,
      List.headD_cons, List.splitOnPPrepend_cons_eq_if]
    by_cases heq : (c == sep) = true
    · -- the separator has been read to its end, so a part ends in front of it
      have hsepNext : String.Pos.Raw.next (String.ofList [sep]) 0 = ⟨utf8Len [sep]⟩ := by
        rw [String.utf8Len_cons]
        exact String.next_of_valid [] sep []
      have hsepEnd : String.Pos.Raw.atEnd (String.ofList [sep]) ⟨utf8Len [sep]⟩ = true :=
        (String.atEnd_of_valid [sep] []).mpr rfl
      have hback : (⟨utf8Len l + utf8Len m + c.utf8Size⟩ : String.Pos.Raw).unoffsetBy
          ⟨utf8Len [sep]⟩ = ⟨utf8Len l + utf8Len m⟩ := by
        rw [beq_iff_eq.mp heq]
        simp [String.Pos.Raw.unoffsetBy]
      have hplace : utf8Len (l ++ m ++ [c]) = utf8Len l + utf8Len m + c.utf8Size := by
        simp [Nat.add_assoc]
      have hlater := ih (l ++ m ++ [c]) [] (String.ofList m :: parts)
      rw [hplace, String.utf8Len_nil, Nat.add_zero, List.append_nil, List.append_assoc (l ++ m),
        List.singleton_append] at hlater
      rw [if_pos heq, if_pos heq, hnext, hsepNext]
      dsimp only
      rw [if_pos hsepEnd, hback, String.extract_of_valid, hlater, List.reverse_cons,
        List.append_assoc, List.reverse_reverse]
      rfl
    · -- the character belongs to the part that has begun
      have hstay : (⟨utf8Len l + utf8Len m⟩ : String.Pos.Raw).unoffsetBy 0 =
          ⟨utf8Len l + utf8Len m⟩ := rfl
      have hlater := ih l (m ++ [c]) parts
      rw [String.utf8Len_append, String.utf8Len_cons, String.utf8Len_nil, Nat.zero_add,
        ← Nat.add_assoc, List.reverse_append, List.append_assoc, List.append_assoc] at hlater
      rw [if_neg heq, if_neg heq, hstay, hnext, List.append_assoc]
      exact hlater

/-- Splitting a string at a character is splitting the list of its characters. -/
theorem splitOn_ofList (sep : Char) (text : List Char) :
    (String.ofList text).splitOn (String.ofList [sep]) = (text.splitOn sep).map String.ofList := by
  have hne : ¬ (String.ofList [sep] == "") = true := by simp
  rw [String.splitOn, if_neg hne]
  exact splitOnAux_ofList sep [] [] text []

namespace CodeSet

/-! ### The ranges of a text -/

/-- The number that some hexadecimal digits stand for. -/
def ofDigits (digits : List Char) : Nat :=
  digits.foldl (fun n d => 16 * n + (if d.isDigit then d.toNat - 48 else d.toNat - 55)) 0

/-- The range that some characters are read as: two numbers with a hyphen between, or one number. -/
def range? (written : List Char) : Option (Nat × Nat) :=
  match written.splitOn '-' with
  | [one] => some (ofDigits one, ofDigits one)
  | [first, last] => some (ofDigits first, ofDigits last)
  | _ => none

theorem hexValue_ofList (digits : List Char) : hexValue (String.ofList digits) = ofDigits digits := by
  rw [hexValue, String.toList_ofList, ofDigits]

/-- A text is read range by range. -/
theorem ofHex_ofList (text : List Char) :
    ofHex (String.ofList text) = (text.splitOn ' ').filterMap range? := by
  have hspace : " " = String.ofList [' '] := rfl
  have hhyphen : "-" = String.ofList ['-'] := rfl
  rw [ofHex, hspace, hhyphen, splitOn_ofList, List.filterMap_map]
  congr 1
  funext written
  rw [Function.comp_apply, splitOn_ofList, range?]
  rcases written.splitOn '-' with _ | ⟨first, _ | ⟨last, _ | _⟩⟩
  · rfl
  · simp only [List.map_cons, List.map_nil, hexValue_ofList]
  · simp only [List.map_cons, List.map_nil, hexValue_ofList]
  · rfl

/-- What holds of every range that can be read in a text holds of those of the set. -/
theorem forall_mem_ofHex {P : Nat × Nat → Prop} (text : List Char)
    (h : ∀ r ∈ (text.splitOn ' ').filterMap range?, P r) :
    ∀ r ∈ ofHex (String.ofList text), P r := by
  rwa [ofHex_ofList]

theorem forall_mem_ofHex_cons {P : Nat × Nat → Prop} {texts : List String} (text : List Char)
    (h : ∀ r ∈ (text.splitOn ' ').filterMap range?, P r)
    (hlater : ∀ r ∈ texts.flatMap ofHex, P r) :
    ∀ r ∈ (String.ofList text :: texts).flatMap ofHex, P r := by
  rw [List.flatMap_cons]
  exact List.forall_mem_append.mpr ⟨forall_mem_ofHex text h, hlater⟩

end CodeSet

namespace Latest

/-! ### Characters that do not separate -/

/-- The characters of ASCII that do not separate a letter from the word around it: the apostrophe, the
full stop, the colon, the circumflex and the grave accent. -/
def ignorableMarks : List Nat := [0x27, 0x2E, 0x3A, 0x5E, 0x60]

/-- A range with just one of these characters, or beyond ASCII. -/
def IsIgnorableRange (r : Nat × Nat) : Prop :=
  r.1 ≤ r.2 ∧ (128 ≤ r.1 ∨ r.1 = r.2 ∧ r.1 ∈ ignorableMarks)

instance (r : Nat × Nat) : Decidable (IsIgnorableRange r) :=
  inferInstanceAs (Decidable (r.1 ≤ r.2 ∧ (128 ≤ r.1 ∨ r.1 = r.2 ∧ r.1 ∈ ignorableMarks)))

/-- The ranges of the table. -/
private theorem isIgnorableRange_table :
    ∀ r ∈ binaryProperty "Case_Ignorable", IsIgnorableRange r := by
  have hplace :
      binaryProperties.findIdx (fun r => goesBy r.names (looseName "Case_Ignorable")) = 4 := by
    decide +kernel
  obtain ⟨set, hset, hcodes⟩ :
      ∃ set, binaryProperties[4]? = some set ∧ ∀ r ∈ set.codes, IsIgnorableRange r := by
    refine ⟨_, rfl, ?_⟩
    simp only [NamedRanges.codes]
    -- the set is written in many texts, each of which is read on its own: a text that is written out
    -- is found to be the string of its characters without any computation
    repeat refine CodeSet.forall_mem_ofHex_cons _ (by decide +kernel) ?_
    simp
  rwa [binaryProperty, NamedRanges.find?, List.find?_eq_getElem?_findIdx, hplace, hset]

/-- The ranges of the characters that were added later. -/
private theorem isIgnorableRange_new :
    ∀ r ∈ newNonspacing ++ newModifiers, IsIgnorableRange r := by
  rw [newNonspacing, newModifiers]
  simp only [String.reduceAppend]
  exact List.forall_mem_append.mpr
    ⟨CodeSet.forall_mem_ofHex _ (by decide +kernel), CodeSet.forall_mem_ofHex _ (by decide +kernel)⟩

/-- No other characters of ASCII keep a letter and the word around it together. -/
theorem mem_ignorableMarks {n : Nat} (hn : n < 128) (h : caseIgnorable.contains n = true) :
    n ∈ ignorableMarks := by
  have hranges : ∀ r ∈ binaryProperty "Case_Ignorable" ++ newNonspacing ++ newModifiers,
      IsIgnorableRange r := by
    rw [List.append_assoc]
    exact List.forall_mem_append.mpr ⟨isIgnorableRange_table, isIgnorableRange_new⟩
  have hproper := fun r hr => (hranges r hr).1
  rw [caseIgnorable, (CodeSet.ascends_ofRanges hproper).contains_iff,
    CodeSet.covers_ofRanges hproper (.inl (by omega))] at h
  obtain ⟨r, hr, hle, hge⟩ := h
  obtain ⟨-, hfar | ⟨heq, hmem⟩⟩ := hranges r hr
  · omega
  · have : n = r.1 := by omega
    rwa [this]

end Latest

end Annotator.Unicode

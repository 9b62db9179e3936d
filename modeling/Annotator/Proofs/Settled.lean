import Annotator.Proofs.CaseMaps
import Annotator.Proofs.Results
import Annotator.Proofs.Tidying

/-!
# Settled texts

A text is *settled* for an operator if the operator is spelled as the grammar spells it wherever it
stands as a word, and has spaces around it. Whether a word stands somewhere depends on its spelling and
on the characters next to it, and so does having spaces around. So a text is settled if a word stands in
it only where it stands in a settled text, next to something worse; `Eases` says what that means. Tidied
texts are of this kind: in them stands the same, next to other blanks.

## Key results

- `Settled.of_eases`: a text in which no word has worse neighbours than in a settled one is settled
- `settled_tidy`: tidying keeps a text settled
-/

namespace Annotator.Spacing

open Text (isBlank isWord foldEq wordBoundary)

/-! ### Words that stand in a text -/

/-- A word without blanks, in ASCII. -/
structure IsOperator (word : List Char) : Prop where
  ne_nil : word ≠ []
  ascii : ∀ c ∈ word, c.toNat < 128
  noBlank : ∀ c ∈ word, isBlank c = false

instance (word : List Char) : Decidable (IsOperator word) :=
  decidable_of_iff (word ≠ [] ∧ (word.all fun c => c.toNat < 128 && !isBlank c) = true) <| by
    simp only [List.all_eq_true, Bool.and_eq_true, decide_eq_true_eq, Bool.not_eq_true']
    exact ⟨fun ⟨hne, h⟩ => ⟨hne, fun c hc => (h c hc).1, fun c hc => (h c hc).2⟩,
      fun h => ⟨h.ne_nil, fun c hc => ⟨h.ascii c hc, h.noBlank c hc⟩⟩⟩

/-- A word that neither begins nor ends with a blank. -/
structure IsEdged (word : List Char) : Prop where
  ne_nil : word ≠ []
  head : ∀ c ∈ word.head?, isBlank c = false
  last : ∀ c ∈ word.getLast?, isBlank c = false

theorem IsOperator.edged {word : List Char} (h : IsOperator word) : IsEdged word where
  ne_nil := h.ne_nil
  head c hc := h.noBlank c (List.mem_of_head? hc)
  last c hc := h.noBlank c (List.mem_of_getLast? hc)

/-- A spelling of a word, character by character up to case. -/
def Spelled (word m : List Char) : Prop := List.Forall₂ (fun a b => foldEq a b = true) word m

/-- A word stands between two texts as a word of its own. -/
structure Stands (word before m after : List Char) : Prop where
  spelled : Spelled word m
  left : wordBoundary before.getLast? m.head? = true
  right : wordBoundary m.getLast? after.head? = true

/-- What follows a word that has spaces behind it: nothing, or a run of spaces. -/
structure Spaced (text : List Char) : Prop where
  head : ∀ c, text.head? = some c → c = ' '
  run : ∀ c ∈ text.takeWhile isBlank, c = ' '

/-- A text in which a word is spelled as it is and has spaces around it, wherever it stands. -/
def Settled (word text : List Char) : Prop :=
  ∀ a m r, text = a ++ (m ++ r) → Stands word a m r → m = word ∧ Spaced a.reverse ∧ Spaced r

/-- A text without the letters beyond ASCII that are spellings of ASCII letters. -/
structure Usual (text : List Char) : Prop where
  noLongS : '\u017F' ∉ text
  noKelvin : '\u212A' ∉ text

/-- A character of words is an ASCII character. -/
theorem toNat_lt_of_isWord {c : Char} (h : isWord c = true) : c.toNat < 128 := by
  have hbound {last : Char} (hlast : last.toNat < 128) (hle : c.val ≤ last.val) : c.toNat < 128 :=
    Nat.lt_of_le_of_lt (UInt32.le_iff_toNat_le.mp hle) hlast
  rcases (Bool.or_eq_true c.isAlphanum (c == '_')).mp h with h | h
  · rcases (Bool.or_eq_true c.isAlpha c.isDigit).mp h with h | h
    · rcases (Bool.or_eq_true c.isUpper c.isLower).mp h with h | h
      · have hle : c.val ≤ 'Z'.val := (of_decide_eq_true h).2
        exact hbound (by decide) hle
      · have hle : c.val ≤ 'z'.val := of_decide_eq_true ((Bool.and_eq_true _ _).mp h).2
        exact hbound (by decide) hle
    · have hle : c.val ≤ '9'.val := of_decide_eq_true ((Bool.and_eq_true _ _).mp h).2
      exact hbound (by decide) hle
  · rw [beq_iff_eq.mp h]
    decide

/-- No blank is a character of words. -/
theorem isWord_eq_false_of_isBlank {c : Char} (h : isBlank c = true) : isWord c = false := by
  have hascii : ∀ n < 128, isBlank (Char.ofNat n) = true → isWord (Char.ofNat n) = false := by
    decide
  rw [Bool.eq_false_iff]
  intro hword
  have := hascii c.toNat (toNat_lt_of_isWord hword)
  rw [Char.ofNat_toNat] at this
  rw [this h] at hword
  cases hword

theorem Usual.of_subset {text part : List Char} (h : Usual text) (hp : part ⊆ text) :
    Usual part where
  noLongS hmem := h.noLongS (hp hmem)
  noKelvin hmem := h.noKelvin (hp hmem)

/-- In a usual text the spellings of a character of words are characters of words. -/
theorem Usual.isWord_of_foldEq {text : List Char} (h : Usual text) {a b : Char} (hb : b ∈ text)
    (ha : isWord a = true) (hab : foldEq a b = true) : isWord b = true := by
  have hs : b ≠ '\u017F' := fun heq => h.noLongS (heq ▸ hb)
  have hk : b ≠ '\u212A' := fun heq => h.noKelvin (heq ▸ hb)
  rw [Text.isWord_eq_of_foldEq (toNat_lt_of_isWord ha) hs hk hab, ha]

theorem foldEqText_iff {a b : List Char} : Text.foldEqText a b = true ↔ Spelled a b := by
  induction a generalizing b with
  | nil => cases b <;> simp [Text.foldEqText, Spelled]
  | cons c a ih =>
    cases b with
    | nil => simp [Text.foldEqText, Spelled]
    | cons d b =>
      rw [Text.foldEqText, Bool.and_eq_true, ih, Spelled, Spelled,
        List.forall₂_cons]

namespace Spelled

variable {word m : List Char}

theorem length_eq (h : Spelled word m) : m.length = word.length := (List.Forall₂.length_eq h).symm

theorem symm (h : Spelled word m) : Spelled m word :=
  List.Forall₂.imp (fun a b hab => (Text.foldEq_comm a b).trans hab) (List.Forall₂.flip h)

theorem trans {m' : List Char} (h : Spelled word m) (h' : Spelled m m') : Spelled word m' := by
  unfold Spelled at h h'
  induction h generalizing m' with
  | nil => exact h'
  | cons hab _ ih =>
    obtain ⟨c, l, hbc, hl, rfl⟩ := List.forall₂_cons_left_iff.mp h'
    exact .cons (Text.foldEq_trans hab hbc) (ih hl)

/-- The parts of a word are spelled one by one. -/
theorem exists_of_append {p q : List Char} (h : Spelled (p ++ q) m) :
    ∃ p' q', m = p' ++ q' ∧ Spelled p p' ∧ Spelled q q' := by
  refine ⟨m.take p.length, m.drop p.length, (List.take_append_drop _ _).symm, ?_, ?_⟩
  · have := List.forall₂_take p.length h
    rwa [List.take_left] at this
  · have := List.forall₂_drop p.length h
    rwa [List.drop_left] at this

/-- The parts of a spelling are spellings of parts. -/
theorem exists_of_append_right {p q : List Char} (h : Spelled word (p ++ q)) :
    ∃ v w, word = v ++ w ∧ Spelled v p ∧ Spelled w q := by
  refine ⟨word.take p.length, word.drop p.length, (List.take_append_drop _ _).symm, ?_, ?_⟩
  · have := List.forall₂_take p.length h
    rwa [List.take_left] at this
  · have := List.forall₂_drop p.length h
    rwa [List.drop_left] at this

theorem noBlank (h : Spelled word m) (hw : IsOperator word) : ∀ c ∈ m, isBlank c = false := by
  intro c hc
  obtain ⟨a, ha, hac⟩ := Results.exists_of_mem_right h hc
  rw [← Text.isBlank_eq_of_foldEq hac]
  exact hw.noBlank a ha

theorem ne_nil (h : Spelled word m) (hw : word ≠ []) : m ≠ [] := by
  rintro rfl
  exact hw (List.forall₂_nil_right_iff.mp h)

theorem reverse (h : Spelled word m) : Spelled word.reverse m.reverse := List.rel_reverse h

/-- A spelling begins with a spelling of the first character. -/
theorem exists_of_head {c : Char} (h : Spelled word m) (hc : c ∈ m.head?) :
    ∃ a ∈ word.head?, foldEq a c = true := by
  unfold Spelled at h
  cases h with
  | nil => cases hc
  | @cons a b word m hab _ =>
    obtain rfl : b = c := Option.some.inj hc
    exact ⟨a, rfl, hab⟩

/-- A spelling ends with a spelling of the last character. -/
theorem exists_of_last {c : Char} (h : Spelled word m) (hc : c ∈ m.getLast?) :
    ∃ a ∈ word.getLast?, foldEq a c = true := by
  rw [← List.head?_reverse] at hc ⊢
  exact h.reverse.exists_of_head hc

theorem edged (h : Spelled word m) (hw : IsEdged word) : IsEdged m where
  ne_nil := h.ne_nil hw.ne_nil
  head c hc := by
    obtain ⟨a, ha, hac⟩ := h.exists_of_head hc
    rw [← Text.isBlank_eq_of_foldEq hac]
    exact hw.head a ha
  last c hc := by
    obtain ⟨a, ha, hac⟩ := h.exists_of_last hc
    rw [← Text.isBlank_eq_of_foldEq hac]
    exact hw.last a ha

/-- In ASCII, spellings have the same small letters. -/
theorem map_toLower (h : Spelled word m) (hw : ∀ c ∈ word, c.toNat < 128)
    (hm : ∀ c ∈ m, c.toNat < 128) : word.map Char.toLower = m.map Char.toLower := by
  unfold Spelled at h
  induction h with
  | nil => rfl
  | cons hab _ ih =>
    obtain ⟨ha, hw⟩ := List.forall_mem_cons.mp hw
    obtain ⟨hb, hm⟩ := List.forall_mem_cons.mp hm
    rw [List.map_cons, List.map_cons, Text.toLower_eq_of_foldEq ha hb hab, ih hw hm]

/-- Words with the same small letters are spellings of each other. -/
theorem of_map_toLower (h : m.map Char.toLower = word.map Char.toLower) : Spelled word m := by
  induction word generalizing m with
  | nil =>
    rw [List.map_eq_nil_iff.mp h]
    exact .nil
  | cons a word ih =>
    cases m with
    | nil => cases h
    | cons b m =>
      obtain ⟨hab, h⟩ := List.cons.inj h
      refine .cons ?_ (ih h)
      rw [← Text.foldEq_toLower, hab, Text.foldEq_toLower]
      exact Text.foldEq_refl a

/-- Spellings in a usual text have their characters of words in the same places. -/
theorem map_isWord (h : Spelled word m) (hw : ∀ c ∈ word, c.toNat < 128) (hm : Usual m) :
    m.map isWord = word.map isWord := by
  unfold Spelled at h
  induction h with
  | nil => rfl
  | @cons a b word m hab _ ih =>
    obtain ⟨ha, hword⟩ := List.forall_mem_cons.mp hw
    have hs : b ≠ '\u017F' := fun heq => hm.noLongS (heq ▸ List.mem_cons_self)
    have hk : b ≠ '\u212A' := fun heq => hm.noKelvin (heq ▸ List.mem_cons_self)
    rw [List.map_cons, List.map_cons, Text.isWord_eq_of_foldEq ha hs hk hab,
      ih hword (hm.of_subset (List.subset_cons_self b m))]

end Spelled

/-- Words are bounded next to a word character where there is none on the other side. -/
theorem wordBoundary_iff_of_isWord {x y : Option Char} (hy : y.any isWord = true) :
    wordBoundary x y = true ↔ x.any isWord = false := by
  rw [wordBoundary, hy]
  cases x.any isWord <;> decide

/-- At both ends of a run of word characters are word characters. -/
theorem isWord_ends {m : List Char} (hne : m ≠ []) (h : ∀ c ∈ m, isWord c = true) :
    m.head?.any isWord = true ∧ m.getLast?.any isWord = true := by
  obtain ⟨c, hc⟩ := Option.ne_none_iff_exists'.mp (mt List.head?_eq_none_iff.mp hne)
  obtain ⟨d, hd⟩ := Option.ne_none_iff_exists'.mp (mt List.getLast?_eq_none_iff.mp hne)
  rw [hc, hd]
  exact ⟨h c (List.mem_of_head? hc), h d (List.mem_of_getLast? hd)⟩

/-- Where the characters of words are in the same places, words are bounded alike. -/
theorem wordBoundary_congr {a b a' b' : List Char} (ha : a'.map isWord = a.map isWord)
    (hb : b'.map isWord = b.map isWord) :
    wordBoundary a'.getLast? b'.head? = wordBoundary a.getLast? b.head? := by
  have hlast : a'.getLast?.map isWord = a.getLast?.map isWord := by
    rw [← List.getLast?_map, ← List.getLast?_map, ha]
  have hhead : b'.head?.map isWord = b.head?.map isWord := by
    rw [← List.head?_map, ← List.head?_map, hb]
  have hany (x : Option Char) : x.any isWord = (x.map isWord).any id := by cases x <;> rfl
  rw [wordBoundary, wordBoundary, hany, hany b'.head?, hlast, hhead, ← hany, ← hany]

/-! ### What stands next to a word -/

theorem spaced_nil : Spaced [] where
  head _ h := nomatch h
  run _ h := absurd h List.not_mem_nil

/-- A space, and then a run of spaces that ends. -/
theorem Spaced.cons_space {text : List Char} (h : ∀ c ∈ text.takeWhile isBlank, c = ' ') :
    Spaced (' ' :: text) where
  head _ hc := (Option.some.inj hc).symm
  run := by
    rw [List.takeWhile_cons_of_pos (by decide), List.forall_mem_cons]
    exact ⟨rfl, h⟩

/-- A run of blanks ends before a character that is none. -/
theorem takeWhile_append_of_noBlank {t : List Char} (h : ∃ c ∈ t, isBlank c = false)
    (x : List Char) : (t ++ x).takeWhile isBlank = t.takeWhile isBlank := by
  induction t with
  | nil =>
    obtain ⟨c, hc, _⟩ := h
    exact absurd hc List.not_mem_nil
  | cons d t ih =>
    rw [List.cons_append]
    cases hd : isBlank d with
    | false => rw [List.takeWhile_cons_of_neg (by simp [hd]), List.takeWhile_cons_of_neg (by simp [hd])]
    | true =>
      obtain ⟨c, hc, hblank⟩ := h
      rcases List.mem_cons.mp hc with rfl | hc
      · rw [hd] at hblank
        cases hblank
      · rw [List.takeWhile_cons_of_pos hd, List.takeWhile_cons_of_pos hd, ih ⟨c, hc, hblank⟩]

/-- `Eases c u v` if `v` next to the edge `c` of a word is no worse than `u`: the word is bounded by
`u` if it is by `v`, and `v` has spaces if `u` has. -/
structure Eases (c : Option Char) (u v : List Char) : Prop where
  boundary : wordBoundary c v.head? = true → wordBoundary c u.head? = true
  spaced : Spaced u → Spaced v

namespace Eases

variable {c : Option Char}

theorem refl (u : List Char) : Eases c u u := ⟨id, id⟩

/-- Only what is next to the word counts. -/
theorem of_append {t : List Char} (h : ∃ d ∈ t, isBlank d = false) (x y : List Char) :
    Eases c (t ++ x) (t ++ y) := by
  have hne : t ≠ [] := by
    rintro rfl
    obtain ⟨d, hd, _⟩ := h
    exact absurd hd List.not_mem_nil
  refine ⟨?_, fun hs => ⟨?_, ?_⟩⟩
  · rw [List.head?_append_of_ne_nil t hne, List.head?_append_of_ne_nil t hne]
    exact id
  · rw [List.head?_append_of_ne_nil t hne]
    have := hs.head
    rwa [List.head?_append_of_ne_nil t hne] at this
  · rw [takeWhile_append_of_noBlank h]
    have := hs.run
    rwa [takeWhile_append_of_noBlank h] at this

/-- Blanks bound words like the end of a text. -/
theorem wordBoundary_blank {x y : Option Char} (hx : ∀ d ∈ x, isBlank d = true)
    (hy : ∀ d ∈ y, isBlank d = true) : wordBoundary c x = wordBoundary c y := by
  have key {x : Option Char} (hx : ∀ d ∈ x, isBlank d = true) : x.any isWord = false := by
    cases x with
    | none => rfl
    | some d => exact isWord_eq_false_of_isBlank (hx d rfl)
  rw [wordBoundary, wordBoundary, key hx, key hy]

/-- Blanks may be taken off at the end. -/
theorem of_append_blanks {s : List Char} (hs : ∀ d ∈ s, isBlank d = true) (u : List Char) :
    Eases c (u ++ s) u := by
  cases u with
  | nil =>
    refine ⟨fun h => ?_, fun _ => spaced_nil⟩
    -- nothing is left, and the end of a text bounds words as blanks do
    have hblank := wordBoundary_blank (c := c) (fun d hd => hs d (List.mem_of_head? hd))
      (fun d (hd : d ∈ none) => nomatch hd)
    rwa [List.nil_append, hblank]
  | cons d u =>
    refine ⟨id, fun h => ⟨h.head, fun e he => h.run e ?_⟩⟩
    rw [List.takeWhile_append]
    split
    · exact List.mem_append_left _ (List.takeWhile_subset _ he)
    · exact he

/-- Other blanks in place of blanks bound words alike, and spaces stay spaces. -/
theorem of_reblanked {u v : List Char} (h : Reblanked u v) : Eases c u v := by
  -- a run of spaces may be exchanged in several steps, all of them for spaces
  have hrun : ∀ {u v : List Char}, Reblanked u v → (∀ d ∈ u.takeWhile isBlank, d = ' ') →
      ∀ d ∈ v.takeWhile isBlank, d = ' ' := by
    intro u v h
    induction h with
    | nil => exact id
    | char hc _ _ =>
      intro _
      rw [List.takeWhile_cons_of_neg (by simp [hc])]
      exact fun _ hd => absurd hd List.not_mem_nil
    | run _ _ hw hw' hspaces _ ih =>
      rw [List.takeWhile_append_of_pos hw, List.takeWhile_append_of_pos hw',
        List.forall_mem_append, List.forall_mem_append]
      exact fun h => ⟨hspaces h.1, ih h.2⟩
  refine ⟨?_, fun hs => ⟨?_, hrun h hs.run⟩⟩
  · cases h with
    | nil => exact id
    | char _ _ => exact id
    | run hne hne' hw hw' _ _ =>
      rw [List.head?_append_of_ne_nil _ hne, List.head?_append_of_ne_nil _ hne',
        wordBoundary_blank (fun d hd => hw d (List.mem_of_head? hd))
          (fun d hd => hw' d (List.mem_of_head? hd))]
      exact id
  · cases h with
    | nil => exact hs.head
    | char _ _ => exact hs.head
    | run hne hne' hw hw' hspaces _ =>
      have hall := hs.run
      rw [List.takeWhile_append_of_pos hw, List.forall_mem_append] at hall
      rw [List.head?_append_of_ne_nil _ hne']
      exact fun d hd => hspaces hall.1 d (List.mem_of_head? hd)

end Eases

/-! ### Texts that stay settled -/

/-- A word stands in a text if it stands in another one next to something worse. -/
theorem Stands.of_eases {word a m r a' r' : List Char} (h : Stands word a m r)
    (hleft : Eases m.head? a'.reverse a.reverse) (hright : Eases m.getLast? r' r) :
    Stands word a' m r' := by
  refine ⟨h.spelled, ?_, hright.boundary h.right⟩
  rw [Text.wordBoundary_comm, ← List.head?_reverse]
  refine hleft.boundary ?_
  rw [List.head?_reverse, Text.wordBoundary_comm]
  exact h.left

/-- A text is settled if words stand in it only where they stand in a settled text, next to nothing
worse. -/
theorem Settled.of_eases {word u v : List Char} (hw : IsOperator word) (h : Settled word u)
    (hpull : ∀ a m r, v = a ++ (m ++ r) → m ≠ [] → (∀ c ∈ m, isBlank c = false) →
      ∃ a' r', u = a' ++ (m ++ r') ∧ Eases m.head? a'.reverse a.reverse ∧
        Eases m.getLast? r' r) : Settled word v := by
  intro a m r hv hstands
  obtain ⟨a', r', hu, hleft, hright⟩ :=
    hpull a m r hv (hstands.spelled.ne_nil hw.ne_nil) (hstands.spelled.noBlank hw)
  obtain ⟨rfl, hs, hs'⟩ := h a' m r' hu (hstands.of_eases hleft hright)
  exact ⟨rfl, hleft.spaced hs, hright.spaced hs'⟩

theorem Settled.of_reblanked {word u v : List Char} (hw : IsOperator word) (h : Settled word u)
    (huv : Reblanked u v) : Settled word v := by
  refine h.of_eases hw fun a m r hv hne hm => ?_
  subst hv
  obtain ⟨a', r', hu, ha, hr⟩ := huv.exists_of_append hne hm
  exact ⟨a', r', hu, .of_reblanked ha.reverse, .of_reblanked hr⟩

/-- Tidying keeps a text settled. -/
theorem settled_tidy {word text : List Char} (hw : IsOperator word) (h : Settled word text) :
    Settled word (tidy text) := by
  have hsqueezed : Settled word (squeeze text) :=
    (h.of_reblanked hw (reblanked_squeeze text).1).of_reblanked hw (reblanked_squeeze text).2
  rw [tidy_eq]
  refine hsqueezed.of_eases hw fun a m r hv _ _ => ?_
  -- the blanks that are trimmed stand at the ends
  obtain ⟨p, s, hps, hp, hs⟩ := exists_of_trim (squeeze text)
  refine ⟨p ++ a, r ++ s, ?_, ?_, .of_append_blanks hs r⟩
  · rw [hps, hv]
    simp only [List.append_assoc]
  · rw [List.reverse_append]
    exact .of_append_blanks (fun d hd => hp d (List.mem_reverse.mp hd)) _

end Annotator.Spacing

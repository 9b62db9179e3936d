import Annotator.Proofs.Spans

/-!
# Counting tags

How often what opening tags begin with, and the closing tag, occur in a text. Both begin with an
angle bracket and go on without one, so they are counted piece by piece wherever the second piece
begins with an opening bracket, and wherever the first piece is closed.

## Key results

- `Markup.occurrences_append_cons`, `Markup.occurrences_append`: counting piece by piece
- `Markup.occurrences_replace_wrap`: every hit that is put in a span adds one tag of either kind
-/

namespace Annotator.Markup

/-- How often a word occurs in a text. -/
def occurrences (word : List Char) : List Char → Nat
  | [] => 0
  | c :: text => (if word <+: c :: text then 1 else 0) + occurrences word text

/-- What the opening tags of spans begin with. -/
def spanOpening : List Char := "<span".toList

/-- A text with as many opening as closing tags of spans. -/
def Balanced (text : List Char) : Prop :=
  occurrences spanOpening text = occurrences closing text

instance (text : List Char) : Decidable (Balanced text) :=
  inferInstanceAs (Decidable (occurrences spanOpening text = occurrences closing text))

/-- The words that are counted. -/
def Counted (word : List Char) : Prop := word = spanOpening ∨ word = closing

theorem counted_spanOpening : Counted spanOpening := .inl rfl

theorem counted_closing : Counted closing := .inr rfl

variable {word : List Char}

theorem Balanced.occurrences_eq {text : List Char} (h : Balanced text) (hw : Counted word) :
    occurrences word text = occurrences spanOpening text := by
  rcases hw with rfl | rfl
  · rfl
  · exact h.symm

/-- A counted word begins like a tag and ends no later than a tag does. -/
theorem Counted.exists_cons (hw : Counted word) :
    ∃ inner, word = '<' :: inner ∧ '<' ∉ inner ∧ '>' ∉ inner.dropLast := by
  rcases hw with rfl | rfl
  · exact ⟨"span".toList, by decide, by decide, by decide⟩
  · exact ⟨"/span>".toList, by decide, by decide, by decide⟩

/-! ### Piece by piece -/

/-- Two texts are counted one by one if no occurrence crosses the border between them. -/
theorem occurrences_append_of_not_crossing {a b : List Char}
    (h : ∀ s z, s <:+ a → s ≠ [] → z ≠ [] → z <+: b → word ≠ s ++ z) :
    occurrences word (a ++ b) = occurrences word a + occurrences word b := by
  induction a with
  | nil => simp [occurrences]
  | cons c a ih =>
    have ih := ih fun s z hs => h s z (hs.trans (List.suffix_cons c a))
    -- an occurrence in front of the first text ends in it
    have hfront : word <+: c :: (a ++ b) ↔ word <+: c :: a := by
      constructor
      · intro h
        obtain ⟨r, hr⟩ := h
        rw [← List.cons_append] at hr
        rcases List.append_eq_append_iff.mp hr with ⟨z, hz, _⟩ | ⟨z, hz, hb⟩
        · exact ⟨z, hz.symm⟩
        · cases z with
          | nil => exact ⟨[], by simpa using hz⟩
          | cons d z =>
            exact absurd hz (h _ _ (List.suffix_refl _) (List.cons_ne_nil c a)
              (List.cons_ne_nil d z) ⟨r, hb.symm⟩)
      · exact fun hp => hp.trans (List.prefix_append (c :: a) b)
    simp only [List.cons_append, occurrences, hfront, ih, Nat.add_assoc]

theorem occurrences_append_cons (hw : Counted word) (a b : List Char) :
    occurrences word (a ++ '<' :: b) = occurrences word a + occurrences word ('<' :: b) := by
  obtain ⟨inner, rfl, hopen, _⟩ := hw.exists_cons
  refine occurrences_append_of_not_crossing fun s z _ hs hz hpre heq => ?_
  obtain ⟨c, s, rfl⟩ := List.exists_cons_of_ne_nil hs
  obtain ⟨d, z, rfl⟩ := List.exists_cons_of_ne_nil hz
  obtain ⟨-, rfl⟩ := List.cons.inj heq
  obtain ⟨rfl, -⟩ := List.cons_prefix_cons.mp hpre
  exact hopen (List.mem_append_right s List.mem_cons_self)

theorem occurrences_append (hw : Counted word) {a : List Char} (ha : Closed a) (b : List Char) :
    occurrences word (a ++ b) = occurrences word a + occurrences word b := by
  obtain ⟨inner, rfl, _, hclose⟩ := hw.exists_cons
  refine occurrences_append_of_not_crossing fun s z hsuf hs hz _ heq => ?_
  obtain ⟨c, s, rfl⟩ := List.exists_cons_of_ne_nil hs
  obtain ⟨rfl, hinner⟩ := List.cons.inj heq
  -- the tag that begins in `a` ends there, before the word does
  have hmem := (ha s hsuf).1
  have hinner : inner = s ++ z := hinner
  rw [hinner, List.dropLast_append_of_ne_nil hz] at hclose
  exact hclose (List.mem_append_left _ hmem)

theorem occurrences_of_not_mem (hw : Counted word) {text : List Char} (h : '<' ∉ text) :
    occurrences word text = 0 := by
  obtain ⟨inner, rfl, _, _⟩ := hw.exists_cons
  induction text with
  | nil => rfl
  | cons c text ih =>
    rw [List.mem_cons, not_or] at h
    rw [occurrences, ih h.2, if_neg fun hp => h.1 (List.cons_prefix_cons.mp hp).1]

/-- In a text that has no opening bracket but its first character a word can occur only in front. -/
theorem occurrences_cons (hw : Counted word) {c : Char} {text : List Char} (h : '<' ∉ text) :
    occurrences word (c :: text) = if word <+: c :: text then 1 else 0 := by
  rw [occurrences, occurrences_of_not_mem hw h, Nat.add_zero]

/-- In a beginning of such a text, too. -/
theorem occurrences_of_prefix (hw : Counted word) {u text : List Char} {c : Char}
    (hu : u <+: c :: text) (h : '<' ∉ text) :
    occurrences word u = if word <+: u then 1 else 0 := by
  cases u with
  | nil =>
    obtain ⟨inner, rfl, _, _⟩ := hw.exists_cons
    rw [occurrences, if_neg (by simp)]
  | cons d u =>
    exact occurrences_cons hw fun hmem => h ((List.cons_prefix_cons.mp hu).2.subset hmem)

/-! ### Tags -/

theorem IsOpening.cons {o : List Char} (h : IsOpening o) :
    ∃ later, o = '<' :: later ∧ '<' ∉ later := by
  obtain ⟨inner, hinner, rfl⟩ := h
  exact ⟨"span ".toList ++ inner ++ ['>'], rfl, by simp [hinner.1]⟩

theorem IsOpening.spanOpening_prefix {o : List Char} (h : IsOpening o) : spanOpening <+: o := by
  obtain ⟨inner, _, rfl⟩ := h
  exact ⟨[' '] ++ inner ++ ['>'], rfl⟩

/-- No opening tag is a closing one. -/
theorem IsOpening.not_closing_prefix {o : List Char} (h : IsOpening o) (v : List Char) :
    ¬ closing <+: o ++ v := by
  obtain ⟨inner, _, rfl⟩ := h
  intro h
  obtain ⟨rest, heq⟩ := h
  have hleft : (closing ++ rest)[1]? = some '/' := rfl
  have hright : ("<span ".toList ++ inner ++ ['>'] ++ v)[1]? = some 's' := rfl
  rw [heq, hright] at hleft
  exact absurd hleft (by decide)

/-- No closing tag is an opening one. -/
theorem not_spanOpening_prefix_closing (v : List Char) : ¬ spanOpening <+: closing ++ v := by
  intro h
  obtain ⟨rest, heq⟩ := h
  have hleft : (spanOpening ++ rest)[1]? = some 's' := rfl
  have hright : (closing ++ v)[1]? = some '/' := rfl
  rw [heq, hright] at hleft
  exact absurd hleft (by decide)

/-- Either counted word occurs once in an opening and a closing tag. -/
theorem IsOpening.occurrences_add {o : List Char} (ho : IsOpening o) (hw : Counted word) :
    occurrences word o + occurrences word closing = 1 := by
  have hprefix := ho.spanOpening_prefix
  have hnot := ho.not_closing_prefix []
  rw [List.append_nil] at hnot
  obtain ⟨later, rfl, hlater⟩ := ho.cons
  rw [occurrences_cons hw hlater]
  rcases hw with rfl | rfl
  · rw [if_pos hprefix]
    rfl
  · rw [if_neg hnot]
    rfl

/-- What is put in a span adds a tag of either kind. -/
theorem occurrences_wrap_append (hw : Counted word) {o : List Char}
    (ho : IsOpening o) (b : List Char) {m : List Char} (hm : '<' ∉ m) (later : List Char) :
    occurrences word (b ++ (wrap o m ++ later)) =
      occurrences word b + 1 + occurrences word later := by
  have hone := ho.occurrences_add hw
  have hclosed := closed_of_not_mem hm
  obtain ⟨o', heq, _⟩ := ho.cons
  have hb : occurrences word (b ++ (o ++ (m ++ (closing ++ later)))) =
      occurrences word b + occurrences word (o ++ (m ++ (closing ++ later))) := by
    rw [heq]
    exact occurrences_append_cons hw b _
  rw [wrap, List.append_assoc, List.append_assoc, hb, occurrences_append hw ho.closed,
    occurrences_append hw hclosed, occurrences_append hw closed_closing,
    occurrences_of_not_mem hw hm]
  omega

/-- A cut without opening brackets but before the first hit. -/
def PlainBehind (c : Cut) : Prop := ∀ rest, c.text = c.first ++ rest → '<' ∉ rest

theorem plainBehind_of_not_mem {c : Cut} (h : '<' ∉ c.text) : PlainBehind c :=
  fun _ heq hmem => h (heq ▸ List.mem_append_right _ hmem)

theorem PlainBehind.hit {b m : List Char} {g : List (Option (List Char))} {a : Cut}
    (h : PlainBehind (.hit b m g a)) : '<' ∉ m ∧ '<' ∉ a.text := by
  have := h (m ++ a.text) (by rw [Cut.text_hit, Cut.first, List.append_assoc])
  rwa [List.mem_append, not_or] at this

theorem not_mem_first {c : Cut} (h : '<' ∉ c.text) : '<' ∉ c.first :=
  fun hmem => h (c.first_prefix_text.subset hmem)

/-- Putting the hits of a cut in spans adds a tag of either kind for each of them, if opening
brackets stand only before the first hit. -/
theorem occurrences_replace_wrap (hw : Counted word) {o : List Char} (ho : IsOpening o) {c : Cut}
    (h : PlainBehind c) :
    occurrences word (c.replace fun m _ => wrap o m) = occurrences word c.first + c.hits.length := by
  induction c with
  | rest t => rfl
  | hit b m g a ih =>
    have ⟨hm, ha⟩ := h.hit
    have ih := ih (plainBehind_of_not_mem ha)
    rw [occurrences_of_not_mem hw (not_mem_first ha)] at ih
    rw [Cut.replace, List.append_assoc, occurrences_wrap_append hw ho b hm, ih,
      Cut.hits, Cut.first, List.length_cons]
    omega

/-- Putting hits of a text without opening brackets in spans makes a balanced text. -/
theorem balanced_replace_wrap {o : List Char} (ho : IsOpening o) {c : Cut} (h : '<' ∉ c.text) :
    Balanced (c.replace fun m _ => wrap o m) := by
  have key {word : List Char} (hw : Counted word) :
      occurrences word (c.replace fun m _ => wrap o m) = c.hits.length := by
    rw [occurrences_replace_wrap hw ho (plainBehind_of_not_mem h),
      occurrences_of_not_mem hw (not_mem_first h), Nat.zero_add]
  exact (key counted_spanOpening).trans (key counted_closing).symm

/-! ### Texts with changed plain segments -/

/-- Exchanging plain segments for balanced texts adds as many tags of either kind. -/
theorem occurrences_rewritten {c : Cut} (hc : Segmented c) {x : List Char}
    (h : Rewritten (fun b b' => '<' ∉ b → Closed b' ∧ Balanced b') c x) :
    ∃ n, ∀ word, Counted word → occurrences word x = n + occurrences word c.text := by
  induction h with
  | @rest t t' h =>
    cases hc with
    | rest hplain =>
      refine ⟨occurrences spanOpening t', fun word hw => ?_⟩
      rw [(h hplain).2.occurrences_eq hw, Cut.text, occurrences_of_not_mem hw hplain, Nat.add_zero]
  | @hit b b' m x g a h _ ih =>
    cases hc with
    | hit hplain _ hclosed hlater =>
      obtain ⟨n, ih⟩ := ih hlater
      have ⟨hclosed', hbal⟩ := h hplain
      -- the changed segment adds its own tags, of either kind as many, and the tag `m` stays
      refine ⟨occurrences spanOpening b' + n, fun word hw => ?_⟩
      rw [occurrences_append hw hclosed', occurrences_append hw hclosed, ih word hw,
        hbal.occurrences_eq hw, Cut.text_hit, List.append_assoc,
        occurrences_append hw (closed_of_not_mem hplain), occurrences_append hw hclosed,
        occurrences_of_not_mem hw hplain]
      omega

theorem balanced_of_not_mem {text : List Char} (h : '<' ∉ text) : Balanced text :=
  (occurrences_of_not_mem counted_spanOpening h).trans (occurrences_of_not_mem counted_closing h).symm

/-- Changing plain segments into balanced texts keeps a text balanced. -/
theorem balanced_mapPlain {f : List Char → List Char}
    (hf : ∀ s, '<' ∉ s → Closed (f s) ∧ Balanced (f s)) {text : List Char} (h : Closed text)
    (hbal : Balanced text) : Balanced (mapPlain f text) := by
  obtain ⟨n, hcount⟩ := occurrences_rewritten (segmented_cut h)
    (rewritten_mapSegments (fun s hs => ⟨closed_of_not_mem hs, balanced_of_not_mem hs⟩) hf
      (segmented_cut h) false)
  rw [tag, Search.text_cut] at hcount
  have hopen := hcount spanOpening counted_spanOpening
  have hclose := hcount closing counted_closing
  exact hopen.trans ((congrArg (n + ·) hbal).trans hclose.symm)

end Annotator.Markup

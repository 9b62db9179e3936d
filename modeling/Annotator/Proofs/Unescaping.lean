import Annotator.Proofs.Entities

/-!
# Reading escaped texts

An escaped text has nothing in it that looks like a tag, and reading it from left to right, with its
character in place of each entity, gives back the text. That holds also for a text that looks escaped
itself: each ampersand of it has become an entity, and what stood behind the ampersand begins none.

The other way round every text without brackets and double quotes whose ampersands all begin entities
is the escaped form of the text that is read from it. So escaping has no two forms for one text and no
form for two texts.

## Key results

- `Markup.unescape_escape`: what is read from an escaped text is the text
- `Markup.escape_unescape`: a text that looks escaped is what is read from it, escaped
- `Markup.reversible_escape`: escaped texts are safe, can be read back, and are put together piece by
  piece
-/

namespace Annotator.Markup

/-! ### Reading one piece -/

/-- The text with its character in place of each entity, in one pass from left to right. Any other
character stands for itself. -/
def unescape : List Char → List Char
  | '&' :: 'a' :: 'm' :: 'p' :: ';' :: later => '&' :: unescape later
  | '&' :: 'l' :: 't' :: ';' :: later => '<' :: unescape later
  | '&' :: 'g' :: 't' :: ';' :: later => '>' :: unescape later
  | '&' :: 'q' :: 'u' :: 'o' :: 't' :: ';' :: later => '"' :: unescape later
  | c :: later => c :: unescape later
  | [] => []

/-- The characters that are escaped. -/
def specials : List Char := ['&', '<', '>', '"']

/-- The entities are what escaping puts in place of characters. -/
theorem entities_eq : entities = specials.map escapeChar := rfl

theorem unescape_cons {c : Char} (h : c ≠ '&') (later : List Char) :
    unescape (c :: later) = c :: unescape later := by
  rw [unescape] <;> exact fun _ heq _ => h heq

theorem escapeChar_of_not_mem {c : Char} (h : c ∉ specials) : escapeChar c = [c] := by
  unfold escapeChar
  split
  -- the first four cases are those of the special characters
  all_goals first | rfl | exact absurd (by decide) h

/-- What escaping puts in place of a character is read as that character. -/
theorem unescape_escapeChar_append (c : Char) (later : List Char) :
    unescape (escapeChar c ++ later) = c :: unescape later := by
  by_cases h : c ∈ specials
  · -- each of the four entities has an equation of its own
    simp only [specials, List.mem_cons, List.not_mem_nil, or_false] at h
    rcases h with rfl | rfl | rfl | rfl <;> rfl
  · rw [escapeChar_of_not_mem h, List.singleton_append]
    apply unescape_cons
    intro heq
    exact h (heq ▸ List.mem_cons_self)

theorem length_escapeChar_pos (c : Char) : 0 < (escapeChar c).length := by
  by_cases h : c ∈ specials
  · have hall : specials.all (fun c => 0 < (escapeChar c).length) = true := by decide
    exact of_decide_eq_true (List.all_eq_true.mp hall c h)
  · rw [escapeChar_of_not_mem h, List.length_singleton]
    exact Nat.one_pos

/-! ### Reading an escaped text -/

theorem escape_cons (c : Char) (text : List Char) :
    escape (c :: text) = escapeChar c ++ escape text :=
  List.flatMap_cons

/-- What is read from an escaped text is the text. -/
theorem unescape_escape (text : List Char) : unescape (escape text) = text := by
  induction text with
  | nil => rfl
  | cons c text ih => rw [escape_cons, unescape_escapeChar_append, ih]

/-- A text that has nothing left to escape but the ampersands of its entities. -/
structure Safe (text : List Char) : Prop where
  noMarkup : ∀ c ∈ text, c ∉ ['<', '>', '"']
  escaped : Escaped text

theorem safe_escape (text : List Char) : Safe (escape text) where
  escaped := escaped_escape text
  noMarkup d hd := by
    obtain ⟨c, -, hc⟩ := List.mem_flatMap.mp hd
    by_cases h : c ∈ specials
    · have hall : (specials.flatMap escapeChar).all (fun d => d ∉ ['<', '>', '"']) = true := by decide
      exact of_decide_eq_true (List.all_eq_true.mp hall d (List.mem_flatMap.mpr ⟨c, h, hc⟩))
    · rw [escapeChar_of_not_mem h, List.mem_singleton] at hc
      subst hc
      exact fun hmem => h (List.mem_cons_of_mem '&' hmem)

theorem Safe.of_suffix {a b : List Char} (h : Safe b) (hs : a <:+ b) : Safe a where
  noMarkup c hc := h.noMarkup c (hs.subset hc)
  escaped := h.escaped.of_suffix hs

/-- A text that looks escaped begins with what escaping puts in place of some character. -/
theorem Safe.exists_escapeChar {c : Char} {text : List Char} (h : Safe (c :: text)) :
    ∃ d later, c :: text = escapeChar d ++ later := by
  by_cases hamp : c = '&'
  · subst hamp
    obtain ⟨e, he, later, heq⟩ := h.escaped _ (List.suffix_refl _) rfl
    rw [entities_eq] at he
    obtain ⟨d, -, rfl⟩ := List.mem_map.mp he
    exact ⟨d, later, heq.symm⟩
  · -- no other special character is left in the text
    have hmarkup := h.noMarkup c List.mem_cons_self
    have hspecial : c ∉ specials := by simpa [specials, hamp] using hmarkup
    exact ⟨c, text, by rw [escapeChar_of_not_mem hspecial, List.singleton_append]⟩

/-- The texts that look escaped are the escaped ones. -/
theorem exists_escape_eq_iff {text : List Char} : (∃ s, escape s = text) ↔ Safe text := by
  constructor
  · intro h
    obtain ⟨s, rfl⟩ := h
    exact safe_escape s
  · intro h
    -- by induction on the length: each step takes the form of one character off the text
    induction hlen : text.length using Nat.strongRecOn generalizing text with
    | ind n ih =>
      cases text with
      | nil => exact ⟨[], rfl⟩
      | cons c text =>
        obtain ⟨d, later, heq⟩ := h.exists_escapeChar
        have hshort : later.length < n := by
          rw [← hlen, heq, List.length_append]
          have := length_escapeChar_pos d
          omega
        obtain ⟨s, rfl⟩ := ih later.length hshort (h.of_suffix (heq ▸ List.suffix_append _ _)) rfl
        exact ⟨d :: s, by rw [escape_cons, heq]⟩

/-- What is read from a text that looks escaped has it as its escaped form. -/
theorem escape_unescape {text : List Char} (h : Safe text) : escape (unescape text) = text := by
  obtain ⟨s, rfl⟩ := exists_escape_eq_iff.mpr h
  rw [unescape_escape]

/-- Escaped texts are safe and can be read back. An escaped text has no angle brackets and no double
quotes, and each ampersand in it begins an entity; what is read from it in one pass is the text, so
that no other text has the same escaped form; and a text that is put together from two is escaped
part by part. -/
theorem reversible_escape (text : List Char) :
    ('<' ∉ escape text ∧ '>' ∉ escape text ∧ '"' ∉ escape text) ∧ Escaped (escape text) ∧
    unescape (escape text) = text ∧ (∀ other, escape other = escape text ↔ other = text) ∧
    ∀ other, escape (text ++ other) = escape text ++ escape other := by
  have hsafe := safe_escape text
  refine ⟨⟨fun h => ?_, fun h => ?_, fun h => ?_⟩, hsafe.escaped, unescape_escape text,
    fun other => ⟨fun h => ?_, fun h => h ▸ rfl⟩, fun other => List.flatMap_append⟩
  · exact hsafe.noMarkup _ h (by decide)
  · exact hsafe.noMarkup _ h (by decide)
  · exact hsafe.noMarkup _ h (by decide)
  · -- two texts with one escaped form are both what is read from it
    rw [← unescape_escape other, h, unescape_escape]

/-- A text that looks escaped is escaped once more, and read only once. -/
example : escape "&lt;".toList = "&amp;lt;".toList ∧ unescape "&amp;lt;".toList = "&lt;".toList := by
  decide

end Annotator.Markup

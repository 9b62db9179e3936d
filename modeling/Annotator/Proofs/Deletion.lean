import Mathlib.Data.List.Induction
import Mathlib.Data.List.Nodup
import Annotator.Identifiers
import Annotator.Proofs.KeywordSearch

/-!
# What deleting leaves

Names are what is left of an expression when the hits of several searches are deleted, one search
after the other. What is left after one search is the plain text of a cut. So this module follows a
place of the text into the cut, where it is between two hits or inside one, and looks at the fields
of the plain text. A field is a run of characters between separators (`mem_fields_iff`); if hits
have no separators and do not touch the field, it is a field of what is left, too.

## Key results

- `Cut.exists_of_text`: a place in a text is between the hits of a cut or inside one
- `Identifiers.mem_fields_iff`: the fields of a text
- `Identifiers.mem_fields_delete`: a field that a search spares stays when its hits are deleted
- `Identifiers.mem_extract_iff`: the names of an expression are the fields with the form of a name
-/

namespace Annotator

open Search (lastOf scan)

namespace Cut

/-- A place in a text is between the hits of a cut, or inside one. -/
theorem exists_of_text {c : Cut} {a b : List Char} (h : c.text = a ++ b) :
    (∃ c₁ c₂ : Cut, c = c₁.append c₂ ∧ c₁.text = a ∧ c₂.text = b) ∨
    ∃ (c₁ : Cut) (m₁ m₂ : List Char) (g : List (Option (List Char))) (c₂ : Cut),
      c = c₁.append (.hit [] (m₁ ++ m₂) g c₂) ∧ m₁ ≠ [] ∧ m₂ ≠ [] ∧
      a = c₁.text ++ m₁ ∧ b = m₂ ++ c₂.text := by
  induction c generalizing a with
  | rest t =>
    obtain rfl : t = a ++ b := h
    exact .inl ⟨.rest a, .rest b, rfl, rfl, rfl⟩
  | hit p m g d ih =>
    rw [text_hit, List.append_assoc] at h
    rcases List.append_eq_append_iff.mp h with ⟨s, rfl, hs⟩ | ⟨s, rfl, hs⟩
    · -- behind the text before the hit
      rcases List.append_eq_append_iff.mp hs with ⟨t, rfl, ht⟩ | ⟨t, rfl, ht⟩
      · rcases ih ht with ⟨c₁, c₂, rfl, rfl, rfl⟩ | ⟨c₁, m₁, m₂, g', c₂, rfl, hm₁, hm₂, rfl, rfl⟩
        · exact .inl ⟨.hit p m g c₁, c₂, rfl, by simp, rfl⟩
        · exact .inr ⟨.hit p m g c₁, m₁, m₂, g', c₂, rfl, hm₁, hm₂, by simp, rfl⟩
      · by_cases hs : s = []
        · subst hs
          exact .inl ⟨.rest p, .hit [] t g d, by simp [append, prepend], by simp, by simp [ht]⟩
        · by_cases ht' : t = []
          · subst ht'
            exact .inl ⟨.hit p s g (.rest []), d, by simp [append], by simp, by simpa using ht.symm⟩
          · exact .inr ⟨.rest p, s, t, g, d, by simp [append, prepend], hs, ht', rfl, ht⟩
    · exact .inl ⟨.rest a, .hit s m g d, by simp [append, prepend], rfl, by simp [hs]⟩

theorem replace_nothing (c : Cut) : (c.replace fun _ _ => []) = c.plain := by
  induction c with
  | rest t => simp [replace]
  | hit b m g a ih => simp [replace, ih]

theorem plain_of_empty {c : Cut} (h : ∀ m ∈ c.hits, m = []) : c.plain = c.text := by
  induction c with
  | rest t => rw [plain_rest, text_rest]
  | hit b m g a ih =>
    obtain ⟨rfl, ha⟩ := List.forall_mem_cons.mp h
    rw [plain_hit, text_hit, ih ha, List.append_nil]

end Cut

namespace Identifiers

/-- Deleting leaves the plain text of a cut. -/
theorem delete_eq (s : Search) (text : List Char) : delete s text = (s.cut text).plain :=
  Cut.replace_nothing _

theorem delete_sublist (s : Search) (text : List Char) : (delete s text).Sublist text := by
  have := (s.cut text).plain_sublist
  rwa [Search.text_cut, ← delete_eq] at this

/-- The empty word is found in many places, but there is nothing to delete. -/
theorem delete_empty {word : String} (h : word.toList = []) (text : List Char) :
    delete (keyword word).search text = text := by
  have hhits : ∀ m ∈ ((keyword word).search.cut text).hits, m = [] := by
    intro m hm
    obtain ⟨p, rest, n, hn, rfl⟩ := Search.exists_of_mem_hits_cutFrom hm
    have hlen : n = word.toList.length := (Keyword.front_eq_some_iff.mp hn).1
    rw [hlen, h, List.length_nil, List.take_zero]
  rw [delete_eq, Cut.plain_of_empty hhits, Search.text_cut]

theorem withoutWords_cons (w : String) (later : List String) (text : List Char) :
    withoutWords (w :: later) text = withoutWords later (delete (keyword w).search text) := rfl

theorem withoutWords_sublist (words : List String) (text : List Char) :
    (withoutWords words text).Sublist text := by
  induction words generalizing text with
  | nil => exact List.Sublist.refl text
  | cons w later ih => exact (ih _).trans (delete_sublist _ text)

/-! ### Fields -/

/-- A text that ends where names may begin. -/
def EndsApart (text : List Char) : Prop := ∀ c ∈ text.getLast?, isSeparator c = true

/-- A text that begins where names may end. -/
def BeginsApart (text : List Char) : Prop := ∀ c ∈ text.head?, isSeparator c = true

theorem endsApart_nil : EndsApart [] := fun _ h => nomatch h

theorem beginsApart_nil : BeginsApart [] := fun _ h => nomatch h

theorem fields_ne_nil (text : List Char) : fields text ≠ [] := by
  cases text with
  | nil => exact List.cons_ne_nil _ _
  | cons c later =>
    rw [fields]
    split
    · exact List.cons_ne_nil _ _
    · split <;> exact List.cons_ne_nil _ _

private theorem fields_cons_of_separator {c : Char} (hc : isSeparator c = true)
    (text : List Char) : fields (c :: text) = [] :: fields text := by
  rw [fields, if_pos hc]

/-- A character that is no separator belongs to the first field. -/
private theorem fields_cons_of_not {c : Char} (hc : isSeparator c = false) {text first : List Char}
    {others : List (List Char)} (h : fields text = first :: others) :
    fields (c :: text) = (c :: first) :: others := by
  rw [fields, hc, h]
  rfl

/-- A separator ends a field, and the next one begins behind it. -/
theorem fields_append_cons {c : Char} (hc : isSeparator c = true) (a b : List Char) :
    fields (a ++ c :: b) = fields a ++ fields b := by
  induction a with
  | nil => rw [List.nil_append, fields_cons_of_separator hc, fields.eq_1, List.singleton_append]
  | cons d a ih =>
    cases hd : isSeparator d with
    | true =>
      rw [List.cons_append, fields_cons_of_separator hd, ih, fields_cons_of_separator hd,
        List.cons_append]
    | false =>
      obtain ⟨first, others, h⟩ := List.exists_cons_of_ne_nil (fields_ne_nil a)
      rw [h, List.cons_append] at ih
      rw [List.cons_append, fields_cons_of_not hd ih, fields_cons_of_not hd h, List.cons_append]

/-- A text without separators is one field. -/
theorem fields_of_not {text : List Char} (h : ∀ c ∈ text, isSeparator c = false) :
    fields text = [text] := by
  induction text with
  | nil => rfl
  | cons c later ih =>
    obtain ⟨hc, hlater⟩ := List.forall_mem_cons.mp h
    exact fields_cons_of_not hc (ih hlater)

/-- A field is a run of characters between separators, or between them and the ends of the text. -/
structure Field (before field after : List Char) : Prop where
  left : EndsApart before
  right : BeginsApart after
  plain : ∀ c ∈ field, isSeparator c = false

/-- The first field reaches up to the first separator, and before any other one stands a separator. -/
private theorem fields_cases {text first : List Char} {others : List (List Char)}
    (h : fields text = first :: others) :
    (∃ b, text = first ++ b ∧ Field [] first b) ∧
      ∀ f ∈ others, ∃ a b, a ≠ [] ∧ text = a ++ (f ++ b) ∧ Field a f b := by
  have hnil (b : List Char) (hb : BeginsApart b) : Field [] [] b :=
    ⟨endsApart_nil, hb, fun _ h => absurd h List.not_mem_nil⟩
  induction text generalizing first others with
  | nil =>
    obtain ⟨rfl, rfl⟩ := List.cons.inj h
    exact ⟨⟨[], rfl, hnil [] beginsApart_nil⟩, fun _ h => absurd h List.not_mem_nil⟩
  | cons c later ih =>
    obtain ⟨f, fs, hf⟩ := List.exists_cons_of_ne_nil (fields_ne_nil later)
    obtain ⟨⟨b, hb, hfirst⟩, hothers⟩ := ih hf
    -- one more character in front of a text that ends apart
    have hcons {a : List Char} (hne : a ≠ []) (ha : EndsApart a) : EndsApart (c :: a) := by
      rwa [EndsApart, List.getLast?_cons_of_ne_nil hne]
    have hlater : ∀ f ∈ fs, ∃ a b, a ≠ [] ∧ c :: later = a ++ (f ++ b) ∧ Field a f b := by
      intro f hf
      obtain ⟨a, b, hne, rfl, hfield⟩ := hothers f hf
      exact ⟨c :: a, b, List.cons_ne_nil c a, rfl, hcons hne hfield.left, hfield.right, hfield.plain⟩
    cases hc : isSeparator c with
    | true =>
      rw [fields_cons_of_separator hc, hf] at h
      obtain ⟨rfl, rfl⟩ := List.cons.inj h
      refine ⟨⟨c :: later, rfl, hnil _ fun d hd => Option.some.inj hd ▸ hc⟩, fun x hx => ?_⟩
      rcases List.mem_cons.mp hx with rfl | hx
      · refine ⟨[c], b, List.cons_ne_nil c [], by rw [hb]; rfl, fun d hd => ?_, hfirst.right,
          hfirst.plain⟩
        exact Option.some.inj hd ▸ hc
      · exact hlater x hx
    | false =>
      rw [fields_cons_of_not hc hf] at h
      obtain ⟨rfl, rfl⟩ := List.cons.inj h
      exact ⟨⟨b, by rw [hb, List.cons_append], endsApart_nil, hfirst.right,
        List.forall_mem_cons.mpr ⟨hc, hfirst.plain⟩⟩, hlater⟩

theorem mem_fields_iff {field text : List Char} :
    field ∈ fields text ↔ ∃ a b, text = a ++ (field ++ b) ∧ Field a field b := by
  constructor
  · intro h
    obtain ⟨first, others, hfields⟩ := List.exists_cons_of_ne_nil (fields_ne_nil text)
    obtain ⟨⟨b, hb, hfirst⟩, hothers⟩ := fields_cases hfields
    rw [hfields] at h
    rcases List.mem_cons.mp h with rfl | h
    · exact ⟨[], b, hb, hfirst⟩
    · obtain ⟨a, b, -, htext, hfield⟩ := hothers field h
      exact ⟨a, b, htext, hfield⟩
  · rintro ⟨a, b, rfl, hfield⟩
    -- the field stands alone up to the separator behind it
    have hfront : field ∈ fields (field ++ b) := by
      cases b with
      | nil => simp [fields_of_not hfield.plain]
      | cons c b => simp [fields_append_cons (hfield.right c rfl), fields_of_not hfield.plain]
    rcases List.eq_nil_or_concat a with rfl | ⟨a, c, rfl⟩
    · exact hfront
    · have hc : isSeparator c = true := hfield.left c (by simp)
      rw [List.concat_eq_append, List.append_assoc, List.singleton_append, fields_append_cons hc]
      exact List.mem_append_right _ hfront

/-! ### Fields that stay

A search whose hits have no separators finds something in a field or outside of it, but nothing that
reaches over its ends. -/

/-- A search for parts without separators that finds nothing in a field, whatever stands around it. -/
structure Spares (front : Option Char → List Char → Option Nat) (field : List Char) : Prop where
  proper : Search.Proper front
  plain : ∀ {prev : Option Char} {text : List Char} {n : Nat}, front prev text = some n →
    ∀ c ∈ text.take n, isSeparator c = false
  nothing : ∀ {prev : Option Char} {p m q b : List Char}, field = p ++ (m ++ q) →
    (∀ c ∈ prev, isSeparator c = true) → BeginsApart b →
    front (lastOf prev p) (m ++ (q ++ b)) ≠ some m.length

/-- Parts that are not empty and have no separators. -/
def Inseparable (c : Cut) : Prop := ∀ m ∈ c.hits, m ≠ [] ∧ ∀ x ∈ m, isSeparator x = false

theorem Inseparable.of_append {c d : Cut} (h : Inseparable (c.append d)) :
    Inseparable c ∧ Inseparable d := by
  simp only [Inseparable, Cut.hits_append, List.forall_mem_append] at h
  exact h

/-- Where the text of a cut ends apart, so does its plain text. -/
theorem Inseparable.endsApart_plain {c : Cut} (h : Inseparable c) (hend : EndsApart c.text) :
    EndsApart c.plain := by
  rcases c.eq_rest_or_append_hit with ⟨t, rfl⟩ | ⟨d, m, g, t, rfl⟩
  · simpa using hend
  · simp only [Cut.text_append, Cut.text_hit, Cut.text_rest, List.nil_append] at hend
    simp only [Cut.plain_append, Cut.plain_hit, Cut.plain_rest, List.nil_append]
    by_cases ht : t = []
    · -- the text would end with a hit
      obtain ⟨hm, hplain⟩ := h m (by simp [Cut.hits])
      obtain ⟨x, hx⟩ := Option.ne_none_iff_exists'.mp (mt List.getLast?_eq_none_iff.mp hm)
      have hsep := hend x (by rw [ht, List.append_nil, List.getLast?_append_of_ne_nil _ hm, hx]; rfl)
      rw [hplain x (List.mem_of_getLast? hx)] at hsep
      cases hsep
    · rw [EndsApart, List.getLast?_append_of_ne_nil _ ht]
      rwa [EndsApart, ← List.append_assoc, List.getLast?_append_of_ne_nil _ ht] at hend

/-- Where the text of a cut begins apart, so does its plain text. -/
theorem Inseparable.beginsApart_plain {c : Cut} (h : Inseparable c) (hbegin : BeginsApart c.text) :
    BeginsApart c.plain := by
  cases c with
  | rest t => simpa using hbegin
  | hit b m g d =>
    rw [Cut.text_hit] at hbegin
    rw [Cut.plain_hit]
    cases b with
    | nil =>
      obtain ⟨hm, hplain⟩ := h m List.mem_cons_self
      obtain ⟨x, m, rfl⟩ := List.exists_cons_of_ne_nil hm
      have hsep := hbegin x rfl
      rw [hplain x List.mem_cons_self] at hsep
      cases hsep
    | cons x b => exact hbegin

theorem Spares.inseparable_scan {front : Option Char → List Char → Option Nat} {field : List Char}
    (hs : Spares front field) (prev : Option Char) (text : List Char) :
    Inseparable (scan front prev text) := by
  intro m hm
  obtain ⟨p, rest, n, hn, rfl⟩ := Search.exists_of_mem_hits_cutFrom hm
  refine ⟨?_, hs.plain hn⟩
  have := hs.proper.pos hn
  have := hs.proper.le hn
  exact List.ne_nil_of_length_pos (by rw [List.length_take]; omega)

/-- A field that a search spares stays when the hits of the search are deleted. -/
theorem mem_fields_delete {front : Option Char → List Char → Option Nat} {field text : List Char}
    (hs : Spares front field) (h : field ∈ fields text) :
    field ∈ fields (delete (.ofFront front) text) := by
  obtain ⟨a, b, rfl, hfield⟩ := mem_fields_iff.mp h
  have hc := Search.scanned hs.proper none (a ++ (field ++ b))
  have hhits := hs.inseparable_scan none (a ++ (field ++ b))
  rw [delete_eq, Search.cut_ofFront]
  generalize scan front none (a ++ (field ++ b)) = c at hc hhits
  -- a hit has neither the separator before the field nor the one behind it
  have hnot {c₁ c₂ : Cut} {m : List Char} {g : List (Option (List Char))} {x : Char}
      (hhits : Inseparable (c₁.append (.hit [] m g c₂))) (hx : x ∈ m) : isSeparator x = false :=
    (hhits.of_append.2 m List.mem_cons_self).2 x hx
  rcases Cut.exists_of_text hc.text_eq with
    ⟨c₁, c₂, rfl, rfl, hc₂⟩ | ⟨c₁, m₁, m₂, g, c₂, rfl, hm₁, hm₂, rfl, hb⟩
  · rcases Cut.exists_of_text hc₂ with
      ⟨d, c₃, rfl, rfl, rfl⟩ | ⟨d, m₁, m₂, g, c₃, rfl, hm₁, hm₂, -, rfl⟩
    · have ⟨hhits₁, hhits₂⟩ := hhits.of_append
      have ⟨_, hhits₃⟩ := hhits₂.of_append
      refine mem_fields_iff.mpr ⟨c₁.plain, c₃.plain, ?_, hhits₁.endsApart_plain hfield.left,
        hhits₃.beginsApart_plain hfield.right, hfield.plain⟩
      rw [Cut.plain_append, Cut.plain_append]
      cases d with
      | rest t => rw [Cut.plain_rest, Cut.text_rest]
      | hit p m g e =>
        -- a hit in the field would be found there
        have hcut : c₁.append ((Cut.hit p m g e).append c₃) =
            (c₁.append (.rest p)).append (.hit [] m g (e.append c₃)) := by
          rw [Cut.append_assoc]
          simp [Cut.append, Cut.prepend]
        rw [hcut] at hc
        have hfound := hc.front_eq_some
        rw [Cut.text_append, Cut.text_append, Cut.text_rest, Search.lastOf_append] at hfound
        refine absurd hfound (hs.nothing ?_ (fun x hx => hfield.left x ?_) hfield.right)
        · rw [Cut.text_hit, List.append_assoc]
        · rwa [lastOf, Option.or_none] at hx
    · obtain ⟨x, m₂, rfl⟩ := List.exists_cons_of_ne_nil hm₂
      have := hnot hhits.of_append.2 (List.mem_append_right m₁ List.mem_cons_self)
      rw [hfield.right x rfl] at this
      cases this
  · obtain ⟨x, hx⟩ := Option.ne_none_iff_exists'.mp (mt List.getLast?_eq_none_iff.mp hm₁)
    have := hnot hhits (List.mem_append_left m₂ (List.mem_of_getLast? hx))
    rw [hfield.left x (by rw [List.getLast?_append_of_ne_nil _ hm₁, hx]; rfl)] at this
    cases this

/-! ### Names -/

theorem nodup_eraseDups {α : Type} [BEq α] [LawfulBEq α] (l : List α) : l.eraseDups.Nodup := by
  induction l using List.reverseRecOn with
  | nil => exact List.nodup_nil
  | append_singleton l x ih =>
    rw [List.eraseDups_append]
    by_cases hx : x ∈ l
    · have hold : [x].removeAll l = [] := by simp [List.removeAll, hx]
      rwa [hold, List.eraseDups_nil, List.append_nil]
    · have hnew : [x].removeAll l = [x] := by simp [List.removeAll, hx]
      rw [hnew, List.eraseDups_cons, List.filter_nil, List.eraseDups_nil, List.nodup_append]
      refine ⟨ih, List.nodup_singleton x, fun a ha b hb => ?_⟩
      rw [List.mem_singleton.mp hb]
      exact fun heq => hx (heq ▸ List.mem_eraseDups.mp ha)

/-- An expression has every name once. -/
theorem nodup_extract (v : Vocabulary) (text : List Char) : (extract v text).Nodup := by
  rw [extract]
  split
  · exact List.nodup_nil
  · exact nodup_eraseDups _

/-- The names of an expression are the fields of what is left that have the form of a name. -/
theorem mem_extract_iff {v : Vocabulary} {text : List Char} {name : String} :
    name ∈ extract v text ↔ text ≠ [] ∧ (∀ w ∈ knownWords v, (keyword w).isSearchable = true) ∧
      name.toList ∈ fields (withoutWords (knownWords v) (withoutLiterals text)) ∧
      isName name.toList = true := by
  rw [extract]
  split
  · rename_i h
    refine iff_of_false List.not_mem_nil ?_
    rintro ⟨hne, hsearch, -⟩
    rcases (Bool.or_eq_true _ _).mp h with h | h
    · exact hne (of_decide_eq_true h)
    · obtain ⟨w, hw, hnot⟩ := List.any_eq_true.mp h
      rw [hsearch w hw] at hnot
      cases hnot
  · rename_i h
    simp only [Bool.or_eq_true, decide_eq_true_eq, List.any_eq_true, not_or, not_exists, not_and,
      Bool.not_eq_true', Bool.not_eq_false] at h
    rw [and_iff_right h.1, and_iff_right h.2]
    simp only [List.mem_eraseDups, List.mem_map, List.mem_filter]
    constructor
    · rintro ⟨field, h, rfl⟩
      rwa [String.toList_ofList]
    · intro h
      exact ⟨name.toList, h, String.ofList_toList⟩

end Identifiers

end Annotator

import Annotator.Proofs.Comments

/-!
# How a text falls into segments

Any text falls into plain segments and tags by turns, whether its brackets match or not. What makes a
tag is decided where it begins, so no plain segment has a tag in it: a bracket that is never closed and
a pair of brackets with nothing between them stay plain.

A text whose brackets are all closed falls into its segments whatever follows it. So its segments and
those of what follows are the segments of both together, once the last plain segment of the one and the
first of the other are joined.

## Key results

- `Cut.getElem?_segments`: what holds of the texts between hits and of the hits, place by place
- `Cut.exists_segments_append`: the segments of two cuts, one behind the other
- `Markup.not_infix_of_mem_between`: a plain segment has no tag in it
- `Markup.segments_alternate`: the segments of a text, and of a text put together from two
-/

namespace Annotator

/-! ### The segments of a cut -/

namespace Cut

/-- The texts between hits are the segments at even places and the hits those at odd places. -/
theorem getElem?_segments {P Q : List Char → Prop} {c : Cut} (hP : ∀ p ∈ c.between, P p)
    (hQ : ∀ m ∈ c.hits, Q m) {i : Nat} {s : List Char} (h : c.segments[i]? = some s) :
    if i % 2 = 0 then P s else Q s := by
  induction c generalizing i with
  | rest t =>
    obtain ⟨hi, rfl⟩ := List.getElem?_eq_some_iff.mp h
    have hzero : i = 0 := by simpa [segments] using hi
    subst hzero
    exact hP t List.mem_cons_self
  | hit b m g a ih =>
    obtain ⟨hb, hbetween⟩ := List.forall_mem_cons.mp hP
    obtain ⟨hm, hhits⟩ := List.forall_mem_cons.mp hQ
    cases i with
    | zero =>
      obtain rfl := Option.some.inj h
      exact hb
    | succ i =>
      cases i with
      | zero =>
        obtain rfl := Option.some.inj h
        exact hm
      | succ i =>
        -- two places further the segments are those of the cut behind the hit
        have hlater := ih hbetween hhits h
        rwa [Nat.add_assoc, Nat.add_mod_right]

/-- The segments of two cuts, one behind the other: the text after the last hit of the first is
joined to the text before the first hit of the second. -/
theorem exists_segments_append (c d : Cut) :
    ∃ before p q after, c.segments = before ++ [p] ∧ d.segments = q :: after ∧
      (c.append d).segments = before ++ (p ++ q) :: after := by
  induction c with
  | rest t =>
    cases d with
    | rest s => exact ⟨[], t, s, [], rfl, rfl, rfl⟩
    | hit b m g a => exact ⟨[], t, b, m :: a.segments, rfl, rfl, rfl⟩
  | hit b m g a ih =>
    obtain ⟨before, p, q, after, ha, hd, happend⟩ := ih
    refine ⟨b :: m :: before, p, q, after, ?_, hd, ?_⟩
    · rw [segments, ha]
      rfl
    · rw [append, segments, happend]
      rfl

end Cut

namespace Markup

/-! ### The segments of any text -/

/-- A plain segment has no tag in it. -/
theorem not_infix_of_mem_between {text p t : List Char} (hp : p ∈ (tag.cut text).between)
    (ht : IsTag t) : ¬ t <:+: p := by
  have hscan := Search.scanned tagFront_proper none text
  rw [tag, Search.cut_ofFront] at hp
  -- where a tag begins the search finds one, whatever follows
  have hfront (prev : Option Char) (later : List Char) : tagFront prev (t ++ later) ≠ none := by
    obtain ⟨inner, hne, hinner, rfl⟩ := ht
    have := tagFront_tag prev later hne hinner
    simp [this]
  intro hinfix
  obtain ⟨x, y, hxy⟩ := hinfix
  have hne : t ≠ [] := by
    obtain ⟨inner, -, -, rfl⟩ := ht
    exact List.cons_ne_nil _ _
  have hplace : p = x ++ (t ++ y) := by rw [← hxy, List.append_assoc]
  have hplace_ne : t ++ y ≠ [] := List.append_ne_nil_of_left_ne_nil hne y
  generalize (none : Option Char) = prev, Search.scan tagFront none text = c at hscan hp
  induction hscan with
  | rest nothing =>
    obtain rfl := List.mem_singleton.mp hp
    exact hfront _ y (nothing x (t ++ y) hplace hplace_ne)
  | @hit prev b m r a nothing _ _ ih =>
    rcases List.mem_cons.mp hp with heq | hlater
    · have hnone := nothing x (t ++ y) (heq ▸ hplace) hplace_ne
      rw [List.append_assoc] at hnone
      exact hfront _ _ hnone
    · exact ih hlater

/-- How a text falls into segments. There is an odd number of them, and together they are the text.
Those at odd places, counted from zero, are tags, and those at even places have no tag in them. And if
every opening bracket of the text has a closing one behind it, but not right behind it, the segments
stay when another text follows: only the last of them is joined to the first one of that text. -/
theorem segments_alternate (text : List Char) :
    (segments text).length % 2 = 1 ∧ (segments text).flatten = text ∧
    (∀ i s, (segments text)[i]? = some s →
      if i % 2 = 0 then ∀ t, IsTag t → ¬ t <:+: s else IsTag s) ∧
    ∀ later, Closed text → ∃ before p q after, segments text = before ++ [p] ∧
      segments later = q :: after ∧ segments (text ++ later) = before ++ (p ++ q) :: after := by
  refine ⟨segments_odd text, flatten_segments text, fun i s h => ?_, fun later hclosed => ?_⟩
  · apply Cut.getElem?_segments (c := tag.cut text) _ _ h
    · intro p hp t ht
      exact not_infix_of_mem_between hp ht
    · intro m hm
      exact isTag_of_mem_tags hm
  · have h := Cut.exists_segments_append (tag.cut text) (tag.cut later)
    rwa [← cut_append hclosed] at h

/-- What follows a closed text may begin with brackets that make no tag. -/
theorem segments_alternate_sample :
    (segments "a<b>c".toList)[1]? = some "<b>".toList ∧ IsTag "<b>".toList ∧
    Closed "a<b>c".toList ∧ ∃ before p q after, segments "a<b>c".toList = before ++ [p] ∧
      segments "<>d<<e>".toList = q :: after ∧
      segments ("a<b>c".toList ++ "<>d<<e>".toList) = before ++ (p ++ q) :: after := by
  have hplace : (segments "a<b>c".toList)[1]? = some "<b>".toList := by decide +kernel
  obtain ⟨-, -, hplaces, hjoin⟩ := segments_alternate "a<b>c".toList
  have htag : IsTag "<b>".toList := hplaces 1 _ hplace
  have hplain (c : Char) (h : '<' ∉ [c]) : Closed [c] := closed_of_not_mem h
  have hclosed : Closed "a<b>c".toList :=
    (hplain 'a' (by decide)).append ((htag.closed (by decide)).append (hplain 'c' (by decide)))
  exact ⟨hplace, htag, hclosed, hjoin _ hclosed⟩

end Markup

end Annotator

import Mathlib.Data.List.Induction
import Mathlib.Data.List.Nodup
import Annotator.Vocabulary

/-!
# Indices built item by item

What an index answers that has been filled with the items of a list: under a key stands the last item
with that key. So the style of a class is the last one that a grammar has for it.

## Key results

- `Index.get?_foldl_put`: look-up in an index filled from a list
- `Index.values_foldl_put`: the values of such an index, in the order of their keys
- `Index.nodup_map_values_foldl_put`: no two values of such an index have the same key
- `Vocabulary.style?_ofGrammar`: the style of a class by a scan of the types
- `Vocabulary.eq_of_mem_operators`: no two operators differ only in case
-/

namespace Annotator

/-- Under a key of an index that has been filled from a list stands the last item with that key. -/
theorem Index.get?_foldl_put {α : Type} (key : α → String) (items : List α) (i : Index α)
    (k : String) :
    (items.foldl (fun i x => i.put (key x) x) i).get? k =
      (items.reverse.find? fun x => key x == k).or (i.get? k) := by
  induction items generalizing i with
  | nil => simp
  | cons x later ih =>
    rw [List.foldl_cons, ih, List.reverse_cons, List.find?_append, Option.or_assoc]
    congr 1
    by_cases h : key x = k
    · subst h
      simp [get?_put_self]
    · rw [get?_put_of_ne _ _ (Ne.symm h)]
      simp [h]

namespace Index

variable {α : Type}

theorem nodup_keys_put {i : Index α} (h : i.keys.Nodup) (k : String) (value : α) :
    (i.put k value).keys.Nodup := by
  rw [keys_put]
  split
  · exact h
  · rename_i hk
    exact List.nodup_append.mpr ⟨h, List.nodup_singleton k, fun a ha b hb heq =>
      hk (List.mem_singleton.mp hb ▸ heq ▸ ha)⟩

/-! ### Filling step by step

An index is often filled in one pass over a list, where each step puts some value under the key of its
item. The keys depend on the keys of the items only, whatever the values are. -/

section Steps

variable {β : Type} {key : β → String} {step : Index α → β → Index α}

theorem nodup_keys_foldl (hstep : ∀ i x, ∃ value, step i x = i.put (key x) value) (items : List β)
    {i : Index α} (h : i.keys.Nodup) : (items.foldl step i).keys.Nodup := by
  induction items generalizing i with
  | nil => exact h
  | cons x later ih =>
    obtain ⟨value, hvalue⟩ := hstep i x
    rw [List.foldl_cons, hvalue]
    exact ih (nodup_keys_put h (key x) value)

/-- The keys of an index that has been filled from a list are those of the items, in the order in
which they first come. -/
theorem keys_foldl (hstep : ∀ i x, ∃ value, step i x = i.put (key x) value) (items : List β) :
    (items.foldl step empty).keys = (items.map key).eraseDups := by
  induction items using List.reverseRecOn with
  | nil => rfl
  | append_singleton items x ih =>
    obtain ⟨value, hvalue⟩ := hstep (items.foldl step empty) x
    rw [List.foldl_append, List.foldl_cons, List.foldl_nil, hvalue, keys_put, ih, List.map_append,
      List.map_singleton, List.eraseDups_append]
    by_cases hmem : key x ∈ items.map key
    · have hold : [key x].removeAll (items.map key) = [] := by
        simpa [List.removeAll] using hmem
      rw [if_pos (List.mem_eraseDups.mpr hmem), hold, List.eraseDups_nil, List.append_nil]
    · have hnew : [key x].removeAll (items.map key) = [key x] := by
        simpa [List.removeAll] using hmem
      rw [if_neg (mt List.mem_eraseDups.mp hmem), hnew, List.eraseDups_cons, List.filter_nil,
        List.eraseDups_nil]

end Steps

theorem nodup_keys_foldl_put (key : α → String) (items : List α) {i : Index α}
    (h : i.keys.Nodup) : (items.foldl (fun i x => i.put (key x) x) i).keys.Nodup :=
  nodup_keys_foldl (fun _ x => ⟨x, rfl⟩) items h

theorem keys_foldl_put (key : α → String) (items : List α) :
    (items.foldl (fun i x => i.put (key x) x) empty).keys = (items.map key).eraseDups :=
  keys_foldl (fun _ x => ⟨x, rfl⟩) items

/-- A key has a value if it is one of the keys. -/
theorem isSome_get?_iff {i : Index α} {k : String} : (i.get? k).isSome = true ↔ k ∈ i.keys := by
  unfold get? keys
  induction i.entries with
  | nil => simp
  | cons e later ih =>
    rw [List.lookup_cons, List.map_cons, List.mem_cons]
    cases h : k == e.1 with
    | true => simp [beq_iff_eq.mp h]
    | false => simp [beq_eq_false_iff_ne.mp h, ih]

/-- The values of an index are what it answers to its keys. -/
theorem values_eq_filterMap {i : Index α} (h : i.keys.Nodup) :
    i.values = i.keys.filterMap i.get? := by
  unfold keys at h
  unfold values keys get?
  generalize i.entries = entries at h
  induction entries with
  | nil => rfl
  | cons e later ih =>
    obtain ⟨k, v⟩ := e
    obtain ⟨hk, hlater⟩ := List.nodup_cons.mp h
    have hother : ∀ l ∈ later.map Prod.fst, ((k, v) :: later).lookup l = later.lookup l := by
      intro l hl
      have hne : (l == k) = false := beq_eq_false_iff_ne.mpr (ne_of_mem_of_not_mem hl hk)
      rw [List.lookup_cons, hne]
    simp only [List.map_cons, List.filterMap_cons, List.lookup_cons_self]
    rw [ih hlater, List.filterMap_congr hother]

/-- The values of an index that has been filled from a list: for each key the last item with it. -/
theorem values_foldl_put (key : α → String) (items : List α) :
    (items.foldl (fun i x => i.put (key x) x) empty).values =
      (items.map key).eraseDups.filterMap fun k => items.reverse.find? fun x => key x == k := by
  have hempty : (empty : Index α).keys.Nodup := List.nodup_nil
  rw [values_eq_filterMap (nodup_keys_foldl_put key items hempty), keys_foldl_put]
  refine List.filterMap_congr fun k _ => ?_
  rw [get?_foldl_put, get?_empty, Option.or_none]

/-- A value under a new key comes last. -/
theorem values_put_of_get?_eq_none {i : Index α} {key : String} (h : i.get? key = none) (value : α) :
    (i.put key value).values = i.values ++ [value] := by
  unfold get? at h
  unfold put values
  generalize i.entries = entries at h
  induction entries with
  | nil => rfl
  | cons e later ih =>
    obtain ⟨k, v⟩ := e
    rw [List.lookup_cons] at h
    have hne : (key == k) = false := by
      cases hk : key == k with
      | false => rfl
      | true => simp [hk] at h
    rw [hne] at h
    have hne' : ¬ k = key := fun heq => beq_eq_false_iff_ne.mp hne heq.symm
    rw [putEntry, if_neg hne', List.map_cons, List.map_cons, ih h, List.cons_append]

/-- If no two items have the same key, the values of an index that has been filled from a list are the
items. -/
theorem values_foldl_put_of_nodup {key : α → String} {items : List α} (h : (items.map key).Nodup) :
    (items.foldl (fun i x => i.put (key x) x) empty).values = items := by
  induction items using List.reverseRecOn with
  | nil => rfl
  | append_singleton items x ih =>
    rw [List.map_append, List.map_singleton, List.nodup_append'] at h
    have hnew : key x ∉ items.map key := List.disjoint_singleton.mp h.2.2
    have hnone : (items.foldl (fun i x => i.put (key x) x) empty).get? (key x) = none := by
      rw [← Option.not_isSome_iff_eq_none, isSome_get?_iff, keys_foldl_put, List.mem_eraseDups]
      exact hnew
    rw [List.foldl_append, List.foldl_cons, List.foldl_nil, values_put_of_get?_eq_none hnone, ih h.1]

/-- An index that has been filled from a list has no two values with the same key. -/
theorem nodup_map_values_foldl_put (key : α → String) (items : List α) :
    ((items.foldl (fun i x => i.put (key x) x) empty).values.map key).Nodup := by
  -- every value stands under its own key, and no key comes twice
  have hempty : (empty : Index α).keys.Nodup := List.nodup_nil
  have hkeys := nodup_keys_foldl_put key items hempty
  rw [values_foldl_put, List.map_filterMap]
  rw [keys_foldl_put] at hkeys
  refine hkeys.filterMap fun k k' l hl hl' => ?_
  have hkey {k : String} (h : l ∈ (items.reverse.find? fun x => key x == k).map key) : k = l := by
    obtain ⟨x, hx, rfl⟩ := Option.map_eq_some_iff.mp h
    have := List.find?_some hx
    exact (beq_iff_eq.mp this).symm
  rw [hkey hl, hkey hl']

end Index

namespace Vocabulary

/-- The style of a class is the last one among the types. -/
theorem style?_ofGrammar (g : Grammar) (className : String) :
    (ofGrammar g).style? className = g.types.reverse.find? fun s => s.className == className := by
  have := Index.get?_foldl_put TypeStyle.className g.types Index.empty className
  rwa [Index.get?_empty, Option.or_none] at this

/-- A display class is that of unknown types or that of a type of the grammar. -/
theorem classOf_cases (g : Grammar) (typeName : String) :
    (ofGrammar g).classOf typeName = ClassName.unknown ∨
      ∃ s ∈ g.types, (ofGrammar g).classOf typeName = ClassName.ofType s.className := by
  unfold classOf
  rw [style?_ofGrammar]
  cases h : g.types.reverse.find? fun s => s.className == typeName with
  | none => exact .inl rfl
  | some s => exact .inr ⟨s, List.mem_reverse.mp (List.mem_of_find?_eq_some h), rfl⟩

/-- No two operators differ only in case. -/
theorem eq_of_mem_operators {g : Grammar} {o o' : String} (ho : o ∈ (ofGrammar g).operators)
    (ho' : o' ∈ (ofGrammar g).operators)
    (h : Text.lowercaseString o = Text.lowercaseString o') : o = o' := by
  have hnodup := Index.nodup_map_values_foldl_put
    (fun t : Token => Text.lowercaseString t.keyword) g.tokens
  obtain ⟨t, ht, rfl⟩ := List.mem_map.mp ho
  obtain ⟨t', ht', rfl⟩ := List.mem_map.mp ho'
  rw [List.inj_on_of_nodup_map hnodup (List.mem_of_mem_filter ht) (List.mem_of_mem_filter ht') h]

end Vocabulary

end Annotator

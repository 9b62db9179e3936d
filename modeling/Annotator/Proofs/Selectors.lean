import Annotator.Proofs.Indices

/-!
# Selectors of a stylesheet

A stylesheet is filled block by block, and a block whose selector is taken is dropped. So looking for a
selector in the stylesheet finds what looking for it among all blocks finds, the first one, and no
selector comes twice (`find?_foldl_add`, `nodup_foldl_add`). The blocks of the types come first and
those of the parents after them, so a block of a parent is there only if no type has its selector.

The parents are taken from an index that keeps the first type of each; to look for a parent there is to
look for it among all types (`Index.find?_values_foldl_putNew`).

## Key results

- `Stylesheet.mem_selectors_ofTypes`: the selectors of a stylesheet
- `Stylesheet.exists_ofTypes_eq_append`: the blocks of the types, and behind them those of the parents
- `Stylesheet.covers_ofTypes`: which blocks there are, and that every display class has one
-/

namespace Annotator

/-! ### Indices that keep the first item -/

namespace Index

variable {α : Type}

theorem get?_putNew (i : Index α) (key other : String) (value : α) :
    (i.putNew key value).get? other =
      (i.get? other).or (if key = other then some value else none) := by
  unfold putNew
  cases hkey : i.get? key with
  | some v =>
    rw [Option.isSome_some, if_pos rfl]
    by_cases h : key = other
    · subst h
      rw [hkey, Option.some_or]
    · rw [if_neg h, Option.or_none]
  | none =>
    rw [Option.isSome_none, if_neg Bool.false_ne_true]
    by_cases h : key = other
    · subst h
      rw [get?_put_self, hkey, if_pos rfl, Option.none_or]
    · rw [get?_put_of_ne _ _ (Ne.symm h), if_neg h, Option.or_none]

/-- Under a key of an index that keeps the first item stands the first item with that key. -/
theorem get?_foldl_putNew (key : α → String) (items : List α) (i : Index α) (k : String) :
    (items.foldl (fun i x => i.putNew (key x) x) i).get? k =
      (i.get? k).or (items.find? fun x => key x == k) := by
  induction items generalizing i with
  | nil => simp
  | cons x later ih =>
    -- the first item is put before those behind it, and after what is there already
    rw [List.foldl_cons, ih, get?_putNew, Option.or_assoc, List.find?_cons]
    by_cases h : key x = k
    · simp [h]
    · simp [h, beq_eq_false_iff_ne.mpr h]

/-- To look for a key among the first items of all keys is to look for it among all items. -/
theorem find?_values_foldl_putNew (key : α → String) (p : String → Bool) (items : List α) :
    (items.foldl (fun i x => i.putNew (key x) x) empty).values.find? (fun x => p (key x)) =
      items.find? fun x => p (key x) := by
  induction items using List.reverseRecOn with
  | nil => rfl
  | append_singleton items x ih =>
    have hget := get?_foldl_putNew key items empty (key x)
    rw [get?_empty, Option.none_or] at hget
    rw [List.foldl_append, List.foldl_cons, List.foldl_nil, List.find?_append, putNew, hget]
    cases hfirst : items.find? fun y => key y == key x with
    | none =>
      -- an item with a new key comes last among the first items as it does among all
      rw [Option.isSome_none, if_neg Bool.false_ne_true,
        values_put_of_get?_eq_none (hget.trans hfirst), List.find?_append, ih]
    | some y =>
      -- an item with the same key came before, and is what is looked for if this one is
      rw [Option.isSome_some, if_pos rfl, ih]
      by_cases hp : p (key x) = true
      · have hkey := List.find?_some hfirst
        rw [beq_iff_eq] at hkey
        have hsome : (items.find? fun x => p (key x)).isSome = true :=
          List.find?_isSome.mpr ⟨y, List.mem_of_find?_eq_some hfirst, by rw [hkey, hp]⟩
        obtain ⟨z, hz⟩ := Option.isSome_iff_exists.mp hsome
        rw [hz, Option.some_or]
      · have hnone : ([x].find? fun x => p (key x)) = none := by simp [hp]
        rw [hnone, Option.or_none]

end Index

namespace Stylesheet

/-! ### Adding blocks -/

section Add

variable {sheet blocks : Stylesheet} {b : Block}

/-- A block with a selector. -/
private theorem mem_selectors_iff {selector : String} :
    selector ∈ sheet.map Block.selector ↔
      (sheet.find? fun b => b.selector == selector).isSome = true := by
  simp only [List.mem_map, List.find?_isSome, beq_iff_eq]

theorem nodup_foldl_add (h : (sheet.map Block.selector).Nodup) :
    ((blocks.foldl add sheet).map Block.selector).Nodup := by
  induction blocks generalizing sheet with
  | nil => exact h
  | cons c later ih =>
    refine ih ?_
    rw [add]
    split
    · exact h
    · rename_i hnew
      rw [List.map_append, List.nodup_append']
      refine ⟨h, List.nodup_singleton _, ?_⟩
      rw [List.map_singleton, List.disjoint_singleton]
      intro hmem
      obtain ⟨other, hother, heq⟩ := List.mem_map.mp hmem
      exact hnew (List.any_eq_true.mpr ⟨other, hother, beq_iff_eq.mpr heq⟩)

/-- Added blocks come behind those that are there. -/
theorem prefix_foldl_add (sheet blocks : Stylesheet) : sheet <+: blocks.foldl add sheet := by
  induction blocks generalizing sheet with
  | nil => exact List.prefix_refl sheet
  | cons c later ih =>
    refine List.IsPrefix.trans ?_ (ih (add sheet c))
    rw [add]
    split
    · exact List.prefix_refl sheet
    · exact List.prefix_append sheet [c]

/-- A selector is found where it first comes among all blocks. -/
theorem find?_foldl_add (sheet blocks : Stylesheet) (selector : String) :
    (blocks.foldl add sheet).find? (fun b => b.selector == selector) =
      (sheet ++ blocks).find? fun b => b.selector == selector := by
  induction blocks generalizing sheet with
  | nil => rw [List.append_nil, List.foldl_nil]
  | cons c later ih =>
    rw [List.foldl_cons, ih, add]
    split
    · rename_i hold
      rw [List.find?_append, List.find?_append, List.find?_cons]
      split
      · -- the selector of a block that is dropped is found before
        rename_i hc
        obtain ⟨other, hother, heq⟩ := List.any_eq_true.mp hold
        rw [beq_iff_eq] at hc heq
        have hsome := mem_selectors_iff.mp (List.mem_map.mpr ⟨other, hother, heq.trans hc⟩)
        obtain ⟨z, hz⟩ := Option.isSome_iff_exists.mp hsome
        rw [hz, Option.some_or, Option.some_or]
      · rfl
    · rw [List.append_assoc, List.singleton_append]

/-- Where no selector comes twice, every block is the first with its selector. -/
theorem find?_of_mem (h : (sheet.map Block.selector).Nodup) (hb : b ∈ sheet) :
    sheet.find? (fun other => other.selector == b.selector) = some b := by
  have hsome := mem_selectors_iff.mp (List.mem_map_of_mem hb)
  obtain ⟨c, hc⟩ := Option.isSome_iff_exists.mp hsome
  have heq := List.find?_some hc
  rw [beq_iff_eq] at heq
  rw [hc, List.inj_on_of_nodup_map h (List.mem_of_find?_eq_some hc) hb heq]

end Add

/-! ### The blocks of types and parents -/

section Types

variable (types : List TypeStyle)

theorem find?_classes (selector : String) :
    ((types.map Block.ofType).find? fun b => b.selector == selector) =
      (types.find? fun s => ClassName.ofType s.className == selector).map Block.ofType :=
  List.find?_map

theorem find?_parents (selector : String) :
    (((firstOfParents types).map Block.ofParent).find? fun b => b.selector == selector) =
      (types.find? fun s => ClassName.ofType (Text.lowercaseString s.parent) == selector).map
        Block.ofParent := by
  rw [← Index.find?_values_foldl_putNew TypeStyle.parent
    (fun parent => ClassName.ofType (Text.lowercaseString parent) == selector)]
  exact List.find?_map

theorem nodup_selectors_ofTypes : ((ofTypes types).map Block.selector).Nodup :=
  nodup_foldl_add List.nodup_nil

/-- The selectors of a stylesheet are the display classes of its types and of their parents. -/
theorem mem_selectors_ofTypes (selector : String) :
    selector ∈ (ofTypes types).map Block.selector ↔
      (∃ s ∈ types, selector = ClassName.ofType s.className) ∨
        ∃ s ∈ types, selector = ClassName.ofType (Text.lowercaseString s.parent) := by
  rw [mem_selectors_iff, ofTypes, find?_foldl_add, List.nil_append, List.find?_append, find?_classes,
    find?_parents]
  simp only [Option.isSome_or, Option.isSome_map, Bool.or_eq_true, List.find?_isSome, beq_iff_eq,
    eq_comm (a := selector)]

/-- A stylesheet has the block of the first type for each class of a type, and behind these the block
of the first type for each class of a parent that no type has. -/
theorem exists_ofTypes_eq_append : ∃ classes parents, ofTypes types = classes ++ parents ∧
    (∀ b ∈ classes, ∃ s, types.find? (fun s => ClassName.ofType s.className == b.selector) = some s ∧
      b = Block.ofType s) ∧
    ∀ b ∈ parents, (∀ s ∈ types, ClassName.ofType s.className ≠ b.selector) ∧
      ∃ s, types.find? (fun s =>
        ClassName.ofType (Text.lowercaseString s.parent) == b.selector) = some s ∧
        b = Block.ofParent s := by
  have hnodup := nodup_selectors_ofTypes types
  obtain ⟨parents, hparents⟩ := prefix_foldl_add ((types.map Block.ofType).foldl add [])
    ((firstOfParents types).map Block.ofParent)
  rw [← List.foldl_append] at hparents
  have hofTypes : ofTypes types = (types.map Block.ofType).foldl add [] ++ parents := hparents.symm
  have hclasses (selector : String) := find?_foldl_add [] (types.map Block.ofType) selector
  have hempty : (([] : Stylesheet).map Block.selector).Nodup := List.nodup_nil
  refine ⟨_, parents, hofTypes, fun b hb => ?_, fun b hb => ?_⟩
  · -- a block that comes before the parents is the first of the types' blocks with its selector
    have hfirst := find?_of_mem (nodup_foldl_add hempty) hb
    rw [hclasses, List.nil_append, find?_classes] at hfirst
    obtain ⟨s, hs, rfl⟩ := Option.map_eq_some_iff.mp hfirst
    exact ⟨s, hs, rfl⟩
  · have hfirst := find?_of_mem hnodup (hofTypes ▸ List.mem_append_right _ hb)
    rw [ofTypes, find?_foldl_add, List.nil_append, List.find?_append, find?_classes,
      find?_parents] at hfirst
    -- none of the blocks before the parents has its selector
    rw [hofTypes, List.map_append, List.nodup_append'] at hnodup
    have hnone : types.find? (fun s => ClassName.ofType s.className == b.selector) = none := by
      have hnot := fun h => hnodup.2.2 h (List.mem_map_of_mem hb)
      rw [mem_selectors_iff, hclasses, List.nil_append, find?_classes, Option.isSome_map] at hnot
      exact Option.not_isSome_iff_eq_none.mp hnot
    rw [hnone, Option.map_none, Option.none_or] at hfirst
    obtain ⟨s, hs, rfl⟩ := Option.map_eq_some_iff.mp hfirst
    refine ⟨fun t ht heq => ?_, s, hs, rfl⟩
    exact List.find?_eq_none.mp hnone t ht (beq_iff_eq.mpr heq)

end Types

/-! ### Display classes -/

/-- The text of a stylesheet is the heading and then every block in turn. -/
theorem text_eq (sheet : Stylesheet) :
    text sheet = heading ++ String.join (sheet.map fun b => b.text ++ "\n") := by
  have hfoldl (s : String) : sheet.foldl (fun s b => s ++ b.text ++ "\n") s =
      s ++ String.join (sheet.map fun b => b.text ++ "\n") := by
    induction sheet generalizing s with
    | nil => simp
    | cons b later ih =>
      rw [List.foldl_cons, ih, List.map_cons, String.join_cons]
      simp only [String.append_assoc]
  exact hfoldl heading

/-- The display class of a type is that of unknown types or has exactly one block. -/
theorem countP_classOf (g : Grammar) (typeName : String) :
    (Vocabulary.ofGrammar g).classOf typeName = ClassName.unknown ∨
      (ofTypes g.types).countP
        (fun b => b.selector == (Vocabulary.ofGrammar g).classOf typeName) = 1 := by
  refine (Vocabulary.classOf_cases g typeName).imp_right ?_
  rintro ⟨s, hs, heq⟩
  have hmem := (mem_selectors_ofTypes g.types _).mpr (.inl ⟨s, hs, heq⟩)
  have hcount := List.count_eq_one_of_mem (nodup_selectors_ofTypes g.types) hmem
  rwa [List.count_eq_countP, List.countP_map] at hcount

/-- A stylesheet covers the display classes. No two of its blocks have the same selector, and the
selectors are the classes of the types and of their parents. First come the blocks with the class of a
type, each with the look of the first type of that class, and behind them the others, each with the look
of the first type whose parent has that class. So for every grammar the display class of a type is that
of unknown types or the selector of exactly one of the blocks that the text of the stylesheet has. -/
theorem covers_ofTypes :
    (∀ types : List TypeStyle,
      ((ofTypes types).map Block.selector).Nodup ∧
      (∀ selector, selector ∈ (ofTypes types).map Block.selector ↔
        (∃ s ∈ types, selector = ClassName.ofType s.className) ∨
          ∃ s ∈ types, selector = ClassName.ofType (Text.lowercaseString s.parent)) ∧
      ∃ classes parents, ofTypes types = classes ++ parents ∧
        (∀ b ∈ classes, ∃ s,
          types.find? (fun s => ClassName.ofType s.className == b.selector) = some s ∧
          b.color = s.color ∧ b.weight = s.weight.filter FontWeight.isSet ∧
          b.slant = s.slant.filter (· != "")) ∧
        ∀ b ∈ parents, (∀ s ∈ types, ClassName.ofType s.className ≠ b.selector) ∧ ∃ s,
          types.find? (fun s =>
            ClassName.ofType (Text.lowercaseString s.parent) == b.selector) = some s ∧
          b.color = s.color ∧ b.weight = s.weight ∧ b.slant = s.slant.filter (· != "")) ∧
    ∀ (g : Grammar) (typeName : String),
      (Vocabulary.ofGrammar g).css =
        heading ++ String.join ((ofTypes g.types).map fun b => b.text ++ "\n") ∧
      ((Vocabulary.ofGrammar g).classOf typeName = ClassName.unknown ∨
        (ofTypes g.types).countP
          (fun b => b.selector == (Vocabulary.ofGrammar g).classOf typeName) = 1) := by
  refine ⟨fun types => ⟨nodup_selectors_ofTypes types, mem_selectors_ofTypes types, ?_⟩,
    fun g typeName => ⟨text_eq _, countP_classOf g typeName⟩⟩
  obtain ⟨classes, parents, heq, hclasses, hparents⟩ := exists_ofTypes_eq_append types
  refine ⟨classes, parents, heq, fun b hb => ?_, fun b hb => ?_⟩
  · obtain ⟨s, hs, rfl⟩ := hclasses b hb
    exact ⟨s, hs, rfl, rfl, rfl⟩
  · obtain ⟨hnone, s, hs, rfl⟩ := hparents b hb
    exact ⟨hnone, s, hs, rfl, rfl, rfl⟩

end Stylesheet

end Annotator

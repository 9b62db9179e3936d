import Mathlib.Data.List.Perm.Basic
import Annotator.Proofs.Lookup

/-!
# Groups of keywords

The groups of a vocabulary are filled type by type, and each type brings all its words to the group of
its parent. So where no two types have the same class the groups share out the words that have a style:
each such word is in one group, that of its type's parent, as often as the grammar has it. The lists of
operators and functions come from another index, that by keyword, which has the last word of each
spelling; where no two words are spelled alike they are the groups of their parents in another order.

## Key results

- `Vocabulary.groups_ofGrammar`: the groups by a scan of the types
- `List.flatMap_filter_perm`: items taken key by key are the items with one of the keys
- `Vocabulary.groups_partition`: the groups share out the words with a style, and agree with the lists
  of operators and functions
-/

namespace List

/-- Items that are taken key by key, for keys of which none comes twice, are the items with one of the
keys, in another order. -/
theorem flatMap_filter_perm {α κ : Type} [DecidableEq κ] (key : α → κ) (items : List α)
    {keys : List κ} (h : keys.Nodup) :
    (keys.flatMap fun k => items.filter fun x => key x == k).Perm
      (items.filter fun x => decide (key x ∈ keys)) := by
  induction keys with
  | nil => simp
  | cons k later ih =>
    obtain ⟨hk, hlater⟩ := nodup_cons.mp h
    have hcons := filter_append_perm (fun x => key x == k)
      (items.filter fun x => decide (key x ∈ k :: later))
    -- the items with one of all keys are those with the first key, and those with one of the others
    have hfirst : (items.filter fun x => decide (key x ∈ k :: later)).filter (fun x => key x == k) =
        items.filter fun x => key x == k := by
      rw [filter_filter]
      refine filter_congr fun x _ => ?_
      by_cases hx : key x = k <;> simp [hx]
    have hothers : (items.filter fun x => decide (key x ∈ k :: later)).filter
        (fun x => !(key x == k)) = items.filter fun x => decide (key x ∈ later) := by
      rw [filter_filter]
      refine filter_congr fun x _ => ?_
      by_cases hx : key x = k
      · simp [hx, hk]
      · simp [hx]
    rw [hfirst, hothers] at hcons
    rw [flatMap_cons]
    exact ((ih hlater).append_left _).trans hcons

end List

namespace Annotator

namespace Grammar

variable (g : Grammar)

/-- The types with a parent. -/
def typesUnder (parent : String) : List TypeStyle := g.types.filter fun s => s.parent == parent

/-- The keywords of the words of a type. -/
def keywordsOf (style : TypeStyle) : List String :=
  (g.tokens.filter fun t => t.typeName == style.className).map Token.keyword

/-- Whether the type of a word is a class. -/
def isStyled (t : Token) : Bool := g.types.any fun s => s.className == t.typeName

/-- Whether the type of a word is a class with a parent. -/
def isStyledUnder (parent : String) (t : Token) : Bool :=
  g.types.any fun s => s.className == t.typeName && s.parent == parent

end Grammar

namespace Vocabulary

/-- The keywords of the group of a parent; none if there is no such group. -/
def groupKeywords (v : Vocabulary) (parent : String) : List String :=
  ((v.groups.find? fun k => k.parent == parent).map KeywordGroup.keywords).getD []

/-! ### Groups by a scan -/

section Scan

variable (v : Vocabulary) (types : List TypeStyle)

theorem addGroup_eq_put (groups : Index KeywordGroup) (style : TypeStyle) :
    ∃ group, v.addGroup groups style = groups.put style.parent group :=
  ⟨_, rfl⟩

/-- A group stands under its parent. -/
theorem parent_of_get?_addGroup {groups : Index KeywordGroup} {style : TypeStyle}
    (h : ∀ p k, groups.get? p = some k → k.parent = p) {p : String} {k : KeywordGroup}
    (hk : (v.addGroup groups style).get? p = some k) : k.parent = p := by
  rw [addGroup] at hk
  by_cases hp : p = style.parent
  · subst hp
    rw [Index.get?_put_self] at hk
    obtain rfl := Option.some.inj hk
    cases hold : groups.get? style.parent with
    | none => rfl
    | some old =>
      have hparent : old.parent = style.parent := h _ _ hold
      exact hparent
  · rw [Index.get?_put_of_ne _ _ hp] at hk
    exact h p k hk

theorem parent_of_get?_foldl {groups : Index KeywordGroup}
    (h : ∀ p k, groups.get? p = some k → k.parent = p) {p : String} {k : KeywordGroup}
    (hk : (types.foldl v.addGroup groups).get? p = some k) : k.parent = p := by
  induction types generalizing groups with
  | nil => exact h p k hk
  | cons style later ih => exact ih (fun _ _ => v.parent_of_get?_addGroup h) hk

/-- The keywords of a group are those of the types with its parent, type by type. -/
theorem keywords_get?_foldl (groups : Index KeywordGroup) (p : String) :
    (((types.foldl v.addGroup groups).get? p).map KeywordGroup.keywords).getD [] =
      ((groups.get? p).map KeywordGroup.keywords).getD [] ++
        (types.filter fun s => s.parent == p).flatMap fun s =>
          (v.tokensOf s.className).map Token.keyword := by
  induction types generalizing groups with
  | nil => simp
  | cons style later ih =>
    rw [List.foldl_cons, ih, addGroup]
    -- a type brings its words to the group of its parent, and leaves the other groups alone
    by_cases hp : style.parent = p
    · subst hp
      cases hold : groups.get? style.parent <;> simp [Index.get?_put_self]
    · rw [Index.get?_put_of_ne _ _ (Ne.symm hp)]
      simp [hp]

end Scan

/-! ### The groups of a grammar -/

section OfGrammar

variable (g : Grammar)

/-- The groups by parent. -/
theorem groups_ofGrammar : (ofGrammar g).groups =
    (g.types.map TypeStyle.parent).eraseDups.filterMap
      (g.types.foldl (ofGrammar g).addGroup Index.empty).get? := by
  have hempty : (Index.empty : Index KeywordGroup).keys.Nodup := List.nodup_nil
  have hnodup := Index.nodup_keys_foldl (ofGrammar g).addGroup_eq_put g.types hempty
  rw [← Index.keys_foldl (ofGrammar g).addGroup_eq_put g.types]
  exact Index.values_eq_filterMap hnodup

theorem parent_of_get? {p : String} {k : KeywordGroup}
    (hk : (g.types.foldl (ofGrammar g).addGroup Index.empty).get? p = some k) : k.parent = p := by
  refine (ofGrammar g).parent_of_get?_foldl g.types (fun p k h => ?_) hk
  rw [Index.get?_empty] at h
  cases h

theorem nodup_parents : (g.types.map TypeStyle.parent).eraseDups.Nodup := by
  have hempty : (Index.empty : Index KeywordGroup).keys.Nodup := List.nodup_nil
  rw [← Index.keys_foldl (ofGrammar g).addGroup_eq_put g.types]
  exact Index.nodup_keys_foldl (ofGrammar g).addGroup_eq_put g.types hempty

/-- There is one group for each parent, in the order in which the parents first come. -/
theorem map_parent_groups :
    (ofGrammar g).groups.map KeywordGroup.parent = (g.types.map TypeStyle.parent).eraseDups := by
  rw [groups_ofGrammar, List.map_filterMap]
  have hself : ∀ p ∈ (g.types.map TypeStyle.parent).eraseDups,
      ((g.types.foldl (ofGrammar g).addGroup Index.empty).get? p).map KeywordGroup.parent =
        some p := by
    intro p hp
    rw [← Index.keys_foldl (ofGrammar g).addGroup_eq_put g.types, ← Index.isSome_get?_iff] at hp
    obtain ⟨k, hk⟩ := Option.isSome_iff_exists.mp hp
    rw [hk, Option.map_some, parent_of_get? g hk]
  rw [List.filterMap_congr hself, List.filterMap_some]

theorem keywords_of_mem_groups {k : KeywordGroup} (hk : k ∈ (ofGrammar g).groups) :
    k.keywords = (g.typesUnder k.parent).flatMap g.keywordsOf := by
  rw [groups_ofGrammar] at hk
  obtain ⟨p, -, hget⟩ := List.mem_filterMap.mp hk
  obtain rfl := parent_of_get? g hget
  have hkeywords := (ofGrammar g).keywords_get?_foldl g.types Index.empty k.parent
  simp only [hget, Option.map_some, Option.getD_some, Index.get?_empty, Option.map_none,
    Option.getD_none, List.nil_append, tokensOf_ofGrammar] at hkeywords
  exact hkeywords

theorem groupKeywords_ofGrammar (parent : String) :
    (ofGrammar g).groupKeywords parent = (g.typesUnder parent).flatMap g.keywordsOf := by
  rw [groupKeywords]
  cases h : (ofGrammar g).groups.find? fun k => k.parent == parent with
  | some k =>
    have hparent := List.find?_some h
    obtain rfl := beq_iff_eq.mp hparent
    exact keywords_of_mem_groups g (List.mem_of_find?_eq_some h)
  | none =>
    -- a parent without a group is the parent of no type
    have hnot : parent ∉ (ofGrammar g).groups.map KeywordGroup.parent := by
      simpa using h
    have hnone : g.typesUnder parent = [] := by
      rw [map_parent_groups, List.mem_eraseDups] at hnot
      simpa [Grammar.typesUnder] using hnot
    rw [hnone]
    rfl

end OfGrammar

/-! ### Words with a style -/

section Distinct

variable {g : Grammar} (hclasses : (g.types.map TypeStyle.className).Nodup)

include hclasses

/-- Types of different classes bring each word that has one of the classes once. -/
theorem flatMap_keywordsOf_perm {styles : List TypeStyle} (h : styles.Sublist g.types) :
    (styles.flatMap g.keywordsOf).Perm ((g.tokens.filter fun t =>
      styles.any fun s => s.className == t.typeName).map Token.keyword) := by
  have hperm := List.flatMap_filter_perm Token.typeName g.tokens
    (hclasses.sublist (h.map TypeStyle.className))
  have hstyled : (g.tokens.filter fun t => decide (t.typeName ∈ styles.map TypeStyle.className)) =
      g.tokens.filter fun t => styles.any fun s => s.className == t.typeName := by
    refine List.filter_congr fun t _ => ?_
    rw [Bool.eq_iff_iff]
    simp
  rw [List.flatMap_map, hstyled] at hperm
  unfold Grammar.keywordsOf
  rw [← List.map_flatMap]
  exact hperm.map Token.keyword

theorem typesUnder_perm (parent : String) :
    ((g.typesUnder parent).flatMap g.keywordsOf).Perm
      ((g.tokens.filter (g.isStyledUnder parent)).map Token.keyword) := by
  have hperm := flatMap_keywordsOf_perm hclasses
    (List.filter_sublist (p := fun s : TypeStyle => s.parent == parent) (l := g.types))
  have hstyled : (fun t : Token => (g.typesUnder parent).any fun s => s.className == t.typeName) =
      g.isStyledUnder parent := by
    funext t
    rw [Grammar.typesUnder, Grammar.isStyledUnder, List.any_filter]
    simp only [Bool.and_comm]
  rw [← hstyled]
  exact hperm

/-- All groups together have the words with a style. -/
theorem flatMap_groups_perm :
    ((ofGrammar g).groups.flatMap KeywordGroup.keywords).Perm
      ((g.tokens.filter g.isStyled).map Token.keyword) := by
  have hgroups : (ofGrammar g).groups.flatMap KeywordGroup.keywords =
      ((g.types.map TypeStyle.parent).eraseDups.flatMap g.typesUnder).flatMap g.keywordsOf := by
    rw [← map_parent_groups, List.flatMap_map, List.flatMap_assoc]
    exact List.flatMap_congr fun k hk => keywords_of_mem_groups g hk
  -- the types are shared out by their parents, as the words are by their types
  have htypes : ((g.types.map TypeStyle.parent).eraseDups.flatMap g.typesUnder).Perm g.types := by
    have hperm := List.flatMap_filter_perm TypeStyle.parent g.types (nodup_parents g)
    have hall : (g.types.filter fun s =>
        decide (s.parent ∈ (g.types.map TypeStyle.parent).eraseDups)) = g.types := by
      refine List.filter_eq_self.mpr fun s hs => ?_
      simpa using ⟨s, hs, rfl⟩
    rwa [hall] at hperm
  rw [hgroups]
  exact (htypes.flatMap_right _).trans (flatMap_keywordsOf_perm hclasses (List.Sublist.refl _))

/-- The style of a class is the only one with it. -/
theorem any_style?_ofGrammar (parent className : String) :
    ((ofGrammar g).style? className).any (fun s => s.parent == parent) =
      g.types.any fun s => s.className == className && s.parent == parent := by
  rw [style?_ofGrammar, Bool.eq_iff_iff, List.any_eq_true, Option.any_eq_true]
  constructor
  · rintro ⟨s, hs, hparent⟩
    have hclass := List.find?_some hs
    have hmem := List.mem_reverse.mp (List.mem_of_find?_eq_some hs)
    exact ⟨s, hmem, Bool.and_eq_true_iff.mpr ⟨hclass, hparent⟩⟩
  · rintro ⟨s, hs, h⟩
    obtain ⟨hclass, hparent⟩ := Bool.and_eq_true_iff.mp h
    have hsome : (g.types.reverse.find? fun s => s.className == className).isSome = true :=
      List.find?_isSome.mpr ⟨s, List.mem_reverse.mpr hs, hclass⟩
    obtain ⟨s', hs'⟩ := Option.isSome_iff_exists.mp hsome
    have hclass' := List.find?_some hs'
    have hmem' := List.mem_reverse.mp (List.mem_of_find?_eq_some hs')
    have heq : s'.className = s.className :=
      (beq_iff_eq.mp hclass').trans (beq_iff_eq.mp hclass).symm
    obtain rfl := List.inj_on_of_nodup_map hclasses hmem' hs heq
    exact ⟨s', hs', hparent⟩

/-- Where no two words are spelled alike, every word whose type has the parent is listed. -/
theorem keywordsUnder_of_nodup
    (hspellings : (g.tokens.map fun t => Text.lowercaseString t.keyword).Nodup) (parent : String) :
    (ofGrammar g).keywordsUnder parent =
      (g.tokens.filter (g.isStyledUnder parent)).map Token.keyword := by
  have hvalues : (ofGrammar g).byKeyword.values = g.tokens :=
    Index.values_foldl_put_of_nodup hspellings
  rw [keywordsUnder, hvalues]
  refine congrArg (List.map Token.keyword) (List.filter_congr fun t _ => ?_)
  exact any_style?_ofGrammar hclasses parent t.typeName

/-- The groups share out the words that have a style. There is a group for each parent, in the order in
which the parents first come; a group has the keywords of all words whose type is a class with its
parent, each as often as it is declared, and the groups together have those of all words whose type is a
class. Where no two words are spelled alike up to case, the groups of operators and functions are the
lists of operators and functions up to order. -/
theorem groups_partition :
    (ofGrammar g).groups.map KeywordGroup.parent = (g.types.map TypeStyle.parent).eraseDups ∧
    (∀ k ∈ (ofGrammar g).groups,
      k.keywords.Perm ((g.tokens.filter (g.isStyledUnder k.parent)).map Token.keyword)) ∧
    ((ofGrammar g).groups.flatMap KeywordGroup.keywords).Perm
      ((g.tokens.filter g.isStyled).map Token.keyword) ∧
    ((g.tokens.map fun t => Text.lowercaseString t.keyword).Nodup →
      ((ofGrammar g).groupKeywords "Operator").Perm (ofGrammar g).operators ∧
      ((ofGrammar g).groupKeywords "Function").Perm (ofGrammar g).functions) := by
  refine ⟨map_parent_groups g, fun k hk => ?_, flatMap_groups_perm hclasses, fun hspellings => ?_⟩
  · rw [keywords_of_mem_groups g hk]
    exact typesUnder_perm hclasses k.parent
  · have hgroup (parent : String) :
        ((ofGrammar g).groupKeywords parent).Perm ((ofGrammar g).keywordsUnder parent) := by
      rw [groupKeywords_ofGrammar, keywordsUnder_of_nodup hclasses hspellings]
      exact typesUnder_perm hclasses parent
    exact ⟨hgroup operatorParent, hgroup functionParent⟩

end Distinct

/-- Types of one parent with others between them, and words in another order than their types. -/
def interleaved : Grammar where
  version := "1.0.0"
  description := none
  reference := none
  rules := [.keyword ⟨"words", false, true, [⟨"or", "Logic", "either"⟩, ⟨"length", "Text", "size"⟩,
    ⟨"EQ", "Comparison", "equal"⟩, ⟨"maybe", "Missing", ""⟩, ⟨"and", "Logic", "both"⟩]⟩]
  types := [⟨"Comparison", "blue", "Operator", none, none⟩, ⟨"Text", "red", "Function", none, none⟩,
    ⟨"Logic", "green", "Operator", none, none⟩]
  metadata := none

/-- The groups have the order of the types, the list of operators that of the words. -/
theorem groups_partition_interleaved :
    (interleaved.types.map TypeStyle.className).Nodup ∧
    (interleaved.tokens.map fun t => Text.lowercaseString t.keyword).Nodup ∧
    (ofGrammar interleaved).groupKeywords "Operator" = ["EQ", "or", "and"] ∧
    (ofGrammar interleaved).operators = ["or", "EQ", "and"] ∧
    ((ofGrammar interleaved).groups.flatMap KeywordGroup.keywords).Perm
      ((interleaved.tokens.filter interleaved.isStyled).map Token.keyword) ∧
    ((ofGrammar interleaved).groupKeywords "Operator").Perm (ofGrammar interleaved).operators := by
  have hclasses : (interleaved.types.map TypeStyle.className).Nodup := by decide
  have hspellings : (interleaved.tokens.map fun t => Text.lowercaseString t.keyword).Nodup := by
    decide +kernel
  obtain ⟨-, -, hall, hlists⟩ := groups_partition hclasses
  exact ⟨hclasses, hspellings, by decide +kernel, by decide +kernel, hall, (hlists hspellings).1⟩

end Vocabulary

end Annotator

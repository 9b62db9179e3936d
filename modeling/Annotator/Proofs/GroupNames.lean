import Annotator.Pattern.Matcher
import Annotator.Proofs.JoinedForms

/-!
# Names of groups

The groups of a matcher are groups that were written in its pattern: simplifying a pattern may lose a
group, but never makes one. So every name of a group is one that can be written, which begins with a
letter or an underscore. Such a name is never taken for a number, and braces can stand around it.

## Key results

- `formOf_groups`: the groups of the form of a tree are groups of the tree
- `Progress.WellNamed.step`, `wellNamed_of_parseFrom`: what one step of the reader keeps, and what holds
  of the whole tree
- `Matcher.wellNamed_of_ofPattern`: the names of the groups of a matcher
-/

namespace Annotator.Pattern

/-! ### Names that can be written -/

/-- A name that can be written in a pattern for a group. -/
def IsGroupName (name : String) : Prop :=
  ∃ c others, name.toList = c :: others ∧ isNameChar true c = true ∧
    others.all (isNameChar false) = true

/-- No name of a group begins with a digit. -/
theorem isNameChar_of_isDigit {c : Char} (h : c.isDigit = true) : isNameChar true c = false := by
  have hascii : ∀ n < 58, 48 ≤ n → isNameChar true (Char.ofNat n) = false := by decide
  obtain ⟨hlow, hhigh⟩ := (Bool.and_eq_true _ _).mp h
  have hlow : 48 ≤ c.toNat := UInt32.le_iff_toNat_le.mp (of_decide_eq_true hlow)
  have hhigh : c.toNat ≤ 57 := UInt32.le_iff_toNat_le.mp (of_decide_eq_true hhigh)
  have hc := hascii c.toNat (by omega) hlow
  rwa [Char.ofNat_toNat] at hc

namespace IsGroupName

variable {name : String}

/-- The name of a group is no size. -/
theorem size?_eq_none (h : IsGroupName name) : Text.size? name.toList = none := by
  obtain ⟨c, others, hname, hc, -⟩ := h
  have hplus : c ≠ '+' := by
    rintro rfl
    exact absurd hc (by decide)
  have hdigit : c.isDigit = false := by
    rw [← Bool.not_eq_true]
    intro hdigit
    rw [isNameChar_of_isDigit hdigit] at hc
    cases hc
  rw [hname]
  simp [Text.size?, hplus, hdigit]

/-- The name of a group does not end the braces around it. -/
theorem brace_notMem (h : IsGroupName name) : '}' ∉ name.toList := by
  obtain ⟨c, others, hname, hc, hothers⟩ := h
  have hbrace (first : Bool) : isNameChar first '}' ≠ true := by
    cases first <;> decide
  rw [hname, List.mem_cons]
  rintro (rfl | hmem)
  · exact hbrace true hc
  · exact hbrace false (List.all_eq_true.mp hothers _ hmem)

end IsGroupName

theorem isGroupName_of_groupName {text rest : List Char} {name : String}
    (h : groupName? text = some (name, rest)) : IsGroupName name := by
  simp only [groupName?] at h
  split at h
  · rename_i c others _ hname _
    rw [Option.ite_none_right_eq_some, Bool.and_eq_true] at h
    obtain ⟨hchars, h⟩ := h
    cases h
    exact ⟨c, others, by rw [String.toList_ofList, hname], hchars⟩
  · cases h

/-! ### Groups of trees and of forms -/

/-- The number and the name of a group, if its text is kept. -/
def GroupKind.groups : GroupKind → List (Nat × Option String)
  | capturing index name => [(index, name)]
  | plain _ => []

namespace Tree

mutual

/-- The numbers and names of the groups that are written in a tree, in order. -/
def groups : Tree → List (Nat × Option String)
  | repetition _ _ _ sub => sub.groups
  | group kind sub => kind.groups ++ sub.groups
  | alternation branches => groupsOf branches
  | concat items => groupsOf items
  | _ => []

/-- The numbers and names of the groups that are written in some trees. -/
def groupsOf : List Tree → List (Nat × Option String)
  | [] => []
  | t :: later => t.groups ++ groupsOf later

end

end Tree

namespace Form

/-- The groups of forms one after another are the groups of all of them; a literal has none. -/
theorem byParts_groups : ByParts (· ++ ·) [] groups groupsOf where
  assoc := List.append_assoc
  zero_add := List.nil_append
  add_zero := List.append_nil
  nil := rfl
  cons _ _ := rfl
  empty := rfl
  concat _ := rfl
  literal_append _ _ := rfl

theorem groupsOf_subset_of_mem {f : Form} {fs : List Form} (h : f ∈ fs) :
    f.groups ⊆ groupsOf fs := by
  induction h with
  | head => exact List.subset_append_left _ _
  | tail _ _ ih => exact List.Subset.trans ih (List.subset_append_right _ _)

theorem groupsOf_subset {fs : List Form} {gs : List (Nat × Option String)}
    (h : ∀ f ∈ fs, f.groups ⊆ gs) : groupsOf fs ⊆ gs := by
  induction fs with
  | nil => exact List.nil_subset _
  | cons f fs ih =>
    rw [List.forall_mem_cons] at h
    exact List.append_subset.mpr ⟨h.1, ih h.2⟩

/-- A set of characters has no groups. -/
theorem groups_ofSet (s : Unicode.CodeSet) (ascii : Bool) : (ofSet s ascii).groups = [] := by
  unfold ofSet
  split
  · rfl
  · split <;> rfl

/-- A character has no groups, nor have its spellings. -/
theorem groups_ofChar (ignoreCase : Bool) (c : Char) : (ofChar ignoreCase c).groups = [] := by
  unfold ofChar
  split
  · exact groups_ofSet _ _
  · rfl

/-- What is not repeated at all loses its groups. -/
theorem groups_ofRepetition_subset (min : Nat) (max : Option Nat) (greedy : Bool) (sub : Form) :
    (ofRepetition min max greedy sub).groups ⊆ sub.groups := by
  unfold ofRepetition
  split
  split
  · exact List.nil_subset _
  · split <;> exact List.Subset.refl _

theorem groupsOf_branches (f : Form) : groupsOf f.branches = f.groups := by
  cases f with
  | alternation fs => rfl
  | _ => exact byParts_groups.singleton _

theorem groups_choice_subset (fs : List Form) : (choice fs).groups ⊆ groupsOf fs := by
  unfold choice
  split
  · exact List.nil_subset _
  · rw [byParts_groups.singleton]
    exact List.Subset.refl _
  · split
    · rw [groups_ofSet]
      exact List.nil_subset _
    · exact List.Subset.refl _

theorem concat_mem_of_mapM {fs : List Form} {concats : List (List Form)}
    (h : fs.mapM concat? = some concats) {items : List Form} (hitems : items ∈ concats) :
    concat items ∈ fs := by
  induction fs generalizing concats with
  | nil =>
    cases h
    cases hitems
  | cons f fs ih =>
    simp only [List.mapM_cons, Option.bind_eq_bind, Option.bind_eq_some_iff] at h
    obtain ⟨first, hfirst, others, hothers, h⟩ := h
    cases h
    rcases List.mem_cons.mp hitems with rfl | hitems
    · cases f with
      | concat fs' =>
        cases hfirst
        exact List.mem_cons_self
      | _ => cases hfirst
    · exact List.mem_cons_of_mem f (ih hothers hitems)

theorem groupsOf_take_subset (n : Nat) (fs : List Form) : groupsOf (fs.take n) ⊆ groupsOf fs :=
  groupsOf_subset fun _ hf => groupsOf_subset_of_mem (List.mem_of_mem_take hf)

theorem groupsOf_drop_subset (n : Nat) (fs : List Form) : groupsOf (fs.drop n) ⊆ groupsOf fs :=
  groupsOf_subset fun _ hf => groupsOf_subset_of_mem (List.mem_of_mem_drop hf)

/-- What branches begin with alike is written once, with the groups in it. -/
theorem groups_ofBranches_subset (fs : List Form) : (ofBranches fs).groups ⊆ groupsOf fs := by
  rw [← byParts_groups.flatMap groupsOf_branches fs, ofBranches]
  dsimp only
  generalize fs.flatMap branches = flat
  split
  · rename_i first second others hconcats
    have hpart {items : List Form} (hitems : items ∈ first :: second :: others) :
        groupsOf items ⊆ groupsOf flat :=
      groupsOf_subset_of_mem (concat_mem_of_mapM hconcats hitems)
    split
    · exact groups_choice_subset flat
    · rw [byParts_groups.ofItems, byParts_groups.append, byParts_groups.singleton]
      refine List.append_subset.mpr ⟨?_, List.Subset.trans (groups_choice_subset _) ?_⟩
      · exact List.Subset.trans (groupsOf_take_subset _ _) (hpart List.mem_cons_self)
      · -- the rests of the branches, each without what all begin with
        rw [byParts_groups.flatMap groupsOf_branches]
        refine groupsOf_subset fun f hf => ?_
        obtain ⟨items, hitems, rfl⟩ := List.mem_map.mp hf
        rw [byParts_groups.ofItems]
        exact List.Subset.trans (groupsOf_drop_subset _ _) (hpart hitems)
  · exact groups_choice_subset flat

end Form

/-! ### Forms of trees -/

/-- The form of a character has no groups. -/
theorem groups_of_literalForm {m : Mode} {l : Literal} {f : Form} (h : literalForm m l = some f) :
    f.groups = [] := by
  simp only [literalForm, Option.bind_eq_bind, Option.bind_eq_some_iff] at h
  obtain ⟨c, -, h⟩ := h
  split at h
  · cases h
    exact Form.groups_ofChar _ _
  · split at h
    · cases h
      exact Form.groups_ofSet _ _
    · cases h
      rfl

theorem groups_of_dotForm {m : Mode} {f : Form} (h : dotForm m = some f) : f.groups = [] := by
  unfold dotForm at h
  split at h
  · cases h
  · split at h
    · cases h
      exact Form.groups_ofSet _ _
    · cases h
      exact Form.groups_ofSet _ _

mutual

/-- The groups of the form of a tree are groups of the tree. -/
theorem formOf_groups {m m' : Mode} {t : Tree} {f : Form} (h : formOf m t = some (f, m')) :
    f.groups ⊆ t.groups := by
  -- the flags in force change on the way, but no flag touches the groups
  cases t with
  | empty | flags changes | assertion a =>
    cases h
    exact List.nil_subset _
  | literal l =>
    obtain ⟨f, hf, h⟩ := Option.map_eq_some_iff.mp h
    cases h
    rw [groups_of_literalForm hf]
    exact List.nil_subset _
  | dot =>
    obtain ⟨f, hf, h⟩ := Option.map_eq_some_iff.mp h
    cases h
    rw [groups_of_dotForm hf]
    exact List.nil_subset _
  | shorthand negated kind | property negated query =>
    obtain ⟨s, -, h⟩ := Option.map_eq_some_iff.mp h
    cases h
    rw [Form.groups_ofSet]
    exact List.nil_subset _
  | bracketed negated inner =>
    simp only [formOf, Option.bind_eq_bind, Option.bind_eq_some_iff] at h
    obtain ⟨_, -, _, -, h⟩ := h
    cases h
    rw [Form.groups_ofSet]
    exact List.nil_subset _
  -- below, a group may get lost, but the groups that are left are those of the parts
  | repetition min max greedy sub =>
    simp only [formOf, Option.bind_eq_bind, Option.bind_eq_some_iff] at h
    obtain ⟨⟨f, _⟩, hf, h⟩ := h
    cases h
    exact List.Subset.trans (Form.groups_ofRepetition_subset _ _ _ f) (formOf_groups (t := sub) hf)
  | group kind sub =>
    cases kind with
    | plain changes =>
      simp only [formOf, Option.bind_eq_bind, Option.bind_eq_some_iff] at h
      obtain ⟨⟨f, _⟩, hf, h⟩ := h
      cases h
      exact formOf_groups (t := sub) hf
    | capturing index name =>
      simp only [formOf, Option.bind_eq_bind, Option.bind_eq_some_iff] at h
      obtain ⟨⟨f, _⟩, hf, h⟩ := h
      cases h
      exact List.cons_subset_cons _ (formOf_groups hf)
  | concat items =>
    simp only [formOf, Option.bind_eq_bind, Option.bind_eq_some_iff] at h
    obtain ⟨⟨fs, _⟩, hfs, h⟩ := h
    cases h
    rw [Form.byParts_groups.ofItems]
    exact formsOf_groups hfs
  | alternation branches =>
    simp only [formOf, Option.bind_eq_bind, Option.bind_eq_some_iff] at h
    obtain ⟨⟨fs, _⟩, hfs, h⟩ := h
    cases h
    exact List.Subset.trans (Form.groups_ofBranches_subset fs) (formsOf_groups hfs)

theorem formsOf_groups {m m' : Mode} {ts : List Tree} {fs : List Form}
    (h : formsOf m ts = some (fs, m')) : Form.groupsOf fs ⊆ Tree.groupsOf ts := by
  cases ts with
  | nil =>
    cases h
    exact List.nil_subset _
  | cons t later =>
    simp only [formsOf, Option.bind_eq_bind, Option.bind_eq_some_iff] at h
    obtain ⟨⟨f, _⟩, hf, ⟨fs, _⟩, hfs, h⟩ := h
    cases h
    exact List.append_subset.mpr ⟨List.Subset.trans (formOf_groups hf) (List.subset_append_left _ _),
      List.Subset.trans (formsOf_groups hfs) (List.subset_append_right _ _)⟩

end

/-! ### Names in what is read -/

/-- A group has no name, or one that can be written. -/
def GroupKind.WellNamed (kind : GroupKind) : Prop :=
  ∀ g ∈ kind.groups, ∀ name, g.2 = some name → IsGroupName name

namespace Tree

/-- The names of the groups in a tree can be written. -/
def WellNamed (t : Tree) : Prop := ∀ g ∈ t.groups, ∀ name, g.2 = some name → IsGroupName name

theorem mem_groupsOf {g : Nat × Option String} {ts : List Tree} :
    g ∈ groupsOf ts ↔ ∃ t ∈ ts, g ∈ t.groups := by
  induction ts with
  | nil => simp [groupsOf]
  | cons t ts ih => simp [groupsOf, ih]

theorem WellNamed.group {kind : GroupKind} {sub : Tree} (hkind : kind.WellNamed)
    (hsub : sub.WellNamed) : (group kind sub).WellNamed := by
  intro g hg
  rcases List.mem_append.mp hg with hg | hg
  · exact hkind g hg
  · exact hsub g hg

theorem wellNamed_of_groupsOf {ts : List Tree} (h : ∀ t ∈ ts, t.WellNamed) {t : Tree}
    (ht : t.groups = groupsOf ts) : t.WellNamed := by
  intro g hg
  rw [ht, mem_groupsOf] at hg
  obtain ⟨t', hmem, hg⟩ := hg
  exact h t' hmem g hg

theorem groups_of_singleton (t : Tree) : t.groups = groupsOf [t] := by
  rw [groupsOf, groupsOf, List.append_nil]

theorem wellNamed_ofItems {ts : List Tree} (h : ∀ t ∈ ts, t.WellNamed) : (ofItems ts).WellNamed := by
  refine wellNamed_of_groupsOf h ?_
  rcases ts with _ | ⟨t, _ | ⟨t', ts⟩⟩
  · rfl
  · exact groups_of_singleton t
  · rfl

theorem wellNamed_ofBranches {ts : List Tree} (h : ∀ t ∈ ts, t.WellNamed) :
    (ofBranches ts).WellNamed := by
  refine wellNamed_of_groupsOf h ?_
  rcases ts with _ | ⟨t, _ | ⟨t', ts⟩⟩
  · rfl
  · exact groups_of_singleton t
  · rfl

end Tree

/-- The names that have been read before an open group can be written, and so can its own. -/
structure OpenGroup.WellNamed (g : OpenGroup) : Prop where
  items : ∀ t ∈ g.items, t.WellNamed
  branches : ∀ t ∈ g.branches, t.WellNamed
  kind : g.kind.WellNamed

/-- An opening makes a group whose name, if it has one, can be written. -/
def Opening.WellNamed : Opening → Prop
  | group kind => kind.WellNamed
  | flags _ => True

theorem wellNamed_of_opening {extended : Bool} {groups : Nat} {text rest : List Char}
    {opening : Opening} (h : opening? extended groups text = some (opening, rest)) :
    opening.WellNamed := by
  have hnamed {later rest : List Char} {name : String}
      (hname : groupName? later = some (name, rest)) :
      GroupKind.WellNamed (.capturing (groups + 1) (some name)) := by
    intro g hg _ hg'
    cases List.mem_singleton.mp hg
    cases hg'
    exact isGroupName_of_groupName hname
  unfold opening? at h
  split at h
  -- the four ways to look around are refused
  · cases h
  · cases h
  · cases h
  · cases h
  -- the two ways to write a name
  · obtain ⟨⟨name, _⟩, hname, h⟩ := Option.bind_eq_some_iff.mp h
    cases h
    exact hnamed hname
  · obtain ⟨⟨name, _⟩, hname, h⟩ := Option.bind_eq_some_iff.mp h
    cases h
    exact hnamed hname
  · obtain ⟨⟨changes, final, _⟩, -, h⟩ := Option.bind_eq_some_iff.mp h
    dsimp only at h
    split at h
    · cases h
      exact nofun
    · have h := Option.ite_none_left_eq_some.mp h
      cases h.2
      trivial
  · cases h
    intro g hg _ hg'
    cases List.mem_singleton.mp hg
    cases hg'

namespace Progress

/-- All names that have been read can be written. -/
structure WellNamed (p : Progress) : Prop where
  items : ∀ t ∈ p.items, t.WellNamed
  branches : ∀ t ∈ p.branches, t.WellNamed
  around : ∀ g ∈ p.around, g.WellNamed

theorem wellNamed_start : start.WellNamed := ⟨nofun, nofun, nofun⟩

namespace WellNamed

variable {p q : Progress}

theorem add (hp : p.WellNamed) {t : Tree} (ht : t.WellNamed) : (p.add t).WellNamed where
  items := List.forall_mem_cons.mpr ⟨ht, hp.items⟩
  branches := hp.branches
  around := hp.around

theorem branch (hp : p.WellNamed) : (Tree.ofItems p.items.reverse).WellNamed :=
  Tree.wellNamed_ofItems fun t ht => hp.items t (List.mem_reverse.mp ht)

theorem tree (hp : p.WellNamed) : p.tree.WellNamed := by
  unfold Progress.tree
  split
  · exact hp.branch
  · refine Tree.wellNamed_ofBranches fun t ht => ?_
    rcases List.mem_append.mp ht with ht | ht
    · exact hp.branches t (List.mem_reverse.mp ht)
    · rw [List.mem_singleton.mp ht]
      exact hp.branch

/-- What is repeated has the groups that it had. -/
theorem repeatLast (hp : p.WellNamed) {min : Nat} {max : Option Nat} {greedy : Bool}
    (h : p.repeatLast min max greedy = some q) : q.WellNamed := by
  unfold Progress.repeatLast at h
  split at h
  · cases h
  · cases h
  · cases h
  · rename_i t before _ _ hitems
    have hbefore := hp.items
    rw [hitems, List.forall_mem_cons] at hbefore
    cases h
    exact ⟨List.forall_mem_cons.mpr hbefore, hp.branches, hp.around⟩

theorem begin? (hp : p.WellNamed) {opening : Opening} (ho : opening.WellNamed)
    (h : p.begin? opening = some q) : q.WellNamed := by
  cases opening with
  | flags changes =>
    cases h
    exact ⟨List.forall_mem_cons.mpr ⟨nofun, hp.items⟩, hp.branches, hp.around⟩
  | group kind =>
    have haround : ∀ g ∈ OpenGroup.mk p.items p.branches kind p.extended :: p.around,
        g.WellNamed := List.forall_mem_cons.mpr ⟨⟨hp.items, hp.branches, ho⟩, hp.around⟩
    rcases kind with ⟨index, _ | name⟩ | changes
    · cases h
      exact ⟨nofun, nofun, haround⟩
    · have h := Option.ite_none_left_eq_some.mp h
      cases h.2
      exact ⟨nofun, nofun, haround⟩
    · cases h
      exact ⟨nofun, nofun, haround⟩

/-- A group that ends is an item of the group around it. -/
theorem end? (hp : p.WellNamed) (h : p.end? = some q) : q.WellNamed := by
  unfold Progress.end? at h
  split at h
  · cases h
  · rename_i g around haround
    have hg := hp.around
    rw [haround, List.forall_mem_cons] at hg
    cases h
    exact ⟨List.forall_mem_cons.mpr ⟨Tree.WellNamed.group hg.1.kind hp.tree, hg.1.items⟩, hg.1.branches, hg.2⟩

/-- What is written as an escape has no groups. -/
theorem wellNamed_toTree (e : Escape) : e.toTree.WellNamed := by
  cases e <;> exact nofun

/-- Reading one part of a pattern adds no name that cannot be written. -/
theorem step (hp : p.WellNamed) {c : Char} {later rest : List Char}
    (h : step? p c later = some (q, rest)) : q.WellNamed := by
  unfold step? at h
  split at h
  · obtain ⟨⟨opening, _⟩, hopening, h⟩ := Option.bind_eq_some_iff.mp h
    obtain ⟨next, hnext, h⟩ := Option.bind_eq_some_iff.mp h
    cases h
    exact hp.begin? (wellNamed_of_opening hopening) hnext
  · obtain ⟨next, hnext, h⟩ := Option.bind_eq_some_iff.mp h
    cases h
    exact hp.end? hnext
  · cases h
    exact ⟨nofun, List.forall_mem_cons.mpr ⟨hp.branch, hp.branches⟩, hp.around⟩
  · obtain ⟨_, -, h⟩ := Option.bind_eq_some_iff.mp h
    cases h
    exact hp.add nofun
  · obtain ⟨next, hnext, h⟩ := Option.bind_eq_some_iff.mp h
    cases h
    exact hp.repeatLast hnext
  · obtain ⟨next, hnext, h⟩ := Option.bind_eq_some_iff.mp h
    cases h
    exact hp.repeatLast hnext
  · obtain ⟨next, hnext, h⟩ := Option.bind_eq_some_iff.mp h
    cases h
    exact hp.repeatLast hnext
  · obtain ⟨⟨_, _⟩, -, h⟩ := Option.bind_eq_some_iff.mp h
    obtain ⟨next, hnext, h⟩ := Option.bind_eq_some_iff.mp h
    cases h
    exact hp.repeatLast hnext
  · obtain ⟨⟨e, _⟩, -, h⟩ := Option.bind_eq_some_iff.mp h
    cases h
    exact hp.add (wellNamed_toTree e)
  -- the other characters are items of their own
  all_goals
    cases h
    exact hp.add nofun

end WellNamed

end Progress

/-- What is read from a state on has only names that can be written. -/
theorem wellNamed_of_parseFrom {fuel : Nat} {p : Progress} (hp : p.WellNamed) {text : List Char}
    {t : Tree} (h : parseFrom fuel p text = some t) : t.WellNamed := by
  -- each step uses up one unit of fuel, and keeps the names that have been read
  induction fuel generalizing p text with
  | zero => cases h
  | succ fuel ih =>
    unfold parseFrom at h
    split at h
    · rw [Option.ite_none_right_eq_some] at h
      cases h.2
      exact hp.tree
    · split at h
      · cases h
      · rename_i next rest hstep
        exact ih (hp.step hstep) h

theorem wellNamed_of_parse {pattern : List Char} {t : Tree} (h : Tree.parse? pattern = some t) :
    t.WellNamed := by
  obtain ⟨t', hparse, h⟩ := Option.bind_eq_some_iff.mp h
  cases (Option.ite_none_right_eq_some.mp h).2
  exact wellNamed_of_parseFrom Progress.wellNamed_start hparse

/-- The names of the groups can be written in a pattern. -/
def Groups.WellNamed (g : Groups) : Prop := ∀ p ∈ g.names, IsGroupName p.1

/-- The names of the groups of a matcher are names that were written in its pattern. -/
theorem Matcher.wellNamed_of_ofPattern {pattern : String} {m : Matcher}
    (h : ofPattern? pattern = some m) : m.groups.WellNamed := by
  intro p hp
  obtain ⟨f, hparse, rfl⟩ := Option.map_eq_some_iff.mp h
  obtain ⟨t, ht, hparse⟩ := Option.bind_eq_some_iff.mp hparse
  obtain ⟨⟨f', _⟩, hf, hparse⟩ := Option.bind_eq_some_iff.mp hparse
  cases (Option.ite_none_right_eq_some.mp hparse).2
  -- a name of the matcher is one of the form, so one of the tree, so one that was read
  obtain ⟨⟨index, name?⟩, hmem, hname⟩ := List.mem_filterMap.mp hp
  obtain ⟨name, hsome, rfl⟩ := Option.map_eq_some_iff.mp hname
  exact wellNamed_of_parse ht _ (formOf_groups hf hmem) name hsome

end Annotator.Pattern

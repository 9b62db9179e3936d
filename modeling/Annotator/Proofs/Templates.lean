import Annotator.Marking
import Annotator.Proofs.GroupNames
import Mathlib.Data.List.TakeWhile

/-!
# What replacement templates stand for

A template as it is written stands for a text: `substitute` reads it from left to right and looks each
reference up in the match. Resolving the template and expanding the resolved form gives the same text.
In the resolved form a reference is the same whatever follows it, because it stands in braces, and no
dollar is left that could begin a reference with what comes after it.

## Key results

- `expandFrom_dollar`, `expandFrom_numbered`, `expandFrom_named`: the parts of a resolved template, each
  in front of anything
- `substitute_of_reference`, `substitute_of_no_reference`: what a dollar stands for
- `expand_resolve`: expanding the resolved form is substitution
- `Marking.template_substitutes`: what a rule with a template puts in place of each match
-/

namespace Annotator.Pattern.Template

section Substitution

variable (g : Groups) (matched : List Char) (groups : List (Option (List Char)))

/-- The number that the first `k` characters of a text make, if they are digits and there is a group
with that number. -/
def groupNumber? (k : Nat) (text : List Char) : Option Nat :=
  let digits := text.take k
  let n := Text.ofDigits 10 digits
  if digits.length = k ∧ digits.all Char.isDigit ∧ 1 ≤ n ∧ n ≤ g.count then some n else none

/-- The text of the group with a name; nothing if there is no such group. -/
def namedText (name : List Char) : List Char :=
  match g.names.lookup (String.ofList name) with
  | some n => groupText matched groups n
  | none => []

/-- What a template stands for as it is written, given a match and the texts of its groups. A dollar
that begins no reference stands for itself, and what follows it is read like everything else. -/
def substitute : List Char → List Char
  | [] => []
  | '$' :: '$' :: rest => '$' :: substitute rest
  | '$' :: '&' :: rest => matched ++ substitute rest
  | '$' :: '<' :: rest =>
    if g.names ≠ [] ∧ '>' ∈ rest then
      namedText g matched groups (rest.takeWhile (· != '>')) ++
        substitute ((rest.dropWhile (· != '>')).drop 1)
    else '$' :: substitute ('<' :: rest)
  | '$' :: later =>
    match groupNumber? g 2 later, groupNumber? g 1 later with
    | some n, _ => groupText matched groups n ++ substitute (later.drop 2)
    | none, some n => groupText matched groups n ++ substitute (later.drop 1)
    | none, none => '$' :: substitute later
  | c :: later => c :: substitute later
  termination_by text => text.length
  decreasing_by
    all_goals simp only [List.length_cons, List.length_drop]
    all_goals try omega
    -- what follows the name of a group is a part of what follows the dollar
    have := (List.dropWhile_suffix (l := rest) (· != '>')).length_le
    omega

end Substitution

section Expansion

variable {g : Groups} {matched : List Char} {groups : List (Option (List Char))}

/-! ### Parts of a resolved template -/

theorem expandFrom_skip (n : Nat) (text : List Char) :
    expandFrom g matched groups n text = expandFrom g matched groups 0 (text.drop n) := by
  induction n generalizing text with
  | zero => rfl
  | succ n ih =>
    cases text with
    | nil => rfl
    | cons c later => exact ih later

theorem expandFrom_char {c : Char} (hc : c ≠ '$') (rest : List Char) :
    expandFrom g matched groups 0 (c :: rest) = c :: expandFrom g matched groups 0 rest := by
  rw [expandFrom, if_neg (by simpa using hc)]

theorem expandFrom_dollar (rest : List Char) :
    expandFrom g matched groups 0 ('$' :: '$' :: rest) = '$' :: expandFrom g matched groups 0 rest :=
  rfl

/-- What stands in braces is a name of its own, whatever comes after it. -/
theorem expandFrom_braced {name : List Char} (h : '}' ∉ name) (rest : List Char) :
    expandFrom g matched groups 0 (braced name ++ rest) =
      ((refersTo g name).map (groupText matched groups)).getD [] ++
        expandFrom g matched groups 0 rest := by
  have htake : (name ++ '}' :: rest).takeWhile (· != '}') = name := by
    rw [List.takeWhile_append_of_pos (by grind), List.takeWhile_cons_of_neg (by simp),
      List.append_nil]
  have hname : name? ('{' :: (name ++ '}' :: rest)) = some (name, name.length + 2) := by
    simp [name?, htake]
  have hbraced : braced name ++ rest = '$' :: '{' :: (name ++ '}' :: rest) := by
    simp [braced]
  have hdrop : ('{' :: (name ++ '}' :: rest)).drop (name.length + 2) = rest := by
    simp
  -- the braces end the name, so nothing of the rest is read as a part of it
  rw [hbraced, expandFrom, if_pos (beq_self_eq_true '$'), if_neg (by simp), hname]
  dsimp only
  rw [expandFrom_skip, hdrop]

/-- The numbers that two digits make are read as they are written. -/
theorem size?_toDigits : ∀ n < 100, Text.size? (Nat.toDigits 10 n) = some n := by decide

theorem expandFrom_numbered {n : Nat} (h : n < 100) (rest : List Char) :
    expandFrom g matched groups 0 (numbered n ++ rest) =
      groupText matched groups n ++ expandFrom g matched groups 0 rest := by
  have hbrace : '}' ∉ Nat.toDigits 10 n := fun hmem =>
    absurd (Nat.isDigit_of_mem_toDigits (by decide) (by decide) hmem) (by decide)
  rw [numbered, expandFrom_braced hbrace, refersTo, size?_toDigits n h]
  rfl

theorem expandFrom_named {name : String} (h : IsGroupName name) (rest : List Char) :
    expandFrom g matched groups 0 (braced name.toList ++ rest) =
      namedText g matched groups name.toList ++ expandFrom g matched groups 0 rest := by
  -- a name that could be a number would be taken for one
  rw [expandFrom_braced h.brace_notMem, refersTo, h.size?_eq_none, Option.none_or, namedText]
  cases g.names.lookup (String.ofList name.toList) <;> rfl

/-! ### Numbers of groups -/

theorem hexDigit?_of_digit {c : Char} {a : Nat} (h : digit? c = some a) :
    c.isDigit = true ∧ Text.hexDigit? c = some a := by
  rw [digit?, Option.ite_none_right_eq_some] at h
  rw [Text.hexDigit?, if_pos h.1]
  exact h

theorem isDigit_of_digit?_eq_none {c : Char} (h : digit? c = none) : c.isDigit = false := by
  rw [digit?, ite_eq_right_iff] at h
  rw [← Bool.not_eq_true]
  intro hc
  cases h hc

theorem le_nine_of_digit {c : Char} {a : Nat} (h : digit? c = some a) : a ≤ 9 := by
  rw [digit?, Option.ite_none_right_eq_some, Option.some.injEq] at h
  obtain ⟨hc, rfl⟩ := h
  have hhigh : c.toNat ≤ 57 :=
    UInt32.le_iff_toNat_le.mp (of_decide_eq_true ((Bool.and_eq_true _ _).mp hc).2)
  omega

/-- No number of a group begins where there is no digit. -/
theorem groupNumber?_eq_none {c : Char} (h : c.isDigit = false) (later : List Char) (k : Nat) :
    groupNumber? g (k + 1) (c :: later) = none := by
  simp [groupNumber?, h]

theorem groupNumber?_one {c : Char} {a : Nat} (h : digit? c = some a) (later : List Char) :
    groupNumber? g 1 (c :: later) = if Groups.has g a then some a else none := by
  obtain ⟨hc, ha⟩ := hexDigit?_of_digit h
  simp [groupNumber?, Groups.has, Text.ofDigits, hc, ha]

theorem groupNumber?_two {c : Char} {a : Nat} (h : digit? c = some a) (later : List Char) :
    groupNumber? g 2 (c :: later) =
      ((later.head?.bind digit?).map (10 * a + ·)).filter (Groups.has g) := by
  obtain ⟨hc, ha⟩ := hexDigit?_of_digit h
  cases later with
  | nil => simp [groupNumber?]
  | cons d later =>
    cases hd : digit? d with
    | none => simp [groupNumber?, hd, isDigit_of_digit?_eq_none hd]
    | some b =>
      obtain ⟨hd', hb⟩ := hexDigit?_of_digit hd
      simp [groupNumber?, Groups.has, Text.ofDigits, Option.filter, hc, ha, hd, hd', hb]

/-! ### What a dollar stands for -/

theorem substitute_char {c : Char} (hc : c ≠ '$') (later : List Char) :
    substitute g matched groups (c :: later) = c :: substitute g matched groups later := by
  rw [substitute]
  all_goals simp [hc]

theorem substitute_number {c : Char} {later : List Char} (hdollar : c ≠ '$') (hwhole : c ≠ '&')
    (hangle : c ≠ '<') :
    substitute g matched groups ('$' :: c :: later) =
      match groupNumber? g 2 (c :: later), groupNumber? g 1 (c :: later) with
      | some n, _ => groupText matched groups n ++ substitute g matched groups (later.drop 1)
      | none, some n => groupText matched groups n ++ substitute g matched groups later
      | none, none => '$' :: substitute g matched groups (c :: later) := by
  rw [substitute]
  · rfl
  all_goals simp_all

/-- A name goes on to the end unless an angle bracket closes it. -/
theorem length_name_eq_iff {rest : List Char} :
    (rest.takeWhile (· != '>')).length = rest.length ↔ '>' ∉ rest := by
  constructor
  · intro hlength hmem
    have hall := List.takeWhile_eq_self_iff.mp
      ((List.takeWhile_prefix (l := rest) (· != '>')).eq_of_length hlength)
    exact absurd (hall '>' hmem) (by decide)
  · intro hmem
    refine congrArg List.length (List.takeWhile_eq_self_iff.mpr fun c hc => ?_)
    rw [bne_iff_ne]
    rintro rfl
    exact hmem hc

/-- What follows a name and the angle bracket that closes it. -/
theorem drop_name (rest : List Char) :
    rest.drop ((rest.takeWhile (· != '>')).length + 1) = (rest.dropWhile (· != '>')).drop 1 := by
  have hparts := List.takeWhile_append_dropWhile (p := (· != '>')) (l := rest)
  generalize rest.takeWhile (· != '>') = name, rest.dropWhile (· != '>') = after at hparts ⊢
  rw [← hparts, List.drop_length_add_append]

/-- A name that no group has stands for nothing. -/
theorem namedText_of_notMem {name : List Char} (h : ∀ p ∈ g.names, p.1.toList ≠ name) :
    namedText g matched groups name = [] := by
  have hlookup : g.names.lookup (String.ofList name) = none := by
    rw [List.lookup_eq_none_iff]
    intro p hp
    rw [bne_iff_ne]
    intro heq
    exact h p hp (by rw [← heq, String.toList_ofList])
  rw [namedText, hlookup]

/-- Where no reference begins a dollar stands for itself. -/
theorem substitute_of_no_reference {later : List Char} (h : reference? g later = none) :
    substitute g matched groups ('$' :: later) = '$' :: substitute g matched groups later := by
  revert h
  fun_cases reference? g later with
  | case1 =>
    intro _
    simp [substitute, groupNumber?]
  | case2 | case3 | case6 | case7 | case9 | case10 => exact nofun
  | case4 later hnames =>
    intro _
    rw [substitute, if_neg (by simp_all)]
  | case5 later hnames name hname =>
    intro _
    rw [substitute, if_neg fun h => length_name_eq_iff.mp hname h.2]
  | case8 c later hdollar hwhole hangle hdigit =>
    have hnone := groupNumber?_eq_none (g := g) (isDigit_of_digit?_eq_none hdigit) later
    intro _
    rw [substitute_number hdollar hwhole hangle, hnone 1, hnone 0]
  | case11 c later hdollar hwhole hangle a ha two htwo hone =>
    intro _
    rw [substitute_number hdollar hwhole hangle, groupNumber?_two ha, groupNumber?_one ha, htwo,
      if_neg hone]

/-- A reference stands for the same text in a template as it is written and in a resolved one. -/
theorem substitute_of_reference (hg : g.WellNamed) {later resolved : List Char} {n : Nat}
    (h : reference? g later = some (resolved, n)) (rest : List Char) :
    ∃ text, substitute g matched groups ('$' :: later) =
        text ++ substitute g matched groups (later.drop n) ∧
      expandFrom g matched groups 0 (resolved ++ rest) =
        text ++ expandFrom g matched groups 0 rest := by
  revert h
  fun_cases reference? g later with
  | case1 | case4 | case5 | case8 | case11 => exact nofun
  | case2 later =>
    rintro ⟨⟩
    exact ⟨['$'], by rw [substitute]; rfl, rfl⟩
  | case3 later =>
    rintro ⟨⟩
    exact ⟨matched, by rw [substitute]; rfl, expandFrom_numbered (by decide) rest⟩
  | case6 later hnames name hname hmem =>
    rintro ⟨⟩
    obtain ⟨p, hp, hpname⟩ := List.any_eq_true.mp hmem
    have hname' : p.1.toList = name := beq_iff_eq.mp hpname
    have hend : '>' ∈ later := not_not.mp (mt length_name_eq_iff.mpr hname)
    refine ⟨namedText g matched groups name, ?_, ?_⟩
    · rw [substitute, if_pos ⟨by simpa using hnames, hend⟩, ← drop_name]
      rfl
    · rw [← hname']
      exact expandFrom_named (hg p hp) rest
  | case7 later hnames name hname hmem =>
    rintro ⟨⟩
    have hnone : namedText g matched groups name = [] := by
      refine namedText_of_notMem fun p hp hpname => hmem (List.any_eq_true.mpr ⟨p, hp, ?_⟩)
      rw [hpname]
      exact beq_self_eq_true name
    have hend : '>' ∈ later := not_not.mp (mt length_name_eq_iff.mpr hname)
    -- the reference is dropped when the template is resolved
    refine ⟨[], ?_, rfl⟩
    rw [substitute, if_pos ⟨by simpa using hnames, hend⟩, ← drop_name, hnone]
    rfl
  | case9 c later hdollar hwhole hangle a ha two n htwo =>
    rintro ⟨⟩
    -- the resolved form is made of digits again, which are read back for two digits at most
    have hn : n < 100 := by
      have ha9 := le_nine_of_digit ha
      obtain ⟨hmap, -⟩ := Option.filter_eq_some_iff.mp htwo
      obtain ⟨b, hb, rfl⟩ := Option.map_eq_some_iff.mp hmap
      obtain ⟨d, -, hd⟩ := Option.bind_eq_some_iff.mp hb
      have hb9 := le_nine_of_digit hd
      omega
    refine ⟨_, ?_, expandFrom_numbered hn rest⟩
    rw [substitute_number hdollar hwhole hangle, groupNumber?_two ha, htwo]
    rfl
  | case10 c later hdollar hwhole hangle a ha two htwo hone =>
    rintro ⟨⟩
    have ha9 := le_nine_of_digit ha
    refine ⟨_, ?_, expandFrom_numbered (by omega) rest⟩
    rw [substitute_number hdollar hwhole hangle, groupNumber?_two ha, groupNumber?_one ha, htwo,
      if_pos hone]
    rfl

/-! ### Whole templates -/

/-- Expanding what is resolved of a template gives what the template stands for. -/
theorem expandFrom_resolveFrom (hg : g.WellNamed) (skip : Nat) (template : List Char) :
    expandFrom g matched groups 0 (resolveFrom g skip template) =
      substitute g matched groups (template.drop skip) := by
  -- along the resolution: what it skips is what the substitution drops
  fun_induction resolveFrom g skip template with
  | case1 skip =>
    rw [List.drop_nil, substitute]
    rfl
  | case2 skip c later ih => exact ih
  | case3 c later hc resolved n hread ih =>
    obtain ⟨text, htext, hexpand⟩ := substitute_of_reference hg hread (resolveFrom g n later)
    rw [hexpand, ih, List.drop_zero, beq_iff_eq.mp hc, htext]
  | case4 c later hc hread ih =>
    rw [expandFrom_dollar, ih, List.drop_zero, List.drop_zero, beq_iff_eq.mp hc,
      substitute_of_no_reference hread]
  | case5 c later hc ih =>
    have hc : c ≠ '$' := by simpa using hc
    rw [expandFrom_char hc, ih, List.drop_zero, List.drop_zero, substitute_char hc]

/-- Resolving a template and expanding the resolved form is substitution. -/
theorem expand_resolve (hg : g.WellNamed) (template : List Char) :
    expand g (resolve g template) matched groups = substitute g matched groups template :=
  expandFrom_resolveFrom hg 0 template

end Expansion

end Annotator.Pattern.Template

namespace Annotator.Marking

open Pattern

/-- Resolving a template for a pattern and expanding the resolved form is substitution. So a rule with a
pattern and a template puts in place of each match what the template stands for there, and leaves what
lies between the matches as it is. -/
theorem template_substitutes {pattern : String} {m : Matcher}
    (hm : Matcher.ofPattern? pattern = some m) :
    (∀ template matched groups,
      Template.expand m.groups (Template.resolve m.groups template) matched groups =
        Template.substitute m.groups matched groups template) ∧
    ∀ (v : Vocabulary) (rule : PatternRule) (t : String), rule.pattern = pattern →
      rule.replacement = some t → t ≠ "" →
      ∃ a, ofPatternRule v rule = .ok a ∧ ∀ text, (m.search.cut text).text = text ∧
        a.apply text = (m.search.cut text).replace fun matched groups =>
          Template.substitute m.groups matched groups t.toList := by
  have hexpand (template matched groups) :
      Template.expand m.groups (Template.resolve m.groups template) matched groups =
        Template.substitute m.groups matched groups template :=
    Template.expand_resolve (Matcher.wellNamed_of_ofPattern hm) template
  refine ⟨hexpand, ?_⟩
  rintro v rule t rfl ht hne
  have hgiven : Replacement.given rule.replacement = some t := by
    simp [Replacement.given, ht, hne]
  have hreplacement : Replacement.ofRule v m rule =
      .template (Template.resolve m.groups t.toList) := by
    rw [Replacement.ofRule, hgiven]
  refine ⟨pattern rule.name m (.template (Template.resolve m.groups t.toList)), ?_, fun text => ?_⟩
  · rw [← hreplacement, ofPatternRule, hm]
  · refine ⟨Search.text_cut _ _, congrArg (Cut.replace · _) ?_⟩
    funext matched groups
    exact hexpand t.toList matched groups

/-- The pattern of two letters, the first of which has a name, with a template that asks for the second,
the first, a dollar, and a third group that there is not. -/
def letterPair : PatternRule where
  name := "Pairs"
  pattern := "(?P<n>a)(b)"
  typeName := none
  replacement := some "$2$<n>$$$3"

theorem template_substitutes_letterPair :
    ∃ m, Matcher.ofPattern? letterPair.pattern = some m ∧
      (∀ v, ∃ a, ofPatternRule v letterPair = .ok a ∧ ∀ text,
        a.apply text = (m.search.cut text).replace fun matched groups =>
          Template.substitute m.groups matched groups "$2$<n>$$$3".toList) ∧
      Template.substitute m.groups ['a', 'b'] [some ['a'], some ['b']] "$2$<n>$$$3".toList =
        "ba$$3".toList := by
  have hgroups : (Matcher.ofPattern? letterPair.pattern).map Matcher.groups =
      some ⟨2, [("n", 1)]⟩ := by decide +kernel
  obtain ⟨m, hm, hg⟩ := Option.map_eq_some_iff.mp hgroups
  obtain ⟨hexpand, hrule⟩ := template_substitutes hm
  refine ⟨m, hm, fun v => ?_, ?_⟩
  · obtain ⟨a, ha, happly⟩ := hrule v letterPair "$2$<n>$$$3" rfl rfl (by decide)
    exact ⟨a, ha, fun text => (happly text).2⟩
  · rw [← hexpand, hg]
    decide +kernel

end Annotator.Marking

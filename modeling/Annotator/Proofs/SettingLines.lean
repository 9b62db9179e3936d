import Mathlib.Data.List.Basic
import Mathlib.Data.List.Induction
import Mathlib.Data.List.TakeWhile
import Mathlib.Data.Nat.Digits.Defs
import Annotator.Settings

/-!
# What the lines of a settings file say

A line of a settings file says at most one thing: a value for one of three keys. The settings of a file
are put together line by line, and a line that says something changes the one field that it is about.
So of several lines for a field the last one counts, and a line that says nothing might as well not be
there.

What a line says is told here without the functions that read it: a line assigns a value to a key if it
is no comment and has an equals sign, the first of which parts the two, and each key asks for values of
its own kind.

## Key results

- `Text.size?_eq_some_iff`, `Setting.ofLine?_eq_some_iff`: what is read from a text and from a line
- `Settings.ofLines_concat`, `Settings.ofLines_append_cons_of_silent`: one more line, and a line
  that says nothing
- `Settings.gives_ofLines_iff`: each field has the value of the last line about it
- `Settings.ofContents_lines`: the settings of a file
-/

namespace Annotator

/-! ### Sizes -/

namespace Text

/-- A text that tells a size: a whole number below 2⁶⁴ in decimal digits, with or without a plus sign
in front. -/
def IsSize (text : List Char) (n : Nat) : Prop :=
  n < 2 ^ 64 ∧ ∃ digits, digits ≠ [] ∧ (∀ c ∈ digits, c.isDigit = true) ∧
    (text = digits ∨ text = '+' :: digits) ∧
    n = Nat.ofDigits 10 (digits.reverse.map fun c => c.toNat - 48)

/-- The number that decimal digits make, the greatest power first. -/
theorem ofDigits_eq {digits : List Char} (h : ∀ c ∈ digits, c.isDigit = true) :
    ofDigits 10 digits = Nat.ofDigits 10 (digits.reverse.map fun c => c.toNat - 48) := by
  rw [ofDigits, Nat.ofDigits_eq_foldr, List.foldr_map, List.foldr_reverse]
  apply List.foldl_ext
  intro n c hc
  rw [hexDigit?, if_pos (h c hc), Option.getD_some, Nat.cast_id, Nat.add_comm]

/-- A text without a plus sign in front. -/
def unsigned : List Char → List Char
  | '+' :: later => later
  | text => text

/-- Digits do not begin with a plus sign. -/
theorem unsigned_eq_iff {text digits : List Char} (h : ∀ c ∈ digits, c.isDigit = true) :
    unsigned text = digits ↔ text = digits ∨ text = '+' :: digits := by
  constructor
  · intro heq
    unfold unsigned at heq
    split at heq
    · exact .inr (heq ▸ rfl)
    · exact .inl heq
  · intro heq
    rcases heq with rfl | rfl
    · unfold unsigned
      split
      · exact absurd (h '+' List.mem_cons_self) (by decide)
      · rfl
    · rfl

/-- What is read from a text is the size that it tells. -/
theorem size?_eq_some_iff {text : List Char} {n : Nat} : size? text = some n ↔ IsSize text n := by
  have hsize : size? text =
      if unsigned text = [] || !(unsigned text).all Char.isDigit then none
      else if ofDigits 10 (unsigned text) < 2 ^ 64 then some (ofDigits 10 (unsigned text))
      else none := by
    unfold size? unsigned
    rfl
  rw [hsize]
  constructor
  · intro h
    split at h
    · cases h
    · rename_i hdigits
      split at h
      · rename_i hlt
        obtain rfl := Option.some.inj h
        have hne : unsigned text ≠ [] := by
          intro heq
          simp [heq] at hdigits
        have hall : ∀ c ∈ unsigned text, c.isDigit = true := by simpa [hne] using hdigits
        exact ⟨hlt, unsigned text, hne, hall, (unsigned_eq_iff hall).mp rfl, ofDigits_eq hall⟩
      · cases h
  · intro h
    obtain ⟨hlt, digits, hne, hall, htext, rfl⟩ := h
    obtain rfl := (unsigned_eq_iff hall).mpr htext
    rw [← ofDigits_eq hall] at hlt ⊢
    rw [if_neg (by simpa [hne] using hall), if_pos hlt]

end Text

/-! ### Lines -/

namespace Setting

/-- The spellings of a truth value, in small letters. -/
def spellings : Bool → List String
  | true => ["on", "true", "yes", "1"]
  | false => ["off", "false", "no", "0"]

theorem switch?_eq_some_iff {word : String} {on : Bool} :
    switch? word = some on ↔ word ∈ spellings on := by
  have hswitch : switch? word = if word ∈ spellings true then some true
      else if word ∈ spellings false then some false else none := by
    simp [switch?, spellings]
  have hdisjoint : ∀ w ∈ spellings true, w ∉ spellings false := by decide
  rw [hswitch]
  by_cases htrue : word ∈ spellings true
  · have hfalse := hdisjoint word htrue
    cases on <;> simp [htrue, hfalse]
  · by_cases hfalse : word ∈ spellings false
    · cases on <;> simp [htrue, hfalse]
    · cases on <;> simp [htrue, hfalse]

/-- A line that is no comment and parts a key, in small letters, from a value. -/
def Assigns (line : List Char) (key : String) (value : List Char) : Prop :=
  ∃ left right, Text.trim line = left ++ '=' :: right ∧ '=' ∉ left ∧
    (Text.trim line).head? ≠ some '#' ∧ small (Text.trim left) = key ∧ Text.trim right = value

/-- What a line says, if anything: a path that is not empty, a line length, which is brought between
20 and 400, or a truth value in any case. -/
inductive Says (line : List Char) : Setting → Prop
  | grammar {value : List Char} (assigns : Assigns line "grammar" value) (ne_nil : value ≠ []) :
      Says line (.grammar (String.ofList value))
  | maxLineLength {value : List Char} {n : Nat} (assigns : Assigns line "max-line-length" value)
      (size : Text.IsSize value n) : Says line (.maxLineLength (max 20 (min n 400)))
  | generateCss {value : List Char} {on : Bool} (assigns : Assigns line "generate-css" value)
      (spelling : small value ∈ spellings on) : Says line (.generateCss on)

/-- The first equals sign parts a line. -/
theorem halves?_eq_some_iff {line left right : List Char} :
    halves? line = some (left, right) ↔ line = left ++ '=' :: right ∧ '=' ∉ left := by
  constructor
  · intro h
    have happend := List.takeWhile_append_dropWhile (p := (· != '=')) (l := line)
    unfold halves? at h
    split at h
    · cases h
    · rename_i c value hdrop
      obtain ⟨rfl, rfl⟩ := Prod.mk.inj (Option.some.inj h)
      -- what is dropped up to an equals sign leaves one in front
      have hc : c = '=' := by
        have := List.head_dropWhile_not (· != '=') (l := line) (by simp [hdrop])
        simpa [hdrop] using this
      subst hc
      refine ⟨by rw [← hdrop, happend], fun hmem => ?_⟩
      have := List.mem_takeWhile_imp hmem
      simp at this
  · intro h
    obtain ⟨rfl, hleft⟩ := h
    have hall : ∀ c ∈ left, (c != '=') = true := by
      intro c hc
      simpa using ne_of_mem_of_not_mem hc hleft
    rw [halves?, List.dropWhile_append_of_pos hall, List.takeWhile_append_of_pos hall]
    simp

/-- What is read from a line is read from the value that it assigns to a key. -/
theorem ofLine?_eq_some_iff_assigns {line : List Char} {x : Setting} :
    ofLine? line = some x ↔ ∃ key value, Assigns line key value ∧ ofKey? key value = some x := by
  unfold ofLine? Assigns
  simp only
  split
  · -- a blank line has no equals sign
    rename_i hblank
    apply iff_of_false nofun
    intro h
    obtain ⟨key, value, ⟨left, right, heq, -⟩, -⟩ := h
    simp [hblank] at heq
  · rename_i later hcomment
    apply iff_of_false nofun
    intro h
    obtain ⟨key, value, ⟨left, right, -, -, hhead, -⟩, -⟩ := h
    simp [hcomment] at hhead
  · rename_i hne hhead
    have hnot : (Text.trim line).head? ≠ some '#' := by
      intro heq
      obtain ⟨later, hlater⟩ := List.head?_eq_some_iff.mp heq
      exact hhead later hlater
    constructor
    · intro h
      obtain ⟨⟨left, right⟩, hhalves, hkey⟩ := Option.bind_eq_some_iff.mp h
      obtain ⟨heq, hleft⟩ := halves?_eq_some_iff.mp hhalves
      exact ⟨_, _, ⟨left, right, heq, hleft, hnot, rfl, rfl⟩, hkey⟩
    · intro h
      obtain ⟨_, _, ⟨left, right, heq, hleft, -, rfl, rfl⟩, hkey⟩ := h
      exact Option.bind_eq_some_iff.mpr
        ⟨(left, right), halves?_eq_some_iff.mpr ⟨heq, hleft⟩, hkey⟩

/-- Each key takes the values of its own kind. -/
theorem says_iff {line : List Char} {x : Setting} :
    Says line x ↔ ∃ key value, Assigns line key value ∧ ofKey? key value = some x := by
  constructor
  · intro h
    cases h with
    | grammar assigns ne_nil => exact ⟨_, _, assigns, if_neg ne_nil⟩
    | maxLineLength assigns size =>
      exact ⟨_, _, assigns, Option.map_eq_some_iff.mpr ⟨_, Text.size?_eq_some_iff.mpr size, rfl⟩⟩
    | generateCss assigns spelling =>
      exact ⟨_, _, assigns, Option.map_eq_some_iff.mpr ⟨_, switch?_eq_some_iff.mpr spelling, rfl⟩⟩
  · intro h
    obtain ⟨key, value, assigns, hkey⟩ := h
    unfold ofKey? at hkey
    split at hkey
    · split at hkey
      · cases hkey
      · rename_i hne
        obtain rfl := Option.some.inj hkey
        exact .grammar assigns hne
    · obtain ⟨n, hn, rfl⟩ := Option.map_eq_some_iff.mp hkey
      exact .maxLineLength assigns (Text.size?_eq_some_iff.mp hn)
    · obtain ⟨on, hon, rfl⟩ := Option.map_eq_some_iff.mp hkey
      exact .generateCss assigns (switch?_eq_some_iff.mp hon)
    · cases hkey

/-- What is read from a line is what it says. -/
theorem ofLine?_eq_some_iff {line : List Char} {x : Setting} :
    ofLine? line = some x ↔ Says line x :=
  ofLine?_eq_some_iff_assigns.trans says_iff.symm

/-- The key of a setting. -/
def key : Setting → String
  | grammar _ => "grammar"
  | maxLineLength _ => "max-line-length"
  | generateCss _ => "generate-css"

end Setting

/-! ### Settings -/

namespace Settings

open Setting (Says)

/-- Settings of which a field has the value that a setting gives it. -/
def Gives (s : Settings) : Setting → Prop
  | .grammar path => s.grammar = some path
  | .maxLineLength n => s.maxLineLength = n
  | .generateCss on => s.generateCss = on

/-- A line changes the field that it is about, and no other. -/
theorem gives_apply_iff (s : Settings) (x y : Setting) :
    (s.apply x).Gives y ↔ if x.key = y.key then x = y else s.Gives y := by
  cases x <;> cases y <;> simp [apply, Gives, Setting.key]

/-- The settings that some lines make. -/
def ofLines (lines : List (List Char)) : Settings :=
  (lines.filterMap Setting.ofLine?).foldl apply default

theorem ofContents_eq (contents : List Char) : ofContents contents = ofLines (linesOf contents) :=
  rfl

/-- A line that says something changes what the lines before it have made. -/
theorem ofLines_concat (lines : List (List Char)) {line : List Char} {x : Setting}
    (h : Says line x) : ofLines (lines ++ [line]) = (ofLines lines).apply x := by
  have hline := Setting.ofLine?_eq_some_iff.mpr h
  simp [ofLines, hline]

/-- A line that says nothing changes nothing, whatever lines follow. -/
theorem ofLines_append_cons_of_silent (before after : List (List Char)) {line : List Char}
    (h : ∀ x, ¬ Says line x) : ofLines (before ++ line :: after) = ofLines (before ++ after) := by
  have hline : Setting.ofLine? line = none :=
    Option.eq_none_iff_forall_ne_some.mpr fun x hx => h x (Setting.ofLine?_eq_some_iff.mp hx)
  simp [ofLines, hline]

/-- Lines none of which says anything about a key. -/
def NoneAbout (lines : List (List Char)) (key : String) : Prop :=
  ∀ line ∈ lines, ∀ x, Says line x → x.key ≠ key

/-- A setting that a line says, with no line about the same key behind it. -/
def LastSays (lines : List (List Char)) (x : Setting) : Prop :=
  ∃ before line after, lines = before ++ line :: after ∧ Says line x ∧ NoneAbout after x.key

theorem noneAbout_concat_iff {lines : List (List Char)} {line : List Char} {key : String} :
    NoneAbout (lines ++ [line]) key ↔
      NoneAbout lines key ∧ ∀ x, Says line x → x.key ≠ key := by
  simp [NoneAbout, or_imp, forall_and]

theorem lastSays_concat_iff {lines : List (List Char)} {line : List Char} {x : Setting} :
    LastSays (lines ++ [line]) x ↔
      Says line x ∨ LastSays lines x ∧ ∀ y, Says line y → y.key ≠ x.key := by
  constructor
  · intro h
    obtain ⟨before, l, after, heq, hl, hafter⟩ := h
    -- the line that says it is the last of all, or one of those before
    rcases List.eq_nil_or_concat after with rfl | ⟨after, l', rfl⟩
    · obtain ⟨-, hlast⟩ := List.append_inj' heq rfl
      obtain rfl := List.singleton_inj.mp hlast
      exact .inl hl
    · rw [List.concat_eq_append] at heq hafter
      have heq' : lines ++ [line] = (before ++ l :: after) ++ [l'] := by simpa using heq
      obtain ⟨rfl, hlast⟩ := List.append_inj' heq' rfl
      obtain rfl := List.singleton_inj.mp hlast
      obtain ⟨hnone, hline⟩ := noneAbout_concat_iff.mp hafter
      exact .inr ⟨⟨before, l, after, rfl, hl, hnone⟩, hline⟩
  · intro h
    rcases h with h | ⟨⟨before, l, after, rfl, hl, hafter⟩, hline⟩
    · exact ⟨lines, line, [], rfl, h, nofun⟩
    · refine ⟨before, l, after ++ [line], by simp, hl, ?_⟩
      exact noneAbout_concat_iff.mpr ⟨hafter, hline⟩

/-- Each field has the value of the last line about it, or the default one if no line is. -/
theorem gives_ofLines_iff (lines : List (List Char)) (x : Setting) :
    (ofLines lines).Gives x ↔ LastSays lines x ∨ default.Gives x ∧ NoneAbout lines x.key := by
  -- line by line, by what the last line says
  induction lines using List.reverseRecOn with
  | nil =>
    have hnone : ¬ LastSays [] x := by
      intro h
      obtain ⟨before, line, after, heq, -⟩ := h
      simp at heq
    simp [hnone, NoneAbout, ofLines]
  | append_singleton lines line ih =>
    rw [lastSays_concat_iff, noneAbout_concat_iff]
    by_cases h : ∃ y, Says line y
    · obtain ⟨y, hy⟩ := h
      have hunique (z : Setting) : Says line z ↔ z = y := by
        constructor
        · intro hz
          rw [← Setting.ofLine?_eq_some_iff] at hy hz
          exact Option.some.inj (hz.symm.trans hy)
        · intro heq
          exact heq ▸ hy
      rw [ofLines_concat lines hy, gives_apply_iff, ih]
      simp only [hunique, forall_eq]
      by_cases hkey : y.key = x.key
      · simp [hkey, eq_comm]
      · have hne : x ≠ y := by
          intro heq
          exact hkey (heq ▸ rfl)
        simp [hkey, hne]
    · have hsilent : ∀ y, ¬ Says line y := by simpa using h
      rw [ofLines_append_cons_of_silent lines [] hsilent, List.append_nil, ih]
      simp [hsilent]

/-! ### Files -/

/-- The lines of a file are what stands between its line feeds. -/
theorem linesOf_eq_splitOn (contents : List Char) : linesOf contents = contents.splitOn '\n' := by
  induction contents with
  | nil => rfl
  | cons c later ih =>
    rw [linesOf, List.splitOn_cons_eq_if_modifyHead, ih]
    split
    · rfl
    · cases h : later.splitOn '\n' with
      | nil => exact absurd h (List.splitOn_ne_nil _ _)
      | cons first others => rfl

/-- The settings of a file that is put together from lines. -/
theorem ofContents_intercalate {lines : List (List Char)} (h : ∀ line ∈ lines, '\n' ∉ line) :
    ofContents (['\n'].intercalate lines) = ofLines lines := by
  cases lines with
  | nil => rfl
  | cons line lines =>
    rw [ofContents_eq, linesOf_eq_splitOn, List.splitOn_intercalate _ h (List.cons_ne_nil _ _)]

/-- The settings of a file with one more line. -/
theorem ofContents_append_line (contents : List Char) {line : List Char} (h : '\n' ∉ line) :
    ofContents (contents ++ '\n' :: line) = ofLines (linesOf contents ++ [line]) := by
  rw [ofContents_eq, linesOf_eq_splitOn, List.splitOn_append_cons_self, List.splitOn_eq_singleton h,
    linesOf_eq_splitOn]

/-- Any settings have a line length between the least and the greatest. -/
theorem maxLineLength_ofLines (lines : List (List Char)) :
    20 ≤ (ofLines lines).maxLineLength ∧ (ofLines lines).maxLineLength ≤ 400 := by
  have hgives : (ofLines lines).Gives (.maxLineLength (ofLines lines).maxLineLength) := rfl
  generalize (ofLines lines).maxLineLength = n at hgives ⊢
  rcases (gives_ofLines_iff lines _).mp hgives with ⟨_, line, _, _, hsays, _⟩ | ⟨hdefault, _⟩
  · cases hsays
    omega
  · have : 80 = n := hdefault
    omega

/-- The settings of a file. Each field has the value that the last line about it says, or the default
one if no line says any; the line length is between 20 and 400; a line that says nothing leaves the
settings as those before it made them, and may be put between any lines or taken from between them. -/
theorem ofContents_lines (contents : List Char) :
    (∀ x, (ofContents contents).Gives x ↔ LastSays (linesOf contents) x ∨
      default.Gives x ∧ NoneAbout (linesOf contents) x.key) ∧
    (20 ≤ (ofContents contents).maxLineLength ∧ (ofContents contents).maxLineLength ≤ 400) ∧
    (∀ line, '\n' ∉ line → (∀ x, ¬ Says line x) →
      ofContents (contents ++ '\n' :: line) = ofContents contents) ∧
    ∀ before line after, (∀ l ∈ before ++ line :: after, '\n' ∉ l) → (∀ x, ¬ Says line x) →
      ofContents (['\n'].intercalate (before ++ line :: after)) =
        ofContents (['\n'].intercalate (before ++ after)) := by
  refine ⟨gives_ofLines_iff (linesOf contents), maxLineLength_ofLines (linesOf contents), ?_, ?_⟩
  · intro line hline hsilent
    rw [ofContents_append_line contents hline, ofLines_append_cons_of_silent _ _ hsilent,
      List.append_nil, ofContents_eq]
  · intro before line after hlines hsilent
    have hothers : ∀ l ∈ before ++ after, '\n' ∉ l := by
      intro l hl
      apply hlines
      rcases List.mem_append.mp hl with hl | hl
      · exact List.mem_append_left _ hl
      · exact List.mem_append_right _ (List.mem_cons_of_mem line hl)
    rw [ofContents_intercalate hlines, ofContents_intercalate hothers,
      ofLines_append_cons_of_silent before after hsilent]

/-- A path that is empty is no path, so the one of the line before it counts. -/
theorem ofContents_lines_emptyPath :
    (∀ l ∈ ["grammar = a=b".toList] ++ "grammar =".toList :: ["max-line-length = 5".toList],
      '\n' ∉ l) ∧ (∀ x, ¬ Says "grammar =".toList x) ∧
    ofContents "grammar = a=b\ngrammar =\nmax-line-length = 5".toList =
      ofContents "grammar = a=b\nmax-line-length = 5".toList ∧
    (ofContents "grammar = a=b\nmax-line-length = 5".toList).Gives (.maxLineLength 20) := by
  have hlines : ∀ l ∈ ["grammar = a=b".toList] ++ "grammar =".toList :: ["max-line-length = 5".toList],
      '\n' ∉ l := by decide
  have hsilent : ∀ x, ¬ Says "grammar =".toList x := by
    intro x h
    have hnone : Setting.ofLine? "grammar =".toList = none := by decide
    rw [Setting.ofLine?_eq_some_iff.mpr h] at hnone
    cases hnone
  obtain ⟨hgives, -, -, hbetween⟩ := ofContents_lines "grammar = a=b\nmax-line-length = 5".toList
  refine ⟨hlines, hsilent, hbetween _ _ _ hlines hsilent, (hgives _).mpr (.inl ?_)⟩
  refine ⟨["grammar = a=b".toList], "max-line-length = 5".toList, [], by decide, ?_, nofun⟩
  exact Setting.ofLine?_eq_some_iff.mp (by decide)

end Settings

end Annotator

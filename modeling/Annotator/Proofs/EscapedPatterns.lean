import Annotator.Proofs.FoldSpellings
import Annotator.Proofs.PatternSearch

/-!
# Reading escaped patterns

A literal text is put into a pattern with a backslash in front of every character that has a meaning
of its own. Such a pattern is read piece by piece, and what it is read as amounts to the forms of the
pieces: each character of the text comes down to one item, which passes over just what is found where
the character is looked for. Only the memory that these forms take can keep the pattern from being
searched for.

## Key results

- `Reads.escape`: an escaped text is read as its characters, whatever characters it has
- `exists_line_ofChar`: the item of a character, with and without the case of letters
- `AmountTo.literals`: the forms of a text
- `Reads.readAs`: what is read piece by piece is a pattern with a form
- `ReadAs.isSome_build?`: when a pattern that is read as some forms has a matcher
- `ReadAs.search_eq`: the search for a pattern that is read as items
-/

namespace Annotator.Pattern

open Unicode (CodeSet)

/-! ### Escaping -/

/-- A literal text as a pattern. -/
def escape (text : List Char) : List Char :=
  text.flatMap fun c => if metaChars.contains c then ['\\', c] else [c]

/-- The trees of the characters of a text. -/
def literals (text : List Char) : List Tree := text.map fun c => .literal ⟨c, false⟩

/-- A boundary of ASCII words as a pattern. -/
def boundary : List Char := "(?-u:\\b)".toList

/-- The tree of a boundary of ASCII words. -/
def boundaryTree : Tree := .group (.plain [(.unicode, false)]) (.assertion .wordBoundary)

/-- Any number of blanks as a pattern. -/
def blanks : List Char := "\\s*".toList

/-- The tree of any number of blanks. -/
def blanksTree : Tree := .repetition 0 none true (.shorthand false .space)

/-! ### Reading piece by piece -/

/-- Adds items to the current branch. -/
def Progress.addAll (p : Progress) (ts : List Tree) : Progress :=
  { p with items := ts.reverse ++ p.items }

/-- A piece of a pattern that adds items to the current branch, whatever stands around it, if no
question mark follows. -/
structure Reads (piece : List Char) (steps : Nat) (ts : List Tree) : Prop where
  head : piece.head? ≠ some '?'
  steps_le : steps ≤ piece.length
  parse : ∀ fuel p rest, p.extended = false → rest.head? ≠ some '?' →
    parseFrom (fuel + steps) p (piece ++ rest) = parseFrom fuel (p.addAll ts) rest

theorem parseFrom_step {p next : Progress} {c : Char} {later rest : List Char}
    (hp : p.extended = false) (h : step? p c later = some (next, rest)) {fuel : Nat} :
    parseFrom (fuel + 1) p (c :: later) = parseFrom fuel next rest := by
  rw [parseFrom, skip, hp]
  simp only [Bool.false_eq_true, if_false, h]

theorem greed_of_head {rest : List Char} (h : rest.head? ≠ some '?') :
    greed rest = (true, rest) := by
  unfold greed
  split
  · exact absurd rfl h
  · rfl

namespace Reads

theorem append {a b : List Char} {m n : Nat} {ts us : List Tree} (ha : Reads a m ts)
    (hb : Reads b n us) : Reads (a ++ b) (n + m) (ts ++ us) where
  head := by
    cases a with
    | nil => exact hb.head
    | cons c a => exact ha.head
  steps_le := by
    have := ha.steps_le
    have := hb.steps_le
    rw [List.length_append]
    omega
  parse fuel p rest hp hrest := by
    have hhead : (b ++ rest).head? ≠ some '?' := by
      cases b with
      | nil => exact hrest
      | cons c b => exact hb.head
    rw [List.append_assoc, ← Nat.add_assoc, ha.parse _ p _ hp hhead,
      hb.parse _ (p.addAll ts) _ hp hrest]
    simp [Progress.addAll]

theorem boundary : Reads boundary 3 [boundaryTree] where
  head := by decide
  steps_le := by decide
  parse fuel p rest hp hrest := by
    obtain ⟨items, branches, around, groups, names, extended⟩ := p
    cases hp
    rfl

theorem blanks : Reads blanks 2 [blanksTree] where
  head := by decide
  steps_le := by decide
  parse fuel p rest hp hrest := by
    have hspace : step? p '\\' ('s' :: '*' :: rest) =
        some (p.add (.shorthand false .space), '*' :: rest) := by
      simp only [step?, hp]
      rfl
    have hstar : step? (p.add (.shorthand false .space)) '*' rest =
        some (p.add blanksTree, rest) := by
      simp only [step?, greed_of_head hrest]
      rfl
    have hp' : (p.add (.shorthand false .space)).extended = false := hp
    exact (parseFrom_step hp hspace).trans (parseFrom_step hp' hstar)

/-- A character with a meaning of its own is read as itself behind a backslash. -/
theorem escape?_of_mem {c : Char} (h : metaChars.contains c = true) (rest : List Char) :
    escape? false (c :: rest) = some (.literal ⟨c, false⟩, rest) := by
  have hescapable : isEscapable c = true := by rw [isEscapable, h, Bool.true_or]
  rw [escape?, if_pos hescapable]
  -- a letter behind a backslash means something else, but no letter is escaped
  all_goals
    rintro rfl
    exact absurd h (by decide)

/-- A character without a meaning of its own is read as itself. -/
theorem step?_of_not_mem {c : Char} (h : metaChars.contains c = false) (p : Progress)
    (rest : List Char) : step? p c rest = some (p.add (.literal ⟨c, false⟩), rest) := by
  unfold step?
  split <;> first | exact absurd h (by decide) | rfl

theorem escapeChar (c : Char) : Reads (escape [c]) 1 [.literal ⟨c, false⟩] := by
  by_cases h : metaChars.contains c = true
  · rw [Pattern.escape, List.flatMap_singleton, if_pos h]
    refine ⟨by simp, by simp, fun fuel p rest hp hrest => ?_⟩
    have hstep : step? p '\\' (c :: rest) = some (p.add (.literal ⟨c, false⟩), rest) := by
      simp only [step?, hp, escape?_of_mem h]
      rfl
    exact parseFrom_step hp hstep
  · have hplain : metaChars.contains c = false := by simpa using h
    rw [Pattern.escape, List.flatMap_singleton, if_neg h]
    refine ⟨?_, Nat.le_refl 1, fun fuel p rest hp hrest => ?_⟩
    · intro heq
      cases heq
      exact h (by decide)
    · exact parseFrom_step hp (step?_of_not_mem hplain p rest)

/-- An escaped text is read as its characters, one by one. -/
theorem escape (text : List Char) : Reads (escape text) text.length (literals text) := by
  induction text with
  | nil => exact ⟨by decide, by decide, fun fuel p rest hp hrest => rfl⟩
  | cons c text ih =>
    have hcons : Pattern.escape (c :: text) = Pattern.escape [c] ++ Pattern.escape text := by
      simp [Pattern.escape]
    rw [hcons]
    exact (escapeChar c).append ih

/-- A piece in a group that does not capture. -/
theorem group {piece : List Char} {steps : Nat} {ts : List Tree} (h : Reads piece steps ts) :
    Reads ("(?:".toList ++ piece ++ [')']) (steps + 2) [.group (.plain []) (Tree.ofItems ts)] where
  head := by simp
  steps_le := by
    have := h.steps_le
    simp
    omega
  parse fuel p rest hp hrest := by
    let inner : Progress := ⟨[], [], ⟨p.items, p.branches, .plain [], false⟩ :: p.around, p.groups,
      p.names, false⟩
    have hopen : step? p '(' ('?' :: ':' :: (piece ++ ')' :: rest)) =
        some (inner, piece ++ ')' :: rest) := by
      obtain ⟨items, branches, around, groups, names, extended⟩ := p
      cases hp
      rfl
    have hclose : step? (inner.addAll ts) ')' rest =
        some (p.addAll [.group (.plain []) (Tree.ofItems ts)], rest) := by
      obtain ⟨items, branches, around, groups, names, extended⟩ := p
      cases hp
      simp [step?, Progress.end?, Progress.addAll, Progress.tree, inner]
    have htext : "(?:".toList ++ piece ++ [')'] ++ rest =
        '(' :: '?' :: ':' :: (piece ++ ')' :: rest) := by
      simp
    rw [htext, show fuel + (steps + 2) = fuel + 1 + steps + 1 by omega, parseFrom_step hp hopen,
      h.parse (fuel + 1) inner _ rfl (by simp), parseFrom_step rfl hclose]

/-- A pattern that is one piece has the tree of its items. -/
theorem parse? {piece : List Char} {steps : Nat} {ts : List Tree} (h : Reads piece steps ts)
    (hdepth : (Tree.ofItems ts).depth ≤ maxDepth) : Tree.parse? piece = some (Tree.ofItems ts) := by
  obtain ⟨fuel, hfuel⟩ : ∃ fuel, piece.length + 1 = fuel + 1 + steps :=
    ⟨piece.length - steps, by have := h.steps_le; omega⟩
  have hparse := h.parse (fuel + 1) Progress.start [] rfl (by simp)
  have htree : parseFrom (fuel + 1) (Progress.start.addAll ts) [] = some (Tree.ofItems ts) := by
    rw [parseFrom, skip]
    simp [Progress.addAll, Progress.start, Progress.tree]
  rw [List.append_nil, htree, ← hfuel] at hparse
  rw [Tree.parse?, hparse]
  simp only [Option.bind_eq_bind, Option.bind_some, if_pos hdepth]

end Reads

/-! ### Forms of pieces -/

/-- The flags at the start of a pattern that is read with or without the case of letters. -/
def Mode.start (ignoreCase : Bool) : Mode := { Mode.standard with ignoreCase }

/-- Whether a character is found where another is looked for. -/
def same (ignoreCase : Bool) (a b : Char) : Bool :=
  if ignoreCase then Text.foldEq a b else a == b

/-- An item that passes over what is found where a character is looked for. -/
structure Item.StandsFor (ignoreCase : Bool) (c : Char) (item : Item) : Prop where
  isLook : item.isLook = false
  accepts : ∀ d, item.accepts d = same ignoreCase c d

/-- The form of a character with the flags at the start of a pattern. -/
theorem literalForm_start (ignoreCase : Bool) (c : Char) :
    literalForm (Mode.start ignoreCase) ⟨c, false⟩ = some (Form.ofChar ignoreCase c) := rfl

/-- The form of a character passes over what is found where the character is looked for. -/
theorem exists_line_ofChar (ignoreCase : Bool) (c : Char) :
    ∃ item, (Form.ofChar ignoreCase c).line? = some [item] ∧ item.StandsFor ignoreCase c := by
  cases ignoreCase with
  | false => exact ⟨.char c, rfl, rfl, fun d => BEq.comm⟩
  | true =>
    have hempty : (spellingsOf c).isEmpty = false := by simpa using spellingsOf_ne_nil c
    have hform : Form.ofChar true c = Form.ofSet (spellingsOf c) false := rfl
    rw [hform, Form.ofSet, hempty]
    cases hsingle : CodeSet.single? (spellingsOf c) with
    | some n =>
      obtain ⟨rfl, hfold⟩ := foldEq_of_single hsingle
      exact ⟨.char c, by simp [Form.line?], rfl, fun d => (hfold d).symm⟩
    | none => exact ⟨.oneOf (spellingsOf c), rfl, rfl, fun d => contains_spellingsOf c d⟩

theorem formsOf_cons_eq_some {m m' : Mode} {t : Tree} {ts : List Tree} {fs : List Form} :
    formsOf m (t :: ts) = some (fs, m') ↔
      ∃ f m₁ gs, formOf m t = some (f, m₁) ∧ formsOf m₁ ts = some (gs, m') ∧ fs = f :: gs := by
  rw [formsOf]
  simp only [Option.bind_eq_bind, Option.pure_def, Option.bind_eq_some_iff, Option.some.injEq,
    Prod.mk.injEq, Prod.exists]
  constructor
  · rintro ⟨f, m₁, ht, gs, m₂, hts, rfl, rfl⟩
    exact ⟨f, m₁, gs, ht, hts, rfl⟩
  · rintro ⟨f, m₁, gs, ht, hts, rfl⟩
    exact ⟨f, m₁, ht, gs, m', hts, rfl, rfl⟩

theorem formsOf_append {m m' m'' : Mode} {ts us : List Tree} {fs gs : List Form}
    (hts : formsOf m ts = some (fs, m')) (hus : formsOf m' us = some (gs, m'')) :
    formsOf m (ts ++ us) = some (fs ++ gs, m'') := by
  induction ts generalizing m fs with
  | nil =>
    cases hts
    exact hus
  | cons t ts ih =>
    obtain ⟨f, m₁, fs, ht, hlater, rfl⟩ := formsOf_cons_eq_some.mp hts
    exact formsOf_cons_eq_some.mpr ⟨f, m₁, fs ++ gs, ht, ih hlater, rfl⟩

/-- A form that amounts to some forms one after another: it takes the memory of all of them, and has
their items if they are items. -/
structure Form.AmountsTo (f : Form) (fs : List Form) : Prop where
  memory_eq : f.memory = memoryOf fs
  line_eq : f.line? = lines? fs

/-- The form of some trees one after another. -/
theorem exists_formOf_ofItems {m m' : Mode} {ts : List Tree} {fs : List Form}
    (h : formsOf m ts = some (fs, m')) :
    ∃ f, formOf m (Tree.ofItems ts) = some (f, m') ∧ f.AmountsTo fs := by
  match ts with
  | [] =>
    cases h
    exact ⟨.empty, rfl, rfl, rfl⟩
  | [t] =>
    obtain ⟨f, m₁, gs, ht, hts, rfl⟩ := formsOf_cons_eq_some.mp h
    cases hts
    exact ⟨f, ht, (Form.byParts_memory.singleton f).symm, (Form.byParts_lines.singleton f).symm⟩
  | t :: u :: ts =>
    refine ⟨Form.ofItems fs, ?_, Form.byParts_memory.ofItems fs, Form.byParts_lines.ofItems fs⟩
    rw [Tree.ofItems, formOf, h]
    · rfl
    · simp
    · simp

/-- Trees that leave the flags alone and amount to some forms one after another. -/
def AmountTo (ignoreCase : Bool) (ts : List Tree) (fs : List Form) : Prop :=
  ∃ gs, formsOf (Mode.start ignoreCase) ts = some (gs, Mode.start ignoreCase) ∧
    Form.memoryOf gs = Form.memoryOf fs ∧ Form.lines? gs = Form.lines? fs

namespace AmountTo

variable {ignoreCase : Bool}

theorem of_formsOf {ts : List Tree} {fs : List Form}
    (h : formsOf (Mode.start ignoreCase) ts = some (fs, Mode.start ignoreCase)) :
    AmountTo ignoreCase ts fs :=
  ⟨fs, h, rfl, rfl⟩

theorem append {ts us : List Tree} {fs gs : List Form} (hts : AmountTo ignoreCase ts fs)
    (hus : AmountTo ignoreCase us gs) : AmountTo ignoreCase (ts ++ us) (fs ++ gs) := by
  obtain ⟨fs', hfs', hmemory, hlines⟩ := hts
  obtain ⟨gs', hgs', hmemory', hlines'⟩ := hus
  refine ⟨fs' ++ gs', formsOf_append hfs' hgs', ?_, ?_⟩
  · rw [Form.byParts_memory.append, Form.byParts_memory.append, hmemory, hmemory']
  · rw [Form.byParts_lines.append, Form.byParts_lines.append, hlines, hlines']

theorem group {ts : List Tree} {fs : List Form} (h : AmountTo ignoreCase ts fs) :
    AmountTo ignoreCase [.group (.plain []) (Tree.ofItems ts)] fs := by
  obtain ⟨gs, hgs, hmemory, hlines⟩ := h
  obtain ⟨f, hf, hlike⟩ := exists_formOf_ofItems hgs
  refine ⟨[f], ?_, ?_, ?_⟩
  · refine formsOf_cons_eq_some.mpr ⟨f, Mode.start ignoreCase, [], ?_, rfl, rfl⟩
    rw [formOf]
    simp only [Mode.change, List.foldl_nil, hf]
    rfl
  · rw [Form.byParts_memory.singleton, hlike.memory_eq, hmemory]
  · rw [Form.byParts_lines.singleton, hlike.line_eq, hlines]

theorem boundary : AmountTo ignoreCase [boundaryTree] [.look (.word .boundary false)] :=
  of_formsOf rfl

theorem blanks : AmountTo ignoreCase [blanksTree]
    [.ofRepetition 0 none true (.ofSet Text.blankRanges false)] :=
  of_formsOf rfl

/-- The characters of a text one by one. -/
theorem literals (ignoreCase : Bool) (text : List Char) :
    AmountTo ignoreCase (literals text) (text.map (Form.ofChar ignoreCase)) := by
  refine of_formsOf ?_
  induction text with
  | nil => rfl
  | cons c text ih =>
    refine formsOf_cons_eq_some.mpr ⟨_, Mode.start ignoreCase, _, ?_, ih, rfl⟩
    rw [formOf, literalForm_start, Option.map_some]

end AmountTo

/-! ### Matchers -/

/-- The form of a pattern that is read with or without the case of letters. -/
def Form.read? (ignoreCase : Bool) (pattern : List Char) : Option Form := do
  let t ← Tree.parse? pattern
  (formOf (Mode.start ignoreCase) t).map Prod.fst

/-- The matcher of a pattern that is read with or without the case of letters; `none` if the pattern
is not well formed or would take too much memory. -/
def Matcher.build? (ignoreCase : Bool) (pattern : List Char) : Option Matcher := do
  let f ← Form.read? ignoreCase pattern
  if f.memory ≤ Form.memoryLimit then some ⟨Program.ofForm f, ⟨f.groupCount, f.groupNames⟩⟩
  else none

theorem Form.parse?_eq (pattern : List Char) : Form.parse? pattern =
    (Form.read? false pattern).bind fun f =>
      if f.memory ≤ Form.memoryLimit then some f else none := by
  rw [Form.parse?, Form.read?]
  cases Tree.parse? pattern with
  | none => rfl
  | some t =>
    have hmode : Mode.start false = Mode.standard := rfl
    simp only [Option.bind_eq_bind, Option.bind_some, hmode]
    cases formOf Mode.standard t <;> rfl

/-- A pattern on its own is read with the case of letters. -/
theorem Matcher.ofPattern?_eq (pattern : String) :
    Matcher.ofPattern? pattern = Matcher.build? false pattern.toList := by
  rw [ofPattern?, build?, Form.parse?_eq]
  cases Form.read? false pattern.toList with
  | none => rfl
  | some f =>
    simp only [Option.bind_eq_bind, Option.bind_some]
    split <;> rfl

/-- A pattern with a form has a matcher unless it would take too much memory. -/
theorem Matcher.build?_eq_none_iff {ignoreCase : Bool} {pattern : List Char} {f : Form}
    (hf : Form.read? ignoreCase pattern = some f) :
    build? ignoreCase pattern = none ↔ Form.memoryLimit < f.memory := by
  rw [build?, hf, ← Nat.not_le]
  simp only [Option.bind_eq_bind, Option.bind_some, ite_eq_right_iff, reduceCtorEq, imp_false]

/-- A pattern with a straight form is searched for as its items one after another. -/
theorem Matcher.search_of_line {ignoreCase : Bool} {pattern : List Char} {f : Form}
    {items : List Item} (hf : Form.read? ignoreCase pattern = some f) (hline : f.line? = some items)
    {m : Matcher} (hm : build? ignoreCase pattern = some m) :
    m.search = Search.ofFront (lineFront items) := by
  rw [build?, hf] at hm
  simp only [Option.bind_eq_bind, Option.bind_some] at hm
  split at hm
  · rw [← Option.some.inj hm]
    exact Program.search_ofForm hline
  · cases hm

namespace Tree

theorem depthOf_append (ts us : List Tree) :
    depthOf (ts ++ us) = max (depthOf ts) (depthOf us) := by
  induction ts with
  | nil => simp [depthOf]
  | cons t ts ih => rw [List.cons_append, depthOf, depthOf, ih, Nat.max_assoc]

theorem depthOf_literals (text : List Char) : depthOf (literals text) = 0 := by
  induction text with
  | nil => rfl
  | cons c text ih =>
    rw [literals, List.map_cons, depthOf]
    exact Nat.max_eq_zero_iff.mpr ⟨rfl, ih⟩

theorem depth_ofItems_le (ts : List Tree) : (ofItems ts).depth ≤ depthOf ts + 1 := by
  match ts with
  | [] => exact Nat.zero_le _
  | [t] => 
    rw [ofItems, depthOf]
    omega
  | t :: u :: ts => exact Nat.le_refl _

end Tree

/-- A pattern that is read as a form that amounts to some forms one after another. -/
def ReadAs (ignoreCase : Bool) (pattern : List Char) (fs : List Form) : Prop :=
  ∃ f, Form.read? ignoreCase pattern = some f ∧ f.AmountsTo fs

/-- What is read piece by piece is read as the forms of the pieces. -/
theorem Reads.readAs {ignoreCase : Bool} {piece : List Char} {steps : Nat} {ts : List Tree}
    (h : Reads piece steps ts) (hdepth : Tree.depthOf ts < maxDepth) {fs : List Form}
    (hts : AmountTo ignoreCase ts fs) : ReadAs ignoreCase piece fs := by
  obtain ⟨gs, hgs, hmemory, hlines⟩ := hts
  obtain ⟨f, hf, hlike⟩ := exists_formOf_ofItems hgs
  refine ⟨f, ?_, hlike.memory_eq.trans hmemory, hlike.line_eq.trans hlines⟩
  rw [Form.read?, h.parse? (Nat.le_trans (Tree.depth_ofItems_le ts) hdepth)]
  simp only [Option.bind_eq_bind, Option.bind_some, hf, Option.map_some]

namespace ReadAs

variable {ignoreCase : Bool} {pattern : List Char} {fs : List Form}

/-- A pattern has a matcher just if the forms that it is read as can be searched for. -/
theorem isSome_build? (h : ReadAs ignoreCase pattern fs) :
    (Matcher.build? ignoreCase pattern).isSome = Form.areSearchable fs := by
  obtain ⟨f, hf, hlike⟩ := h
  rw [Bool.eq_iff_iff, Form.areSearchable_iff, ← hlike.memory_eq, Option.isSome_iff_ne_none, ne_eq,
    Matcher.build?_eq_none_iff hf, Nat.not_lt]

/-- A pattern that is read as items is searched for as these items one after another. -/
theorem search_eq (h : ReadAs ignoreCase pattern fs) {items : List Item}
    (hitems : Form.lines? fs = some items) {m : Matcher}
    (hm : Matcher.build? ignoreCase pattern = some m) : m.search = Search.ofFront (lineFront items) := by
  obtain ⟨f, hf, hlike⟩ := h
  exact Matcher.search_of_line hf (hlike.line_eq.trans hitems) hm

end ReadAs

end Annotator.Pattern

import Mathlib.Data.List.Basic
import Annotator.Pattern.Matcher
import Annotator.Proofs.Cuts

/-!
# What a straight pattern finds

A pattern that is one item after another, each a condition on a place or one character, has a
program without choices. Several ways through it may be under way at once, one for each place where
a match may begin. The ways that began earlier have less left to pass over, so no two of them ever
come to the same step in one place, and each goes on as if it were alone.

## Key results

- `Program.follow_line`: one way goes on through the conditions in front of it
- `Program.foldl_reach`: so do several, one after the other
- `Program.run_ofLine`: what a run finds, told by what is left of each way
- `Program.search_ofLine`: the search for the items as one from the front
-/

namespace Annotator.Pattern

open Unicode (CodeSet)

/-- A part of a straight pattern: a condition on a place, or one character. -/
inductive Item where
  | look (l : Look)
  | char (c : Char)
  | oneOf (set : CodeSet)

namespace Item

/-- Whether an item is a condition. -/
def isLook : Item → Bool
  | look _ => true
  | _ => false

/-- Whether an item passes over a character. -/
def accepts : Item → Char → Bool
  | look _, _ => false
  | char c, d => d == c
  | oneOf set, d => set.contains d.toNat

/-- The step that an item is, in front of another. -/
def step (next : Nat) : Item → Step
  | look l => .test l next
  | char c => .char c next
  | oneOf set => .oneOf set next

end Item

/-! ### Items at the front of a text -/

/-- Finds some items, one after another, at the front of a text. -/
def lineFront : List Item → Option Char → List Char → Option Nat
  | [], _, _ => some 0
  | .look l :: items, prev, text =>
    if l.holds prev text.head? then lineFront items prev text else none
  | _ :: _, _, [] => none
  | item :: items, _, c :: later =>
    if item.accepts c then (lineFront items (some c) later).map (· + 1) else none

/-- The items without the conditions in front, if these hold. -/
def afterLooks (prev next : Option Char) : List Item → Option (List Item)
  | .look l :: items => if l.holds prev next then afterLooks prev next items else none
  | items => some items

theorem eq_dropWhile_of_afterLooks {prev next : Option Char} {items left : List Item}
    (h : afterLooks prev next items = some left) : left = items.dropWhile Item.isLook := by
  fun_induction afterLooks prev next items with
  | case1 l items _ ih => exact ih h
  | case2 => cases h
  | case3 items hlook =>
    cases items with
    | nil => exact (Option.some.inj h).symm
    | cons item items =>
      cases item with
      | look l => exact absurd rfl (hlook l items)
      | char c => exact (Option.some.inj h).symm
      | oneOf set => exact (Option.some.inj h).symm

/-- The conditions in front are met before anything is passed over. -/
theorem lineFront_eq_bind (items : List Item) (prev : Option Char) (text : List Char) :
    lineFront items prev text =
      (afterLooks prev text.head? items).bind fun left => lineFront left prev text := by
  induction items with
  | nil => rfl
  | cons item items ih =>
    cases item with
    | look l =>
      rw [lineFront, afterLooks]
      split
      · exact ih
      · rfl
    | char c => rfl
    | oneOf set => rfl

theorem lineFront_item_nil {item : Item} (hitem : item.isLook = false) (items : List Item)
    (prev : Option Char) : lineFront (item :: items) prev [] = none := by
  cases item with
  | look l => cases hitem
  | char c => rfl
  | oneOf set => rfl

theorem lineFront_item_cons {item : Item} (hitem : item.isLook = false) (items : List Item)
    (prev : Option Char) (c : Char) (later : List Char) :
    lineFront (item :: items) prev (c :: later) =
      if item.accepts c then (lineFront items (some c) later).map (· + 1) else none := by
  cases item with
  | look l => cases hitem
  | char c => rfl
  | oneOf set => rfl

namespace Program

/-! ### The program of some items -/

/-- The steps of some items, the last item first, behind the two steps that complete a match. -/
def lineSteps : List Item → Array Step
  -- the end of the match is noted in front of the step that completes it
  | [] => #[.done, .mark 1 0]
  | item :: items => (lineSteps items).push (item.step (items.length + 1))

/-- The program of some items one after another. -/
def ofLine (items : List Item) : Program :=
  ⟨(lineSteps items).push (.mark 0 (items.length + 1)), items.length + 2, 2⟩

/-- The step in front of which some items are left. -/
def lineStep : List Item → Step
  | [] => .mark 1 0
  | item :: items => item.step (items.length + 1)

variable {items : List Item}

@[simp] theorem size_lineSteps (items : List Item) : (lineSteps items).size = items.length + 2 := by
  induction items with
  | nil => rfl
  | cons item items ih => rw [lineSteps, Array.size_push, ih, List.length_cons]

@[simp] theorem size_ofLine (items : List Item) : (ofLine items).steps.size = items.length + 3 := by
  rw [ofLine, Array.size_push, size_lineSteps]

theorem getElem?_lineSteps_zero (items : List Item) : (lineSteps items)[0]? = some .done := by
  induction items with
  | nil => rfl
  | cons item items ih => rw [lineSteps, Array.getElem?_push, if_neg (by simp), ih]

theorem getElem?_lineSteps {left : List Item} (h : left <:+ items) :
    (lineSteps items)[left.length + 1]? = some (lineStep left) := by
  induction items with
  | nil =>
    rw [List.suffix_nil.mp h]
    rfl
  | cons item items ih =>
    rw [lineSteps, Array.getElem?_push]
    rcases List.suffix_cons_iff.mp h with rfl | hlater
    · simp [lineStep]
    · have := hlater.length_le
      rw [if_neg (by simp; omega), ih hlater]

@[simp] theorem step_complete (items : List Item) : (ofLine items).steps.getD 0 .done = .done := by
  rw [ofLine, Array.getD_eq_getD_getElem?, Array.getElem?_push, if_neg (by simp),
    getElem?_lineSteps_zero, Option.getD_some]

theorem step_left {left : List Item} (h : left <:+ items) :
    (ofLine items).steps.getD (left.length + 1) .done = lineStep left := by
  have := h.length_le
  rw [ofLine, Array.getD_eq_getD_getElem?, Array.getElem?_push, if_neg (by simp; omega),
    getElem?_lineSteps h, Option.getD_some]

@[simp] theorem step_first (items : List Item) :
    (ofLine items).steps.getD (items.length + 2) .done = .mark 0 (items.length + 1) := by
  rw [ofLine, Array.getD_eq_getD_getElem?, Array.getElem?_push, if_pos (by simp), Option.getD_some]

/-- No step of the program has more than one successor. -/
theorem successors_lineSteps (items : List Item) :
    (Program.mk (lineSteps items) 0 0).successors = items.length + 2 := by
  induction items with
  | nil => rfl
  | cons item items ih =>
    rw [successors, lineSteps, Array.foldl_push]
    cases item <;> exact congrArg (· + 1) ih

theorem successors_ofLine (items : List Item) : (ofLine items).successors = items.length + 3 := by
  rw [successors, ofLine, Array.foldl_push]
  exact congrArg (· + 1) (successors_lineSteps items)

/-! ### Ways through the program -/

/-- A way through the program of some items: where the match begins, and the items that are left. -/
structure Way where
  start : Nat
  left : List Item

namespace Way

/-- The way as it comes to a place, before the conditions in front of it are looked at. -/
def coming (w : Way) : Thread := ⟨w.left.length + 1, #[some w.start, none]⟩

/-- The way as it waits in a place: for a character, or with a complete match. -/
def waiting (place : Nat) (w : Way) : Thread :=
  match w.left with
  | [] => ⟨0, #[some w.start, some place]⟩
  | _ => w.coming

/-- The way after the conditions in front of it. -/
def after (prev next : Option Char) (w : Way) : Option Way :=
  (afterLooks prev next w.left).map fun left => ⟨w.start, left⟩

/-- The way behind a character. -/
def pass? (c : Char) (w : Way) : Option Way :=
  match w.left with
  | [] => none
  | item :: later => if item.accepts c then some ⟨w.start, later⟩ else none

/-- The least step that a way can come to in one place. -/
def lowest (w : Way) : Nat :=
  match w.left.dropWhile Item.isLook with
  | [] => 0
  | left => left.length + 1

/-- The places of the match that a way completes, if it does. -/
def found (place : Nat) (prev : Option Char) (text : List Char) (w : Way) :
    Option (Array (Option Nat)) :=
  (lineFront w.left prev text).map fun n => #[some w.start, some (place + n)]

end Way

/-- The steps from one on and before another have not been reached. -/
def Unreached (first last : Nat) (reached : Array Bool) : Prop :=
  ∀ i, first ≤ i → i < last → reached.getD i true = false

namespace Unreached

variable {first last : Nat} {reached : Array Bool}

theorem noThreads (items : List Item) :
    Unreached 0 (items.length + 3) (ofLine items).noThreads.reached := by
  intro i _ hi
  simp [Program.noThreads, Array.getD_eq_getD_getElem?, hi]

/-- Reaching a step leaves the others alone. -/
theorem set (h : Unreached first last reached) {n : Nat} (hn : n < first ∨ last ≤ n) :
    Unreached first last (reached.setIfInBounds n true) := by
  intro i hfirst hlast
  have hold := h i hfirst hlast
  simp only [Array.getD_eq_getD_getElem?] at hold ⊢
  rwa [Array.getElem?_setIfInBounds_ne (by omega)]

theorem mono (h : Unreached first last reached) {first' last' : Nat} (hfirst : first ≤ first')
    (hlast : last' ≤ last) : Unreached first' last' reached :=
  fun i hi hi' => h i (by omega) (by omega)

end Unreached

/-- A way goes on behind a condition if this holds. -/
theorem Way.after_look (prev next : Option Char) (start : Nat) (l : Look) (later : List Item) :
    Way.after prev next ⟨start, .look l :: later⟩ =
      if l.holds prev next then Way.after prev next ⟨start, later⟩ else none := by
  rw [after, afterLooks]
  split <;> rfl

theorem Way.lowest_le_coming (w : Way) : w.lowest ≤ w.coming.step := by
  have := (List.dropWhile_suffix Item.isLook (l := w.left)).length_le
  rw [lowest, coming]
  split
  · omega
  · simp only
    omega

theorem Unreached.own {w : Way} {reached : Array Bool}
    (h : Unreached w.lowest (w.left.length + 2) reached) :
    reached.getD w.coming.step true = false :=
  h _ w.lowest_le_coming (Nat.lt_succ_self _)

/-! ### Following one way -/

section Follow

variable {p : Program} {place : Nat} {prev next : Option Char} {fuel : Nat} {stack : List Thread}
  {threads : Array Thread} {reached : Array Bool} {t : Thread}

@[simp] theorem follow_nil (front : Front) : p.follow place prev next fuel [] front = front := by
  cases fuel <;> rfl

theorem follow_mark {slot n : Nat} (h : reached.getD t.step true = false)
    (hstep : p.steps.getD t.step .done = .mark slot n) :
    p.follow place prev next (fuel + 1) (t :: stack) ⟨threads, reached⟩ =
      p.follow place prev next fuel (⟨n, t.places.setIfInBounds slot (some place)⟩ :: stack)
        ⟨threads, reached.setIfInBounds t.step true⟩ := by
  rw [follow, if_neg (by simp [h]), hstep]

theorem follow_test {l : Look} {n : Nat} (h : reached.getD t.step true = false)
    (hstep : p.steps.getD t.step .done = .test l n) :
    p.follow place prev next (fuel + 1) (t :: stack) ⟨threads, reached⟩ =
      p.follow place prev next fuel (if l.holds prev next then ⟨n, t.places⟩ :: stack else stack)
        ⟨threads, reached.setIfInBounds t.step true⟩ := by
  rw [follow, if_neg (by simp [h]), hstep]
  simp only
  split <;> rfl

theorem follow_done (h : reached.getD t.step true = false)
    (hstep : p.steps.getD t.step .done = .done) :
    p.follow place prev next (fuel + 1) [t] ⟨threads, reached⟩ =
      ⟨threads.push t, reached.setIfInBounds t.step true⟩ := by
  rw [follow, if_neg (by simp [h]), hstep]
  exact follow_nil _

theorem follow_item (item : Item) {n : Nat} (h : reached.getD t.step true = false)
    (hstep : p.steps.getD t.step .done = item.step n) (hitem : item.isLook = false) :
    p.follow place prev next (fuel + 1) [t] ⟨threads, reached⟩ =
      ⟨threads.push t, reached.setIfInBounds t.step true⟩ := by
  rw [follow, if_neg (by simp [h]), hstep]
  cases item with
  | look l => cases hitem
  | char c => exact follow_nil _
  | oneOf set => exact follow_nil _

variable (place prev next threads)

/-- A way that comes to none of the steps that others have reached goes on through the conditions in
front of it, and reaches no step above its own. -/
theorem follow_line {left : List Item} (hleft : left <:+ items) (start : Nat)
    (h : Unreached (Way.lowest ⟨start, left⟩) (left.length + 2) reached)
    (hfuel : left.length + 2 ≤ fuel) :
    ∃ reached', (ofLine items).follow place prev next fuel [Way.coming ⟨start, left⟩]
        ⟨threads, reached⟩ =
        ⟨threads ++ ((Way.after prev next ⟨start, left⟩).map (Way.waiting place)).toArray,
          reached'⟩ ∧
      ∀ first last, left.length + 2 ≤ first → Unreached first last reached →
        Unreached first last reached' := by
  obtain ⟨fuel, rfl⟩ : ∃ m, fuel = m + 1 := ⟨fuel - 1, by omega⟩
  induction left generalizing fuel reached with
  | nil =>
    -- the end of the match is noted, and the match is complete
    obtain ⟨fuel, rfl⟩ : ∃ m, fuel = m + 1 := ⟨fuel - 1, by simp at hfuel; omega⟩
    have hdone : (reached.setIfInBounds 1 true).getD 0 true = false :=
      (h.mono (Nat.le_refl _) (by simp) : Unreached 0 1 reached).set (.inr (Nat.le_refl _)) 0
        (Nat.le_refl _) Nat.one_pos
    rw [follow_mark h.own (step_left hleft), follow_done hdone (step_complete items)]
    exact ⟨_, rfl, fun first last hfirst hold =>
      (hold.set (.inl hfirst)).set (.inl (Nat.lt_of_lt_of_le Nat.two_pos hfirst))⟩
  | cons item later ih =>
    have hset (first last : Nat) (hfirst : later.length + 3 ≤ first)
        (hold : Unreached first last reached) :
        Unreached first last (reached.setIfInBounds (later.length + 2) true) :=
      hold.set (.inl hfirst)
    cases item with
    | look l =>
      rw [follow_test h.own (step_left hleft), Way.after_look]
      by_cases hl : l.holds prev next = true
      · -- the conditions that follow are looked at below this one
        have hbelow : Unreached (Way.lowest ⟨start, later⟩) (later.length + 2)
            (reached.setIfInBounds (later.length + 2) true) :=
          (h.mono (Nat.le_refl _) (Nat.le_succ _)).set (.inr (Nat.le_refl _))
        obtain ⟨fuel, rfl⟩ : ∃ m, fuel = m + 1 := ⟨fuel - 1, by simp at hfuel; omega⟩
        obtain ⟨reached', heq, hold⟩ := ih ((List.suffix_cons _ later).trans hleft) hbelow fuel
          (by simpa using hfuel)
        rw [if_pos hl, if_pos hl]
        exact ⟨reached', heq, fun first last hfirst h =>
          hold first last (Nat.le_of_succ_le hfirst) (hset first last hfirst h)⟩
      · rw [if_neg hl, if_neg hl, follow_nil]
        exact ⟨_, rfl, hset⟩
    | char c =>
      rw [follow_item (.char c) h.own (step_left hleft) rfl]
      exact ⟨_, rfl, hset⟩
    | oneOf set =>
      rw [follow_item (.oneOf set) h.own (step_left hleft) rfl]
      exact ⟨_, rfl, hset⟩

/-- Ways that come to different steps go on one after the other, each as if it were alone. -/
theorem foldl_reach {ws : List Way} (hws : ∀ w ∈ ws, w.left <:+ items)
    (hapart : ws.Pairwise fun v w => v.left.length + 2 ≤ w.lowest)
    (hfree : ∀ w ∈ ws, Unreached w.lowest (items.length + 3) reached)
    {bound : Nat} (hbound : items.length + 2 ≤ bound) :
    ∃ reached', (ws.map Way.coming).foldl ((ofLine items).reach bound place prev next)
        ⟨threads, reached⟩ =
        ⟨threads ++ ((ws.filterMap (Way.after prev next)).map (Way.waiting place)).toArray,
          reached'⟩ ∧
      ∀ first last, (∀ w ∈ ws, w.left.length + 2 ≤ first) → Unreached first last reached →
        Unreached first last reached' := by
  induction ws generalizing threads reached with
  | nil => exact ⟨reached, by simp, fun _ _ _ h => h⟩
  | cons w ws ih =>
    obtain ⟨hw, hws⟩ := List.forall_mem_cons.mp hws
    obtain ⟨hwfree, hfree⟩ := List.forall_mem_cons.mp hfree
    obtain ⟨hwapart, hapart⟩ := List.pairwise_cons.mp hapart
    have hlen := hw.length_le
    -- the first way reaches no step that the others come to
    obtain ⟨reached₁, heq₁, hold₁⟩ := follow_line place prev next threads hw w.start
      (hwfree.mono (Nat.le_refl _) (by omega)) (show w.left.length + 2 ≤ bound by omega)
    obtain ⟨reached₂, heq₂, hold₂⟩ := ih
      (threads ++ ((w.after prev next).map (Way.waiting place)).toArray) hws hapart
      fun v hv => hold₁ _ _ (hwapart v hv) (hfree v hv)
    refine ⟨reached₂, ?_, fun first last hfirst h => ?_⟩
    · rw [List.map_cons, List.foldl_cons, reach, heq₁, heq₂]
      cases h : w.after prev next <;> simp [h]
    · obtain ⟨hwfirst, hfirst⟩ := List.forall_mem_cons.mp hfirst
      exact hold₂ first last hfirst (hold₁ first last hwfirst h)

end Follow

/-! ### Ways that are waiting -/

namespace Way

variable {prev next : Option Char}

theorem after_eq_some {w v : Way} (h : w.after prev next = some v) :
    v = ⟨w.start, w.left.dropWhile Item.isLook⟩ := by
  obtain ⟨left, hleft, rfl⟩ := Option.map_eq_some_iff.mp h
  rw [eq_dropWhile_of_afterLooks hleft]

/-- What a way passes over is the item at its least step. -/
theorem exists_of_pass {w u : Way} {c : Char} (h : (w.after prev next).bind (pass? c) = some u) :
    ∃ item, item.isLook = false ∧ item :: u.left <:+ w.left ∧ w.lowest = u.left.length + 2 := by
  obtain ⟨v, hafter, hpass⟩ := Option.bind_eq_some_iff.mp h
  obtain rfl := after_eq_some hafter
  rw [pass?] at hpass
  split at hpass
  · cases hpass
  · rename_i item later heq
    simp only at heq
    split at hpass
    · rename_i haccepts
      obtain rfl := Option.some.inj hpass
      refine ⟨item, ?_, heq ▸ List.dropWhile_suffix Item.isLook, by rw [lowest, heq]; rfl⟩
      cases item with
      | look l => cases haccepts
      | char d => rfl
      | oneOf set => rfl
    · cases hpass

/-- A way with a character among what is left comes to no step behind that character. -/
theorem le_lowest {start : Nat} {item : Item} {later left : List Item} (hitem : item.isLook = false)
    (h : item :: later <:+ left) : later.length + 2 ≤ lowest ⟨start, left⟩ := by
  induction left with
  | nil => cases List.suffix_nil.mp h
  | cons x left ih =>
    by_cases hx : x.isLook = true
    · have heq : lowest ⟨start, x :: left⟩ = lowest ⟨start, left⟩ := by
        rw [lowest, lowest, List.dropWhile_cons_of_pos hx]
      rcases List.suffix_cons_iff.mp h with heq | h
      · cases heq
        rw [hitem] at hx
        cases hx
      · rw [heq]
        exact ih h
    · have := h.length_le
      rw [lowest, List.dropWhile_cons_of_neg hx]
      exact Nat.succ_le_succ this

theorem isLook_of_after {w v : Way} (h : w.after prev next = some v) {item : Item}
    {later : List Item} (hv : v.left = item :: later) : item.isLook = false := by
  obtain rfl := after_eq_some h
  have hhead := List.head?_dropWhile_not Item.isLook w.left
  simp only at hv
  rwa [hv, List.head?_cons] at hhead

theorem suffix_of_after {w v : Way} (h : w.after prev next = some v) : v.left <:+ w.left := by
  obtain rfl := after_eq_some h
  exact List.dropWhile_suffix _

theorem found_eq_bind (place : Nat) (prev : Option Char) (text : List Char) (w : Way) :
    w.found place prev text = (w.after prev text.head?).bind (found place prev text) := by
  rw [found, lineFront_eq_bind, after]
  cases afterLooks prev text.head? w.left <;> rfl

/-- A way that waits for a character finds what it finds behind that character. -/
theorem found_cons {w v : Way} {c : Char} (h : w.after prev next = some v) (hv : v.left ≠ [])
    (place : Nat) (prev' : Option Char) (later : List Char) :
    v.found place prev' (c :: later) = (v.pass? c).bind (found (place + 1) (some c) later) := by
  obtain ⟨start, left⟩ := v
  obtain ⟨item, left, rfl⟩ := List.exists_cons_of_ne_nil hv
  rw [found, lineFront_item_cons (isLook_of_after h rfl), pass?]
  by_cases hc : item.accepts c = true
  · simp [hc, found, Function.comp_def, Nat.add_comm, Nat.add_left_comm]
  · simp [hc]

/-- At the end of a text a way that waits for a character finds nothing. -/
theorem found_nil {w v : Way} (h : w.after prev next = some v) (hv : v.left ≠ []) (place : Nat)
    (prev' : Option Char) : v.found place prev' [] = none := by
  obtain ⟨start, left⟩ := v
  obtain ⟨item, left, rfl⟩ := List.exists_cons_of_ne_nil hv
  rw [found, lineFront_item_nil (isLook_of_after h rfl), Option.map_none]

end Way

/-- Ways in the order in which they began, each of which comes to none of the steps that those
before it come to in the same place. -/
structure Apart (items : List Item) (ws : List Way) : Prop where
  suffix : ∀ w ∈ ws, w.left <:+ items
  apart : ws.Pairwise fun v w => v.left.length + 2 ≤ w.lowest

/-- Behind a character the ways that go on are apart, and so is the one that begins there. -/
theorem Apart.pass {ws : List Way} (h : Apart items ws) (prev next : Option Char) (c : Char)
    (start : Nat) :
    Apart items (ws.filterMap (fun w => (w.after prev next).bind (Way.pass? c)) ++
      [⟨start, items⟩]) := by
  refine ⟨List.forall_mem_append.mpr ⟨?_, ?_⟩,
    List.pairwise_append.mpr ⟨?_, List.pairwise_singleton _ _, ?_⟩⟩
  · intro u hu
    obtain ⟨w, hw, hpass⟩ := List.mem_filterMap.mp hu
    obtain ⟨item, -, hsuffix, -⟩ := Way.exists_of_pass hpass
    exact (List.suffix_cons item u.left).trans (hsuffix.trans (h.suffix w hw))
  · intro w hw
    obtain rfl := List.mem_singleton.mp hw
    exact List.suffix_refl items
  · refine List.Pairwise.filterMap _ ?_ (List.Pairwise.and_mem.mp h.apart)
    rintro v w ⟨hv, hw, hvw⟩ v' hv' w' hw'
    obtain ⟨item, hitem, hsuffix, hlowest⟩ := Way.exists_of_pass hv'
    obtain ⟨_, -, hsuffix', hlowest'⟩ := Way.exists_of_pass hw'
    -- what the one has passed over is still in front of the other
    have hlen : v'.left.length + 2 ≤ v.left.length + 1 := hlowest ▸ v.lowest_le_coming
    refine Way.le_lowest hitem (List.suffix_of_suffix_length_le (hsuffix.trans (h.suffix v hv))
      ((List.suffix_cons _ _).trans (hsuffix'.trans (h.suffix w hw))) ?_)
    rw [List.length_cons]
    omega
  · intro u hu w hw
    obtain ⟨v, hv, hpass⟩ := List.mem_filterMap.mp hu
    obtain rfl := List.mem_singleton.mp hw
    obtain ⟨item, hitem, hsuffix, -⟩ := Way.exists_of_pass hpass
    exact Way.le_lowest hitem (hsuffix.trans (h.suffix v hv))

/-! ### Running the program -/

section Run

variable {place : Nat} {prev next : Option Char}

theorem pass?_waiting {v : Way} (hv : v.left <:+ items) (c : Char) :
    (ofLine items).pass? c (v.waiting place) = (v.pass? c).map Way.coming := by
  obtain ⟨start, left⟩ := v
  cases left with
  | nil =>
    rw [pass?, Way.waiting, step_complete]
    rfl
  | cons item left =>
    rw [pass?, Way.waiting, Way.coming, step_left hv, Way.pass?]
    cases item with
    | look l => rfl
    | char d => by_cases h : c = d <;> simp [lineStep, Item.step, Item.accepts, Way.coming, h]
    | oneOf set =>
      by_cases h : set.contains c.toNat = true <;>
        simp [lineStep, Item.step, Item.accepts, Way.coming, h]

theorem filterMap_pass?_waiting (place : Nat) {vs : List Way} (hvs : ∀ v ∈ vs, v.left <:+ items)
    (c : Char) :
    (vs.map (Way.waiting place)).filterMap ((ofLine items).pass? c) =
      (vs.filterMap (Way.pass? c)).map Way.coming := by
  rw [List.filterMap_map, List.map_filterMap]
  exact List.filterMap_congr fun v hv => pass?_waiting (hvs v hv) c

/-- What ways that wait for a character find is found behind it by those that pass over it. -/
theorem findSome?_found_cons {ws : List Way}
    (hvs : ∀ v ∈ ws.filterMap (Way.after prev next), v.left ≠ []) {prev' : Option Char} {c : Char}
    {later : List Char} :
    (ws.filterMap (Way.after prev next)).findSome? (Way.found place prev' (c :: later)) =
      ((ws.filterMap (Way.after prev next)).filterMap (Way.pass? c)).findSome?
        (Way.found (place + 1) (some c) later) := by
  rw [← List.head?_filterMap, ← List.head?_filterMap]
  refine congrArg List.head?
    ((List.filterMap_congr fun v hv => ?_).trans List.filterMap_filterMap.symm)
  obtain ⟨w, -, hafter⟩ := List.mem_filterMap.mp hv
  exact Way.found_cons hafter (hvs v hv) place prev' later

/-- A complete way is preferred to those behind it. -/
theorem cutAtMatch_of_complete (start : Nat) (later : List Way) :
    (ofLine items).cutAtMatch ((Way.mk start [] :: later).map (Way.waiting place)) =
      ([], some #[some start, some place]) := by
  have hdone : (ofLine items).completed? (Way.waiting place ⟨start, []⟩) =
      some #[some start, some place] := by
    rw [completed?, Way.waiting, step_complete]
  rw [List.map_cons, cutAtMatch, hdone]

/-- Where no way is complete all of them go on. -/
theorem cutAtMatch_of_forall {vs : List Way} (h : ∀ v ∈ vs, v.left <:+ items ∧ v.left ≠ []) :
    (ofLine items).cutAtMatch (vs.map (Way.waiting place)) =
      (vs.map (Way.waiting place), none) := by
  induction vs with
  | nil => rfl
  | cons v vs ih =>
    obtain ⟨⟨hv, hne⟩, hvs⟩ := List.forall_mem_cons.mp h
    have hnone : (ofLine items).completed? (v.waiting place) = none := by
      obtain ⟨start, left⟩ := v
      obtain ⟨item, left, rfl⟩ := List.exists_cons_of_ne_nil hne
      rw [completed?, Way.waiting, Way.coming, step_left hv]
      cases item <;> rfl
    rw [List.map_cons, cutAtMatch, hnone, ih hvs]

/-- The ways under way in a place and the one that begins there. -/
theorem exists_reach_first (prev next : Option Char) {ws : List Way}
    (h : Apart items (ws ++ [Way.mk place items])) {bound : Nat}
    (hbound : items.length + 3 ≤ bound) :
    ∃ reached, (ofLine items).reach bound place prev next
        ((ws.map Way.coming).foldl ((ofLine items).reach bound place prev next)
          (ofLine items).noThreads)
        ⟨(ofLine items).first, Array.replicate (ofLine items).slots none⟩ =
      ⟨(((ws ++ [Way.mk place items]).filterMap (Way.after prev next)).map
        (Way.waiting place)).toArray, reached⟩ := by
  obtain ⟨hws, -⟩ := List.forall_mem_append.mp h.suffix
  obtain ⟨hapart, -, hnew⟩ := List.pairwise_append.mp h.apart
  have hfree := Unreached.noThreads items
  obtain ⟨reached₁, heq₁, hold₁⟩ := foldl_reach place prev next #[] hws hapart
    (fun w _ => hfree.mono (Nat.zero_le _) (Nat.le_refl _)) (show items.length + 2 ≤ bound by omega)
  have hfree₁ : Unreached (Way.lowest ⟨place, items⟩) (items.length + 3) reached₁ :=
    hold₁ _ _ (fun w hw => hnew w hw _ (List.mem_singleton.mpr rfl))
      (hfree.mono (Nat.zero_le _) (Nat.le_refl _))
  have hlowest := Way.lowest_le_coming ⟨place, items⟩
  obtain ⟨bound, rfl⟩ : ∃ m, bound = m + 1 := ⟨bound - 1, by omega⟩
  -- the beginning of the match is noted above all other steps
  obtain ⟨reached₂, heq₂, -⟩ := follow_line place prev next
    (#[] ++ ((ws.filterMap (Way.after prev next)).map (Way.waiting place)).toArray)
    (List.suffix_refl items) place
    ((hfree₁.mono (Nat.le_refl _) (Nat.le_succ _)).set (.inr (Nat.le_refl (items.length + 2))))
    (show items.length + 2 ≤ bound by omega)
  refine ⟨reached₂, ?_⟩
  have hfirst : reached₁.getD (items.length + 2) true = false :=
    hfree₁ _ (Nat.le_trans hlowest (Nat.le_succ _)) (Nat.lt_succ_self _)
  have hstart : (ofLine items).noThreads = ⟨#[], (ofLine items).noThreads.reached⟩ := rfl
  rw [hstart, heq₁, reach]
  refine (follow_mark hfirst (step_first items)).trans (Eq.trans heq₂ ?_)
  rw [List.filterMap_append, List.map_append]
  cases hafter : Way.after prev next (Way.mk place items) <;> simp [hafter]

/-- The places of a match that begins after some characters and has some length. -/
def placesOf (place : Nat) (hit : Nat × Nat) : Array (Option Nat) :=
  #[some (place + hit.1), some (place + hit.1 + hit.2)]

theorem findSome?_found (ws : List Way) (prev : Option Char) (text : List Char) :
    ws.findSome? (Way.found place prev text) =
      (ws.filterMap (Way.after prev text.head?)).findSome? (Way.found place prev text) := by
  rw [← List.head?_filterMap, ← List.head?_filterMap, List.filterMap_filterMap,
    ← funext (Way.found_eq_bind place prev text)]

/-- At most the first of some ways is complete. -/
theorem Apart.complete_or_waiting {ws : List Way} (h : Apart items ws) (prev next : Option Char) :
    (∃ start later, ws.filterMap (Way.after prev next) = ⟨start, []⟩ :: later) ∨
      ∀ v ∈ ws.filterMap (Way.after prev next), v.left <:+ items ∧ v.left ≠ [] := by
  have hsuffix : ∀ v ∈ ws.filterMap (Way.after prev next), v.left <:+ items := by
    intro v hv
    obtain ⟨w, hw, hafter⟩ := List.mem_filterMap.mp hv
    exact (Way.suffix_of_after hafter).trans (h.suffix w hw)
  -- a complete way comes to the least step of all, which one before it keeps free
  have hne : (ws.filterMap (Way.after prev next)).Pairwise fun _ v => v.left ≠ [] := by
    refine List.Pairwise.filterMap _ ?_ h.apart
    intro v w hvw _ _ w' hw' hnil
    obtain rfl := Way.after_eq_some hw'
    rw [Way.lowest, show w.left.dropWhile Item.isLook = [] from hnil] at hvw
    simp at hvw
  cases hvs : ws.filterMap (Way.after prev next) with
  | nil => exact .inr (by simp)
  | cons v later =>
    rw [hvs] at hsuffix hne
    by_cases hv : v.left = []
    · exact .inl ⟨v.start, later, by rw [← hv]⟩
    · refine .inr fun u hu => ⟨hsuffix u hu, ?_⟩
      rcases List.mem_cons.mp hu with rfl | hu
      · exact hv
      · exact (List.pairwise_cons.mp hne).1 u hu

/-- A match that begins in a place is that of the way that begins there. -/
theorem or_leftmost_cons (ws : List Way) (prev : Option Char) (c : Char) (later : List Char) :
    (ws.findSome? (Way.found place prev (c :: later))).or
        ((Search.leftmost (lineFront items) prev (c :: later)).map (placesOf place)) =
      ((ws ++ [Way.mk place items]).findSome? (Way.found place prev (c :: later))).or
        ((Search.leftmost (lineFront items) (some c) later).map (placesOf (place + 1))) := by
  rw [List.findSome?_append, Option.or_assoc]
  congr 1
  cases hfront : lineFront items prev (c :: later) with
  | none =>
    have hplaces : placesOf place ∘ (fun hit => (hit.1 + 1, hit.2)) = placesOf (place + 1) := by
      funext hit
      simp [placesOf, Nat.add_comm, Nat.add_left_comm]
    simp [Search.leftmost, hfront, Way.found, hplaces]
  | some n => simp [Search.leftmost, hfront, Way.found, placesOf]

theorem or_leftmost_nil (ws : List Way) (prev : Option Char) :
    (ws.findSome? (Way.found place prev [])).or
        ((Search.leftmost (lineFront items) prev []).map (placesOf place)) =
      (ws ++ [Way.mk place items]).findSome? (Way.found place prev []) := by
  rw [List.findSome?_append]
  congr 1
  cases hfront : lineFront items prev [] <;> simp [Search.leftmost, hfront, Way.found, placesOf]

/-- What a run of the program finds from a place on: the match of the first way that has one, or
else the leftmost match that begins there or behind. -/
theorem run_ofLine (prev : Option Char) {ws : List Way}
    (h : Apart items (ws ++ [Way.mk place items])) {bound : Nat} (hbound : items.length + 3 ≤ bound)
    (text : List Char) :
    (ofLine items).run bound place prev
        ((ws.map Way.coming).foldl ((ofLine items).reach bound place prev text.head?)
          (ofLine items).noThreads) none text =
      (ws.findSome? (Way.found place prev text)).or
        ((Search.leftmost (lineFront items) prev text).map (placesOf place)) := by
  induction text generalizing ws place prev with
  | nil =>
    obtain ⟨reached, hreach⟩ := exists_reach_first prev none h hbound
    rw [or_leftmost_nil, findSome?_found, run]
    simp only [Option.isSome_none, Bool.false_eq_true, if_false, List.head?_nil, hreach]
    rcases h.complete_or_waiting prev none with ⟨start, later, hvs⟩ | hvs
    · rw [hvs, cutAtMatch_of_complete]
      rfl
    · rw [cutAtMatch_of_forall hvs]
      symm
      rw [Option.none_or, List.findSome?_eq_none_iff]
      intro v hv
      obtain ⟨w, -, hafter⟩ := List.mem_filterMap.mp hv
      exact Way.found_nil hafter (hvs v hv).2 place prev
  | cons c later ih =>
    obtain ⟨reached, hreach⟩ := exists_reach_first prev (some c) h hbound
    rw [or_leftmost_cons, findSome?_found, run]
    simp only [Option.isSome_none, Bool.false_eq_true, if_false, List.head?_cons, hreach]
    rcases h.complete_or_waiting prev (some c) with ⟨start, later, hvs⟩ | hvs
    · rw [hvs, cutAtMatch_of_complete]
      rfl
    · -- all ways wait for a character, and the run goes on with those that pass over this one
      rw [cutAtMatch_of_forall hvs, findSome?_found_cons fun v hv => (hvs v hv).2,
        List.filterMap_filterMap, ← ih (some c) (h.pass prev (some c) c (place + 1)),
        ← List.filterMap_filterMap, ← filterMap_pass?_waiting place fun v hv => (hvs v hv).1]
      simp only [Option.none_or, Option.isSome_none, Bool.and_false, Bool.false_eq_true, if_false]

/-- The search for some items one after another finds them where they are found from the front. -/
theorem search_ofLine (items : List Item) :
    (ofLine items).search = Search.ofFront (lineFront items) := by
  funext prev text
  have hstart : Apart items ([] ++ [Way.mk 0 items]) :=
    ⟨by simp, List.pairwise_singleton _ _⟩
  have hrun := run_ofLine prev hstart (Nat.le_succ (items.length + 3)) text
  rw [List.map_nil, List.foldl_nil, List.findSome?_nil, Option.none_or] at hrun
  rw [search, successors_ofLine, hrun, Search.ofFront]
  cases Search.leftmost (lineFront items) prev text with
  | none => rfl
  | some hit => simp [placesOf, groupTexts, ofLine]

end Run

end Program

end Annotator.Pattern

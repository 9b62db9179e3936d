import Annotator.Scan

/-!
# Cutting a text piece by piece

A search that is made from a front finds the first place where the front finds something. If the
front is proper, which means that it finds no empty part and only what is there, a cut can be
followed through the text: `scan_of_some` and `scan_of_none` are its two steps and
`scan_induction` is the induction along them.

## Key results

- `Search.scan_append`: where no hit crosses the border between two texts, the cut of both is the
  cut of the one followed by the cut of the other
- `Search.exists_of_mem_hits_cutFrom`: every hit is what the front finds somewhere, also for a front
  that is not proper
- `Search.scan_prev`: a cut depends on what stands before the text only through its first place
- `Cut.replace_append`, `Cut.hits_append`, `Cut.plain_append`: what a cut is asked for can be asked
  piece by piece
-/

namespace Annotator

namespace Cut

/-- The text without its hits. -/
def plain (c : Cut) : List Char := c.between.flatten

/-- The text before the first hit. -/
def first : Cut → List Char
  | .rest t => t
  | .hit b _ _ _ => b

/-- The text after the last hit. -/
def last : Cut → List Char
  | .rest t => t
  | .hit _ _ _ a => a.last

/-- A cut with more text in front of it. -/
def prepend (front : List Char) : Cut → Cut
  | .rest t => .rest (front ++ t)
  | .hit b m g a => .hit (front ++ b) m g a

/-- A cut followed by another one: what the first leaves over belongs to the text before the first
hit of the second. -/
def append : Cut → Cut → Cut
  | .rest t, d => d.prepend t
  | .hit b m g a, d => .hit b m g (a.append d)

/-! ### Text, hits and replacements of a composed cut -/

@[simp] theorem plain_rest (t : List Char) : (rest t).plain = t := by simp [plain, between]

@[simp] theorem plain_hit (b m : List Char) (g : List (Option (List Char))) (a : Cut) :
    (hit b m g a).plain = b ++ a.plain := by
  simp [plain, between]

theorem plain_sublist (c : Cut) : c.plain.Sublist c.text := by
  induction c with
  | rest t => simp
  | hit b m g a ih =>
    rw [plain_hit, text_hit, List.append_assoc]
    exact (List.Sublist.refl b).append (ih.trans (List.sublist_append_right m a.text))

@[simp] theorem prepend_nil (c : Cut) : c.prepend [] = c := by cases c <;> rfl

theorem prepend_prepend (s t : List Char) (c : Cut) :
    (c.prepend t).prepend s = c.prepend (s ++ t) := by
  cases c <;> simp [prepend]

theorem append_prepend (t : List Char) (c d : Cut) :
    (c.prepend t).append d = (c.append d).prepend t := by
  cases c with
  | rest s => exact (prepend_prepend t s d).symm
  | hit b m g a => rfl

@[simp] theorem append_rest_nil (c : Cut) : c.append (rest []) = c := by
  induction c with
  | rest t => simp [append, prepend]
  | hit b m g a ih => rw [append, ih]

theorem append_assoc (c d e : Cut) : (c.append d).append e = c.append (d.append e) := by
  induction c with
  | rest t => exact append_prepend t d e
  | hit b m g a ih => rw [append, append, append, ih]

@[simp] theorem text_prepend (t : List Char) (c : Cut) : (c.prepend t).text = t ++ c.text := by
  cases c <;> simp [prepend]

@[simp] theorem text_append (c d : Cut) : (c.append d).text = c.text ++ d.text := by
  induction c with
  | rest t => simp [append]
  | hit b m g a ih => simp [append, ih]

@[simp] theorem hits_prepend (t : List Char) (c : Cut) : (c.prepend t).hits = c.hits := by
  cases c <;> rfl

@[simp] theorem hits_append (c d : Cut) : (c.append d).hits = c.hits ++ d.hits := by
  induction c with
  | rest t => simp [append, hits]
  | hit b m g a ih => simp [append, hits, ih]

@[simp] theorem plain_prepend (t : List Char) (c : Cut) : (c.prepend t).plain = t ++ c.plain := by
  cases c <;> simp [prepend]

@[simp] theorem plain_append (c d : Cut) : (c.append d).plain = c.plain ++ d.plain := by
  induction c with
  | rest t => simp [append]
  | hit b m g a ih => simp [append, ih]

@[simp] theorem replace_prepend (f : List Char → List (Option (List Char)) → List Char)
    (t : List Char) (c : Cut) : (c.prepend t).replace f = t ++ c.replace f := by
  cases c <;> simp [prepend, replace]

@[simp] theorem replace_append (f : List Char → List (Option (List Char)) → List Char)
    (c d : Cut) : (c.append d).replace f = c.replace f ++ d.replace f := by
  induction c with
  | rest t => simp [append, replace]
  | hit b m g a ih => simp [append, replace, ih]

@[simp] theorem first_prepend (t : List Char) (c : Cut) : (c.prepend t).first = t ++ c.first := by
  cases c <;> rfl

theorem first_append_of_nil {c d : Cut} (hd : d.first = []) : (c.append d).first = c.first := by
  cases c with
  | rest t => rw [append, first_prepend, hd, List.append_nil, first]
  | hit b m g a => rfl

theorem first_prefix_text (c : Cut) : c.first <+: c.text := by
  cases c with
  | rest t => exact List.prefix_refl t
  | hit b m g a => exact ⟨m ++ a.text, by rw [text_hit, first, List.append_assoc]⟩

/-- Whether the text before the first hit begins with a beginning of the text is settled before the
text is followed by another. -/
theorem prefix_first_append {word : List Char} {c : Cut} (h : word <+: c.text) (d : Cut) :
    word <+: (c.append d).first ↔ word <+: c.first := by
  cases c with
  | rest t =>
    rw [append, first_prepend, first]
    exact iff_of_true (h.trans (List.prefix_append t _)) h
  | hit b m g a => rfl

@[simp] theorem last_append_hit (c d : Cut) (b m : List Char) (g : List (Option (List Char))) :
    (c.append (.hit b m g d)).last = d.last := by
  induction c with
  | rest t => rfl
  | hit _ _ _ _ ih => exact ih

@[simp] theorem last_append_rest (c : Cut) (t : List Char) :
    (c.append (.rest t)).last = c.last ++ t := by
  induction c with
  | rest s => rfl
  | hit _ _ _ _ ih => exact ih

/-- A cut may be taken apart after its last hit. -/
theorem exists_of_last {c : Cut} {y z : List Char} (h : c.last = y ++ z) :
    ∃ d : Cut, c = d.append (.rest z) ∧ d.last = y := by
  induction c with
  | rest t => exact ⟨.rest y, by rw [append, prepend, ← h, last], rfl⟩
  | hit b m g a ih =>
    obtain ⟨d, rfl, hd⟩ := ih h
    exact ⟨.hit b m g d, rfl, hd⟩

/-- A cut has no hits, or a last one. -/
theorem eq_rest_or_append_hit (c : Cut) :
    (∃ t, c = .rest t) ∨ ∃ (d : Cut) (m : List Char) (g : List (Option (List Char)))
      (t : List Char), c = d.append (.hit [] m g (.rest t)) := by
  induction c with
  | rest t => exact .inl ⟨t, rfl⟩
  | hit b m g a ih =>
    right
    rcases ih with ⟨t, rfl⟩ | ⟨d, m', g', t, rfl⟩
    · exact ⟨.rest b, m, g, t, by simp [append, prepend]⟩
    · exact ⟨.hit b m g d, m', g', t, rfl⟩

end Cut

namespace Search

variable {front : Option Char → List Char → Option Nat}

/-- A front that finds no empty part, and only what is there. -/
structure Proper (front : Option Char → List Char → Option Nat) : Prop where
  pos : ∀ {prev text n}, front prev text = some n → 0 < n
  le : ∀ {prev text n}, front prev text = some n → n ≤ text.length

/-- The cut of a text at the hits of a front, where `prev` stands before the text. -/
def scan (front : Option Char → List Char → Option Nat) (prev : Option Char)
    (text : List Char) : Cut :=
  (ofFront front).cutFrom true prev text

@[simp] theorem lastOf_nil (prev : Option Char) : lastOf prev [] = prev := rfl

theorem lastOf_append (prev : Option Char) (s t : List Char) :
    lastOf prev (s ++ t) = lastOf (lastOf prev s) t := by
  unfold lastOf
  cases t with
  | nil => simp
  | cons c t => rw [List.getLast?_append, List.getLast?_cons]; rfl

theorem lastOf_cons (prev : Option Char) (c : Char) (t : List Char) :
    lastOf prev (c :: t) = lastOf (some c) t :=
  lastOf_append prev [c] t

theorem lastOf_of_ne_nil {t : List Char} (h : t ≠ []) (prev : Option Char) :
    lastOf prev t = t.getLast? := by
  rw [lastOf, List.getLast?_eq_some_getLast h, Option.some_or]

theorem text_scan (front : Option Char → List Char → Option Nat) (prev : Option Char)
    (text : List Char) : (scan front prev text).text = text :=
  text_cutFrom _ true prev text

/-! ### The two steps of a cut

What follows a hit is cut as if nothing had been found before: the search that has just found
something differs from a fresh one only in empty parts. -/

/-- What the leftmost search finds lies in the text and is not empty. -/
private theorem leftmost_bounds (hp : Proper front) {prev : Option Char} {text : List Char}
    {k n : Nat} (h : leftmost front prev text = some (k, n)) :
    0 < n ∧ k + n ≤ text.length := by
  induction text generalizing prev k n with
  | nil =>
    simp only [leftmost, Option.map_eq_some_iff, Prod.mk.injEq] at h
    obtain ⟨m, hm, rfl, rfl⟩ := h
    exact ⟨hp.pos hm, by simpa using hp.le hm⟩
  | cons c later ih =>
    simp only [leftmost] at h
    split at h
    · rename_i m hm
      simp only [Option.some.injEq, Prod.mk.injEq] at h
      obtain ⟨rfl, rfl⟩ := h
      exact ⟨hp.pos hm, by simpa using hp.le hm⟩
    · simp only [Option.map_eq_some_iff, Prod.mk.injEq] at h
      obtain ⟨⟨j, m⟩, hm, rfl, rfl⟩ := h
      have ⟨hpos, hle⟩ := ih hm
      exact ⟨hpos, by rw [List.length_cons]; omega⟩

/-- A cut by what the leftmost search finds, however fresh the search is. -/
private theorem cutFrom_eq (hp : Proper front) (fresh : Bool) (prev : Option Char)
    (text : List Char) :
    (ofFront front).cutFrom fresh prev text =
      match leftmost front prev text with
      | none => .rest text
      | some (k, n) =>
        .hit (text.take k) ((text.drop k).take n) []
          ((ofFront front).cutFrom false (lastOf prev (text.take (k + n))) (text.drop (k + n))) := by
  rw [cutFrom, next.eq_def, ofFront]
  cases h : leftmost front prev text with
  | none => rfl
  | some p =>
    obtain ⟨k, n⟩ := p
    have ⟨hpos, hle⟩ := leftmost_bounds hp h
    have hne : (k + n != 0) = true := by simp; omega
    have hshort : (text.drop (k + n)).length < text.length := by rw [List.length_drop]; omega
    have hmin : min k (k + n) = k := by omega
    have hsub : k + n - k = n := by omega
    simp only [Option.map_some, hne, Bool.or_true, if_true, hshort, true_or, List.take_take,
      List.drop_take, hmin, hsub]

theorem cutFrom_ofFront (hp : Proper front) (fresh : Bool) (prev : Option Char)
    (text : List Char) : (ofFront front).cutFrom fresh prev text = scan front prev text := by
  rw [scan, cutFrom_eq hp, cutFrom_eq hp true]

/-- Cutting a whole text at the hits of a front. -/
theorem cut_ofFront (front : Option Char → List Char → Option Nat) (text : List Char) :
    (ofFront front).cut text = scan front none text := rfl

@[simp] theorem scan_nil (hp : Proper front) (prev : Option Char) :
    scan front prev [] = .rest [] := by
  cases h : front prev [] with
  | none => rw [scan, cutFrom_eq hp]; simp [leftmost, h]
  | some n =>
    have := hp.pos h
    have := hp.le h
    simp only [List.length_nil] at this
    omega

/-- Where the front finds something, that is the next hit. -/
theorem scan_of_some (hp : Proper front) {prev : Option Char} {text : List Char} {n : Nat}
    (h : front prev text = some n) :
    scan front prev text =
      .hit [] (text.take n) [] (scan front (lastOf prev (text.take n)) (text.drop n)) := by
  have hl : leftmost front prev text = some (0, n) := by
    cases text with
    | nil => simp [leftmost, h]
    | cons c later => simp [leftmost, h]
  rw [scan, cutFrom_eq hp, hl]
  simp only [List.take_zero, List.drop_zero, Nat.zero_add, cutFrom_ofFront hp]

/-- Where the front finds nothing, the next character is plain. -/
theorem scan_of_none (hp : Proper front) {prev : Option Char} {c : Char} {text : List Char}
    (h : front prev (c :: text) = none) :
    scan front prev (c :: text) = (scan front (some c) text).prepend [c] := by
  rw [scan, scan, cutFrom_eq hp, cutFrom_eq hp]
  simp only [leftmost, h]
  cases leftmost front (some c) text with
  | none => rfl
  | some p =>
    obtain ⟨k, n⟩ := p
    simp [Cut.prepend, Nat.add_right_comm k 1 n, lastOf_cons]

/-- Induction along a cut: at the end of the text, over a hit, and over a plain character. -/
theorem scan_induction (hp : Proper front) {motive : Option Char → List Char → Prop}
    (nil : ∀ prev, motive prev [])
    (hit : ∀ prev text n, front prev text = some n →
      motive (lastOf prev (text.take n)) (text.drop n) → motive prev text)
    (step : ∀ prev c text, front prev (c :: text) = none → motive (some c) text →
      motive prev (c :: text))
    (prev : Option Char) (text : List Char) : motive prev text := by
  -- by induction on the length: a hit takes at least one character off the text
  suffices ∀ k, ∀ prev text, text.length = k → motive prev text from this _ prev text rfl
  intro k
  induction k using Nat.strongRecOn with
  | ind k ih =>
    intro prev text hk
    cases text with
    | nil => exact nil prev
    | cons c later =>
      cases h : front prev (c :: later) with
      | none =>
        refine step prev c later h (ih later.length ?_ _ _ rfl)
        rw [← hk, List.length_cons]; omega
      | some n =>
        have := hp.pos h
        refine hit prev _ n h (ih _ ?_ _ _ rfl)
        rw [List.length_drop, ← hk, List.length_cons]; omega

/-! ### The first hit -/

/-- Where the first hit of a cut is, the front finds it. -/
theorem front_of_scan_eq_hit (hp : Proper front) {prev : Option Char} {text b m : List Char}
    {g : List (Option (List Char))} {a : Cut} (h : scan front prev text = .hit b m g a) :
    front (lastOf prev b) (m ++ a.text) = some m.length := by
  induction prev, text using scan_induction hp generalizing b with
  | nil prev =>
    rw [scan_nil hp] at h
    cases h
  | hit prev text n hn _ =>
    rw [scan_of_some hp hn] at h
    obtain ⟨rfl, rfl, -, rfl⟩ := Cut.hit.inj h
    rw [text_scan, List.take_append_drop, lastOf_nil, List.length_take_of_le (hp.le hn), hn]
  | step prev c text hn ih =>
    rw [scan_of_none hp hn] at h
    cases hscan : scan front (some c) text with
    | rest t =>
      rw [hscan] at h
      cases h
    | hit b' m' g' a' =>
      rw [hscan] at h
      obtain ⟨rfl, rfl, rfl, rfl⟩ := Cut.hit.inj h
      rw [List.singleton_append, lastOf_cons]
      exact ih hscan

/-- The first hit comes after some beginning of a text if the front finds nothing in it. -/
theorem prefix_first_scan_iff (hp : Proper front) {prev : Option Char} {a r : List Char} :
    a <+: (scan front prev (a ++ r)).first ↔
      ∀ s t, a = s ++ t → t ≠ [] → front (lastOf prev s) (t ++ r) = none := by
  induction a generalizing prev with
  | nil =>
    refine iff_of_true List.nil_prefix fun s t h ht => ?_
    exact absurd (List.append_eq_nil_iff.mp h.symm).2 ht
  | cons c a ih =>
    cases hn : front prev (c :: (a ++ r)) with
    | some n =>
      rw [List.cons_append, scan_of_some hp hn, Cut.first]
      refine iff_of_false (by simp) fun h => ?_
      have := h [] (c :: a) rfl (List.cons_ne_nil c a)
      rw [lastOf_nil, List.cons_append, hn] at this
      cases this
    | none =>
      rw [List.cons_append, scan_of_none hp hn, Cut.first_prepend, List.singleton_append,
        List.cons_prefix_cons, and_iff_right rfl, ih]
      constructor
      · intro h s t heq ht
        cases s with
        | nil =>
          obtain rfl : t = c :: a := heq.symm
          exact hn
        | cons d s =>
          obtain ⟨rfl, rfl⟩ := List.cons.inj heq
          rw [lastOf_cons]
          exact h s t rfl ht
      · intro h s t heq ht
        rw [← lastOf_cons prev]
        exact h (c :: s) t (by rw [heq, List.cons_append]) ht

/-! ### All hits -/

/-- `Scanned front prev text c` if `c` cuts `text` as reading it from left to right does: the front
finds each hit where it stands, and nothing at any place between hits. -/
inductive Scanned (front : Option Char → List Char → Option Nat) :
    Option Char → List Char → Cut → Prop
  | rest {prev : Option Char} {t : List Char}
      (nothing : ∀ x y, t = x ++ y → y ≠ [] → front (lastOf prev x) y = none) :
      Scanned front prev t (.rest t)
  | hit {prev : Option Char} {b m r : List Char} {a : Cut}
      (nothing : ∀ x y, b = x ++ y → y ≠ [] → front (lastOf prev x) (y ++ (m ++ r)) = none)
      (found : front (lastOf prev b) (m ++ r) = some m.length)
      (later : Scanned front (lastOf prev (b ++ m)) r a) :
      Scanned front prev (b ++ (m ++ r)) (.hit b m [] a)

theorem scanned (hp : Proper front) (prev : Option Char) (text : List Char) :
    Scanned front prev text (scan front prev text) := by
  induction prev, text using scan_induction hp with
  | nil prev =>
    rw [scan_nil hp]
    exact .rest fun x y h hy => absurd (List.append_eq_nil_iff.mp h.symm).2 hy
  | hit prev text n hn ih =>
    rw [scan_of_some hp hn]
    have htext : text = [] ++ (text.take n ++ text.drop n) := by simp
    have hlen := List.length_take_of_le (hp.le hn)
    rw [htext] at hn
    conv => arg 3; rw [htext]
    refine .hit (fun x y h hy => absurd (List.append_eq_nil_iff.mp h.symm).2 hy) ?_ ih
    rwa [lastOf_nil, hlen]
  | step prev c text hn ih =>
    rw [scan_of_none hp hn]
    -- nothing is found before the plain character either
    have hcons {b : List Char} (later : List Char)
        (h : ∀ x y, b = x ++ y → y ≠ [] → front (lastOf (some c) x) (y ++ later) = none)
        (hfirst : front prev (c :: (b ++ later)) = none) :
        ∀ x y, c :: b = x ++ y → y ≠ [] → front (lastOf prev x) (y ++ later) = none := by
      intro x y heq hy
      cases x with
      | nil =>
        obtain rfl : c :: b = y := heq
        exact hfirst
      | cons d x =>
        obtain ⟨rfl, rfl⟩ := List.cons.inj heq
        rw [lastOf_cons]
        exact h x y rfl hy
    generalize scan front (some c) text = d at ih
    cases ih with
    | rest nothing =>
      refine .rest fun x y h hy => ?_
      have := hcons [] (by simpa using nothing) (by simpa using hn) x y h hy
      rwa [List.append_nil] at this
    | @hit _ b m r a nothing found later =>
      have found : front (lastOf prev (c :: b)) (m ++ r) = some m.length := by rwa [lastOf_cons]
      have later : Scanned front (lastOf prev (c :: b ++ m)) r a := by
        rwa [List.cons_append, lastOf_cons]
      exact .hit (hcons _ nothing hn) found later

theorem Scanned.text_eq {prev : Option Char} {text : List Char} {c : Cut}
    (h : Scanned front prev text c) : c.text = text := by
  induction h with
  | rest _ => rfl
  | hit _ _ _ ih => rw [Cut.text_hit, ih, List.append_assoc]

/-- At a place between hits the front finds nothing. -/
theorem Scanned.front_eq_none {prev : Option Char} {text y : List Char} {c d : Cut}
    (h : Scanned front prev text (c.append (d.prepend y))) (hy : y ≠ []) :
    front (lastOf prev c.text) (y ++ d.text) = none := by
  -- the whole cut is followed hit by hit until `c` comes to its end, where `y` begins
  generalize he : c.append (d.prepend y) = e at h
  induction h generalizing c with
  | rest nothing =>
    cases c with
    | hit _ _ _ _ => cases he
    | rest x =>
      cases d with
      | hit _ _ _ _ => cases he
      | rest z =>
        obtain rfl := Cut.rest.inj he
        exact nothing x (y ++ z) rfl (by simp [hy])
  | hit nothing _ later ih =>
    cases c with
    | rest x =>
      cases d with
      | rest _ => cases he
      | hit z m g a =>
        obtain ⟨rfl, rfl, -, rfl⟩ := Cut.hit.inj he
        have := nothing x (y ++ z) rfl (by simp [hy])
        rwa [← later.text_eq, List.append_assoc, ← List.append_assoc z, ← Cut.text_hit] at this
    | hit b m g a =>
      obtain ⟨rfl, rfl, -, he⟩ := Cut.hit.inj he
      rw [Cut.text_hit, lastOf_append]
      exact ih he

/-- At a hit the front finds it. -/
theorem Scanned.front_eq_some {prev : Option Char} {text m : List Char}
    {g : List (Option (List Char))} {c d : Cut}
    (h : Scanned front prev text (c.append (.hit [] m g d))) :
    front (lastOf prev c.text) (m ++ d.text) = some m.length := by
  generalize he : c.append (.hit [] m g d) = e at h
  induction h generalizing c with
  | rest _ =>
    cases c with
    | hit _ _ _ _ => cases he
    | rest _ => cases he
  | hit _ found later ih =>
    cases c with
    | rest x =>
      obtain ⟨rfl, rfl, -, rfl⟩ := Cut.hit.inj he
      rw [List.append_nil] at found
      rwa [later.text_eq]
    | hit b m' g' a =>
      obtain ⟨rfl, rfl, -, he⟩ := Cut.hit.inj he
      rw [Cut.text_hit, lastOf_append]
      exact ih he

/-! ### Composition -/

/-- A front that does not mind what stands before a text cuts it alike after either. -/
theorem scan_prev (hp : Proper front) {prev prev' : Option Char} {text : List Char}
    (h : front prev text = front prev' text) :
    scan front prev text = scan front prev' text := by
  cases text with
  | nil => rw [scan_nil hp, scan_nil hp]
  | cons c later =>
    cases hf : front prev (c :: later) with
    | none =>
      have hf' : front prev' (c :: later) = none := by rw [← h, hf]
      rw [scan_of_none hp hf, scan_of_none hp hf']
    | some n =>
      have hf' : front prev' (c :: later) = some n := by rw [← h, hf]
      have hpos := hp.pos hf
      have hlast : lastOf prev ((c :: later).take n) = lastOf prev' ((c :: later).take n) := by
        obtain ⟨m, rfl⟩ : ∃ m, n = m + 1 := ⟨n - 1, by omega⟩
        rw [List.take_succ_cons, lastOf_cons, lastOf_cons]
      rw [scan_of_some hp hf, scan_of_some hp hf', hlast]

/-- Where the search finds nothing there is nothing to cut. -/
theorem scan_of_search_none (hp : Proper front) {prev : Option Char} {text : List Char}
    (h : ofFront front prev text = none) : scan front prev text = .rest text := by
  have hl : leftmost front prev text = none := by simpa [ofFront] using h
  rw [scan, cutFrom_eq hp, hl]

/-- Where the front finds nothing at any place there is nothing to cut. -/
theorem scan_of_forall_none (hp : Proper front) (prev : Option Char) {text : List Char}
    (h : ∀ p rest, rest ≠ [] → rest <:+ text → front p rest = none) :
    scan front prev text = .rest text := by
  induction text generalizing prev with
  | nil => exact scan_nil hp prev
  | cons c later ih =>
    have hnone := h prev (c :: later) (List.cons_ne_nil c later) (List.suffix_refl _)
    rw [scan_of_none hp hnone, ih (some c) fun p rest hne hsuf =>
      h p rest hne (hsuf.trans (List.suffix_cons c later))]
    rfl

/-- Two texts are cut one after the other if the front finds at every place in the first what it
finds there without the second. -/
theorem scan_append (hp : Proper front) (prev : Option Char) {a : List Char} (b : List Char)
    (h : ∀ p rest, rest ≠ [] → rest <:+ a → front p (rest ++ b) = front p rest) :
    scan front prev (a ++ b) = (scan front prev a).append (scan front (lastOf prev a) b) := by
  induction prev, a using scan_induction hp with
  | nil prev => simp [scan_nil hp, Cut.append]
  | hit prev a n hn ih =>
    have hpos := hp.pos hn
    have hle := hp.le hn
    have hne : a ≠ [] := by rintro rfl; simp at hle; omega
    have hn' : front prev (a ++ b) = some n := by rw [h prev a hne (List.suffix_refl a), hn]
    have ih := ih fun p rest hr hsuf => h p rest hr (hsuf.trans (List.drop_suffix n a))
    rw [scan_of_some hp hn', scan_of_some hp hn, Cut.append, List.take_append_of_le_length hle,
      List.drop_append_of_le_length hle, ih, ← lastOf_append, List.take_append_drop]
  | step prev c a hn ih =>
    have hn' : front prev (c :: (a ++ b)) = none := by
      rw [← List.cons_append, h prev (c :: a) (List.cons_ne_nil c a) (List.suffix_refl _), hn]
    have ih := ih fun p rest hr hsuf => h p rest hr (hsuf.trans (List.suffix_cons c a))
    rw [List.cons_append, scan_of_none hp hn', scan_of_none hp hn, ih, Cut.append_prepend,
      lastOf_cons]

/-- A beginning of a text in which the front finds nothing is passed over. -/
theorem scan_prepend_of_none (hp : Proper front) {prev : Option Char} {a b : List Char}
    (h : ∀ s t, a = s ++ t → t ≠ [] → front (lastOf prev s) (t ++ b) = none) :
    scan front prev (a ++ b) = (scan front (lastOf prev a) b).prepend a := by
  induction a generalizing prev with
  | nil => rw [List.nil_append, lastOf_nil, Cut.prepend_nil]
  | cons c a ih =>
    have hnone := h [] (c :: a) rfl (List.cons_ne_nil c a)
    rw [lastOf_nil, List.cons_append] at hnone
    rw [List.cons_append, scan_of_none hp hnone, ih fun s t heq ht => ?_, Cut.prepend_prepend,
      lastOf_cons]
    · rfl
    · have := h (c :: s) t (by rw [heq, List.cons_append]) ht
      rwa [lastOf_cons] at this

/-! ### Empty hits

A front that is not proper may find empty parts. Its hits are still what it finds where they stand. -/

/-- What the leftmost search finds, the front finds where it stands. -/
theorem front_of_leftmost {prev : Option Char} {text : List Char} {k n : Nat}
    (h : leftmost front prev text = some (k, n)) :
    front (lastOf prev (text.take k)) (text.drop k) = some n := by
  induction text generalizing prev k n with
  | nil =>
    obtain ⟨m, hm, heq⟩ := Option.map_eq_some_iff.mp h
    obtain ⟨rfl, rfl⟩ := Prod.mk.inj heq
    exact hm
  | cons c later ih =>
    rw [leftmost] at h
    split at h
    · rename_i m hm
      obtain ⟨rfl, rfl⟩ := Prod.mk.inj (Option.some.inj h)
      exact hm
    · obtain ⟨⟨j, m⟩, hm, heq⟩ := Option.map_eq_some_iff.mp h
      obtain ⟨rfl, rfl⟩ := Prod.mk.inj heq
      rw [List.take_succ_cons, List.drop_succ_cons, lastOf_cons]
      exact ih hm

/-- The next hit of a search for a front is where the front finds it, empty or not. -/
theorem front_of_next {fresh : Bool} {prev : Option Char} {text : List Char} {h : Hit}
    (hnext : (ofFront front).next fresh prev text = some h) :
    front (lastOf prev (text.take h.skipped)) (text.drop h.skipped) = some h.length := by
  have hfirst {prev : Option Char} {text : List Char} {h : Hit}
      (hs : ofFront front prev text = some h) :
      front (lastOf prev (text.take h.skipped)) (text.drop h.skipped) = some h.length := by
    obtain ⟨⟨k, n⟩, hm, rfl⟩ := Option.map_eq_some_iff.mp hs
    exact front_of_leftmost hm
  rw [next.eq_def] at hnext
  split at hnext
  · cases hnext
  · rename_i h' hs
    split at hnext
    · obtain rfl := Option.some.inj hnext
      exact hfirst hs
    · -- an empty hit at the very place does not count, and the search goes on one character later
      split at hnext
      · cases hnext
      · obtain ⟨h', hs, rfl⟩ := Option.map_eq_some_iff.mp hnext
        rw [List.take_succ_cons, List.drop_succ_cons, lastOf_cons]
        exact hfirst hs

/-- Each hit of a cut is what the front finds at some place, empty or not. -/
theorem exists_of_mem_hits_cutFrom {fresh : Bool} {prev : Option Char} {text m : List Char}
    (hm : m ∈ ((ofFront front).cutFrom fresh prev text).hits) :
    ∃ p rest n, front p rest = some n ∧ m = rest.take n := by
  fun_induction cutFrom (ofFront front) fresh prev text with
  | case1 => cases hm
  | case2 fresh prev text h hnext consumed left _ ih =>
    rcases List.mem_cons.mp hm with rfl | hm
    · refine ⟨_, _, _, front_of_next hnext, ?_⟩
      rw [List.drop_take, Nat.add_sub_cancel_left]
    · exact ih hm
  | case3 => cases hm

end Search

end Annotator

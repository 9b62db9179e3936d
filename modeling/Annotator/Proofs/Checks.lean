import Annotator.Grammar.Check
import Annotator.Proofs.Results

/-!
# What the check of a document says

One equivalence for each part of the check: which documents, rules, words and styles pass it.

## Key results

- `Grammar.checkRule_eq_ok`: the rules that pass
- `Grammar.check_eq_ok`: the documents that pass
-/

namespace Annotator

/-- The kind that a rule of a document says it is of. -/
def Json.kind? (v : Json) : Option String := (v.get? "matchType").bind Json.text?

theorem Json.kind?_eq_some {v : Json} {s : String} :
    v.kind? = some s ↔ v.get? "matchType" = some (.string s) := by
  rw [kind?, Option.bind_eq_some_iff]
  constructor
  · intro h
    obtain ⟨w, hw, hs⟩ := h
    cases w with
    | string s' =>
      obtain rfl := Option.some.inj hs
      exact hw
    | _ => cases hs
  · intro h
    exact ⟨_, h, rfl⟩

theorem Json.items?_eq_some {v : Json} {items : List Json} :
    v.items? = some items ↔ v = .array items := by
  cases v <;> simp [Json.items?]

namespace Grammar

/-! ### Fields that are set -/

/-- Only objects have fields. -/
theorem exists_fields_of_has {v : Json} {key : String} (h : has v key = true) :
    ∃ fields, v = .object fields := by
  cases v with
  | object fields => exact ⟨fields, rfl⟩
  | _ => cases h

/-- A text is set unless it is empty. -/
theorem has_iff_of_text {v : Json} {key s : String} (h : v.get? key = some (.string s)) :
    has v key = true ↔ s ≠ "" := by
  simp [has, h, isSet]

/-! ### Words, styles and rules -/

theorem checkToken_eq_ok {rule : String} {v : Json} :
    checkToken rule v = .ok () ↔ has v "keyword" = true ∧ has v "type" = true := by
  unfold checkToken
  split
  · rename_i h
    exact iff_of_true rfl (by simpa using h)
  · rename_i h
    exact iff_of_false (by simp) (by simpa using h)

theorem checkType_eq_ok {v : Json} : checkType v = .ok () ↔
    has v "className" = true ∧ has v "highlightColor" = true ∧ has v "parentType" = true := by
  unfold checkType
  split
  · rename_i h
    exact iff_of_true rfl (by simpa [and_assoc] using h)
  · rename_i h
    exact iff_of_false (by simp) (by simpa [and_assoc] using h)

/-- A rule passes if it has a name and a kind, and what its kind needs: a keyword rule a sequence of
words that pass, a pattern rule a pattern. -/
theorem checkRule_eq_ok {v : Json} : checkRule v = .ok () ↔
    has v "name" = true ∧ has v "matchType" = true ∧
      (v.kind? = some "keyword" → ∃ items, v.get? "tokens" = some (.array items) ∧
        ∀ t ∈ items, has t "keyword" = true ∧ has t "type" = true) ∧
      (v.kind? = some "regex" → has v "pattern" = true) := by
  unfold checkRule
  split
  · rename_i h
    refine iff_of_false (by simp) fun ⟨hname, hkind, _⟩ => ?_
    simp [hname, hkind] at h
  · rename_i h
    obtain ⟨hname, hkind⟩ : has v "name" = true ∧ has v "matchType" = true := by simpa using h
    rw [and_iff_right hname, and_iff_right hkind, ← Json.kind?]
    -- each kind has its own condition, and those of the other kinds say nothing about it
    split
    · rename_i heq
      simp only [heq, Option.some.injEq, true_imp_iff]
      rw [and_iff_left (fun h => absurd h (by decide))]
      split
      · rename_i hnone
        refine iff_of_false (by simp) fun ⟨items, hitems, _⟩ => ?_
        rw [hitems] at hnone
        cases hnone
      · rename_i items hitems
        rw [Results.forM_eq_ok]
        obtain ⟨w, hw, hitems⟩ := Option.bind_eq_some_iff.mp hitems
        obtain rfl := Json.items?_eq_some.mp hitems
        simp only [checkToken_eq_ok, hw, Option.some.injEq, Json.array.injEq, exists_eq_left']
    · rename_i heq
      simp only [heq, Option.some.injEq, true_imp_iff]
      rw [and_iff_right (fun h => absurd h (by decide))]
      split
      · rename_i hpattern
        exact iff_of_true rfl hpattern
      · rename_i hpattern
        exact iff_of_false (by simp) hpattern
    · rename_i hkeyword hregex
      exact iff_of_true rfl ⟨fun h => absurd h hkeyword, fun h => absurd h hregex⟩

/-! ### Documents -/

theorem sequence_eq_ok {root : Json} {key : String} {items : List Json} :
    sequence root key = .ok items ↔ root.get? key = some (.array items) := by
  unfold sequence
  split
  · rename_i items' h
    rw [Option.bind_eq_some_iff] at h
    obtain ⟨v, hv, hitems⟩ := h
    rw [hv, Json.items?_eq_some.mp hitems]
    simp
  · rename_i h
    refine iff_of_false (by simp) fun hv => ?_
    rw [hv] at h
    cases h

/-- A document passes if it has a version, a sequence of rules that pass and a sequence of types that
pass. -/
theorem check_eq_ok {d : Json} : check d = .ok () ↔
    ∃ rules types, (d.get? "version").isSome = true ∧
      d.get? "highlightingRules" = some (.array rules) ∧ d.get? "types" = some (.array types) ∧
      (∀ r ∈ rules, checkRule r = .ok ()) ∧ ∀ t ∈ types, checkType t = .ok () := by
  cases d with
  | object fields =>
    simp only [check, Results.bind_eq_ok, Results.forM_eq_ok, sequence_eq_ok, ite_eq_left_iff,
      reduceCtorEq, imp_false, Decidable.not_not, requiredKeys, List.forall_mem_cons]
    constructor
    · intro h
      obtain ⟨_, ⟨hversion, _⟩, rules, hrules, _, hcheck, types, htypes, hcheck'⟩ := h
      exact ⟨rules, types, hversion, hrules, htypes, hcheck, hcheck'⟩
    · intro h
      obtain ⟨rules, types, hversion, hrules, htypes, hcheck, hcheck'⟩ := h
      refine ⟨(), ⟨hversion, ?_, ?_, ?_⟩, rules, hrules, (), hcheck, types, htypes, hcheck'⟩
      · rw [hrules]
        rfl
      · rw [htypes]
        rfl
      · exact fun _ h => absurd h List.not_mem_nil
  | _ =>
    refine iff_of_false (fun h => ?_) fun ⟨_, _, h, _⟩ => ?_
    · cases h
    · cases h

end Grammar

end Annotator

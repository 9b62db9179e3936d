import Mathlib.Algebra.GroupWithZero.Nat
import Annotator.Pattern.Form

/-!
# Forms that are put together

What is told of a form part by part, such as its groups, its items or its memory, is the same for forms
one after another and for the form that they are put together to: nested concatenations are opened and
neighbouring literals are joined, and a literal counts as much as its characters. So the memory that a
pattern takes is a matter of its pieces.

## Key results

- `Form.ByParts`: a measure of forms that is told part by part
- `Form.ByParts.append`, `Form.ByParts.ofItems`: the measure of forms one after another, and of the form
  that they are put together to
- `Form.byParts_memory`: the memory of forms is told part by part
- `Form.areSearchable_iff`: when forms one after another can be searched for
-/

namespace Annotator.Pattern.Form

variable {α : Type} {add : α → α → α} {zero : α} {of : Form → α} {ofAll : List Form → α}

/-- A measure of forms, and of forms one after another, that is told part by part. -/
structure ByParts (add : α → α → α) (zero : α) (of : Form → α) (ofAll : List Form → α) : Prop where
  assoc : ∀ a b c, add (add a b) c = add a (add b c)
  zero_add : ∀ a, add zero a = a
  add_zero : ∀ a, add a zero = a
  nil : ofAll [] = zero
  cons : ∀ f fs, ofAll (f :: fs) = add (of f) (ofAll fs)
  empty : of empty = zero
  concat : ∀ fs, of (concat fs) = ofAll fs
  literal_append : ∀ s t, of (literal (s ++ t)) = add (of (literal s)) (of (literal t))

namespace ByParts

theorem append (h : ByParts add zero of ofAll) (fs gs : List Form) :
    ofAll (fs ++ gs) = add (ofAll fs) (ofAll gs) := by
  induction fs with
  | nil => rw [List.nil_append, h.nil, h.zero_add]
  | cons f fs ih => rw [List.cons_append, h.cons, h.cons, ih, h.assoc]

theorem singleton (h : ByParts add zero of ofAll) (f : Form) : ofAll [f] = of f := by
  rw [h.cons, h.nil, h.add_zero]

/-- Forms may be opened into parts that count as much. -/
theorem flatMap (h : ByParts add zero of ofAll) {parts : Form → List Form}
    (hparts : ∀ f, ofAll (parts f) = of f) (fs : List Form) :
    ofAll (fs.flatMap parts) = ofAll fs := by
  induction fs with
  | nil => rfl
  | cons f fs ih => rw [List.flatMap_cons, h.append, hparts, ih, h.cons]

theorem items (h : ByParts add zero of ofAll) (f : Form) : ofAll f.items = of f := by
  cases f with
  | empty => exact h.nil.trans h.empty.symm
  | concat fs => exact (h.concat fs).symm
  | _ => exact h.singleton _

/-- A literal counts as much as the literals that it is joined from. -/
theorem joinLiterals (h : ByParts add zero of ofAll) (fs : List Form) :
    ofAll (joinLiterals fs) = ofAll fs := by
  induction fs with
  | nil => rfl
  | cons f fs ih =>
    rw [h.cons, ← ih, joinLiterals.eq_def]
    dsimp only
    split
    · rename_i a b rest heq
      rw [heq, h.cons, h.cons, h.literal_append, h.assoc]
    · rw [h.cons]

/-- Forms one after another count as much as the form that they are put together to. -/
theorem ofItems (h : ByParts add zero of ofAll) (fs : List Form) : of (ofItems fs) = ofAll fs := by
  rw [← h.flatMap h.items fs, ← h.joinLiterals, Form.ofItems]
  rcases Form.joinLiterals (fs.flatMap Form.items) with _ | ⟨f, _ | ⟨f', later⟩⟩
  · exact h.empty.trans h.nil.symm
  · exact (h.singleton f).symm
  · exact h.concat _

end ByParts

/-! ### Memory -/

theorem memory_literal (text : List Char) :
    (literal text).memory = (text.map fun c => 32 * c.utf8Size).sum := by
  rw [memory, List.sum_eq_foldl, List.foldl_map]

theorem memoryOf_eq_sum (fs : List Form) : memoryOf fs = (fs.map memory).sum := by
  induction fs with
  | nil => rfl
  | cons f fs ih => rw [memoryOf, List.map_cons, List.sum_cons, ih]

/-- Forms one after another take the memory of all of them. -/
theorem byParts_memory : ByParts (· + ·) 0 memory memoryOf where
  assoc := Nat.add_assoc
  zero_add := Nat.zero_add
  add_zero := Nat.add_zero
  nil := by rw [memoryOf]
  cons f fs := by rw [memoryOf]
  empty := by rw [memory]
  concat fs := by rw [memory]
  literal_append s t := by
    rw [memory_literal, memory_literal, memory_literal, List.map_append, List.sum_append]

/-- Forms one after another can be searched for if together they take no more memory than a pattern
may. -/
theorem areSearchable_iff (fs : List Form) :
    areSearchable fs = true ↔ memoryOf fs ≤ memoryLimit := by
  rw [areSearchable, decide_eq_true_iff, memoryOf_eq_sum, List.sum_eq_foldl, List.foldl_map]

end Annotator.Pattern.Form

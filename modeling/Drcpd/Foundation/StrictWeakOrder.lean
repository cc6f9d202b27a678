/-
  Foundation/StrictWeakOrder.lean --- comparison functions and what sorting by them promises.

  A library function that sorts takes a comparison function `before`, which has to be a strict
  weak order, and promises an ordering of the values in which none comes before an earlier one.
  The order of values that are not comparable is up to the function.

  A comparison that asks for one key after the other is such an order: it compares the values of
  a map into a linear order.

  Nothing here names a definition of any particular component.
-/
import Mathlib.Data.List.Sort
import Mathlib.Order.Basic

set_option autoImplicit false

namespace Drcpd.Foundation

variable {α β : Type*}

/-- A comparison function as it is required for sorting. -/
structure StrictWeakOrder (before : α → α → Bool) : Prop where
  irrefl : ∀ a, before a a = false
  trans : ∀ a b c, before a b = true → before b c = true → before a c = true
  incomparable : ∀ a b c, before b a = false → before c b = false → before c a = false

/-- What a function that sorts promises. -/
def SortsAll (sort : (α → α → Bool) → List α → List α) : Prop :=
  ∀ before, StrictWeakOrder before → ∀ values,
    (sort before values).Perm values ∧
      (sort before values).Pairwise fun a b => before b a = false

/-- Values are compared by what they are mapped to. -/
theorem StrictWeakOrder.of_key [LinearOrder β] {before : α → α → Bool} (key : α → β)
    (h : ∀ a b, before a b = true ↔ key a < key b) : StrictWeakOrder before := by
  have hnot : ∀ a b, before a b = false ↔ key b ≤ key a := fun a b => by
    rw [← not_lt, ← h, Bool.not_eq_true]
  refine ⟨fun a => ?_, fun a b c hab hbc => ?_, fun a b c hba hcb => ?_⟩
  · exact (hnot a a).mpr le_rfl
  · exact (h a c).mpr (((h a b).mp hab).trans ((h b c).mp hbc))
  · exact (hnot c a).mpr (((hnot b a).mp hba).trans ((hnot c b).mp hcb))

/-- Sorting by merging keeps the promise. -/
theorem sortsAll_mergeSort :
    SortsAll fun (before : α → α → Bool) values => values.mergeSort fun a b => !before b a := by
  intro before hbefore values
  refine ⟨List.mergeSort_perm _ _, ?_⟩
  have hsorted : (values.mergeSort fun a b => !before b a).Pairwise
      fun a b => (!before b a) = true := by
    refine List.pairwise_mergeSort (fun a b c hab hbc => ?_) (fun a b => ?_) values
    · rw [Bool.not_eq_true'] at hab hbc ⊢
      exact hbefore.incomparable a b c hab hbc
    · rw [Bool.or_eq_true, Bool.not_eq_true', Bool.not_eq_true']
      by_contra hboth
      rw [not_or, Bool.not_eq_false, Bool.not_eq_false] at hboth
      have hself := hbefore.trans a b a hboth.2 hboth.1
      exact Bool.false_ne_true ((hbefore.irrefl a).symm.trans hself)
  refine hsorted.imp fun h => ?_
  rwa [Bool.not_eq_true'] at h

end Drcpd.Foundation

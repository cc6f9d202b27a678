/-
  Foundation/Ancestors.lean --- the part of a hierarchy at and below one of its nodes.

  A hierarchy is given by the function which takes each node to its parent, if there is one.
  Going to a child never leaves such a part, and going to the parent leaves it at its top only.

  Nothing here names a definition of any particular component.
-/
import Mathlib.Logic.Relation

set_option autoImplicit false

namespace Drcpd.Foundation

variable {ι : Type*} {parent : ι → Option ι} {top x y : ι}

/-- `x` is `top`, or `top` is one of its ancestors. -/
def Below (parent : ι → Option ι) (top x : ι) : Prop :=
  Relation.ReflTransGen (fun child p => parent child = some p) x top

theorem below_self (parent : ι → Option ι) (top : ι) : Below parent top top := .refl

theorem Below.to_child (h : Below parent top x) (hy : parent y = some x) : Below parent top y :=
  Relation.ReflTransGen.head hy h

/-- There is one parent only, so the way up to `top` leads through it. -/
theorem Below.to_parent (h : Below parent top x) (hne : x ≠ top) (hy : parent x = some y) :
    Below parent top y := by
  rcases Relation.ReflTransGen.cases_head h with heq | ⟨p, hp, hrest⟩
  · exact absurd heq hne
  · cases hp.symm.trans hy
    exact hrest

theorem not_below_of_parent_none (h : parent x = none) (hne : x ≠ top) : ¬Below parent top x := by
  intro hbelow
  rcases Relation.ReflTransGen.cases_head hbelow with heq | ⟨p, hp, -⟩
  · exact hne heq
  · cases hp.symm.trans h

end Drcpd.Foundation

/-
  Foundation/Total.lean --- the sum of a weight over the cells of a list.

  A shared counter counts for many components at once.  What it should be is the sum of what
  it counts for each of them; a step of one component replaces one cell of the list.
-/
import Mathlib.Algebra.GroupWithZero.Nat
import Mathlib.Algebra.Order.BigOperators.Group.List
import Mathlib.Algebra.Order.Group.Nat

set_option autoImplicit false

namespace Drcpd.Foundation

variable {α : Type*}

/-- The sum of the weights. -/
def total (f : α → Nat) (l : List α) : Nat := (l.map f).sum

@[simp] theorem total_nil (f : α → Nat) : total f [] = 0 := rfl

@[simp] theorem total_cons (f : α → Nat) (a : α) (l : List α) :
    total f (a :: l) = f a + total f l := by
  unfold total
  rw [List.map_cons, List.sum_cons]

@[simp] theorem total_concat (f : α → Nat) (l : List α) (a : α) :
    total f (l ++ [a]) = total f l + f a := by
  unfold total
  rw [List.map_append, List.sum_append, List.map_singleton, List.sum_singleton]

theorem total_add (f g : α → Nat) (l : List α) :
    total (fun a => f a + g a) l = total f l + total g l := by
  induction l with
  | nil => rfl
  | cons a l ih =>
    rw [total_cons, total_cons, total_cons, ih]
    omega

/-- The total changes by what the weight of the replaced cell changes. -/
theorem total_set (f : α → Nat) {l : List α} {i : Nat} {a : α} (b : α) (h : l[i]? = some a) :
    total f (l.set i b) + f a = total f l + f b := by
  induction l generalizing i with
  | nil => cases h
  | cons c l ih =>
    cases i with
    | zero =>
      cases h
      rw [List.set_cons_zero, total_cons, total_cons]
      omega
    | succ i =>
      have hrest := ih h
      rw [List.set_cons_succ, total_cons, total_cons]
      omega

theorem modify_eq_set (g : α → α) {l : List α} {i : Nat} {a : α} (h : l[i]? = some a) :
    l.modify i g = l.set i (g a) := by
  have : Inhabited α := ⟨a⟩
  rw [List.modify_eq_set, h]
  rfl

/-- The total stays where the weight of the cell does. -/
theorem total_modify_same {f : α → Nat} {g : α → α} (hsame : ∀ a, f (g a) = f a) (l : List α)
    (i : Nat) : total f (l.modify i g) = total f l := by
  cases h : l[i]? with
  | none => rw [List.modify_eq_self (List.getElem?_eq_none_iff.mp h)]
  | some a =>
    have hchanged := total_set f (g a) h
    rw [hsame] at hchanged
    rw [modify_eq_set g h]
    omega

/-- No cell weighs more than all of them. -/
theorem le_total (f : α → Nat) {l : List α} {i : Nat} {a : α} (h : l[i]? = some a) :
    f a ≤ total f l :=
  List.le_sum_of_mem (List.mem_map_of_mem (List.mem_of_getElem? h))

/-- Replacing a cell keeps what holds of every cell, if it holds of the new one. -/
theorem all_set {p : α → Prop} {l : List α} (hall : ∀ a ∈ l, p a) (i : Nat) {b : α} (hb : p b) :
    ∀ a ∈ l.set i b, p a := fun a ha =>
  (List.mem_or_eq_of_mem_set ha).elim (hall a) fun heq => heq ▸ hb

theorem all_modify {p : α → Prop} {g : α → α} (hg : ∀ a, p a → p (g a)) {l : List α}
    (hall : ∀ a ∈ l, p a) (i : Nat) : ∀ a ∈ l.modify i g, p a := by
  intro a ha
  obtain ⟨j, hj⟩ := List.mem_iff_getElem?.mp ha
  rw [List.getElem?_modify] at hj
  obtain ⟨b, hb, hba⟩ := Option.map_eq_some_iff.mp hj
  have hmem := hall b (List.mem_of_getElem? hb)
  subst hba
  split
  · exact hg b hmem
  · exact hmem

/-- The last cell. -/
theorem modify_concat (g : α → α) (l : List α) (a : α) :
    (l ++ [a]).modify l.length g = l ++ [g a] := by
  induction l with
  | nil => rfl
  | cons b l ih => rw [List.cons_append, List.length_cons, List.modify_succ_cons, ih]; rfl

end Drcpd.Foundation

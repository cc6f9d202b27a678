/-
  Foundation/CyclicSuccessor.lean --- identifiers handed out by a successor that
  cycles.

  A generator hands out identifiers by applying `next` over and over.  When
  `next` leads from every valid identifier to every other, and there are more
  valid identifiers than identifiers in use, then the search for an unused one
  ends: among the first `used.card + 1` candidates at least one is free.
-/
import Mathlib.Data.Finset.Image
import Mathlib.Data.Finset.Card
import Mathlib.Logic.Function.Iterate

set_option autoImplicit false

namespace Drcpd.Foundation

variable {α : Type*}

/-- `next` leads from every valid identifier to every valid identifier. -/
def CyclesThrough (next : α → α) (valid : α → Prop) : Prop :=
  ∀ i j, valid i → valid j → ∃ k, next^[k] i = j

/-- Once an orbit has returned to one of its members, it never leaves the members
seen so far. -/
theorem iterate_mem_image_of_return [DecidableEq α] {next : α → α} {i : α} {a b : Nat}
    (hab : a < b) (hret : next^[b] i = next^[a] i) (n : Nat) :
    next^[n] i ∈ (Finset.range b).image fun k => next^[k] i := by
  induction n with
  | zero => exact Finset.mem_image.mpr ⟨0, Finset.mem_range.mpr (by omega), rfl⟩
  | succ n ih =>
    obtain ⟨k, hk, hkn⟩ := Finset.mem_image.mp ih
    rw [Finset.mem_range] at hk
    have hstep : next^[n + 1] i = next^[k + 1] i := by
      rw [Function.iterate_succ_apply', ← hkn, Function.iterate_succ_apply']
    rw [hstep]
    rcases Nat.lt_or_ge (k + 1) b with hlt | hge
    · exact Finset.mem_image.mpr ⟨k + 1, Finset.mem_range.mpr hlt, rfl⟩
    · have hkb : k + 1 = b := by omega
      rw [hkb, hret]
      exact Finset.mem_image.mpr ⟨a, Finset.mem_range.mpr hab, rfl⟩

/-- With more valid identifiers than steps, the orbit of a valid identifier does
not repeat within those steps. -/
theorem iterate_injOn_of_cyclesThrough [DecidableEq α] {next : α → α} {valid : α → Prop}
    (hcycle : CyclesThrough next valid) {ids : Finset α} (hids : ∀ i ∈ ids, valid i)
    {i : α} (hi : valid i) {m : Nat} (hm : m < ids.card) :
    Set.InjOn (fun k => next^[k] i) (Finset.range (m + 1)) := by
  have key : ∀ a b : Nat, a < b → b ≤ m → next^[b] i ≠ next^[a] i := by
    intro a b hab hbm hret
    have hsub : ids ⊆ (Finset.range b).image fun k => next^[k] i := by
      intro j hj
      obtain ⟨k, rfl⟩ := hcycle i j hi (hids j hj)
      exact iterate_mem_image_of_return hab hret k
    have hcard := Finset.card_le_card hsub
    have himage := Finset.card_image_le (s := Finset.range b) (f := fun k => next^[k] i)
    rw [Finset.card_range] at himage
    omega
  intro a ha b hb heq
  simp only [Finset.coe_range, Set.mem_Iio] at ha hb
  rcases Nat.lt_trichotomy a b with hlt | heq' | hgt
  · exact absurd heq.symm (key a b hlt (by omega))
  · exact heq'
  · exact absurd heq (key b a hgt (by omega))

/-- Among the first `used.card + 1` candidates one is not in use. -/
theorem exists_iterate_notMem [DecidableEq α] {next : α → α} {valid : α → Prop}
    (hcycle : CyclesThrough next valid) {ids : Finset α} (hids : ∀ i ∈ ids, valid i)
    {i : α} (hi : valid i) {used : Finset α} (hused : used.card < ids.card) :
    ∃ k ≤ used.card, next^[k] i ∉ used := by
  by_contra hno
  push Not at hno
  have hsub : ((Finset.range (used.card + 1)).image fun k => next^[k] i) ⊆ used := by
    intro j hj
    obtain ⟨k, hk, rfl⟩ := Finset.mem_image.mp hj
    exact hno k (by have := Finset.mem_range.mp hk; omega)
  have hcard := Finset.card_le_card hsub
  rw [Finset.card_image_of_injOn (iterate_injOn_of_cyclesThrough hcycle hids hi hused),
    Finset.card_range] at hcard
  omega

end Drcpd.Foundation

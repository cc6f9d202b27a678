/-
  Foundation/Positions.lean --- counting and stepping over marked positions.

  `p` marks positions.  `countBelow p i` is the number of marked positions below `i`;
  `searchUp` and `searchDown` step to the next marked position above and below.  A step is
  characterised by the count: there is no marked position in between.  `markedFrom p bound i`
  lists the marked positions from `i` on.

  Nothing here names a definition of any particular component.
-/
import Mathlib.Data.Nat.Count

set_option autoImplicit false

namespace Drcpd.Foundation

/-- The number of marked positions below this one. -/
def countBelow (p : Nat → Bool) (i : Nat) : Nat := Nat.count (fun k => p k = true) i

/-- The next marked position, no more than `steps` further on. -/
def searchUp (p : Nat → Bool) : Nat → Nat → Option Nat
  | 0, _ => none
  | steps + 1, i => if p (i + 1) then some (i + 1) else searchUp p steps (i + 1)

/-- The last marked position before this one. -/
def searchDown (p : Nat → Bool) : Nat → Option Nat
  | 0 => none
  | i + 1 => if p i then some i else searchDown p i

variable {p : Nat → Bool}

theorem countBelow_succ (i : Nat) :
    countBelow p (i + 1) = countBelow p i + if p i = true then 1 else 0 :=
  Nat.count_succ _ i

theorem countBelow_succ_of_marked {i : Nat} (h : p i = true) :
    countBelow p (i + 1) = countBelow p i + 1 := by
  rw [countBelow_succ, if_pos h]

theorem countBelow_mono {i j : Nat} (h : i ≤ j) : countBelow p i ≤ countBelow p j :=
  Nat.count_monotone _ h

theorem countBelow_lt {i j : Nat} (hi : p i = true) (h : i < j) :
    countBelow p i < countBelow p j :=
  Nat.count_strict_mono hi h

theorem countBelow_le (i : Nat) : countBelow p i ≤ i := Nat.count_le _

/-- Marked positions are determined by their counts. -/
theorem eq_of_countBelow {i j : Nat} (hi : p i = true) (hj : p j = true)
    (h : countBelow p i = countBelow p j) : i = j :=
  Nat.count_injective hi hj h

theorem countBelow_eq_zero_iff {i : Nat} : countBelow p i = 0 ↔ ∀ k < i, ¬p k = true :=
  Nat.count_iff_forall_not

/-- The first marked position has nothing below it. -/
theorem countBelow_pos_iff {first i : Nat} (hfirst : p first = true)
    (hleast : ∀ k < first, ¬p k = true) : 0 < countBelow p i ↔ first < i := by
  constructor
  · intro hpos
    by_contra hle
    have hzero : countBelow p i = 0 :=
      countBelow_eq_zero_iff.mpr fun k hk => hleast k (Nat.lt_of_lt_of_le hk (Nat.le_of_not_lt hle))
    omega
  · exact fun hlt => Nat.lt_of_le_of_lt (Nat.zero_le _) (countBelow_lt hfirst hlt)

/-- Between two positions there are no more marked positions of a stricter kind. -/
theorem countBelow_sub_le {q : Nat → Bool} {i j : Nat} (hij : i ≤ j)
    (himp : ∀ k, i ≤ k → k < j → p k = true → q k = true) :
    countBelow p j - countBelow p i ≤ countBelow q j - countBelow q i := by
  induction hij with
  | refl => omega
  | @step m hm ih =>
    have hbefore := ih fun k hk hkm => himp k hk (Nat.lt_succ_of_lt hkm)
    have hmono := countBelow_mono (p := q) hm
    rw [countBelow_succ, countBelow_succ]
    by_cases hp : p m = true
    · rw [if_pos hp, if_pos (himp m hm (Nat.lt_succ_self m) hp)]
      omega
    · rw [if_neg hp]
      omega

/-- The marked positions between two positions. -/
theorem count_between (i j : Nat) :
    Nat.count (fun k => i ≤ k ∧ p k = true) j = countBelow p j - countBelow p i := by
  induction j with
  | zero => simp [countBelow]
  | succ j ih =>
      rw [Nat.count_succ, ih, countBelow_succ]
      by_cases hle : i ≤ j
      · have hmono := countBelow_mono (p := p) hle
        by_cases hp : p j = true
        · simp only [hle, hp, and_self, if_true]
          omega
        · simp [hp]
      · have hmono : countBelow p (j + 1) ≤ countBelow p i := countBelow_mono (by omega)
        rw [countBelow_succ] at hmono
        simp only [hle, false_and, if_false]
        omega

theorem searchUp_spec (steps : Nat) {i j : Nat} (hlt : i < j) (hj : p j = true)
    (hle : j ≤ i + steps) :
    ∃ k, searchUp p steps i = some k ∧ i < k ∧ k ≤ j ∧ p k = true ∧
      countBelow p k = countBelow p (i + 1) := by
  induction steps generalizing i with
  | zero => omega
  | succ steps ih =>
      unfold searchUp
      by_cases hnext : p (i + 1) = true
      · rw [if_pos hnext]
        exact ⟨i + 1, rfl, Nat.lt_succ_self i, hlt, hnext, rfl⟩
      · rw [if_neg hnext]
        have hne : i + 1 ≠ j := fun heq => hnext (heq ▸ hj)
        obtain ⟨k, hk, hik, hkj, hp, hcount⟩ := ih (i := i + 1) (by omega) (by omega)
        refine ⟨k, hk, by omega, hkj, hp, ?_⟩
        rw [hcount, countBelow_succ, if_neg hnext, Nat.add_zero]

theorem searchDown_spec {i : Nat} (h : 0 < countBelow p i) :
    ∃ k, searchDown p i = some k ∧ k < i ∧ p k = true ∧
      countBelow p i = countBelow p k + 1 := by
  induction i with
  | zero => simp [countBelow] at h
  | succ i ih =>
      unfold searchDown
      by_cases hp : p i = true
      · rw [if_pos hp]
        exact ⟨i, rfl, Nat.lt_succ_self i, hp, countBelow_succ_of_marked hp⟩
      · rw [if_neg hp]
        rw [countBelow_succ, if_neg hp, Nat.add_zero] at h ⊢
        obtain ⟨k, hk, hlt, hpk, hcount⟩ := ih h
        exact ⟨k, hk, Nat.lt_succ_of_lt hlt, hpk, hcount⟩

/-! ## Lists of marked positions -/

/-- The marked positions from this one on, below the bound. -/
def markedFrom (p : Nat → Bool) (bound i : Nat) : List Nat := (List.range' i (bound - i)).filter p

theorem markedFrom_eq_nil {bound i : Nat} (h : ∀ k < bound, i ≤ k → ¬p k = true) :
    markedFrom p bound i = [] := by
  refine List.filter_eq_nil_iff.mpr fun k hk => ?_
  rw [List.mem_range'_1] at hk
  exact h k (by omega) hk.1

theorem markedFrom_of_lt {bound i : Nat} (h : i < bound) :
    markedFrom p bound i =
      if p i = true then i :: markedFrom p bound (i + 1) else markedFrom p bound (i + 1) := by
  unfold markedFrom
  rw [show bound - i = bound - (i + 1) + 1 by omega, List.range'_succ, List.filter_cons]

/-- Where no marked position lies between two positions, the lists are the same. -/
theorem markedFrom_eq_of_countBelow {bound i j : Nat} (hij : i ≤ j) (hj : j ≤ bound)
    (hcount : countBelow p j = countBelow p i) : markedFrom p bound i = markedFrom p bound j := by
  induction hij using Nat.decreasingInduction with
  | self => rfl
  | of_succ k hk ih =>
    have hmono := countBelow_mono (p := p) (Nat.succ_le_of_lt hk)
    have hunmarked : ¬p k = true := by
      intro hmarked
      rw [countBelow_succ_of_marked hmarked] at hmono
      omega
    rw [countBelow_succ, if_neg hunmarked, Nat.add_zero] at ih
    rw [markedFrom_of_lt (Nat.lt_of_lt_of_le hk hj), if_neg hunmarked]
    exact ih hcount

/-- A marked position is among the first ones of the list exactly if there are less of them before
it. -/
theorem mem_take_markedFrom_iff {bound i j : Nat} (hij : i ≤ j) (hj : j < bound)
    (hmarked : p j = true) (count : Nat) :
    j ∈ (markedFrom p bound i).take count ↔ countBelow p j - countBelow p i < count := by
  induction hij using Nat.decreasingInduction generalizing count with
  | self =>
    rw [markedFrom_of_lt hj, if_pos hmarked, Nat.sub_self]
    cases count with
    | zero => simp
    | succ count => exact iff_of_true (List.mem_cons_self ..) (Nat.succ_pos count)
  | of_succ k hk ih =>
    rw [markedFrom_of_lt (Nat.lt_trans hk hj)]
    by_cases hfirst : p k = true
    · have hcount := countBelow_lt hfirst hk
      rw [if_pos hfirst]
      cases count with
      | zero => simp
      | succ count =>
        rw [List.take_succ_cons, List.mem_cons, or_iff_right (Nat.ne_of_gt hk), ih,
          countBelow_succ_of_marked hfirst]
        omega
    · rw [if_neg hfirst, ih, countBelow_succ, if_neg hfirst, Nat.add_zero]

end Drcpd.Foundation

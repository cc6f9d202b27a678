/-
  Foundation/Memory.lean --- writing to memory without a bound.

  The content of a memory is a function of the address, and the addresses written to are kept
  beside it, so that a write beyond the end of a buffer is seen instead of excluded.

  Nothing here names a definition of any particular component.
-/
import Mathlib.Data.List.Basic
import Mathlib.Logic.Function.Basic

set_option autoImplicit false

namespace Drcpd.Foundation

/-- Memory, and where it has been written to. -/
structure Memory (α : Type) where
  content : Nat → α
  written : List Nat := []

namespace Memory

variable {α : Type}

/-- Write one value. -/
def store (m : Memory α) (i : Nat) (value : α) : Memory α where
  content := Function.update m.content i value
  written := i :: m.written

/-- Write values one after the other. -/
def storeAll (m : Memory α) (i : Nat) : List α → Memory α
  | [] => m
  | value :: values => storeAll (m.store i value) (i + 1) values

/-- The memory is not written to from `size` on. -/
def WithinBounds (m : Memory α) (size : Nat) : Prop := ∀ i ∈ m.written, i < size

theorem store_content_self (m : Memory α) (i : Nat) (value : α) :
    (m.store i value).content i = value := by
  unfold store
  exact Function.update_self ..

theorem store_content_of_ne (m : Memory α) {i j : Nat} (value : α) (h : j ≠ i) :
    (m.store i value).content j = m.content j := by
  unfold store
  exact Function.update_of_ne h ..

theorem storeAll_content_of_lt (m : Memory α) {i j : Nat} (values : List α) (h : j < i) :
    (m.storeAll i values).content j = m.content j := by
  induction values generalizing m i with
  | nil => rfl
  | cons value values ih =>
    unfold storeAll
    rw [ih _ (Nat.lt_succ_of_lt h), store_content_of_ne _ _ (Nat.ne_of_lt h)]

theorem storeAll_content_at (m : Memory α) (i : Nat) (values : List α) (default : α) {j : Nat}
    (h : j < values.length) :
    (m.storeAll i values).content (i + j) = values.getD j default := by
  induction values generalizing m i j with
  | nil => exact absurd h (Nat.not_lt_zero j)
  | cons value values ih =>
    unfold storeAll
    cases j with
    | zero =>
      change ((m.store i value).storeAll (i + 1) values).content i = value
      rw [storeAll_content_of_lt _ _ (Nat.lt_add_one i), store_content_self]
    | succ j =>
      have hnext := ih (m.store i value) (i + 1) (Nat.lt_of_succ_lt_succ h)
      rw [show i + (j + 1) = i + 1 + j by omega, hnext]
      rfl

theorem mem_written_storeAll (m : Memory α) (i : Nat) (values : List α) (k : Nat) :
    k ∈ (m.storeAll i values).written ↔ k ∈ m.written ∨ i ≤ k ∧ k < i + values.length := by
  induction values generalizing m i with
  | nil =>
    have hnone : ¬(i ≤ k ∧ k < i + List.length (α := α) []) := by
      rw [List.length_nil]
      omega
    exact (or_iff_left hnone).symm
  | cons value values ih =>
    have hone : k ∈ (m.store i value).written ↔ k = i ∨ k ∈ m.written := List.mem_cons
    unfold storeAll
    rw [ih, hone, List.length_cons, or_comm (a := k = i), or_assoc]
    refine or_congr_right ?_
    omega

theorem withinBounds_store {m : Memory α} {i size : Nat} {value : α} :
    (m.store i value).WithinBounds size ↔ i < size ∧ m.WithinBounds size :=
  List.forall_mem_cons

/-- Values written below the bound end below the bound. -/
theorem withinBounds_storeAll {m : Memory α} {i size : Nat} {values : List α} (hi : i < size) :
    (m.storeAll i values).WithinBounds size ↔
      m.WithinBounds size ∧ i + values.length ≤ size := by
  unfold WithinBounds
  simp only [mem_written_storeAll, or_imp, forall_and]
  refine and_congr_right fun _ => ⟨fun h => ?_, fun h k hk => by omega⟩
  by_contra hbeyond
  have hlast := h size ⟨Nat.le_of_lt hi, by omega⟩
  exact Nat.lt_irrefl _ hlast

/-- The values from the start of the memory to the first one of a kind, no more than `size`. -/
def readUntil (m : Memory α) (size : Nat) (isEnd : α → Bool) : List α :=
  ((List.range size).map m.content).takeWhile fun value => !isEnd value

/-- What is read back is what has been written, as far as an end follows it. -/
theorem readUntil_eq_of_content {m : Memory α} {size : Nat} {isEnd : α → Bool} {values : List α}
    (default : α) (hvalues : ∀ value ∈ values, isEnd value = false) (hlength : values.length < size)
    (hcontent : ∀ j < values.length, m.content j = values.getD j default)
    (hend : isEnd (m.content values.length) = true) : m.readUntil size isEnd = values := by
  have hprefix : (List.range values.length).map m.content = values := by
    refine List.ext_getElem (by simp) fun j hj hj' => ?_
    rw [List.getElem_map, List.getElem_range, hcontent j hj', List.getD_eq_getElem?_getD,
      List.getElem?_eq_getElem hj', Option.getD_some]
  have hsplit : List.range size = List.range values.length ++
      (List.range (size - values.length)).map (values.length + ·) := by
    rw [← List.range_add]
    congr 1
    omega
  unfold readUntil
  rw [hsplit, List.map_append, hprefix, List.takeWhile_append_of_pos
    fun value hvalue => by simp [hvalues value hvalue]]
  cases hrest : size - values.length with
  | zero => omega
  | succ rest =>
    rw [List.range_succ_eq_map, List.map_cons, List.map_cons, List.takeWhile_cons_of_neg
      (by simpa using hend), List.append_nil]

end Memory

end Drcpd.Foundation

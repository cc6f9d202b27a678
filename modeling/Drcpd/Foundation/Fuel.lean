/-
  Foundation/Fuel.lean --- functions that take fuel.

  A loop that need not end for structural reasons is given as a function of its fuel;
  `none` says that it has run out of it.  `Ends f P` says that with enough fuel `f` has a
  result that meets `P`, and that it is the same however much more there is.

  Nothing here names a definition of any particular component.
-/
import Mathlib.Data.Option.Basic

set_option autoImplicit false

namespace Drcpd.Foundation

variable {α β : Type*}

/-- With enough fuel there is a result that meets `P`. -/
def Ends (f : Nat → Option α) (P : α → Prop) : Prop :=
  ∃ a, P a ∧ ∃ enough, ∀ fuel, enough ≤ fuel → f fuel = some a

namespace Ends

variable {f : Nat → Option α} {P : α → Prop}

theorem of_some {a : α} (h : ∀ fuel, f fuel = some a) (hP : P a) : Ends f P :=
  ⟨a, hP, 0, fun fuel _ => h fuel⟩

theorem imp {Q : α → Prop} (h : Ends f P) (hPQ : ∀ a, P a → Q a) : Ends f Q := by
  obtain ⟨a, hP, hends⟩ := h
  exact ⟨a, hPQ a hP, hends⟩

theorem congr {g : Nat → Option α} (h : Ends g P) (heq : ∀ fuel, f fuel = g fuel) :
    Ends f P := by
  obtain ⟨a, hP, enough, hends⟩ := h
  exact ⟨a, hP, enough, fun fuel hfuel => (heq fuel).trans (hends fuel hfuel)⟩

/-- A unit of fuel is taken. -/
theorem succ {g : Nat → Option α} (h : Ends g P) (hstep : ∀ fuel, f (fuel + 1) = g fuel) :
    Ends f P := by
  obtain ⟨a, hP, enough, hends⟩ := h
  refine ⟨a, hP, enough + 1, fun fuel hfuel => ?_⟩
  obtain ⟨rest, rfl⟩ := Nat.exists_eq_add_of_le' (Nat.lt_of_succ_le hfuel)
  exact (hstep _).trans (hends _ (Nat.le_of_lt_succ hfuel))

/-- One function goes on with the result of the other. -/
theorem bind {g : Nat → Option β} {next : Nat → β → Option α} {Q : β → Prop} (h : Ends g Q)
    (hnext : ∀ b, Q b → Ends (fun fuel => next fuel b) P) :
    Ends (fun fuel => (g fuel).bind (next fuel)) P := by
  obtain ⟨b, hQ, enough, hends⟩ := h
  obtain ⟨a, hP, enough', hends'⟩ := hnext b hQ
  refine ⟨a, hP, enough + enough', fun fuel hfuel => ?_⟩
  dsimp only
  rw [hends fuel (Nat.le_of_add_right_le hfuel)]
  exact hends' fuel (Nat.le_of_add_left_le hfuel)

theorem map {g : Nat → Option β} {Q : β → Prop} {h : β → α} (hg : Ends g Q)
    (hP : ∀ b, Q b → P (h b)) : Ends (fun fuel => (g fuel).map h) P := by
  obtain ⟨b, hQ, enough, hends⟩ := hg
  refine ⟨h b, hP b hQ, enough, fun fuel hfuel => ?_⟩
  dsimp only
  rw [hends fuel hfuel]
  rfl

/-- What is known about the result is known about the same one. -/
theorem and {Q : α → Prop} (h : Ends f P) (h' : Ends f Q) : Ends f fun a => P a ∧ Q a := by
  obtain ⟨a, hP, enough, hends⟩ := h
  obtain ⟨b, hQ, enough', hends'⟩ := h'
  have hb := hends' (enough + enough') (Nat.le_add_left enough' enough)
  rw [hends _ (Nat.le_add_right enough enough')] at hb
  obtain rfl := Option.some.inj hb
  exact ⟨a, ⟨hP, hQ⟩, enough, hends⟩

/-- There is one result only. -/
theorem iff_of_ends {a : α} (h : Ends f (· = a)) : Ends f P ↔ P a := by
  obtain ⟨_, rfl, enough, hends⟩ := h
  constructor
  · rintro ⟨b, hP, enough', hends'⟩
    have hb := hends' (enough + enough') (Nat.le_add_left enough' enough)
    rw [hends _ (Nat.le_add_right enough enough')] at hb
    exact Option.some.inj hb ▸ hP
  · intro hP
    exact ⟨_, hP, enough, hends⟩

end Ends

end Drcpd.Foundation

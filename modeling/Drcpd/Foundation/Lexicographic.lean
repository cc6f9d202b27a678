/-
  Foundation/Lexicographic.lean --- prefixes in the lexicographic order.

  The lists with a common prefix are an interval, and their elements behind the prefix are
  ascending, where the end of a list counts as the least element.  That `s` does not come
  behind `t` is written as `¬List.Lex (· < ·) t s`.

  Nothing here names a definition of any particular component.
-/
import Mathlib.Order.Lattice

set_option autoImplicit false

namespace Drcpd.Foundation

variable {α : Type*} [LinearOrder α]

/-- What lies between two lists with the same prefix has that prefix. -/
theorem prefix_of_between {pre s t u : List α} (hs : pre <+: s) (hu : pre <+: u)
    (hst : ¬List.Lex (· < ·) t s) (htu : ¬List.Lex (· < ·) u t) : pre <+: t := by
  induction pre generalizing s t u with
  | nil => exact List.nil_prefix
  | cons a pre ih =>
      obtain ⟨s, rfl⟩ := hs
      obtain ⟨u, rfl⟩ := hu
      rw [List.cons_append] at hst htu
      cases t with
      | nil => exact absurd .nil hst
      | cons b t =>
          rw [List.not_lex_lt, List.cons_le_cons_iff] at hst htu
          rcases hst with hlt | ⟨rfl, hst⟩
          · rcases htu with hgt | ⟨rfl, -⟩
            · exact absurd hgt (lt_asymm hlt)
            · exact absurd hlt (lt_irrefl _)
          · rcases htu with hgt | ⟨-, htu⟩
            · exact absurd hgt (lt_irrefl _)
            · exact List.cons_prefix_cons.mpr
                ⟨rfl, ih (List.prefix_append _ _) (List.prefix_append _ _) hst htu⟩

/-- The elements behind the common prefix are ascending. -/
theorem getD_le_getD_of_prefix {pre s t : List α} {least : α} (hleast : ∀ a, least ≤ a)
    (hs : pre <+: s) (ht : pre <+: t) (hst : ¬List.Lex (· < ·) t s) :
    s.getD pre.length least ≤ t.getD pre.length least := by
  induction pre generalizing s t with
  | nil =>
      cases s with
      | nil => exact hleast _
      | cons a s =>
          cases t with
          | nil => exact absurd .nil hst
          | cons b t =>
              rw [List.not_lex_lt, List.cons_le_cons_iff] at hst
              rcases hst with hlt | ⟨rfl, -⟩
              · exact le_of_lt hlt
              · exact le_refl a
  | cons a pre ih =>
      obtain ⟨s, rfl⟩ := hs
      obtain ⟨t, rfl⟩ := ht
      rw [List.cons_append, List.cons_append, List.not_lex_lt, List.cons_le_cons_iff] at hst
      rcases hst with hlt | ⟨-, hst⟩
      · exact absurd hlt (lt_irrefl a)
      · exact ih (List.prefix_append _ _) (List.prefix_append _ _) hst

omit [LinearOrder α] in
/-- A prefix is continued by the element behind it. -/
theorem concat_prefix_iff {pre s : List α} {a least : α} (ha : a ≠ least) (hs : pre <+: s) :
    pre ++ [a] <+: s ↔ s.getD pre.length least = a := by
  obtain ⟨rest, rfl⟩ := hs
  cases rest with
  | nil =>
      refine iff_of_false (fun h => ?_) (by simpa using ha.symm)
      have hlength := h.length_le
      simp only [List.append_nil, List.length_append, List.length_singleton] at hlength
      omega
  | cons b rest => simp [eq_comm]

end Drcpd.Foundation

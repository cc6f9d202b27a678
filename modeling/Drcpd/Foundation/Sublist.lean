/-
  Foundation/Sublist.lean --- what is lost where only a part of a list is visited.

  `flatMap_eq_iff_of_sublist` compares what is collected from a part of a list with what
  is collected from all of it, where less may be collected from each element as well.

  Nothing here names a definition of any particular component.
-/
import Mathlib.Data.List.Basic
import Mathlib.Data.List.Nodup

set_option autoImplicit false

namespace Drcpd.Foundation

variable {α β : Type*}

theorem flatMap_sublist {xs ys : List α} {f g : α → List β} (h : xs.Sublist ys)
    (hfg : ∀ x ∈ ys, (f x).Sublist (g x)) : (xs.flatMap f).Sublist (ys.flatMap g) := by
  induction h with
  | slnil => exact List.Sublist.refl _
  | cons y _ ih =>
    rw [List.flatMap_cons]
    have hrest := ih fun x hx => hfg x (List.mem_cons_of_mem y hx)
    exact hrest.trans (List.sublist_append_right _ _)
  | cons_cons y _ ih =>
    rw [List.flatMap_cons, List.flatMap_cons]
    exact (hfg y List.mem_cons_self).append (ih fun x hx => hfg x (List.mem_cons_of_mem y hx))

/-- Two sublists make up the whole only if each is all there is. -/
theorem append_eq_append_iff_of_sublist {xs xs' ys ys' : List β} (hx : xs.Sublist xs')
    (hy : ys.Sublist ys') : xs ++ ys = xs' ++ ys' ↔ xs = xs' ∧ ys = ys' := by
  constructor
  · intro h
    have hlength := congrArg List.length h
    rw [List.length_append, List.length_append] at hlength
    have hxlength := hx.length_le
    have hylength := hy.length_le
    exact ⟨hx.eq_of_length (by omega), hy.eq_of_length (by omega)⟩
  · rintro ⟨rfl, rfl⟩
    rfl

/-- Nothing is lost exactly if nothing is lost from the elements that are visited, and
there is nothing to be collected from the others. -/
theorem flatMap_eq_iff_of_sublist {xs ys : List α} {f g : α → List β} (h : xs.Sublist ys)
    (hnodup : ys.Nodup) (hfg : ∀ x ∈ ys, (f x).Sublist (g x)) :
    xs.flatMap f = ys.flatMap g ↔
      (∀ x ∈ xs, f x = g x) ∧ ∀ y ∈ ys, y ∉ xs → g y = [] := by
  induction h with
  | slnil => simp
  | @cons xs ys y h ih =>
    obtain ⟨hy, hnodup⟩ := List.nodup_cons.mp hnodup
    have hrest := ih hnodup fun x hx => hfg x (List.mem_cons_of_mem y hx)
    have hsublist := flatMap_sublist h fun x hx => hfg x (List.mem_cons_of_mem y hx)
    have hsplit := append_eq_append_iff_of_sublist (List.nil_sublist (g y)) hsublist
    rw [List.nil_append] at hsplit
    rw [List.flatMap_cons, hsplit, hrest]
    have hnot : y ∉ xs := fun hmem => hy (h.subset hmem)
    constructor
    · rintro ⟨hnil, hvisited, hothers⟩
      refine ⟨hvisited, fun x hx hnotx => ?_⟩
      rcases List.mem_cons.mp hx with rfl | hx
      · exact hnil.symm
      · exact hothers x hx hnotx
    · rintro ⟨hvisited, hothers⟩
      exact ⟨(hothers y List.mem_cons_self hnot).symm, hvisited,
        fun x hx => hothers x (List.mem_cons_of_mem y hx)⟩
  | @cons_cons xs ys y h ih =>
    obtain ⟨hy, hnodup⟩ := List.nodup_cons.mp hnodup
    have hrest := ih hnodup fun x hx => hfg x (List.mem_cons_of_mem y hx)
    have hsublist := flatMap_sublist h fun x hx => hfg x (List.mem_cons_of_mem y hx)
    rw [List.flatMap_cons, List.flatMap_cons,
      append_eq_append_iff_of_sublist (hfg y List.mem_cons_self) hsublist, hrest]
    constructor
    · rintro ⟨hfirst, hvisited, hothers⟩
      refine ⟨fun x hx => ?_, fun x hx hnotx => ?_⟩
      · rcases List.mem_cons.mp hx with rfl | hx
        · exact hfirst
        · exact hvisited x hx
      · rcases List.mem_cons.mp hx with rfl | hx
        · exact absurd List.mem_cons_self hnotx
        · exact hothers x hx fun hmem => hnotx (List.mem_cons_of_mem y hmem)
    · rintro ⟨hvisited, hothers⟩
      refine ⟨hvisited y List.mem_cons_self, fun x hx => hvisited x (List.mem_cons_of_mem y hx),
        fun x hx hnotx => hothers x (List.mem_cons_of_mem y hx) fun hmem => ?_⟩
      rcases List.mem_cons.mp hmem with rfl | hmem
      · exact hy hx
      · exact hnotx hmem

end Drcpd.Foundation

/-
  Player/ReferenceCounts.lean --- reference counts against the streams they count.

  `Exact` says that a map of reference counts is what counting the lists of some
  streams gives.  The map is read through `references`, the count of a list or 0,
  and `NoZero`, that no count of 0 is stored; on these the operations are plain
  addition and truncated subtraction.
-/
import Drcpd.Player.Data
import Drcpd.Player.QueueConsistency

set_option autoImplicit false

namespace Drcpd.Player

open Drcpd.Foundation OurStreamId List

variable {I D : Type}

/-! ## Counts -/

/-- The count of a list, 0 for a list without an entry. -/
def references (refs : ReferencedLists) (l : ListId) : Nat := (refs.lookup l).getD 0

/-- Every stored count is positive. -/
def NoZero (refs : ReferencedLists) : Prop := ∀ l, refs.lookup l ≠ some 0

/-- The number of streams from the list `l`. -/
def heldWith (streams : List (QueuedStream I D)) (l : ListId) : Nat :=
  streams.countP fun s => decide (s.listId = l)

/-- The map holds the number of streams of each list, and nothing for a list
without a stream. -/
def Exact (refs : ReferencedLists) (streams : List (QueuedStream I D)) : Prop :=
  ∀ l, refs.lookup l = if heldWith streams l = 0 then none else some (heldWith streams l)

theorem exact_iff {refs : ReferencedLists} {streams : List (QueuedStream I D)} :
    Exact refs streams ↔ NoZero refs ∧ ∀ l, references refs l = heldWith streams l := by
  constructor
  · intro h
    refine ⟨fun l hl => ?_, fun l => ?_⟩
    · rw [h l] at hl
      split at hl
      · cases hl
      · exact absurd (Option.some.inj hl) ‹_›
    · rw [references, h l]
      split
      · rw [Option.getD_none]
        exact Eq.symm ‹_›
      · rfl
  · rintro ⟨hzero, hcount⟩ l
    rw [← hcount l, references]
    cases hl : refs.lookup l with
    | none => simp
    | some n =>
        have hn : n ≠ 0 := by
          rintro rfl
          exact hzero l hl
        simp [hn]

@[simp] theorem heldWith_nil (l : ListId) : heldWith ([] : List (QueuedStream I D)) l = 0 := rfl

theorem heldWith_cons (s : QueuedStream I D) (streams : List (QueuedStream I D)) (l : ListId) :
    heldWith (s :: streams) l = heldWith streams l + if s.listId = l then 1 else 0 := by
  simp [heldWith, List.countP_cons]

theorem heldWith_append (a b : List (QueuedStream I D)) (l : ListId) :
    heldWith (a ++ b) l = heldWith a l + heldWith b l := List.countP_append

theorem heldWith_perm {a b : List (QueuedStream I D)} (h : a ~ b) (l : ListId) :
    heldWith a l = heldWith b l := h.countP_eq _

theorem heldWith_pos {streams : List (QueuedStream I D)} {l : ListId} :
    0 < heldWith streams l ↔ ∃ s ∈ streams, s.listId = l := by
  simp [heldWith, List.countP_pos_iff]

theorem exact_empty : Exact (∅ : ReferencedLists) ([] : List (QueuedStream I D)) := by
  intro l
  simp

/-! ## Counting up and down -/

theorem references_insert (refs : ReferencedLists) (l m : ListId) (n : Nat) :
    references (refs.insert l n) m = if l = m then n else references refs m := by
  unfold references
  by_cases h : l = m
  · subst h
    simp
  · rw [AList.lookup_insert_ne (Ne.symm h), if_neg h]

theorem references_erase (refs : ReferencedLists) (l m : ListId) :
    references (refs.erase l) m = if l = m then 0 else references refs m := by
  unfold references
  by_cases h : l = m
  · subst h
    simp
  · rw [AList.lookup_erase_ne (Ne.symm h), if_neg h]

theorem noZero_insert {refs : ReferencedLists} (h : NoZero refs) (l : ListId) {n : Nat}
    (hn : n ≠ 0) : NoZero (refs.insert l n) := by
  intro m
  by_cases hlm : m = l
  · subst hlm
    simpa using hn
  · rw [AList.lookup_insert_ne hlm]
    exact h m

theorem noZero_erase {refs : ReferencedLists} (h : NoZero refs) (l : ListId) :
    NoZero (refs.erase l) := by
  intro m
  by_cases hlm : m = l
  · subst hlm
    simp
  · rw [AList.lookup_erase_ne hlm]
    exact h m

/-- `ref_list_id` adds one to the count of its list. -/
theorem references_refListId (refs : ReferencedLists) (l m : ListId) :
    references (refListId refs l) m = references refs m + if l = m then 1 else 0 := by
  unfold refListId
  cases hl : refs.lookup l with
  | none =>
      rw [references_insert]
      split
      · subst m
        simp [references, hl]
      · rfl
  | some n =>
      rw [references_insert]
      split
      · subst m
        simp [references, hl]
      · rfl

/-- `unref_list_id` takes one from the count of its list, if there is one to take. -/
theorem references_unrefListId (refs : ReferencedLists) (l m : ListId) :
    references (unrefListId refs l) m = references refs m - if l = m then 1 else 0 := by
  unfold unrefListId
  cases hl : refs.lookup l with
  | none =>
      dsimp only
      split
      · subst m
        simp [references, hl]
      · rfl
  | some n =>
      dsimp only
      by_cases hlm : l = m
      · subst hlm
        split
        · rw [references_erase]
          simp only [references, hl, Option.getD_some, if_true]
          omega
        · rw [references_insert]
          simp [references, hl]
      · split
        · rw [references_erase, if_neg hlm, Nat.sub_zero]
        · rw [references_insert, if_neg hlm, Nat.sub_zero]

theorem noZero_refListId {refs : ReferencedLists} (h : NoZero refs) (l : ListId) :
    NoZero (refListId refs l) := by
  unfold refListId
  split
  · exact noZero_insert h l (by omega)
  · exact noZero_insert h l (by omega)

theorem noZero_unrefListId {refs : ReferencedLists} (h : NoZero refs) (l : ListId) :
    NoZero (unrefListId refs l) := by
  unfold unrefListId
  split
  · exact h
  · split
    · exact noZero_erase h l
    · exact noZero_insert h l ‹_›

/-- Appending a stream and counting its list. -/
theorem Exact.cons {refs : ReferencedLists} {streams : List (QueuedStream I D)}
    (h : Exact refs streams) (s : QueuedStream I D) :
    Exact (refListId refs s.listId) (s :: streams) := by
  rw [exact_iff] at h ⊢
  refine ⟨noZero_refListId h.1 _, fun l => ?_⟩
  rw [references_refListId, heldWith_cons, h.2 l]

/-! ## Streams that go -/

/-- The counts after `remove_data_for_stream` was called once for each stream. -/
def unrefOnce (gone : List (QueuedStream I D)) (refs : ReferencedLists) : ReferencedLists :=
  gone.foldl (fun r s => removeDataForStream s r) refs

/-- The counts after it was called twice for each stream. -/
def unrefTwice (gone : List (QueuedStream I D)) (refs : ReferencedLists) : ReferencedLists :=
  gone.foldl (fun r s => removeDataForStream s (removeDataForStream s r)) refs

theorem references_unrefOnce (gone : List (QueuedStream I D)) (refs : ReferencedLists)
    (l : ListId) : references (unrefOnce gone refs) l = references refs l - heldWith gone l := by
  unfold unrefOnce
  induction gone generalizing refs with
  | nil => simp
  | cons s rest ih =>
      rw [List.foldl_cons, ih, removeDataForStream, references_unrefListId, heldWith_cons]
      omega

theorem noZero_unrefOnce (gone : List (QueuedStream I D)) {refs : ReferencedLists}
    (h : NoZero refs) : NoZero (unrefOnce gone refs) := by
  unfold unrefOnce
  induction gone generalizing refs with
  | nil => exact h
  | cons s rest ih => exact ih (noZero_unrefListId h s.listId)

theorem references_unrefTwice (gone : List (QueuedStream I D)) (refs : ReferencedLists)
    (l : ListId) :
    references (unrefTwice gone refs) l = references refs l - 2 * heldWith gone l := by
  unfold unrefTwice
  induction gone generalizing refs with
  | nil => simp
  | cons s rest ih =>
      rw [List.foldl_cons, ih, removeDataForStream, references_unrefListId,
        removeDataForStream, references_unrefListId, heldWith_cons]
      split <;> omega

theorem noZero_unrefTwice (gone : List (QueuedStream I D)) {refs : ReferencedLists}
    (h : NoZero refs) : NoZero (unrefTwice gone refs) := by
  unfold unrefTwice
  induction gone generalizing refs with
  | nil => exact h
  | cons s rest ih =>
      exact ih (noZero_unrefListId (noZero_unrefListId h s.listId) s.listId)

/-- One call for each stream that goes keeps the counts exact. -/
theorem Exact.unrefOnce {refs : ReferencedLists} {held gone left : List (QueuedStream I D)}
    (h : Exact refs held) (hperm : held ~ gone ++ left) : Exact (unrefOnce gone refs) left := by
  rw [exact_iff] at h ⊢
  refine ⟨noZero_unrefOnce gone h.1, fun l => ?_⟩
  have hheld := heldWith_perm hperm l
  rw [heldWith_append] at hheld
  rw [references_unrefOnce, h.2 l]
  omega

/-- Two calls for each stream that goes keep the counts exact only where every list
loses none or all of its streams: the count of a list that loses `r` of `n` becomes
`n - 2 * r`, cut off at 0. -/
theorem exact_unrefTwice_iff {refs : ReferencedLists} {held gone left : List (QueuedStream I D)}
    (h : Exact refs held) (hperm : held ~ gone ++ left) :
    Exact (unrefTwice gone refs) left ↔ ∀ s ∈ gone, ∀ t ∈ left, s.listId ≠ t.listId := by
  rw [exact_iff] at h ⊢
  have hcount : ∀ l, references (unrefTwice gone refs) l =
      heldWith gone l + heldWith left l - 2 * heldWith gone l := by
    intro l
    rw [references_unrefTwice, h.2 l, heldWith_perm hperm l, heldWith_append]
  constructor
  · rintro ⟨-, hexact⟩ s hs t ht hst
    have hgone : 0 < heldWith gone s.listId := heldWith_pos.mpr ⟨s, hs, rfl⟩
    have hleft : 0 < heldWith left s.listId := heldWith_pos.mpr ⟨t, ht, hst.symm⟩
    have := hexact s.listId
    rw [hcount] at this
    omega
  · intro hapart
    refine ⟨noZero_unrefTwice gone h.1, fun l => ?_⟩
    rw [hcount]
    rcases Nat.eq_zero_or_pos (heldWith gone l) with hgone | hgone
    · omega
    · rcases Nat.eq_zero_or_pos (heldWith left l) with hleft | hleft
      · omega
      · obtain ⟨s, hs, hsl⟩ := heldWith_pos.mp hgone
        obtain ⟨t, ht, htl⟩ := heldWith_pos.mp hleft
        exact absurd (hsl.trans htl.symm) (hapart s hs t ht)

/-- Two calls for each stream that goes, and one for each that is left: nothing is
counted any more, whatever the lists. -/
theorem exact_unrefTwice_unrefOnce {refs : ReferencedLists}
    {held gone left : List (QueuedStream I D)} (h : Exact refs held)
    (hperm : held ~ gone ++ left) :
    Exact (unrefOnce left (unrefTwice gone refs)) ([] : List (QueuedStream I D)) := by
  rw [exact_iff] at h ⊢
  refine ⟨noZero_unrefOnce _ (noZero_unrefTwice _ h.1), fun l => ?_⟩
  rw [references_unrefOnce, references_unrefTwice, h.2 l, heldWith_perm hperm l,
    heldWith_append, heldWith_nil]
  omega

end Drcpd.Player

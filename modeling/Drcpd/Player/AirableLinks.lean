/-
  Player/AirableLinks.lean --- the links of a stream in the order in which they are to be tried
  (`airable_links.cc`, `airable_links.hh`), and the URIs that are sent to the player
  (`mk_stream_uris`).

  A pointer into `backing_store_` is the index of a link.  The order in which `std::sort` leaves
  links that are equal for the comparison is not known, so the function is a parameter.
-/
import Drcpd.Foundation.StrictWeakOrder
import Mathlib.Data.Prod.Lex

set_option autoImplicit false

namespace Drcpd.Player

open Foundation (StrictWeakOrder SortsAll)

/-- `Airable::RankedLink`. -/
structure RankedLink where
  rank : Nat
  bitrateBitsPerSecond : Nat
  link : String
  deriving DecidableEq, Repr, Inhabited

namespace RankedLink

/-- The comparison of links that can be played without stuttering. -/
def playableBefore (a b : RankedLink) : Bool :=
  if a.rank ≠ b.rank then decide (b.rank < a.rank)
  else if a.bitrateBitsPerSecond ≠ b.bitrateBitsPerSecond then
    decide (b.bitrateBitsPerSecond < a.bitrateBitsPerSecond)
  else false

/-- The comparison of the other ones. -/
def stutteringBefore (a b : RankedLink) : Bool :=
  if a.bitrateBitsPerSecond ≠ b.bitrateBitsPerSecond then
    decide (a.bitrateBitsPerSecond < b.bitrateBitsPerSecond)
  else if a.rank ≠ b.rank then decide (b.rank < a.rank)
  else false

end RankedLink

/-- `Airable::SortedLinks`. -/
structure SortedLinks where
  isFinalized : Bool := false
  backingStore : List RankedLink := []
  playable : List Nat := []
  stuttering : List Nat := []
  deriving DecidableEq, Repr

namespace SortedLinks

/-- `size`. -/
def size (s : SortedLinks) : Nat := s.backingStore.length

/-- The link a pointer stands for. -/
def linkAt (s : SortedLinks) (i : Nat) : RankedLink := s.backingStore.getD i default

/-- `add`; its assertion only logs. -/
def add (s : SortedLinks) (link : RankedLink) : SortedLinks :=
  { s with backingStore := s.backingStore ++ [link] }

/-- `finalize`; its assertion only logs. -/
def finalize (sort : (Nat → Nat → Bool) → List Nat → List Nat) (isBitrateInRange : Nat → Bool)
    (s : SortedLinks) : SortedLinks :=
  let s := { s with isFinalized := true }
  if s.backingStore.isEmpty then s
  else
    let inRange := fun i => isBitrateInRange (s.linkAt i).bitrateBitsPerSecond
    let indices := List.range s.size
    { s with
      playable := sort (fun a b => (s.linkAt a).playableBefore (s.linkAt b))
        (s.playable ++ indices.filter inRange)
      stuttering := sort (fun a b => (s.linkAt a).stutteringBefore (s.linkAt b))
        (s.stuttering ++ indices.filter fun i => !inRange i) }

/-- The links added one after the other. -/
def ofLinks (links : List RankedLink) : SortedLinks := links.foldl add {}

/-! ## Iterators -/

/-- What `current_vector_` points to. -/
inductive CurrentVector
  | playable
  | stuttering
  deriving DecidableEq, Repr

/-- `SortedLinks::const_iterator`, for the links it belongs to. -/
structure ConstIterator where
  idx : Nat
  endIdx : Nat
  currentVector : CurrentVector
  currentVectorIndex : Nat
  deriving DecidableEq, Repr

/-- `begin`. -/
def begin (s : SortedLinks) : ConstIterator where
  idx := 0
  endIdx := s.playable.length + s.stuttering.length
  currentVector := if s.playable.isEmpty then .stuttering else .playable
  currentVectorIndex := 0

/-- The index of `end`, with which iterators are compared. -/
def endIdx (s : SortedLinks) : Nat := s.playable.length + s.stuttering.length

namespace ConstIterator

/-- `operator++`. -/
def next (s : SortedLinks) (it : ConstIterator) : ConstIterator :=
  if it.endIdx ≤ it.idx then it
  else
    let it := { it with idx := it.idx + 1, currentVectorIndex := it.currentVectorIndex + 1 }
    if it.currentVector = .playable ∧ it.currentVectorIndex = s.playable.length then
      { it with currentVector := .stuttering, currentVectorIndex := 0 }
    else it

/-- `operator--`. -/
def previous (s : SortedLinks) (it : ConstIterator) : ConstIterator :=
  if it.idx = 0 then it
  else
    let it := { it with idx := it.idx - 1 }
    if 0 < it.currentVectorIndex then { it with currentVectorIndex := it.currentVectorIndex - 1 }
    else
      { it with currentVector := .playable, currentVectorIndex := s.playable.length - 1 }

/-- `operator*`, unless it is beyond the vector. -/
def get? (s : SortedLinks) (it : ConstIterator) : Option Nat :=
  match it.currentVector with
  | .playable => s.playable[it.currentVectorIndex]?
  | .stuttering => s.stuttering[it.currentVectorIndex]?

/-- An iterator after steps forward and back. -/
def walk (s : SortedLinks) : List Bool → ConstIterator → ConstIterator
  | [], it => it
  | forward :: steps, it => walk s steps (if forward then it.next s else it.previous s)

end ConstIterator

/-- The links of a loop to `end`, for no more than that many turns. -/
def iterate (s : SortedLinks) : Nat → ConstIterator → Option (List Nat)
  | 0, _ => none
  | turns + 1, it =>
      if it.idx ≠ s.endIdx then
        (it.get? s).bind fun i => (iterate s turns (it.next s)).map (i :: ·)
      else some []

/-- `mk_stream_uris`: the URIs, and which of them are links. -/
def mkStreamUris (directUris : List String) (airableLinks : SortedLinks) (turns : Nat) :
    Option (List (String × Bool)) :=
  if directUris.isEmpty then
    if airableLinks.size = 1 then
      (airableLinks.begin.get? airableLinks).map fun i => [((airableLinks.linkAt i).link, true)]
    else
      (iterate airableLinks turns airableLinks.begin).map fun visited =>
        visited.map fun i => ((airableLinks.linkAt i).link, true)
  else some (directUris.map fun uri => (uri, false))

/-! ## What is claimed of them -/

/-- The order of links within the limit. -/
def PlayableOrder (a b : RankedLink) : Prop :=
  b.rank < a.rank ∨ a.rank = b.rank ∧ b.bitrateBitsPerSecond ≤ a.bitrateBitsPerSecond

/-- The order of links beyond the limit. -/
def StutteringOrder (a b : RankedLink) : Prop :=
  a.bitrateBitsPerSecond < b.bitrateBitsPerSecond ∨
    a.bitrateBitsPerSecond = b.bitrateBitsPerSecond ∧ b.rank ≤ a.rank

/-- All links, each once, the ones within the limit first, and both parts in their order. -/
structure InOrder (s : SortedLinks) (isBitrateInRange : Nat → Bool) (visited : List Nat) :
    Prop where
  all : visited.Perm (List.range s.size)
  parts : ∃ within beyond, visited = within ++ beyond ∧
    (∀ i ∈ within, isBitrateInRange (s.linkAt i).bitrateBitsPerSecond = true) ∧
    (∀ i ∈ beyond, isBitrateInRange (s.linkAt i).bitrateBitsPerSecond = false) ∧
    (within.Pairwise fun i j => PlayableOrder (s.linkAt i) (s.linkAt j)) ∧
    beyond.Pairwise fun i j => StutteringOrder (s.linkAt i) (s.linkAt j)

/-- The links are visited in order, and they are what is sent to the player. -/
def VisitsInOrder (s : SortedLinks) (isBitrateInRange : Nat → Bool) : Prop :=
  ∃ turns visited, s.iterate turns s.begin = some visited ∧
    s.InOrder isBitrateInRange visited ∧
    mkStreamUris [] s turns = some (visited.map fun i => ((s.linkAt i).link, true))

/-- The iterator at a position. -/
def iteratorAt (s : SortedLinks) (position : Nat) : ConstIterator where
  idx := position
  endIdx := s.endIdx
  currentVector := if position < s.playable.length then .playable else .stuttering
  currentVectorIndex :=
    if position < s.playable.length then position else position - s.playable.length

/-! ## Sorting -/

theorem ofLinks_eq (links : List RankedLink) : ofLinks links = { backingStore := links } := by
  have hfold : ∀ (links : List RankedLink) (s : SortedLinks),
      links.foldl add s = { s with backingStore := s.backingStore ++ links } := by
    intro links
    induction links with
    | nil =>
      intro s
      rw [List.append_nil]
      rfl
    | cons link links ih =>
      intro s
      rw [List.foldl_cons, ih, add, List.append_assoc, List.singleton_append]
  rw [ofLinks, hfold]
  rfl

theorem playableBefore_strictWeakOrder (s : SortedLinks) :
    StrictWeakOrder fun a b => (s.linkAt a).playableBefore (s.linkAt b) := by
  refine StrictWeakOrder.of_key (fun i => toLex (OrderDual.toDual (s.linkAt i).rank,
    OrderDual.toDual (s.linkAt i).bitrateBitsPerSecond)) fun a b => ?_
  rw [Prod.Lex.toLex_lt_toLex]
  simp only [OrderDual.toDual_lt_toDual, OrderDual.toDual_inj]
  unfold RankedLink.playableBefore
  split_ifs with hrank hrate
  · rw [decide_eq_true_iff]
    omega
  · rw [decide_eq_true_iff]
    omega
  · exact iff_of_false not_false (by omega)

theorem stutteringBefore_strictWeakOrder (s : SortedLinks) :
    StrictWeakOrder fun a b => (s.linkAt a).stutteringBefore (s.linkAt b) := by
  refine StrictWeakOrder.of_key (fun i => toLex ((s.linkAt i).bitrateBitsPerSecond,
    OrderDual.toDual (s.linkAt i).rank)) fun a b => ?_
  rw [Prod.Lex.toLex_lt_toLex]
  simp only [OrderDual.toDual_lt_toDual]
  unfold RankedLink.stutteringBefore
  split_ifs with hrate hrank
  · rw [decide_eq_true_iff]
    omega
  · rw [decide_eq_true_iff]
    omega
  · exact iff_of_false not_false (by omega)

theorem playableOrder_of_not_before {a b : RankedLink} (h : b.playableBefore a = false) :
    PlayableOrder a b := by
  unfold RankedLink.playableBefore at h
  unfold PlayableOrder
  split_ifs at h with hrank hrate
  · rw [decide_eq_false_iff_not] at h
    omega
  · rw [decide_eq_false_iff_not] at h
    omega
  · omega

theorem stutteringOrder_of_not_before {a b : RankedLink} (h : b.stutteringBefore a = false) :
    StutteringOrder a b := by
  unfold RankedLink.stutteringBefore at h
  unfold StutteringOrder
  split_ifs at h with hrate hrank
  · rw [decide_eq_false_iff_not] at h
    omega
  · rw [decide_eq_false_iff_not] at h
    omega
  · omega

section Finalized

variable {sort : (Nat → Nat → Bool) → List Nat → List Nat} (hsort : SortsAll sort)
  (links : List RankedLink) (isBitrateInRange : Nat → Bool)

/-- The links after `finalize`. -/
def finalized (sort : (Nat → Nat → Bool) → List Nat → List Nat) (links : List RankedLink)
    (isBitrateInRange : Nat → Bool) : SortedLinks :=
  (ofLinks links).finalize sort isBitrateInRange

theorem backingStore_finalized : (finalized sort links isBitrateInRange).backingStore = links := by
  unfold finalized finalize
  rw [ofLinks_eq]
  dsimp only
  split_ifs <;> rfl

theorem linkAt_finalized (i : Nat) :
    (finalized sort links isBitrateInRange).linkAt i = links.getD i default := by
  unfold linkAt
  rw [backingStore_finalized]

include hsort

/-- The links within the limit are sorted in their order. -/
theorem playable_finalized :
    (finalized sort links isBitrateInRange).playable.Perm ((List.range links.length).filter
      fun i => isBitrateInRange (links.getD i default).bitrateBitsPerSecond) ∧
    (finalized sort links isBitrateInRange).playable.Pairwise
      fun i j => PlayableOrder (links.getD i default) (links.getD j default) := by
  unfold finalized finalize
  rw [ofLinks_eq]
  by_cases hempty : links.isEmpty
  · rw [List.isEmpty_iff.mp hempty]
    exact ⟨.refl _, .nil⟩
  · dsimp only
    rw [if_neg hempty]
    obtain ⟨hperm, hsorted⟩ := hsort _
      (playableBefore_strictWeakOrder { isFinalized := true, backingStore := links })
      ([] ++ (List.range links.length).filter
        fun i => isBitrateInRange (links.getD i default).bitrateBitsPerSecond)
    exact ⟨hperm, hsorted.imp playableOrder_of_not_before⟩

/-- The links beyond the limit are sorted in theirs. -/
theorem stuttering_finalized :
    (finalized sort links isBitrateInRange).stuttering.Perm ((List.range links.length).filter
      fun i => !isBitrateInRange (links.getD i default).bitrateBitsPerSecond) ∧
    (finalized sort links isBitrateInRange).stuttering.Pairwise
      fun i j => StutteringOrder (links.getD i default) (links.getD j default) := by
  unfold finalized finalize
  rw [ofLinks_eq]
  by_cases hempty : links.isEmpty
  · rw [List.isEmpty_iff.mp hempty]
    exact ⟨.refl _, .nil⟩
  · dsimp only
    rw [if_neg hempty]
    obtain ⟨hperm, hsorted⟩ := hsort _
      (stutteringBefore_strictWeakOrder { isFinalized := true, backingStore := links })
      ([] ++ (List.range links.length).filter
        fun i => !isBitrateInRange (links.getD i default).bitrateBitsPerSecond)
    exact ⟨hperm, hsorted.imp stutteringOrder_of_not_before⟩

/-- Both vectors together are in order. -/
theorem inOrder_finalized :
    let s := finalized sort links isBitrateInRange
    s.InOrder isBitrateInRange (s.playable ++ s.stuttering) := by
  obtain ⟨hplayable, hwithin⟩ := playable_finalized hsort links isBitrateInRange
  obtain ⟨hstuttering, hbeyond⟩ := stuttering_finalized hsort links isBitrateInRange
  refine ⟨?_, _, _, rfl, fun i hi => ?_, fun i hi => ?_, ?_, ?_⟩
  · rw [size, backingStore_finalized]
    exact (hplayable.append hstuttering).trans (List.filter_append_perm _ _)
  · rw [linkAt_finalized]
    exact (List.mem_filter.mp (hplayable.mem_iff.mp hi)).2
  · rw [linkAt_finalized]
    simpa using (List.mem_filter.mp (hstuttering.mem_iff.mp hi)).2
  · simpa only [linkAt_finalized] using hwithin
  · simpa only [linkAt_finalized] using hbeyond

end Finalized

/-! ## Positions -/

section Positions

variable (s : SortedLinks)

theorem begin_eq : s.begin = s.iteratorAt 0 := by
  unfold begin iteratorAt endIdx
  cases s.playable with
  | nil => rfl
  | cons i playable => rfl

theorem next_iteratorAt {position : Nat} (h : position < s.endIdx) :
    (s.iteratorAt position).next s = s.iteratorAt (position + 1) := by
  unfold ConstIterator.next iteratorAt
  dsimp only
  rw [if_neg (Nat.not_le_of_lt h)]
  by_cases hplayable : position + 1 < s.playable.length
  · have hnow : position < s.playable.length := by omega
    simp [hplayable, hnow, Nat.ne_of_lt hplayable]
  · by_cases hnow : position < s.playable.length
    · have hborder : position + 1 = s.playable.length := by omega
      simp [hnow, hborder]
    · have hindex : position - s.playable.length + 1 = position + 1 - s.playable.length := by
        omega
      simp [hplayable, hnow, hindex]

theorem next_iteratorAt_end : (s.iteratorAt s.endIdx).next s = s.iteratorAt s.endIdx :=
  if_pos (Nat.le_refl _)

theorem previous_iteratorAt (position : Nat) :
    (s.iteratorAt position).previous s = s.iteratorAt (position - 1) := by
  unfold ConstIterator.previous iteratorAt
  dsimp only
  by_cases hzero : position = 0
  · rw [if_pos hzero, hzero]
  · rw [if_neg hzero]
    by_cases hnow : position < s.playable.length
    · have hbefore : position - 1 < s.playable.length := by omega
      simp [hnow, hbefore, Nat.pos_of_ne_zero hzero]
    · by_cases hborder : position = s.playable.length
      · have hbefore : position - 1 < s.playable.length := by omega
        rw [if_neg hnow, if_neg hnow, if_pos hbefore, if_pos hbefore, hborder, Nat.sub_self,
          if_neg (Nat.lt_irrefl 0)]
      · have hbefore : ¬position - 1 < s.playable.length := by omega
        have hindex : position - s.playable.length - 1 = position - 1 - s.playable.length := by
          omega
        simp [hnow, hbefore, hindex]
        omega

/-- Every iterator that is reached is at a position. -/
theorem walk_iteratorAt (steps : List Bool) {position : Nat} (h : position ≤ s.endIdx) :
    ∃ reached ≤ s.endIdx, ConstIterator.walk s steps (s.iteratorAt position) =
      s.iteratorAt reached := by
  induction steps generalizing position with
  | nil => exact ⟨position, h, rfl⟩
  | cons forward steps ih =>
    unfold ConstIterator.walk
    cases forward with
    | false =>
      rw [if_neg Bool.false_ne_true, previous_iteratorAt]
      exact ih (Nat.le_trans (Nat.sub_le ..) h)
    | true =>
      rw [if_pos rfl]
      rcases Nat.lt_or_eq_of_le h with hlt | rfl
      · rw [next_iteratorAt s hlt]
        exact ih hlt
      · rw [next_iteratorAt_end]
        exact ih (Nat.le_refl _)

theorem get?_iteratorAt (position : Nat) :
    (s.iteratorAt position).get? s = (s.playable ++ s.stuttering)[position]? := by
  unfold ConstIterator.get? iteratorAt
  by_cases hplayable : position < s.playable.length
  · simp [hplayable, List.getElem?_append_left hplayable]
  · simp [hplayable, List.getElem?_append_right (Nat.le_of_not_lt hplayable)]

/-- A loop from a position visits what is left. -/
theorem iterate_iteratorAt (left : Nat) {position turns : Nat} (hleft : position + left = s.endIdx)
    (hturns : left < turns) :
    s.iterate turns (s.iteratorAt position) =
      some ((s.playable ++ s.stuttering).drop position) := by
  have hlength : (s.playable ++ s.stuttering).length = s.endIdx := List.length_append
  induction left generalizing position turns with
  | zero =>
    obtain ⟨turns, rfl⟩ := Nat.exists_eq_succ_of_ne_zero (Nat.ne_of_gt hturns)
    have hstop : ¬(s.iteratorAt position).idx ≠ s.endIdx := fun hne => hne hleft
    rw [iterate, if_neg hstop, List.drop_of_length_le (by omega)]
  | succ left ih =>
    obtain ⟨turns, rfl⟩ := Nat.exists_eq_succ_of_ne_zero (Nat.ne_zero_of_lt hturns)
    have hgo : (s.iteratorAt position).idx ≠ s.endIdx := by
      change position ≠ s.endIdx
      omega
    have hposition : position < (s.playable ++ s.stuttering).length := by omega
    rw [iterate, if_pos hgo, get?_iteratorAt, List.getElem?_eq_getElem hposition,
      Option.bind_some, next_iteratorAt s (by omega), ih (by omega) (by omega),
      List.drop_eq_getElem_cons hposition]
    rfl

theorem iterate_begin : s.iterate (s.endIdx + 1) s.begin =
    some (s.playable ++ s.stuttering) := by
  rw [begin_eq, iterate_iteratorAt s s.endIdx (Nat.zero_add _) (Nat.lt_succ_self _)]
  rfl

end Positions

/-! ## Iterating over sorted links -/

section Sorted

variable {sort : (Nat → Nat → Bool) → List Nat → List Nat} (hsort : SortsAll sort)
  (links : List RankedLink) (isBitrateInRange : Nat → Bool)

include hsort

/-- All links are visited in order, and sent to the player in this order. -/
theorem visitsInOrder_finalized :
    (finalized sort links isBitrateInRange).VisitsInOrder isBitrateInRange := by
  have horder := inOrder_finalized hsort links isBitrateInRange
  generalize finalized sort links isBitrateInRange = s at horder
  have hloop := s.iterate_begin
  refine ⟨_, _, hloop, horder, ?_⟩
  unfold mkStreamUris
  rw [if_pos List.isEmpty_nil]
  split_ifs with hone
  · -- the only link is the one at the begin
    have hlength : (s.playable ++ s.stuttering).length = 1 := by
      rw [horder.all.length_eq, List.length_range, hone]
    obtain ⟨i, hi⟩ := List.length_eq_one_iff.mp hlength
    rw [begin_eq, get?_iteratorAt, hi]
    rfl
  · rw [hloop]
    rfl

end Sorted

/-- For all links and limits: after `finalize` the links are visited in order and sent to the
player; and from every position that is reached but the end, going on is undone by going back. -/
theorem sorted_links_visited_in_order {sort : (Nat → Nat → Bool) → List Nat → List Nat}
    (hsort : SortsAll sort) (links : List RankedLink) (isBitrateInRange : Nat → Bool) :
    let s := (ofLinks links).finalize sort isBitrateInRange
    s.VisitsInOrder isBitrateInRange ∧
      ∀ steps, let it := ConstIterator.walk s steps s.begin
        (it.idx ≠ s.endIdx → (it.next s).previous s = it) ∧
          (it.idx = s.endIdx → it.next s = it) := by
  intro s
  refine ⟨visitsInOrder_finalized hsort links isBitrateInRange, fun steps => ?_⟩
  obtain ⟨position, hle, hposition⟩ := s.walk_iteratorAt steps (Nat.zero_le s.endIdx)
  rw [begin_eq, hposition]
  constructor
  · intro hne
    rw [next_iteratorAt s (Nat.lt_of_le_of_ne hle hne), previous_iteratorAt, Nat.add_sub_cancel]
  · intro hend
    change position = s.endIdx at hend
    rw [hend, next_iteratorAt_end]

/-- A link within the limit and one beyond it. -/
theorem sorted_links_visited_two :
    let s := (ofLinks [⟨1, 320000, "high"⟩, ⟨2, 128000, "low"⟩]).finalize
      (fun before links => links.mergeSort fun a b => !before b a) (· ≤ 200000)
    s.VisitsInOrder (· ≤ 200000) ∧
      ∀ steps, let it := ConstIterator.walk s steps s.begin
        (it.idx ≠ s.endIdx → (it.next s).previous s = it) ∧
          (it.idx = s.endIdx → it.next s = it) :=
  sorted_links_visited_in_order Foundation.sortsAll_mergeSort _ _

/-- At the end, going on does nothing, and going back leads to the only link. -/
theorem previous_after_end :
    ¬∀ sort, SortsAll sort → ∀ (links : List RankedLink) (isBitrateInRange : Nat → Bool),
      let s := (ofLinks links).finalize sort isBitrateInRange
      s.VisitsInOrder isBitrateInRange ∧
        ∀ steps, let it := ConstIterator.walk s steps s.begin
          (it.next s).previous s = it := by
  intro h
  have hundone := (h _ Foundation.sortsAll_mergeSort [⟨1, 320000, "only"⟩] fun _ => true).2 [true]
  simp [ofLinks, add, finalize, size, ConstIterator.walk, ConstIterator.next,
    ConstIterator.previous, begin] at hundone

end SortedLinks

end Drcpd.Player

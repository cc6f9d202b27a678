/-
  Search/BinarySearchEnds.lean --- when the binary search ends.

  Every turn of a loop makes the partition smaller, or moves the center of a partition of two
  elements down, except for the branch for items that are shorter than the search depth: it
  leaves a partition as it is whose center is its bottom.  The turns come back to the same state
  then.
-/
import Drcpd.Search.BinarySearch

set_option autoImplicit false

namespace Drcpd.Search

open Foundation (Ends)

/-! ## Strings -/

namespace ComparedString

theorem length_le_length_casefold {foldChar : Nat → List Nat} (hfold : ∀ ch, foldChar ch ≠ [])
    (text : List Nat) : text.length ≤ (casefold foldChar text).length := by
  induction text with
  | nil => simp
  | cons ch text ih =>
      have hpos := List.length_pos_iff.mpr (hfold ch)
      simp only [casefold, List.flatMap_cons, List.length_append, List.length_cons] at ih ⊢
      omega

/-- There is a character, or the end of the string, at each index up to the length. -/
theorem exists_getCharAt {foldChar : Nat → List Nat} (hfold : ∀ ch, foldChar ch ≠ [])
    {text : List Nat} {idx : Nat} (hidx : idx ≤ (set foldChar text).length)
    (hnot : ¬((set foldChar text).length = 0 ∧ idx = 0)) :
    ∃ ch, (set foldChar text).getCharAt idx = some ch := by
  have hlength := length_le_length_casefold hfold (cString text)
  by_cases hpos : 0 < (cString text).length
  · simp only [set, hpos, if_true, length] at hidx
    have hlt : idx < (casefold foldChar (cString text) ++ [0]).length := by
      rw [List.length_append, List.length_singleton]
      omega
    refine ⟨(casefold foldChar (cString text) ++ [0])[idx], ?_⟩
    simp [set, hpos, getCharAt, List.getElem?_eq_getElem hlt]
  · have hzero : (set foldChar text).length = 0 := by simp [set, hpos, length]
    exact absurd ⟨hzero, by omega⟩ hnot

/-- There is no string where there are no characters. -/
theorem getCharAt_of_empty {foldChar : Nat → List Nat} {text : List Nat}
    (hlength : (set foldChar text).length = 0) (idx : Nat) :
    (set foldChar text).getCharAt idx = none := by
  have hnot : ¬0 < (cString text).length := by
    intro hpos
    simp only [set, hpos, if_true, length] at hlength
    omega
  simp [set, hnot, getCharAt]

end ComparedString

/-! ## Partitions -/

namespace Partition

/-- The partition is not empty, and its center is where it is computed to be. -/
structure Centered (p : Partition) : Prop where
  nonempty : p.top ≤ p.bottom
  center : p.center = p.computeCenter

theorem Centered.top_le {p : Partition} (h : p.Centered) : p.top ≤ p.center := by
  rw [h.center, computeCenter]
  omega

theorem Centered.le_bottom {p : Partition} (h : p.Centered) : p.center ≤ p.bottom := by
  have := h.nonempty
  rw [h.center, computeCenter]
  omega

/-- Only the center of a single element is at the bottom. -/
theorem Centered.lt_bottom_iff {p : Partition} (h : p.Centered) :
    p.center < p.bottom ↔ p.top < p.bottom := by
  have := h.nonempty
  rw [h.center, computeCenter]
  omega

theorem Centered.top_lt {p : Partition} (h : p.Centered) (hsize : p.top + 2 ≤ p.bottom) :
    p.top < p.center := by
  rw [h.center, computeCenter]
  omega

theorem Centered.center_eq {p p' : Partition} (h : p.Centered) (h' : p'.Centered)
    (htop : p.top = p'.top) (hbottom : p.bottom = p'.bottom) : p.center = p'.center := by
  rw [h.center, h'.center, computeCenter, computeCenter, htop, hbottom]

theorem updateCenter_eq (p : Partition) :
    p.updateCenter.2 = { p with center := p.computeCenter } ∧
      (p.updateCenter.1 = .searching ∨ p.updateCenter.1 = .checkingBoundary) := by
  by_cases heq : p.top = p.bottom
  · simp [updateCenter, isUnique, heq, computeCenter]
  · simp [updateCenter, isUnique, heq]

/-- The partition from `top` to `bottom`. -/
def between (top bottom : Nat) : Partition := ⟨top, bottom, top + (bottom - top) / 2⟩

theorem centered_between {top bottom : Nat} (h : top ≤ bottom) : (between top bottom).Centered :=
  ⟨h, rfl⟩

theorem Centered.eq_between {p : Partition} (h : p.Centered) : p = between p.top p.bottom := by
  obtain ⟨top, bottom, center⟩ := p
  simpa [between, computeCenter] using h.center

theorem pickTopHalf_eq (p : Partition) :
    (p.pickTopHalf 0).2 = between p.top p.center ∧
      ((p.pickTopHalf 0).1 = .searching ∨ (p.pickTopHalf 0).1 = .checkingBoundary) :=
  updateCenter_eq { p with bottom := p.center - 0 }

theorem pickBottomHalf_eq (p : Partition) :
    (p.pickBottomHalf 0).2 = between p.center p.bottom ∧
      ((p.pickBottomHalf 0).1 = .searching ∨ (p.pickBottomHalf 0).1 = .checkingBoundary) :=
  updateCenter_eq { p with top := p.center + 0 }

/-- What is left to be done in a loop. -/
def work (p : Partition) : Nat := 2 * (p.bottom - p.top) + if p.center < p.bottom then 1 else 0

theorem work_lt_of_shorter {p p' : Partition} (h : p'.bottom - p'.top < p.bottom - p.top) :
    p'.work < p.work := by
  unfold work
  split <;> split <;> omega

theorem work_lt_of_same {p p' : Partition} (htop : p'.top = p.top) (hbottom : p'.bottom = p.bottom)
    (hcenter : p.center < p.bottom) (hcenter' : ¬p'.center < p'.bottom) : p'.work < p.work := by
  simp [work, htop, hbottom, hcenter, hbottom ▸ hcenter']

end Partition

/-! ## Picking halves -/

namespace BSearchState

variable {s : BSearchState} {ch : Nat}

@[simp] theorem narrowLower_upper : (s.narrowLower ch).upper = s.upper := by
  unfold narrowLower
  split
  · split <;> rfl
  · split <;> rfl

@[simp] theorem narrowLower_utf8Key : (s.narrowLower ch).utf8Key = s.utf8Key := by
  unfold narrowLower
  split
  · split <;> rfl
  · split <;> rfl

@[simp] theorem narrowLower_bottomCandidate :
    (s.narrowLower ch).bottomCandidate = s.bottomCandidate := by
  unfold narrowLower
  split
  · split <;> rfl
  · split <;> rfl

theorem narrowLower_of_le (hle : ch ≤ s.utf8Key) (hlt : s.lower.top < s.upper.center) :
    s.narrowLower ch = { s with lower := .between s.lower.center s.lower.bottom } := by
  simp [narrowLower, Boundary.isUtf8CharacterGreater, hle, hlt, (s.lower.pickBottomHalf_eq).1]

theorem narrowLower_of_apart (hle : ch ≤ s.utf8Key) (hge : s.upper.center ≤ s.lower.top) :
    s.narrowLower ch = s := by
  simp [narrowLower, Boundary.isUtf8CharacterGreater, hle, Nat.not_lt.mpr hge]

theorem narrowLower_of_lt (hlt : s.utf8Key < ch) (hbottom : s.upper.center < s.lower.bottom) :
    s.narrowLower ch = { s with lower := .between s.lower.top s.lower.center } := by
  simp [narrowLower, Boundary.isUtf8CharacterGreater, Nat.not_le.mpr hlt, hbottom,
    (s.lower.pickTopHalf_eq).1]

theorem pickHalf_topMost_of_le (hle : s.utf8Key ≤ ch) :
    ∃ r, (r = .searching ∨ r = .checkingBoundary) ∧
      (s.narrowLower ch).pickHalf .topMost ch =
        (r, { s.narrowLower ch with upper := .between s.upper.top s.upper.center }) := by
  obtain ⟨hpicked, hresult⟩ := s.upper.pickTopHalf_eq
  refine ⟨_, hresult, ?_⟩
  simp [pickHalf, Boundary.isUtf8CharacterGreater, hle, partition, setPartition, hpicked]

theorem pickHalf_topMost_of_lt (hlt : ch < s.utf8Key) :
    ∃ r, (r = .searching ∨ r = .checkingBoundary) ∧
      (s.narrowLower ch).pickHalf .topMost ch =
        (r, { s.narrowLower ch with upper := .between s.upper.center s.upper.bottom }) := by
  obtain ⟨hpicked, hresult⟩ := s.upper.pickBottomHalf_eq
  refine ⟨_, hresult, ?_⟩
  have hdead : ¬s.utf8Key < ch := Nat.not_lt.mpr (Nat.le_of_lt hlt)
  simp [pickHalf, Boundary.isUtf8CharacterGreater, Nat.not_le.mpr hlt, hdead, partition,
    setPartition, hpicked]

theorem pickHalf_bottomMost_of_lt (hlt : s.utf8Key < ch) :
    ∃ r, (r = .searching ∨ r = .checkingBoundary) ∧
      s.pickHalf .bottomMost ch =
        (r, { s with lower := .between s.lower.top s.lower.center }) := by
  obtain ⟨hpicked, hresult⟩ := s.lower.pickTopHalf_eq
  refine ⟨_, hresult, ?_⟩
  simp [pickHalf, Boundary.isUtf8CharacterGreater, hlt, partition, setPartition, hpicked]

theorem pickHalf_bottomMost_of_le (hle : ch ≤ s.utf8Key) :
    ∃ r, (r = .searching ∨ r = .checkingBoundary) ∧
      s.pickHalf .bottomMost ch =
        (r, { s with lower := .between s.lower.center s.lower.bottom }) := by
  obtain ⟨hpicked, hresult⟩ := s.lower.pickBottomHalf_eq
  refine ⟨_, hresult, ?_⟩
  simp [pickHalf, Boundary.isUtf8CharacterGreater, Nat.not_lt.mpr hle, partition, setPartition,
    hpicked]

end BSearchState

/-! ## Invariants -/

namespace SearchedList

variable (list : SearchedList)

/-- The item at the position has the character `ch` at the search depth. -/
def HasChar (s : BSearchState) (position ch : Nat) : Prop :=
  ∃ cs, list.getCasefoldedString position = some cs ∧ s.depth ≤ cs.length ∧
    cs.getCharAt s.depth = some ch

variable {list} in
theorem HasChar.eq {s : BSearchState} {position ch ch' : Nat} (h : list.HasChar s position ch)
    (h' : list.HasChar s position ch') : ch = ch' := by
  obtain ⟨cs, hcs, -, hch⟩ := h
  obtain ⟨cs', hcs', -, hch'⟩ := h'
  obtain rfl := Option.some.inj (hcs.symm.trans hcs')
  exact Option.some.inj (hch.symm.trans hch')

/-- The center of a partition of two elements has moved down, since the upper one is too small,
or is a candidate for the bottom-most match. -/
def SteppedDown (s : BSearchState) (b : Boundary) : Prop :=
  (s.partition b).bottom = (s.partition b).top + 1 ∧
    (s.partition b).center = (s.partition b).bottom ∧
    ∃ ch, list.HasChar s (s.partition b).top ch ∧
      (ch < s.utf8Key ∨
        ch = s.utf8Key ∧ b = .bottomMost ∧ s.bottomCandidate = some (s.partition b).top)

/-- Where the center of the searched partition may be. -/
def Placed (s : BSearchState) (b : Boundary) : Prop :=
  (s.partition b).Centered ∨ list.SteppedDown s b

/-- How the lower partition lies to the upper one while the top-most boundary is searched: they
are the same, the center of the lower one is below the upper one, or all of it is.  Or there is
one element left that does not match. -/
inductive Below (s : BSearchState) : Prop
  | same (top : s.lower.top = s.upper.top) (bottom : s.lower.bottom = s.upper.bottom)
  | center (top : s.lower.top = s.upper.top) (center : s.upper.bottom ≤ s.lower.center)
  | top (top : s.upper.bottom ≤ s.lower.top)
  | hopeless (ch : Nat) (unique : s.upper.top = s.upper.bottom)
      (char : list.HasChar s s.upper.center ch) (ne : ch ≠ s.utf8Key)

/-- What is known while the top-most boundary is searched. -/
structure TopInvariant (s : BSearchState) : Prop where
  placed : list.Placed s .topMost
  lower : s.lower.Centered
  below : list.Below s
  candidate : s.bottomCandidate = none

/-- What is known while the bottom-most boundary is searched: it is not above the top-most
one. -/
structure BottomInvariant (s : BSearchState) : Prop where
  unique : s.upper.top = s.upper.bottom
  placed : list.Placed s .bottomMost
  below : s.upper.top ≤ s.lower.top ∨
    s.upper.top = s.lower.top + 1 ∧ s.lower.top < s.lower.bottom ∧
      ∃ ch, list.HasChar s s.lower.top ch ∧ ch < s.utf8Key
  candidate : ∀ position, s.bottomCandidate = some position → s.upper.top ≤ position

/-- The turn of the loop that does not come to anything: the item at the center is shorter than
the search depth and the last one of the partition, or it is empty. -/
def GoesWrong (c : Config) : Prop :=
  ∃ cs, list.getCasefoldedString (c.state.partition c.boundary).center = some cs ∧
    (cs.length < c.state.depth ∧
        (c.state.partition c.boundary).center = (c.state.partition c.boundary).bottom ∨
      cs.length = 0 ∧ c.state.depth = 0)

instance (c : Config) : Decidable (list.GoesWrong c) :=
  inferInstanceAs (Decidable (∃ cs ∈ list.getCasefoldedString
    (c.state.partition c.boundary).center, _))

/-! ## Turns of the loops -/

variable {list}

theorem HasChar.congr {s s' : BSearchState} {position ch : Nat} (h : list.HasChar s position ch)
    (hiterations : s'.iterations = s.iterations) : list.HasChar s' position ch := by
  obtain ⟨cs, hcs, hlength, hch⟩ := h
  have hdepth : s'.depth = s.depth := by simp [BSearchState.depth, hiterations]
  exact ⟨cs, hcs, hdepth ▸ hlength, hdepth ▸ hch⟩

theorem Placed.center_le_bottom {s : BSearchState} {b : Boundary} (h : list.Placed s b) :
    (s.partition b).center ≤ (s.partition b).bottom := by
  rcases h with hcentered | hstepped
  · exact hcentered.le_bottom
  · exact Nat.le_of_eq hstepped.2.1

theorem Placed.top_le_center {s : BSearchState} {b : Boundary} (h : list.Placed s b) :
    (s.partition b).top ≤ (s.partition b).center := by
  rcases h with hcentered | hstepped
  · exact hcentered.top_le
  · have hsize := hstepped.1
    have hcenter := hstepped.2.1
    omega

theorem Placed.nonempty {s : BSearchState} {b : Boundary} (h : list.Placed s b) :
    (s.partition b).top ≤ (s.partition b).bottom :=
  Nat.le_trans h.top_le_center h.center_le_bottom

/-- Only the center of a partition of two elements steps down. -/
theorem Placed.centered_of_large {s : BSearchState} {b : Boundary} (h : list.Placed s b)
    (hsize : (s.partition b).top + 2 ≤ (s.partition b).bottom) : (s.partition b).Centered :=
  h.resolve_right fun hstepped => by
    have hbottom := hstepped.1
    omega

/-- What a turn of `bsearch_top_most` comes to. -/
def TopOutcome (list : SearchedList) (s : BSearchState) :
    Except Failure (Result × BSearchState) → Prop
  | .ok (.searching, s') | .ok (.checkingBoundary, s') =>
      list.TopInvariant s' ∧ s'.upper.work < s.upper.work
  | .ok (.foundMatch, s') => list.BottomInvariant s'
  | .ok (.foundApproximate, _) => True
  | .ok (.internalFailure, _) | .error _ => False

theorem TopOutcome.of_halved {s s' : BSearchState} {r : Result}
    (hr : r = .searching ∨ r = .checkingBoundary) (hinv : list.TopInvariant s')
    (hwork : s'.upper.work < s.upper.work) : TopOutcome list s (.ok (r, s')) := by
  rcases hr with rfl | rfl
  · exact ⟨hinv, hwork⟩
  · exact ⟨hinv, hwork⟩

/-- The branches for items that have a character at the search depth. -/
theorem bsearchBoundary_of_char {s : BSearchState} {b : Boundary} {cs : ComparedString} {ch : Nat}
    (hlength : s.depth ≤ cs.length) (hch : cs.getCharAt s.depth = some ch) :
    s.bsearchBoundary b cs =
      if (s.partition b).top = (s.partition b).bottom then
        .ok (if s.utf8Key = ch then .foundMatch else .foundApproximate, s)
      else if (s.partition b).size = 2 then s.linearSearch b ch
      else .ok ((if b = .topMost then s.narrowLower ch else s).pickHalf b ch) := by
  simp [BSearchState.bsearchBoundary, Nat.not_lt.mpr hlength, hch, Partition.isUnique]

section TopMost

variable {s : BSearchState} (h : list.TopInvariant s) {cs : ComparedString}
  (hcs : list.getCasefoldedString s.upper.center = some cs)

include h hcs

/-- The branch for short items. -/
theorem topMost_short (hshort : cs.length < s.depth) (hlt : s.upper.center < s.upper.bottom) :
    TopOutcome list s (s.bsearchBoundary .topMost cs) := by
  have hcentered : s.upper.Centered := h.placed.resolve_right fun hstepped => by
    have hcenter := hstepped.2.1
    simp only [BSearchState.partition] at hcenter
    omega
  obtain ⟨hpicked, hresult⟩ := s.upper.pickTopHalf_eq
  have htop := hcentered.top_le
  simp only [BSearchState.bsearchBoundary, hshort, if_true, BSearchState.partition,
    BSearchState.setPartition, hpicked]
  refine .of_halved hresult ⟨.inl (Partition.centered_between htop), h.lower, ?_, h.candidate⟩ ?_
  · cases h.below with
    | same htop' hbottom' =>
        have hsame : s.lower.center = s.upper.center := h.lower.center_eq hcentered htop' hbottom'
        exact .center htop' (Nat.le_of_eq hsame.symm)
    | center htop' hcenter' => exact .center htop' (Nat.le_trans (Nat.le_of_lt hlt) hcenter')
    | top htop' => exact .top (Nat.le_trans (Nat.le_of_lt hlt) htop')
    | hopeless ch _ hchar _ =>
        obtain ⟨cs', hcs', hlength, -⟩ := hchar
        obtain rfl := Option.some.inj (hcs.symm.trans hcs')
        omega
  · exact Partition.work_lt_of_shorter (by simp only [Partition.between]; omega)

omit hcs in
/-- The last element of the partition. -/
theorem topMost_unique (hunique : s.upper.top = s.upper.bottom) : list.BottomInvariant s ∨
    ∃ ch, list.HasChar s s.upper.center ch ∧ ch ≠ s.utf8Key := by
  have hbottom : s.upper.top ≤ s.lower.top → list.BottomInvariant s := fun hle =>
    ⟨hunique, .inl h.lower, .inl hle, by simp [h.candidate]⟩
  cases h.below with
  | same htop _ => exact .inl (hbottom (Nat.le_of_eq htop.symm))
  | center htop _ => exact .inl (hbottom (Nat.le_of_eq htop.symm))
  | top htop => exact .inl (hbottom (hunique ▸ htop))
  | hopeless ch _ hchar hne => exact .inr ⟨ch, hchar, hne⟩

omit hcs in
/-- A partition of two elements. -/
theorem topMost_linearSearch (hsize : s.upper.bottom = s.upper.top + 1) {ch : Nat}
    (hchar : list.HasChar s s.upper.center ch) :
    TopOutcome list s (s.linearSearch .topMost ch) := by
  have hplaced : s.upper.center = s.upper.top ∨
      s.upper.center = s.upper.top + 1 ∧ ∃ ch, list.HasChar s s.upper.top ch ∧ ch < s.utf8Key := by
    rcases h.placed with hcentered | ⟨-, hcenter, ch', hchar', hless | ⟨-, hnot, -⟩⟩
    · have hcenter : s.upper.center = s.upper.computeCenter := hcentered.center
      rw [hcenter, Partition.computeCenter]
      omega
    · exact .inr ⟨hcenter.trans hsize, ch', hchar', hless⟩
    · cases hnot
  have hnot_hopeless : ¬s.upper.top = s.upper.bottom := by omega
  unfold BSearchState.linearSearch
  simp only [BSearchState.partition, BSearchState.setPartition, true_or, if_true]
  by_cases heq : s.utf8Key = ch
  · rw [if_pos heq]
    -- the match is locked, and the lower partition does not begin below it
    refine ⟨rfl, .inl h.lower, ?_, by simp [h.candidate]⟩
    simp only [Partition.lockAtCenter]
    rcases hplaced with hcenter | ⟨hcenter, ch', hchar', hless⟩
    · left
      cases h.below with
      | same htop _ => omega
      | center htop _ => omega
      | top htop => omega
      | hopeless _ hunique _ _ => exact absurd hunique hnot_hopeless
    · have hlower := h.lower.le_bottom
      cases h.below with
      | same htop hbottom =>
          exact .inr ⟨by omega, by omega, ch', htop ▸ hchar'.congr rfl, hless⟩
      | center htop hbottom =>
          exact .inr ⟨by omega, by omega, ch', htop ▸ hchar'.congr rfl, hless⟩
      | top htop => exact .inl (by omega)
      | hopeless _ hunique _ _ => exact absurd hunique hnot_hopeless
  · rw [if_neg heq]
    by_cases hless : ch < s.utf8Key
    · rw [if_pos hless]
      by_cases hcenter : s.upper.center < s.upper.bottom
      · simp only [hcenter, if_true]
        have htop : s.upper.center = s.upper.top := by
          rcases hplaced with htop | ⟨hbottom, -⟩
          · exact htop
          · omega
        refine ⟨⟨.inr ⟨hsize, ?_, ch, (htop ▸ hchar).congr rfl, .inl hless⟩, h.lower, ?_,
          h.candidate⟩, Partition.work_lt_of_same rfl rfl hcenter ?_⟩
        · simp only [BSearchState.partition, Partition.stepCenterDown]
          omega
        · cases h.below with
          | same htop' hbottom => exact .same htop' hbottom
          | center htop' hbottom => exact .center htop' hbottom
          | top htop' => exact .top htop'
          | hopeless _ hunique _ _ => exact absurd hunique hnot_hopeless
        · simp only [Partition.stepCenterDown]
          omega
      · simp only [hcenter, if_false]
        refine ⟨⟨.inl ⟨Nat.le_refl _, ?_⟩, h.lower,
          .hopeless ch rfl (hchar.congr rfl) fun h => heq h.symm, h.candidate⟩,
          Partition.work_lt_of_shorter ?_⟩
        · simp [BSearchState.partition, Partition.lockAtCenter, Partition.computeCenter]
        · simp only [Partition.lockAtCenter]
          omega
    · rw [if_neg hless]
      trivial

omit hcs in
/-- One half of a larger partition is picked, and the lower partition follows. -/
theorem topMost_pickHalf (hsize : s.upper.top + 2 ≤ s.upper.bottom) (ch : Nat) :
    TopOutcome list s (.ok ((s.narrowLower ch).pickHalf .topMost ch)) := by
  have hcentered : s.upper.Centered := h.placed.centered_of_large hsize
  have htop := hcentered.top_lt hsize
  have hbottom := hcentered.lt_bottom_iff.mpr (by omega)
  have hlowertop := h.lower.top_le
  have hlowerbottom := h.lower.le_bottom
  have hcenter : s.upper.center = s.upper.computeCenter := hcentered.center
  have hlowercenter : s.lower.center = s.lower.computeCenter := h.lower.center
  rw [Partition.computeCenter] at hcenter hlowercenter
  have hbelow : s.lower.top = s.upper.top ∧ s.lower.bottom = s.upper.bottom ∨
      s.lower.top = s.upper.top ∧ s.upper.bottom ≤ s.lower.center ∨
      s.upper.bottom ≤ s.lower.top := by
    cases h.below with
    | same htop hbottom => exact .inl ⟨htop, hbottom⟩
    | center htop hcenter => exact .inr (.inl ⟨htop, hcenter⟩)
    | top htop => exact .inr (.inr htop)
    | hopeless _ hunique _ _ => omega
  by_cases hgreater : s.utf8Key ≤ ch
  · obtain ⟨r, hr, hpick⟩ := BSearchState.pickHalf_topMost_of_le hgreater
    rw [hpick]
    by_cases hsame : ch ≤ s.utf8Key
    · -- a match: the bottom-most one is not above
      by_cases hlt : s.lower.top < s.upper.center
      · rw [BSearchState.narrowLower_of_le hsame hlt]
        refine .of_halved hr ⟨.inl (Partition.centered_between (by omega)),
          Partition.centered_between hlowerbottom, .top ?_, h.candidate⟩
          (Partition.work_lt_of_shorter ?_)
        · simp only [Partition.between]
          omega
        · simp only [Partition.between]
          omega
      · rw [BSearchState.narrowLower_of_apart hsame (Nat.le_of_not_lt hlt)]
        refine .of_halved hr ⟨.inl (Partition.centered_between (by omega)), h.lower, .top ?_,
          h.candidate⟩ (Partition.work_lt_of_shorter ?_)
        · simp only [Partition.between]
          omega
        · simp only [Partition.between]
          omega
    · rw [BSearchState.narrowLower_of_lt (Nat.lt_of_not_le hsame) (by omega)]
      refine .of_halved hr ⟨.inl (Partition.centered_between (by omega)),
        Partition.centered_between hlowertop, ?_, h.candidate⟩ (Partition.work_lt_of_shorter ?_)
      · rcases hbelow with ⟨htop', hbottom'⟩ | ⟨htop', hcenter'⟩ | htop'
        · refine .same htop' ?_
          simp only [Partition.between]
          omega
        · refine .center htop' ?_
          simp only [Partition.between]
          omega
        · refine .top ?_
          simp only [Partition.between]
          omega
      · simp only [Partition.between]
        omega
  · obtain ⟨r, hr, hpick⟩ := BSearchState.pickHalf_topMost_of_lt (Nat.lt_of_not_le hgreater)
    rw [hpick]
    have hless : ch ≤ s.utf8Key := by omega
    have hshorter : s.upper.bottom - s.upper.center < s.upper.bottom - s.upper.top := by omega
    rcases hbelow with ⟨htop', hbottom'⟩ | ⟨htop', hcenter'⟩ | htop'
    · rw [BSearchState.narrowLower_of_le hless (by omega)]
      refine .of_halved hr ⟨.inl (Partition.centered_between (by omega)),
        Partition.centered_between hlowerbottom, .same ?_ hbottom', h.candidate⟩
        (Partition.work_lt_of_shorter hshorter)
      simp only [Partition.between]
      omega
    · rw [BSearchState.narrowLower_of_le hless (by omega)]
      exact .of_halved hr ⟨.inl (Partition.centered_between (by omega)),
        Partition.centered_between hlowerbottom, .top hcenter', h.candidate⟩
        (Partition.work_lt_of_shorter hshorter)
    · rw [BSearchState.narrowLower_of_apart hless (by omega)]
      exact .of_halved hr ⟨.inl (Partition.centered_between (by omega)), h.lower, .top htop',
        h.candidate⟩ (Partition.work_lt_of_shorter hshorter)

theorem topMost_outcome {ch : Nat} (hch : s.depth ≤ cs.length → cs.getCharAt s.depth = some ch)
    (hright : cs.length < s.depth → s.upper.center ≠ s.upper.bottom) :
    TopOutcome list s (s.bsearchBoundary .topMost cs) := by
  have hle : s.upper.center ≤ s.upper.bottom := h.placed.center_le_bottom
  have hnonempty : s.upper.top ≤ s.upper.bottom := h.placed.nonempty
  by_cases hlength : s.depth ≤ cs.length
  · have hchar : list.HasChar s s.upper.center ch := ⟨cs, hcs, hlength, hch hlength⟩
    rw [bsearchBoundary_of_char hlength (hch hlength)]
    simp only [BSearchState.partition, if_true]
    by_cases hunique : s.upper.top = s.upper.bottom
    · rw [if_pos hunique]
      rcases topMost_unique h hunique with hbottom | ⟨ch', hchar', hne⟩
      · by_cases hkey : s.utf8Key = ch
        · rw [if_pos hkey]
          exact hbottom
        · rw [if_neg hkey]
          trivial
      · have hkey : s.utf8Key ≠ ch := by
          rw [hchar.eq hchar']
          exact hne.symm
        rw [if_neg hkey]
        trivial
    · rw [if_neg hunique]
      by_cases hsize : s.upper.size = 2
      · rw [if_pos hsize]
        rw [Partition.size] at hsize
        exact topMost_linearSearch h (by omega) hchar
      · rw [if_neg hsize]
        rw [Partition.size] at hsize
        exact topMost_pickHalf h (by omega) ch
  · have hshort := Nat.lt_of_not_le hlength
    exact topMost_short h hcs hshort (Nat.lt_of_le_of_ne hle (hright hshort))

end TopMost

/-- What a turn of `bsearch_bottom_most` comes to. -/
def BottomOutcome (list : SearchedList) (s : BSearchState) :
    Except Failure (Result × BSearchState) → Prop
  | .ok (.searching, s') | .ok (.checkingBoundary, s') =>
      list.BottomInvariant s' ∧ s'.lower.work < s.lower.work
  | .ok (.foundMatch, s') => s'.upper.top ≤ s'.lower.bottom
  | .ok (.foundApproximate, _) => True
  | .error .unsorted => True
  | .ok (.internalFailure, _) | .error .noCharacter => False

theorem BottomOutcome.of_halved {s s' : BSearchState} {r : Result}
    (hr : r = .searching ∨ r = .checkingBoundary) (hinv : list.BottomInvariant s')
    (hwork : s'.lower.work < s.lower.work) : BottomOutcome list s (.ok (r, s')) := by
  rcases hr with rfl | rfl
  · exact ⟨hinv, hwork⟩
  · exact ⟨hinv, hwork⟩

section BottomMost

variable {s : BSearchState} (h : list.BottomInvariant s) {cs : ComparedString}
  (hcs : list.getCasefoldedString s.lower.center = some cs)

include h hcs

/-- The branch for short items. -/
theorem bottomMost_short (hshort : cs.length < s.depth) (hlt : s.lower.center < s.lower.bottom) :
    BottomOutcome list s (s.bsearchBoundary .bottomMost cs) := by
  have hcentered : s.lower.Centered := h.placed.resolve_right fun hstepped => by
    have hcenter : s.lower.center = s.lower.bottom := hstepped.2.1
    omega
  obtain ⟨hpicked, hresult⟩ := s.lower.pickTopHalf_eq
  have htop := hcentered.top_le
  simp only [BSearchState.bsearchBoundary, hshort, if_true, BSearchState.partition,
    BSearchState.setPartition, hpicked]
  refine .of_halved hresult ⟨h.unique, .inl (Partition.centered_between htop), ?_, h.candidate⟩
    (Partition.work_lt_of_shorter (by simp only [Partition.between]; omega))
  rcases h.below with hbelow | ⟨hbelow, -, ch, hchar, hless⟩
  · exact .inl hbelow
  · refine .inr ⟨hbelow, Nat.lt_of_le_of_ne htop fun heq => ?_, ch, hchar.congr rfl, hless⟩
    obtain ⟨cs', hcs', hlength, -⟩ := hchar
    have heq' : s.lower.top = s.lower.center := heq
    rw [heq'] at hcs'
    obtain rfl := Option.some.inj (hcs.symm.trans hcs')
    omega

omit hcs in
/-- A partition of two elements. -/
theorem bottomMost_linearSearch (hsize : s.lower.bottom = s.lower.top + 1) {ch : Nat}
    (hchar : list.HasChar s s.lower.center ch) :
    BottomOutcome list s (s.linearSearch .bottomMost ch) := by
  have hcenter_top : s.lower.center < s.lower.bottom → s.lower.center = s.lower.top := by
    intro hlt
    rcases h.placed with hcentered | ⟨-, hcenter, -⟩
    · have hcenter : s.lower.center = s.lower.computeCenter := hcentered.center
      rw [hcenter, Partition.computeCenter]
      omega
    · have hcenter' : s.lower.center = s.lower.bottom := hcenter
      omega
  unfold BSearchState.linearSearch
  simp only [BSearchState.partition, BSearchState.setPartition, reduceCtorEq, false_or]
  by_cases heq : s.utf8Key = ch
  · simp only [heq, if_true]
    by_cases hcenter : s.lower.bottom ≤ s.lower.center
    · simp only [hcenter, if_true]
      have hle : s.upper.top ≤ s.lower.bottom := by
        rcases h.below with hbelow | ⟨hbelow, -⟩ <;> omega
      exact Nat.le_trans hle hcenter
    · simp only [hcenter, if_false]
      have htop := hcenter_top (Nat.lt_of_not_le hcenter)
      -- the upper one of the two elements is a candidate, so it is not above the top-most match
      have hbelow : s.upper.top ≤ s.lower.top := by
        rcases h.below with hbelow | ⟨-, -, ch', hchar', hless⟩
        · exact hbelow
        · rw [htop] at hchar
          have hsame := hchar.eq hchar'
          omega
      refine ⟨⟨h.unique, .inr ⟨hsize, ?_, ch, (htop ▸ hchar).congr rfl, .inr ⟨rfl, rfl, ?_⟩⟩,
        .inl hbelow, ?_⟩, Partition.work_lt_of_same rfl rfl (Nat.lt_of_not_le hcenter) ?_⟩
      · simp only [BSearchState.partition, Partition.stepCenterDown]
        omega
      · simp only [BSearchState.partition, Partition.stepCenterDown, htop]
      · intro position hposition
        obtain rfl := Option.some.inj hposition
        exact htop ▸ hbelow
      · simp only [Partition.stepCenterDown]
        omega
  · simp only [heq, if_false]
    by_cases hless : ch < s.utf8Key
    · simp only [hless, if_true]
      by_cases hcenter : s.lower.center < s.lower.bottom
      · simp only [hcenter, if_true]
        have htop := hcenter_top hcenter
        refine ⟨⟨h.unique, .inr ⟨hsize, ?_, ch, (htop ▸ hchar).congr rfl, .inl hless⟩, ?_,
          h.candidate⟩, Partition.work_lt_of_same rfl rfl hcenter ?_⟩
        · simp only [BSearchState.partition, Partition.stepCenterDown]
          omega
        · rcases h.below with hbelow | ⟨hbelow, hlt, ch', hchar', hless'⟩
          · exact .inl hbelow
          · exact .inr ⟨hbelow, hlt, ch', hchar'.congr rfl, hless'⟩
        · simp only [Partition.stepCenterDown]
          omega
      · simp only [hcenter, if_false]
        refine ⟨⟨h.unique, .inl ⟨Nat.le_refl _, ?_⟩, .inl ?_, h.candidate⟩,
          Partition.work_lt_of_shorter ?_⟩
        · simp [BSearchState.partition, Partition.lockAtCenter, Partition.computeCenter]
        · simp only [Partition.lockAtCenter]
          rcases h.below with hbelow | ⟨hbelow, -⟩ <;> omega
        · simp only [Partition.lockAtCenter]
          omega
    · simp only [hless, if_false]
      cases hcandidate : s.bottomCandidate with
      | none => trivial
      | some position => exact h.candidate position hcandidate

omit hcs in
/-- One half of a larger partition is picked. -/
theorem bottomMost_pickHalf (hsize : s.lower.top + 2 ≤ s.lower.bottom) (ch : Nat) :
    BottomOutcome list s (.ok (s.pickHalf .bottomMost ch)) := by
  have hcentered : s.lower.Centered := h.placed.centered_of_large hsize
  have htop := hcentered.top_lt hsize
  have hbottom := hcentered.lt_bottom_iff.mpr (by omega)
  by_cases hgreater : s.utf8Key < ch
  · obtain ⟨r, hr, hpick⟩ := BSearchState.pickHalf_bottomMost_of_lt hgreater
    rw [hpick]
    refine .of_halved hr ⟨h.unique, .inl (Partition.centered_between (by omega)), ?_,
      h.candidate⟩ (Partition.work_lt_of_shorter (by simp only [Partition.between]; omega))
    rcases h.below with hbelow | ⟨hbelow, -, ch', hchar', hless'⟩
    · exact .inl hbelow
    · exact .inr ⟨hbelow, htop, ch', hchar'.congr rfl, hless'⟩
  · obtain ⟨r, hr, hpick⟩ := BSearchState.pickHalf_bottomMost_of_le (Nat.le_of_not_lt hgreater)
    rw [hpick]
    refine .of_halved hr ⟨h.unique, .inl (Partition.centered_between (by omega)), .inl ?_,
      h.candidate⟩ (Partition.work_lt_of_shorter (by simp only [Partition.between]; omega))
    simp only [Partition.between]
    rcases h.below with hbelow | ⟨hbelow, -⟩ <;> omega

theorem bottomMost_outcome {ch : Nat}
    (hch : s.depth ≤ cs.length → cs.getCharAt s.depth = some ch)
    (hright : cs.length < s.depth → s.lower.center ≠ s.lower.bottom) :
    BottomOutcome list s (s.bsearchBoundary .bottomMost cs) := by
  have hle : s.lower.center ≤ s.lower.bottom := h.placed.center_le_bottom
  have hnonempty : s.lower.top ≤ s.lower.bottom := h.placed.nonempty
  by_cases hlength : s.depth ≤ cs.length
  · have hchar : list.HasChar s s.lower.center ch := ⟨cs, hcs, hlength, hch hlength⟩
    rw [bsearchBoundary_of_char hlength (hch hlength)]
    simp only [BSearchState.partition, reduceCtorEq, if_false]
    by_cases hunique : s.lower.top = s.lower.bottom
    · rw [if_pos hunique]
      by_cases hkey : s.utf8Key = ch
      · rw [if_pos hkey]
        have hbelow : s.upper.top ≤ s.lower.bottom := by
          rcases h.below with hbelow | ⟨hbelow, hlt, -⟩ <;> omega
        exact hbelow
      · rw [if_neg hkey]
        trivial
    · rw [if_neg hunique]
      by_cases hsize : s.lower.size = 2
      · rw [if_pos hsize]
        rw [Partition.size] at hsize
        exact bottomMost_linearSearch h (by omega) hchar
      · rw [if_neg hsize]
        rw [Partition.size] at hsize
        exact bottomMost_pickHalf h (by omega) ch
  · have hshort := Nat.lt_of_not_le hlength
    exact bottomMost_short h hcs hshort (Nat.lt_of_le_of_ne hle (hright hshort))

end BottomMost

/-! ## The search -/

/-- What is known between two turns. -/
def Invariant (list : SearchedList) (c : Config) : Prop :=
  match c.boundary with
  | .topMost => list.TopInvariant c.state
  | .bottomMost => list.BottomInvariant c.state ∧ c.rest ≠ []

/-- The number of loops that are left. -/
def loops (c : Config) : Nat :=
  2 * c.rest.length + match c.boundary with
    | .topMost => 1
    | .bottomMost => 0

/-- The search gets closer to its end. -/
def Closer (c' c : Config) : Prop :=
  loops c' < loops c ∨ loops c' = loops c ∧
    (c'.state.partition c'.boundary).work < (c.state.partition c.boundary).work

/-- The next search for a top-most boundary begins with a partition that is not empty. -/
theorem topInvariant_prepared {s : BSearchState} (h : s.allTop ≤ s.allBottom) (utf8Char : Nat) :
    list.TopInvariant (s.prepareNextIteration utf8Char) :=
  ⟨.inl ⟨h, rfl⟩, ⟨h, rfl⟩, .same rfl rfl, rfl⟩

/-- What a turn comes to, if it does not go wrong. -/
theorem step_of_right (hfold : ∀ ch, list.foldChar ch ≠ []) {c : Config} (h : list.Invariant c)
    (hright : ¬list.GoesWrong c) :
    (∃ outcome, list.step c = .inr outcome ∧ outcome ≠ .undefined) ∨
    ∃ c', list.step c = .inl c' ∧ list.Invariant c' ∧ Closer c' c := by
  obtain ⟨s, b, rest⟩ := c
  unfold step
  cases hcs : list.getCasefoldedString (s.partition b).center with
  | none => exact .inl ⟨_, rfl, by simp⟩
  | some cs =>
      have hshort : cs.length < s.depth → (s.partition b).center ≠ (s.partition b).bottom :=
        fun hlt hbottom => hright ⟨cs, hcs, .inl ⟨hlt, hbottom⟩⟩
      have hchar : ∃ ch, s.depth ≤ cs.length → cs.getCharAt s.depth = some ch := by
        by_cases hlength : s.depth ≤ cs.length
        · obtain ⟨text, -, rfl⟩ := Option.map_eq_some_iff.mp hcs
          obtain ⟨ch, hch⟩ := ComparedString.exists_getCharAt hfold hlength fun hempty =>
            hright ⟨_, hcs, .inr hempty⟩
          exact ⟨ch, fun _ => hch⟩
        · exact ⟨0, fun hle => absurd hle hlength⟩
      obtain ⟨ch, hch⟩ := hchar
      cases b with
      | topMost =>
          have houtcome := topMost_outcome h hcs hch hshort
          dsimp only
          cases hboundary : s.bsearchBoundary .topMost cs with
          | error e => simp [hboundary, TopOutcome] at houtcome
          | ok r =>
              obtain ⟨r, s'⟩ := r
              rw [hboundary] at houtcome
              cases r with
              | internalFailure => exact houtcome.elim
              | searching => exact .inr ⟨_, rfl, houtcome.1, .inr ⟨rfl, houtcome.2⟩⟩
              | checkingBoundary => exact .inr ⟨_, rfl, houtcome.1, .inr ⟨rfl, houtcome.2⟩⟩
              | foundApproximate => exact .inl ⟨_, rfl, by simp⟩
              | foundMatch =>
                  cases rest with
                  | nil => exact .inl ⟨_, rfl, by simp⟩
                  | cons ch rest =>
                      refine .inr ⟨_, rfl, ⟨houtcome, List.cons_ne_nil _ _⟩, .inl ?_⟩
                      simp [loops]
      | bottomMost =>
          have houtcome := bottomMost_outcome h.1 hcs hch hshort
          dsimp only
          cases hboundary : s.bsearchBoundary .bottomMost cs with
          | error e =>
              cases e with
              | unsorted => exact .inl ⟨_, rfl, by simp⟩
              | noCharacter => simp [hboundary, BottomOutcome] at houtcome
          | ok r =>
              obtain ⟨r, s'⟩ := r
              rw [hboundary] at houtcome
              cases r with
              | internalFailure => exact houtcome.elim
              | searching => exact .inr ⟨_, rfl, ⟨houtcome.1, h.2⟩, .inr ⟨rfl, houtcome.2⟩⟩
              | checkingBoundary =>
                  exact .inr ⟨_, rfl, ⟨houtcome.1, h.2⟩, .inr ⟨rfl, houtcome.2⟩⟩
              | foundApproximate => exact .inl ⟨_, rfl, by simp⟩
              | foundMatch =>
                  cases rest with
                  | nil => exact absurd rfl h.2
                  | cons ch rest =>
                      have hle : s'.upper.top ≤ s'.lower.bottom := houtcome
                      refine .inr ⟨_, rfl,
                        topInvariant_prepared (s := s'.prepareForNextCharacter) hle ch, .inl ?_⟩
                      simp only [loops, List.length_cons]
                      omega

/-- The turns that a search gets to. -/
inductive Visits (list : SearchedList) (c : Config) : Config → Prop
  | refl : Visits list c c
  | next {c' c'' : Config} : Visits list c c' → list.step c' = .inl c'' → Visits list c c''

theorem Visits.head {c c' c'' : Config} (hstep : list.step c = .inl c') (h : Visits list c' c'') :
    Visits list c c'' := by
  induction h with
  | refl => exact .next .refl hstep
  | next _ hstep' ih => exact .next ih hstep'

theorem run_of_step {c c' : Config} (hstep : list.step c = .inl c') (fuel : Nat) :
    list.run (fuel + 1) c = list.run fuel c' := by
  simp [run, hstep]

theorem run_of_visits {c c' : Config} (h : Visits list c c') :
    ∃ turns, ∀ fuel, list.run (turns + fuel) c = list.run fuel c' := by
  induction h with
  | refl => exact ⟨0, fun fuel => by rw [Nat.zero_add]⟩
  | @next c' c'' _ hstep ih =>
      obtain ⟨turns, hturns⟩ := ih
      refine ⟨turns + 1, fun fuel => ?_⟩
      rw [Nat.add_assoc, hturns, Nat.add_comm 1 fuel, run_of_step hstep]

theorem run_ends_of_step {c c' : Config} {P : Outcome → Prop} (hstep : list.step c = .inl c')
    (h : Ends (fun fuel => list.run fuel c') P) : Ends (fun fuel => list.run fuel c) P :=
  h.succ (run_of_step hstep)

/-- The search ends where no turn goes wrong. -/
theorem run_ends (hfold : ∀ ch, list.foldChar ch ≠ []) {c : Config} (h : list.Invariant c)
    (hright : ∀ c', Visits list c c' → ¬list.GoesWrong c') :
    Ends (fun fuel => list.run fuel c) (· ≠ .undefined) := by
  -- first by the loops that are left, then by the work that is left in the loop
  induction hloops : loops c using Nat.strongRecOn generalizing c with
  | ind n ihloops =>
      induction hwork : (c.state.partition c.boundary).work using Nat.strongRecOn
        generalizing c with
      | ind m ihwork =>
          rcases step_of_right hfold h (hright c .refl) with
            ⟨outcome, hstep, hne⟩ | ⟨c', hstep, h', hcloser⟩
          · refine ⟨outcome, hne, 1, fun fuel hfuel => ?_⟩
            obtain ⟨fuel, rfl⟩ := Nat.exists_eq_add_of_le' hfuel
            dsimp only
            rw [run, hstep]
          · have hright' : ∀ c'', Visits list c' c'' → ¬list.GoesWrong c'' := fun c'' hvisits =>
              hright c'' (hvisits.head hstep)
            refine run_ends_of_step hstep ?_
            rcases hcloser with hfewer | ⟨hsame, hless⟩
            · exact ihloops (loops c') (hloops ▸ hfewer) h' hright' rfl
            · exact ihwork _ (hwork ▸ hless) h' hright' (hsame.trans hloops) rfl

theorem exists_visits_of_run {fuel : Nat} {c : Config} {outcome : Outcome}
    (h : list.run fuel c = some outcome) :
    ∃ c', Visits list c c' ∧ list.step c' = .inr outcome := by
  induction fuel generalizing c with
  | zero => simp [run] at h
  | succ fuel ih =>
      unfold run at h
      split at h
      · rename_i hstep
        obtain ⟨c', hvisits, hended⟩ := ih h
        exact ⟨c', hvisits.head hstep, hended⟩
      · rename_i hstep
        exact ⟨c, .refl, hstep.trans (congrArg _ (Option.some.inj h))⟩

/-! ## Turns that go wrong -/

theorem partition_setPartition (s : BSearchState) (p : Partition) (b : Boundary) :
    (s.setPartition p b).partition b = p := by
  cases b <;> rfl

theorem setPartition_setPartition (s : BSearchState) (p p' : Partition) (b : Boundary) :
    (s.setPartition p b).setPartition p' b = s.setPartition p' b := by
  cases b <;> rfl

theorem setPartition_partition (s : BSearchState) (b : Boundary) :
    s.setPartition (s.partition b) b = s := by
  cases b <;> rfl

@[simp] theorem setPartition_iterations (s : BSearchState) (p : Partition) (b : Boundary) :
    (s.setPartition p b).iterations = s.iterations := by
  cases b <;> rfl

@[simp] theorem setPartition_utf8Key (s : BSearchState) (p : Partition) (b : Boundary) :
    (s.setPartition p b).utf8Key = s.utf8Key := by
  cases b <;> rfl

@[simp] theorem setPartition_bottomCandidate (s : BSearchState) (p : Partition) (b : Boundary) :
    (s.setPartition p b).bottomCandidate = s.bottomCandidate := by
  cases b <;> rfl

/-- The item at the center is shorter than the search depth. -/
theorem step_of_short {c : Config} {cs : ComparedString}
    (hcs : list.getCasefoldedString (c.state.partition c.boundary).center = some cs)
    (hshort : cs.length < c.state.depth) :
    list.step c = .inl { c with
      state := c.state.setPartition (.between (c.state.partition c.boundary).top
        (c.state.partition c.boundary).center) c.boundary } := by
  obtain ⟨hpicked, hresult⟩ := (c.state.partition c.boundary).pickTopHalf_eq
  simp only [step, hcs, BSearchState.bsearchBoundary, hshort, if_true, hpicked]
  rcases hresult with hresult | hresult <;> rw [hresult]

/-- From a partition of two elements with its center at the top, the search steps down again. -/
theorem step_of_steppedDown {c : Config} (h : list.SteppedDown c.state c.boundary) :
    list.step { c with
      state := c.state.setPartition (.between (c.state.partition c.boundary).top
        (c.state.partition c.boundary).bottom) c.boundary } = .inl c := by
  obtain ⟨s, b, rest⟩ := c
  obtain ⟨hsize, hcenter, ch, ⟨cs, hcs, hlength, hch⟩, hgoes⟩ := h
  dsimp only at *
  generalize hp : Partition.between (s.partition b).top (s.partition b).bottom = p
  have hp' : p = ⟨(s.partition b).top, (s.partition b).bottom, (s.partition b).top⟩ := by
    rw [← hp, Partition.between, hsize]
    congr 1
    omega
  have hdown : p.stepCenterDown = s.partition b := by
    rw [hp', Partition.stepCenterDown]
    generalize s.partition b = q at hsize hcenter
    obtain ⟨top, bottom, center⟩ := q
    simp only [Partition.mk.injEq, true_and] at hsize hcenter ⊢
    omega
  have hback : (s.setPartition p b).setPartition p.stepCenterDown b = s := by
    rw [setPartition_setPartition, hdown, setPartition_partition]
  have hunique : ¬p.top = p.bottom := by
    simp only [hp', hsize]
    omega
  have htwo : p.size = 2 := by
    simp only [hp', Partition.size, hsize]
    omega
  have hnot : ¬p.bottom ≤ p.center := by
    simp only [hp', hsize]
    omega
  have hboundary : (s.setPartition p b).bsearchBoundary b cs = .ok (.searching, s) := by
    have hdepth : (s.setPartition p b).depth = s.depth := by simp [BSearchState.depth]
    have hch' : cs.getCharAt (s.setPartition p b).depth = some ch := by rw [hdepth, hch]
    rw [bsearchBoundary_of_char (hdepth ▸ hlength) hch', partition_setPartition, if_neg hunique,
      if_pos htwo]
    unfold BSearchState.linearSearch
    simp only [partition_setPartition, setPartition_utf8Key, setPartition_bottomCandidate]
    rcases hgoes with hless | ⟨rfl, rfl, hcandidate⟩
    · have hne : ¬s.utf8Key = ch := by omega
      simp only [hne, if_false, hless, if_true, Nat.lt_of_not_le hnot, hback]
    · simp only [if_true, reduceCtorEq, hnot, or_self, if_false, hback]
      rw [show some p.center = s.bottomCandidate by rw [hcandidate, hp']]
  have hstring : list.getCasefoldedString p.center = some cs := by
    rw [hp']
    exact hcs
  simp only [step, partition_setPartition, hstring, hboundary]

/-- A search that goes wrong has no result, or comes back to where it was. -/
theorem not_ends_of_wrong {c : Config} (h : list.Placed c.state c.boundary)
    (hwrong : list.GoesWrong c) : ¬Ends (fun fuel => list.run fuel c) (· ≠ .undefined) := by
  rintro ⟨outcome, hne, enough, hends⟩
  obtain ⟨cs, hcs, ⟨hshort, hbottom⟩ | ⟨hempty, hdepth⟩⟩ := hwrong
  · have hstep := step_of_short hcs hshort
    rcases h with hcentered | hstepped
    · -- the only element of the partition: nothing changes
      have hsame : Partition.between (c.state.partition c.boundary).top
          (c.state.partition c.boundary).center = c.state.partition c.boundary := by
        rw [hbottom, ← hcentered.eq_between]
      rw [hsame, setPartition_partition] at hstep
      have hnever : ∀ fuel, list.run fuel c = none := by
        intro fuel
        induction fuel with
        | zero => rfl
        | succ fuel ih => rw [run_of_step hstep, ih]
      exact absurd (hends enough (Nat.le_refl _)) (by simp [hnever])
    · -- two elements: the center goes up and comes down again
      have hback := step_of_steppedDown hstepped
      rw [hbottom] at hstep
      generalize hc' : ({ c with
        state := c.state.setPartition (.between (c.state.partition c.boundary).top
          (c.state.partition c.boundary).bottom) c.boundary } : Config) = c' at hstep hback
      have hnever : ∀ fuel, list.run fuel c = none ∧ list.run fuel c' = none := by
        intro fuel
        induction fuel with
        | zero => exact ⟨rfl, rfl⟩
        | succ fuel ih =>
            constructor
            · rw [run_of_step hstep, ih.2]
            · rw [run_of_step hback, ih.1]
      exact absurd (hends enough (Nat.le_refl _)) (by simp [hnever])
  · obtain ⟨text, -, rfl⟩ := Option.map_eq_some_iff.mp hcs
    have hstep : list.step c = .inr .undefined := by
      simp [step, hcs, BSearchState.bsearchBoundary, hdepth,
        ComparedString.getCharAt_of_empty hempty]
    have hrun := hends (enough + 1) (Nat.le_succ enough)
    dsimp only at hrun
    rw [run, hstep] at hrun
    exact hne (Option.some.inj hrun).symm

/-- The invariant holds as long as no turn goes wrong. -/
theorem Visits.invariant (hfold : ∀ ch, list.foldChar ch ≠ []) {c c' : Config}
    (hvisits : Visits list c c') (h : list.Invariant c) :
    list.Invariant c' ∨ ∃ c'', Visits list c c'' ∧ list.Invariant c'' ∧ list.GoesWrong c'' := by
  induction hvisits with
  | refl => exact .inl h
  | @next c' c'' hvisits hstep ih =>
      rcases ih with hinv | hwrong
      · by_cases hright : list.GoesWrong c'
        · exact .inr ⟨c', hvisits, hinv, hright⟩
        · rcases step_of_right hfold hinv hright with ⟨outcome, hstep', -⟩ | ⟨c₂, hstep', hinv', -⟩
          · simp [hstep] at hstep'
          · obtain rfl : c'' = c₂ := by simpa [hstep] using hstep'
            exact .inl hinv'
      · exact .inr hwrong

theorem Invariant.placed {c : Config} (h : list.Invariant c) :
    list.Placed c.state c.boundary := by
  obtain ⟨s, b, rest⟩ := c
  cases b with
  | topMost => exact TopInvariant.placed h
  | bottomMost => exact BottomInvariant.placed h.1

/-- A search that gets to a turn that goes wrong does not end. -/
theorem not_ends_of_visits (hfold : ∀ ch, list.foldChar ch ≠ []) {c c' : Config}
    (h : list.Invariant c) (hvisits : Visits list c c') (hwrong : list.GoesWrong c') :
    ¬Ends (fun fuel => list.run fuel c) (· ≠ .undefined) := by
  have hfirst : ∃ c'', Visits list c c'' ∧ list.Invariant c'' ∧ list.GoesWrong c'' := by
    rcases hvisits.invariant hfold h with hinv | hfirst
    · exact ⟨c', hvisits, hinv, hwrong⟩
    · exact hfirst
  obtain ⟨c'', hvisits', hinv, hwrong'⟩ := hfirst
  obtain ⟨turns, hturns⟩ := run_of_visits hvisits'
  rintro ⟨outcome, hne, enough, hends⟩
  refine not_ends_of_wrong hinv.placed hwrong' ⟨outcome, hne, enough, fun fuel hfuel => ?_⟩
  exact (hturns fuel).symm.trans (hends _ (Nat.le_trans hfuel (Nat.le_add_left fuel turns)))

theorem invariant_start {query : List Nat} {c : Config} (h : list.start query = some c) :
    list.Invariant c := by
  unfold start at h
  split at h
  · simp at h
  split at h
  · simp at h
  split at h
  · simp at h
  · simp only [Option.some.injEq] at h
    subst h
    exact topInvariant_prepared (Nat.zero_le _) _

theorem binarySearchUtf8_of_start {query : List Nat} {c : Config}
    (h : list.start query = some c) :
    list.binarySearchUtf8 query = fun fuel => list.run fuel c := by
  funext fuel
  simp only [binarySearchUtf8, h]

/-- For all lists and queries: the search returns or throws `UnsortedException` exactly if it
gets to no turn at whose center there is the last item of the partition, shorter than the
search depth, or an empty item. -/
theorem binary_search_ends_iff (hfold : ∀ ch, list.foldChar ch ≠ []) (query : List Nat) :
    Ends (list.binarySearchUtf8 query) (· ≠ .undefined) ↔
      ∀ c, list.start query = some c → ∀ c', Visits list c c' → ¬list.GoesWrong c' := by
  cases hstart : list.start query with
  | none =>
      refine iff_of_true ⟨.returned none, by simp, 0, fun fuel _ => ?_⟩ (by simp)
      simp [binarySearchUtf8, hstart]
  | some c =>
      rw [binarySearchUtf8_of_start hstart]
      have hinv := invariant_start hstart
      simp only [Option.some.injEq, forall_eq']
      constructor
      · intro hends c' hvisits hwrong
        exact not_ends_of_visits hfold hinv hvisits hwrong hends
      · intro hright
        exact run_ends hfold hinv hright

/-! ## Examples -/

/-- A list of lower-case texts. -/
def lowerCase (texts : List (List Nat)) : SearchedList :=
  { foldChar := fun ch => [ch], numberOfItems := texts.length, text := fun i => texts[i]? }

theorem Visits.eq_or_head {c c'' : Config} (h : Visits list c c'') :
    c'' = c ∨ ∃ c', list.step c = .inl c' ∧ Visits list c' c'' := by
  induction h with
  | refl => exact .inl rfl
  | next _ hstep ih =>
      rcases ih with rfl | ⟨c', hfirst, hvisits⟩
      · exact .inr ⟨_, hstep, .refl⟩
      · exact .inr ⟨c', hfirst, hvisits.next hstep⟩

/-- The search ends within this many turns, and each of them is as it should be. -/
def turnsAre (list : SearchedList) (P : Config → Bool) : Nat → Config → Bool
  | 0, _ => false
  | n + 1, c =>
      P c &&
        match list.step c with
        | .inl c' => turnsAre list P n c'
        | .inr _ => true

theorem Visits.of_turnsAre {P : Config → Bool} {n : Nat} {c c' : Config}
    (hturns : turnsAre list P n c = true) (h : Visits list c c') : P c' = true := by
  induction n generalizing c with
  | zero => simp [turnsAre] at hturns
  | succ n ih =>
      unfold turnsAre at hturns
      obtain ⟨hfirst, hrest⟩ := Bool.and_eq_true_iff.mp hturns
      rcases h.eq_or_head with rfl | ⟨c'', hstep, hvisits⟩
      · exact hfirst
      · rw [hstep] at hrest
        exact ih hrest hvisits

/-- The texts "aa", "ab", "ab", "ac" and "b". -/
def twoMatches : SearchedList := lowerCase [[97, 97], [97, 98], [97, 98], [97, 99], [98]]

/-- Both loops for the first character, and the first one for the second character. -/
theorem binary_search_ends_two_matches :
    Ends (twoMatches.binarySearchUtf8 [97, 98]) (· ≠ .undefined) := by
  refine (binary_search_ends_iff (fun _ => List.cons_ne_nil _ _) _).mpr
    fun c hstart c' hvisits => ?_
  obtain rfl := Option.some.inj hstart
  have hright := hvisits.of_turnsAre (P := fun c => !decide (twoMatches.GoesWrong c)) (n := 9)
    (by decide)
  simpa using hright

/-- The turns after the first one, as long as the search goes on. -/
def turns (list : SearchedList) : Nat → Config → Option Config
  | 0, c => some c
  | n + 1, c =>
      match list.step c with
      | .inl c' => turns list n c'
      | .inr _ => none

theorem visits_of_turns {n : Nat} {c c' : Config} (h : turns list n c = some c') :
    Visits list c c' := by
  induction n generalizing c with
  | zero =>
      obtain rfl := Option.some.inj h
      exact .refl
  | succ n ih =>
      unfold turns at h
      split at h
      · rename_i hstep
        exact (ih h).head hstep
      · simp at h

/-- The texts "ab", "ab", "a" and "ab". -/
def shortBelow : SearchedList := lowerCase [[97, 98], [97, 98], [97], [97, 98]]

/-- The first turn of the search for "abb". -/
def firstTurn : Config := ⟨⟨⟨0, 3, 1⟩, ⟨0, 3, 1⟩, 0, 3, none, 97, 1⟩, .topMost, [98, 98]⟩

/-- The turn that comes upon the short item at the bottom of two. -/
def wrongTurn : Config := ⟨⟨⟨1, 2, 2⟩, ⟨1, 3, 2⟩, 0, 3, none, 98, 3⟩, .topMost, []⟩

theorem binary_search_does_not_end :
    ¬∀ (list : SearchedList) (query : List Nat), (∀ ch, list.foldChar ch ≠ []) → query ≠ [] →
      Ends (list.binarySearchUtf8 query) (· ≠ .undefined) := by
  intro h
  have hfold : ∀ ch, shortBelow.foldChar ch ≠ [] := fun _ => List.cons_ne_nil _ _
  have hstart : shortBelow.start [97, 98, 98] = some firstTurn := by decide
  have hvisits : Visits shortBelow firstTurn wrongTurn := visits_of_turns (n := 13) (by decide)
  have hwrong : shortBelow.GoesWrong wrongTurn :=
    ⟨⟨some [97], 1⟩, by decide, .inl ⟨by decide, by decide⟩⟩
  refine not_ends_of_visits hfold (invariant_start hstart) hvisits hwrong ?_
  have hends := h shortBelow [97, 98, 98] hfold (List.cons_ne_nil _ _)
  rwa [binarySearchUtf8_of_start hstart] at hends

end SearchedList

end Drcpd.Search

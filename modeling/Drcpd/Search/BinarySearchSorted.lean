/-
  Search/BinarySearchSorted.lean --- binary search in a sorted list.

  In a sorted list the items with a common prefix are an interval, and their characters behind
  it are ascending.  The search for one character keeps its matches in the searched partitions,
  as long as no item at a center is shorter than the search depth.

  What the search gets wrong in spite of that: `bsearch_boundary` looks at the character behind
  an item whose length is the search depth, and `Needle` takes as many characters from the
  folded query as the query has, which may be too few.
-/
import Drcpd.Foundation.Lexicographic
import Drcpd.Search.BinarySearchEnds
import Mathlib.Data.Nat.Basic

set_option autoImplicit false

namespace Drcpd.Search

open Foundation (Ends prefix_of_between getD_le_getD_of_prefix concat_prefix_iff)

theorem ComparedString.length_set (foldChar : Nat → List Nat) (text : List Nat) :
    (set foldChar text).length = (cString text).length := by
  unfold set
  dsimp only
  split
  · rfl
  · simp only [length]
    omega

namespace SearchedList

variable (list : SearchedList)

/-! ## Sorted lists -/

/-- The folded text of an item. -/
def foldedText (position : Nat) : List Nat :=
  casefold list.foldChar (cString ((list.text position).getD []))

/-- The folded text of the item starts with these characters. -/
def StartsWith (start : List Nat) (position : Nat) : Prop :=
  position < list.numberOfItems ∧ start <+: list.foldedText position

def IsFirstWith (start : List Nat) (position : Nat) : Prop :=
  list.StartsWith start position ∧ ∀ i < position, ¬list.StartsWith start i

/-- The items can be had, and they are sorted by their folded texts.  Folding leaves characters
of each character, and takes nothing but NUL to NUL. -/
structure Sorted : Prop where
  fold : ∀ ch, list.foldChar ch ≠ []
  nul : ∀ ch, 0 ∈ list.foldChar ch ↔ ch = 0
  access : ∀ position < list.numberOfItems, list.text position ≠ none
  ascending : ∀ i j, i ≤ j → j < list.numberOfItems →
    ¬List.Lex (· < ·) (list.foldedText j) (list.foldedText i)

/-- The character of the item at the search depth, NUL at its end. -/
def charAt (s : BSearchState) (position : Nat) : Nat :=
  (list.foldedText position).getD s.depth 0

/-- The items with what has been searched for so far are those of the current interval. -/
structure Round (s : BSearchState) (pre : List Nat) : Prop where
  iterations : s.iterations = pre.length + 1
  nonempty : s.allTop ≤ s.allBottom
  bound : s.allBottom < list.numberOfItems
  starts : ∀ i, s.allTop ≤ i → i ≤ s.allBottom → pre <+: list.foldedText i
  only : ∀ i, list.StartsWith pre i → s.allTop ≤ i ∧ i ≤ s.allBottom

/-- The item has the character searched for. -/
def Matches (s : BSearchState) (position : Nat) : Prop :=
  s.allTop ≤ position ∧ position ≤ s.allBottom ∧ list.charAt s position = s.utf8Key

/-- The characters at the search depth are ascending. -/
def Ascending (s : BSearchState) : Prop :=
  ∀ i j, s.allTop ≤ i → i ≤ j → j ≤ s.allBottom → list.charAt s i ≤ list.charAt s j

variable {list}

/-- No match is above an item that is too small. -/
theorem Ascending.le_of_less {s : BSearchState} (h : list.Ascending s) {position i : Nat}
    (hposition : position ≤ s.allBottom) (hless : list.charAt s position < s.utf8Key)
    (hi : list.Matches s i) : position ≤ i := by
  by_contra hlt
  have hle := h i position hi.1 (Nat.le_of_not_le hlt) hposition
  rw [hi.2.2] at hle
  omega

/-- No match is below an item that is too great. -/
theorem Ascending.le_of_greater {s : BSearchState} (h : list.Ascending s) {position i : Nat}
    (hposition : s.allTop ≤ position) (hgreater : s.utf8Key < list.charAt s position)
    (hi : list.Matches s i) : i ≤ position := by
  by_contra hlt
  have hle := h position i hposition (Nat.le_of_not_le hlt) hi.2.1
  rw [hi.2.2] at hle
  omega

theorem Round.depth {s : BSearchState} {pre : List Nat} (h : list.Round s pre) :
    s.depth = pre.length := by
  simp [BSearchState.depth, h.iterations]

theorem Round.ascending {s : BSearchState} {pre : List Nat} (h : list.Round s pre)
    (hsorted : list.Sorted) : list.Ascending s := by
  intro i j htop hle hbottom
  unfold charAt
  rw [h.depth]
  exact getD_le_getD_of_prefix Nat.zero_le (h.starts i htop (Nat.le_trans hle hbottom))
    (h.starts j (Nat.le_trans htop hle) hbottom)
    (hsorted.ascending i j hle (Nat.lt_of_le_of_lt hbottom h.bound))

theorem Round.matches_iff {s : BSearchState} {pre : List Nat} (h : list.Round s pre)
    (hkey : s.utf8Key ≠ 0) (i : Nat) :
    list.Matches s i ↔ list.StartsWith (pre ++ [s.utf8Key]) i := by
  constructor
  · rintro ⟨htop, hbottom, hchar⟩
    unfold charAt at hchar
    rw [h.depth] at hchar
    exact ⟨Nat.lt_of_le_of_lt hbottom h.bound,
      (concat_prefix_iff hkey (h.starts i htop hbottom)).mpr hchar⟩
  · rintro ⟨hlt, hstarts⟩
    have hpre : pre <+: list.foldedText i := (List.prefix_append _ _).trans hstarts
    obtain ⟨htop, hbottom⟩ := h.only i ⟨hlt, hpre⟩
    refine ⟨htop, hbottom, ?_⟩
    unfold charAt
    rw [h.depth]
    exact (concat_prefix_iff hkey hpre).mp hstarts

/-- The next interval is that of the matches. -/
theorem Round.next {s : BSearchState} {pre : List Nat} (h : list.Round s pre)
    (hsorted : list.Sorted) (hkey : s.utf8Key ≠ 0) {top bottom : Nat}
    (htop : list.Matches s top) (hfirst : ∀ i, list.Matches s i → top ≤ i)
    (hbottom : list.Matches s bottom) (hlast : ∀ i, list.Matches s i → i ≤ bottom)
    {s' : BSearchState} (hiterations : s'.iterations = s.iterations + 1)
    (htop' : s'.allTop = top) (hbottom' : s'.allBottom = bottom) :
    list.Round s' (pre ++ [s.utf8Key]) := by
  refine ⟨?_, ?_, ?_, ?_, ?_⟩
  · simp [hiterations, h.iterations]
  · rw [htop', hbottom']
    exact hfirst bottom hbottom
  · rw [hbottom']
    exact Nat.lt_of_le_of_lt hbottom.2.1 h.bound
  · intro i hi hi'
    rw [htop'] at hi
    rw [hbottom'] at hi'
    have hbound := Nat.lt_of_le_of_lt hbottom.2.1 h.bound
    exact prefix_of_between ((h.matches_iff hkey top).mp htop).2
      ((h.matches_iff hkey bottom).mp hbottom).2
      (hsorted.ascending top i hi (Nat.lt_of_le_of_lt hi' hbound))
      (hsorted.ascending i bottom hi' hbound)
  · intro i hi
    rw [htop', hbottom']
    have hmatches := (h.matches_iff hkey i).mpr hi
    exact ⟨hfirst i hmatches, hlast i hmatches⟩

/-- The character that the search sees is that of the folded text. -/
theorem HasChar.eq_charAt {s : BSearchState} {position ch : Nat}
    (h : list.HasChar s position ch) : list.charAt s position = ch := by
  obtain ⟨cs, hcs, -, hch⟩ := h
  obtain ⟨text, htext, rfl⟩ := Option.map_eq_some_iff.mp hcs
  unfold charAt foldedText
  rw [htext, Option.getD_some]
  by_cases hpos : 0 < (cString text).length
  · simp only [ComparedString.set, hpos, if_true, ComparedString.getCharAt, Option.bind_some,
      List.getElem?_append] at hch
    rw [List.getD_eq_getElem?_getD]
    split at hch
    · rw [hch, Option.getD_some]
    · rename_i hge
      rw [List.getElem?_eq_none (Nat.le_of_not_lt hge), Option.getD_none]
      rw [List.getElem?_singleton] at hch
      split at hch
      · exact Option.some.inj hch
      · simp at hch
  · simp [ComparedString.set, hpos, ComparedString.getCharAt] at hch

/-! ## The search for the top-most match -/

variable (list) in
/-- The searched partitions keep the top-most match and the bottom-most one.  As long as halves
are picked, either they are the same, or the lower one begins where the upper one ends. -/
structure TopSound (s : BSearchState) : Prop where
  upperTop : s.allTop ≤ s.upper.top
  upperBottom : s.upper.bottom ≤ s.allBottom
  lowerTop : s.allTop ≤ s.lower.top
  lowerBottom : s.lower.bottom ≤ s.allBottom
  upper : ∀ i, list.Matches s i → s.upper.top ≤ i ∧ ∃ j, list.Matches s j ∧ j ≤ s.upper.bottom
  lower : ∀ i, list.Matches s i → i ≤ s.lower.bottom ∧ ∃ j, list.Matches s j ∧ s.lower.top ≤ j
  apart : s.upper.top + 2 ≤ s.upper.bottom →
    s.lower.top = s.upper.top ∧ s.lower.bottom = s.upper.bottom ∨
    s.upper.bottom ≤ s.lower.top ∧ list.charAt s s.upper.bottom = s.utf8Key

variable (list) in
/-- The upper partition is the top-most match, and the lower one keeps the bottom-most one. -/
structure BottomSound (s : BSearchState) : Prop where
  top : list.Matches s s.upper.top
  first : ∀ i, list.Matches s i → s.upper.top ≤ i
  lowerTop : s.allTop ≤ s.lower.top
  lowerBottom : s.lower.bottom ≤ s.allBottom
  lower : ∀ i, list.Matches s i → i ≤ s.lower.bottom ∧ ∃ j, list.Matches s j ∧ s.lower.top ≤ j

/-- What a turn of `bsearch_top_most` comes to in a sorted list. -/
def TopFinds (list : SearchedList) (s : BSearchState) :
    Except Failure (Result × BSearchState) → Prop
  | .ok (.searching, s') | .ok (.checkingBoundary, s') => list.TopSound s'
  | .ok (.foundMatch, s') => list.BottomSound s'
  | .ok (.foundApproximate, _) => ∀ i, ¬list.Matches s i
  | .ok (.internalFailure, _) | .error _ => False

theorem TopFinds.of_halved {s s' : BSearchState} {r : Result}
    (hr : r = .searching ∨ r = .checkingBoundary) (h : list.TopSound s') :
    TopFinds list s (.ok (r, s')) := by
  rcases hr with rfl | rfl
  · exact h
  · exact h

section TopMost

variable {s : BSearchState} (hasc : list.Ascending s) (h : list.TopInvariant s)
  (hs : list.TopSound s)

include hasc hs

omit hasc in
theorem topMost_unique_finds (hunique : s.upper.top = s.upper.bottom) :
    TopFinds list s
      (.ok (if s.utf8Key = list.charAt s s.upper.top then .foundMatch else .foundApproximate, s))
      := by
  have htop := hs.upperTop
  have hbottom := hs.upperBottom
  by_cases hkey : s.utf8Key = list.charAt s s.upper.top
  · rw [if_pos hkey]
    exact ⟨⟨htop, by omega, hkey.symm⟩, fun i hi => (hs.upper i hi).1, hs.lowerTop,
      hs.lowerBottom, hs.lower⟩
  · rw [if_neg hkey]
    intro i hi
    obtain ⟨-, j, hj, hle⟩ := hs.upper i hi
    have hge := (hs.upper j hj).1
    have hsame : j = s.upper.top := by omega
    exact hkey (hsame ▸ hj.2.2.symm)

include h

theorem topMost_linearSearch_finds (hsize : s.upper.bottom = s.upper.top + 1) :
    TopFinds list s (s.linearSearch .topMost (list.charAt s s.upper.center)) := by
  have htop := hs.upperTop
  have hbottom := hs.upperBottom
  -- the center is at the top, or it has stepped down from an item that is too small
  have hplaced : s.upper.center = s.upper.top ∨
      s.upper.center = s.upper.bottom ∧ list.charAt s s.upper.top < s.utf8Key := by
    rcases h.placed with hcentered | ⟨-, hcenter, ch, hchar, hless | ⟨-, hnot, -⟩⟩
    · have hcenter : s.upper.center = s.upper.computeCenter := hcentered.center
      rw [Partition.computeCenter] at hcenter
      omega
    · have hchar' : list.charAt s s.upper.top = ch := hchar.eq_charAt
      exact .inr ⟨hcenter, hchar'.symm ▸ hless⟩
    · cases hnot
  have hat : ∀ i, list.Matches s i →
      s.upper.top ≤ i ∧ (i = s.upper.top → s.upper.center = s.upper.top) := by
    intro i hi
    refine ⟨(hs.upper i hi).1, fun heq => ?_⟩
    rcases hplaced with hcenter | ⟨-, hless⟩
    · exact hcenter
    · have hkey := hi.2.2
      rw [heq] at hkey
      omega
  unfold BSearchState.linearSearch
  simp only [BSearchState.partition, BSearchState.setPartition, true_or, if_true]
  by_cases heq : s.utf8Key = list.charAt s s.upper.center
  · rw [if_pos heq]
    refine ⟨⟨?_, ?_, heq.symm⟩, fun i hi => ?_, hs.lowerTop, hs.lowerBottom, hs.lower⟩
    · simp only [Partition.lockAtCenter]
      omega
    · simp only [Partition.lockAtCenter]
      omega
    · simp only [Partition.lockAtCenter]
      obtain ⟨hle, himp⟩ := hat i hi
      by_cases hsame : i = s.upper.top
      · have := himp hsame
        omega
      · omega
  · rw [if_neg heq]
    by_cases hless : list.charAt s s.upper.center < s.utf8Key
    · rw [if_pos hless]
      by_cases hcenter : s.upper.center < s.upper.bottom
      · simp only [hcenter, if_true]
        exact ⟨htop, hbottom, hs.lowerTop, hs.lowerBottom, hs.upper, hs.lower, fun hlarge => by
          simp only [Partition.stepCenterDown] at hlarge
          omega⟩
      · -- none of the two is a match
        simp only [hcenter, if_false]
        have hnone : ∀ i, ¬list.Matches s i := by
          intro i hi
          obtain ⟨-, j, hj, hle⟩ := hs.upper i hi
          have hge := (hat j hj).1
          have hnot_center : j ≠ s.upper.center := by
            rintro rfl
            have := hj.2.2
            omega
          have hcenter_top := (hat j hj).2
          omega
        refine ⟨?_, ?_, hs.lowerTop, hs.lowerBottom, fun i hi => absurd hi (hnone i),
          fun i hi => absurd hi (hnone i), fun hlarge => ?_⟩
        · simp only [Partition.lockAtCenter]
          omega
        · simp only [Partition.lockAtCenter]
          omega
        · simp only [Partition.lockAtCenter] at hlarge
          omega
    · rw [if_neg hless]
      intro i hi
      obtain ⟨-, j, hj, hle⟩ := hs.upper i hi
      have hge := (hat j hj).1
      have hkey := hj.2.2
      -- the center is not behind the match, and greater than it
      have hcenter_le : s.upper.center ≤ j := by
        have := (hat j hj).2
        omega
      have hcenter_top : s.allTop ≤ s.upper.center := by omega
      have hle' := hasc s.upper.center j hcenter_top hcenter_le hj.2.1
      omega

/-- The center is too small: the upper half goes. -/
theorem topMost_pickHalf_finds_of_less (hsize : s.upper.top + 2 ≤ s.upper.bottom)
    (hcentered : s.upper.Centered) (hless : list.charAt s s.upper.center < s.utf8Key) :
    TopFinds list s (.ok ((s.narrowLower (list.charAt s s.upper.center)).pickHalf .topMost
      (list.charAt s s.upper.center))) := by
  have htop := hcentered.top_lt hsize
  have hbottom := hcentered.lt_bottom_iff.mpr (by omega)
  have hupperTop := hs.upperTop
  have hupperBottom := hs.upperBottom
  have hbefore : ∀ i, list.Matches s i → s.upper.center ≤ i := fun i =>
    hasc.le_of_less (by omega) hless
  have hle := Nat.le_of_lt hless
  obtain ⟨r, hr, hpick⟩ := BSearchState.pickHalf_topMost_of_lt hless
  rw [hpick]
  rcases hs.apart hsize with ⟨htop', hbottom'⟩ | ⟨htop', hkey⟩
  · have hsame : s.lower.center = s.upper.center := h.lower.center_eq hcentered htop' hbottom'
    rw [BSearchState.narrowLower_of_le hle (by omega)]
    refine .of_halved hr ⟨?_, hupperBottom, ?_, hs.lowerBottom, fun i hi => ?_, fun i hi => ?_,
      fun _ => .inl ⟨?_, hbottom'⟩⟩
    · simp only [Partition.between]
      omega
    · simp only [Partition.between]
      omega
    · exact ⟨hbefore i hi, (hs.upper i hi).2⟩
    · refine ⟨(hs.lower i hi).1, i, hi, ?_⟩
      have := hbefore i hi
      simp only [Partition.between]
      omega
    · simp only [Partition.between]
      omega
  · rw [BSearchState.narrowLower_of_apart hle (by omega)]
    refine .of_halved hr ⟨?_, hupperBottom, hs.lowerTop, hs.lowerBottom, fun i hi => ?_, hs.lower,
      fun _ => .inr ⟨htop', hkey⟩⟩
    · simp only [Partition.between]
      omega
    · exact ⟨hbefore i hi, (hs.upper i hi).2⟩

omit hasc in
/-- The center is a match: the top-most one is not below it, the bottom-most one not above. -/
theorem topMost_pickHalf_finds_of_match (hsize : s.upper.top + 2 ≤ s.upper.bottom)
    (hcentered : s.upper.Centered) (heq : list.charAt s s.upper.center = s.utf8Key) :
    TopFinds list s (.ok ((s.narrowLower (list.charAt s s.upper.center)).pickHalf .topMost
      (list.charAt s s.upper.center))) := by
  have htop := hcentered.top_lt hsize
  have hbottom := hcentered.lt_bottom_iff.mpr (by omega)
  have hupperTop := hs.upperTop
  have hupperBottom := hs.upperBottom
  have hmatch : list.Matches s s.upper.center := ⟨by omega, by omega, heq⟩
  have hle := Nat.le_of_eq heq
  obtain ⟨r, hr, hpick⟩ := BSearchState.pickHalf_topMost_of_le (Nat.le_of_eq heq.symm)
  rw [hpick]
  rcases hs.apart hsize with ⟨htop', hbottom'⟩ | ⟨htop', -⟩
  · have hsame : s.lower.center = s.upper.center := h.lower.center_eq hcentered htop' hbottom'
    rw [BSearchState.narrowLower_of_le hle (by omega)]
    refine .of_halved hr ⟨hupperTop, ?_, ?_, hs.lowerBottom, fun i hi => ?_, fun i hi => ?_,
      fun _ => .inr ⟨?_, heq⟩⟩
    · simp only [Partition.between]
      omega
    · simp only [Partition.between]
      omega
    · exact ⟨(hs.upper i hi).1, s.upper.center, hmatch, Nat.le_refl _⟩
    · refine ⟨(hs.lower i hi).1, s.upper.center, hmatch, ?_⟩
      simp only [Partition.between]
      omega
    · simp only [Partition.between]
      omega
  · rw [BSearchState.narrowLower_of_apart hle (by omega)]
    refine .of_halved hr ⟨hupperTop, ?_, hs.lowerTop, hs.lowerBottom, fun i hi => ?_, hs.lower,
      fun _ => .inr ⟨?_, heq⟩⟩
    · simp only [Partition.between]
      omega
    · exact ⟨(hs.upper i hi).1, s.upper.center, hmatch, Nat.le_refl _⟩
    · simp only [Partition.between]
      omega

/-- The center is too great: the lower half goes, in both partitions.  They are not apart, for
the last element of the upper one would be a match behind the center. -/
theorem topMost_pickHalf_finds_of_greater (hsize : s.upper.top + 2 ≤ s.upper.bottom)
    (hcentered : s.upper.Centered) (hgreater : s.utf8Key < list.charAt s s.upper.center) :
    TopFinds list s (.ok ((s.narrowLower (list.charAt s s.upper.center)).pickHalf .topMost
      (list.charAt s s.upper.center))) := by
  have htop := hcentered.top_lt hsize
  have hbottom := hcentered.lt_bottom_iff.mpr (by omega)
  have hupperTop := hs.upperTop
  have hupperBottom := hs.upperBottom
  have hbehind : ∀ i, list.Matches s i → i ≤ s.upper.center := fun i =>
    hasc.le_of_greater (by omega) hgreater
  obtain ⟨r, hr, hpick⟩ := BSearchState.pickHalf_topMost_of_le (Nat.le_of_lt hgreater)
  rw [hpick]
  rcases hs.apart hsize with ⟨htop', hbottom'⟩ | ⟨-, hkey⟩
  · have hsame : s.lower.center = s.upper.center := h.lower.center_eq hcentered htop' hbottom'
    rw [BSearchState.narrowLower_of_lt hgreater (by omega)]
    refine .of_halved hr ⟨hupperTop, ?_, hs.lowerTop, ?_, fun i hi => ?_, fun i hi => ?_,
      fun _ => .inl ⟨htop', ?_⟩⟩
    · simp only [Partition.between]
      omega
    · simp only [Partition.between]
      omega
    · exact ⟨(hs.upper i hi).1, i, hi, hbehind i hi⟩
    · refine ⟨?_, (hs.lower i hi).2⟩
      have := hbehind i hi
      simp only [Partition.between]
      omega
    · simp only [Partition.between]
      omega
  · have hlast : list.Matches s s.upper.bottom := ⟨by omega, hupperBottom, hkey⟩
    exact absurd hbottom (Nat.not_lt.mpr (hbehind _ hlast))

theorem topMost_pickHalf_finds (hsize : s.upper.top + 2 ≤ s.upper.bottom) :
    TopFinds list s (.ok ((s.narrowLower (list.charAt s s.upper.center)).pickHalf .topMost
      (list.charAt s s.upper.center))) := by
  have hcentered : s.upper.Centered := h.placed.centered_of_large hsize
  rcases Nat.lt_trichotomy (list.charAt s s.upper.center) s.utf8Key with hless | heq | hgreater
  · exact topMost_pickHalf_finds_of_less hasc h hs hsize hcentered hless
  · exact topMost_pickHalf_finds_of_match h hs hsize hcentered heq
  · exact topMost_pickHalf_finds_of_greater hasc h hs hsize hcentered hgreater

theorem topMost_finds {cs : ComparedString} (hlength : s.depth ≤ cs.length)
    (hch : cs.getCharAt s.depth = some (list.charAt s s.upper.center)) :
    TopFinds list s (s.bsearchBoundary .topMost cs) := by
  have hnonempty : s.upper.top ≤ s.upper.bottom := h.placed.nonempty
  rw [bsearchBoundary_of_char hlength hch]
  simp only [BSearchState.partition, if_true]
  by_cases hunique : s.upper.top = s.upper.bottom
  · have hle : s.upper.center ≤ s.upper.bottom := h.placed.center_le_bottom
    have hcenter : s.upper.center = s.upper.top :=
      Nat.le_antisymm (hunique ▸ hle) h.placed.top_le_center
    rw [if_pos hunique, hcenter]
    exact topMost_unique_finds hs hunique
  · rw [if_neg hunique]
    by_cases hsize : s.upper.size = 2
    · rw [if_pos hsize]
      rw [Partition.size] at hsize
      exact topMost_linearSearch_finds hasc h hs (by omega)
    · rw [if_neg hsize]
      rw [Partition.size] at hsize
      exact topMost_pickHalf_finds hasc h hs (by omega)

end TopMost

/-! ## The search for the bottom-most match -/

/-- What a turn of `bsearch_bottom_most` comes to in a sorted list. -/
def BottomFinds (list : SearchedList) (s : BSearchState) :
    Except Failure (Result × BSearchState) → Prop
  | .ok (.searching, s') | .ok (.checkingBoundary, s') => list.BottomSound s'
  | .ok (.foundMatch, s') =>
      s'.upper = s.upper ∧ list.Matches s s'.lower.bottom ∧
        ∀ i, list.Matches s i → i ≤ s'.lower.bottom
  | .ok (.foundApproximate, _) | .ok (.internalFailure, _) | .error _ => False

theorem BottomFinds.of_halved {s s' : BSearchState} {r : Result}
    (hr : r = .searching ∨ r = .checkingBoundary) (h : list.BottomSound s') :
    BottomFinds list s (.ok (r, s')) := by
  rcases hr with rfl | rfl
  · exact h
  · exact h

section BottomMost

variable {s : BSearchState} (hasc : list.Ascending s) (h : list.BottomInvariant s)
  (hs : list.BottomSound s)

include hasc h hs

theorem bottomMost_linearSearch_finds (hsize : s.lower.bottom = s.lower.top + 1) :
    BottomFinds list s (s.linearSearch .bottomMost (list.charAt s s.lower.center)) := by
  have htop := hs.lowerTop
  have hbottom := hs.lowerBottom
  have hplaced : s.lower.center = s.lower.top ∨ s.lower.center = s.lower.bottom ∧
      (list.charAt s s.lower.top < s.utf8Key ∨
        list.charAt s s.lower.top = s.utf8Key ∧ s.bottomCandidate = some s.lower.top) := by
    rcases h.placed with hcentered | ⟨-, hcenter, ch, hchar, hgoes⟩
    · have hcenter : s.lower.center = s.lower.computeCenter := hcentered.center
      rw [Partition.computeCenter] at hcenter
      omega
    · have hchar' : list.charAt s s.lower.top = ch := hchar.eq_charAt
      refine .inr ⟨hcenter, ?_⟩
      rcases hgoes with hless | ⟨heq, -, hcandidate⟩
      · exact .inl (hchar'.symm ▸ hless)
      · exact .inr ⟨hchar'.trans heq, hcandidate⟩
  -- one of the two is the bottom-most match
  obtain ⟨hle, j, hj, hge⟩ := hs.lower _ hs.top
  have hlast := (hs.lower j hj).1
  have hjkey := hj.2.2
  unfold BSearchState.linearSearch
  simp only [BSearchState.partition, BSearchState.setPartition, reduceCtorEq, false_or]
  by_cases heq : s.utf8Key = list.charAt s s.lower.center
  · rw [if_pos heq]
    by_cases hcenter : s.lower.bottom ≤ s.lower.center
    · simp only [hcenter, if_true]
      have hsame : s.lower.center = s.lower.bottom := by omega
      refine ⟨rfl, ⟨?_, ?_, heq.symm⟩, fun i hi => ?_⟩
      · simp only [Partition.lockAtCenter]
        omega
      · simp only [Partition.lockAtCenter]
        omega
      · simp only [Partition.lockAtCenter]
        exact Nat.le_trans (hs.lower i hi).1 hcenter
    · simp only [hcenter, if_false]
      exact ⟨hs.top, hs.first, htop, hbottom, hs.lower⟩
  · rw [if_neg heq]
    by_cases hless : list.charAt s s.lower.center < s.utf8Key
    · rw [if_pos hless]
      by_cases hcenter : s.lower.center < s.lower.bottom
      · simp only [hcenter, if_true]
        exact ⟨hs.top, hs.first, htop, hbottom, hs.lower⟩
      · -- the lower one of the two is too small, and so it is not behind a match
        have hsame : s.lower.center = s.lower.bottom := by omega
        have hascending := hasc j s.lower.bottom hj.1 hlast hbottom
        rw [hsame] at hless
        omega
    · rw [if_neg hless]
      rcases hplaced with hcenter | ⟨hcenter, hless' | ⟨htopkey, hcandidate⟩⟩
      · have hascending := hasc s.lower.center j (by omega) (by omega) hj.2.1
        omega
      · -- the upper one is too small, and the lower one is too great
        have hcase : j = s.lower.top ∨ j = s.lower.bottom := by omega
        rcases hcase with rfl | rfl
        · omega
        · rw [hcenter] at heq
          omega
      · rw [hcandidate]
        refine ⟨rfl, ⟨htop, ?_, htopkey⟩, fun i hi => ?_⟩
        · simp only [Partition.lockAtCenter]
          omega
        · simp only [Partition.lockAtCenter]
          have hi_le := (hs.lower i hi).1
          have hne : i ≠ s.lower.center := by
            rintro rfl
            exact heq hi.2.2.symm
          omega

theorem bottomMost_pickHalf_finds (hsize : s.lower.top + 2 ≤ s.lower.bottom) :
    BottomFinds list s (.ok (s.pickHalf .bottomMost (list.charAt s s.lower.center))) := by
  have hcentered : s.lower.Centered := h.placed.centered_of_large hsize
  have htop := hcentered.top_lt hsize
  have hbottom := hcentered.lt_bottom_iff.mpr (by omega)
  have hlowerTop := hs.lowerTop
  have hlowerBottom := hs.lowerBottom
  obtain ⟨-, j, hj, hge⟩ := hs.lower _ hs.top
  generalize hch : list.charAt s s.lower.center = ch
  by_cases hgreater : s.utf8Key < ch
  · obtain ⟨r, hr, hpick⟩ := BSearchState.pickHalf_bottomMost_of_lt hgreater
    rw [hpick]
    have hbehind : ∀ i, list.Matches s i → i ≤ s.lower.center := fun i =>
      hasc.le_of_greater (by omega) (hch ▸ hgreater)
    refine .of_halved hr ⟨hs.top, hs.first, hlowerTop, ?_, fun i hi => ⟨hbehind i hi, j, hj, hge⟩⟩
    simp only [Partition.between]
    omega
  · obtain ⟨r, hr, hpick⟩ := BSearchState.pickHalf_bottomMost_of_le (Nat.le_of_not_lt hgreater)
    rw [hpick]
    have hkept : ∃ j, list.Matches s j ∧ s.lower.center ≤ j := by
      by_cases hle : s.lower.center ≤ j
      · exact ⟨j, hj, hle⟩
      · -- the center is behind a match, and it is not greater
        refine ⟨s.lower.center, ⟨by omega, by omega, ?_⟩, Nat.le_refl _⟩
        have hascending := hasc j s.lower.center hj.1 (Nat.le_of_not_le hle) (by omega)
        rw [hch, hj.2.2] at hascending
        omega
    refine .of_halved hr ⟨hs.top, hs.first, ?_, hlowerBottom, fun i hi =>
      ⟨(hs.lower i hi).1, hkept⟩⟩
    simp only [Partition.between]
    omega

theorem bottomMost_finds {cs : ComparedString} (hlength : s.depth ≤ cs.length)
    (hch : cs.getCharAt s.depth = some (list.charAt s s.lower.center)) :
    BottomFinds list s (s.bsearchBoundary .bottomMost cs) := by
  have hnonempty : s.lower.top ≤ s.lower.bottom := h.placed.nonempty
  rw [bsearchBoundary_of_char hlength hch]
  simp only [BSearchState.partition, reduceCtorEq, if_false]
  by_cases hunique : s.lower.top = s.lower.bottom
  · have htop : s.lower.top ≤ s.lower.center := h.placed.top_le_center
    have hcenter : s.lower.center = s.lower.bottom :=
      Nat.le_antisymm h.placed.center_le_bottom (hunique ▸ htop)
    obtain ⟨-, j, hj, hge⟩ := hs.lower _ hs.top
    have hle := (hs.lower j hj).1
    have hsame : j = s.lower.bottom := by omega
    rw [if_pos hunique, hcenter, if_pos (hsame ▸ hj.2.2).symm]
    exact ⟨rfl, hsame ▸ hj, fun i hi => (hs.lower i hi).1⟩
  · rw [if_neg hunique]
    by_cases hsize : s.lower.size = 2
    · rw [if_pos hsize]
      rw [Partition.size] at hsize
      exact bottomMost_linearSearch_finds hasc h hs (by omega)
    · rw [if_neg hsize]
      rw [Partition.size] at hsize
      exact bottomMost_pickHalf_finds hasc h hs (by omega)

end BottomMost

/-! ## The search -/

/-- The two states are in the search for the same character. -/
structure SameRound (s' s : BSearchState) : Prop where
  allTop : s'.allTop = s.allTop
  allBottom : s'.allBottom = s.allBottom
  utf8Key : s'.utf8Key = s.utf8Key
  iterations : s'.iterations = s.iterations

theorem SameRound.round {s' s : BSearchState} (h : SameRound s' s) {pre : List Nat}
    (hround : list.Round s pre) : list.Round s' pre := by
  obtain ⟨hiterations, hnonempty, hbound, hstarts, honly⟩ := hround
  exact ⟨h.iterations.trans hiterations, by rw [h.allTop, h.allBottom]; exact hnonempty,
    by rw [h.allBottom]; exact hbound, by rw [h.allTop, h.allBottom]; exact hstarts,
    by rw [h.allTop, h.allBottom]; exact honly⟩

theorem sameRound_setPartition (s : BSearchState) (p : Partition) (b : Boundary) :
    SameRound (s.setPartition p b) s := by
  cases b <;> exact ⟨rfl, rfl, rfl, rfl⟩

theorem SameRound.trans {s'' s' s : BSearchState} (h' : SameRound s'' s') (h : SameRound s' s) :
    SameRound s'' s :=
  ⟨h'.allTop.trans h.allTop, h'.allBottom.trans h.allBottom, h'.utf8Key.trans h.utf8Key,
    h'.iterations.trans h.iterations⟩

theorem sameRound_linearSearch {s s' : BSearchState} {b : Boundary} {ch : Nat} {r : Result}
    (h : s.linearSearch b ch = .ok (r, s')) : SameRound s' s := by
  unfold BSearchState.linearSearch at h
  dsimp only at h
  split at h
  · split at h
    · obtain ⟨-, rfl⟩ := Prod.mk.inj (Except.ok.inj h)
      exact sameRound_setPartition _ _ _
    · obtain ⟨-, rfl⟩ := Prod.mk.inj (Except.ok.inj h)
      have hset := sameRound_setPartition s (s.partition b).stepCenterDown b
      exact ⟨hset.allTop, hset.allBottom, hset.utf8Key, hset.iterations⟩
  split at h
  · split at h <;>
    · obtain ⟨-, rfl⟩ := Prod.mk.inj (Except.ok.inj h)
      exact sameRound_setPartition _ _ _
  · cases b with
    | topMost =>
        obtain ⟨-, rfl⟩ := Prod.mk.inj (Except.ok.inj h)
        exact sameRound_setPartition _ _ _
    | bottomMost =>
        dsimp only at h
        split at h
        · obtain ⟨-, rfl⟩ := Prod.mk.inj (Except.ok.inj h)
          exact sameRound_setPartition _ _ _
        · simp at h

theorem sameRound_narrowLower (s : BSearchState) (ch : Nat) : SameRound (s.narrowLower ch) s := by
  unfold BSearchState.narrowLower
  split
  · split <;> exact ⟨rfl, rfl, rfl, rfl⟩
  · split <;> exact ⟨rfl, rfl, rfl, rfl⟩

theorem sameRound_pickHalf (s : BSearchState) (b : Boundary) (ch : Nat) :
    SameRound (s.pickHalf b ch).2 s := by
  unfold BSearchState.pickHalf
  dsimp only
  split
  · exact sameRound_setPartition _ _ _
  · split
    · exact (sameRound_setPartition _ _ _).trans ⟨rfl, rfl, rfl, rfl⟩
    · exact sameRound_setPartition _ _ _

theorem sameRound_bsearchBoundary {s s' : BSearchState} {b : Boundary} {cs : ComparedString}
    {r : Result} (h : s.bsearchBoundary b cs = .ok (r, s')) : SameRound s' s := by
  unfold BSearchState.bsearchBoundary at h
  dsimp only at h
  split at h
  · obtain ⟨-, rfl⟩ := Prod.mk.inj (Except.ok.inj h)
    exact sameRound_setPartition _ _ _
  split at h
  · simp at h
  split at h
  · obtain ⟨-, rfl⟩ := Prod.mk.inj (Except.ok.inj h)
    exact ⟨rfl, rfl, rfl, rfl⟩
  split at h
  · exact sameRound_linearSearch h
  · have hstate := congrArg Prod.snd (Except.ok.inj h)
    dsimp only at hstate
    rw [← hstate]
    split
    · exact (sameRound_pickHalf _ _ _).trans (sameRound_narrowLower _ _)
    · exact sameRound_pickHalf _ _ _

variable (list) in
/-- The item at the center is shorter than the search depth. -/
def IsShort (c : Config) : Prop :=
  ∃ cs, list.getCasefoldedString (c.state.partition c.boundary).center = some cs ∧
    cs.length < c.state.depth

variable (list) in
/-- `get_char_at` is called with the length of the item at the center. -/
def ReadsBeyond (c : Config) : Prop :=
  ∃ cs, list.getCasefoldedString (c.state.partition c.boundary).center = some cs ∧
    cs.length = c.state.depth

instance (c : Config) : Decidable (list.ReadsBeyond c) :=
  inferInstanceAs (Decidable (∃ cs ∈ list.getCasefoldedString
    (c.state.partition c.boundary).center, _))

variable (list) in
/-- What is known between two turns of the search for these characters in a sorted list. -/
structure Sound (chars : List Nat) (c : Config) : Prop where
  invariant : list.Invariant c
  round : ∃ pre, chars = pre ++ c.state.utf8Key :: c.rest ∧ list.Round c.state pre
  partitions : match c.boundary with
    | .topMost => list.TopSound c.state
    | .bottomMost => list.BottomSound c.state

theorem topSound_prepared (s : BSearchState) (utf8Char : Nat) :
    list.TopSound (s.prepareNextIteration utf8Char) :=
  ⟨Nat.le_refl _, Nat.le_refl _, Nat.le_refl _, Nat.le_refl _,
    fun i hi => ⟨hi.1, i, hi, hi.2.1⟩, fun i hi => ⟨hi.2.1, i, hi, hi.1⟩,
    fun _ => .inl ⟨rfl, rfl⟩⟩

/-- The item at the center can be had. -/
theorem Sound.exists_string (hsorted : list.Sorted) {chars : List Nat} {c : Config}
    (h : list.Sound chars c) :
    ∃ cs, list.getCasefoldedString (c.state.partition c.boundary).center = some cs := by
  obtain ⟨pre, -, hround⟩ := h.round
  have hbottom : (c.state.partition c.boundary).bottom ≤ c.state.allBottom := by
    obtain ⟨s, b, rest⟩ := c
    cases b with
    | topMost => exact TopSound.upperBottom h.partitions
    | bottomMost => exact BottomSound.lowerBottom h.partitions
  have hlt := Nat.lt_of_le_of_lt (Nat.le_trans h.invariant.placed.center_le_bottom hbottom)
    hround.bound
  obtain ⟨text, htext⟩ := Option.ne_none_iff_exists'.mp (hsorted.access _ hlt)
  exact ⟨.set list.foldChar text, by rw [getCasefoldedString, htext, Option.map_some]⟩

theorem startsWith_of_append {chars rest : List Nat} {position : Nat}
    (h : list.StartsWith (chars ++ rest) position) : list.StartsWith chars position :=
  ⟨h.1, (List.prefix_append _ _).trans h.2⟩

/-- There is only one first item. -/
theorem IsFirstWith.unique {start : List Nat} {i j : Nat} (hi : list.IsFirstWith start i)
    (hj : list.IsFirstWith start j) : i = j := by
  rcases Nat.lt_trichotomy i j with hlt | heq | hlt
  · exact absurd hi.1 (hj.2 i hlt)
  · exact heq
  · exact absurd hj.1 (hi.2 j hlt)

/-- What a turn comes to that goes on, or returns the first item with these characters. -/
def GoesOn (list : SearchedList) (chars : List Nat) (c : Config) : Prop :=
  (∃ r, list.step c = .inr (.returned r) ∧ ∀ m, list.IsFirstWith chars m → r = some m) ∨
  ∃ c', list.step c = .inl c' ∧ list.Sound chars c'

section Turn

variable (hsorted : list.Sorted) {chars : List Nat} (hnul : 0 ∉ chars) {s : BSearchState}
  {rest : List Nat} {cs : ComparedString} (hlength : s.depth ≤ cs.length)

include hsorted hnul hlength

theorem Sound.step_topMost (h : list.Sound chars ⟨s, .topMost, rest⟩)
    (hcs : list.getCasefoldedString s.upper.center = some cs)
    (hch : cs.getCharAt s.depth = some (list.charAt s s.upper.center))
    (hinvariant : ∀ c', list.step ⟨s, .topMost, rest⟩ = .inl c' → list.Invariant c') :
    list.GoesOn chars ⟨s, .topMost, rest⟩ := by
  obtain ⟨pre, hchars, hround⟩ := h.round
  dsimp only at hchars hround
  have hkey : s.utf8Key ≠ 0 := by
    intro hzero
    simp [hchars, hzero] at hnul
  have hfinds := topMost_finds (hround.ascending hsorted) h.invariant h.partitions hlength hch
  have houtcome := topMost_outcome h.invariant hcs (fun _ => hch)
    (fun hlt => absurd hlt (Nat.not_lt.mpr hlength))
  have hstring : list.getCasefoldedString (s.partition .topMost).center = some cs := hcs
  cases hboundary : s.bsearchBoundary .topMost cs with
  | error e => simp [hboundary, TopFinds] at hfinds
  | ok r =>
      obtain ⟨r, s'⟩ := r
      rw [hboundary] at hfinds houtcome
      have hsame := sameRound_bsearchBoundary hboundary
      have hround' := hsame.round hround
      have hchars' : chars = pre ++ s'.utf8Key :: rest := hsame.utf8Key ▸ hchars
      cases r with
      | internalFailure => exact hfinds.elim
      | searching =>
          have hstep : list.step ⟨s, .topMost, rest⟩ = .inl ⟨s', .topMost, rest⟩ := by
            simp only [SearchedList.step, hstring, hboundary]
          exact .inr ⟨_, hstep, hinvariant _ hstep, ⟨pre, hchars', hround'⟩, hfinds⟩
      | checkingBoundary =>
          have hstep : list.step ⟨s, .topMost, rest⟩ = .inl ⟨s', .topMost, rest⟩ := by
            simp only [SearchedList.step, hstring, hboundary]
          exact .inr ⟨_, hstep, hinvariant _ hstep, ⟨pre, hchars', hround'⟩, hfinds⟩
      | foundApproximate =>
          -- there is no item with the next character
          refine .inl ⟨s'.getResult, by simp only [SearchedList.step, hstring, hboundary], ?_⟩
          intro m hm
          have hstarts : list.StartsWith ((pre ++ [s.utf8Key]) ++ rest) m := by
            rw [List.append_assoc, List.singleton_append, ← hchars]
            exact hm.1
          have hmatches := (hround.matches_iff hkey m).mpr (startsWith_of_append hstarts)
          exact absurd hmatches (hfinds m)
      | foundMatch =>
          have hbottom : list.BottomSound s' := hfinds
          cases rest with
          | nil =>
              refine .inl ⟨s'.getResult, by
                simp only [SearchedList.step, hstring, hboundary, afterMatch], fun m hm => ?_⟩
              have hiff := fun i => hround'.matches_iff (hsame.utf8Key ▸ hkey) i
              rw [hchars'] at hm
              have hfirst : list.IsFirstWith (pre ++ [s'.utf8Key]) s'.upper.top := by
                refine ⟨(hiff _).mp hbottom.top, fun i hlt hi => ?_⟩
                exact absurd (hbottom.first i ((hiff i).mpr hi)) (Nat.not_le.mpr hlt)
              have hunique : s'.upper.top = s'.upper.bottom := houtcome.unique
              simp [BSearchState.getResult, Partition.isEmpty, ← hunique, hfirst.unique hm]
          | cons ch rest =>
              have hstep : list.step ⟨s, .topMost, ch :: rest⟩ =
                  .inl ⟨s', .bottomMost, ch :: rest⟩ := by
                simp only [SearchedList.step, hstring, hboundary, afterMatch]
              exact .inr ⟨_, hstep, hinvariant _ hstep, ⟨pre, hchars', hround'⟩, hbottom⟩

theorem Sound.step_bottomMost (h : list.Sound chars ⟨s, .bottomMost, rest⟩)
    (hcs : list.getCasefoldedString s.lower.center = some cs)
    (hch : cs.getCharAt s.depth = some (list.charAt s s.lower.center))
    (hinvariant : ∀ c', list.step ⟨s, .bottomMost, rest⟩ = .inl c' → list.Invariant c') :
    list.GoesOn chars ⟨s, .bottomMost, rest⟩ := by
  obtain ⟨pre, hchars, hround⟩ := h.round
  dsimp only at hchars hround
  have hkey : s.utf8Key ≠ 0 := by
    intro hzero
    simp [hchars, hzero] at hnul
  have hsound : list.BottomSound s := h.partitions
  have hfinds := bottomMost_finds (hround.ascending hsorted) h.invariant.1 hsound hlength hch
  have hstring : list.getCasefoldedString (s.partition .bottomMost).center = some cs := hcs
  cases hboundary : s.bsearchBoundary .bottomMost cs with
  | error e => simp [hboundary, BottomFinds] at hfinds
  | ok r =>
      obtain ⟨r, s'⟩ := r
      rw [hboundary] at hfinds
      have hsame := sameRound_bsearchBoundary hboundary
      have hround' := hsame.round hround
      have hchars' : chars = pre ++ s'.utf8Key :: rest := hsame.utf8Key ▸ hchars
      right
      cases r with
      | internalFailure => exact hfinds.elim
      | foundApproximate => exact hfinds.elim
      | searching =>
          have hstep : list.step ⟨s, .bottomMost, rest⟩ = .inl ⟨s', .bottomMost, rest⟩ := by
            simp only [SearchedList.step, hstring, hboundary]
          exact ⟨_, hstep, hinvariant _ hstep, ⟨pre, hchars', hround'⟩, hfinds⟩
      | checkingBoundary =>
          have hstep : list.step ⟨s, .bottomMost, rest⟩ = .inl ⟨s', .bottomMost, rest⟩ := by
            simp only [SearchedList.step, hstring, hboundary]
          exact ⟨_, hstep, hinvariant _ hstep, ⟨pre, hchars', hround'⟩, hfinds⟩
      | foundMatch =>
          obtain ⟨hupper, hbottom, hlast⟩ := hfinds
          cases rest with
          | nil => exact absurd rfl h.invariant.2
          | cons ch rest =>
              -- the search for the next character, in the interval of the matches
              have hstep : list.step ⟨s, .bottomMost, ch :: rest⟩ =
                  .inl ⟨s'.prepareForNextCharacter.prepareNextIteration ch, .topMost, rest⟩ := by
                simp only [SearchedList.step, hstring, hboundary, afterMatch]
              have hnext : list.Round (s'.prepareForNextCharacter.prepareNextIteration ch)
                  (pre ++ [s.utf8Key]) :=
                hround.next hsorted hkey hsound.top hsound.first hbottom hlast
                  (congrArg (· + 1) hsame.iterations) (congrArg Partition.top hupper) rfl
              refine ⟨_, hstep, hinvariant _ hstep, ⟨_, ?_, hnext⟩, topSound_prepared _ _⟩
              rw [hchars, List.append_assoc, List.singleton_append]
              rfl

end Turn

/-- One turn of the search in a sorted list. -/
theorem Sound.step (hsorted : list.Sorted) {chars : List Nat} (hnul : 0 ∉ chars) {c : Config}
    (h : list.Sound chars c) (hshort : ¬list.IsShort c) :
    list.step c = .inr .undefined ∨ list.GoesOn chars c := by
  obtain ⟨cs, hcs⟩ := h.exists_string hsorted
  have hlength : c.state.depth ≤ cs.length :=
    Nat.le_of_not_lt fun hlt => hshort ⟨cs, hcs, hlt⟩
  cases hch : cs.getCharAt c.state.depth with
  | none =>
      left
      simp only [SearchedList.step, hcs, BSearchState.bsearchBoundary, Nat.not_lt.mpr hlength,
        if_false, hch]
  | some ch =>
      right
      have hright : ¬list.GoesWrong c := by
        rintro ⟨cs', hcs', ⟨hlt, -⟩ | ⟨hempty, -⟩⟩
        · exact hshort ⟨cs', hcs', hlt⟩
        · obtain rfl := Option.some.inj (hcs.symm.trans hcs')
          obtain ⟨text, -, rfl⟩ := Option.map_eq_some_iff.mp hcs
          rw [ComparedString.getCharAt_of_empty hempty] at hch
          simp at hch
      have hinvariant : ∀ c', list.step c = .inl c' → list.Invariant c' := by
        intro c' hstep
        rcases step_of_right hsorted.fold h.invariant hright with
          ⟨outcome, hstep', -⟩ | ⟨c₂, hstep', hinv, -⟩
        · simp [hstep] at hstep'
        · obtain rfl : c' = c₂ := by simpa [hstep] using hstep'
          exact hinv
      rw [← HasChar.eq_charAt ⟨cs, hcs, hlength, hch⟩] at hch
      obtain ⟨s, b, rest⟩ := c
      cases b with
      | topMost => exact h.step_topMost hsorted hnul hlength hcs hch hinvariant
      | bottomMost => exact h.step_bottomMost hsorted hnul hlength hcs hch hinvariant

/-- What is known holds at all turns, if none of them comes upon a short item. -/
theorem Visits.sound (hsorted : list.Sorted) {chars : List Nat} (hnul : 0 ∉ chars)
    {c c' : Config} (hvisits : Visits list c c') (h : list.Sound chars c)
    (hshort : ∀ c'', Visits list c c'' → list.Sound chars c'' → ¬list.IsShort c'') :
    list.Sound chars c' := by
  induction hvisits with
  | refl => exact h
  | next hvisits hstep ih =>
      rcases ih.step hsorted hnul (hshort _ hvisits ih) with
        hundefined | ⟨r, hreturned, -⟩ | ⟨c₂, hstep', hsound⟩
      · simp [hundefined] at hstep
      · simp [hreturned] at hstep
      · obtain rfl := Sum.inl.inj (hstep.symm.trans hstep')
        exact hsound

/-- A search in which nothing goes wrong returns the first item with the characters. -/
theorem run_finds (hsorted : list.Sorted) {chars : List Nat} (hnul : 0 ∉ chars) {c : Config}
    (h : list.Sound chars c) (hshort : ∀ c', Visits list c c' → ¬list.IsShort c')
    (hright : ∀ c', Visits list c c' → ¬list.GoesWrong c') :
    Ends (fun fuel => list.run fuel c)
      (fun outcome => ∃ r, outcome = .returned r ∧ ∀ m, list.IsFirstWith chars m → r = some m) := by
  obtain ⟨outcome, hne, enough, hends⟩ := run_ends hsorted.fold h.invariant hright
  refine ⟨outcome, ?_, enough, hends⟩
  obtain ⟨c', hvisits, hstep⟩ := exists_visits_of_run (hends enough (Nat.le_refl _))
  have hsound := hvisits.sound hsorted hnul h fun c'' hvisits' _ => hshort c'' hvisits'
  rcases hsound.step hsorted hnul (hshort c' hvisits) with
    hundefined | ⟨r, hreturned, hfirst⟩ | ⟨c'', hstep', -⟩
  · exact absurd (Sum.inr.inj (hstep.symm.trans hundefined)) hne
  · exact ⟨r, Sum.inr.inj (hstep.symm.trans hreturned), hfirst⟩
  · simp [hstep] at hstep'

/-! ## The query -/

theorem zero_not_mem_casefold (hsorted : list.Sorted) (text : List Nat) :
    0 ∉ casefold list.foldChar (cString text) := by
  intro hmem
  obtain ⟨ch, hch, hzero⟩ := List.mem_flatMap.mp hmem
  have hne := List.all_eq_true.mp List.all_takeWhile ch hch
  simp [(hsorted.nul ch).mp hzero] at hne

theorem needle_starts (foldChar : Nat → List Nat) (query : List Nat) :
    needle foldChar query <+: casefold foldChar (cString query) := by
  unfold needle ComparedString.set
  dsimp only
  split
  · exact List.take_prefix _ _
  · simp

theorem casefold_cString_starts (foldChar : Nat → List Nat) (query : List Nat) :
    casefold foldChar (cString query) <+: casefold foldChar query := by
  obtain ⟨rest, hrest⟩ : cString query <+: query := List.takeWhile_prefix _
  refine ⟨casefold foldChar rest, ?_⟩
  rw [casefold, casefold, casefold, ← List.flatMap_append, hrest]

theorem zero_not_mem_needle (hsorted : list.Sorted) (query : List Nat) :
    0 ∉ needle list.foldChar query := fun hmem =>
  zero_not_mem_casefold hsorted query ((needle_starts _ _).subset hmem)

theorem StartsWith.needle {query : List Nat} {position : Nat}
    (h : list.StartsWith (casefold list.foldChar query) position) :
    list.StartsWith (needle list.foldChar query) position :=
  ⟨h.1, ((needle_starts _ _).trans (casefold_cString_starts _ _)).trans h.2⟩

/-- Where the search does not start, there is nothing to be found. -/
theorem not_startsWith_of_start (hsorted : list.Sorted) {query : List Nat} (hquery : query ≠ [])
    (hstart : list.start query = none) (position : Nat) :
    ¬list.StartsWith (casefold list.foldChar query) position := by
  rintro ⟨hlt, hstarts⟩
  unfold start at hstart
  simp only [List.isEmpty_iff, hquery, if_false, Nat.ne_of_gt (Nat.zero_lt_of_lt hlt)] at hstart
  split at hstart
  · rename_i hneedle
    have hlength : ¬0 < (cString query).length := by
      intro hpos
      have hle := ComparedString.length_le_length_casefold hsorted.fold (cString query)
      unfold Search.needle ComparedString.set at hneedle
      simp only [hpos, if_true, Option.getD_some, ComparedString.length,
        List.take_eq_nil_iff] at hneedle
      rcases hneedle with hzero | hnil
      · omega
      · rw [hnil, List.length_nil] at hle
        omega
    -- the query begins with a NUL character, and no text has one
    cases query with
    | nil => exact hquery rfl
    | cons ch query =>
        have hch : ch = 0 := by
          by_contra hne
          simp [cString, hne] at hlength
        have hzero : 0 ∈ casefold list.foldChar (ch :: query) :=
          List.mem_flatMap.mpr ⟨ch, List.mem_cons_self, (hsorted.nul ch).mpr hch⟩
        exact zero_not_mem_casefold hsorted _ (hstarts.subset hzero)
  · simp at hstart

theorem exists_isFirstWith {start : List Nat} {position : Nat}
    (h : list.StartsWith start position) : ∃ m, list.IsFirstWith start m := by
  induction position using Nat.strongRecOn with
  | ind position ih =>
      by_cases hearlier : ∃ i < position, list.StartsWith start i
      · obtain ⟨i, hlt, hi⟩ := hearlier
        exact ih i hlt hi
      · exact ⟨position, h, fun i hlt hi => hearlier ⟨i, hlt, hi⟩⟩

/-- What is known when the search starts. -/
theorem sound_start {query : List Nat} {c : Config} (hstart : list.start query = some c) :
    list.Sound (needle list.foldChar query) c := by
  have hinvariant := invariant_start hstart
  unfold start at hstart
  split at hstart
  · simp at hstart
  split at hstart
  · simp at hstart
  rename_i hitems
  split at hstart
  · simp at hstart
  rename_i utf8Char rest hneedle
  obtain rfl := Option.some.inj hstart
  refine ⟨hinvariant, ⟨[], hneedle, rfl, Nat.zero_le _, ?_, fun _ _ _ => List.nil_prefix, ?_⟩,
    topSound_prepared _ _⟩
  · show list.numberOfItems - 1 < list.numberOfItems
    omega
  · intro i hi
    refine ⟨Nat.zero_le i, ?_⟩
    show i ≤ list.numberOfItems - 1
    have := hi.1
    omega

/-! ## What is found -/

variable (list) in
/-- All turns that the search gets to. -/
def AllTurns (query : List Nat) (P : Config → Prop) : Prop :=
  ∀ c, list.start query = some c → ∀ c', Visits list c c' → P c'

variable (list) in
/-- The search returns, it looks at no character behind an item, and it finds the first item
that starts with the folded query, if there is one. -/
structure Finds (query : List Nat) : Prop where
  returns : Ends (list.binarySearchUtf8 query) fun outcome => ∃ r, outcome = .returned r ∧
    ∀ m, list.IsFirstWith (casefold list.foldChar query) m → r = some m
  within : list.AllTurns query fun c => ¬list.ReadsBeyond c

variable (list) in
/-- No item above the first match starts with the characters that are taken from the query. -/
def NeedleSuffices (query : List Nat) : Prop :=
  ∀ m, list.IsFirstWith (casefold list.foldChar query) m →
    ∀ i < m, ¬list.StartsWith (needle list.foldChar query) i

theorem GoesWrong.short_or_beyond {c : Config} (h : list.GoesWrong c) :
    list.IsShort c ∨ list.ReadsBeyond c := by
  obtain ⟨cs, hcs, ⟨hlt, -⟩ | ⟨hempty, hdepth⟩⟩ := h
  · exact .inl ⟨cs, hcs, hlt⟩
  · exact .inr ⟨cs, hcs, hempty.trans hdepth.symm⟩

theorem finds_iff_of_long (hsorted : list.Sorted) {query : List Nat} (hquery : query ≠ [])
    (hshort : list.AllTurns query fun c => ¬list.IsShort c)
    (hwithin : list.AllTurns query fun c => ¬list.ReadsBeyond c) :
    list.Finds query ↔ list.NeedleSuffices query := by
  cases hstart : list.start query with
  | none =>
      have hnone := not_startsWith_of_start hsorted hquery hstart
      refine iff_of_true
        ⟨.of_some (a := .returned none) (fun fuel => ?_) ⟨none, rfl, ?_⟩, hwithin⟩ ?_
      · simp only [binarySearchUtf8, hstart]
      · exact fun m hm => absurd hm.1 (hnone m)
      · exact fun m hm => absurd hm.1 (hnone m)
  | some c =>
      have hfound := run_finds hsorted (zero_not_mem_needle hsorted query) (sound_start hstart)
        (hshort c hstart) fun c' hvisits hwrong =>
          hwrong.short_or_beyond.elim (hshort c hstart c' hvisits) (hwithin c hstart c' hvisits)
      rw [← binarySearchUtf8_of_start hstart] at hfound
      constructor
      · intro hfinds m hm i hlt hi
        -- what is found is the first item with the characters taken from the query
        obtain ⟨outcome, ⟨⟨r, hr, hfirst⟩, r', hr', hneedle⟩, -⟩ := hfinds.returns.and hfound
        obtain ⟨m', hm'⟩ := exists_isFirstWith hm.1.needle
        have hsame : r = r' := by simpa [hr] using hr'
        have hmatch : m = m' := by simpa [hsame, hneedle m' hm'] using (hfirst m hm).symm
        exact hm'.2 i (hmatch ▸ hlt) hi
      · intro hneedle
        refine ⟨hfound.imp ?_, hwithin⟩
        rintro outcome ⟨r, hr, hfirst⟩
        exact ⟨r, hr, fun m hm => hfirst m ⟨hm.1.needle, hneedle m hm⟩⟩

/-- Where folding leaves the lengths of the texts as they are, no turn comes upon an item that is
shorter than the search depth. -/
theorem not_isShort_of_same_length (hsorted : list.Sorted) {query : List Nat}
    (hsame : ∀ i < list.numberOfItems, ∀ text, list.text i = some text →
      (list.foldedText i).length = (cString text).length) :
    list.AllTurns query fun c => ¬list.IsShort c := by
  have hlong : ∀ {c : Config}, list.Sound (needle list.foldChar query) c → ¬list.IsShort c := by
    intro c h
    rintro ⟨cs, hcs, hlt⟩
    obtain ⟨pre, -, hround⟩ := h.round
    have hbounds : c.state.allTop ≤ (c.state.partition c.boundary).top ∧
        (c.state.partition c.boundary).bottom ≤ c.state.allBottom := by
      obtain ⟨s, b, rest⟩ := c
      cases b with
      | topMost => exact ⟨TopSound.upperTop h.partitions, TopSound.upperBottom h.partitions⟩
      | bottomMost =>
          exact ⟨BottomSound.lowerTop h.partitions, BottomSound.lowerBottom h.partitions⟩
    have hcenter := h.invariant.placed.center_le_bottom
    have hplaced := h.invariant.placed.top_le_center
    have hstarts := hround.starts (c.state.partition c.boundary).center (by omega) (by omega)
    obtain ⟨text, htext, rfl⟩ := Option.map_eq_some_iff.mp hcs
    have hitems := hround.bound
    have hlength := hsame _ (by omega) text htext
    have hle := hstarts.length_le
    rw [hround.depth, ComparedString.length_set] at hlt
    omega
  intro c hstart c' hvisits
  exact hlong (hvisits.sound hsorted (zero_not_mem_needle hsorted query) (sound_start hstart)
    fun _ _ => hlong)

/-- For all sorted lists and queries.  If no turn comes upon an item that is shorter than the
search depth, as it is where folding keeps the lengths of the texts, the search finds what it
should exactly if no turn comes upon an item that ends at the search depth, and the characters
taken from the folded query suffice.  In any case no turn may come upon an item that ends at the
search depth, or upon a shorter one that is the last of its partition. -/
theorem binary_search_finds_iff (hsorted : list.Sorted) (query : List Nat) (hquery : query ≠ []) :
    (list.AllTurns query (fun c => ¬list.IsShort c) →
      (list.Finds query ↔
        list.AllTurns query (fun c => ¬list.ReadsBeyond c) ∧ list.NeedleSuffices query)) ∧
    ((∀ i < list.numberOfItems, ∀ text, list.text i = some text →
        (list.foldedText i).length = (cString text).length) →
      list.AllTurns query fun c => ¬list.IsShort c) ∧
    (list.Finds query → list.AllTurns query fun c => ¬list.ReadsBeyond c ∧ ¬list.GoesWrong c) := by
  refine ⟨fun hshort => ⟨fun hfinds => ?_, fun ⟨hwithin, hneedle⟩ => ?_⟩,
    not_isShort_of_same_length hsorted, fun hfinds c hstart c' hvisits => ?_⟩
  · exact ⟨hfinds.within, (finds_iff_of_long hsorted hquery hshort hfinds.within).mp hfinds⟩
  · exact (finds_iff_of_long hsorted hquery hshort hwithin).mpr hneedle
  · refine ⟨hfinds.within c hstart c' hvisits, fun hwrong => ?_⟩
    refine not_ends_of_visits hsorted.fold (invariant_start hstart) hvisits hwrong ?_
    rw [← binarySearchUtf8_of_start hstart]
    exact hfinds.returns.imp fun outcome ⟨r, hr, _⟩ => by simp [hr]

/-! ## Examples -/

theorem foldedText_lowerCase (texts : List (List Nat)) (position : Nat) :
    (lowerCase texts).foldedText position = cString ((texts[position]?).getD []) := by
  simp [foldedText, lowerCase, casefold]

/-- Lower-case texts that are in order. -/
theorem sorted_lowerCase {texts : List (List Nat)}
    (h : texts.Pairwise fun text text' => ¬List.Lex (· < ·) (cString text') (cString text)) :
    (lowerCase texts).Sorted := by
  refine ⟨fun _ => List.cons_ne_nil _ _, fun ch => by simp [lowerCase, eq_comm], ?_, ?_⟩
  · intro position hlt
    simpa [lowerCase] using hlt
  · intro i j hle hlt
    rw [foldedText_lowerCase, foldedText_lowerCase]
    have hj : j < texts.length := hlt
    rcases Nat.eq_or_lt_of_le hle with rfl | hless
    · exact List.lex_irrefl (fun x => Nat.lt_irrefl x) _
    · have hi := Nat.lt_trans hless hj
      simpa [hi, hj] using List.pairwise_iff_getElem.mp h i j hi hj hless

theorem binary_search_finds_two_matches : twoMatches.Finds [97, 98] := by
  have hsorted : twoMatches.Sorted := sorted_lowerCase (by decide)
  obtain ⟨hiff, hlong, -⟩ := binary_search_finds_iff hsorted [97, 98] (List.cons_ne_nil _ _)
  have hsame : ∀ i < twoMatches.numberOfItems, ∀ text, twoMatches.text i = some text →
      (twoMatches.foldedText i).length = (cString text).length := by
    intro i _ text htext
    have hget : [[97, 97], [97, 98], [97, 98], [97, 99], [98]][i]? = some text := htext
    rw [twoMatches, foldedText_lowerCase, hget, Option.getD_some]
  refine (hiff (hlong hsame)).mpr ⟨fun c hstart c' hvisits => ?_, fun m hm i hlt => hm.2 i hlt⟩
  obtain rfl := Option.some.inj hstart
  have hwithin := hvisits.of_turnsAre (P := fun c => !decide (twoMatches.ReadsBeyond c)) (n := 9)
    (by decide)
  simpa using hwithin

/-- The texts "a" and "ab". -/
def prefixAbove : SearchedList := lowerCase [[97], [97, 98]]

/-- The first turn of the search for "b" behind "a". -/
def secondCharacter : Config := ⟨⟨⟨0, 1, 0⟩, ⟨0, 1, 0⟩, 0, 1, none, 98, 2⟩, .topMost, []⟩

theorem binary_search_reads_beyond :
    ¬∀ (list : SearchedList) (query : List Nat), list.Sorted → query ≠ [] → list.Finds query := by
  intro h
  have hsorted : prefixAbove.Sorted :=
    sorted_lowerCase (by decide)
  have hfinds := h prefixAbove [97, 98] hsorted (List.cons_ne_nil _ _)
  have hvisits : Visits prefixAbove ⟨⟨⟨0, 1, 0⟩, ⟨0, 1, 0⟩, 0, 1, none, 97, 1⟩, .topMost, [98]⟩
      secondCharacter := visits_of_turns (n := 3) (by decide)
  exact hfinds.within _ (by decide) _ hvisits ⟨⟨some [97], 1⟩, by decide, by decide⟩

end SearchedList

end Drcpd.Search

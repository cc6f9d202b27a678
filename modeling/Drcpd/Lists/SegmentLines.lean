/-
  Lists/SegmentLines.lean --- segments as sets of lines (`cache_segment.hh`,
  `dbuslist_viewport.cc`).

  A segment that does not wrap around is the set of its lines.  The six kinds of
  intersection are characterised by the first lines of the two segments and the lines
  after their last ones; what `set_view` and `get_missing_segment` do follows from
  that.

  An empty segment has a first line too, and `intersection` looks at it: an empty
  segment lies inside another one if its first line does.
-/
import Mathlib.Order.Interval.Finset.Nat
import Mathlib.Tactic.Common
import Drcpd.Lists.Viewport

set_option autoImplicit false

namespace Drcpd.Lists

namespace Segment

/-- The lines of a segment. -/
def lines (s : Segment) : Finset Nat := Finset.Ico s.line (s.line + s.count)

@[simp] theorem mem_lines {s : Segment} {n : Nat} :
    n ∈ s.lines ↔ s.line ≤ n ∧ n < s.line + s.count := Finset.mem_Ico

theorem card_lines (s : Segment) : s.lines.card = s.count := by
  rw [lines, Nat.card_Ico, Nat.add_sub_cancel_left]

/-- `contains_line` is membership. -/
theorem containsLine_iff {s : Segment} (h : s.InRange) {n : Nat} :
    s.containsLine n = true ↔ n ∈ s.lines := by
  unfold containsLine
  rw [beyond_of_inRange h, decide_eq_true_iff, mem_lines]

theorem lines_subset_iff {s other : Segment} :
    s.lines ⊆ other.lines ↔
      s.count = 0 ∨ (other.line ≤ s.line ∧ s.line + s.count ≤ other.line + other.count) := by
  unfold lines
  rcases Nat.eq_zero_or_pos s.count with hempty | hpos
  · simp [hempty]
  · rw [Finset.Ico_subset_Ico_iff (by omega)]
    constructor
    · exact Or.inr
    · rintro (hempty | hinside)
      · omega
      · exact hinside

theorem card_lines_inter (s other : Segment) :
    (s.lines ∩ other.lines).card =
      min (s.line + s.count) (other.line + other.count) - max s.line other.line := by
  unfold lines
  rw [Finset.Ico_inter_Ico, Nat.card_Ico]

theorem disjoint_lines_iff {s other : Segment} :
    Disjoint s.lines other.lines ↔
      s.count = 0 ∨ other.count = 0 ∨ s.line + s.count ≤ other.line ∨
        other.line + other.count ≤ s.line := by
  rw [Finset.disjoint_iff_inter_eq_empty, ← Finset.card_eq_zero, card_lines_inter]
  omega

/-! ## The kinds of intersection -/

section Kinds

variable {s other : Segment}

/-- `intersection` with the comparisons of the source written out. -/
theorem intersection_eq (hs : s.InRange) (ho : other.InRange) :
    s.intersection other =
      if s.count = 0 then
        if other.count = 0 then
          (if s.line = other.line then .equal else .disjoint, 0)
        else
          (if other.line ≤ s.line ∧ s.line < other.line + other.count then .includedInOther
            else .disjoint, 0)
      else if other.count = 0 then
        (if s.line ≤ other.line ∧ other.line < s.line + s.count then .centerRemains
          else .disjoint, 0)
      else if s.line = other.line then
        if s.count < other.count then (.includedInOther, s.count)
        else if other.count < s.count then (.topRemains, other.count)
        else (.equal, s.count)
      else if s.line < other.line then
        if s.line + s.count ≤ other.line then (.disjoint, 0)
        else if s.line + s.count ≤ other.line + other.count then
          (.bottomRemains, s.line + s.count - other.line)
        else (.centerRemains, other.count)
      else if other.line + other.count ≤ s.line then (.disjoint, 0)
      else if other.line + other.count < s.line + s.count then
        (.topRemains, other.line + other.count - s.line)
      else (.includedInOther, s.count) := by
  unfold intersection
  simp only [containsLine_iff hs, containsLine_iff ho, mem_lines, beyond_of_inRange hs,
    beyond_of_inRange ho]

theorem intersection_equal_iff (hs : s.InRange) (ho : other.InRange) :
    (s.intersection other).1 = .equal ↔ s.line = other.line ∧ s.count = other.count := by
  rw [intersection_eq hs ho]
  split_ifs <;> simp only [true_iff, false_iff] <;> omega

theorem intersection_includedInOther_iff (hs : s.InRange) (ho : other.InRange) :
    (s.intersection other).1 = .includedInOther ↔
      other.line ≤ s.line ∧ s.line < other.line + other.count ∧
        s.line + s.count ≤ other.line + other.count ∧
        ¬(s.line = other.line ∧ s.count = other.count) := by
  rw [intersection_eq hs ho]
  split_ifs <;> simp only [true_iff, false_iff] <;> omega

theorem intersection_topRemains_iff (hs : s.InRange) (ho : other.InRange) :
    (s.intersection other).1 = .topRemains ↔
      other.line ≤ s.line ∧ s.line < other.line + other.count ∧
        other.line + other.count < s.line + s.count := by
  rw [intersection_eq hs ho]
  split_ifs <;> simp only [true_iff, false_iff] <;> omega

theorem intersection_bottomRemains_iff (hs : s.InRange) (ho : other.InRange) :
    (s.intersection other).1 = .bottomRemains ↔
      s.line < other.line ∧ other.line < s.line + s.count ∧
        s.line + s.count ≤ other.line + other.count := by
  rw [intersection_eq hs ho]
  split_ifs <;> simp only [true_iff, false_iff] <;> omega

theorem intersection_centerRemains_iff (hs : s.InRange) (ho : other.InRange) :
    (s.intersection other).1 = .centerRemains ↔
      s.line ≤ other.line ∧ other.line + other.count < s.line + s.count ∧
        (other.count = 0 ∨ s.line < other.line) := by
  rw [intersection_eq hs ho]
  split_ifs <;> simp only [true_iff, false_iff] <;> omega

/-- An empty segment is apart from another one if its first line is. -/
theorem intersection_disjoint_iff (hs : s.InRange) (ho : other.InRange) :
    (s.intersection other).1 = .disjoint ↔
      (s.line < other.line ∧ s.line + s.count ≤ other.line) ∨
        (other.line < s.line ∧ other.line + other.count ≤ s.line) := by
  rw [intersection_eq hs ho]
  split_ifs <;> simp only [true_iff, false_iff] <;> omega

/-- The size of an intersection is the number of lines in both segments. -/
theorem intersection_size (hs : s.InRange) (ho : other.InRange) :
    (s.intersection other).2 = (s.lines ∩ other.lines).card := by
  rw [intersection_eq hs ho, card_lines_inter]
  split_ifs <;> dsimp only <;> omega

/-- How the two intersections of a pair of segments are related. -/
structure KindsAgree (s other : Segment) : Prop where
  equal : (s.intersection other).1 = .equal ↔ (other.intersection s).1 = .equal
  disjoint : (s.intersection other).1 = .disjoint ↔ (other.intersection s).1 = .disjoint
  included : (other.intersection s).1 = .includedInOther ↔
    ((s.intersection other).1 = .centerRemains ∨ (s.intersection other).1 = .topRemains ∨
      (s.intersection other).1 = .bottomRemains) ∧ other.lines ⊆ s.lines
  /-- Neither of the segments lies inside the other one. -/
  proper : ¬s.lines ⊆ other.lines → ¬other.lines ⊆ s.lines →
    ((s.intersection other).1 = .topRemains ↔ (other.intersection s).1 = .bottomRemains)

theorem kindsAgree (hs : s.InRange) (ho : other.InRange) : KindsAgree s other where
  equal := by
    rw [intersection_equal_iff hs ho, intersection_equal_iff ho hs]
    omega
  disjoint := by
    rw [intersection_disjoint_iff hs ho, intersection_disjoint_iff ho hs]
    omega
  included := by
    rw [intersection_includedInOther_iff ho hs, intersection_centerRemains_iff hs ho,
      intersection_topRemains_iff hs ho, intersection_bottomRemains_iff hs ho,
      lines_subset_iff]
    omega
  proper := by
    rw [intersection_topRemains_iff hs ho, intersection_bottomRemains_iff ho hs,
      lines_subset_iff, lines_subset_iff]
    omega

end Kinds

end Segment

/-! ## Views and missing segments -/

namespace Viewport

variable {Item : Type}

/-- What a view segment for a line of a list is to be. -/
structure ViewsLine (view : Segment) (line count total : Nat) : Prop where
  size : view.lines.card = min count total
  inside : view.lines ⊆ Finset.range total
  shown : line ∈ view.lines
  contains : view.containsLine line = true

/-- The segment `set_view` chooses starts as near to the given line as it can, with all
lines asked for if there are as many. -/
theorem clippedView_eq {line count total : Nat} (hcount : count ≤ uintMax)
    (htotal : total ≤ uintMax) :
    clippedView line count total = ⟨min line (total - count), min count total⟩ := by
  have hmax : uintMax = 2 ^ 32 - 1 := rfl
  have hstart : (if uintMax - count < line then uintMax - count else line) =
      min line (uintMax - count) := by
    split_ifs <;> omega
  unfold clippedView
  rw [hstart]
  dsimp only
  rw [addUInt_of_lt (by omega)]
  split_ifs <;> simp only [Segment.mk.injEq] <;> omega

/-- A segment inside the list is chosen as it is. -/
theorem clippedView_of_inside {segment : Segment} {total : Nat}
    (hinside : segment.line + segment.count ≤ total) (htotal : total ≤ uintMax) :
    clippedView segment.line segment.count total = segment := by
  rw [clippedView_eq (by omega) htotal, Nat.min_eq_left (by omega), Nat.min_eq_left (by omega)]

theorem setView_viewsLine (v : Viewport Item) {line count total : Nat} (hline : line < total)
    (hcount : 1 ≤ count) (hcount' : count ≤ uintMax) (htotal : total ≤ uintMax) :
    ViewsLine (v.setView line count total).2.viewSegment line count total := by
  have hview : (v.setView line count total).2.viewSegment =
      ⟨min line (total - count), min count total⟩ := clippedView_eq hcount' htotal
  have hrange : (v.setView line count total).2.viewSegment.InRange := by
    rw [hview]
    have hmax : uintMax = 2 ^ 32 - 1 := rfl
    unfold Segment.InRange
    dsimp only
    omega
  have hshown : line ∈ (v.setView line count total).2.viewSegment.lines := by
    rw [hview, Segment.mem_lines]
    dsimp only
    omega
  refine ⟨?_, fun n hn => ?_, hshown, (Segment.containsLine_iff hrange).mpr hshown⟩
  · rw [Segment.card_lines, hview]
  · rw [hview, Segment.mem_lines] at hn
    rw [Finset.mem_range]
    dsimp only at hn
    omega

/-- The cached lines begin after the first line of the view and end before its last
one. -/
def CachedInside (v : Viewport Item) : Prop :=
  v.itemsSegment.count ≠ 0 ∧ v.viewSegment.line < v.itemsSegment.line ∧
    v.itemsSegment.line + v.itemsSegment.count < v.viewSegment.line + v.viewSegment.count

/-- What the missing segment of a viewport is to be. -/
structure MissingSound (v : Viewport Item) : Prop where
  inside : v.CachedInside → v.getMissingSegment = v.viewSegment
  apart : Disjoint v.viewSegment.lines v.itemsSegment.lines →
    v.getMissingSegment = v.viewSegment
  missing : ¬v.CachedInside →
    v.getMissingSegment.lines = v.viewSegment.lines \ v.itemsSegment.lines
  uncached : ¬v.CachedInside → Disjoint v.getMissingSegment.lines v.itemsSegment.lines

section Missing

variable {v : Viewport Item}

theorem MissingSound.of_whole (hmissing : v.getMissingSegment = v.viewSegment)
    (hapart : ¬v.CachedInside → Disjoint v.viewSegment.lines v.itemsSegment.lines) :
    MissingSound v where
  inside _ := hmissing
  apart _ := hmissing
  missing hinside := by
    rw [hmissing]
    exact (Finset.sdiff_eq_self_of_disjoint (hapart hinside)).symm
  uncached hinside := by
    rw [hmissing]
    exact hapart hinside

theorem MissingSound.of_part (hinside : ¬v.CachedInside)
    (hmissing : v.getMissingSegment.lines = v.viewSegment.lines \ v.itemsSegment.lines)
    (hapart : Disjoint v.viewSegment.lines v.itemsSegment.lines →
      v.getMissingSegment = v.viewSegment) : MissingSound v where
  inside h := absurd h hinside
  apart := hapart
  missing _ := hmissing
  uncached _ := by
    rw [hmissing]
    exact Finset.sdiff_disjoint

/-- Where the view lies inside the cached lines, nothing is missing. -/
theorem MissingSound.of_nothing
    (hinside : v.itemsSegment.line ≤ v.viewSegment.line ∧
      v.viewSegment.line + v.viewSegment.count ≤
        v.itemsSegment.line + v.itemsSegment.count)
    (hmissing : v.getMissingSegment = ⟨v.viewSegment.line, 0⟩) : MissingSound v := by
  have hsubset : v.viewSegment.lines ⊆ v.itemsSegment.lines :=
    Segment.lines_subset_iff.mpr (Or.inr hinside)
  apply MissingSound.of_part
  · rintro ⟨-, hline, -⟩
    omega
  · rw [hmissing, Finset.sdiff_eq_empty_iff_subset.mpr hsubset]
    exact Finset.Ico_self _
  · -- an empty view is its own missing segment
    intro hdisjoint
    have hcount : v.viewSegment.count = 0 := by
      rw [← Segment.card_lines, Finset.card_eq_zero]
      exact Finset.disjoint_self_iff_empty _ |>.mp (hdisjoint.mono_right hsubset)
    rw [hmissing, ← hcount]

/-- Where the view and the cached lines overlap, but neither contains the other, the rest of
the view is missing. -/
theorem MissingSound.of_rest {line count : Nat} (hinside : ¬v.CachedInside)
    (hmissing : v.getMissingSegment = ⟨line, count⟩)
    (hrest : ∀ n, (line ≤ n ∧ n < line + count) ↔
      (v.viewSegment.line ≤ n ∧ n < v.viewSegment.line + v.viewSegment.count) ∧
        ¬(v.itemsSegment.line ≤ n ∧ n < v.itemsSegment.line + v.itemsSegment.count))
    (hoverlap : ¬Disjoint v.viewSegment.lines v.itemsSegment.lines) : MissingSound v := by
  apply MissingSound.of_part hinside
  · ext n
    rw [hmissing, Finset.mem_sdiff, Segment.mem_lines, Segment.mem_lines, Segment.mem_lines]
    exact hrest n
  · intro hdisjoint
    exact absurd hdisjoint hoverlap

theorem missingSound (hview : v.viewSegment.InRange) (hitems : v.itemsSegment.InRange) :
    MissingSound v := by
  rcases hkind : v.viewSegment.intersection v.itemsSegment with ⟨kind, isize⟩
  have hfirst : (v.viewSegment.intersection v.itemsSegment).1 = kind := by rw [hkind]
  cases kind with
  | disjoint =>
    have hapart := (Segment.intersection_disjoint_iff hview hitems).mp hfirst
    apply MissingSound.of_whole
    · unfold getMissingSegment
      rw [hkind]
    · intro _
      rw [Segment.disjoint_lines_iff]
      omega
  | centerRemains =>
    have hcenter := (Segment.intersection_centerRemains_iff hview hitems).mp hfirst
    apply MissingSound.of_whole
    · unfold getMissingSegment
      rw [hkind]
    · intro hinside
      unfold CachedInside at hinside
      rw [Segment.disjoint_lines_iff]
      omega
  | equal =>
    have hequal := (Segment.intersection_equal_iff hview hitems).mp hfirst
    apply MissingSound.of_nothing
    · omega
    · unfold getMissingSegment
      rw [hkind]
  | includedInOther =>
    have hincluded := (Segment.intersection_includedInOther_iff hview hitems).mp hfirst
    apply MissingSound.of_nothing
    · omega
    · unfold getMissingSegment
      rw [hkind]
  | topRemains =>
    obtain ⟨hstart, hend, hpos, hlt⟩ := Segment.of_topRemains hview hitems hkind
    have hmissing : v.getMissingSegment =
        ⟨v.viewSegment.line + isize, v.viewSegment.count - isize⟩ := by
      unfold getMissingSegment
      rw [hkind]
      dsimp only
      unfold Segment.InRange at hview
      rw [addUInt_of_lt (by omega)]
    refine MissingSound.of_rest ?_ hmissing (fun n => ?_) ?_
    · rintro ⟨-, hline, -⟩
      omega
    · omega
    · rw [Segment.disjoint_lines_iff]
      omega
  | bottomRemains =>
    obtain ⟨hstart, hend, hpos, hle, hlt⟩ := Segment.of_bottomRemains hview hitems hkind
    have hmissing : v.getMissingSegment =
        ⟨v.viewSegment.line, v.viewSegment.count - isize⟩ := by
      unfold getMissingSegment
      rw [hkind]
    refine MissingSound.of_rest ?_ hmissing (fun n => ?_) ?_
    · rintro ⟨-, -, hinside⟩
      omega
    · omega
    · rw [Segment.disjoint_lines_iff]
      omega

end Missing

end Viewport

/-! ## All segments and views -/

/-- Segments are intersected, views chosen and missing segments computed as for sets of
lines: the sizes and the kinds of the intersections of two segments agree with each other
and with the lines; a view holds the line it is set for, with as many lines of the list as
there are and are asked for; and what is missing in a view is what is not cached, or all
of it if the cached lines lie strictly inside it or apart from it. -/
theorem segments_are_line_sets {Item : Type} :
    (∀ s other : Segment, s.InRange → other.InRange →
      (s.intersection other).2 = (s.lines ∩ other.lines).card ∧ s.KindsAgree other) ∧
    (∀ (v : Viewport Item) (line count total : UInt32), line < total → 1 ≤ count →
      Viewport.ViewsLine (v.setView line.toNat count.toNat total.toNat).2.viewSegment
        line.toNat count.toNat total.toNat) ∧
    (∀ v : Viewport Item, v.viewSegment.InRange → v.itemsSegment.InRange →
      v.MissingSound) := by
  refine ⟨fun s other hs ho => ?_, fun v line count total hline hcount => ?_,
    fun v hview hitems => Viewport.missingSound hview hitems⟩
  · exact ⟨Segment.intersection_size hs ho, Segment.kindsAgree hs ho⟩
  · exact v.setView_viewsLine (UInt32.lt_iff_toNat_lt.mp hline)
      (UInt32.le_iff_toNat_le.mp hcount) (Nat.le_sub_one_of_lt (UInt32.toNat_lt count))
      (Nat.le_sub_one_of_lt (UInt32.toNat_lt total))

/-- The last lines of a list, of which the first ones are cached. -/
theorem segments_are_line_sets_tail :
    ((⟨16, 4⟩ : Segment).intersection ⟨14, 4⟩).2 = 2 ∧
      Segment.KindsAgree ⟨16, 4⟩ ⟨14, 4⟩ ∧
      (({ cacheSize := 4, itemsSegment := ⟨14, 4⟩ } : Viewport Nat).setView 19 4 20
        ).2.MissingSound ∧
      Viewport.ViewsLine (({ cacheSize := 4 } : Viewport Nat).setView 19 4 20).2.viewSegment
        19 4 20 := by
  obtain ⟨hsegments, hviews, hmissing⟩ := @segments_are_line_sets Nat
  obtain ⟨hsize, hkinds⟩ := hsegments ⟨16, 4⟩ ⟨14, 4⟩ (by unfold Segment.InRange; decide)
    (by unfold Segment.InRange; decide)
  refine ⟨hsize.trans (by rw [Segment.card_lines_inter]; rfl), hkinds, ?_, ?_⟩
  · exact hmissing _ (by unfold Segment.InRange; decide) (by unfold Segment.InRange; decide)
  · exact hviews _ 19 4 20 (by decide) (by decide)

end Drcpd.Lists

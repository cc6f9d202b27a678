/-
  Lists/ViewportCache.lean --- the cache of a viewport shows the lines of a list.

  `row` is what a list has in its lines.  `Shows` says that the items of a viewport are
  those of the lines they are cached for.  It is kept by an update with the rows of the
  missing segment, as long as the items kept fit the view (`Fits`).
-/
import Mathlib.Tactic.Common
import Drcpd.Lists.Viewport

set_option autoImplicit false

namespace Drcpd.Lists

variable {Item : Type}

/-! ## Replacing and appending items -/

namespace RamList

theorem appendAll_eq (items : RamList Item) (rest : List Item) :
    items.appendAll rest = items ++ rest.map some := by
  induction rest generalizing items with
  | nil => simp [appendAll]
  | cons item rest ih => simp [appendAll, append, ih]

/-- The replacing loop stays inside the vector if all rows do, and puts them in
order. -/
theorem replaceFrom_spec (items : RamList Item) (line : Nat) (rest : List Item)
    (h : line + rest.length ≤ items.length) :
    ∃ items', items.replaceFrom line rest = some items' ∧ items'.length = items.length ∧
      ∀ i, items'[i]? =
        if line ≤ i ∧ i < line + rest.length then rest[i - line]?.map some else items[i]? := by
  induction rest generalizing items line with
  | nil =>
    refine ⟨items, rfl, rfl, fun i => ?_⟩
    rw [if_neg]
    simp only [List.length_nil, Nat.add_zero]
    omega
  | cons item rest ih =>
    rw [List.length_cons] at h
    have hline : line < items.length := by omega
    have hset : items.replace line item = some (items.set line (some item)) := by
      rw [replace, if_pos hline]
    obtain ⟨items', heq, hlength, hget⟩ :=
      ih (items.set line (some item)) (line + 1) (by rw [List.length_set]; omega)
    refine ⟨items', ?_, by rw [hlength, List.length_set], fun i => ?_⟩
    · rw [replaceFrom, hset]
      exact heq
    · rw [hget, List.length_cons]
      rcases Nat.lt_trichotomy i line with hi | hi | hi
      · rw [if_neg (by omega), if_neg (by omega), List.getElem?_set_ne (by omega)]
      · subst hi
        rw [if_neg (by omega), if_pos (by omega), List.getElem?_set_self hline, Nat.sub_self]
        rfl
      · by_cases hlast : i < line + 1 + rest.length
        · have hsub : i - line = i - (line + 1) + 1 := by omega
          rw [if_pos (by omega), if_pos (by omega), hsub, List.getElem?_cons_succ]
        · rw [if_neg (by omega), if_neg (by omega), List.getElem?_set_ne (by omega)]

end RamList

/-! ## Views -/

namespace Viewport

theorem clippedView_inRange {line count total : Nat} (hcount : count ≤ uintMax)
    (htotal : total ≤ uintMax) : (clippedView line count total).InRange := by
  have hmax : uintMax = 2 ^ 32 - 1 := rfl
  unfold clippedView Segment.InRange
  dsimp only
  split_ifs with hline hend hend hlarge hlarge
  · dsimp only
    omega
  · dsimp only
    omega
  · dsimp only
    omega
  · dsimp only
    omega
  · dsimp only
    omega
  · dsimp only
    omega

/-- The cached items are those of the lines they are cached for. -/
structure Shows (v : Viewport Item) (row : Nat → Item) : Prop where
  viewRange : v.viewSegment.InRange
  itemsRange : v.itemsSegment.InRange
  shown : ∀ i item, i < v.itemsSegment.count → v.items[i]? = some (some item) →
    item = row (v.itemsSegment.line + i)

/-- Where some cached items are kept for the view, the vector holds exactly the items
of the cached segment, and it is as long as the view needs. -/
def Fits (v : Viewport Item) : Prop :=
  match (v.viewSegment.intersection v.itemsSegment).1 with
  | .topRemains =>
      v.items.length = v.itemsSegment.count ∧ v.viewSegment.count ≤ v.items.length
  | .bottomRemains =>
      v.items.length = v.itemsSegment.count ∧ v.viewSegment.count = v.items.length
  | .disjoint | .equal | .centerRemains | .includedInOther => True

instance (v : Viewport Item) : Decidable v.Fits := by
  unfold Fits
  split <;> infer_instance

namespace Shows

variable {v : Viewport Item} {row : Nat → Item}

theorem itemAt (h : v.Shows row) {line : Nat} {item : Item}
    (hitem : (v.itemAt line).1 = some item) : item = row line := by
  unfold Viewport.itemAt at hitem
  dsimp only at hitem
  split_ifs at hitem with hline
  obtain ⟨hle, hlt⟩ := Segment.offset_lt_of_containsLine hline
  have hget : v.items[line - v.itemsSegment.line]? = some (some item) :=
    Option.join_eq_some_iff.mp hitem
  have hrow := h.shown _ item hlt hget
  rwa [Nat.add_sub_cancel' hle] at hrow

theorem clearForLine (h : v.Shows row) (row' : Nat → Item) {line : Nat} (hline : line < 2 ^ 32) :
    (v.clearForLine line).Shows row' where
  viewRange := h.viewRange
  itemsRange := by
    change line + 0 < 2 ^ 32
    omega
  shown i item hi := by cases hi

/-- An empty cache shows every list. -/
theorem of_empty (h : v.Shows row) (hempty : v.itemsSegment.count = 0) (row' : Nat → Item) :
    v.Shows row' where
  viewRange := h.viewRange
  itemsRange := h.itemsRange
  shown i item hi := by
    rw [hempty] at hi
    cases hi

theorem setView (h : v.Shows row) (line : Nat) {count total : Nat} (hcount : count ≤ uintMax)
    (htotal : total ≤ uintMax) : (v.setView line count total).2.Shows row where
  viewRange := clippedView_inRange hcount htotal
  itemsRange := h.itemsRange
  shown := h.shown

end Shows

/-- The rows of a segment. -/
def segmentRows (row : Nat → Item) (segment : Segment) : List Item :=
  (List.range segment.count).map fun i => row (segment.line + i)

theorem segmentRows_length (row : Nat → Item) (segment : Segment) :
    (segmentRows row segment).length = segment.count := by
  simp [segmentRows]

theorem segmentRows_get {row : Nat → Item} {segment : Segment} {i : Nat}
    (h : i < segment.count) : (segmentRows row segment)[i]? = some (row (segment.line + i)) := by
  simp [segmentRows, h]

/-! ## Updates -/

section Update

variable {v : Viewport Item} {row : Nat → Item}

/-- The update when nothing of the cache is kept. -/
theorem updateCache_of_whole (h : v.Shows row) (hmissing : v.getMissingSegment = v.viewSegment)
    (hprepare : v.prepareUpdate = some (0, [])) :
    ∃ v', v.updateCache (segmentRows row v.getMissingSegment) = some v' ∧ v'.Shows row := by
  unfold updateCache
  rw [hprepare, hmissing]
  cases hrows : segmentRows row v.viewSegment with
  | nil => exact ⟨_, rfl, h.viewRange, h.itemsRange, nofun⟩
  | cons first rest =>
    refine ⟨_, rfl, h.viewRange, h.viewRange, ?_⟩
    intro i item hi hget
    change (RamList.appendAll [] (first :: rest))[i]? = some (some item) at hget
    rw [← hrows, RamList.appendAll_eq, List.nil_append, List.getElem?_map,
      segmentRows_get hi] at hget
    exact (Option.some.inj (Option.some.inj hget)).symm

/-- The update when the view is in the cache already. -/
theorem updateCache_of_nothing (h : v.Shows row) (hmissing : v.getMissingSegment.count = 0)
    (hprepare : v.prepareUpdate = some (0, v.items)) :
    ∃ v', v.updateCache (segmentRows row v.getMissingSegment) = some v' ∧ v'.Shows row := by
  unfold updateCache
  have hrows : segmentRows row v.getMissingSegment = [] :=
    List.length_eq_zero_iff.mp ((segmentRows_length _ _).trans hmissing)
  rw [hprepare, hrows]
  exact ⟨_, rfl, h.viewRange, h.itemsRange, h.shown⟩

/-- The update when some items are kept: they have been moved to their places in the
view, and the others are replaced. -/
theorem updateCache_of_part {gap : Nat} {items : RamList Item} (h : v.Shows row)
    (hprepare : v.prepareUpdate = some (gap, items))
    (hline : v.getMissingSegment.line = v.viewSegment.line + gap)
    (hcount : 0 < v.getMissingSegment.count)
    (hroom : gap + v.getMissingSegment.count ≤ items.length)
    (hkept : ∀ i item, i < v.viewSegment.count →
      ¬(gap ≤ i ∧ i < gap + v.getMissingSegment.count) → items[i]? = some (some item) →
      item = row (v.viewSegment.line + i)) :
    ∃ v', v.updateCache (segmentRows row v.getMissingSegment) = some v' ∧ v'.Shows row := by
  have hlength := segmentRows_length row v.getMissingSegment
  have hnonempty : items ≠ [] := by
    apply List.ne_nil_of_length_pos
    omega
  obtain ⟨items', hreplace, -, hget⟩ :=
    RamList.replaceFrom_spec items gap (segmentRows row v.getMissingSegment)
      (by rw [hlength]; exact hroom)
  refine ⟨{ v with items := items', itemsSegment := v.viewSegment }, ?_, h.viewRange,
    h.viewRange, ?_⟩
  · unfold updateCache updateCacheRegion
    rw [hprepare]
    cases hrows : segmentRows row v.getMissingSegment with
    | nil =>
      rw [hrows, List.length_nil] at hlength
      omega
    | cons first rest =>
      dsimp only
      rw [if_neg hnonempty, ← hrows, hreplace]
      rfl
  · intro i item hi hitem
    change items'[i]? = some (some item) at hitem
    rw [hget, hlength] at hitem
    split_ifs at hitem with hgap
    · -- a row of the missing segment
      rw [segmentRows_get (by omega), hline] at hitem
      have hrow := Option.some.inj (Option.some.inj hitem)
      rw [← hrow]
      apply congrArg row
      change v.viewSegment.line + gap + (i - gap) = v.viewSegment.line + i
      omega
    · exact hkept i item hi hgap hitem

/-- The items at the top of the view are kept. -/
theorem updateCache_of_top {isize : Nat} (h : v.Shows row) (hfits : v.Fits)
    (hkind : v.viewSegment.intersection v.itemsSegment = (.topRemains, isize)) :
    ∃ v', v.updateCache (segmentRows row v.getMissingSegment) = some v' ∧ v'.Shows row := by
  obtain ⟨hstart, hend, hpos, hlt⟩ := Segment.of_topRemains h.viewRange h.itemsRange hkind
  have hview : v.viewSegment.line + v.viewSegment.count < 2 ^ 32 := h.viewRange
  have hmissing : v.getMissingSegment =
      ⟨v.viewSegment.line + isize, v.viewSegment.count - isize⟩ := by
    unfold getMissingSegment
    rw [hkind]
    dsimp only
    rw [addUInt_of_lt (by omega)]
  have hlen : v.items.length = v.itemsSegment.count ∧
      v.viewSegment.count ≤ v.items.length := by
    unfold Fits at hfits
    rw [hkind] at hfits
    exact hfits
  have hprepare : v.prepareUpdate = some (isize,
      v.items.drop (v.items.length - isize) ++
        List.replicate (v.items.length - isize) none) := by
    unfold prepareUpdate RamList.shiftUp
    rw [hkind]
    dsimp only
    rw [if_neg (by omega), if_neg (by omega), if_neg (by omega), Option.map_some]
  refine updateCache_of_part h hprepare (by rw [hmissing]) (by rw [hmissing]; dsimp only; omega)
    ?_ ?_
  · rw [hmissing]
    simp only [List.length_append, List.length_drop, List.length_replicate]
    omega
  · intro i item hi hgap hitem
    rw [hmissing] at hgap
    dsimp only at hgap
    rw [List.getElem?_append_left (by rw [List.length_drop]; omega),
      List.getElem?_drop] at hitem
    have hrow := h.shown _ item (by omega) hitem
    rw [hrow]
    apply congrArg row
    omega

/-- The items at the bottom of the view are kept. -/
theorem updateCache_of_bottom {isize : Nat} (h : v.Shows row) (hfits : v.Fits)
    (hkind : v.viewSegment.intersection v.itemsSegment = (.bottomRemains, isize)) :
    ∃ v', v.updateCache (segmentRows row v.getMissingSegment) = some v' ∧ v'.Shows row := by
  obtain ⟨hstart, hend, hpos, hle, hlt⟩ :=
    Segment.of_bottomRemains h.viewRange h.itemsRange hkind
  have hmissing : v.getMissingSegment =
      ⟨v.viewSegment.line, v.viewSegment.count - isize⟩ := by
    unfold getMissingSegment
    rw [hkind]
  have hlen : v.items.length = v.itemsSegment.count ∧
      v.viewSegment.count = v.items.length := by
    unfold Fits at hfits
    rw [hkind] at hfits
    exact hfits
  have hprepare : v.prepareUpdate = some (0,
      List.replicate (v.items.length - isize) none ++
        v.items.take (v.items.length - (v.items.length - isize))) := by
    unfold prepareUpdate RamList.shiftDown
    rw [hkind]
    dsimp only
    rw [if_neg (by omega), if_neg (by omega), if_neg (by omega), Option.map_some]
  refine updateCache_of_part h hprepare (by rw [hmissing]; rfl)
    (by rw [hmissing]; dsimp only; omega) ?_ ?_
  · rw [hmissing]
    simp only [List.length_append, List.length_take, List.length_replicate]
    omega
  · intro i item hi hgap hitem
    rw [hmissing] at hgap
    dsimp only at hgap
    rw [List.getElem?_append_right (by rw [List.length_replicate]; omega),
      List.length_replicate, List.getElem?_take_of_lt (by omega)] at hitem
    have hrow := h.shown _ item (by omega) hitem
    rw [hrow]
    apply congrArg row
    omega

/-- An update with the rows of the missing segment, where the items kept fit the
view. -/
theorem Shows.updateCache (h : v.Shows row) (hfits : v.Fits) :
    ∃ v', v.updateCache (segmentRows row v.getMissingSegment) = some v' ∧ v'.Shows row := by
  rcases hkind : v.viewSegment.intersection v.itemsSegment with ⟨kind, isize⟩
  cases kind with
  | disjoint =>
    apply updateCache_of_whole h
    · unfold getMissingSegment
      rw [hkind]
    · unfold prepareUpdate
      rw [hkind]
  | centerRemains =>
    apply updateCache_of_whole h
    · unfold getMissingSegment
      rw [hkind]
    · unfold prepareUpdate
      rw [hkind]
  | equal =>
    apply updateCache_of_nothing h
    · unfold getMissingSegment
      rw [hkind]
    · unfold prepareUpdate
      rw [hkind]
  | includedInOther =>
    apply updateCache_of_nothing h
    · unfold getMissingSegment
      rw [hkind]
    · unfold prepareUpdate
      rw [hkind]
  | topRemains => exact updateCache_of_top h hfits hkind
  | bottomRemains => exact updateCache_of_bottom h hfits hkind

end Update

end Viewport

end Drcpd.Lists

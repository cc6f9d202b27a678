/-
  Lists/NavRuns.lean --- the selected line in all runs of a navigation.

  The item displayed first is always found by going back from the cursor by the selected line.
  So a navigation is consistent exactly if the line is one of the display, and no more visible
  items are needed above the cursor than there are.

  For each operation there is a condition on the state before it: recovering the cursor, setting
  it near the top of a long list, and moving it over or to unselectable items may all select a
  line that there is not.
-/
import Drcpd.Foundation.Run
import Drcpd.Lists.Nav

set_option autoImplicit false

namespace Drcpd.Lists

open Foundation (AlongRun countBelow searchUp searchDown)

namespace Nav

variable {f : NavItemFilter} {nav : Nav}

/-- The cursor is a selectable item, the selected line is one of the display, the item displayed
first is visible, and there are as many visible items from it to the cursor as there are lines
above the selected one. -/
structure Sound (f : NavItemFilter) (nav : Nav) : Prop where
  cursor : nav.cursor < f.numberOfItems ∧ f.isSelectable nav.cursor = true
  line : nav.selectedLineNumber <
    min nav.maximumNumberOfDisplayedLines f.totalNumberOfVisibleItems
  first : nav.firstDisplayedItem < f.numberOfItems ∧ f.isVisible nav.firstDisplayedItem = true
  between : Nat.count (fun item => nav.firstDisplayedItem ≤ item ∧ f.isVisible item = true)
    nav.cursor = nav.selectedLineNumber

/-- An operation leads to a state as it should be. -/
def SoundAfter (f : NavItemFilter) (after : Option Nav) : Prop :=
  ∃ nav, after = some nav ∧ nav.Sound f

/-- The number of visible items above the item. -/
def visibleAbove (f : NavItemFilter) (item : Nat) : Nat := countBelow f.isVisible item

/-- The number of selectable items above the item. -/
def selectableAbove (f : NavItemFilter) (item : Nat) : Nat := countBelow f.isSelectable item

/-- The selected line is one of the display, and there are enough items above the cursor. -/
def LineFits (f : NavItemFilter) (nav : Nav) : Prop :=
  nav.selectedLineNumber < nav.maximumNumberOfDisplayedLines ∧
    nav.selectedLineNumber ≤ visibleAbove f nav.cursor

/-- The first selectable item can be shown in the lines below the visible items above it. -/
def RecoverFits (f : NavItemFilter) (maxLines : Nat) : Prop :=
  visibleAbove f f.firstSelectableItem < maxLines

/-- The cursor is recovered, or it is set to a line that is near the end of the list or not near
its start. -/
def SetCursorFits (f : NavItemFilter) (maxLines lineNumber : Nat) : Prop :=
  if lineNumber ≠ 0 ∧ (f.mapLineNumberToItem lineNumber).any f.isSelectable = true then
    f.totalNumberOfVisibleItems < maxLines ∨
      f.totalNumberOfVisibleItems - lineNumber - 1 < maxLines - centerLine maxLines ∨
      centerLine maxLines ≤ lineNumber
  else RecoverFits f maxLines

/-- The count for `down` as it is fixed up. -/
def fixedDown (f : NavItemFilter) (nav : Nav) (count : Nat) : Bool × Nat :=
  if count = 0 then (false, 0) else fixDownCount f nav count

/-- The count for `up` as it is fixed up. -/
def fixedUp (f : NavItemFilter) (nav : Nav) (count : Nat) : Bool × Nat :=
  if count = 0 then (false, 0) else fixUpCount f nav count

/-- Where the last selectable item is reached, the items behind it are no more than the lines
above the one selected for it. -/
def DownFits (f : NavItemFilter) (nav : Nav) (count : Nat) (changed : Bool) : Prop :=
  let fixed := fixedDown f nav count
  let left := selectableAbove f f.lastSelectableItem - selectableAbove f nav.cursor
  if fixed.1 = true then RecoverFits f nav.maximumNumberOfDisplayedLines
  else fixed.2 = 0 ∧ changed = false ∨
    (left ≤ fixed.2 → f.lastVisibleItem - f.lastSelectableItem ≤
      min (nav.maximumNumberOfDisplayedLines - 1) (nav.selectedLineNumber + left))

/-- The item reached has at least as many visible items above it as lines are left above the
selected one; for the first selectable item, lines for the items before it come on top, and
there have to be as many lines. -/
def UpFits (f : NavItemFilter) (nav : Nav) (count : Nat) (changed : Bool) : Prop :=
  let fixed := fixedUp f nav count
  if fixed.1 = true then SetCursorFits f nav.maximumNumberOfDisplayedLines (fixed.2 - 1)
  else fixed.2 = 0 ∧ changed = false ∨ nav.cursor ≤ f.firstSelectableItem ∨
    ∀ item < f.numberOfItems, f.isSelectable item = true →
      selectableAbove f item = selectableAbove f nav.cursor - fixed.2 →
        if item = f.firstSelectableItem then
          let lines := addUInt (nav.selectedLineNumber - selectableAbove f nav.cursor)
            (f.firstSelectableItem - f.firstVisibleItem)
          lines < nav.maximumNumberOfDisplayedLines ∧ lines ≤ visibleAbove f item
        else nav.selectedLineNumber - fixed.2 ≤ visibleAbove f item

/-- The conditions for the operations. -/
def StepFits (f : NavItemFilter) (nav : Nav) : NavEvent → Prop
  | .down count changed => DownFits f nav count changed
  | .up count changed => UpFits f nav count changed
  | .setCursorByLineNumber lineNumber =>
      SetCursorFits f nav.maximumNumberOfDisplayedLines lineNumber
  | .getCursor => True

instance (nav : Nav) : Decidable (LineFits f nav) := inferInstanceAs (Decidable (_ ∧ _))

instance (maxLines : Nat) : Decidable (RecoverFits f maxLines) :=
  inferInstanceAs (Decidable (_ < _))

instance (maxLines lineNumber : Nat) : Decidable (SetCursorFits f maxLines lineNumber) := by
  unfold SetCursorFits
  infer_instance

instance (nav : Nav) (count : Nat) (changed : Bool) : Decidable (DownFits f nav count changed) := by
  unfold DownFits
  infer_instance

instance (nav : Nav) (count : Nat) (changed : Bool) : Decidable (UpFits f nav count changed) := by
  unfold UpFits
  infer_instance

instance (nav : Nav) (e : NavEvent) : Decidable (StepFits f nav e) := by
  cases e <;> unfold StepFits <;> infer_instance

section Steps

variable (hf : f.Consistent)

include hf

theorem numberOfItems_pos : 0 < f.numberOfItems :=
  Nat.lt_of_le_of_lt (Nat.zero_le _) hf.firstSelectable.1

theorem isVisible_eq : isVisible f = f.isVisible := by
  funext item
  simp [isVisible, numberOfItems_pos hf]

theorem isSelectable_eq : isSelectable f = f.isSelectable := by
  funext item
  simp [isSelectable, numberOfItems_pos hf]

/-- Going back over lines stops at the first visible item. -/
theorem stepBackLines_spec (lines : Nat) {item : Nat} (hitem : item < f.numberOfItems)
    (hvisible : f.isVisible item = true) :
    ∃ first, stepBackLines f lines item = some first ∧ first ≤ item ∧
      f.isVisible first = true ∧ visibleAbove f first = visibleAbove f item - lines := by
  induction lines generalizing item with
  | zero => exact ⟨item, rfl, Nat.le_refl item, hvisible, rfl⟩
  | succ lines ih =>
      have hpos := Foundation.countBelow_pos_iff (i := item) hf.firstVisible.2.1
        hf.firstVisible.2.2
      unfold stepBackLines
      by_cases hlt : f.firstVisibleItem < item
      · obtain ⟨k, hk, hkitem, hkvisible, hcount⟩ := Foundation.searchDown_spec (hpos.mpr hlt)
        obtain ⟨first, hfirst, hle, hfvisible, hfcount⟩ := ih (Nat.lt_trans hkitem hitem) hkvisible
        refine ⟨first, ?_, by omega, hfvisible, ?_⟩
        · rw [if_pos hlt, stepBackVisible, isVisible_eq hf, hk]
          exact hfirst
        · rw [hfcount]
          unfold visibleAbove
          omega
      · rw [if_neg hlt]
        refine ⟨item, rfl, Nat.le_refl item, hvisible, ?_⟩
        unfold visibleAbove
        omega

/-- The item displayed first is found, and the state is as it should be exactly if the line
fits. -/
theorem recoverFirstDisplayedItem_iff (hcursor : nav.cursor < f.numberOfItems)
    (hselectable : f.isSelectable nav.cursor = true) :
    SoundAfter f (recoverFirstDisplayedItemByCursor f nav) ↔ LineFits f nav := by
  have hvisible := hf.visible nav.cursor hcursor hselectable
  obtain ⟨first, hfirst, hle, hfvisible, hcount⟩ :=
    stepBackLines_spec hf nav.selectedLineNumber hcursor hvisible
  have htotal : visibleAbove f nav.cursor < f.totalNumberOfVisibleItems := by
    rw [hf.total]
    exact Foundation.countBelow_lt hvisible hcursor
  have hbetween := Foundation.count_between (p := f.isVisible) first nav.cursor
  unfold recoverFirstDisplayedItemByCursor
  rw [hfirst]
  unfold visibleAbove at hcount htotal
  constructor
  · rintro ⟨nav', hnav', hsound⟩
    obtain rfl := Option.some.inj hnav'
    have hline := hsound.line
    have hexact := hsound.between
    dsimp only at hline hexact
    unfold LineFits visibleAbove
    omega
  · rintro ⟨hline, habove⟩
    unfold visibleAbove at habove
    refine ⟨_, rfl, ⟨hcursor, hselectable⟩, ?_, ⟨Nat.lt_of_le_of_lt hle hcursor, hfvisible⟩, ?_⟩
    · dsimp only
      omega
    · dsimp only
      omega

omit hf in
theorem Sound.lineFits (h : nav.Sound f) : LineFits f nav := by
  have hline := h.line
  have hexact := h.between
  rw [Foundation.count_between] at hexact
  unfold LineFits visibleAbove
  omega

/-! ## Recovering the cursor -/

/-- The lines counted to the cursor, as far as there are lines. -/
theorem countLines_spec {cursor : Nat} (hcursor : cursor < f.numberOfItems)
    (hcvisible : f.isVisible cursor = true) (lines : Nat) {item : Nat}
    (hitem : f.isVisible item = true) :
    countLines f cursor lines item =
      some (min lines (visibleAbove f cursor - visibleAbove f item)) := by
  induction lines generalizing item with
  | zero => simp [countLines]
  | succ lines ih =>
      unfold countLines
      by_cases hlt : item < cursor
      · obtain ⟨k, hk, hik, hkc, hkvisible, hcount⟩ :=
          Foundation.searchUp_spec (f.numberOfItems - 1 - item) hlt hcvisible (by omega)
        rw [if_pos hlt, stepForwardVisible, isVisible_eq hf, hk]
        rw [Foundation.countBelow_succ_of_marked hitem] at hcount
        have hmono := Foundation.countBelow_mono (p := f.isVisible) hkc
        have hnext := ih hkvisible
        simp only [Option.bind_some, hnext, Option.map_some, Option.some.injEq]
        unfold visibleAbove
        omega
      · rw [if_neg hlt]
        have hmono := Foundation.countBelow_mono (p := f.isVisible) (Nat.le_of_not_lt hlt)
        unfold visibleAbove
        simp only [Option.some.injEq]
        omega

theorem recoverCursorAndSelection_iff :
    SoundAfter f (recoverCursorAndSelection f nav) ↔
      RecoverFits f nav.maximumNumberOfDisplayedLines := by
  have hnonempty : ¬f.numberOfItems = 0 := Nat.ne_of_gt (numberOfItems_pos hf)
  have hvisible := hf.visible _ hf.firstSelectable.1 hf.firstSelectable.2.1
  have hzero : visibleAbove f f.firstVisibleItem = 0 :=
    Foundation.countBelow_eq_zero_iff.mpr hf.firstVisible.2.2
  unfold recoverCursorAndSelection
  rw [if_neg hnonempty, countLines_spec hf hf.firstSelectable.1 hvisible _ hf.firstVisible.2.1,
    hzero, Option.bind_some, recoverFirstDisplayedItem_iff hf hf.firstSelectable.1
      hf.firstSelectable.2.1]
  unfold LineFits RecoverFits
  dsimp only
  omega

/-! ## Setting the cursor -/

omit hf in
theorem centerLine_lt {maxLines lineNumber : Nat} (hmax : maxLines < 2 ^ 32)
    (hline : lineNumber + 1 < 2 ^ 32) (h : centerLine maxLines ≤ lineNumber) :
    centerLine maxLines < maxLines := by
  unfold centerLine subUInt addUInt at *
  omega

theorem setCursorByLineNumber_iff (lineNumber : Nat) :
    SoundAfter f (setCursorByLineNumber f nav lineNumber) ↔
      SetCursorFits f nav.maximumNumberOfDisplayedLines lineNumber := by
  unfold setCursorByLineNumber SetCursorFits
  by_cases hzero : lineNumber = 0
  · simp only [hzero, if_true, ne_eq, not_true, false_and, if_false]
    exact recoverCursorAndSelection_iff hf
  · rw [if_neg hzero]
    cases hitem : f.mapLineNumberToItem lineNumber with
    | none =>
        simp only [Option.any_none, Bool.false_eq_true, and_false, if_false]
        exact recoverCursorAndSelection_iff hf
    | some item =>
        by_cases hselectable : f.isSelectable item = true
        · obtain ⟨hbound, hvisible, habove⟩ := (hf.lineToItem lineNumber item).mp hitem
          have htotal : lineNumber < f.totalNumberOfVisibleItems := by
            rw [hf.total, ← habove]
            exact Foundation.countBelow_lt hvisible hbound
          have hmax : f.totalNumberOfVisibleItems < 2 ^ 32 := by
            rw [hf.total]
            exact Nat.lt_of_le_of_lt (Foundation.countBelow_le _) hf.bound
          simp only [hselectable, if_true, Option.any_some, ne_eq, hzero, not_false_eq_true,
            and_self]
          rw [recoverFirstDisplayedItem_iff hf hbound hselectable]
          unfold LineFits visibleAbove
          dsimp only
          rw [habove]
          unfold selectLine
          dsimp only
          split_ifs with hshort hnear
          · exact iff_of_true ⟨by omega, by omega⟩ (.inl hshort)
          · exact iff_of_true ⟨by omega, by omega⟩ (.inr (.inl hnear))
          · constructor
            · exact fun h => .inr (.inr h.2)
            · intro h
              have hcenter := h.resolve_left hshort |>.resolve_left hnear
              exact ⟨centerLine_lt (by omega) (by omega) hcenter, hcenter⟩
        · simp only [hselectable, if_false, Option.any_some, Bool.false_eq_true, and_false]
          exact recoverCursorAndSelection_iff hf

/-! ## Moving down -/

theorem cursor_le_last {item : Nat} (hitem : item < f.numberOfItems)
    (hselectable : f.isSelectable item = true) : item ≤ f.lastSelectableItem := by
  by_contra hlt
  exact hf.lastSelectable.2.2 item hitem (Nat.lt_of_not_le hlt) hselectable

theorem first_le_cursor {item : Nat} (hselectable : f.isSelectable item = true) :
    f.firstSelectableItem ≤ item := by
  by_contra hlt
  exact hf.firstSelectable.2.2 item (Nat.lt_of_not_le hlt) hselectable

/-- The loop goes to the item that many selectable items further on, or to the last one, and
selects a line further down for each, as far as there are lines. -/
theorem stepsDown_eq (count : Nat) (nav : Nav) (hcursor : nav.cursor < f.numberOfItems)
    (hselectable : f.isSelectable nav.cursor = true) :
    ∃ item, nav.cursor ≤ item ∧ item < f.numberOfItems ∧ f.isSelectable item = true ∧
      selectableAbove f item =
        min (selectableAbove f nav.cursor + count) (selectableAbove f f.lastSelectableItem) ∧
      stepsDown f count nav = some
        { nav with
          cursor := item
          selectedLineNumber := max nav.selectedLineNumber
            (min (nav.maximumNumberOfDisplayedLines - 1)
              (nav.selectedLineNumber +
                (selectableAbove f item - selectableAbove f nav.cursor))) } := by
  have hle : selectableAbove f nav.cursor ≤ selectableAbove f f.lastSelectableItem :=
    Foundation.countBelow_mono (cursor_le_last hf hcursor hselectable)
  induction count generalizing nav with
  | zero =>
      refine ⟨nav.cursor, Nat.le_refl _, hcursor, hselectable, (Nat.min_eq_left hle).symm, ?_⟩
      rw [Nat.sub_self, Nat.add_zero, Nat.max_eq_left (Nat.min_le_right ..)]
      rfl
  | succ count ih =>
      unfold stepsDown
      by_cases hlt : nav.cursor < f.lastSelectableItem
      · have hlast := hf.lastSelectable.1
        obtain ⟨k, hk, hck, hkl, hkselectable, hcount⟩ :=
          Foundation.searchUp_spec (f.numberOfItems - 1 - nav.cursor) hlt
            hf.lastSelectable.2.1 (by omega)
        rw [Foundation.countBelow_succ_of_marked hselectable] at hcount
        have hnext : selectableAbove f k = selectableAbove f nav.cursor + 1 := hcount
        have hkle : selectableAbove f k ≤ selectableAbove f f.lastSelectableItem :=
          Foundation.countBelow_mono hkl
        rw [if_pos hlt, stepForwardSelection, isSelectable_eq hf, hk, Option.bind_some]
        generalize hline : (if nav.selectedLineNumber < nav.maximumNumberOfDisplayedLines - 1 then
          nav.selectedLineNumber + 1 else nav.selectedLineNumber) = line
        obtain ⟨item, hkitem, hitem, hselectable', habove, hsteps⟩ :=
          ih { nav with cursor := k, selectedLineNumber := line }
            (Nat.lt_of_le_of_lt hkl hlast) hkselectable hkle
        dsimp only at habove hsteps hkitem
        have hmono : selectableAbove f k ≤ selectableAbove f item :=
          Foundation.countBelow_mono hkitem
        refine ⟨item, by omega, hitem, hselectable', by omega, ?_⟩
        rw [hsteps]
        congr 2
        split_ifs at hline <;> omega
      · have hsame : nav.cursor = f.lastSelectableItem :=
          Nat.le_antisymm (cursor_le_last hf hcursor hselectable) (Nat.le_of_not_lt hlt)
        refine ⟨nav.cursor, Nat.le_refl _, hcursor, hselectable, ?_, ?_⟩
        · rw [hsame]
          omega
        · rw [if_neg hlt, Nat.sub_self, Nat.add_zero, Nat.max_eq_left (Nat.min_le_right ..)]

/-- Where the line fits, it does so after the loop. -/
theorem stepsDown_spec (count : Nat) (nav : Nav) (hcursor : nav.cursor < f.numberOfItems)
    (hselectable : f.isSelectable nav.cursor = true) (hline : LineFits f nav) :
    ∃ nav', stepsDown f count nav = some nav' ∧
      nav'.maximumNumberOfDisplayedLines = nav.maximumNumberOfDisplayedLines ∧
      nav'.cursor < f.numberOfItems ∧ f.isSelectable nav'.cursor = true ∧ LineFits f nav' ∧
      selectableAbove f nav'.cursor =
        min (selectableAbove f nav.cursor + count) (selectableAbove f f.lastSelectableItem) ∧
      nav'.selectedLineNumber = min (nav.maximumNumberOfDisplayedLines - 1)
        (nav.selectedLineNumber +
          (selectableAbove f nav'.cursor - selectableAbove f nav.cursor)) := by
  obtain ⟨item, hle, hitem, hselectable', habove, hsteps⟩ :=
    stepsDown_eq hf count nav hcursor hselectable
  have hvisible : selectableAbove f item - selectableAbove f nav.cursor ≤
      visibleAbove f item - visibleAbove f nav.cursor :=
    Foundation.countBelow_sub_le hle fun k _ hk hmarked =>
      hf.visible k (Nat.lt_trans hk hitem) hmarked
  have hmono : visibleAbove f nav.cursor ≤ visibleAbove f item := Foundation.countBelow_mono hle
  obtain ⟨hmax, hfits⟩ := hline
  refine ⟨_, hsteps, rfl, hitem, hselectable', ⟨?_, ?_⟩, habove, ?_⟩
  · dsimp only
    omega
  · dsimp only
    omega
  · dsimp only
    omega

theorem checkSelection_of_sound (h : nav.Sound f) : checkSelection f nav = some nav := by
  rw [checkSelection, isSelectable_eq hf, if_pos h.cursor.2]

theorem fixupDownCountByWrapMode_of_sound (h : nav.Sound f) (count : Nat) :
    fixupDownCountByWrapMode f nav count = some (fixedDown f nav count, nav) := by
  unfold fixupDownCountByWrapMode fixedDown
  split_ifs
  · rfl
  · rw [checkSelection_of_sound hf h, Option.map_some]

theorem fixupUpCountByWrapMode_of_sound (h : nav.Sound f) (count : Nat) :
    fixupUpCountByWrapMode f nav count = some (fixedUp f nav count, nav) := by
  unfold fixupUpCountByWrapMode fixedUp
  split_ifs
  · rfl
  · rw [checkSelection_of_sound hf h, Option.map_some]

/-- Showing the items behind the last selectable one takes as many lines as there are items. -/
theorem showLastItems_iff (hcursor : nav.cursor < f.numberOfItems) (hline : LineFits f nav) :
    LineFits f (showLastItems f nav) ↔ (nav.cursor = f.lastSelectableItem →
      f.lastVisibleItem - f.lastSelectableItem ≤ nav.selectedLineNumber) := by
  obtain ⟨hmax, habove⟩ := hline
  have hitems := hf.bound
  have hlast := hf.lastVisible.1
  have hle : visibleAbove f nav.cursor ≤ nav.cursor := Foundation.countBelow_le nav.cursor
  unfold showLastItems
  split_ifs with hsame
  · unfold LineFits subUInt
    dsimp only
    constructor
    · rintro ⟨-, hfits⟩ -
      by_contra hmore
      omega
    · intro h
      have hfits := h hsame
      have hexact : (nav.selectedLineNumber +
          (2 ^ 32 - (f.lastVisibleItem - f.lastSelectableItem))) % 2 ^ 32 =
            nav.selectedLineNumber - (f.lastVisibleItem - f.lastSelectableItem) := by
        omega
      rw [hexact]
      omega
  · exact iff_of_true ⟨hmax, habove⟩ fun heq => absurd heq hsame

theorem down_iff (h : nav.Sound f) (count : Nat) (changed : Bool) :
    SoundAfter f ((nav.down f count changed).map Prod.snd) ↔ DownFits f nav count changed := by
  unfold down DownFits
  rw [fixupDownCountByWrapMode_of_sound hf h, Option.bind_some]
  generalize fixedDown f nav count = fixed
  obtain ⟨wrapped, count⟩ := fixed
  dsimp only
  by_cases hwrapped : wrapped = true
  · rw [if_pos hwrapped, if_pos hwrapped, Option.map_map]
    have hzero : SoundAfter f (setCursorByLineNumber f nav 0) ↔
        SetCursorFits f nav.maximumNumberOfDisplayedLines 0 := setCursorByLineNumber_iff hf 0
    simp only [SetCursorFits, ne_eq, not_true, false_and, if_false] at hzero
    rw [← hzero]
    cases setCursorByLineNumber f nav 0 <;> rfl
  · rw [if_neg hwrapped, if_neg hwrapped]
    by_cases hnothing : count = 0 ∧ changed = false
    · rw [if_pos hnothing]
      exact iff_of_true ⟨nav, rfl, h⟩ (.inl hnothing)
    · rw [if_neg hnothing, checkSelection_of_sound hf h, Option.bind_some]
      obtain ⟨nav', hnav', hmax, hcursor', hselectable', hfits, habove, hsel⟩ :=
        stepsDown_spec hf count nav h.cursor.1 h.cursor.2 h.lineFits
      have hle : selectableAbove f nav.cursor ≤ selectableAbove f f.lastSelectableItem :=
        Foundation.countBelow_mono (cursor_le_last hf h.cursor.1 h.cursor.2)
      have hlast : nav'.cursor = f.lastSelectableItem ↔
          selectableAbove f f.lastSelectableItem - selectableAbove f nav.cursor ≤ count := by
        constructor
        · intro heq
          rw [heq] at habove
          omega
        · intro hcount
          refine Foundation.eq_of_countBelow hselectable' hf.lastSelectable.2.1 ?_
          change selectableAbove f nav'.cursor = selectableAbove f f.lastSelectableItem
          omega
      rw [hnav', Option.bind_some, Option.map_map]
      have hshown : SoundAfter f (recoverFirstDisplayedItemByCursor f (showLastItems f nav')) ↔
          LineFits f (showLastItems f nav') := by
        refine recoverFirstDisplayedItem_iff hf ?_ ?_
        · unfold showLastItems
          split_ifs
          · exact hcursor'
          · exact hcursor'
        · unfold showLastItems
          split_ifs
          · exact hselectable'
          · exact hselectable'
      have hmap : ∀ after : Option Nav,
          after.map (Prod.snd ∘ fun nav => (true, nav)) = after := fun after => by
        cases after <;> rfl
      rw [hmap, hshown, showLastItems_iff hf hcursor' hfits, hlast]
      constructor
      · intro himp
        refine .inr fun hcount => ?_
        have hitems := himp hcount
        omega
      · rintro (hnot | himp) hcount
        · exact absurd hnot hnothing
        · have hitems := himp hcount
          omega

/-! ## Moving up -/

/-- The loop goes to the item that many selectable items back, or to the first one, and selects a
line further up for each, as far as there are lines. -/
theorem stepsUp_spec (count : Nat) (nav : Nav) (hcursor : nav.cursor < f.numberOfItems)
    (hselectable : f.isSelectable nav.cursor = true) :
    ∃ item, item < f.numberOfItems ∧ f.isSelectable item = true ∧
      selectableAbove f item = selectableAbove f nav.cursor - count ∧
      stepsUp f count nav = some
        { nav with
          cursor := item
          selectedLineNumber :=
            nav.selectedLineNumber - min count (selectableAbove f nav.cursor) } := by
  induction count generalizing nav with
  | zero =>
      refine ⟨nav.cursor, hcursor, hselectable, rfl, ?_⟩
      rw [Nat.zero_min]
      rfl
  | succ count ih =>
      have hpos := Foundation.countBelow_pos_iff (i := nav.cursor) hf.firstSelectable.2.1
        hf.firstSelectable.2.2
      unfold stepsUp
      by_cases hlt : f.firstSelectableItem < nav.cursor
      · obtain ⟨k, hk, hkc, hkselectable, hcount⟩ := Foundation.searchDown_spec (hpos.mpr hlt)
        obtain ⟨item, hitem, hselectable', habove, hsteps⟩ :=
          ih { nav with cursor := k, selectedLineNumber := nav.selectedLineNumber - 1 }
            (Nat.lt_trans hkc hcursor) hkselectable
        have hnext : selectableAbove f nav.cursor = selectableAbove f k + 1 := hcount
        refine ⟨item, hitem, hselectable', ?_, ?_⟩
        · rw [habove]
          dsimp only
          omega
        · rw [if_pos hlt, stepBackSelection, isSelectable_eq hf, hk, Option.bind_some, hsteps]
          dsimp only
          congr 2
          omega
      · have hzero : selectableAbove f nav.cursor = 0 := by
          unfold selectableAbove
          omega
        refine ⟨nav.cursor, hcursor, hselectable, ?_, ?_⟩
        · omega
        · rw [if_neg hlt, hzero, Nat.min_zero, Nat.sub_zero]

/-- Showing the items before the first selectable one. -/
theorem showFirstItems_iff {item count : Nat} (hitem : item < f.numberOfItems)
    (hselectable : f.isSelectable item = true)
    (hmax : nav.selectedLineNumber < nav.maximumNumberOfDisplayedLines)
    (habove : selectableAbove f item = selectableAbove f nav.cursor - count) :
    SoundAfter f (recoverFirstDisplayedItemByCursor f (showFirstItems f
        { nav with
          cursor := item
          selectedLineNumber :=
            nav.selectedLineNumber - min count (selectableAbove f nav.cursor) })) ↔
      if item = f.firstSelectableItem then
        let lines := addUInt (nav.selectedLineNumber - selectableAbove f nav.cursor)
          (f.firstSelectableItem - f.firstVisibleItem)
        lines < nav.maximumNumberOfDisplayedLines ∧ lines ≤ visibleAbove f item
      else nav.selectedLineNumber - count ≤ visibleAbove f item := by
  have hzero : item = f.firstSelectableItem ↔ selectableAbove f item = 0 := by
    constructor
    · rintro rfl
      exact Foundation.countBelow_eq_zero_iff.mpr hf.firstSelectable.2.2
    · intro hzero
      have hpos := Foundation.countBelow_pos_iff (i := item) hf.firstSelectable.2.1
        hf.firstSelectable.2.2
      have hle := first_le_cursor hf hselectable
      unfold selectableAbove at hzero
      omega
  unfold showFirstItems
  dsimp only
  by_cases hfirst : item = f.firstSelectableItem
  · have hmin : min count (selectableAbove f nav.cursor) = selectableAbove f nav.cursor := by
      have hnone := hzero.mp hfirst
      omega
    rw [if_pos hfirst, if_pos hfirst, recoverFirstDisplayedItem_iff hf hitem hselectable, hmin]
    exact Iff.rfl
  · have hmin : min count (selectableAbove f nav.cursor) = count := by
      have hsome := mt hzero.mpr hfirst
      omega
    rw [if_neg hfirst, if_neg hfirst, recoverFirstDisplayedItem_iff hf hitem hselectable, hmin]
    refine and_iff_right ?_
    dsimp only
    omega

omit hf in
/-- There are items to be wrapped around to. -/
theorem fixedUp_pos {count : Nat} (h : (fixedUp f nav count).1 = true) :
    0 < (fixedUp f nav count).2 := by
  unfold fixedUp at *
  by_cases hcount : count = 0
  · simp [hcount] at h
  · rw [if_neg hcount] at h ⊢
    unfold fixUpCount at *
    cases hline : getLineNumberByItem f nav.cursor with
    | none => simp [hline] at h
    | some currentLine =>
        simp only [hline] at h ⊢
        split_ifs at h ⊢
        · dsimp only
          omega

theorem up_iff (h : nav.Sound f) (count : Nat) (changed : Bool) :
    SoundAfter f ((nav.up f count changed).map Prod.snd) ↔ UpFits f nav count changed := by
  have hpos : (fixedUp f nav count).1 = true → 0 < (fixedUp f nav count).2 := fixedUp_pos
  unfold up UpFits
  rw [fixupUpCountByWrapMode_of_sound hf h, Option.bind_some]
  generalize fixedUp f nav count = fixed at hpos
  obtain ⟨wrapped, count⟩ := fixed
  dsimp only at hpos ⊢
  by_cases hwrapped : wrapped = true
  · have hset : SoundAfter f (setCursorByLineNumber f nav (count - 1)) ↔
        SetCursorFits f nav.maximumNumberOfDisplayedLines (count - 1) :=
      setCursorByLineNumber_iff hf (count - 1)
    rw [if_pos hwrapped, if_pos hwrapped, if_pos (hpos hwrapped), Option.map_map, ← hset]
    cases setCursorByLineNumber f nav (count - 1) <;> rfl
  · rw [if_neg hwrapped, if_neg hwrapped]
    by_cases hnothing : count = 0 ∧ changed = false
    · rw [if_pos hnothing]
      exact iff_of_true ⟨nav, rfl, h⟩ (.inl hnothing)
    · rw [if_neg hnothing, checkSelection_of_sound hf h, Option.bind_some]
      by_cases hfirst : nav.cursor ≤ f.firstSelectableItem
      · rw [if_pos hfirst]
        exact iff_of_true ⟨nav, rfl, h⟩ (.inr (.inl hfirst))
      · obtain ⟨item, hitem, hselectable, habove, hsteps⟩ :=
          stepsUp_spec hf count nav h.cursor.1 h.cursor.2
        rw [if_neg hfirst, hsteps, Option.bind_some, Option.map_map]
        have hmap : ∀ after : Option Nav,
            after.map (Prod.snd ∘ fun nav => (true, nav)) = after := fun after => by
          cases after <;> rfl
        rw [hmap, showFirstItems_iff hf hitem hselectable h.lineFits.1 habove]
        constructor
        · intro hfits
          refine .inr (.inr fun item' hitem' hselectable' habove' => ?_)
          have hsame : item' = item :=
            Foundation.eq_of_countBelow hselectable' hselectable (habove'.trans habove.symm)
          rw [hsame]
          exact hfits
        · rintro (hnot | hle | hfits)
          · exact absurd hnot hnothing
          · exact absurd hle hfirst
          · exact hfits item hitem hselectable habove

/-! ## Runs -/

theorem step_iff (h : nav.Sound f) (e : NavEvent) :
    SoundAfter f (nav.step f e) ↔ StepFits f nav e := by
  cases e with
  | down count changed => exact down_iff hf h count changed
  | up count changed => exact up_iff hf h count changed
  | setCursorByLineNumber lineNumber => exact setCursorByLineNumber_iff hf lineNumber
  | getCursor => exact iff_of_true ⟨nav, checkSelection_of_sound hf h, h⟩ trivial

theorem run_iff (h : nav.Sound f) (es : List NavEvent) :
    AlongRun (step f) (fun nav e => SoundAfter f (nav.step f e)) nav es ↔
      AlongRun (step f) (StepFits f) nav es := by
  refine Foundation.alongRun_iff (I := Sound f) ?_ (fun nav e h => step_iff hf h e) es h
  intro nav e nav' h hfits hstep
  obtain ⟨nav'', hstep', hsound⟩ := (step_iff hf h e).mpr hfits
  obtain rfl := Option.some.inj (hstep.symm.trans hstep')
  exact hsound

end Steps

/-- For all filters, window sizes, wrap modes and sequences of operations: the navigation is as it
should be at first and after each operation exactly if the first selectable item can be shown and
the condition is met by each operation. -/
theorem nav_run_sound_iff (f : NavItemFilter) (hf : f.Consistent) (maxDisplayLines : Nat)
    (wrapMode : WrapMode) (es : List NavEvent) :
    (∃ nav, init f maxDisplayLines wrapMode = some nav ∧ nav.Sound f ∧
      AlongRun (step f) (fun nav e => SoundAfter f (nav.step f e)) nav es) ↔
    RecoverFits f maxDisplayLines ∧
      ∀ nav, init f maxDisplayLines wrapMode = some nav →
        AlongRun (step f) (StepFits f) nav es := by
  have hinit : SoundAfter f (init f maxDisplayLines wrapMode) ↔ RecoverFits f maxDisplayLines :=
    recoverCursorAndSelection_iff hf
  constructor
  · rintro ⟨nav, hnav, hsound, hrun⟩
    refine ⟨hinit.mp ⟨nav, hnav, hsound⟩, fun nav' hnav' => ?_⟩
    obtain rfl := Option.some.inj (hnav.symm.trans hnav')
    exact (run_iff hf hsound es).mp hrun
  · rintro ⟨hfits, hrun⟩
    obtain ⟨nav, hnav, hsound⟩ := hinit.mpr hfits
    exact ⟨nav, hnav, hsound, (run_iff hf hsound es).mpr (hrun nav hnav)⟩

/-! ## Lists without a filter -/

theorem navItemNoFilter_consistent {numberOfItems : Nat} (hpos : 0 < numberOfItems)
    (hbound : numberOfItems < 2 ^ 32) : (navItemNoFilter numberOfItems).Consistent := by
  have hcount : ∀ i, countBelow (navItemNoFilter numberOfItems).isVisible i = i := by
    intro i
    induction i with
    | zero => rfl
    | succ i ih =>
        rw [Foundation.countBelow_succ_of_marked (by simpa [navItemNoFilter] using hpos), ih]
  have hmap : ∀ i j, (if i < numberOfItems then some i else none) = some j ↔
      j < numberOfItems ∧ i = j := by
    intro i j
    split_ifs with hlt
    · simp only [Option.some.injEq]
      exact ⟨fun heq => ⟨heq ▸ hlt, heq⟩, And.right⟩
    · exact iff_of_false (by simp) fun ⟨hj, heq⟩ => hlt (heq ▸ hj)
  have hfirst : IsFirstItem (fun _ => decide (0 < numberOfItems)) numberOfItems 0 :=
    ⟨hpos, by simpa using hpos, fun k hk => absurd hk (Nat.not_lt_zero k)⟩
  have hlast : IsLastItem (fun _ => decide (0 < numberOfItems)) numberOfItems
      (numberOfItems - 1) :=
    ⟨by omega, by simpa using hpos, fun k hk hlt => by omega⟩
  refine ⟨hbound, fun _ _ h => h, hfirst, hlast, hfirst, hlast, (hcount _).symm, ?_, ?_⟩
  · intro line item
    rw [hcount]
    refine (hmap line item).trans ?_
    simp only [navItemNoFilter, hpos, decide_true, true_and]
    exact and_congr_right fun _ => eq_comm
  · intro item line
    rw [hcount]
    refine (hmap item line).trans ?_
    simp only [navItemNoFilter, hpos, decide_true, true_and]
    constructor
    · rintro ⟨hlt, rfl⟩
      exact ⟨hlt, rfl⟩
    · rintro ⟨hlt, rfl⟩
      exact ⟨hlt, rfl⟩

/-- Down and up in a list of seven items, with four lines. -/
theorem nav_run_sound_unfiltered :
    ∃ nav, init (navItemNoFilter 7) 4 .noWrap = some nav ∧ nav.Sound (navItemNoFilter 7) ∧
      AlongRun (step (navItemNoFilter 7))
        (fun nav e => SoundAfter (navItemNoFilter 7) (nav.step (navItemNoFilter 7) e)) nav
        [.down 5 false, .up 3 false] := by
  have hf := navItemNoFilter_consistent (show 0 < 7 by decide) (by decide)
  refine (nav_run_sound_iff _ hf 4 .noWrap [.down 5 false, .up 3 false]).mpr
    ⟨by decide, fun nav hnav => ?_⟩
  obtain rfl : nav = ⟨0, 0, 0, .noWrap, 4⟩ := Option.some.inj (hnav.symm.trans rfl)
  refine ⟨by decide, fun nav' hnav' => ⟨?_, fun _ _ => trivial⟩⟩
  obtain rfl : nav' = ⟨5, 2, 3, .noWrap, 4⟩ := Option.some.inj (hnav'.symm.trans rfl)
  decide

/-- The second line of ten is selected on a display with five lines. -/
theorem nav_second_line_centered :
    ¬∀ (f : NavItemFilter) (maxDisplayLines : Nat) (wrapMode : WrapMode) (es : List NavEvent),
      f.Consistent → 1 ≤ maxDisplayLines →
        ∃ nav, init f maxDisplayLines wrapMode = some nav ∧ nav.Sound f ∧
          AlongRun (step f) (fun nav e => SoundAfter f (nav.step f e)) nav es := by
  intro h
  have hf := navItemNoFilter_consistent (show 0 < 10 by decide) (by decide)
  obtain ⟨nav, hnav, hsound, hafter, -⟩ := h _ 5 .noWrap [.setCursorByLineNumber 1] hf (by decide)
  have hfits := (setCursorByLineNumber_iff hf 1).mp hafter
  obtain rfl : nav = ⟨0, 0, 0, .noWrap, 5⟩ := Option.some.inj (hnav.symm.trans rfl)
  revert hfits
  decide

end Nav

end Drcpd.Lists

/-
  Lists/NavUnfiltered.lean --- what the operations of `listnav.hh` compute in a list without a
  filter.

  All items are lines then, and the stepping loops add and subtract.  Each operation is brought
  into a closed form here; what is said of movements between the boundaries of a list, and of
  whole pages, is read off them.
-/
import Drcpd.Lists.NavRuns

set_option autoImplicit false

namespace Drcpd.Lists

/-- The modes in which moving down goes on at the top. -/
def WrapMode.WrapsToTop (mode : WrapMode) : Prop := mode = .fullWrap ∨ mode = .wrapToTop

/-- The modes in which moving up goes on at the bottom. -/
def WrapMode.WrapsToBottom (mode : WrapMode) : Prop := mode = .fullWrap ∨ mode = .wrapToBottom

instance (mode : WrapMode) : Decidable mode.WrapsToTop := inferInstanceAs (Decidable (_ ∨ _))

instance (mode : WrapMode) : Decidable mode.WrapsToBottom := inferInstanceAs (Decidable (_ ∨ _))

namespace Nav

/-- The navigation with the cursor in the line, which is selected on the display. -/
def inLine (nav : Nav) (line selected : Nat) : Nav :=
  { nav with
    cursor := line
    firstDisplayedItem := line - selected
    selectedLineNumber := selected }

/-- The navigation after the loop of `down`. -/
def movedDown (nav : Nav) (n count : Nat) : Nav :=
  let steps := min count (n - 1 - nav.cursor)
  nav.inLine (nav.cursor + steps)
    (max nav.selectedLineNumber
      (min (nav.selectedLineNumber + steps) (nav.maximumNumberOfDisplayedLines - 1)))

/-- The navigation after the loop of `up`. -/
def movedUp (nav : Nav) (count : Nat) : Nav :=
  let steps := min count nav.cursor
  nav.inLine (nav.cursor - steps) (nav.selectedLineNumber - steps)

section Unfiltered

variable {n : Nat} (hn : 0 < n) {nav : Nav}

include hn

/-! ## Single steps and loops -/

theorem isVisible_unfiltered (item : Nat) : isVisible (navItemNoFilter n) item = true := by
  simp [isVisible, navItemNoFilter, hn]

theorem isSelectable_unfiltered (item : Nat) : isSelectable (navItemNoFilter n) item = true := by
  simp [isSelectable, navItemNoFilter, hn]

theorem stepBackLines_unfiltered (lines item : Nat) :
    stepBackLines (navItemNoFilter n) lines item = some (item - lines) := by
  induction lines generalizing item with
  | zero => rfl
  | succ lines ih =>
    unfold stepBackLines
    cases item with
    | zero => exact congrArg some (Nat.zero_sub _).symm
    | succ item =>
      have hfirst : (navItemNoFilter n).firstVisibleItem < item + 1 := Nat.succ_pos item
      rw [if_pos hfirst, stepBackVisible, Foundation.searchDown,
        if_pos (isVisible_unfiltered hn item), Option.bind_some, ih, Nat.succ_sub_succ]

theorem recoverFirstDisplayedItem_unfiltered :
    recoverFirstDisplayedItemByCursor (navItemNoFilter n) nav =
      some (nav.inLine nav.cursor nav.selectedLineNumber) := by
  unfold recoverFirstDisplayedItemByCursor
  rw [stepBackLines_unfiltered hn]
  rfl

theorem recoverCursorAndSelection_unfiltered :
    recoverCursorAndSelection (navItemNoFilter n) nav = some (nav.inLine 0 0) := by
  have hlines : countLines (navItemNoFilter n) 0 nav.maximumNumberOfDisplayedLines 0 = some 0 := by
    cases nav.maximumNumberOfDisplayedLines with
    | zero => rfl
    | succ lines => exact if_neg (Nat.lt_irrefl 0)
  unfold recoverCursorAndSelection
  rw [if_neg (show ¬(navItemNoFilter n).numberOfItems = 0 from Nat.ne_of_gt hn)]
  change (countLines (navItemNoFilter n) 0 _ 0).bind _ = _
  rw [hlines, Option.bind_some, recoverFirstDisplayedItem_unfiltered hn]
  rfl

theorem checkSelection_unfiltered : checkSelection (navItemNoFilter n) nav = some nav := by
  rw [checkSelection, if_pos (isSelectable_unfiltered hn _)]

theorem setCursor_zero_unfiltered :
    setCursorByLineNumber (navItemNoFilter n) nav 0 = some (nav.inLine 0 0) := by
  rw [setCursorByLineNumber, if_pos rfl, recoverCursorAndSelection_unfiltered hn]

theorem setCursor_unfiltered {line : Nat} (hpos : 0 < line) (hline : line < n) :
    setCursorByLineNumber (navItemNoFilter n) nav line =
      some (nav.inLine line (selectLine nav.maximumNumberOfDisplayedLines n line)) := by
  have hmap : (navItemNoFilter n).mapLineNumberToItem line = some line := if_pos hline
  unfold setCursorByLineNumber
  rw [if_neg (Nat.ne_of_gt hpos), hmap]
  dsimp only
  have hselectable : (navItemNoFilter n).isSelectable line = true := by
    simpa [navItemNoFilter] using hn
  rw [if_pos hselectable, recoverFirstDisplayedItem_unfiltered hn]
  rfl

theorem setCursor_beyond_unfiltered {line : Nat} (hline : n ≤ line) :
    setCursorByLineNumber (navItemNoFilter n) nav line = some (nav.inLine 0 0) := by
  have hmap : (navItemNoFilter n).mapLineNumberToItem line = none :=
    if_neg (Nat.not_lt_of_le hline)
  unfold setCursorByLineNumber
  rw [if_neg (by omega), hmap]
  exact recoverCursorAndSelection_unfiltered hn

/-- The loop of `down` leaves the item displayed first to be found. -/
theorem stepsDown_unfiltered (count : Nat) (nav : Nav) (hcursor : nav.cursor < n) :
    stepsDown (navItemNoFilter n) count nav =
      some { nav.movedDown n count with firstDisplayedItem := nav.firstDisplayedItem } := by
  induction count generalizing nav with
  | zero =>
    unfold stepsDown movedDown inLine
    simp
  | succ count ih =>
    unfold stepsDown
    change (if nav.cursor < n - 1 then _ else _) = _
    by_cases hlast : nav.cursor < n - 1
    · obtain ⟨steps, hsteps⟩ : ∃ steps, n - 1 - nav.cursor = steps + 1 :=
        ⟨n - 2 - nav.cursor, by omega⟩
      have hstep : stepForwardSelection (navItemNoFilter n) nav.cursor = some (nav.cursor + 1) := by
        unfold stepForwardSelection
        change Foundation.searchUp _ (n - 1 - nav.cursor) _ = _
        rw [hsteps, Foundation.searchUp, if_pos (isSelectable_unfiltered hn _)]
      rw [if_pos hlast, hstep, Option.bind_some, ih _ (by dsimp only; omega)]
      unfold movedDown inLine
      dsimp only
      congr 2
      · omega
      · split_ifs <;> omega
    · have hnone : n - 1 - nav.cursor = 0 := by omega
      rw [if_neg hlast]
      unfold movedDown inLine
      simp [hnone]

/-- The loop of `up` leaves it likewise. -/
theorem stepsUp_unfiltered (count : Nat) (nav : Nav) :
    stepsUp (navItemNoFilter n) count nav =
      some { nav.movedUp count with firstDisplayedItem := nav.firstDisplayedItem } := by
  induction count generalizing nav with
  | zero =>
    unfold stepsUp movedUp inLine
    simp
  | succ count ih =>
    unfold stepsUp
    change (if 0 < nav.cursor then _ else _) = _
    by_cases hfirst : 0 < nav.cursor
    · obtain ⟨item, hitem⟩ : ∃ item, nav.cursor = item + 1 := ⟨nav.cursor - 1, by omega⟩
      have hstep : stepBackSelection (navItemNoFilter n) nav.cursor = some item := by
        rw [stepBackSelection, hitem, Foundation.searchDown,
          if_pos (isSelectable_unfiltered hn _)]
      rw [if_pos hfirst, hstep, Option.bind_some, ih]
      unfold movedUp inLine
      dsimp only
      congr 2
      · omega
      · omega
    · have hzero : min (count + 1) nav.cursor = 0 := by omega
      rw [if_neg hfirst]
      unfold movedUp inLine
      simp [hzero]

/-! ## Moving down and up -/

omit hn in
theorem getLineNumber_unfiltered (hcursor : nav.cursor < n) :
    getLineNumberByItem (navItemNoFilter n) nav.cursor =
      if 2 ^ 31 ≤ nav.cursor then none else some nav.cursor := by
  unfold getLineNumberByItem
  change Option.filter _ (if nav.cursor < n then some nav.cursor else none) = _
  rw [if_pos hcursor, Option.filter_some, ← ite_not]
  refine if_congr ?_ rfl rfl
  rw [Bool.not_eq_true, decide_eq_false_iff_not]
  omega

/-- The count for `down`: none where the line number is no `int`, or as far as there are items, or
wrapping around from the last line. -/
theorem fixedDown_unfiltered (hbound : n < 2 ^ 32) (hcursor : nav.cursor < n) {count : Nat}
    (hcount : 0 < count) :
    fixedDown (navItemNoFilter n) nav count =
      if 2 ^ 31 ≤ nav.cursor then (false, 0)
      else if n ≤ nav.cursor + count then
        if nav.wrapMode.WrapsToTop ∧ nav.cursor = n - 1 then (true, n)
        else (false, n - nav.cursor - 1)
      else (false, count) := by
  unfold fixedDown fixDownCount
  rw [if_neg (Nat.ne_of_gt hcount), getLineNumber_unfiltered hcursor]
  by_cases hint : 2 ^ 31 ≤ nav.cursor
  · rw [if_pos hint, if_pos hint]
  · rw [if_neg hint, if_neg hint]
    change (if n = 0 then _ else _) = _
    rw [if_neg (Nat.ne_of_gt hn)]
    refine if_congr ?_ (if_congr (and_congr_right fun _ => ?_) rfl rfl) rfl
    · change uintMax - nav.cursor < count ∨ n ≤ nav.cursor + count ↔ _
      unfold uintMax
      omega
    · change ¬1 < n - nav.cursor ↔ _
      omega

/-- The count for `up`, likewise; it wraps around from the second line, too. -/
theorem fixedUp_unfiltered (hcursor : nav.cursor < n) {count : Nat} (hcount : 0 < count) :
    fixedUp (navItemNoFilter n) nav count =
      if 2 ^ 31 ≤ nav.cursor then (false, 0)
      else if nav.cursor < count then
        if nav.wrapMode.WrapsToBottom ∧ nav.cursor ≤ 1 then (true, n) else (false, nav.cursor)
      else (false, count) := by
  unfold fixedUp fixUpCount
  rw [if_neg (Nat.ne_of_gt hcount), getLineNumber_unfiltered hcursor]
  by_cases hint : 2 ^ 31 ≤ nav.cursor
  · rw [if_pos hint, if_pos hint]
  · rw [if_neg hint, if_neg hint]
    change (if n = 0 then _ else _) = _
    rw [if_neg (Nat.ne_of_gt hn)]
    refine if_congr Iff.rfl (if_congr (and_congr_right fun _ => ?_) rfl rfl) rfl
    omega

omit hn in
theorem movedDown_line_lt {count : Nat} (hline : nav.selectedLineNumber < 2 ^ 32)
    (hmax : nav.maximumNumberOfDisplayedLines ≤ 2 ^ 32) :
    (nav.movedDown n count).selectedLineNumber < 2 ^ 32 := by
  unfold movedDown inLine
  dsimp only
  omega

/-- `down`, for a count that has been fixed up. -/
theorem down_unfiltered (hcursor : nav.cursor < n) (hline : nav.selectedLineNumber < 2 ^ 32)
    (hmax : nav.maximumNumberOfDisplayedLines ≤ 2 ^ 32) (count : Nat) (changed : Bool) :
    nav.down (navItemNoFilter n) count changed =
      let fixed := fixedDown (navItemNoFilter n) nav count
      some (if fixed.1 then (decide (1 < fixed.2), nav.inLine 0 0)
        else if fixed.2 = 0 ∧ changed = false then (false, nav)
        else (true, nav.movedDown n fixed.2)) := by
  have hfix : fixupDownCountByWrapMode (navItemNoFilter n) nav count =
      some (fixedDown (navItemNoFilter n) nav count, nav) := by
    unfold fixupDownCountByWrapMode fixedDown
    split_ifs
    · rfl
    · rw [checkSelection_unfiltered hn, Option.map_some]
  unfold down
  rw [hfix, Option.bind_some]
  generalize fixedDown (navItemNoFilter n) nav count = fixed
  obtain ⟨wrapped, count⟩ := fixed
  dsimp only
  cases wrapped with
  | true =>
    rw [if_pos rfl, if_pos rfl, setCursor_zero_unfiltered hn]
    rfl
  | false =>
    rw [if_neg Bool.false_ne_true, if_neg Bool.false_ne_true]
    by_cases hnothing : count = 0 ∧ changed = false
    · rw [if_pos hnothing, if_pos hnothing]
    · have hshow : showLastItems (navItemNoFilter n)
          { nav.movedDown n count with firstDisplayedItem := nav.firstDisplayedItem } =
            { nav.movedDown n count with firstDisplayedItem := nav.firstDisplayedItem } := by
        have hsub : subUInt (nav.movedDown n count).selectedLineNumber (n - 1 - (n - 1)) =
            (nav.movedDown n count).selectedLineNumber := by
          have hlt : (nav.movedDown n count).selectedLineNumber < 2 ^ 32 :=
            movedDown_line_lt hline hmax
          unfold subUInt
          omega
        unfold showLastItems
        split_ifs
        · change { nav.movedDown n count with
            firstDisplayedItem := nav.firstDisplayedItem
            selectedLineNumber := subUInt (nav.movedDown n count).selectedLineNumber
              (n - 1 - (n - 1)) } = _
          rw [hsub]
        · rfl
      rw [if_neg hnothing, if_neg hnothing, checkSelection_unfiltered hn, Option.bind_some,
        stepsDown_unfiltered hn count nav hcursor, Option.bind_some, hshow,
        recoverFirstDisplayedItem_unfiltered hn]
      rfl

/-- `up`, for a count that has been fixed up. -/
theorem up_unfiltered (hline : nav.selectedLineNumber < 2 ^ 32) (count : Nat) (changed : Bool) :
    nav.up (navItemNoFilter n) count changed =
      let fixed := fixedUp (navItemNoFilter n) nav count
      if fixed.1 then
        (setCursorByLineNumber (navItemNoFilter n) nav (fixed.2 - 1)).map fun nav =>
          (decide (1 < fixed.2), nav)
      else some (if (fixed.2 = 0 ∧ changed = false) ∨ nav.cursor = 0 then (false, nav)
        else (true, nav.movedUp fixed.2)) := by
  have hfix : fixupUpCountByWrapMode (navItemNoFilter n) nav count =
      some (fixedUp (navItemNoFilter n) nav count, nav) := by
    unfold fixupUpCountByWrapMode fixedUp
    split_ifs
    · rfl
    · rw [checkSelection_unfiltered hn, Option.map_some]
  have hpos : (fixedUp (navItemNoFilter n) nav count).1 = true →
      0 < (fixedUp (navItemNoFilter n) nav count).2 := fixedUp_pos
  unfold up
  rw [hfix, Option.bind_some]
  generalize fixedUp (navItemNoFilter n) nav count = fixed at hpos
  obtain ⟨wrapped, count⟩ := fixed
  dsimp only at hpos ⊢
  cases wrapped with
  | true => rw [if_pos rfl, if_pos rfl, if_pos (hpos rfl)]
  | false =>
    rw [if_neg Bool.false_ne_true, if_neg Bool.false_ne_true]
    by_cases hnothing : count = 0 ∧ changed = false
    · rw [if_pos hnothing, if_pos (.inl hnothing)]
    · rw [if_neg hnothing, checkSelection_unfiltered hn, Option.bind_some]
      change (if nav.cursor ≤ 0 then _ else _) = _
      by_cases hfirst : nav.cursor = 0
      · rw [if_pos (Nat.le_of_eq hfirst), if_pos (.inr hfirst)]
      · have hshow : showFirstItems (navItemNoFilter n)
            { nav.movedUp count with firstDisplayedItem := nav.firstDisplayedItem } =
              { nav.movedUp count with firstDisplayedItem := nav.firstDisplayedItem } := by
          have hadd : addUInt (nav.movedUp count).selectedLineNumber (0 - 0) =
              (nav.movedUp count).selectedLineNumber := by
            unfold addUInt movedUp inLine
            dsimp only
            omega
          unfold showFirstItems
          split_ifs
          · change { nav.movedUp count with
              firstDisplayedItem := nav.firstDisplayedItem
              selectedLineNumber := addUInt (nav.movedUp count).selectedLineNumber (0 - 0) } = _
            rw [hadd]
          · rfl
        rw [if_neg (by omega), if_neg (by tauto), stepsUp_unfiltered hn, Option.bind_some, hshow,
          recoverFirstDisplayedItem_unfiltered hn]
        rfl

end Unfiltered

end Nav

end Drcpd.Lists

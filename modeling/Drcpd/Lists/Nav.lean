/-
  Lists/Nav.lean --- navigation in a list (`listnav.hh`).

  A `Nav` has a cursor, which is an item, the item displayed in the first line, and the line
  selected on the display.  A filter says which items are visible, and which ones of these can
  be selected.

  Items and line numbers are natural numbers; `subUInt` and `addUInt` stand where a result of
  the source may wrap around.  Other differences of the source do not, as line numbers are below
  the number of visible items, and there is at least one line.  `none` is a step beyond the items
  of the list.
-/
import Drcpd.Foundation.Positions
import Drcpd.Lists.Segment

set_option autoImplicit false

namespace Drcpd.Lists

open Foundation (countBelow searchUp searchDown)

/-- A difference of two `unsigned int`. -/
def subUInt (m n : Nat) : Nat := (m + (2 ^ 32 - n)) % 2 ^ 32

/-! ## Filters -/

/-- `List::NavItemFilterIface`, with what it answers about the items of its list: `is_visible`
and `is_selectable` for the flags of an item. -/
structure NavItemFilter where
  numberOfItems : Nat
  isVisible : Nat → Bool
  isSelectable : Nat → Bool
  firstSelectableItem : Nat
  lastSelectableItem : Nat
  firstVisibleItem : Nat
  lastVisibleItem : Nat
  totalNumberOfVisibleItems : Nat
  mapLineNumberToItem : Nat → Option Nat
  mapItemToLineNumber : Nat → Option Nat

/-- `List::NavItemNoFilter`. -/
def navItemNoFilter (numberOfItems : Nat) : NavItemFilter where
  numberOfItems := numberOfItems
  isVisible _ := decide (0 < numberOfItems)
  isSelectable _ := decide (0 < numberOfItems)
  firstSelectableItem := 0
  lastSelectableItem := numberOfItems - 1
  firstVisibleItem := 0
  lastVisibleItem := numberOfItems - 1
  totalNumberOfVisibleItems := numberOfItems
  mapLineNumberToItem line := if line < numberOfItems then some line else none
  mapItemToLineNumber item := if item < numberOfItems then some item else none

/-- The first item of its kind. -/
def IsFirstItem (p : Nat → Bool) (numberOfItems item : Nat) : Prop :=
  item < numberOfItems ∧ p item = true ∧ ∀ k < item, ¬p k = true

/-- The last item of its kind. -/
def IsLastItem (p : Nat → Bool) (numberOfItems item : Nat) : Prop :=
  item < numberOfItems ∧ p item = true ∧ ∀ k < numberOfItems, item < k → ¬p k = true

/-- Selectable items are visible, and all answers agree with that, where there is something to be
selected. -/
structure NavItemFilter.Consistent (f : NavItemFilter) : Prop where
  bound : f.numberOfItems < 2 ^ 32
  visible : ∀ item < f.numberOfItems, f.isSelectable item = true → f.isVisible item = true
  firstSelectable : IsFirstItem f.isSelectable f.numberOfItems f.firstSelectableItem
  lastSelectable : IsLastItem f.isSelectable f.numberOfItems f.lastSelectableItem
  firstVisible : IsFirstItem f.isVisible f.numberOfItems f.firstVisibleItem
  lastVisible : IsLastItem f.isVisible f.numberOfItems f.lastVisibleItem
  total : f.totalNumberOfVisibleItems = countBelow f.isVisible f.numberOfItems
  lineToItem : ∀ line item, f.mapLineNumberToItem line = some item ↔
    item < f.numberOfItems ∧ f.isVisible item = true ∧ countBelow f.isVisible item = line
  itemToLine : ∀ item line, f.mapItemToLineNumber item = some line ↔
    item < f.numberOfItems ∧ f.isVisible item = true ∧ countBelow f.isVisible item = line

/-! ## Navigation -/

/-- `List::Nav::WrapMode`. -/
inductive WrapMode
  | noWrap
  | wrapToTop
  | wrapToBottom
  | fullWrap
  deriving DecidableEq, Repr

/-- `List::Nav`. -/
structure Nav where
  cursor : Nat
  firstDisplayedItem : Nat
  selectedLineNumber : Nat
  wrapMode : WrapMode
  maximumNumberOfDisplayedLines : Nat
  deriving DecidableEq, Repr

namespace Nav

variable (f : NavItemFilter)

/-- `is_visible`. -/
def isVisible (item : Nat) : Bool := decide (0 < f.numberOfItems) && f.isVisible item

/-- `is_selectable`. -/
def isSelectable (item : Nat) : Bool := decide (0 < f.numberOfItems) && f.isSelectable item

/-- `step_forward_selection`. -/
def stepForwardSelection (item : Nat) : Option Nat :=
  searchUp (isSelectable f) (f.numberOfItems - 1 - item) item

/-- `step_back_selection`. -/
def stepBackSelection (item : Nat) : Option Nat := searchDown (isSelectable f) item

/-- `step_back_visible`. -/
def stepBackVisible (item : Nat) : Option Nat := searchDown (isVisible f) item

/-- `step_forward_visible`. -/
def stepForwardVisible (item : Nat) : Option Nat :=
  searchUp (isVisible f) (f.numberOfItems - 1 - item) item

/-- The loop of `recover_first_displayed_item_by_cursor`, with the lines left. -/
def stepBackLines : Nat → Nat → Option Nat
  | 0, item => some item
  | lines + 1, item =>
      if f.firstVisibleItem < item then (stepBackVisible f item).bind (stepBackLines lines)
      else some item

/-- `recover_first_displayed_item_by_cursor`. -/
def recoverFirstDisplayedItemByCursor (nav : Nav) : Option Nav :=
  (stepBackLines f nav.selectedLineNumber nav.cursor).map fun item =>
    { nav with firstDisplayedItem := item }

/-- The loop of `recover_cursor_and_selection`: the lines it counts, at most as many as are
left. -/
def countLines (cursor : Nat) : Nat → Nat → Option Nat
  | 0, _ => some 0
  | lines + 1, item =>
      if item < cursor then
        ((stepForwardVisible f item).bind (countLines cursor lines)).map (· + 1)
      else some 0

/-- `recover_cursor_and_selection`. -/
def recoverCursorAndSelection (nav : Nav) : Option Nav :=
  if f.numberOfItems = 0 then
    some { nav with cursor := 0, firstDisplayedItem := 0, selectedLineNumber := 0 }
  else
    (countLines f f.firstSelectableItem nav.maximumNumberOfDisplayedLines
        f.firstVisibleItem).bind fun lines =>
      recoverFirstDisplayedItemByCursor f
        { nav with cursor := f.firstSelectableItem, selectedLineNumber := lines }

/-- The constructor. -/
def init (maxDisplayLines : Nat) (initialWrapMode : WrapMode) : Option Nav :=
  recoverCursorAndSelection f ⟨0, 0, 0, initialWrapMode, maxDisplayLines⟩

/-- `check_selection`. -/
def checkSelection (nav : Nav) : Option Nav :=
  if isSelectable f nav.cursor then some nav else recoverCursorAndSelection f nav

/-- The line that is selected if it is not near the end of the list. -/
def centerLine (maximumNumberOfDisplayedLines : Nat) : Nat :=
  subUInt (addUInt maximumNumberOfDisplayedLines 1 / 2) 1

/-- The line selected for a line of the list. -/
def selectLine (maximumNumberOfDisplayedLines maxItems lineNumber : Nat) : Nat :=
  if maxItems < maximumNumberOfDisplayedLines then lineNumber
  else
    let distanceToEndOfList := maxItems - lineNumber - 1
    if distanceToEndOfList <
        maximumNumberOfDisplayedLines - centerLine maximumNumberOfDisplayedLines then
      maximumNumberOfDisplayedLines - distanceToEndOfList - 1
    else centerLine maximumNumberOfDisplayedLines

/-- `set_cursor_by_line_number`; its assertions only log. -/
def setCursorByLineNumber (nav : Nav) (lineNumber : Nat) : Option Nav :=
  if lineNumber = 0 then recoverCursorAndSelection f nav
  else
    match f.mapLineNumberToItem lineNumber with
    | none => recoverCursorAndSelection f nav
    | some item =>
        if f.isSelectable item then
          recoverFirstDisplayedItemByCursor f
            { nav with
              cursor := item
              selectedLineNumber := selectLine nav.maximumNumberOfDisplayedLines
                f.totalNumberOfVisibleItems lineNumber }
        else recoverCursorAndSelection f { nav with cursor := item }

/-- `get_line_number_by_item`; nothing stands for -1. -/
def getLineNumberByItem (item : Nat) : Option Nat :=
  (f.mapItemToLineNumber item).filter (· ≤ 2 ^ 31 - 1)

/-- What `fixup_down_count_by_wrap_mode` does with a positive count: whether it wraps around to
the top, and the count. -/
def fixDownCount (nav : Nav) (count : Nat) : Bool × Nat :=
  match getLineNumberByItem f nav.cursor with
  | none => (false, 0)
  | some currentLine =>
      let visibleItems := f.totalNumberOfVisibleItems
      if visibleItems = 0 then (false, 0)
      else if uintMax - currentLine < count ∨ visibleItems ≤ currentLine + count then
        if (nav.wrapMode = .fullWrap ∨ nav.wrapMode = .wrapToTop) ∧
            ¬1 < visibleItems - currentLine then
          (true, visibleItems)
        else (false, visibleItems - currentLine - 1)
      else (false, count)

/-- `fixup_down_count_by_wrap_mode`. -/
def fixupDownCountByWrapMode (nav : Nav) (count : Nat) : Option ((Bool × Nat) × Nav) :=
  if count = 0 then some ((false, 0), nav)
  else (checkSelection f nav).map fun nav => (fixDownCount f nav count, nav)

/-- What `fixup_up_count_by_wrap_mode` does with a positive count. -/
def fixUpCount (nav : Nav) (count : Nat) : Bool × Nat :=
  match getLineNumberByItem f nav.cursor with
  | none => (false, 0)
  | some currentLine =>
      let visibleItems := f.totalNumberOfVisibleItems
      if visibleItems = 0 then (false, 0)
      else if currentLine < count then
        if (nav.wrapMode = .fullWrap ∨ nav.wrapMode = .wrapToBottom) ∧ ¬1 < currentLine then
          (true, visibleItems)
        else (false, currentLine)
      else (false, count)

/-- `fixup_up_count_by_wrap_mode`. -/
def fixupUpCountByWrapMode (nav : Nav) (count : Nat) : Option ((Bool × Nat) × Nav) :=
  if count = 0 then some ((false, 0), nav)
  else (checkSelection f nav).map fun nav => (fixUpCount f nav count, nav)

/-- The loop of `down`. -/
def stepsDown : Nat → Nav → Option Nav
  | 0, nav => some nav
  | count + 1, nav =>
      if nav.cursor < f.lastSelectableItem then
        (stepForwardSelection f nav.cursor).bind fun item =>
          stepsDown count
            { nav with
              cursor := item
              selectedLineNumber :=
                if nav.selectedLineNumber < nav.maximumNumberOfDisplayedLines - 1 then
                  nav.selectedLineNumber + 1
                else nav.selectedLineNumber }
      else some nav

/-- The loop of `up`. -/
def stepsUp : Nat → Nav → Option Nav
  | 0, nav => some nav
  | count + 1, nav =>
      if f.firstSelectableItem < nav.cursor then
        (stepBackSelection f nav.cursor).bind fun item =>
          stepsUp count
            { nav with cursor := item, selectedLineNumber := nav.selectedLineNumber - 1 }
      else some nav

/-- The end of `down`: the items behind the last selectable one are to be shown. -/
def showLastItems (nav : Nav) : Nav :=
  if nav.cursor = f.lastSelectableItem then
    { nav with
      selectedLineNumber :=
        subUInt nav.selectedLineNumber (f.lastVisibleItem - f.lastSelectableItem) }
  else nav

/-- The end of `up`: the items before the first selectable one are to be shown. -/
def showFirstItems (nav : Nav) : Nav :=
  if nav.cursor = f.firstSelectableItem then
    { nav with
      selectedLineNumber :=
        addUInt nav.selectedLineNumber (f.firstSelectableItem - f.firstVisibleItem) }
  else nav

/-- `down`.  `changed` is what `ensure_consistency` answers. -/
def down (nav : Nav) (count : Nat) (changed : Bool) : Option (Bool × Nav) :=
  (fixupDownCountByWrapMode f nav count).bind fun ((wrapped, count), nav) =>
    if wrapped then
      (setCursorByLineNumber f nav 0).map fun nav => (decide (1 < count), nav)
    else if count = 0 ∧ changed = false then some (false, nav)
    else
      (checkSelection f nav).bind fun nav =>
        (stepsDown f count nav).bind fun nav =>
          (recoverFirstDisplayedItemByCursor f (showLastItems f nav)).map fun nav => (true, nav)

/-- `up`. -/
def up (nav : Nav) (count : Nat) (changed : Bool) : Option (Bool × Nav) :=
  (fixupUpCountByWrapMode f nav count).bind fun ((wrapped, count), nav) =>
    if wrapped then
      (if 0 < count then setCursorByLineNumber f nav (count - 1) else some nav).map fun nav =>
        (decide (1 < count), nav)
    else if count = 0 ∧ changed = false then some (false, nav)
    else
      (checkSelection f nav).bind fun nav =>
        if nav.cursor ≤ f.firstSelectableItem then some (false, nav)
        else
          (stepsUp f count nav).bind fun nav =>
            (recoverFirstDisplayedItemByCursor f (showFirstItems f nav)).map fun nav =>
              (true, nav)

end Nav

/-- The operations. -/
inductive NavEvent
  | down (count : Nat) (changed : Bool)
  | up (count : Nat) (changed : Bool)
  | setCursorByLineNumber (lineNumber : Nat)
  | getCursor
  deriving DecidableEq, Repr

/-- One operation. -/
def Nav.step (f : NavItemFilter) (nav : Nav) : NavEvent → Option Nav
  | .down count changed => (nav.down f count changed).map Prod.snd
  | .up count changed => (nav.up f count changed).map Prod.snd
  | .setCursorByLineNumber lineNumber => nav.setCursorByLineNumber f lineNumber
  | .getCursor => nav.checkSelection f

end Drcpd.Lists

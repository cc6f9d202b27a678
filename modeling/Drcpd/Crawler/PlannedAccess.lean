/-
  Crawler/PlannedAccess.lean --- the access a cursor plans (`hint_planned_access`,
  `directory_crawler.cc`).

  A cursor asks its list for as many lines as its viewport is made for, beginning with
  its own line, or ending with it when the crawler walks backward.  Near the ends of the
  list the lines are moved into it.  `accessWindow` says that in closed form.

  The list is the one the cursor's navigation is tied to, so both have the same number of
  items, and no filter hides any of them.
-/
import Drcpd.Lists.HintedAccess
import Drcpd.Lists.Nav

set_option autoImplicit false

namespace Drcpd.Crawler

open Drcpd.Foundation Drcpd.Lists Drcpd.DBus Drcpd.Rnf

variable {Item E : Type}

/-- `start_pos`, in a list with more items than are asked for. -/
def startPos (totalListSize hintCount cursorPos : Nat) (forward : Bool) : Nat :=
  if forward then
    if addUInt cursorPos hintCount ≤ totalListSize then cursorPos else totalListSize - hintCount
  else if hintCount ≤ cursorPos then subUInt cursorPos (subUInt hintCount 1)
  else 0

/-- The segment `hint_planned_access` asks for; `get_cursor` checks the selection. -/
def plannedAccess (f : NavItemFilter) (nav : Nav) (forward : Bool) : Option (Segment × Nav) :=
  let totalListSize := f.totalNumberOfVisibleItems
  let hintCount := nav.maximumNumberOfDisplayedLines
  if totalListSize ≤ hintCount then some (⟨0, totalListSize⟩, nav)
  else
    (Nav.checkSelection f nav).map fun nav =>
      (⟨startPos totalListSize hintCount nav.cursor forward, hintCount⟩, nav)

/-- `hint_planned_access`, for the viewport of the cursor's item filter. -/
def hintPlannedAccess (content : ListId → Nat → Item) (list : DBusList Item E)
    (vp : ViewportId) (f : NavItemFilter) (nav : Nav) (forward : Bool)
    (request : RequestAnswer Unit E) (abort : AbortAnswer) :
    Option (HintCall × Nav × DBusList Item E) :=
  (plannedAccess f nav forward).map fun (segment, nav) =>
    match list.getItemAsyncSetHint content vp segment.line segment.count request abort with
    | (call, list) => (call, nav, list)

/-! ## The lines of an access -/

/-- Up to `h` lines from the cursor on, or up to the cursor, moved into a list of `n`
lines. -/
def accessWindow (n h cursor : Nat) (forward : Bool) : Segment :=
  ⟨if forward then min cursor (n - h) else cursor + 1 - h, min h n⟩

/-- What the view for an access is to be. -/
structure ViewsCursor (n h cursor : Nat) (forward : Bool) (view : Segment) : Prop where
  size : view.lines.card = min h n
  inside : view.lines ⊆ Finset.range n
  shown : cursor ∈ view.lines
  startsAtCursor : forward = true → cursor + min h n ≤ n → view.line = cursor
  movedToEnd : forward = true → n < cursor + min h n → view.line + view.count = n
  endsAtCursor : forward = false → min h n ≤ cursor + 1 → view.line + view.count = cursor + 1
  movedToStart : forward = false → cursor + 1 < min h n → view.line = 0

section Window

variable {n h cursor : Nat} (hpos : 1 ≤ h) (hcursor : cursor < n) (forward : Bool)

include hcursor

theorem accessWindow_inside :
    (accessWindow n h cursor forward).line + (accessWindow n h cursor forward).count ≤ n := by
  unfold accessWindow
  cases forward
  · simp only [Bool.false_eq_true, if_false]
    omega
  · simp only [if_true]
    omega

include hpos

theorem cursor_mem_accessWindow : cursor ∈ (accessWindow n h cursor forward).lines := by
  rw [Segment.mem_lines]
  unfold accessWindow
  cases forward
  · simp only [Bool.false_eq_true, if_false]
    omega
  · simp only [if_true]
    omega

theorem accessWindow_viewsCursor :
    ViewsCursor n h cursor forward (accessWindow n h cursor forward) where
  size := Segment.card_lines _
  inside line hline := by
    have hinside := accessWindow_inside (h := h) hcursor forward
    have hend := (Segment.mem_lines.mp hline).2
    exact Finset.mem_range.mpr (by omega)
  shown := cursor_mem_accessWindow hpos hcursor forward
  startsAtCursor hforward hroom := by
    subst hforward
    exact Nat.min_eq_left (by omega)
  movedToEnd hforward hroom := by
    subst hforward
    simp only [accessWindow, if_true]
    omega
  endsAtCursor hbackward hroom := by
    subst hbackward
    simp only [accessWindow, Bool.false_eq_true, if_false]
    omega
  movedToStart hbackward hroom := by
    subst hbackward
    simp only [accessWindow, Bool.false_eq_true, if_false]
    omega

/-- The unsigned arithmetic of `start_pos` comes to the first line of the window. -/
theorem startPos_eq (hbound : n + h < 2 ^ 32) :
    startPos n h cursor forward = (accessWindow n h cursor forward).line := by
  unfold startPos accessWindow subUInt
  rw [addUInt_of_lt (by omega)]
  dsimp only
  split_ifs <;> omega

/-- What `hint_planned_access` asks for is the window. -/
theorem plannedAccess_eq {nav : Nav} (hbound : n + h < 2 ^ 32)
    (hsize : nav.maximumNumberOfDisplayedLines = h) (hnav : nav.cursor = cursor) :
    plannedAccess (navItemNoFilter n) nav forward =
      some (accessWindow n h cursor forward, nav) := by
  have htotal : (navItemNoFilter n).totalNumberOfVisibleItems = n := rfl
  have hselected : Nav.checkSelection (navItemNoFilter n) nav = some nav := by
    have hitems : 0 < n := by omega
    simp [Nav.checkSelection, Nav.isSelectable, navItemNoFilter, hitems]
  unfold plannedAccess
  dsimp only
  rw [htotal, hsize, hselected]
  rcases Nat.lt_or_ge h n with hlong | hshort
  · rw [if_neg (Nat.not_le.mpr hlong), Option.map_some, hnav,
      startPos_eq hpos hcursor forward hbound]
    unfold accessWindow
    rw [Nat.min_eq_left (Nat.le_of_lt hlong)]
  · rw [if_pos hshort]
    have hwindow : accessWindow n h cursor forward = ⟨0, n⟩ := by
      unfold accessWindow
      rw [Nat.min_eq_right hshort, Segment.mk.injEq]
      refine ⟨?_, rfl⟩
      split_ifs <;> omega
    rw [hwindow]

end Window

/-! ## The access after the hint -/

/-- The item under the cursor is asked for after the hint of an access, if the hint is
accepted; and the answer comes from the lines of the hint. -/
def AccessAnswered (content : ListId → Nat → Item) (s : DBusList Item E) (vp : ViewportId)
    (nav : Nav) (forward : Bool) (request : RequestAnswer Unit E)
    (abort abort' : AbortAnswer) : Prop :=
  ∀ call nav' s',
    hintPlannedAccess content s vp (navItemNoFilter s.numberOfItems) nav forward request
      abort = some (call, nav', s') →
    call.result = .started ∨ call.result = .succeeded →
    DBusList.Answered (s'.getItemAsync vp nav'.cursor abort') vp nav'.cursor

end Drcpd.Crawler

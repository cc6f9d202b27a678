/-
  Lists/NavMirror.lean --- moving up compared with moving down (`listnav.hh`).

  Seen from the other end of an unfiltered list, and with the modes for wrapping around
  exchanged, moving up is moving down.  The source has each direction written out, with
  conditions of its own at the boundaries of the list and for large numbers.
-/
import Drcpd.Lists.NavUnfiltered

set_option autoImplicit false

namespace Drcpd.Lists

/-- The mode in the mirrored list. -/
def WrapMode.exchanged : WrapMode → WrapMode
  | .wrapToTop => .wrapToBottom
  | .wrapToBottom => .wrapToTop
  | mode => mode

theorem WrapMode.wrapsToTop_exchanged (mode : WrapMode) :
    mode.exchanged.WrapsToTop ↔ mode.WrapsToBottom := by
  cases mode <;> decide

namespace Nav

/-- The cursor is in a line of the list, and the numbers fit into `unsigned int`. -/
structure InRange (n : Nat) (nav : Nav) : Prop where
  cursor : nav.cursor < n
  line : nav.selectedLineNumber < 2 ^ 32
  lines : nav.maximumNumberOfDisplayedLines < 2 ^ 32

/-- The line to which `up` moves the cursor. -/
def lineAfterUp (n : Nat) (nav : Nav) (count : Nat) : Option Nat :=
  (nav.up (navItemNoFilter n) count false).map fun moved => moved.2.cursor

/-- The line to which `down` moves the cursor. -/
def lineAfterDown (n : Nat) (nav : Nav) (count : Nat) : Option Nat :=
  (nav.down (navItemNoFilter n) count false).map fun moved => moved.2.cursor

/-- The cursor stops at the top, or goes on at the bottom from the top line. -/
def UpKeepsToBoundary (n : Nat) (nav : Nav) (count : Nat) : Prop :=
  lineAfterUp n nav count = some (nav.cursor - count) ∨
    nav.cursor = 0 ∧ nav.wrapMode.WrapsToBottom ∧ lineAfterUp n nav count = some (n - 1)

/-- The cursor stops at the bottom, or goes on at the top from the bottom line. -/
def DownKeepsToBoundary (n : Nat) (nav : Nav) (count : Nat) : Prop :=
  lineAfterDown n nav count = some (min (nav.cursor + count) (n - 1)) ∨
    nav.cursor = n - 1 ∧ nav.wrapMode.WrapsToTop ∧ lineAfterDown n nav count = some 0

/-- The movement up is the mirror image of the movement down, and both keep to the boundaries. -/
structure MirrorsMovement (n : Nat) (upward downward : Nav) (count : Nat) : Prop where
  mirror : ∀ line < n, lineAfterUp n upward count = some line ↔
    lineAfterDown n downward count = some (n - 1 - line)
  up : UpKeepsToBoundary n upward count
  down : DownKeepsToBoundary n downward count

/-- Both lines have numbers that are an `int`, unless nothing is to be moved; and the movement
does not go from the second line beyond the first one where it would wrap around. -/
def MirrorFits (n : Nat) (mode : WrapMode) (line count : Nat) : Prop :=
  (line < 2 ^ 31 ∧ n - 1 - line < 2 ^ 31 ∨ line = 0 ∧ ¬mode.WrapsToBottom) ∧
    ¬(mode.WrapsToBottom ∧ line = 1 ∧ 1 < count)

section Movement

variable {n : Nat} (hn : 1 ≤ n) {nav : Nav} (hnav : nav.InRange n) {count : Nat}
  (hcount : 1 ≤ count)

include hn hnav hcount

theorem lineAfterUp_eq :
    lineAfterUp n nav count = some
      (if 2 ^ 31 ≤ nav.cursor then nav.cursor
        else if nav.cursor < count then
          if nav.wrapMode.WrapsToBottom ∧ nav.cursor ≤ 1 then n - 1 else 0
        else nav.cursor - count) := by
  have hlast : (setCursorByLineNumber (navItemNoFilter n) nav (n - 1)).map (·.cursor) =
      some (n - 1) := by
    by_cases hone : n - 1 = 0
    · rw [hone, setCursor_zero_unfiltered hn]
      rfl
    · rw [setCursor_unfiltered hn (by omega) (by omega)]
      rfl
  unfold lineAfterUp
  rw [up_unfiltered hn hnav.line, fixedUp_unfiltered hn hnav.cursor hcount]
  split_ifs with hint hbeyond hwrap <;> dsimp only
  · simp
  · rw [if_pos rfl, Option.map_map]
    exact hlast
  · rw [if_neg Bool.false_ne_true]
    split_ifs with hzero
    · simp only [Option.map_some, Option.some.injEq]
      omega
    · simp [movedUp, inLine]
  · rw [if_neg Bool.false_ne_true, if_neg (by omega)]
    simp only [movedUp, inLine, Option.map_some, Option.some.injEq]
    omega

theorem lineAfterDown_eq (hbound : n < 2 ^ 32) :
    lineAfterDown n nav count = some
      (if 2 ^ 31 ≤ nav.cursor then nav.cursor
        else if n ≤ nav.cursor + count then
          if nav.wrapMode.WrapsToTop ∧ nav.cursor = n - 1 then 0 else n - 1
        else nav.cursor + count) := by
  have hcursor := hnav.cursor
  unfold lineAfterDown
  rw [down_unfiltered hn hcursor hnav.line (Nat.le_of_lt hnav.lines),
    fixedDown_unfiltered hn hbound hcursor hcount]
  split_ifs with hint hbeyond hwrap <;> dsimp only
  · simp
  · simp [inLine]
  · rw [if_neg Bool.false_ne_true]
    split_ifs with hzero
    · simp only [Option.map_some, Option.some.injEq]
      omega
    · simp only [movedDown, inLine, Option.map_some, Option.some.injEq]
      omega
  · rw [if_neg Bool.false_ne_true, if_neg (by omega)]
    simp only [movedDown, inLine, Option.map_some, Option.some.injEq]
    omega

end Movement

/-- Two lines are each other's mirror images. -/
theorem mirrored_iff {n up down : Nat} (hup : up < n) (hdown : down < n) :
    (∀ line < n, some up = some line ↔ some down = some (n - 1 - line)) ↔
      up + down = n - 1 := by
  simp only [Option.some.injEq]
  constructor
  · intro h
    have himage := (h up hup).mp rfl
    omega
  · intro h line hline
    omega

/-- The lines that are reached decide whether the movements are mirrored. -/
theorem mirrorsMovement_iff {n : Nat} {upward downward : Nav} {count reached mirrored : Nat}
    (hline : downward.cursor = n - 1 - upward.cursor)
    (hwraps : downward.wrapMode.WrapsToTop ↔ upward.wrapMode.WrapsToBottom)
    (hup : lineAfterUp n upward count = some reached)
    (hdown : lineAfterDown n downward count = some mirrored)
    (hreached : reached < n) (hmirrored : mirrored < n) :
    MirrorsMovement n upward downward count ↔
      reached + mirrored = n - 1 ∧
        (reached = upward.cursor - count ∨
          upward.cursor = 0 ∧ upward.wrapMode.WrapsToBottom ∧ reached = n - 1) ∧
        (mirrored = min (n - 1 - upward.cursor + count) (n - 1) ∨
          n - 1 - upward.cursor = n - 1 ∧ upward.wrapMode.WrapsToBottom ∧ mirrored = 0) := by
  have hupkeeps : UpKeepsToBoundary n upward count ↔ reached = upward.cursor - count ∨
      upward.cursor = 0 ∧ upward.wrapMode.WrapsToBottom ∧ reached = n - 1 := by
    unfold UpKeepsToBoundary
    rw [hup, Option.some.injEq, Option.some.injEq]
  have hdownkeeps : DownKeepsToBoundary n downward count ↔
      mirrored = min (n - 1 - upward.cursor + count) (n - 1) ∨
        n - 1 - upward.cursor = n - 1 ∧ upward.wrapMode.WrapsToBottom ∧ mirrored = 0 := by
    unfold DownKeepsToBoundary
    rw [hdown, Option.some.injEq, Option.some.injEq, hline, hwraps]
  rw [← mirrored_iff hreached hmirrored, ← hup, ← hdown, ← hupkeeps, ← hdownkeeps]
  exact ⟨fun h => ⟨h.mirror, h.up, h.down⟩, fun h => ⟨h.1, h.2.1, h.2.2⟩⟩

/-- For all lists, lines, counts and modes: moving up mirrors moving down, and wraps around from
the boundary only, exactly if the line numbers are not too large and the cursor is not moved from
the second line beyond the first one. -/
theorem up_mirrors_down_iff {n : Nat} (hn : 1 ≤ n) (hbound : n < 2 ^ 32) {upward downward : Nav}
    (hup : upward.InRange n) (hdown : downward.InRange n)
    (hline : downward.cursor = n - 1 - upward.cursor)
    (hmode : downward.wrapMode = upward.wrapMode.exchanged) {count : Nat} (hcount : 1 ≤ count) :
    MirrorsMovement n upward downward count ↔
      MirrorFits n upward.wrapMode upward.cursor count := by
  have hupline := lineAfterUp_eq hn hup hcount
  have hdownline := lineAfterDown_eq hn hdown hcount hbound
  have hwraps : downward.wrapMode.WrapsToTop ↔ upward.wrapMode.WrapsToBottom := by
    rw [hmode]
    exact upward.wrapMode.wrapsToTop_exchanged
  have hcursor := hup.cursor
  simp only [hwraps, hline] at hdownline
  generalize hu : (if 2 ^ 31 ≤ upward.cursor then upward.cursor
    else if upward.cursor < count then
      if upward.wrapMode.WrapsToBottom ∧ upward.cursor ≤ 1 then n - 1 else 0
    else upward.cursor - count) = reached at hupline
  generalize hd : (if 2 ^ 31 ≤ n - 1 - upward.cursor then n - 1 - upward.cursor
    else if n ≤ n - 1 - upward.cursor + count then
      if upward.wrapMode.WrapsToBottom ∧ n - 1 - upward.cursor = n - 1 then 0 else n - 1
    else n - 1 - upward.cursor + count) = mirrored at hdownline
  have hreached : reached < n := by split_ifs at hu <;> omega
  have hmirrored : mirrored < n := by split_ifs at hd <;> omega
  rw [mirrorsMovement_iff hline hwraps hupline hdownline hreached hmirrored]
  unfold MirrorFits
  by_cases hwrap : upward.wrapMode.WrapsToBottom
  · simp only [hwrap, true_and, not_true, and_false, or_false] at hu hd ⊢
    split_ifs at hu hd <;> omega
  · simp only [hwrap, false_and, and_false, or_false, if_false, not_false_eq_true, and_true]
      at hu hd ⊢
    split_ifs at hu hd <;> omega

/-- From the last line of three, and from the first one. -/
theorem up_mirrors_down_three_lines :
    MirrorsMovement 3 ⟨2, 0, 2, .wrapToTop, 5⟩ ⟨0, 0, 0, .wrapToBottom, 5⟩ 2 := by
  refine (up_mirrors_down_iff (by decide) (by decide) ⟨by decide, by decide, by decide⟩
    ⟨by decide, by decide, by decide⟩ rfl rfl (by decide)).mpr ?_
  exact ⟨.inl (by decide), by decide⟩

/-- Two lines up from the second line of five lead to the last line. -/
theorem up_wraps_from_second_line :
    ¬∀ (n : Nat) (upward downward : Nav) (count : Nat), 1 ≤ n → n < 2 ^ 32 → upward.InRange n →
      downward.InRange n → downward.cursor = n - 1 - upward.cursor →
        downward.wrapMode = upward.wrapMode.exchanged → 1 ≤ count →
          MirrorsMovement n upward downward count := by
  intro h
  have hmoved := h 5 ⟨1, 0, 1, .fullWrap, 5⟩ ⟨3, 0, 3, .fullWrap, 5⟩ 2 (by decide) (by decide)
    ⟨by decide, by decide, by decide⟩ ⟨by decide, by decide, by decide⟩ rfl rfl (by decide)
  have hmirror := hmoved.mirror 4 (by decide)
  revert hmirror
  decide

end Nav

end Drcpd.Lists

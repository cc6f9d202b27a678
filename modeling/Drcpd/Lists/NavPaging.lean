/-
  Lists/NavPaging.lean --- moving by whole pages in the file browser (`view_filebrowser.cc`).

  `move_down_multi` and `move_up_multi` go to the last and to the first line of the display, and
  further on from there.  They compute how far that is from the selected line, so they depend on
  that line being the one in which the cursor is shown.

  The file browser shows unfiltered lists and wraps around at both ends.
-/
import Drcpd.Lists.NavUnfiltered

set_option autoImplicit false

namespace Drcpd.Lists

open Foundation (runFrom)

/-- The results of `ViewIface::InputResult` that a movement has. -/
inductive InputResult
  | ok
  | updateNeeded
  deriving DecidableEq, Repr

namespace Nav

/-- `distance_to_top`. -/
def distanceToTop (f : NavItemFilter) (nav : Nav) : Nat :=
  if 0 < f.totalNumberOfVisibleItems then nav.selectedLineNumber else 0

/-- `distance_to_bottom`. -/
def distanceToBottom (f : NavItemFilter) (nav : Nav) : Nat :=
  if 0 < f.totalNumberOfVisibleItems then
    subUInt (subUInt (min nav.maximumNumberOfDisplayedLines f.totalNumberOfVisibleItems)
      nav.selectedLineNumber) 1
  else 0

/-- What is made of the answer of `down` and `up`. -/
def inputResult (moved : Bool) : InputResult := if moved then .updateNeeded else .ok

/-- `move_down_multi`. -/
def moveDownMulti (f : NavItemFilter) (navigation : Nav) (lines : Nat) :
    Option (InputResult × Nav) :=
  (if lines = 1 ∨ distanceToBottom f navigation = 0 then navigation.down f lines false
    else navigation.down f (distanceToBottom f navigation) false).map fun moved =>
      (inputResult moved.1, moved.2)

/-- `move_up_multi`. -/
def moveUpMulti (f : NavItemFilter) (navigation : Nav) (lines : Nat) :
    Option (InputResult × Nav) :=
  (if lines = 1 ∨ distanceToTop f navigation = 0 then navigation.up f lines false
    else navigation.up f (distanceToTop f navigation) false).map fun moved =>
      (inputResult moved.1, moved.2)

/-- The count that `move_down_multi` gives to `down`. -/
def countDown (n : Nat) (nav : Nav) (lines : Nat) : Nat :=
  if lines = 1 ∨ distanceToBottom (navItemNoFilter n) nav = 0 then lines
  else distanceToBottom (navItemNoFilter n) nav

/-- The item displayed last. -/
def lastDisplayedItem (n : Nat) (nav : Nav) : Nat :=
  nav.firstDisplayedItem + min nav.maximumNumberOfDisplayedLines n - 1

/-- Down to the item displayed last, and from there further on or around to the first one. -/
def PagesDown (n : Nat) (nav : Nav) (lines : Nat) : Prop :=
  ∃ result after, moveDownMulti (navItemNoFilter n) nav lines = some (result, after) ∧
    if nav.cursor = lastDisplayedItem n nav then
      after.cursor =
        if nav.cursor = n - 1 then 0 else nav.cursor + min lines (n - 1 - nav.cursor)
    else
      after.cursor = lastDisplayedItem n nav ∧
        after.firstDisplayedItem = nav.firstDisplayedItem

/-- Up to the item displayed first, and from there further on or around to the last one. -/
def PagesUp (n : Nat) (nav : Nav) (lines : Nat) : Prop :=
  ∃ result after, moveUpMulti (navItemNoFilter n) nav lines = some (result, after) ∧
    if nav.cursor = nav.firstDisplayedItem then
      after.cursor = if nav.cursor = 0 then n - 1 else nav.cursor - min lines nav.cursor
    else
      after.cursor = nav.firstDisplayedItem ∧ after.firstDisplayedItem = nav.firstDisplayedItem

/-- The line number of the cursor is an `int`; the selected line is not below the one of the
cursor, or no distance is left from it and the lines lead to the last line of the display (or the
distance has wrapped around); and the cursor is not in the second line of the list unless that is
the selected line. -/
def PagingFits (n : Nat) (nav : Nav) (lines : Nat) : Prop :=
  let last := min nav.maximumNumberOfDisplayedLines n - 1
  nav.cursor < 2 ^ 31 ∧
    (nav.selectedLineNumber ≤ nav.cursor ∨ last < nav.selectedLineNumber ∨
      nav.selectedLineNumber = last ∧
        (lines = last - nav.cursor ∨ last = n - 1 ∧ last - nav.cursor ≤ lines)) ∧
    ¬(nav.cursor = 1 ∧ nav.selectedLineNumber ≠ 1)

instance (n : Nat) (nav : Nav) (lines : Nat) : Decidable (PagingFits n nav lines) := by
  unfold PagingFits
  infer_instance

/-! ## States of the file browser -/

/-- The cursor is in the list, the item displayed first is as far above it as the selected line
says if there are as many, and the display is full.  The selected line is one of the display but
for the longest list on the longest display, for which the line in the middle is not
computed. -/
structure Shown (n maxLines : Nat) (nav : Nav) : Prop where
  mode : nav.wrapMode = .fullWrap
  lines : nav.maximumNumberOfDisplayedLines = maxLines
  cursor : nav.cursor < n
  first : nav.firstDisplayedItem = nav.cursor - nav.selectedLineNumber
  line : nav.selectedLineNumber < min maxLines n ∨
    nav.selectedLineNumber = maxLines ∧ maxLines = n ∧ n = 2 ^ 32 - 1
  short : n < maxLines → nav.selectedLineNumber ≤ nav.cursor
  window : nav.cursor - nav.selectedLineNumber + min maxLines n ≤ n

section States

variable {n maxLines : Nat} (hn : 1 ≤ n) (hbound : n < 2 ^ 32) (hlines : 1 ≤ maxLines)
  (hmax : maxLines < 2 ^ 32) {nav : Nav}

include hn hbound hlines hmax

omit hbound hmax in
theorem Shown.top (hmode : nav.wrapMode = .fullWrap)
    (hnav : nav.maximumNumberOfDisplayedLines = maxLines) : Shown n maxLines (nav.inLine 0 0) where
  mode := hmode
  lines := hnav
  cursor := hn
  first := rfl
  line := .inl (Nat.lt_min.mpr ⟨hlines, hn⟩)
  short _ := Nat.le_refl 0
  window := by
    change 0 - 0 + min maxLines n ≤ n
    omega

omit hn hbound hmax in
theorem Shown.movedDown (h : Shown n maxLines nav) (count : Nat) :
    Shown n maxLines (nav.movedDown n count) := by
  obtain ⟨hmode, hnav, hcursor, -, hline, hshort, hwindow⟩ := h
  refine ⟨hmode, hnav, ?_, rfl, ?_, ?_, ?_⟩
  all_goals
    unfold Nav.movedDown inLine
    rw [hnav]
    dsimp only
    omega

omit hn hbound hlines hmax in
theorem Shown.movedUp (h : Shown n maxLines nav) (count : Nat) :
    Shown n maxLines (nav.movedUp count) := by
  obtain ⟨hmode, hnav, hcursor, -, hline, hshort, hwindow⟩ := h
  refine ⟨hmode, hnav, ?_, rfl, ?_, ?_, ?_⟩
  all_goals
    unfold Nav.movedUp inLine
    dsimp only
    omega

theorem Shown.selectLine (h : Shown n maxLines nav) {line : Nat} (hline : line < n) :
    Shown n maxLines (nav.inLine line (selectLine nav.maximumNumberOfDisplayedLines n line)) := by
  have hselect : Nav.selectLine maxLines n line =
      if n < maxLines then line
      else if maxLines = 2 ^ 32 - 1 then maxLines
      else if n - line - 1 < maxLines - ((maxLines + 1) / 2 - 1) then
        maxLines - (n - line - 1) - 1
      else (maxLines + 1) / 2 - 1 := by
    unfold Nav.selectLine
    dsimp only
    by_cases hlongest : maxLines = 2 ^ 32 - 1
    · have hcenter : centerLine maxLines = maxLines := by
        unfold centerLine subUInt addUInt
        omega
      rw [hcenter, if_pos hlongest, Nat.sub_self, if_neg (Nat.not_lt_zero _)]
    · have hcenter : centerLine maxLines = (maxLines + 1) / 2 - 1 := by
        unfold centerLine subUInt addUInt
        omega
      rw [hcenter, if_neg hlongest]
  obtain ⟨hmode, hnav, -, -, -, -, -⟩ := h
  rw [hnav, hselect]
  refine ⟨hmode, hnav, hline, rfl, ?_, ?_, ?_⟩
  all_goals
    unfold inLine
    dsimp only
    split_ifs <;> omega

theorem Shown.setCursor (h : Shown n maxLines nav) (line : Nat) :
    ∃ after, setCursorByLineNumber (navItemNoFilter n) nav line = some after ∧
      Shown n maxLines after := by
  by_cases hzero : line = 0
  · rw [hzero, setCursor_zero_unfiltered hn]
    exact ⟨_, rfl, Shown.top hn hlines h.mode h.lines⟩
  · by_cases hline : line < n
    · rw [setCursor_unfiltered hn (Nat.pos_of_ne_zero hzero) hline]
      exact ⟨_, rfl, h.selectLine hn hbound hlines hmax hline⟩
    · rw [setCursor_beyond_unfiltered hn (Nat.le_of_not_lt hline)]
      exact ⟨_, rfl, Shown.top hn hlines h.mode h.lines⟩

omit hn hlines in
theorem Shown.line_lt (h : Shown n maxLines nav) : nav.selectedLineNumber < 2 ^ 32 := by
  have hline := h.line
  omega

theorem Shown.step (h : Shown n maxLines nav) (e : NavEvent) {after : Nav}
    (hstep : nav.step (navItemNoFilter n) e = some after) : Shown n maxLines after := by
  cases e with
  | down count changed =>
    have hdown := down_unfiltered hn h.cursor (h.line_lt hbound hmax)
      (by rw [h.lines]; exact Nat.le_of_lt hmax) count changed
    change (nav.down (navItemNoFilter n) count changed).map Prod.snd = some after at hstep
    rw [hdown] at hstep
    obtain rfl := Option.some.inj hstep
    split_ifs
    · exact Shown.top hn hlines h.mode h.lines
    · exact h
    · exact h.movedDown hlines _
  | up count changed =>
    have hup := up_unfiltered hn (h.line_lt hbound hmax) count changed
    change (nav.up (navItemNoFilter n) count changed).map Prod.snd = some after at hstep
    rw [hup] at hstep
    dsimp only at hstep
    split_ifs at hstep with hwrapped hnothing
    · obtain ⟨set, hset, hshown⟩ := h.setCursor hn hbound hlines hmax
        ((fixedUp (navItemNoFilter n) nav count).2 - 1)
      rw [hset] at hstep
      obtain rfl := Option.some.inj hstep
      exact hshown
    · obtain rfl := Option.some.inj hstep
      exact h
    · obtain rfl := Option.some.inj hstep
      exact h.movedUp _
  | setCursorByLineNumber line =>
    obtain ⟨set, hset, hshown⟩ := h.setCursor hn hbound hlines hmax line
    obtain rfl := Option.some.inj (hset.symm.trans hstep)
    exact hshown
  | getCursor =>
    obtain rfl := Option.some.inj ((checkSelection_unfiltered hn).symm.trans hstep)
    exact h

/-- In every state that is reached. -/
theorem shown_of_run {start : Nav}
    (hstart : init (navItemNoFilter n) maxLines .fullWrap = some start) (es : List NavEvent)
    (hrun : runFrom (Nav.step (navItemNoFilter n)) start es = some nav) :
    Shown n maxLines nav := by
  have htop : Shown n maxLines start := by
    unfold init at hstart
    rw [recoverCursorAndSelection_unfiltered hn] at hstart
    obtain rfl := Option.some.inj hstart
    exact Shown.top hn hlines rfl rfl
  exact Foundation.invariant_of_run
    (fun _ e _ h hstep => h.step hn hbound hlines hmax e hstep) es htop hrun

/-! ## Pages -/

omit hlines in
/-- `down`, with wrapping around. -/
theorem Shown.down_cases (h : Shown n maxLines nav) {count : Nat} (hcount : 1 ≤ count) :
    ∃ moved after, nav.down (navItemNoFilter n) count false = some (moved, after) ∧
      (2 ^ 31 ≤ nav.cursor ∧ after = nav ∨
        nav.cursor < 2 ^ 31 ∧ nav.cursor = n - 1 ∧ after = nav.inLine 0 0 ∨
        nav.cursor < 2 ^ 31 ∧ nav.cursor < n - 1 ∧
          after = nav.movedDown n (min count (n - 1 - nav.cursor))) := by
  have hcursor := h.cursor
  have hwraps : nav.wrapMode.WrapsToTop := .inl h.mode
  have hfixed := fixedDown_unfiltered hn hbound h.cursor hcount
  rw [down_unfiltered hn h.cursor (h.line_lt hbound hmax)
    (by rw [h.lines]; exact Nat.le_of_lt hmax)]
  by_cases hint : 2 ^ 31 ≤ nav.cursor
  · rw [if_pos hint] at hfixed
    rw [hfixed]
    exact ⟨_, _, rfl, .inl ⟨hint, rfl⟩⟩
  · rw [if_neg hint] at hfixed
    by_cases hlast : nav.cursor = n - 1
    · rw [if_pos (show n ≤ nav.cursor + count by omega), if_pos ⟨hwraps, hlast⟩] at hfixed
      rw [hfixed]
      exact ⟨_, _, rfl, .inr (.inl ⟨Nat.lt_of_not_le hint, hlast, rfl⟩)⟩
    · have hmoved : fixedDown (navItemNoFilter n) nav count =
          (false, min count (n - 1 - nav.cursor)) := by
        rw [hfixed]
        split_ifs with hbeyond hboth
        · exact absurd hboth.2 hlast
        · congr 1
          omega
        · congr 1
          omega
      rw [hmoved]
      dsimp only
      rw [if_neg Bool.false_ne_true, if_neg (by omega)]
      exact ⟨_, _, rfl, .inr (.inr ⟨Nat.lt_of_not_le hint, by omega, rfl⟩)⟩

omit hlines in
/-- `up`, with wrapping around. -/
theorem Shown.up_cases (h : Shown n maxLines nav) {count : Nat} (hcount : 1 ≤ count) :
    ∃ moved after, nav.up (navItemNoFilter n) count false = some (moved, after) ∧
      (2 ^ 31 ≤ nav.cursor ∧ after = nav ∨
        nav.cursor < 2 ^ 31 ∧ (nav.cursor < count ∧ nav.cursor ≤ 1) ∧ after.cursor = n - 1 ∨
        nav.cursor < 2 ^ 31 ∧ ¬(nav.cursor < count ∧ nav.cursor ≤ 1) ∧
          after = nav.movedUp (min count nav.cursor)) := by
  have hwraps : nav.wrapMode.WrapsToBottom := .inl h.mode
  have hfixed := fixedUp_unfiltered hn h.cursor hcount
  rw [up_unfiltered hn (h.line_lt hbound hmax)]
  by_cases hint : 2 ^ 31 ≤ nav.cursor
  · rw [if_pos hint] at hfixed
    rw [hfixed]
    exact ⟨_, _, rfl, .inl ⟨hint, rfl⟩⟩
  · rw [if_neg hint] at hfixed
    by_cases hwrap : nav.cursor < count ∧ nav.cursor ≤ 1
    · rw [if_pos hwrap.1, if_pos ⟨hwraps, hwrap.2⟩] at hfixed
      rw [hfixed]
      dsimp only
      rw [if_pos rfl]
      by_cases hone : n - 1 = 0
      · rw [hone, setCursor_zero_unfiltered hn]
        exact ⟨_, _, rfl, .inr (.inl ⟨Nat.lt_of_not_le hint, hwrap, rfl⟩)⟩
      · rw [setCursor_unfiltered hn (by omega) (by omega)]
        exact ⟨_, _, rfl, .inr (.inl ⟨Nat.lt_of_not_le hint, hwrap, rfl⟩)⟩
    · have hmoved : fixedUp (navItemNoFilter n) nav count = (false, min count nav.cursor) := by
        rw [hfixed]
        split_ifs with hbeyond hboth
        · exact absurd ⟨hbeyond, hboth.2⟩ hwrap
        · congr 1
          omega
        · congr 1
          omega
      rw [hmoved]
      dsimp only
      rw [if_neg Bool.false_ne_true, if_neg (by omega)]
      exact ⟨_, _, rfl, .inr (.inr ⟨Nat.lt_of_not_le hint, hwrap, rfl⟩)⟩

theorem Shown.countDown_eq (h : Shown n maxLines nav) {lines : Nat} (hmore : 1 < lines) :
    countDown n nav lines =
      if nav.selectedLineNumber = min maxLines n - 1 then lines
      else if nav.selectedLineNumber < min maxLines n then
        min maxLines n - nav.selectedLineNumber - 1
      else 2 ^ 32 - 1 := by
  have hline := h.line
  have hdistance : distanceToBottom (navItemNoFilter n) nav =
      if nav.selectedLineNumber < min maxLines n then min maxLines n - nav.selectedLineNumber - 1
      else 2 ^ 32 - 1 := by
    unfold distanceToBottom
    rw [if_pos (show 0 < (navItemNoFilter n).totalNumberOfVisibleItems from hn), h.lines]
    change subUInt (subUInt (min maxLines n) nav.selectedLineNumber) 1 = _
    unfold subUInt
    split_ifs <;> omega
  unfold countDown
  rw [hdistance]
  by_cases hlt : nav.selectedLineNumber < min maxLines n
  · rw [if_pos hlt]
    exact if_congr (by omega) rfl rfl
  · rw [if_neg hlt, if_neg (by omega), if_neg (by omega)]

/-- From the selected line of the cursor, a page leads to the last line of the display. -/
theorem Shown.pageDown_of_le (h : Shown n maxLines nav)
    (hle : nav.selectedLineNumber ≤ nav.cursor) (hlast : nav.cursor < n - 1) {lines : Nat}
    (hmore : 1 < lines) :
    let after := nav.movedDown n (min (countDown n nav lines) (n - 1 - nav.cursor))
    if nav.cursor = lastDisplayedItem n nav then
      after.cursor = nav.cursor + min lines (n - 1 - nav.cursor)
    else
      after.cursor = lastDisplayedItem n nav ∧
        after.firstDisplayedItem = nav.firstDisplayedItem := by
  have hline := h.line
  have hwindow := h.window
  have hcount := h.countDown_eq hn hbound hlines hmax hmore
  unfold lastDisplayedItem Nav.movedDown inLine
  rw [h.first, h.lines]
  dsimp only
  by_cases hbottom : nav.selectedLineNumber = min maxLines n - 1
  · rw [if_pos hbottom] at hcount
    rw [if_pos (by omega), hcount]
    omega
  · rw [if_neg hbottom, if_pos (by omega)] at hcount
    have hcursor : nav.cursor + min (min (countDown n nav lines) (n - 1 - nav.cursor))
        (n - 1 - nav.cursor) =
          nav.cursor - nav.selectedLineNumber + min maxLines n - 1 := by
      omega
    rw [if_neg (by omega)]
    exact ⟨hcursor, by omega⟩

/-- With the selected line below the one of the cursor, it leads there in some cases only. -/
theorem Shown.pageDown_iff_of_lt (h : Shown n maxLines nav)
    (hlt : nav.cursor < nav.selectedLineNumber) (hlast : nav.cursor < n - 1) {lines : Nat}
    (hmore : 1 < lines) :
    (let after := nav.movedDown n (min (countDown n nav lines) (n - 1 - nav.cursor))
    if nav.cursor = lastDisplayedItem n nav then
      after.cursor = nav.cursor + min lines (n - 1 - nav.cursor)
    else
      after.cursor = lastDisplayedItem n nav ∧
        after.firstDisplayedItem = nav.firstDisplayedItem) ↔
      let last := min maxLines n - 1
      last < nav.selectedLineNumber ∨ nav.selectedLineNumber = last ∧
        (lines = last - nav.cursor ∨ last = n - 1 ∧ last - nav.cursor ≤ lines) := by
  have hline := h.line
  have hshort : ¬n < maxLines := fun hshort => Nat.not_le_of_lt hlt (h.short hshort)
  have hcount := h.countDown_eq hn hbound hlines hmax hmore
  have hfull : min maxLines n = maxLines := Nat.min_eq_left (Nat.le_of_not_lt hshort)
  unfold lastDisplayedItem Nav.movedDown inLine
  rw [h.first, h.lines, Nat.sub_eq_zero_of_le (Nat.le_of_lt hlt), Nat.zero_add, hfull]
  rw [hfull] at hcount hline
  generalize countDown n nav lines = count at hcount
  dsimp only
  split_ifs at hcount ⊢ <;> omega

/-- The part of the condition that moving down needs. -/
theorem Shown.pagesDown_iff (h : Shown n maxLines nav) {lines : Nat} (hmore : 1 < lines) :
    PagesDown n nav lines ↔
      let last := min nav.maximumNumberOfDisplayedLines n - 1
      nav.cursor < 2 ^ 31 ∧
        (nav.selectedLineNumber ≤ nav.cursor ∨ last < nav.selectedLineNumber ∨
          nav.selectedLineNumber = last ∧
            (lines = last - nav.cursor ∨ last = n - 1 ∧ last - nav.cursor ≤ lines)) := by
  have hpositive : 1 ≤ countDown n nav lines := by
    have hcount := h.countDown_eq hn hbound hlines hmax hmore
    split_ifs at hcount <;> omega
  obtain ⟨moved, after, hdown, hcases⟩ := h.down_cases hn hbound hmax hpositive
  have hmulti : moveDownMulti (navItemNoFilter n) nav lines =
      some (inputResult moved, after) := by
    unfold moveDownMulti
    rw [← apply_ite (fun lines => nav.down (navItemNoFilter n) lines false)]
    change (nav.down (navItemNoFilter n) (countDown n nav lines) false).map _ = _
    rw [hdown]
    rfl
  have hpages : PagesDown n nav lines ↔
      if nav.cursor = lastDisplayedItem n nav then
        after.cursor = if nav.cursor = n - 1 then 0
          else nav.cursor + min lines (n - 1 - nav.cursor)
      else after.cursor = lastDisplayedItem n nav ∧
        after.firstDisplayedItem = nav.firstDisplayedItem := by
    unfold PagesDown
    constructor
    · rintro ⟨result, after', hafter, hif⟩
      obtain ⟨-, rfl⟩ := Prod.mk.inj (Option.some.inj (hmulti.symm.trans hafter))
      exact hif
    · exact fun hif => ⟨_, after, hmulti, hif⟩
  have hcursor := h.cursor
  rw [hpages]
  rcases hcases with ⟨hint, rfl⟩ | ⟨hint, hlast, rfl⟩ | ⟨hint, hlast, rfl⟩
  · -- nothing is moved
    refine iff_of_false (fun hif => ?_) (fun hfits => Nat.not_le_of_lt hfits.1 hint)
    split_ifs at hif <;> omega
  · -- the last item of the list is displayed in the last line, if in any
    have hwindow := h.window
    have hshort := h.short
    have hline := h.line
    unfold lastDisplayedItem inLine
    rw [h.first, h.lines]
    dsimp only
    split_ifs <;> omega
  · rw [if_neg (Nat.ne_of_lt hlast), h.lines, and_iff_right hint]
    by_cases hle : nav.selectedLineNumber ≤ nav.cursor
    · exact iff_of_true (h.pageDown_of_le hn hbound hlines hmax hle hlast hmore) (.inl hle)
    · rw [or_iff_right hle]
      exact h.pageDown_iff_of_lt hn hbound hlines hmax (Nat.lt_of_not_le hle) hlast hmore

omit hlines in
/-- The part of the condition that moving up needs. -/
theorem Shown.pagesUp_iff (h : Shown n maxLines nav) {lines : Nat} (hmore : 1 < lines) :
    PagesUp n nav lines ↔
      nav.cursor < 2 ^ 31 ∧ ¬(nav.cursor = 1 ∧ nav.selectedLineNumber ≠ 1) := by
  generalize hcount : (if lines = 1 ∨ nav.selectedLineNumber = 0 then lines
    else nav.selectedLineNumber) = count
  have hpositive : 1 ≤ count := by
    split_ifs at hcount <;> omega
  obtain ⟨moved, after, hup, hcases⟩ := h.up_cases hn hbound hmax hpositive
  have hmulti : moveUpMulti (navItemNoFilter n) nav lines = some (inputResult moved, after) := by
    have hdistance : distanceToTop (navItemNoFilter n) nav = nav.selectedLineNumber :=
      if_pos (show 0 < (navItemNoFilter n).totalNumberOfVisibleItems from hn)
    unfold moveUpMulti
    rw [hdistance, ← apply_ite (fun lines => nav.up (navItemNoFilter n) lines false), hcount, hup]
    rfl
  have hpages : PagesUp n nav lines ↔
      if nav.cursor = nav.firstDisplayedItem then
        after.cursor = if nav.cursor = 0 then n - 1 else nav.cursor - min lines nav.cursor
      else after.cursor = nav.firstDisplayedItem ∧
        after.firstDisplayedItem = nav.firstDisplayedItem := by
    unfold PagesUp
    constructor
    · rintro ⟨result, after', hafter, hif⟩
      obtain ⟨-, rfl⟩ := Prod.mk.inj (Option.some.inj (hmulti.symm.trans hafter))
      exact hif
    · exact fun hif => ⟨_, after, hmulti, hif⟩
  have hcursor := h.cursor
  have hfirst := h.first
  rw [hpages]
  rcases hcases with ⟨hint, rfl⟩ | ⟨hint, hwrap, hafter⟩ | ⟨hint, hwrap, rfl⟩
  · -- nothing is moved
    refine iff_of_false (fun hif => ?_) (fun hfits => Nat.not_le_of_lt hfits.1 hint)
    split_ifs at hif <;> omega
  · -- around to the last item, from the first item or from the second one
    split_ifs at hcount ⊢ <;> omega
  · unfold Nav.movedUp inLine
    dsimp only
    split_ifs at hcount ⊢ <;> omega

end States

/-- In every state that the file browser reaches: moving by pages goes to the ends of the display
and from there further on, exactly if the condition is met. -/
theorem pages_iff {n maxLines : Nat} (hn : 1 ≤ n) (hbound : n < 2 ^ 32) (hlines : 1 ≤ maxLines)
    (hmax : maxLines < 2 ^ 32) {start nav : Nav}
    (hstart : init (navItemNoFilter n) maxLines .fullWrap = some start) (es : List NavEvent)
    (hrun : runFrom (step (navItemNoFilter n)) start es = some nav) {lines : Nat}
    (hmore : 1 < lines) :
    PagesDown n nav lines ∧ PagesUp n nav lines ↔ PagingFits n nav lines := by
  have h := shown_of_run hn hbound hlines hmax hstart es hrun
  rw [h.pagesDown_iff hn hbound hlines hmax hmore, h.pagesUp_iff hn hbound hmax hmore]
  unfold PagingFits
  tauto

/-- Three lines down in a list of seven. -/
theorem pages_from_third_line :
    PagesDown 7 ⟨2, 0, 2, .fullWrap, 4⟩ 4 ∧ PagesUp 7 ⟨2, 0, 2, .fullWrap, 4⟩ 4 := by
  have hstart : init (navItemNoFilter 7) 4 .fullWrap = some ⟨0, 0, 0, .fullWrap, 4⟩ := rfl
  exact (pages_iff (by decide) (by decide) (by decide) (by decide) hstart [.down 2 false] rfl
    (by decide)).mpr (by decide)

/-- After the second line of ten has been chosen, a page leads to the fourth line of five. -/
theorem page_ends_before_last_line :
    ¬∀ (n maxLines : Nat) (start nav : Nav) (es : List NavEvent) (lines : Nat), 1 ≤ n →
      n < 2 ^ 32 → 1 ≤ maxLines → maxLines < 2 ^ 32 →
        init (navItemNoFilter n) maxLines .fullWrap = some start →
          runFrom (step (navItemNoFilter n)) start es = some nav → 1 < lines →
            PagesDown n nav lines ∧ PagesUp n nav lines := by
  intro h
  obtain ⟨⟨result, after, hafter, hif⟩, -⟩ := h 10 5 _ _ [.setCursorByLineNumber 1] 5 (by decide)
    (by decide) (by decide) (by decide) rfl rfl (by decide)
  obtain ⟨-, rfl⟩ := Prod.mk.inj (Option.some.inj (hafter.symm.trans
    (show _ = some (InputResult.updateNeeded, ⟨3, 0, 4, WrapMode.fullWrap, 5⟩) from rfl)))
  revert hif
  decide

end Nav

end Drcpd.Lists

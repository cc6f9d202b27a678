/-
  Lists/NavDisplay.lean --- the items that are displayed (`List::Nav::const_iterator`).

  An iterator goes over the visible items from the item displayed first, and counts the lines of
  the display.  In every state that is reached the first item is visible, so the iterator lists
  as many visible items as there are lines.  The cursor is among them exactly if the selected
  line, or the cursor itself, is not below the display.
-/
import Drcpd.Lists.NavRuns

set_option autoImplicit false

namespace Drcpd.Lists

open Foundation (AlongRun countBelow markedFrom runFrom)

namespace Nav

variable {f : NavItemFilter} {nav : Nav}

/-! ## Iterators -/

/-- `List::Nav::const_iterator`, for the navigation it belongs to. -/
structure ConstIterator where
  item : Nat
  lineNumber : Nat
  deriving DecidableEq, Repr

namespace ConstIterator

/-- `find_next_visible_item`. -/
def findNextVisibleItem (f : NavItemFilter) (nav : Nav) (it : ConstIterator) :
    Option ConstIterator :=
  if nav.maximumNumberOfDisplayedLines ≤ it.lineNumber then some it
  else if it.item < f.lastVisibleItem then
    (stepForwardVisible f it.item).map fun item =>
      { item := item, lineNumber := it.lineNumber + 1 }
  else some { it with lineNumber := nav.maximumNumberOfDisplayedLines }

/-- The constructor, for a list that is tied. -/
def make (f : NavItemFilter) (nav : Nav) (item lineNumber : Nat) : Option ConstIterator :=
  if isVisible f item then some { item := item, lineNumber := lineNumber }
  else findNextVisibleItem f nav { item := item, lineNumber := lineNumber }

end ConstIterator

/-- `begin`. -/
def begin (f : NavItemFilter) (nav : Nav) : Option ConstIterator :=
  ConstIterator.make f nav nav.firstDisplayedItem 0

/-- `end`. -/
def end' (f : NavItemFilter) (nav : Nav) : Option ConstIterator :=
  ConstIterator.make f nav nav.firstDisplayedItem nav.maximumNumberOfDisplayedLines

/-- The items of a loop from the iterator to another one, for no more than that many turns. -/
def iterate (f : NavItemFilter) (nav : Nav) (stop : ConstIterator) :
    Nat → ConstIterator → Option (List Nat)
  | 0, _ => none
  | turns + 1, it =>
      if it.lineNumber ≠ stop.lineNumber then
        (it.findNextVisibleItem f nav).bind fun next =>
          (iterate f nav stop turns next).map (it.item :: ·)
      else some []

/-- The items of a loop from `begin` to `end`, for no more than that many turns. -/
def displayedItems (f : NavItemFilter) (nav : Nav) (turns : Nat) : Option (List Nat) :=
  (end' f nav).bind fun stop => (begin f nav).bind (iterate f nav stop turns)

/-- The visible items from the item displayed first, as many as there are lines. -/
def itemsInLines (f : NavItemFilter) (nav : Nav) : List Nat :=
  (markedFrom f.isVisible f.numberOfItems nav.firstDisplayedItem).take
    nav.maximumNumberOfDisplayedLines

/-- Iterating ends with the items that are to be displayed. -/
def Iterates (f : NavItemFilter) (nav : Nav) : Prop :=
  ∃ turns, displayedItems f nav turns = some (itemsInLines f nav)

/-- The cursor is one of the items. -/
structure Displays (f : NavItemFilter) (nav : Nav) : Prop where
  iterates : Iterates f nav
  cursor : nav.cursor ∈ itemsInLines f nav

/-- An operation leads to a state with the cursor on the display. -/
def DisplaysAfter (f : NavItemFilter) (after : Option Nav) : Prop :=
  ∃ nav, after = some nav ∧ Displays f nav

/-! ## States that are reached -/

/-- The cursor is a selectable item, and the item displayed first is the visible one which is
that many lines above it as the selected line says, as far as there are any. -/
structure Placed (f : NavItemFilter) (maxLines : Nat) (nav : Nav) : Prop where
  lines : nav.maximumNumberOfDisplayedLines = maxLines
  cursor : nav.cursor < f.numberOfItems
  selectable : f.isSelectable nav.cursor = true
  line : nav.selectedLineNumber < 2 ^ 32
  first : nav.firstDisplayedItem ≤ nav.cursor
  visible : f.isVisible nav.firstDisplayedItem = true
  above : visibleAbove f nav.firstDisplayedItem =
    visibleAbove f nav.cursor - nav.selectedLineNumber

/-- The selected line is one of the display, or all visible items above the cursor are. -/
def CursorFits (f : NavItemFilter) (nav : Nav) : Prop :=
  nav.selectedLineNumber < nav.maximumNumberOfDisplayedLines ∨
    visibleAbove f nav.cursor < nav.maximumNumberOfDisplayedLines

/-- For the item that `down` reaches: it is among the first visible items, or the selected line is
one of the display, also after the items behind the last selectable one have been taken off the
line. -/
def DownShows (f : NavItemFilter) (nav : Nav) (count : Nat) (changed : Bool) : Prop :=
  let fixed := fixedDown f nav count
  let left := selectableAbove f f.lastSelectableItem - selectableAbove f nav.cursor
  let behind := f.lastVisibleItem - f.lastSelectableItem
  let line := max nav.selectedLineNumber
    (min (nav.maximumNumberOfDisplayedLines - 1) (nav.selectedLineNumber + left))
  fixed.1 = true ∨ fixed.2 = 0 ∧ changed = false ∨
    ∀ item < f.numberOfItems, f.isSelectable item = true →
      selectableAbove f item = selectableAbove f nav.cursor + min fixed.2 left →
        visibleAbove f item < nav.maximumNumberOfDisplayedLines ∨
          if item = f.lastSelectableItem then
            behind ≤ line ∧ line - behind < nav.maximumNumberOfDisplayedLines
          else nav.selectedLineNumber < nav.maximumNumberOfDisplayedLines

/-- The conditions for the operations. -/
def StepShows (f : NavItemFilter) (nav : Nav) : NavEvent → Prop
  | .down count changed => DownShows f nav count changed
  | .up .. | .setCursorByLineNumber _ | .getCursor => True

section Iteration

variable (hf : f.Consistent)

include hf

/-- From a visible item, the iterator yields this item and the ones after it. -/
theorem iterate_eq {stop : ConstIterator}
    (hstop : stop.lineNumber = nav.maximumNumberOfDisplayedLines) (lines : Nat)
    {it : ConstIterator} (hline : it.lineNumber + lines = nav.maximumNumberOfDisplayedLines)
    (hitem : it.item < f.numberOfItems) (hvisible : f.isVisible it.item = true) {turns : Nat}
    (hturns : lines < turns) :
    iterate f nav stop turns it =
      some ((markedFrom f.isVisible f.numberOfItems it.item).take lines) := by
  induction lines generalizing it turns with
  | zero =>
    obtain ⟨turns, rfl⟩ := Nat.exists_eq_succ_of_ne_zero (Nat.ne_of_gt hturns)
    rw [iterate, if_neg (by omega)]
    rfl
  | succ lines ih =>
    obtain ⟨turns, rfl⟩ := Nat.exists_eq_succ_of_ne_zero (Nat.ne_zero_of_lt hturns)
    have hlast := hf.lastVisible
    rw [iterate, if_pos (by omega), ConstIterator.findNextVisibleItem, if_neg (by omega),
      Foundation.markedFrom_of_lt hitem, if_pos hvisible, List.take_succ_cons]
    by_cases hlt : it.item < f.lastVisibleItem
    · obtain ⟨k, hk, hik, hkl, hkvisible, hcount⟩ :=
        Foundation.searchUp_spec (f.numberOfItems - 1 - it.item) hlt hlast.2.1
          (by have hbound := hlast.1; omega)
      have hkitem : k < f.numberOfItems := Nat.lt_of_le_of_lt hkl hlast.1
      rw [if_pos hlt, stepForwardVisible, isVisible_eq hf, hk, Option.map_some, Option.bind_some,
        ih (by dsimp only; omega) hkitem hkvisible (Nat.lt_of_succ_lt_succ hturns),
        Foundation.markedFrom_eq_of_countBelow hik (Nat.le_of_lt hkitem) hcount]
      rfl
    · -- nothing is left behind the last visible item
      have hnone : markedFrom f.isVisible f.numberOfItems (it.item + 1) = [] :=
        Foundation.markedFrom_eq_nil fun k hk hik => hlast.2.2 k hk (by omega)
      obtain ⟨turns, rfl⟩ := Nat.exists_eq_succ_of_ne_zero
        (Nat.ne_zero_of_lt (Nat.lt_of_succ_lt_succ hturns))
      rw [if_neg hlt, Option.bind_some, iterate, if_neg (by dsimp only; omega), hnone,
        List.take_nil]
      rfl

variable {maxLines : Nat}

/-- Iterating ends in every state that is reached. -/
theorem Placed.iterates (h : Placed f maxLines nav) : Iterates f nav := by
  have hmake : ∀ line, ConstIterator.make f nav nav.firstDisplayedItem line =
      some { item := nav.firstDisplayedItem, lineNumber := line } := fun line => by
    rw [ConstIterator.make, isVisible_eq hf, if_pos h.visible]
  refine ⟨nav.maximumNumberOfDisplayedLines + 1, ?_⟩
  unfold displayedItems end' begin
  rw [hmake, hmake, Option.bind_some, Option.bind_some]
  exact iterate_eq hf rfl nav.maximumNumberOfDisplayedLines (Nat.zero_add _)
    (Nat.lt_of_le_of_lt h.first h.cursor) h.visible (Nat.lt_succ_self _)

theorem Placed.displays_iff (h : Placed f maxLines nav) : Displays f nav ↔ CursorFits f nav := by
  have hvisible := hf.visible _ h.cursor h.selectable
  have habove := h.above
  have hmem := Foundation.mem_take_markedFrom_iff h.first h.cursor hvisible
    nav.maximumNumberOfDisplayedLines
  have hfits : countBelow f.isVisible nav.cursor - countBelow f.isVisible nav.firstDisplayedItem <
      nav.maximumNumberOfDisplayedLines ↔ CursorFits f nav := by
    unfold visibleAbove at habove
    unfold CursorFits visibleAbove
    omega
  exact ⟨fun hdisplays => hfits.mp (hmem.mp hdisplays.cursor),
    fun hcursor => ⟨h.iterates hf, hmem.mpr (hfits.mpr hcursor)⟩⟩

end Iteration

/-! ## Operations -/

/-- The operation leads to such a state, where the cursor is displayed exactly if that holds,
provided that it has been displayed so far. -/
def LeadsTo (f : NavItemFilter) (maxLines : Nat) (after : Option Nav) (soFar shows : Prop) : Prop :=
  ∃ nav, after = some nav ∧ Placed f maxLines nav ∧ (soFar → (Displays f nav ↔ shows))

theorem LeadsTo.congr {maxLines : Nat} {after : Option Nav} {soFar shows shows' : Prop}
    (h : LeadsTo f maxLines after True shows) (hiff : soFar → (shows ↔ shows')) :
    LeadsTo f maxLines after soFar shows' := by
  obtain ⟨nav, hnav, hplaced, hshows⟩ := h
  exact ⟨nav, hnav, hplaced, fun hsoFar => (hshows trivial).trans (hiff hsoFar)⟩

section Operations

variable (hf : f.Consistent) {maxLines : Nat} (hlines : 1 ≤ maxLines) (hmax : maxLines < 2 ^ 32)

include hf

/-- The item displayed first is found for whatever line is selected. -/
theorem recoverFirst_leadsTo (hnav : nav.maximumNumberOfDisplayedLines = maxLines)
    (hcursor : nav.cursor < f.numberOfItems) (hselectable : f.isSelectable nav.cursor = true)
    (hline : nav.selectedLineNumber < 2 ^ 32) :
    LeadsTo f maxLines (recoverFirstDisplayedItemByCursor f nav) True (CursorFits f nav) := by
  obtain ⟨first, hfirst, hle, hvisible, habove⟩ :=
    stepBackLines_spec hf nav.selectedLineNumber hcursor (hf.visible _ hcursor hselectable)
  have hplaced : Placed f maxLines { nav with firstDisplayedItem := first } :=
    ⟨hnav, hcursor, hselectable, hline, hle, hvisible, habove⟩
  unfold recoverFirstDisplayedItemByCursor
  rw [hfirst]
  exact ⟨_, rfl, hplaced, fun _ => hplaced.displays_iff hf⟩

theorem checkSelection_of_placed (h : Placed f maxLines nav) :
    checkSelection f nav = some nav := by
  rw [checkSelection, isSelectable_eq hf, if_pos h.selectable]

theorem fixupDownCountByWrapMode_of_placed (h : Placed f maxLines nav) (count : Nat) :
    fixupDownCountByWrapMode f nav count = some (fixedDown f nav count, nav) := by
  unfold fixupDownCountByWrapMode fixedDown
  split_ifs
  · rfl
  · rw [checkSelection_of_placed hf h, Option.map_some]

theorem fixupUpCountByWrapMode_of_placed (h : Placed f maxLines nav) (count : Nat) :
    fixupUpCountByWrapMode f nav count = some (fixedUp f nav count, nav) := by
  unfold fixupUpCountByWrapMode fixedUp
  split_ifs
  · rfl
  · rw [checkSelection_of_placed hf h, Option.map_some]

include hmax

theorem recoverCursor_leadsTo (hnav : nav.maximumNumberOfDisplayedLines = maxLines) :
    LeadsTo f maxLines (recoverCursorAndSelection f nav) True (RecoverFits f maxLines) := by
  have hnonempty : ¬f.numberOfItems = 0 := Nat.ne_of_gt (numberOfItems_pos hf)
  have hvisible := hf.visible _ hf.firstSelectable.1 hf.firstSelectable.2.1
  have hzero : visibleAbove f f.firstVisibleItem = 0 :=
    Foundation.countBelow_eq_zero_iff.mpr hf.firstVisible.2.2
  unfold recoverCursorAndSelection
  rw [if_neg hnonempty, countLines_spec hf hf.firstSelectable.1 hvisible _ hf.firstVisible.2.1,
    hzero, Option.bind_some, Nat.sub_zero]
  refine LeadsTo.congr
    (recoverFirst_leadsTo hf hnav hf.firstSelectable.1 hf.firstSelectable.2.1 ?_) ?_
  · dsimp only
    omega
  · intro _
    unfold CursorFits RecoverFits
    dsimp only
    rw [hnav]
    omega

include hlines

/-- Setting the cursor shows it, if recovering it does. -/
theorem setCursor_leadsTo (hnav : nav.maximumNumberOfDisplayedLines = maxLines)
    (lineNumber : Nat) :
    LeadsTo f maxLines (setCursorByLineNumber f nav lineNumber) (RecoverFits f maxLines)
      True := by
  have hrecover : ∀ nav : Nav, nav.maximumNumberOfDisplayedLines = maxLines →
      LeadsTo f maxLines (recoverCursorAndSelection f nav) (RecoverFits f maxLines) True :=
    fun nav hnav => LeadsTo.congr (recoverCursor_leadsTo hf hmax hnav) iff_true_intro
  unfold setCursorByLineNumber
  by_cases hzero : lineNumber = 0
  · rw [if_pos hzero]
    exact hrecover nav hnav
  · rw [if_neg hzero]
    cases hitem : f.mapLineNumberToItem lineNumber with
    | none => exact hrecover nav hnav
    | some item =>
      obtain ⟨hbound, hvisible, habove⟩ := (hf.lineToItem lineNumber item).mp hitem
      by_cases hselectable : f.isSelectable item = true
      · have hlast : lineNumber < f.totalNumberOfVisibleItems := by
          rw [hf.total, ← habove]
          exact Foundation.countBelow_lt hvisible hbound
        have htotal : f.totalNumberOfVisibleItems < 2 ^ 32 := by
          rw [hf.total]
          exact Nat.lt_of_le_of_lt (Foundation.countBelow_le _) hf.bound
        have hline : selectLine maxLines f.totalNumberOfVisibleItems lineNumber < maxLines ∨
            selectLine maxLines f.totalNumberOfVisibleItems lineNumber = maxLines ∧
              lineNumber < maxLines := by
          unfold selectLine centerLine subUInt addUInt
          dsimp only
          split_ifs <;> omega
        dsimp only
        rw [if_pos hselectable, hnav]
        refine LeadsTo.congr (recoverFirst_leadsTo hf rfl hbound hselectable ?_)
          fun _ => iff_true_intro ?_
        · dsimp only
          omega
        · unfold CursorFits visibleAbove
          dsimp only
          rw [habove]
          omega
      · dsimp only
        rw [if_neg hselectable]
        exact hrecover _ hnav

/-- Moving down shows the cursor on the condition. -/
theorem down_leadsTo (h : Placed f maxLines nav) (count : Nat) (changed : Bool) :
    LeadsTo f maxLines ((nav.down f count changed).map Prod.snd)
      (CursorFits f nav ∧ RecoverFits f maxLines) (DownShows f nav count changed) := by
  unfold down DownShows
  rw [fixupDownCountByWrapMode_of_placed hf h, Option.bind_some]
  generalize fixedDown f nav count = fixed
  obtain ⟨wrapped, count⟩ := fixed
  dsimp only
  cases wrapped with
  | true =>
    obtain ⟨top, htop, hplaced, hdisplays⟩ := setCursor_leadsTo hf hlines hmax h.lines 0
    rw [if_pos rfl, htop]
    exact ⟨top, rfl, hplaced,
      fun hsoFar => (hdisplays hsoFar.2).trans (iff_of_true trivial (.inl rfl))⟩
  | false =>
    rw [if_neg Bool.false_ne_true, or_iff_right Bool.false_ne_true]
    by_cases hnothing : count = 0 ∧ changed = false
    · rw [if_pos hnothing]
      exact ⟨nav, rfl, h,
        fun hsoFar => (h.displays_iff hf).trans (iff_of_true hsoFar.1 (.inl hnothing))⟩
    · obtain ⟨item, hle, hitem, hselectable, habove, hsteps⟩ :=
        stepsDown_eq hf count nav h.cursor h.selectable
      have hlast : selectableAbove f nav.cursor ≤ selectableAbove f f.lastSelectableItem :=
        Foundation.countBelow_mono (cursor_le_last hf h.cursor h.selectable)
      have hline := h.line
      rw [if_neg hnothing, checkSelection_of_placed hf h, Option.bind_some, hsteps,
        Option.bind_some, Option.map_map, or_iff_right hnothing]
      have hmap : ∀ after : Option Nav,
          after.map (Prod.snd ∘ fun nav => (true, nav)) = after := fun after => by
        cases after <;> rfl
      rw [hmap]
      have hreached : ∀ P : Nat → Prop,
          (∀ item' < f.numberOfItems, f.isSelectable item' = true →
            selectableAbove f item' = selectableAbove f nav.cursor +
              min count (selectableAbove f f.lastSelectableItem - selectableAbove f nav.cursor) →
                P item') ↔ P item := by
        intro P
        constructor
        · exact fun hall => hall item hitem hselectable (by omega)
        · intro hP item' _ hselectable' habove'
          have hsame : item' = item :=
            Foundation.eq_of_countBelow hselectable' hselectable
              (show selectableAbove f item' = selectableAbove f item by omega)
          exact hsame ▸ hP
      rw [hreached, h.lines]
      unfold showLastItems
      dsimp only
      by_cases hend : item = f.lastSelectableItem
      · have hbehind : f.lastVisibleItem - f.lastSelectableItem + f.lastSelectableItem <
            2 ^ 32 := by
          have hbound := hf.bound
          have hvisible := hf.lastVisible.1
          have hselectable := hf.lastSelectable.1
          omega
        have hvisible : visibleAbove f item ≤ item := Foundation.countBelow_le item
        rw [if_pos hend, if_pos hend]
        refine LeadsTo.congr (recoverFirst_leadsTo hf rfl hitem hselectable ?_) ?_
        · unfold subUInt
          dsimp only
          omega
        · intro _
          unfold CursorFits subUInt
          dsimp only
          rw [hend] at hvisible ⊢
          omega
      · rw [if_neg hend, if_neg hend]
        refine LeadsTo.congr (recoverFirst_leadsTo hf rfl hitem hselectable ?_) ?_
        · dsimp only
          omega
        · intro _
          unfold CursorFits
          dsimp only
          omega

/-- Moving up keeps the cursor on the display. -/
theorem up_leadsTo (h : Placed f maxLines nav) (count : Nat) (changed : Bool) :
    LeadsTo f maxLines ((nav.up f count changed).map Prod.snd)
      (CursorFits f nav ∧ RecoverFits f maxLines) True := by
  have hpos : (fixedUp f nav count).1 = true → 0 < (fixedUp f nav count).2 := fixedUp_pos
  have hself : LeadsTo f maxLines (some nav) (CursorFits f nav ∧ RecoverFits f maxLines) True :=
    ⟨nav, rfl, h, fun hsoFar => (h.displays_iff hf).trans (iff_true_intro hsoFar.1)⟩
  unfold up
  rw [fixupUpCountByWrapMode_of_placed hf h, Option.bind_some]
  generalize fixedUp f nav count = fixed at hpos
  obtain ⟨wrapped, count⟩ := fixed
  dsimp only at hpos ⊢
  cases wrapped with
  | true =>
    obtain ⟨set, hset, hplaced, hdisplays⟩ :=
      setCursor_leadsTo hf hlines hmax h.lines (count - 1)
    rw [if_pos rfl, if_pos (hpos rfl), hset]
    exact ⟨set, rfl, hplaced, fun hsoFar => hdisplays hsoFar.2⟩
  | false =>
    rw [if_neg Bool.false_ne_true]
    by_cases hnothing : count = 0 ∧ changed = false
    · rw [if_pos hnothing]
      exact hself
    · rw [if_neg hnothing, checkSelection_of_placed hf h, Option.bind_some]
      by_cases hfirst : nav.cursor ≤ f.firstSelectableItem
      · rw [if_pos hfirst]
        exact hself
      · obtain ⟨item, hitem, hselectable, habove, hsteps⟩ :=
          stepsUp_spec hf count nav h.cursor h.selectable
        have hmap : ∀ after : Option Nav,
            after.map (Prod.snd ∘ fun nav => (true, nav)) = after := fun after => by
          cases after <;> rfl
        have hline := h.line
        rw [if_neg hfirst, hsteps, Option.bind_some, Option.map_map, hmap]
        unfold showFirstItems
        dsimp only
        by_cases hend : item = f.firstSelectableItem
        · rw [if_pos hend]
          refine LeadsTo.congr (recoverFirst_leadsTo hf h.lines hitem hselectable ?_)
            fun hsoFar => iff_true_intro (.inr ?_)
          · unfold addUInt
            dsimp only
            omega
          · dsimp only
            rw [hend, h.lines]
            exact hsoFar.2
        · have hback : visibleAbove f item ≤ visibleAbove f nav.cursor := by
            refine Foundation.countBelow_mono (Nat.le_of_not_lt fun hlt => ?_)
            have hmore : selectableAbove f nav.cursor < selectableAbove f item :=
              Foundation.countBelow_lt h.selectable hlt
            omega
          rw [if_neg hend]
          refine LeadsTo.congr (recoverFirst_leadsTo hf h.lines hitem hselectable ?_)
            fun hsoFar => iff_true_intro ?_
          · dsimp only
            omega
          · obtain ⟨hshown, -⟩ := hsoFar
            unfold CursorFits at *
            dsimp only
            omega

/-! ## Runs -/

theorem step_leadsTo (h : Placed f maxLines nav) (e : NavEvent) :
    LeadsTo f maxLines (nav.step f e) (CursorFits f nav ∧ RecoverFits f maxLines)
      (StepShows f nav e) := by
  cases e with
  | down count changed => exact down_leadsTo hf hlines hmax h count changed
  | up count changed => exact up_leadsTo hf hlines hmax h count changed
  | setCursorByLineNumber lineNumber =>
    obtain ⟨set, hset, hplaced, hdisplays⟩ := setCursor_leadsTo hf hlines hmax h.lines lineNumber
    exact ⟨set, hset, hplaced, fun hsoFar => hdisplays hsoFar.2⟩
  | getCursor =>
    exact ⟨nav, checkSelection_of_placed hf h, h,
      fun hsoFar => (h.displays_iff hf).trans (iff_true_intro hsoFar.1)⟩

theorem placed_of_step {nav' : Nav} (h : Placed f maxLines nav) (e : NavEvent)
    (hstep : nav.step f e = some nav') : Placed f maxLines nav' := by
  obtain ⟨after, hafter, hplaced, -⟩ := step_leadsTo hf hlines hmax h e
  obtain rfl := Option.some.inj (hafter.symm.trans hstep)
  exact hplaced

theorem displaysAfter_iff (h : Placed f maxLines nav) (hshown : CursorFits f nav)
    (hfits : RecoverFits f maxLines) (e : NavEvent) :
    DisplaysAfter f (nav.step f e) ↔ StepShows f nav e := by
  obtain ⟨after, hafter, -, hdisplays⟩ := step_leadsTo hf hlines hmax h e
  rw [← hdisplays ⟨hshown, hfits⟩, hafter]
  constructor
  · rintro ⟨nav', hnav', hshows⟩
    obtain rfl := Option.some.inj hnav'
    exact hshows
  · exact fun hshows => ⟨after, rfl, hshows⟩

theorem run_displays_iff (h : Placed f maxLines nav) (hshown : CursorFits f nav)
    (hfits : RecoverFits f maxLines) (es : List NavEvent) :
    AlongRun (step f) (fun nav e => DisplaysAfter f (nav.step f e)) nav es ↔
      AlongRun (step f) (StepShows f) nav es := by
  refine Foundation.alongRun_iff (I := fun nav => Placed f maxLines nav ∧ CursorFits f nav) ?_
    (fun nav e hnav => displaysAfter_iff hf hlines hmax hnav.1 hnav.2 hfits e) es ⟨h, hshown⟩
  rintro nav e nav' ⟨hplaced, hcursor⟩ hshows hstep
  have hplaced' := placed_of_step hf hlines hmax hplaced e hstep
  obtain ⟨after, hafter, hdisplays⟩ :=
    (displaysAfter_iff hf hlines hmax hplaced hcursor hfits e).mpr hshows
  obtain rfl := Option.some.inj (hafter.symm.trans hstep)
  exact ⟨hplaced', (hplaced'.displays_iff hf).mp hdisplays⟩

end Operations

/-- For all filters, display sizes, modes and sequences of operations: iterating always yields the
first visible items; and the cursor is among them at first and after each operation exactly if
the first selectable item can be shown and moving down to an item meets the condition. -/
theorem nav_displays_iff (f : NavItemFilter) (hf : f.Consistent) (maxDisplayLines : Nat)
    (hlines : 1 ≤ maxDisplayLines) (hmax : maxDisplayLines < 2 ^ 32) (wrapMode : WrapMode)
    (es : List NavEvent) :
    (∀ start nav, init f maxDisplayLines wrapMode = some start →
      runFrom (step f) start es = some nav → Iterates f nav) ∧
    ((∃ nav, init f maxDisplayLines wrapMode = some nav ∧ Displays f nav ∧
      AlongRun (step f) (fun nav e => DisplaysAfter f (nav.step f e)) nav es) ↔
    RecoverFits f maxDisplayLines ∧
      ∀ nav, init f maxDisplayLines wrapMode = some nav →
        AlongRun (step f) (StepShows f) nav es) := by
  have hinit : LeadsTo f maxDisplayLines (init f maxDisplayLines wrapMode) True
      (RecoverFits f maxDisplayLines) := recoverCursor_leadsTo hf hmax rfl
  obtain ⟨nav, hnav, hplaced, hdisplays⟩ := hinit
  rw [hnav]
  refine ⟨?_, ?_, ?_⟩
  · intro start last hstart hrun
    obtain rfl := Option.some.inj hstart
    have hlast := Foundation.invariant_of_run
      (fun _ e _ h hstep => placed_of_step hf hlines hmax h e hstep) es hplaced hrun
    exact hlast.iterates hf
  · rintro ⟨nav', hnav', hshows, hrun⟩
    obtain rfl := Option.some.inj hnav'
    have hfits := (hdisplays trivial).mp hshows
    refine ⟨hfits, fun nav' hnav' => ?_⟩
    obtain rfl := Option.some.inj hnav'
    have hcursor := (hplaced.displays_iff hf).mp hshows
    exact (run_displays_iff hf hlines hmax hplaced hcursor hfits es).mp hrun
  · rintro ⟨hfits, hrun⟩
    have hshows := (hdisplays trivial).mpr hfits
    have hcursor := (hplaced.displays_iff hf).mp hshows
    exact ⟨nav, rfl, hshows,
      (run_displays_iff hf hlines hmax hplaced hcursor hfits es).mpr (hrun nav rfl)⟩

/-- Down and up in a list of seven items, with four lines. -/
theorem nav_displays_unfiltered :
    ∃ nav, init (navItemNoFilter 7) 4 .noWrap = some nav ∧ Displays (navItemNoFilter 7) nav ∧
      AlongRun (step (navItemNoFilter 7))
        (fun nav e => DisplaysAfter (navItemNoFilter 7) (nav.step (navItemNoFilter 7) e)) nav
        [.down 5 false, .up 3 false] := by
  have hf := navItemNoFilter_consistent (show 0 < 7 by decide) (by decide)
  refine (nav_displays_iff _ hf 4 (by decide) (by decide) .noWrap
    [.down 5 false, .up 3 false]).2.mpr ⟨by decide, fun nav hnav => ?_⟩
  obtain rfl : nav = ⟨0, 0, 0, .noWrap, 4⟩ := Option.some.inj (hnav.symm.trans rfl)
  refine ⟨.inr (.inr fun _ _ _ _ => .inr ?_), fun _ _ => ⟨trivial, fun _ _ => trivial⟩⟩
  split_ifs <;> decide

/-- Four items, the last one of which cannot be selected. -/
def withFooter : NavItemFilter :=
  { navItemNoFilter 4 with
    isSelectable := fun item => decide (item < 3)
    lastSelectableItem := 2 }

theorem withFooter_consistent : withFooter.Consistent := by
  have hall := navItemNoFilter_consistent (show 0 < 4 by decide) (by decide)
  refine ⟨hall.bound, fun _ _ _ => rfl, ⟨by decide, by decide, by decide⟩,
    ⟨by decide, by decide, by decide⟩, hall.firstVisible, hall.lastVisible, hall.total,
    hall.lineToItem, hall.itemToLine⟩

/-- Down from the last selectable item, on a display with two lines. -/
theorem nav_down_hides_cursor :
    ¬∀ (f : NavItemFilter) (maxDisplayLines : Nat) (wrapMode : WrapMode) (es : List NavEvent),
      f.Consistent → 1 ≤ maxDisplayLines → maxDisplayLines < 2 ^ 32 →
        ∃ nav, init f maxDisplayLines wrapMode = some nav ∧ Displays f nav ∧
          AlongRun (step f) (fun nav e => DisplaysAfter f (nav.step f e)) nav es := by
  intro h
  obtain ⟨nav, hnav, -, hrun⟩ := h withFooter 2 .noWrap [.down 2 false, .down 1 false]
    withFooter_consistent (by decide) (by decide)
  obtain rfl : nav = ⟨0, 0, 0, .noWrap, 2⟩ := Option.some.inj (hnav.symm.trans rfl)
  obtain ⟨after, hafter, hdisplays⟩ := (hrun.2 _ rfl).1
  obtain rfl : after = ⟨2, 0, 2 ^ 32 - 1, .noWrap, 2⟩ :=
    Option.some.inj (hafter.symm.trans (by decide))
  have hcursor := hdisplays.cursor
  revert hcursor
  decide

end Nav

end Drcpd.Lists

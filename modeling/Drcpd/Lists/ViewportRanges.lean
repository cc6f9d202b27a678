/-
  Lists/ViewportRanges.lean --- no segment of a viewport wraps around.

  A view is set inside its list, and the cached segment is an old view or has no lines.
  So the segments of all viewports stay below 2^32 in every run, whatever the cached
  items are.
-/
import Drcpd.Foundation.Run
import Drcpd.Lists.Completion
import Drcpd.Lists.ItemAccess
import Drcpd.Lists.ViewportCache

set_option autoImplicit false

namespace Drcpd.Lists

open Drcpd.Foundation Drcpd.DBus Drcpd.Rnf

variable {Item E : Type}

namespace Viewport

/-- Both segments of the viewport are in range. -/
structure InRange (v : Viewport Item) : Prop where
  view : v.viewSegment.InRange
  items : v.itemsSegment.InRange

/-- An update leaves the view alone, and the cached segment too or makes it the view. -/
theorem updateCache_segments {v v' : Viewport Item} {rows : List Item}
    (h : v.updateCache rows = some v') :
    v'.viewSegment = v.viewSegment ∧
      (v'.itemsSegment = v.itemsSegment ∨ v'.itemsSegment = v.viewSegment) := by
  unfold updateCache updateCacheRegion at h
  split at h
  · cases h
  · split at h
    · obtain rfl := Option.some.inj h
      exact ⟨rfl, Or.inl rfl⟩
    · split_ifs at h
      · obtain rfl := Option.some.inj h
        exact ⟨rfl, Or.inr rfl⟩
      · obtain ⟨items, -, rfl⟩ := Option.map_eq_some_iff.mp h
        exact ⟨rfl, Or.inr rfl⟩

namespace InRange

variable {v v' : Viewport Item}

theorem setView (h : v.InRange) (line : Nat) {count total : Nat} (hcount : count ≤ uintMax)
    (htotal : total ≤ uintMax) : (v.setView line count total).2.InRange :=
  ⟨clippedView_inRange hcount htotal, h.items⟩

theorem clearForLine (h : v.InRange) {line : Nat} (hline : line < 2 ^ 32) :
    (v.clearForLine line).InRange where
  view := h.view
  items := by
    change line + 0 < 2 ^ 32
    omega

theorem updateCache (h : v.InRange) {rows : List Item} (hv : v.updateCache rows = some v') :
    v'.InRange := by
  obtain ⟨hview, hitems⟩ := updateCache_segments hv
  refine ⟨hview ▸ h.view, ?_⟩
  rcases hitems with hitems | hitems
  · exact hitems ▸ h.items
  · exact hitems ▸ h.view

end InRange

end Viewport

namespace DBusList

/-- The segments of all viewports are in range, and so is the size of the list. -/
structure ViewportsInRange (s : DBusList Item E) : Prop where
  size : s.numberOfItems ≤ uintMax
  viewports : ∀ vp, (s.viewports vp).InRange

namespace ViewportsInRange

variable {s s' : DBusList Item E}

theorem init (cacheSizes : ViewportId → UInt32) :
    (init cacheSizes : DBusList Item E).ViewportsInRange where
  size := Nat.zero_le _
  viewports _ := ⟨Nat.two_pow_pos 32, Nat.two_pow_pos 32⟩

theorem of_same (h : s.ViewportsInRange) (hsize : s'.numberOfItems = s.numberOfItems)
    (hviewports : s'.viewports = s.viewports) : s'.ViewportsInRange where
  size := hsize ▸ h.size
  viewports := hviewports ▸ h.viewports

theorem setViewport (h : s.ViewportsInRange) (vp : ViewportId) {v : Viewport Item}
    (hv : v.InRange) : (s.setViewport vp v).ViewportsInRange where
  size := h.size
  viewports vp' := by
    change (Function.update s.viewports vp v vp').InRange
    rw [Function.update_apply]
    split_ifs
    · exact hv
    · exact h.viewports vp'

/-! ## Getting items -/

theorem announceViewport (h : s.ViewportsInRange) (vp : ViewportId) {line : Nat}
    (hline : line < 2 ^ 32) (answer : AbortAnswer) :
    (s.announceViewport vp line answer).2.ViewportsInRange := by
  unfold DBusList.announceViewport
  split
  · exact (h.setViewport vp ((h.viewports vp).clearForLine hline)).of_same rfl rfl
  · exact h
  · split_ifs
    · exact h
    · exact h.of_same rfl rfl

theorem setViewAndFetch (h : s.ViewportsInRange) (content : ListId → Nat → Item)
    (vp : ViewportId) (line : Nat) {count : Nat} (hcount : count ≤ uintMax)
    (answer : RequestAnswer Unit E) :
    (s.setViewAndFetch content vp line count answer).2.ViewportsInRange := by
  have hview := h.setViewport vp ((h.viewports vp).setView line hcount h.size)
  unfold DBusList.setViewAndFetch
  dsimp only
  split
  all_goals exact hview.of_same rfl rfl

theorem cancelAndDetach (h : s.ViewportsInRange) (vp : ViewportId) (answer : AbortAnswer) :
    (s.cancelAndDetach vp answer).ViewportsInRange := by
  unfold DBusList.cancelAndDetach
  split <;> exact h.of_same rfl rfl

theorem getItemAsyncSetHint (h : s.ViewportsInRange) (content : ListId → Nat → Item)
    (vp : ViewportId) {line count : Nat} (hline : line < 2 ^ 32) (hcount : count ≤ uintMax)
    (request : RequestAnswer Unit E) (abort : AbortAnswer) :
    (s.getItemAsyncSetHint content vp line count request abort).2.ViewportsInRange := by
  have hannounce := h.announceViewport vp hline abort
  unfold DBusList.getItemAsyncSetHint
  split_ifs
  · exact h
  · exact h
  · exact h
  · exact h
  · split
    · rename_i t ht
      rw [ht] at hannounce
      split
      all_goals first
        | exact hannounce.setViewAndFetch content vp line hcount request
        | exact hannounce
        | exact (hannounce.cancelAndDetach vp abort).setViewAndFetch content vp line hcount
            request
    all_goals
      rename_i t ht
      rw [ht] at hannounce
      exact hannounce.setViewAndFetch content vp line hcount request

theorem getItemAsync (h : s.ViewportsInRange) (vp : ViewportId) {line : Nat}
    (hline : line < 2 ^ 32) (abort : AbortAnswer) :
    (s.getItemAsync vp line abort).2.ViewportsInRange := by
  have hannounce := h.announceViewport vp hline abort
  unfold DBusList.getItemAsync
  split_ifs
  · exact h
  · exact h
  · exact h
  · dsimp only
    split_ifs
    · exact hannounce
    · split <;> exact hannounce

theorem getItem (h : s.ViewportsInRange) {content : ListId → Nat → Item} {vp : ViewportId}
    {line : Nat} {answer : Except E Unit} {r : Option Item × DBusList Item E}
    (hr : s.getItem content vp line answer = some r) : r.2.ViewportsInRange := by
  have hadd : (s.addReferrer vp).ViewportsInRange := by
    unfold addReferrer
    split_ifs
    · exact h
    · exact h.of_same rfl rfl
  have hview := (hadd.viewports vp).setView line
    (Nat.le_sub_one_of_lt (UInt32.toNat_lt ((s.addReferrer vp).viewports vp).cacheSize))
    hadd.size
  unfold DBusList.getItem at hr
  dsimp only at hr
  split_ifs at hr
  · exact Option.some.inj hr ▸ hadd
  · split at hr
    · exact Option.some.inj hr ▸ hadd
    · cases answer with
      | error e => exact Option.some.inj hr ▸ hadd.setViewport vp hview
      | ok u =>
        dsimp only at hr
        split at hr
        · cases hr
        · rename_i v hv
          exact Option.some.inj hr ▸ hadd.setViewport vp (hview.updateCache hv)

theorem rangeDone (h : s.ViewportsInRange) {f : FetcherId}
    (hs : s.getItemResultAvailableNotification f = some s') : s'.ViewportsInRange := by
  unfold getItemResultAvailableNotification at hs
  split at hs
  · cases hs
  · dsimp only at hs
    split at hs
    · cases hs
    · split_ifs at hs
      · exact Option.some.inj hs ▸ h.of_same rfl rfl
      · split at hs
        · cases hs
        · split at hs
          · cases hs
          · rename_i v hv
            obtain rfl := Option.some.inj hs
            exact (h.setViewport _ ((h.viewports _).updateCache hv)).of_same rfl rfl
        all_goals exact Option.some.inj hs ▸ h.of_same rfl rfl

/-! ## Changing the list -/

/-- Clearing the registered viewports for lines that fit. -/
theorem cleared (h : s.ViewportsInRange) {line : ViewportId → Nat}
    (hline : ∀ vp, line vp < 2 ^ 32) (vp : ViewportId) :
    (if (s.viewportsAndFetchers vp).isSome = true then
      (s.viewports vp).clearForLine (line vp) else s.viewports vp).InRange := by
  split_ifs
  · exact (h.viewports vp).clearForLine (hline vp)
  · exact h.viewports vp

theorem keptByEntering :
    KeptByEntering (ViewportsInRange : DBusList Item E → Prop) where
  data s d h := h.of_same rfl rfl
  entered s q h := by
    refine ⟨Nat.le_sub_one_of_lt (UInt32.toNat_lt _), h.cleared fun vp => ?_⟩
    split_ifs
    · exact UInt32.toNat_lt _
    · exact Nat.two_pow_pos 32

theorem listInvalidate (h : s.ViewportsInRange) (listId replacementId : ListId)
    (answers : FetcherId → AbortAnswer) :
    (s.listInvalidate listId replacementId answers).ViewportsInRange := by
  unfold DBusList.listInvalidate
  dsimp only
  split_ifs
  · exact h.of_same rfl rfl
  · exact ⟨h.size, h.cleared fun _ => Nat.two_pow_pos 32⟩
  · exact h.of_same rfl rfl

end ViewportsInRange

/-- Every step keeps the segments in range. -/
theorem viewportsInRange_step {s s' : DBusList Item E} {content : ListId → Nat → Item}
    {e : DBusListEvent E} (h : s.ViewportsInRange) (hstep : s.step content e = some s') :
    s'.ViewportsInRange := by
  cases e with
  | enterListAsync vp listId line =>
    exact enterListAsync_preserves ViewportsInRange.keptByEntering hstep h
  | checkRangeReady k answer =>
    exact checkRangeReady_preserves ViewportsInRange.keptByEntering hstep h
  | listInvalidate listId replacementId answers =>
    exact Option.some.inj hstep ▸ h.listInvalidate listId replacementId answers
  | cancelAllAsyncCalls answers =>
    obtain ⟨t, ht, rfl⟩ := Option.map_eq_some_iff.mp hstep
    exact (cancelEnterListQuery_preserves ViewportsInRange.keptByEntering ht h).of_same rfl rfl
  | getItemAsyncSetHint vp line count request abort =>
    rw [← Option.some.inj hstep]
    exact (h.getItemAsyncSetHint content vp (UInt32.toNat_lt line)
      (Nat.le_sub_one_of_lt (UInt32.toNat_lt count)) request abort).of_same rfl rfl
  | getItemAsync vp line abort =>
    exact Option.some.inj hstep ▸ h.getItemAsync vp (UInt32.toNat_lt line) abort
  | getItem vp line answer =>
    obtain ⟨r, hr, rfl⟩ := Option.map_eq_some_iff.mp hstep
    exact h.getItem hr
  | detachViewport vp => exact Option.some.inj hstep ▸ h.of_same rfl rfl
  | rangeNotified f available =>
    obtain ⟨x, -, rfl⟩ := Option.map_eq_some_iff.mp hstep
    exact h.of_same rfl rfl
  | rangeFetched f answer =>
    obtain ⟨x, -, rfl⟩ := Option.map_eq_some_iff.mp hstep
    exact h.of_same rfl rfl
  | rangeDone f => exact h.rangeDone hstep

/-- In every state a list can be in, the segments are in range. -/
theorem viewportsInRange_run {s : DBusList Item E} (content : ListId → Nat → Item)
    (cacheSizes : ViewportId → UInt32) (events : List (DBusListEvent E))
    (hrun : runFrom (step content) (init cacheSizes) events = some s) : s.ViewportsInRange :=
  invariant_of_run (fun _ _ _ h hstep => viewportsInRange_step h hstep) events
    (ViewportsInRange.init cacheSizes) hrun

end DBusList

end Drcpd.Lists

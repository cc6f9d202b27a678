/-
  Lists/ItemAccess.lean --- getting items from a list filled from D-Bus, and the
  steps of a run (`dbuslist.cc`).

  `content` is what the list broker has: a list and a line give an item.  A request
  for a range of a list is answered with exactly these items, or fails.
-/
import Drcpd.Lists.DBusList

set_option autoImplicit false

namespace Drcpd.Lists

open Drcpd.DBus Drcpd.Rnf

variable {Item E : Type}

/-- `AnnounceResult`. -/
inductive AnnounceResult where
  | registeredAndClearedViewport
  | noActiveFiller
  | fillerUpToDate
  | canceledOldFiller
  deriving DecidableEq, Repr

namespace DBusList

/-- Replace one viewport. -/
def setViewport (s : DBusList Item E) (vp : ViewportId) (v : Viewport Item) :
    DBusList Item E :=
  { s with viewports := Function.update s.viewports vp v }

/-- Replace one fetcher. -/
def setFetcher (s : DBusList Item E) (f : FetcherId) (x : SegmentFetcher Item E) :
    DBusList Item E :=
  { s with fetchers := Function.update s.fetchers f x }

/-- Replace or remove the entry of a viewport in `viewports_and_fetchers_`. -/
def setEntry (s : DBusList Item E) (vp : ViewportId) (entry : Option (Option FetcherId)) :
    DBusList Item E :=
  { s with viewportsAndFetchers := Function.update s.viewportsAndFetchers vp entry }

/-- `announce_viewport`. -/
def announceViewport (s : DBusList Item E) (vp : ViewportId) (line : Nat)
    (answer : AbortAnswer) : AnnounceResult × DBusList Item E :=
  match s.viewportsAndFetchers vp with
  | none =>
      (.registeredAndClearedViewport,
        (s.setViewport vp ((s.viewports vp).clearForLine line)).setEntry vp (some none))
  | some none => (.noActiveFiller, s)
  | some (some f) =>
      if (s.fetchers f).isFillingViewport vp then (.fillerUpToDate, s)
      else
        (.canceledOldFiller,
          (s.setFetcher f ((s.fetchers f).cancelOp answer)).setEntry vp (some none))

/-- `is_line_loading` of the fetcher of a viewport. -/
def isLineLoading (s : DBusList Item E) (vp : ViewportId) (line : Nat) :
    LoadingState × LoadingState :=
  match s.viewportsAndFetchers vp with
  | some (some f) => (s.fetchers f).isLineLoading line
  | some none | none => (.inactive, .inactive)

/-- `detach_viewport`. -/
def detachViewport (s : DBusList Item E) (vp : ViewportId) : DBusList Item E :=
  s.setEntry vp none

/-- Stop the fetcher of a viewport and detach the viewport. -/
def cancelAndDetach (s : DBusList Item E) (vp : ViewportId) (answer : AbortAnswer) :
    DBusList Item E :=
  match s.viewportsAndFetchers vp with
  | some (some f) =>
      (s.setFetcher f ((s.fetchers f).cancelOp answer)).detachViewport vp
  | some none | none => s.detachViewport vp

/-- The end of `get_item_async_set_hint`: a new fetcher for what is missing in the
view.  Its number is that of the hint call. -/
def startFetcher (content : ListId → Nat → Item) (s : DBusList Item E) (vp : ViewportId)
    (answer : RequestAnswer Unit E) : HintCall × DBusList Item E :=
  let fetcher := SegmentFetcher.prepare vp s.listId (s.viewports vp).getMissingSegment
  let r := fetcher.loadSegmentInBackground content answer
  (⟨r.1, decide (r.1 = .started ∨ r.1 = .succeeded)⟩,
    (s.setFetcher s.nextHint r.2).setEntry vp (some (some s.nextHint)))

/-- `get_item_async_set_hint` from the call of `set_view` on. -/
def setViewAndFetch (content : ListId → Nat → Item) (s : DBusList Item E) (vp : ViewportId)
    (line count : Nat) (answer : RequestAnswer Unit E) : HintCall × DBusList Item E :=
  match (s.viewports vp).setView line count s.numberOfItems with
  | (state, v) =>
      let s := s.setViewport vp v
      match state with
      | .empty | .cachedCenter | .loadingCenter | .loadingTopEmptyBottom
      | .loadingBottomEmptyTop | .cachedTopEmptyBottom
      | .cachedTopLoadingCenterEmptyBottom | .cachedBottomEmptyTop
      | .cachedBottomLoadingCenterEmptyTop => s.startFetcher content vp answer
      | .cached => (⟨.succeeded, false⟩, s)
      | .loading | .cachedTopLoadingBottom | .cachedBottomLoadingTop => (⟨.started, false⟩, s)

/-- `get_item_async_set_hint`.  `request` answers the request of a new fetcher, and
`abort` the abort request of an old one. -/
def getItemAsyncSetHint (content : ListId → Nat → Item) (s : DBusList Item E)
    (vp : ViewportId) (line count : Nat) (request : RequestAnswer Unit E)
    (abort : AbortAnswer) : HintCall × DBusList Item E :=
  if !s.listId.isValid then (⟨.failed, false⟩, s)
  else if s.enterListData.query.isSome then (⟨.canceled, false⟩, s)
  else if s.numberOfItems ≤ line then (⟨.failed, false⟩, s)
  else if count = 0 ∨ (s.viewports vp).cacheSize.toNat < count then (⟨.failed, false⟩, s)
  else
    match s.announceViewport vp line abort with
    | (.fillerUpToDate, s) =>
        match s.isLineLoading vp line with
        | (.inactive, _) | (.outOfRange, _) =>
            s.setViewAndFetch content vp line count request
        | (.loading, .loading) => (⟨.started, false⟩, s)
        | (.loading, .done) => (⟨.succeeded, false⟩, s)
        | (.loading, .inactive) | (.loading, .outOfRange) | (.loading, .failedOrAborted) =>
            (s.cancelAndDetach vp abort).setViewAndFetch content vp line count request
        | (.done, _) => (⟨.succeeded, false⟩, s)
        | (.failedOrAborted, _) => (⟨.failed, false⟩, s)
    | (.registeredAndClearedViewport, s) | (.noActiveFiller, s) | (.canceledOldFiller, s) =>
        s.setViewAndFetch content vp line count request

/-- `get_item_async`; there is no item but a placeholder if the result is
`STARTED`. -/
def getItemAsync (s : DBusList Item E) (vp : ViewportId) (line : Nat) (abort : AbortAnswer) :
    (OpResult × Option Item) × DBusList Item E :=
  if !s.listId.isValid then ((.failed, none), s)
  else if s.enterListData.query.isSome then ((.canceled, none), s)
  else if s.numberOfItems ≤ line then ((.failed, none), s)
  else
    match s.announceViewport vp line abort with
    | (announced, s) =>
        if announced = .fillerUpToDate ∧ (s.isLineLoading vp line).1 = .loading then
          ((.started, none), s)
        else
          match ((s.viewports vp).itemAt line).1 with
          | some item => ((.succeeded, some item), s)
          | none => ((.failed, none), s)

/-- `add_referrer`. -/
def addReferrer (s : DBusList Item E) (vp : ViewportId) : DBusList Item E :=
  if (s.viewportsAndFetchers vp).isSome then s else s.setEntry vp (some none)

/-- `get_item`.  There is no outcome if the update of the cache has none. -/
def getItem (content : ListId → Nat → Item) (s : DBusList Item E) (vp : ViewportId)
    (line : Nat) (answer : Except E Unit) : Option (Option Item × DBusList Item E) :=
  let s := s.addReferrer vp
  if s.numberOfItems ≤ line then some (none, s)
  else
    match ((s.viewports vp).itemAt line).1 with
    | some item => some (some item, s)
    | none =>
        let v := ((s.viewports vp).setView line (s.viewports vp).cacheSize.toNat
          s.numberOfItems).2
        match answer with
        | .error _ => some (none, s.setViewport vp v)
        | .ok _ =>
            match v.updateCache (rows content s.listId v.getMissingSegment) with
            | none => none
            | some v => some ((v.itemAt line).1, s.setViewport vp v)

/-- The call of a `hinted_fn`. -/
def callHinted (s : DBusList Item E) (f : FetcherId) (result : OpResult) :
    DBusList Item E :=
  { s with hinted := Function.update s.hinted f (s.hinted f ++ [result]) }

/-- The deferred function of a fetcher, `get_item_result_available_notification`.
There is no outcome if the entry of the viewport is not there, or if the update of
the cache has none. -/
def getItemResultAvailableNotification (s : DBusList Item E) (f : FetcherId) :
    Option (DBusList Item E) :=
  match (s.fetchers f).take with
  | none => none
  | some (query, fetcher) =>
      let vp := (s.fetchers f).listViewport
      let s := s.setFetcher f fetcher
      match s.viewportsAndFetchers vp with
      | none => none
      | some entry =>
          if entry ≠ some f then some (s.callHinted f .canceled)
          else
            let s := s.setEntry vp (some none)
            match query.call.getResultUnlocked with
            | none => none
            | some (.ok result, _) =>
                match (s.viewports vp).updateCache result with
                | none => none
                | some v => some ((s.setViewport vp v).callHinted f .succeeded)
            | some (.error .aborted, _) => some (s.callHinted f .canceled)
            | some (.error .badState, _) | some (.error .noResult, _)
            | some (.error (.stored _), _) => some (s.callHinted f .failed)

/-- A change to one fetcher by the cookie manager. -/
def updateFetcher (s : DBusList Item E) (f : FetcherId)
    (update : SegmentFetcher Item E → Option (SegmentFetcher Item E)) :
    Option (DBusList Item E) :=
  (update (s.fetchers f)).map (s.setFetcher f)

end DBusList

/-! ## The steps of a run -/

/-- The calls of a list's functions, and what GLib, the cookie manager and the main
context call back.  Every event carries the answers to the D-Bus calls it makes. -/
inductive DBusListEvent (E : Type) where
  | enterListAsync (associatedViewport : Option ViewportId) (listId : ListId)
      (line : UInt32)
  | checkRangeReady (k : QueryId) (answer : Except E UInt32)
  | listInvalidate (listId replacementId : ListId) (answers : FetcherId → AbortAnswer)
  | cancelAllAsyncCalls (answers : FetcherId → AbortAnswer)
  | getItemAsyncSetHint (vp : ViewportId) (line count : UInt32)
      (request : RequestAnswer Unit E) (abort : AbortAnswer)
  | getItemAsync (vp : ViewportId) (line : UInt32) (abort : AbortAnswer)
  | getItem (vp : ViewportId) (line : UInt32) (answer : Except E Unit)
  | detachViewport (vp : ViewportId)
  | rangeNotified (f : FetcherId) (available : Bool)
  | rangeFetched (f : FetcherId) (answer : Except E Unit)
  | rangeDone (f : FetcherId)

namespace DBusList

/-- One step.  `none` says that the event is not possible, or that its handling has no
outcome. -/
def step (content : ListId → Nat → Item) (s : DBusList Item E) :
    DBusListEvent E → Option (DBusList Item E)
  | .enterListAsync associatedViewport listId line =>
      s.enterListAsync associatedViewport listId line
  | .checkRangeReady k answer => s.checkRangeReady k answer
  | .listInvalidate listId replacementId answers =>
      some (s.listInvalidate listId replacementId answers)
  | .cancelAllAsyncCalls answers => s.cancelAllAsyncCalls answers
  | .getItemAsyncSetHint vp line count request abort =>
      let r := s.getItemAsyncSetHint content vp line.toNat count.toNat request abort
      some
        { r.2 with
          nextHint := s.nextHint + 1
          hintCalls := Function.update s.hintCalls s.nextHint (some r.1) }
  | .getItemAsync vp line abort => some (s.getItemAsync vp line.toNat abort).2
  | .getItem vp line answer =>
      (s.getItem content vp line.toNat answer).map fun r => r.2
  | .detachViewport vp => some (s.detachViewport vp)
  | .rangeNotified f available => s.updateFetcher f fun x => x.notify available
  | .rangeFetched f answer => s.updateFetcher f fun x => x.fetchAndNotify content answer
  | .rangeDone f => s.getItemResultAvailableNotification f

/-- A list that has just been made, with new viewports of any sizes. -/
def init (cacheSizes : ViewportId → UInt32) : DBusList Item E :=
  { viewports := fun vp => { cacheSize := cacheSizes vp } }

/-! ## What getting items leaves alone -/

/-- The same list is entered, and the same queries are there. -/
structure SameList (s s' : DBusList Item E) : Prop where
  listId : s'.listId = s.listId
  numberOfItems : s'.numberOfItems = s.numberOfItems
  enterListData : s'.enterListData = s.enterListData

namespace SameList

variable {s s' s'' : DBusList Item E}

theorem refl (s : DBusList Item E) : SameList s s := ⟨rfl, rfl, rfl⟩

theorem trans (h : SameList s s') (h' : SameList s' s'') : SameList s s'' where
  listId := h'.listId.trans h.listId
  numberOfItems := h'.numberOfItems.trans h.numberOfItems
  enterListData := h'.enterListData.trans h.enterListData

end SameList

section Frame

variable (content : ListId → Nat → Item) (s : DBusList Item E) (vp : ViewportId)

theorem announceViewport_sameList (line : Nat) (answer : AbortAnswer) :
    SameList s (s.announceViewport vp line answer).2 := by
  unfold announceViewport
  split
  · exact ⟨rfl, rfl, rfl⟩
  · exact ⟨rfl, rfl, rfl⟩
  · split_ifs
    · exact ⟨rfl, rfl, rfl⟩
    · exact ⟨rfl, rfl, rfl⟩

theorem cancelAndDetach_sameList (answer : AbortAnswer) :
    SameList s (s.cancelAndDetach vp answer) := by
  unfold cancelAndDetach
  split
  · exact ⟨rfl, rfl, rfl⟩
  · exact ⟨rfl, rfl, rfl⟩
  · exact ⟨rfl, rfl, rfl⟩

theorem setViewAndFetch_sameList (line count : Nat) (answer : RequestAnswer Unit E) :
    SameList s (s.setViewAndFetch content vp line count answer).2 := by
  unfold setViewAndFetch
  dsimp only
  split <;> exact ⟨rfl, rfl, rfl⟩

theorem getItemAsyncSetHint_sameList (line count : Nat) (request : RequestAnswer Unit E)
    (abort : AbortAnswer) :
    SameList s (s.getItemAsyncSetHint content vp line count request abort).2 := by
  have hannounce := s.announceViewport_sameList vp line abort
  unfold getItemAsyncSetHint
  split_ifs
  · exact SameList.refl s
  · exact SameList.refl s
  · exact SameList.refl s
  · exact SameList.refl s
  · split
    · rename_i s₁ hs₁
      rw [hs₁] at hannounce
      split
      · exact hannounce.trans (s₁.setViewAndFetch_sameList content vp line count request)
      · exact hannounce.trans (s₁.setViewAndFetch_sameList content vp line count request)
      · exact hannounce
      · exact hannounce
      · exact (hannounce.trans (s₁.cancelAndDetach_sameList vp abort)).trans
          ((s₁.cancelAndDetach vp abort).setViewAndFetch_sameList content vp line count request)
      · exact (hannounce.trans (s₁.cancelAndDetach_sameList vp abort)).trans
          ((s₁.cancelAndDetach vp abort).setViewAndFetch_sameList content vp line count request)
      · exact (hannounce.trans (s₁.cancelAndDetach_sameList vp abort)).trans
          ((s₁.cancelAndDetach vp abort).setViewAndFetch_sameList content vp line count request)
      · exact hannounce
      · exact hannounce
    all_goals
      rename_i s₁ hs₁
      rw [hs₁] at hannounce
      exact hannounce.trans (s₁.setViewAndFetch_sameList content vp line count request)

theorem getItemAsync_sameList (line : Nat) (abort : AbortAnswer) :
    SameList s (s.getItemAsync vp line abort).2 := by
  have hannounce := s.announceViewport_sameList vp line abort
  unfold getItemAsync
  split_ifs
  · exact SameList.refl s
  · exact SameList.refl s
  · exact SameList.refl s
  · dsimp only
    split_ifs
    · exact hannounce
    · split <;> exact hannounce

variable {content s vp}

theorem getItem_sameList {line : Nat} {answer : Except E Unit}
    {r : Option Item × DBusList Item E} (h : s.getItem content vp line answer = some r) :
    SameList s r.2 := by
  have hadd : SameList s (s.addReferrer vp) := by
    unfold addReferrer
    split_ifs <;> exact ⟨rfl, rfl, rfl⟩
  unfold getItem at h
  dsimp only at h
  split_ifs at h
  · exact Option.some.inj h ▸ hadd
  · split at h
    · exact Option.some.inj h ▸ hadd
    · split at h
      · exact Option.some.inj h ▸ hadd.trans ⟨rfl, rfl, rfl⟩
      · split at h
        · cases h
        · exact Option.some.inj h ▸ hadd.trans ⟨rfl, rfl, rfl⟩

theorem getItemResultAvailableNotification_sameList {s' : DBusList Item E} {f : FetcherId}
    (h : s.getItemResultAvailableNotification f = some s') : SameList s s' := by
  unfold getItemResultAvailableNotification at h
  split at h
  · cases h
  · dsimp only at h
    split at h
    · cases h
    · split_ifs at h
      · exact Option.some.inj h ▸ ⟨rfl, rfl, rfl⟩
      · split at h
        · cases h
        · split at h
          · cases h
          · exact Option.some.inj h ▸ ⟨rfl, rfl, rfl⟩
        all_goals exact Option.some.inj h ▸ ⟨rfl, rfl, rfl⟩

end Frame

/-- The events in which items are got. -/
def IsItemEvent : DBusListEvent E → Prop
  | .enterListAsync .. | .checkRangeReady .. | .listInvalidate .. | .cancelAllAsyncCalls .. =>
      False
  | .getItemAsyncSetHint .. | .getItemAsync .. | .getItem .. | .detachViewport ..
  | .rangeNotified .. | .rangeFetched .. | .rangeDone .. => True

theorem step_sameList {content : ListId → Nat → Item} {s s' : DBusList Item E}
    {e : DBusListEvent E} (he : IsItemEvent e) (h : s.step content e = some s') :
    SameList s s' := by
  cases e with
  | enterListAsync => cases he
  | checkRangeReady => cases he
  | listInvalidate => cases he
  | cancelAllAsyncCalls => cases he
  | getItemAsyncSetHint vp line count request abort =>
    have hsame := s.getItemAsyncSetHint_sameList content vp line.toNat count.toNat request
      abort
    rw [← Option.some.inj h]
    exact ⟨hsame.listId, hsame.numberOfItems, hsame.enterListData⟩
  | getItemAsync vp line abort =>
    exact Option.some.inj h ▸ s.getItemAsync_sameList vp line.toNat abort
  | getItem vp line answer =>
    obtain ⟨r, hr, rfl⟩ := Option.map_eq_some_iff.mp h
    exact getItem_sameList hr
  | detachViewport vp => exact Option.some.inj h ▸ ⟨rfl, rfl, rfl⟩
  | rangeNotified f available =>
    obtain ⟨x, -, rfl⟩ := Option.map_eq_some_iff.mp h
    exact ⟨rfl, rfl, rfl⟩
  | rangeFetched f answer =>
    obtain ⟨x, -, rfl⟩ := Option.map_eq_some_iff.mp h
    exact ⟨rfl, rfl, rfl⟩
  | rangeDone f => exact getItemResultAvailableNotification_sameList h

/-! ## When an item is refused -/

section Refused

variable {content : ListId → Nat → Item} {s : DBusList Item E} {vp : ViewportId}

/-- A request for items is not cancelled right away. -/
theorem startFetcher_result (answer : RequestAnswer Unit E) :
    (s.startFetcher content vp answer).1.result ≠ .canceled := by
  cases answer <;>
    simp [startFetcher, SegmentFetcher.prepare, SegmentFetcher.loadSegmentInBackground,
      GetRangeCall.requestAnswer, Call.request, Call.setState, Call.setException]

theorem setViewAndFetch_result (line count : Nat) (answer : RequestAnswer Unit E) :
    (s.setViewAndFetch content vp line count answer).1.result ≠ .canceled := by
  unfold setViewAndFetch
  dsimp only
  split
  all_goals first | exact startFetcher_result answer | exact nofun

/-- `get_item_async_set_hint` returns `CANCELED` only while there is a query. -/
theorem query_of_hint_canceled {line count : Nat} {request : RequestAnswer Unit E}
    {abort : AbortAnswer}
    (h : (s.getItemAsyncSetHint content vp line count request abort).1.result = .canceled) :
    ∃ k, s.enterListData.query = some k := by
  apply Option.isSome_iff_exists.mp
  by_contra hquery
  unfold getItemAsyncSetHint at h
  rw [if_neg hquery] at h
  split_ifs at h
  split at h
  · split at h
    all_goals first | exact setViewAndFetch_result _ _ _ h | cases h
  all_goals exact setViewAndFetch_result _ _ _ h

/-- `get_item_async` returns `CANCELED` only while there is a query. -/
theorem query_of_get_item_canceled {line : Nat} {abort : AbortAnswer}
    (h : (s.getItemAsync vp line abort).1.1 = .canceled) :
    ∃ k, s.enterListData.query = some k := by
  apply Option.isSome_iff_exists.mp
  by_contra hquery
  unfold getItemAsync at h
  rw [if_neg hquery] at h
  split_ifs at h
  dsimp only at h
  split_ifs at h
  split at h <;> cases h

end Refused

end DBusList

end Drcpd.Lists

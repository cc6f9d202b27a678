/-
  Lists/HintedAccess.lean --- a hint, and the access to an item after it (`dbuslist.cc`).

  `get_item_async_set_hint` asks for a segment, and `get_item_async` for a line of it.
  The access is answered if, when it looks, the fetcher of the viewport is getting the line,
  or the cache has an item for it.

  A hint that is accepted may fail to see to this in three ways: it may leave an old fetcher
  alone which is getting the first line of the segment, but not all lines; it may detach the
  viewport in front of a view that is cached already, so that the access clears it; and it
  takes lines for cached which the cache has no items for.
-/
import Drcpd.Lists.HintRuns
import Drcpd.Lists.SegmentLines
import Drcpd.Lists.ViewportRanges

set_option autoImplicit false

namespace Drcpd.Lists

open Drcpd.DBus Drcpd.Rnf

variable {Item E : Type}

namespace Viewport

/-- The cache has an item for the line. -/
def HasItem (v : Viewport Item) (line : Nat) : Prop := (v.itemAt line).1.isSome = true

/-- What is missing once the view is set. -/
def missingIn (v : Viewport Item) (segment : Segment) : Segment :=
  ({ v with viewSegment := segment } : Viewport Item).getMissingSegment

variable {v : Viewport Item}

theorem getMissingSegment_inRange (h : v.InRange) : v.getMissingSegment.InRange := by
  have hview : v.viewSegment.line + v.viewSegment.count < 2 ^ 32 := h.view
  unfold getMissingSegment Segment.InRange
  split
  · exact hview
  · exact hview
  · dsimp only
    omega
  · dsimp only
    omega
  · rename_i isize hkind
    obtain ⟨-, -, -, hlt⟩ := Segment.of_topRemains h.view h.items hkind
    dsimp only
    rw [addUInt_of_lt (by omega)]
    omega
  · dsimp only
    omega

/-- A line of the view is missing or cached. -/
theorem missing_or_cached (h : v.InRange) {line : Nat} (hline : line ∈ v.viewSegment.lines) :
    v.getMissingSegment.containsLine line = true ∨
      v.itemsSegment.containsLine line = true := by
  have hsound := missingSound h.view h.items
  rw [Segment.containsLine_iff (getMissingSegment_inRange h), Segment.containsLine_iff h.items]
  rcases Classical.em v.CachedInside with hinside | hnot
  · left
    rwa [hsound.inside hinside]
  · rw [hsound.missing hnot, Finset.mem_sdiff]
    tauto

/-- A segment is reported as cached only if all its lines are. -/
theorem cached_of_computeOverlap (h : v.InRange) {segment : Segment}
    (hsegment : segment.InRange) (hcached : v.computeOverlap segment = .cached) {line : Nat}
    (hline : line ∈ segment.lines) : v.itemsSegment.containsLine line = true := by
  rw [Segment.containsLine_iff h.items]
  have hkind : (segment.intersection v.itemsSegment).1 = .equal ∨
      (segment.intersection v.itemsSegment).1 = .includedInOther := by
    unfold computeOverlap at hcached
    dsimp only at hcached
    split_ifs at hcached
    split at hcached <;> simp_all
  rw [Segment.intersection_equal_iff hsegment h.items,
    Segment.intersection_includedInOther_iff hsegment h.items] at hkind
  rw [Segment.mem_lines] at hline ⊢
  omega

/-- Everything is missing in a viewport that has been cleared. -/
theorem missing_of_cleared {segment : Segment} (hsegment : segment.InRange) {line start : Nat}
    (hstart : start < 2 ^ 32) (hline : line ∈ segment.lines) :
    (v.clearForLine start).computeOverlap segment ≠ .cached ∧
      ((v.clearForLine start).missingIn segment).containsLine line = true := by
  have hempty : ¬(v.clearForLine start).itemsSegment.containsLine line = true := fun hin =>
    Nat.not_lt_zero _ (Segment.offset_lt_of_containsLine hin).2
  have hrange : InRange { v.clearForLine start with viewSegment := segment } :=
    ⟨hsegment, hstart⟩
  refine ⟨fun hcached => hempty ?_, ?_⟩
  · exact cached_of_computeOverlap hrange hsegment hcached hline
  · exact (missing_or_cached hrange hline).resolve_right hempty

end Viewport

/-- The request for a segment is sent, or answered at once. -/
def SegmentFetcher.isAccepted : RequestAnswer Unit E → Bool
  | .cookie _ | .fastPath _ => true
  | .unmanaged _ _ | .fastPathThrows _ | .failed _ => false

namespace DBusList

/-- The line is in the segment which the fetcher of the viewport gets. -/
def IsRequested (s : DBusList Item E) (vp : ViewportId) (line : Nat) : Prop :=
  ∃ f query, s.viewportsAndFetchers vp = some (some f) ∧
    (s.fetchers f).getRangeQuery = some query ∧
      query.loadingSegment.containsLine line = true

/-- The line is being got, or the cache has an item for it. -/
def HasLine (s : DBusList Item E) (vp : ViewportId) (line : Nat) : Prop :=
  s.IsRequested vp line ∨ (s.viewports vp).HasItem line

/-- The fetcher of the viewport is filling it. -/
def IsFilled (s : DBusList Item E) (vp : ViewportId) : Prop :=
  ∃ f, s.viewportsAndFetchers vp = some (some f) ∧
    (s.fetchers f).isFillingViewport vp = true

/-- An answer of `get_item_async`, with the state it leaves: the line is there, and the
answer is the placeholder or an item. -/
structure Answered (r : (OpResult × Option Item) × DBusList Item E) (vp : ViewportId)
    (line : Nat) : Prop where
  hasLine : r.2.HasLine vp line
  answer : r.1 = (.started, none) ∨ ∃ item, r.1 = (.succeeded, some item)

/-- The access to a line after a hint that has had this result, if it has been accepted. -/
def AnsweredAfter (hint : HintCall × DBusList Item E) (vp : ViewportId) (line : Nat)
    (abort : AbortAnswer) : Prop :=
  hint.1.result = .started ∨ hint.1.result = .succeeded →
    Answered (hint.2.getItemAsync vp line abort) vp line

/-- The access to a line after a hint for a segment, if the hint is accepted. -/
def AnsweredAfterHint (content : ListId → Nat → Item) (s : DBusList Item E)
    (vp : ViewportId) (segment : Segment) (line : Nat) (request : RequestAnswer Unit E)
    (abort abort' : AbortAnswer) : Prop :=
  let r := s.getItemAsyncSetHint content vp segment.line segment.count request abort
  r.1.result = .started ∨ r.1.result = .succeeded →
    Answered (r.2.getItemAsync vp line abort') vp line

/-- The old fetcher of the viewport says that the line is loading, and is right, or the cache has
an item for the line. -/
def IsAvailable (s : DBusList Item E) (vp : ViewportId) (line : Nat) : Prop :=
  if (s.isLineLoading vp line).1 = .loading then s.HasLine vp line
  else (s.viewports vp).HasItem line

/-- Where a fetcher is started for what is missing of a segment, it gets the line, or the cache
has an item for it. -/
def FetchReaches (v : Viewport Item) (segment : Segment) (line : Nat)
    (request : RequestAnswer Unit E) : Prop :=
  SegmentFetcher.isAccepted request = true →
    (v.missingIn segment).containsLine line = true ∨ v.HasItem line

/-- The hint sees to it that the access is answered.  For a viewport that is being filled, that
depends on what the fetcher says about the first line of the segment. -/
def HintReaches (s : DBusList Item E) (vp : ViewportId) (segment : Segment) (line : Nat)
    (request : RequestAnswer Unit E) : Prop :=
  s.listId.isValid = true → s.enterListData.query = none →
    (s.viewportsAndFetchers vp ≠ none → ¬s.IsFilled vp →
      if (s.viewports vp).computeOverlap segment = .cached then (s.viewports vp).HasItem line
      else FetchReaches (s.viewports vp) segment line request) ∧
    (s.IsFilled vp →
      match s.isLineLoading vp segment.line with
      | (.loading, .loading) | (.loading, .done) | (.done, _) => s.IsAvailable vp line
      | (.loading, .inactive) | (.loading, .outOfRange) | (.loading, .failedOrAborted) =>
          (s.viewports vp).computeOverlap segment ≠ .cached ∧
            FetchReaches (s.viewports vp) segment line request
      | (.inactive, _) | (.outOfRange, _) =>
          if (s.viewports vp).computeOverlap segment = .cached then s.IsAvailable vp line
          else FetchReaches (s.viewports vp) segment line request
      | (.failedOrAborted, _) => True)

/-! ## The access -/

section Access

variable {s : DBusList Item E} {vp : ViewportId} {line : Nat}

theorem announceViewport_of_filled (h : s.IsFilled vp) (line : Nat) (abort : AbortAnswer) :
    s.announceViewport vp line abort = (.fillerUpToDate, s) := by
  obtain ⟨f, hentry, hfilling⟩ := h
  unfold announceViewport
  rw [hentry]
  dsimp only
  rw [if_pos hfilling]

variable (hvalid : s.listId.isValid = true) (hquery : s.enterListData.query = none)
  (hline : line < s.numberOfItems) (abort : AbortAnswer)

include hvalid hquery hline

/-- In an entered list the line is answered from what there is once the viewport is
announced. -/
theorem answered_iff :
    Answered (s.getItemAsync vp line abort) vp line ↔
      if (s.announceViewport vp line abort).1 = .fillerUpToDate ∧
          ((s.announceViewport vp line abort).2.isLineLoading vp line).1 = .loading then
        (s.announceViewport vp line abort).2.HasLine vp line
      else ((s.announceViewport vp line abort).2.viewports vp).HasItem line := by
  unfold getItemAsync
  rw [if_neg (by simp [hvalid]), if_neg (by simp [hquery]), if_neg (Nat.not_le.mpr hline)]
  dsimp only
  split_ifs
  · exact ⟨Answered.hasLine, fun h => ⟨h, .inl rfl⟩⟩
  · unfold Viewport.HasItem
    cases hitem : (((s.announceViewport vp line abort).2.viewports vp).itemAt line).1 with
    | none =>
      refine iff_of_false (fun h => ?_) nofun
      rcases h.answer with hstarted | ⟨item, hsucceeded⟩
      · cases hstarted
      · cases hsucceeded
    | some item =>
      refine iff_of_true ⟨.inr ?_, .inr ⟨item, rfl⟩⟩ rfl
      unfold Viewport.HasItem
      rw [hitem]
      rfl

/-- The answer for a viewport that is being filled. -/
theorem answered_of_filled (h : s.IsFilled vp) :
    Answered (s.getItemAsync vp line abort) vp line ↔ s.IsAvailable vp line := by
  rw [answered_iff hvalid hquery hline, announceViewport_of_filled h]
  unfold IsAvailable
  by_cases hloading : (s.isLineLoading vp line).1 = .loading
  · rw [if_pos ⟨rfl, hloading⟩, if_pos hloading]
  · rw [if_neg fun hboth => hloading hboth.2, if_neg hloading]

/-- The answer for a viewport that is registered only. -/
theorem answered_of_registered (h : s.viewportsAndFetchers vp = some none) :
    Answered (s.getItemAsync vp line abort) vp line ↔ (s.viewports vp).HasItem line := by
  have hannounced : s.announceViewport vp line abort = (.noActiveFiller, s) := by
    unfold announceViewport
    rw [h]
  rw [answered_iff hvalid hquery hline, hannounced,
    if_neg fun hboth => AnnounceResult.noConfusion hboth.1]

/-- The access clears a viewport that has no entry. -/
theorem not_answered_of_detached (h : s.viewportsAndFetchers vp = none) :
    ¬Answered (s.getItemAsync vp line abort) vp line := by
  have hannounced : s.announceViewport vp line abort = (.registeredAndClearedViewport,
      (s.setViewport vp ((s.viewports vp).clearForLine line)).setEntry vp (some none)) := by
    unfold announceViewport
    rw [h]
  rw [answered_iff hvalid hquery hline, hannounced,
    if_neg fun hboth => AnnounceResult.noConfusion hboth.1]
  simp [Viewport.HasItem, setEntry, setViewport, Viewport.clearForLine, Viewport.itemAt,
    RamList.getItem]

end Access

/-! ## A new fetcher -/

section Fetch

variable (content : ListId → Nat → Item)

/-- A fetcher whose request is accepted is getting its segment, and says so. -/
theorem loadSegmentInBackground_accepted (vp : ViewportId) (listId : ListId) (missing : Segment)
    (line : Nat) {answer : RequestAnswer Unit E}
    (haccepted : SegmentFetcher.isAccepted answer = true) {r : OpResult × SegmentFetcher Item E}
    (hr : (SegmentFetcher.prepare vp listId missing).loadSegmentInBackground content answer = r) :
    r.2.isFillingViewport vp = true ∧
      ∃ query, r.2.getRangeQuery = some query ∧ query.loadingSegment = missing ∧
        (missing.containsLine line = true → (r.2.isLineLoading line).1 = .loading) := by
  subst hr
  cases answer with
  | cookie cookie =>
    refine ⟨decide_eq_true rfl, _, rfl, rfl, fun hline => ?_⟩
    exact if_pos hline
  | fastPath u => exact ⟨decide_eq_true rfl, _, rfl, rfl, fun _ => rfl⟩
  | unmanaged cookie e => cases haccepted
  | fastPathThrows u => cases haccepted
  | failed e => cases haccepted

theorem loadSegmentInBackground_result (vp : ViewportId) (listId : ListId) (missing : Segment)
    (answer : RequestAnswer Unit E) :
    (((SegmentFetcher.prepare vp listId missing).loadSegmentInBackground content answer).1 =
          .started ∨
        ((SegmentFetcher.prepare vp listId missing).loadSegmentInBackground content answer).1 =
          .succeeded) ↔
      SegmentFetcher.isAccepted answer = true := by
  cases answer with
  | cookie cookie => exact iff_of_true (.inl rfl) rfl
  | fastPath u => exact iff_of_true (.inr rfl) rfl
  | unmanaged cookie e => exact iff_of_false (by rintro (h | h) <;> cases h) nofun
  | fastPathThrows u => exact iff_of_false (by rintro (h | h) <;> cases h) nofun
  | failed e => exact iff_of_false (by rintro (h | h) <;> cases h) nofun

variable {content} {s : DBusList Item E} {vp : ViewportId} {line : Nat}

/-- The access to a line after a fetcher has been started for a view. -/
theorem answered_after_start_iff (hvalid : s.listId.isValid = true)
    (hquery : s.enterListData.query = none) (hline : line < s.numberOfItems)
    (answer : RequestAnswer Unit E) (abort : AbortAnswer) :
    AnsweredAfter (s.startFetcher content vp answer) vp line abort ↔
      (SegmentFetcher.isAccepted answer = true →
        (s.viewports vp).getMissingSegment.containsLine line = true ∨
          (s.viewports vp).HasItem line) := by
  have hresult := loadSegmentInBackground_result content vp s.listId
    (s.viewports vp).getMissingSegment answer
  refine (imp_congr_left hresult).trans (imp_congr_right fun haccepted => ?_)
  obtain ⟨hfilling, query, hgot, hsegment, hloading⟩ :=
    loadSegmentInBackground_accepted content vp s.listId (s.viewports vp).getMissingSegment line
      haccepted rfl
  have hentry : (s.startFetcher content vp answer).2.viewportsAndFetchers vp =
      some (some s.nextHint) := Function.update_self ..
  have hfetcher : (s.startFetcher content vp answer).2.fetchers s.nextHint =
      ((SegmentFetcher.prepare vp s.listId (s.viewports vp).getMissingSegment
        ).loadSegmentInBackground content answer).2 := Function.update_self ..
  have hfilled : (s.startFetcher content vp answer).2.IsFilled vp :=
    ⟨s.nextHint, hentry, hfetcher ▸ hfilling⟩
  have hrequested : (s.startFetcher content vp answer).2.IsRequested vp line ↔
      (s.viewports vp).getMissingSegment.containsLine line = true := by
    constructor
    · rintro ⟨f, query', hentry', hgot', hin⟩
      cases hentry.symm.trans hentry'
      rw [hfetcher] at hgot'
      cases hgot.symm.trans hgot'
      exact hsegment ▸ hin
    · exact fun hin => ⟨s.nextHint, query, hentry, hfetcher ▸ hgot, hsegment.symm ▸ hin⟩
  have hasks : (s.startFetcher content vp answer).2.isLineLoading vp line =
      ((SegmentFetcher.prepare vp s.listId (s.viewports vp).getMissingSegment
        ).loadSegmentInBackground content answer).2.isLineLoading line := by
    unfold isLineLoading
    rw [hentry]
    dsimp only
    rw [hfetcher]
  rw [answered_of_filled (s := (s.startFetcher content vp answer).2) hvalid hquery hline abort
    hfilled]
  unfold IsAvailable HasLine
  rw [hrequested, hasks]
  split_ifs with hstarted
  · exact Iff.rfl
  · exact ⟨Or.inr, fun h => h.resolve_left fun hin => hstarted (hloading hin)⟩

/-- The end of a hint. -/
theorem setViewAndFetch_eq (hsize : s.numberOfItems ≤ uintMax) {segment : Segment}
    (hinside : segment.line + segment.count ≤ s.numberOfItems) (answer : RequestAnswer Unit E) :
    s.setViewAndFetch content vp segment.line segment.count answer =
      if (s.viewports vp).computeOverlap segment = .cached then
        (⟨.succeeded, false⟩, s.setViewport vp { s.viewports vp with viewSegment := segment })
      else
        (s.setViewport vp { s.viewports vp with viewSegment := segment }).startFetcher content vp
          answer := by
  have hstate := computeOverlap_cases (s.viewports vp) segment
  unfold setViewAndFetch Viewport.setView
  dsimp only
  rw [Viewport.clippedView_of_inside hinside hsize]
  rcases hstate with hstate | hstate | hstate | hstate | hstate
  · rw [hstate]
    rfl
  · rw [hstate]
    rfl
  · rw [hstate]
    rfl
  · rw [hstate]
    rfl
  · rw [hstate]
    rfl

variable (hvalid : s.listId.isValid = true) (hquery : s.enterListData.query = none)
  (hline : line < s.numberOfItems) (hsize : s.numberOfItems ≤ uintMax) {segment : Segment}
  (hinside : segment.line + segment.count ≤ s.numberOfItems) (request : RequestAnswer Unit E)
  (abort : AbortAnswer)

include hvalid hquery hline hsize hinside

/-- The access after a hint that gets to `set_view`. -/
theorem answeredAfter_setViewAndFetch_iff :
    AnsweredAfter (s.setViewAndFetch content vp segment.line segment.count request) vp line
        abort ↔
      if (s.viewports vp).computeOverlap segment = .cached then
        Answered ((s.setViewport vp { s.viewports vp with viewSegment := segment }).getItemAsync
          vp line abort) vp line
      else FetchReaches (s.viewports vp) segment line request := by
  have hv : (s.setViewport vp { s.viewports vp with viewSegment := segment }).viewports vp =
      { s.viewports vp with viewSegment := segment } := Function.update_self ..
  rw [setViewAndFetch_eq hsize hinside]
  split_ifs with hcached
  · exact ⟨fun h => h (.inr rfl), fun h _ => h⟩
  · refine (answered_after_start_iff
      (s := s.setViewport vp { s.viewports vp with viewSegment := segment }) hvalid hquery hline
      request abort).trans ?_
    rw [hv]
    rfl

end Fetch

/-! ## The hint -/

section Hint

variable {s : DBusList Item E} {vp : ViewportId} (content : ListId → Nat → Item)

theorem announceViewport_of_not_filled (h : ¬s.IsFilled vp) (line : Nat)
    (abort : AbortAnswer) :
    (s.announceViewport vp line abort).1 ≠ .fillerUpToDate ∧
      (s.announceViewport vp line abort).2.viewportsAndFetchers vp = some none := by
  unfold announceViewport
  split
  · exact ⟨nofun, Function.update_self ..⟩
  · rename_i hentry
    exact ⟨nofun, hentry⟩
  · rename_i f hentry
    split_ifs with hfilling
    · exact absurd ⟨f, hentry, hfilling⟩ h
    · exact ⟨nofun, Function.update_self ..⟩

/-- A hint is refused where the list is not entered, or is just being entered. -/
theorem getItemAsyncSetHint_refused
    (hidle : ¬(s.listId.isValid = true ∧ s.enterListData.query = none)) (line count : Nat)
    (request : RequestAnswer Unit E) (abort : AbortAnswer) :
    ¬((s.getItemAsyncSetHint content vp line count request abort).1.result = .started ∨
      (s.getItemAsyncSetHint content vp line count request abort).1.result = .succeeded) := by
  intro haccepted
  unfold getItemAsyncSetHint at haccepted
  rcases Classical.em (s.listId.isValid = true) with hvalid | hinvalid
  · have hquery : s.enterListData.query ≠ none := fun hnone => hidle ⟨hvalid, hnone⟩
    rw [if_neg (by simp [hvalid]), if_pos (Option.isSome_iff_ne_none.mpr hquery)] at haccepted
    rcases haccepted with h | h <;> cases h
  · rw [if_pos (by simpa using hinvalid)] at haccepted
    rcases haccepted with h | h <;> cases h

section Accepted

variable {line count : Nat} (haccepted : s.HintAccepted vp line count)
  (request : RequestAnswer Unit E) (abort : AbortAnswer)

include haccepted

/-- A hint past its checks, for a viewport that is not being filled. -/
theorem getItemAsyncSetHint_of_not_filled (h : ¬s.IsFilled vp) :
    s.getItemAsyncSetHint content vp line count request abort =
      (s.announceViewport vp line abort).2.setViewAndFetch content vp line count request := by
  obtain ⟨hvalid, hquery, hline, hcount, hsize⟩ := haccepted
  have hannounced := (announceViewport_of_not_filled h line abort).1
  unfold getItemAsyncSetHint
  rw [if_neg (by simp [hvalid]), if_neg (by simp [hquery]), if_neg (Nat.not_le.mpr hline),
    if_neg (by omega)]
  cases hresult : s.announceViewport vp line abort with
  | mk result t =>
    rw [hresult] at hannounced
    cases result with
    | fillerUpToDate => exact absurd rfl hannounced
    | registeredAndClearedViewport => rfl
    | noActiveFiller => rfl
    | canceledOldFiller => rfl

/-- A hint past its checks, for a viewport that is being filled. -/
theorem getItemAsyncSetHint_of_filled (h : s.IsFilled vp) :
    s.getItemAsyncSetHint content vp line count request abort =
      match s.isLineLoading vp line with
      | (.inactive, _) | (.outOfRange, _) => s.setViewAndFetch content vp line count request
      | (.loading, .loading) => (⟨.started, false⟩, s)
      | (.loading, .done) => (⟨.succeeded, false⟩, s)
      | (.loading, .inactive) | (.loading, .outOfRange) | (.loading, .failedOrAborted) =>
          (s.cancelAndDetach vp abort).setViewAndFetch content vp line count request
      | (.done, _) => (⟨.succeeded, false⟩, s)
      | (.failedOrAborted, _) => (⟨.failed, false⟩, s) := by
  obtain ⟨hvalid, hquery, hline, hcount, hsize⟩ := haccepted
  unfold getItemAsyncSetHint
  rw [if_neg (by simp [hvalid]), if_neg (by simp [hquery]), if_neg (Nat.not_le.mpr hline),
    if_neg (by omega)]
  cases hresult : s.announceViewport vp line abort with
  | mk result t =>
    rw [announceViewport_of_filled h] at hresult
    obtain ⟨rfl, rfl⟩ := Prod.mk.inj hresult
    rfl

end Accepted

theorem cancelAndDetach_entry (abort : AbortAnswer) :
    (s.cancelAndDetach vp abort).viewportsAndFetchers vp = none := by
  unfold cancelAndDetach
  split <;> exact Function.update_self ..

section Ends

variable (h : s.ViewportsInRange) (hvalid : s.listId.isValid = true)
  (hquery : s.enterListData.query = none) {segment : Segment} {line : Nat}
  (hinside : segment.line + segment.count ≤ s.numberOfItems) (hline : line ∈ segment.lines)
  (request : RequestAnswer Unit E) (abort abort' : AbortAnswer)

include h hvalid hquery hinside hline

variable (vp) in
/-- The access after a hint that detaches its viewport first: the segment must not be cached. -/
theorem answered_after_detach_iff :
    AnsweredAfter ((s.cancelAndDetach vp abort).setViewAndFetch content vp segment.line
        segment.count request) vp line abort' ↔
      (s.viewports vp).computeOverlap segment ≠ .cached ∧
        FetchReaches (s.viewports vp) segment line request := by
  have hsame := s.cancelAndDetach_sameList vp abort
  have hviewports : (s.cancelAndDetach vp abort).viewports = s.viewports :=
    cancelAndDetach_viewports abort
  have hvalid' := hsame.listId ▸ hvalid
  have hquery' := hsame.enterListData ▸ hquery
  have hinside' := hsame.numberOfItems ▸ hinside
  have hsize' := hsame.numberOfItems ▸ h.size
  have hline' : line < (s.cancelAndDetach vp abort).numberOfItems :=
    Nat.lt_of_lt_of_le (Segment.mem_lines.mp hline).2 hinside'
  refine (answeredAfter_setViewAndFetch_iff hvalid' hquery' hline' hsize' hinside' request
    abort').trans ?_
  rw [hviewports]
  split_ifs with hcached
  · refine iff_of_false ?_ fun hboth => hboth.1 hcached
    exact not_answered_of_detached
      (s := (s.cancelAndDetach vp abort).setViewport vp
        { s.viewports vp with viewSegment := segment })
      hvalid' hquery' hline' abort' (cancelAndDetach_entry abort)
  · exact (and_iff_right hcached).symm

/-- The access after a hint that sets the view of a viewport which is being filled. -/
theorem answered_after_refill_iff (hfilled : s.IsFilled vp) :
    AnsweredAfter (s.setViewAndFetch content vp segment.line segment.count request) vp line
        abort' ↔
      if (s.viewports vp).computeOverlap segment = .cached then s.IsAvailable vp line
      else FetchReaches (s.viewports vp) segment line request := by
  have hline' : line < s.numberOfItems :=
    Nat.lt_of_lt_of_le (Segment.mem_lines.mp hline).2 hinside
  have hv : (s.setViewport vp { s.viewports vp with viewSegment := segment }).viewports vp =
      { s.viewports vp with viewSegment := segment } := Function.update_self ..
  have hanswered := answered_of_filled
    (s := s.setViewport vp { s.viewports vp with viewSegment := segment }) hvalid hquery hline'
    abort' hfilled
  unfold IsAvailable HasLine at hanswered ⊢
  rw [hv] at hanswered
  rw [answeredAfter_setViewAndFetch_iff hvalid hquery hline' h.size hinside request abort',
    hanswered]
  rfl

/-- The same for a viewport that is registered only. -/
theorem answered_after_register_iff (hregistered : s.viewportsAndFetchers vp = some none) :
    AnsweredAfter (s.setViewAndFetch content vp segment.line segment.count request) vp line
        abort' ↔
      if (s.viewports vp).computeOverlap segment = .cached then (s.viewports vp).HasItem line
      else FetchReaches (s.viewports vp) segment line request := by
  have hline' : line < s.numberOfItems :=
    Nat.lt_of_lt_of_le (Segment.mem_lines.mp hline).2 hinside
  have hv : (s.setViewport vp { s.viewports vp with viewSegment := segment }).viewports vp =
      { s.viewports vp with viewSegment := segment } := Function.update_self ..
  have hanswered := answered_of_registered
    (s := s.setViewport vp { s.viewports vp with viewSegment := segment }) hvalid hquery hline'
    abort' hregistered
  rw [hv] at hanswered
  rw [answeredAfter_setViewAndFetch_iff hvalid hquery hline' h.size hinside request abort',
    hanswered]
  rfl

variable (hsize : segment.count ≤ (s.viewports vp).cacheSize.toNat)

include hsize

/-- The access after a hint for a viewport that is being filled. -/
theorem answeredAfterHint_of_filled (hfilled : s.IsFilled vp) :
    s.AnsweredAfterHint content vp segment line request abort abort' ↔
      s.HintReaches vp segment line request := by
  have hrange := Segment.mem_lines.mp hline
  have hpasses : s.HintAccepted vp segment.line segment.count :=
    ⟨hvalid, hquery, by omega, by omega, hsize⟩
  have hjoined := answered_of_filled hvalid hquery (by omega : line < s.numberOfItems) abort'
    hfilled
  have hrefilled := answered_after_refill_iff content h hvalid hquery hinside hline request abort'
    hfilled
  have hrestarted := answered_after_detach_iff vp content h hvalid hquery hinside hline request
    abort abort'
  unfold AnsweredAfterHint HintReaches
  rw [imp_iff_right hvalid, imp_iff_right hquery,
    and_iff_right fun _ hnot => absurd hfilled hnot, imp_iff_right hfilled,
    getItemAsyncSetHint_of_filled content hpasses request abort hfilled]
  rcases s.isLineLoading vp segment.line with ⟨first, second⟩
  cases first with
  | inactive => exact hrefilled
  | outOfRange => exact hrefilled
  | failedOrAborted =>
    refine iff_of_true (fun haccepted => ?_) trivial
    rcases haccepted with hresult | hresult <;> cases hresult
  | done =>
    exact ⟨fun hanswered => hjoined.mp (hanswered (.inr rfl)), fun hline _ => hjoined.mpr hline⟩
  | loading =>
    cases second with
    | loading =>
      exact ⟨fun hanswered => hjoined.mp (hanswered (.inl rfl)), fun hline _ => hjoined.mpr hline⟩
    | done =>
      exact ⟨fun hanswered => hjoined.mp (hanswered (.inr rfl)), fun hline _ => hjoined.mpr hline⟩
    | _ => exact hrestarted

/-- A viewport that is not being filled is announced, and registered then. -/
theorem answeredAfterHint_of_not_filled (hnot : ¬s.IsFilled vp) :
    s.AnsweredAfterHint content vp segment line request abort abort' ↔
      s.HintReaches vp segment line request := by
  have hrange := Segment.mem_lines.mp hline
  have hpasses : s.HintAccepted vp segment.line segment.count :=
    ⟨hvalid, hquery, by omega, by omega, hsize⟩
  have hstart : segment.line < 2 ^ 32 := by
    have hnumber := h.size
    have hmax : uintMax = 2 ^ 32 - 1 := rfl
    omega
  have hsegment : segment.InRange := by
    have hnumber := h.size
    have hmax : uintMax = 2 ^ 32 - 1 := rfl
    unfold Segment.InRange
    omega
  have hsame := s.announceViewport_sameList vp segment.line abort
  have hfetched := answered_after_register_iff content (h.announceViewport vp hstart abort)
    (hsame.listId ▸ hvalid) (hsame.enterListData ▸ hquery) (hsame.numberOfItems ▸ hinside) hline
    request abort' (announceViewport_of_not_filled hnot segment.line abort).2
  unfold AnsweredAfterHint HintReaches
  rw [imp_iff_right hvalid, imp_iff_right hquery, and_iff_left fun hfilled => absurd hfilled hnot,
    imp_iff_right hnot, getItemAsyncSetHint_of_not_filled content hpasses request abort hnot]
  refine hfetched.trans ?_
  by_cases hentry : s.viewportsAndFetchers vp = none
  · -- the viewport has been cleared, so that all of the segment is fetched
    have hcleared : (s.announceViewport vp segment.line abort).2.viewports vp =
        (s.viewports vp).clearForLine segment.line := by
      unfold announceViewport
      rw [hentry]
      exact Function.update_self ..
    obtain ⟨huncached, hmissing⟩ := Viewport.missing_of_cleared (v := s.viewports vp) hsegment
      hstart hline
    rw [hcleared, if_neg huncached]
    exact iff_of_true (fun _ => .inl hmissing) fun hsome => absurd hentry hsome
  · have hkept : (s.announceViewport vp segment.line abort).2.viewports = s.viewports := by
      unfold announceViewport
      split
      · next hnone => exact absurd hnone hentry
      · rfl
      · split <;> rfl
    rw [hkept, imp_iff_right hentry]

end Ends

/-- After a hint for a segment of the list, the access to a line of the segment is
answered from it if and only if the hint sees to it. -/
theorem answeredAfterHint_iff (h : s.ViewportsInRange) {segment : Segment} {line : Nat}
    (hinside : segment.line + segment.count ≤ s.numberOfItems) (hline : line ∈ segment.lines)
    (hsize : segment.count ≤ (s.viewports vp).cacheSize.toNat)
    (request : RequestAnswer Unit E) (abort abort' : AbortAnswer) :
    s.AnsweredAfterHint content vp segment line request abort abort' ↔
      s.HintReaches vp segment line request := by
  rcases Classical.em (s.listId.isValid = true ∧ s.enterListData.query = none) with
    ⟨hvalid, hquery⟩ | hidle
  · rcases Classical.em (s.IsFilled vp) with hfilled | hnot
    · exact answeredAfterHint_of_filled content h hvalid hquery hinside hline request abort abort'
        hsize hfilled
    · exact answeredAfterHint_of_not_filled content h hvalid hquery hinside hline request abort
        abort' hsize hnot
  · refine iff_of_true (fun haccepted => ?_) fun hvalid hquery => absurd ⟨hvalid, hquery⟩ hidle
    exact absurd haccepted (getItemAsyncSetHint_refused content hidle _ _ request abort)

end Hint

end DBusList

end Drcpd.Lists

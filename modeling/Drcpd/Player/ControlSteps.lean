/-
  Player/ControlSteps.lean --- what the functions of the player control preserve.

  `Inv` adds to the invariant about the operations what it takes for the user intention:
  while it says that we are skipping, the skipper has an operation.  There is one lemma for
  each function, in the order of the functions.
-/
import Drcpd.Player.ControlInvariant

set_option autoImplicit false

namespace Drcpd.Player

open Crawler (CompletionCallbackFilter Direction OpId OpState OperationBase PositionalState)

namespace Control

/-- The invariant of the player control. -/
structure Inv (s : Control) : Prop where
  tracked : s.Tracked
  skipping : s.intention.isSkipping = true → s.findNextOp.isSome = true

/-- The invariant is about nothing but the operations, the pointers to them, and whether
there are player data and a crawler. -/
theorem Tracked.of_same {s t : Control} (h : s.Tracked)
    (hpending : t.pendingSkipRequests = s.pendingSkipRequests) (hops : t.ops = s.ops)
    (hpointers : t.pointers = s.pointers) (hattached : s.IsAttached → t.IsAttached) :
    t.Tracked := by
  refine ⟨hpending.trans h.1, fun i => ?_⟩
  rw [hops, hpointers]
  exact (h.2 i).frame { op := rfl, attached := hattached }

theorem Inv.of_same {s t : Control} (h : s.Inv) (ht : t.Tracked)
    (hintention : t.intention = s.intention) (hfind : t.findNextOp = s.findNextOp) : t.Inv where
  tracked := ht
  skipping := by
    rw [hintention, hfind]
    exact h.skipping

/-- Nothing has to be known about the skipper while we are not skipping. -/
theorem Inv.of_not_skipping {t : Control} (ht : t.Tracked)
    (hintention : t.intention.isSkipping = false) : t.Inv where
  tracked := ht
  skipping := fun h => absurd (hintention.symm.trans h) Bool.false_ne_true

/-- The operation of the skipper is contained in `ops_`, so that there is a crawler. -/
theorem Tracked.isAttached_of_find {s : Control} (h : s.Tracked) {i : OpId}
    (hi : s.findNextOp = some i) : s.IsAttached :=
  (h.2 i).attached ((h.2 i).find hi).1.1

theorem Inv.isAttached_of_skipping {s : Control} (h : s.Inv)
    (hskipping : s.intention.isSkipping = true) : s.IsAttached := by
  obtain ⟨i, hi⟩ := Option.isSome_iff_exists.mp (h.skipping hskipping)
  exact h.tracked.isAttached_of_find hi

theorem Inv.not_skipping_of_null {s : Control} (h : s.Inv) (hnull : s.findNextOp = none) :
    s.intention.isSkipping = false := by
  refine Bool.eq_false_iff.mpr fun hskipping => ?_
  have hsome := h.skipping hskipping
  rw [hnull] at hsome
  cases hsome

/-! ## Plugging -/

/-- Deactivating the crawler leaves nothing in `ops_`. -/
theorem Tracked.deactivate {s : Control} (h : s.Tracked) (hp : s.prefetchNextItemOp = none)
    (hf : s.findNextOp = none) (isAttached : Prop) (i : OpId) :
    TrackedAt s.ops.deactivate s.pointers isAttached i := by
  have hpointers : s.pointers.prefetchNextItemOp ≠ some i ∧ s.pointers.findNextOp ≠ some i := by
    constructor
    · intro heq
      exact absurd (hp.symm.trans heq) nofun
    · intro heq
      exact absurd (hf.symm.trans heq) nofun
  cases hcontained : (s.ops.op i).isContained with
  | true =>
    have hop : s.ops.deactivate.op i = { (s.ops.op i).cancel with isContained := false } := by
      unfold CrawlerOps.deactivate
      dsimp only
      rw [if_pos hcontained]
    refine ⟨?_, (h.2 i).fresh, ?_, fun heq => absurd heq hpointers.1, ?_,
      fun heq => absurd heq hpointers.2, ?_, fun heq => ?_⟩
    · rw [hop]
      exact (h.2 i).ok.cancel.removed
    · rw [hop]
      exact nofun
    · rw [hop]
      exact (h.2 i).uris
    · rw [hop]
      exact (h.2 i).waiting
    · have hnot := ((h.2 i).saved heq).1.notContained
      exact absurd (hnot.symm.trans hcontained) Bool.false_ne_true
  | false =>
    have hop : s.ops.deactivate.op i = s.ops.op i := by
      unfold CrawlerOps.deactivate
      dsimp only
      rw [if_neg (Bool.eq_false_iff.mp hcontained)]
    refine ⟨?_, (h.2 i).fresh, ?_, fun heq => absurd heq hpointers.1, ?_,
      fun heq => absurd heq hpointers.2, ?_, ?_⟩
    · rw [hop]
      exact (h.2 i).ok
    · rw [hop]
      exact fun hyes => absurd (hcontained.symm.trans hyes) Bool.false_ne_true
    · rw [hop]
      exact (h.2 i).uris
    · rw [hop]
      exact (h.2 i).waiting
    · rw [hop]
      exact (h.2 i).saved

theorem dropCrawlerHandle_eq (s : Control) :
    s.dropCrawlerHandle = { s with
      crawlerHandle := false
      ops := if s.crawlerHandle then s.ops.deactivate else s.ops } := by
  unfold dropCrawlerHandle
  split
  · rfl
  · next hnone =>
    have hcrawler : s.crawlerHandle = false := Bool.eq_false_iff.mpr hnone
    exact congrArg (fun c => { s with crawlerHandle := c }) hcrawler

/-- Whatever becomes of the player data and of the crawler handle afterwards. -/
theorem Tracked.dropCrawlerHandle {s t : Control} (h : s.Tracked)
    (hp : s.prefetchNextItemOp = none) (hf : s.findNextOp = none)
    (hops : t.ops = if s.crawlerHandle then s.ops.deactivate else s.ops)
    (hpointers : t.pointers = s.pointers)
    (hpending : t.pendingSkipRequests = s.pendingSkipRequests) : t.Tracked := by
  refine ⟨hpending.trans h.1, fun i => ?_⟩
  rw [hops, hpointers]
  split
  · exact h.deactivate hp hf _ i
  · next hnone =>
    refine (h.2 i).frame { op := rfl, attached := fun hattached => ?_ }
    exact absurd hattached.2 hnone

/-- A complete unplug, with the changes to the operations made last. -/
theorem unplug_true_eq (s : Control) :
    s.unplug true =
      { s.resetSkipper.cancelPrefetchOps.dropCrawlerHandle with
        audioSource := none
        finishedNotification := false
        intention := if s.playerData then .nothing else s.intention
        playerData := false
        prefetchDirectionAfterFailure := .forward
        permissions := none } := by
  cases hdata : s.playerData with
  | true =>
    cases hcrawler : s.crawlerHandle with
    | true => simp [unplug, resetSkipper, cancelPrefetchOps, Control.dropCrawlerHandle, hdata,
        hcrawler]
    | false => simp [unplug, resetSkipper, cancelPrefetchOps, Control.dropCrawlerHandle, hdata,
        hcrawler]
  | false =>
    cases hcrawler : s.crawlerHandle with
    | true => simp [unplug, resetSkipper, cancelPrefetchOps, Control.dropCrawlerHandle, hdata,
        hcrawler]
    | false => simp [unplug, resetSkipper, cancelPrefetchOps, Control.dropCrawlerHandle, hdata,
        hcrawler]

/-- Unplugging just the data. -/
theorem unplug_false_eq (s : Control) :
    s.unplug false =
      { s.resetSkipper.cancelPrefetchOps with
        intention := if s.playerData then .nothing else s.intention
        prefetchDirectionAfterFailure := .forward } := by
  cases hdata : s.playerData with
  | true => simp [unplug, resetSkipper, cancelPrefetchOps, hdata]
  | false => simp [unplug, resetSkipper, cancelPrefetchOps, hdata]

theorem unplug_intention (s : Control) (isCompleteUnplug : Bool) :
    (s.unplug isCompleteUnplug).intention =
      if s.playerData then .nothing else s.intention := by
  cases isCompleteUnplug with
  | true => rw [unplug_true_eq]
  | false => rw [unplug_false_eq]

theorem Tracked.unplug {s : Control} (h : s.Tracked) (isCompleteUnplug : Bool) :
    (s.unplug isCompleteUnplug).Tracked := by
  have hreset := h.resetSkipper.cancelPrefetchOps
  cases isCompleteUnplug with
  | true =>
    rw [unplug_true_eq, dropCrawlerHandle_eq]
    exact hreset.dropCrawlerHandle rfl rfl rfl rfl rfl
  | false =>
    rw [unplug_false_eq]
    exact hreset.of_same rfl rfl rfl id

/-- Whoever unplugs ends all skipping. -/
theorem Inv.unplug {s : Control} (h : s.Inv) (isCompleteUnplug : Bool) :
    (s.unplug isCompleteUnplug).Inv := by
  refine .of_not_skipping (h.tracked.unplug isCompleteUnplug) ?_
  rw [s.unplug_intention]
  split
  · rfl
  · next hdata =>
    refine Bool.eq_false_iff.mpr fun hskipping => ?_
    exact hdata (h.isAttached_of_skipping hskipping).1

/-- The skipper and all prefetching are forgotten when something else is plugged. -/
theorem Tracked.plugPermissions {s t : Control} (h : s.Tracked) (permissions : LocalPermissions)
    (hops : t.ops = (s.plugPermissions permissions).ops)
    (hpointers : t.pointers = (s.plugPermissions permissions).pointers)
    (hpending : t.pendingSkipRequests = (s.plugPermissions permissions).pendingSkipRequests) :
    t.Tracked := by
  unfold Control.plugPermissions at hops hpointers hpending
  rw [dropCrawlerHandle_eq] at hops hpointers hpending
  have hgiven := h.giveUp (.inl rfl) (.inl rfl) (.inl rfl)
  have hdropped : ({ t with
      ops := if s.crawlerHandle then s.ops.deactivate else s.ops } : Control).Tracked :=
    hgiven.dropCrawlerHandle rfl rfl rfl hpointers (hpending.trans h.1.symm)
  have hcanceled := hdropped.cancel fun i hi => by
    have hnone := h.noneTo_of_findNext hi
    have hsaved : t.pointers.NoneTo i := by
      rw [hpointers]
      exact ⟨nofun, nofun, nofun, hnone.saved⟩
    exact hsaved
  exact hcanceled.of_same rfl hops rfl id

theorem plugPermissions_same (s : Control) (permissions : LocalPermissions) :
    (s.plugPermissions permissions).intention = s.intention ∧
      (s.plugPermissions permissions).findNextOp = none := by
  unfold Control.plugPermissions
  rw [dropCrawlerHandle_eq]
  exact ⟨rfl, rfl⟩

theorem Tracked.plugData {s : Control} (h : s.Tracked) : s.plugData.Tracked :=
  h.of_same rfl rfl rfl fun hattached => ⟨rfl, hattached.2⟩

theorem Tracked.plugAudioSource {s : Control} (h : s.Tracked) (isSelected : Bool) :
    (s.plugAudioSource isSelected).Tracked := h.of_same rfl rfl rfl id

/-! ## Operations -/

theorem Inv.playerFinished {s : Control} (h : s.Inv) (what : FinishedWith)
    (isActiveController : Bool) (playerState : PlayerState) :
    (s.playerFinished what isActiveController playerState).Inv := by
  unfold Control.playerFinished
  split
  · exact h
  · split
    · exact h.unplug false
    · exact h

theorem Inv.finished {s : Control} (h : s.Inv) (what : FinishedWith) (a : Answers) :
    (s.finished what a).Inv := by
  unfold Control.finished
  split
  · exact h.playerFinished what true a.playerState
  · exact h

/-- Outside of skipping, `finished_notification_` leaves the intention alone or takes it
away. -/
theorem setIntentionAfterSkipping_isSkipping (s : Control) :
    s.setIntentionAfterSkipping.intention.isSkipping = false := by
  unfold setIntentionAfterSkipping
  split
  · next h => exact h ▸ rfl
  · next h => exact h ▸ rfl
  · next h => exact h ▸ rfl
  · next h => exact h ▸ rfl
  · rfl
  · rfl

theorem Tracked.setIntentionAfterSkipping {s : Control} (h : s.Tracked) :
    s.setIntentionAfterSkipping.Tracked := by
  unfold Control.setIntentionAfterSkipping
  split
  · exact h
  · exact h
  · exact h
  · exact h
  · exact h.of_same rfl rfl rfl id
  · exact h.of_same rfl rfl rfl id

theorem startPrefetchNextItem_same (s : Control) (direction : Direction) (force : Bool)
    (execution : Execution) (a : Answers) :
    (s.startPrefetchNextItem direction force execution a).intention = s.intention ∧
      (s.startPrefetchNextItem direction force execution a).findNextOp = s.findNextOp := by
  unfold Control.startPrefetchNextItem
  split
  · exact ⟨rfl, rfl⟩
  · cases execution with
    | now => exact ⟨rfl, rfl⟩
    | delayed => exact ⟨rfl, rfl⟩

theorem Inv.startPrefetchNextItem {s : Control} (h : s.Inv) (direction : Direction)
    (force : Bool) (execution : Execution) (a : Answers) :
    (s.startPrefetchNextItem direction force execution a).Inv := by
  obtain ⟨hintention, hfind⟩ := s.startPrefetchNextItem_same direction force execution a
  exact h.of_same (h.tracked.startPrefetchNextItem direction force execution a) hintention hfind

theorem Inv.runGetUris {s : Control} (h : s.Inv) (hattached : s.IsAttached) {purpose : Purpose}
    (hpurpose : purpose.isUris = true) (direction : Direction) (a : Answers) :
    (s.runGetUris purpose direction a).Inv :=
  h.of_same (h.tracked.runGetUris direction a hattached hpurpose) rfl rfl

/-! ## What is found -/

/-- `found_item_for_playing` gives up the pointer, wherever it leads to. -/
theorem Inv.foundItemForPlaying {s : Control}
    (h : ({ s with prefetchNextItemOp := none } : Control).Inv) (hcrawler : s.crawlerHandle = true)
    (i : OpId) (a : Answers) : (s.foundItemForPlaying i a).Inv := by
  unfold Control.foundItemForPlaying
  dsimp only
  split
  · exact h
  · next hgoing =>
    simp only [Bool.or_eq_true, Bool.not_eq_true', not_or, Bool.not_eq_false] at hgoing
    split
    · refine Inv.finished ?_ .playing a
      exact .of_not_skipping h.tracked.resetSkipper.setIntentionAfterSkipping
        (setIntentionAfterSkipping_isSkipping _)
    · exact h.runGetUris ⟨hgoing.2, hcrawler⟩ rfl _ a

theorem Inv.foundPrefetchedItem {s : Control} {i : OpId}
    (hcanceled : (s.ops.op i).isOpCanceled = true → s.Inv)
    (h : ({ s with prefetchNextItemOp := none } : Control).Inv) (hcrawler : s.crawlerHandle = true)
    (force : Bool) (a : Answers) : (s.foundPrefetchedItem i force a).Inv := by
  unfold Control.foundPrefetchedItem
  dsimp only
  split
  · next hyes => exact hcanceled hyes
  · split
    · exact h
    · next hgoing =>
      simp only [Bool.or_eq_true, Bool.not_eq_true', not_or, Bool.not_eq_false] at hgoing
      split
      · split
        · exact h.runGetUris ⟨hgoing.2, hcrawler⟩ rfl _ a
        · exact h
      · exact h
      · split
        · refine Inv.startPrefetchNextItem ?_ .forward false .delayed a
          exact h.of_same (h.tracked.of_same rfl rfl rfl id) rfl rfl
        · exact h
      · split
        · exact h.finished .prefetching a
        · exact h

/-- The operation that gets the URIs may be forgotten. -/
theorem Inv.forgetUris {s : Control} (h : s.Inv) (i : OpId) :
    (if s.prefetchUrisOp = some i then { s with prefetchUrisOp := none } else s : Control).Inv := by
  split
  · exact h.of_same (h.tracked.giveUp (.inr rfl) (.inl rfl) (.inr rfl)) rfl rfl
  · exact h

theorem Inv.foundPrefetchedItemUris {s : Control} (h : s.Inv) (i : OpId) (force : Bool)
    (a : Answers) : (s.foundPrefetchedItemUris i force a).Inv := by
  have hforgotten := h.forgetUris i
  unfold Control.foundPrefetchedItemUris
  dsimp only
  generalize (if s.prefetchUrisOp = some i then { s with prefetchUrisOp := none } else s) = t
    at hforgotten ⊢
  split
  · exact h
  · split
    · exact hforgotten
    · split
      · exact hforgotten.startPrefetchNextItem _ _ _ a
      · split
        · exact hforgotten
        · exact hforgotten
        · split
          · exact hforgotten.startPrefetchNextItem _ _ _ a
          · exact hforgotten
        · split
          · exact hforgotten.startPrefetchNextItem _ _ _ a
          · exact hforgotten
        · split
          · exact hforgotten.startPrefetchNextItem _ _ _ a
          · exact hforgotten
        · split
          · exact hforgotten.startPrefetchNextItem _ _ _ a
          · exact hforgotten

/-! ## Skipping -/

/-- What comes of a skip request: nothing changes, or this is the first skip request, and an
operation is made for it and started or not.  There are never any pending requests. -/
theorem skipperRequest_cases (s : Control) (hpending : s.pendingSkipRequests = 0)
    (hcrawler : s.crawlerHandle = true) (direction : Direction)
    (previousIntention : UserIntention) (a : Answers) :
    (∃ result, s.skipperRequest direction previousIntention a = (result, s)) ∨
    (s.findNextOp = none ∧ ∃ intention r,
      setIntentionForSkipping s.intention = some intention ∧
      r = ({ s with intention := intention }.cancelPrefetchOps).runNew
        (.skip previousIntention) direction a ∧
      ((∃ i, r.1 = some i ∧ s.skipperRequest direction previousIntention a =
          (.firstSkipRequestPending, { r.2 with findNextOp := some i })) ∨
        (r.1 = none ∧ s.skipperRequest direction previousIntention a =
          (.failed, r.2.resetSkipper)))) := by
  unfold skipperRequest
  by_cases hpos : (!a.hasReferencePosition) = true
  · rw [if_pos hpos]
    exact .inl ⟨_, rfl⟩
  by_cases hreject : s.shouldRejectSkipRequest a = true
  · rw [if_neg hpos, if_pos hreject]
    exact .inl ⟨_, rfl⟩
  rw [if_neg hpos, if_neg hreject, if_neg (not_not.mpr hpending)]
  by_cases hfind : s.findNextOp.isSome = true
  · rw [if_pos hfind]
    exact .inl ⟨_, rfl⟩
  rw [if_neg hfind]
  cases hintention : setIntentionForSkipping s.intention with
  | none => exact .inl ⟨_, rfl⟩
  | some intention =>
    refine .inr ⟨Option.not_isSome_iff_eq_none.mp hfind, intention, _, rfl, rfl, ?_⟩
    have hrun : ({ s with intention := intention } : Control).runNewFindNext previousIntention
        direction a = ({ s with intention := intention }.cancelPrefetchOps).runNew
          (.skip previousIntention) direction a := if_pos hcrawler
    dsimp only
    rw [hrun]
    generalize ({ s with intention := intention }.cancelPrefetchOps).runNew
      (.skip previousIntention) direction a = r
    obtain ⟨o, t⟩ := r
    cases o with
    | some i => exact .inl ⟨i, rfl, rfl⟩
    | none => exact .inr ⟨rfl, rfl⟩

/-- A skip request is ignored, but for the direction of prefetching; or there was no skip
and now there is one; or it cannot be started, and nothing is being prefetched any more. -/
theorem skipRequest_cases (s : Control) (hpending : s.pendingSkipRequests = 0)
    (direction : Direction) (isPermitted : LocalPermissions → Bool) (a : Answers) :
    s.skipRequest direction isPermitted a = s ∨
    s.skipRequest direction isPermitted a =
      { s with prefetchDirectionAfterFailure := direction } ∨
    (s.findNextOp = none ∧ s.IsAttached ∧ ∃ intention t r,
      setIntentionForSkipping s.intention = some intention ∧
      t = { s with prefetchDirectionAfterFailure := direction, intention := intention } ∧
      r = t.cancelPrefetchOps.runNew (.skip s.intention) direction a ∧
      ((∃ i, r.1 = some i ∧
          s.skipRequest direction isPermitted a = { r.2 with findNextOp := some i }) ∨
        (r.1 = none ∧ s.skipRequest direction isPermitted a =
          { r.2.resetSkipper with intention := s.intention }))) := by
  unfold skipRequest
  split
  · exact .inl rfl
  · next hgoing =>
    simp only [Bool.or_eq_true, Bool.not_eq_true', not_or, Bool.not_eq_false,
      decide_eq_true_eq] at hgoing
    obtain ⟨⟨⟨⟨⟨hdata, hcrawler⟩, -⟩, -⟩, -⟩, -⟩ := hgoing
    have hcases := skipperRequest_cases { s with prefetchDirectionAfterFailure := direction }
      hpending hcrawler direction s.intention a
    rcases hcases with ⟨result, heq⟩ | ⟨hnull, intention, r, hintention, hr, hrun⟩
    · refine .inr (.inl ?_)
      rw [heq]
      cases result with
      | rejected => rfl
      | firstSkipRequestPending => rfl
      | firstSkipRequestSuppressed => rfl
      | skipping => rfl
      | backToNormal => rfl
      | failed => rfl
    · refine .inr (.inr ⟨hnull, ⟨hdata, hcrawler⟩, intention, _, r, hintention, rfl, hr, ?_⟩)
      rcases hrun with ⟨i, hi, heq⟩ | ⟨hnone, heq⟩
      · refine .inl ⟨i, hi, ?_⟩
        rw [heq]
      · refine .inr ⟨hnone, ?_⟩
        rw [heq]

theorem Inv.skipRequest {s : Control} (h : s.Inv) (direction : Direction)
    (isPermitted : LocalPermissions → Bool) (a : Answers) :
    (s.skipRequest direction isPermitted a).Inv := by
  rcases s.skipRequest_cases h.tracked.1 direction isPermitted a with heq | heq | hstart
  · rw [heq]
    exact h
  · rw [heq]
    exact h.of_same (h.tracked.of_same rfl rfl rfl id) rfl rfl
  · obtain ⟨hnull, hattached, intention, t, r, -, rfl, rfl, hrun⟩ := hstart
    have hbefore := h.not_skipping_of_null hnull
    have hcaptured : ∀ previousIntention, Purpose.skip s.intention = .skip previousIntention →
        previousIntention.isSkipping = false := by
      rintro _ ⟨⟩
      exact hbefore
    have htracked := (h.tracked.of_same (t := { s with
        prefetchDirectionAfterFailure := direction
        intention := intention }) rfl rfl rfl id).cancelPrefetchOps
    rcases hrun with ⟨i, hi, heq⟩ | ⟨hnone, heq⟩
    · rw [heq]
      exact ⟨htracked.runNew_skipper direction a hattached hcaptured rfl hi, fun _ => rfl⟩
    · rw [heq]
      refine .of_not_skipping ?_ hbefore
      exact (htracked.runNew direction a hattached hcaptured).resetSkipper.of_same rfl rfl rfl id

theorem Inv.foundItemUrisForPlaying {s : Control} (h : s.Inv) (i : OpId) (a : Answers) :
    (s.foundItemUrisForPlaying i a).Inv := by
  have hforgotten := h.forgetUris i
  unfold Control.foundItemUrisForPlaying
  dsimp only
  generalize (if s.prefetchUrisOp = some i then { s with prefetchUrisOp := none } else s) = t
    at hforgotten ⊢
  split
  · exact h
  · split
    · exact hforgotten
    · split
      · split
        · split
          · exact hforgotten.skipRequest .forward _ a
          · exact hforgotten.skipRequest .backward _ a
          · exact hforgotten
        · exact hforgotten
      · split
        · exact hforgotten
        · exact hforgotten
        · split
          · exact hforgotten.startPrefetchNextItem _ _ _ a
          · exact hforgotten
        · split
          · exact hforgotten.startPrefetchNextItem _ _ _ a
          · exact hforgotten
        · exact hforgotten
        · exact hforgotten

/-- `done_fn`, for an operation that has not been cancelled. -/
theorem skipDone_of_held {s : Control} (hattached : s.IsAttached) {i : OpId}
    (hcanceled : (s.ops.op i).isOpCanceled = false) (previousIntention : UserIntention)
    (a : Answers) :
    s.skipDone previousIntention (some i) a =
      if isSkipFound (s.ops.op i) then
        some ({ s with
          intention := previousIntention
          ops := s.ops.cancel s.prefetchNextItemOp
          prefetchNextItemOp := none }.foundItemForPlaying i a)
      else { s with intention := previousIntention }.jumpBackToCurrentlyPlaying a := by
  have hgoing : ¬(!s.playerData || !s.crawlerHandle) = true := by
    rw [hattached.1, hattached.2]
    exact Bool.false_ne_true
  unfold skipDone
  rw [if_neg hgoing]
  dsimp only
  rw [if_neg (Bool.eq_false_iff.mp hcanceled)]

/-- The operation that jumps back is the skipper's, if it can be started. -/
theorem Tracked.jumpBackToCurrentlyPlaying {s t : Control} (h : s.Tracked)
    (hattached : s.IsAttached) {a : Answers} (ht : s.jumpBackToCurrentlyPlaying a = some t) :
    t.Tracked ∧ t.intention = s.intention := by
  unfold Control.jumpBackToCurrentlyPlaying at ht
  dsimp only at ht
  split at ht
  · cases ht
    have hcaptured : ∀ previousIntention, Purpose.jumpBack = .skip previousIntention →
        previousIntention.isSkipping = false := by
      intro _ heq
      cases heq
    refine ⟨?_, rfl⟩
    cases hrun : (s.resetSkipper.runNew .jumpBack .none a).1 with
    | none =>
      have hran := h.resetSkipper.runNew .none a hattached hcaptured
      exact hran.giveUp (.inr rfl) (.inr rfl) (.inl rfl)
    | some j => exact h.resetSkipper.runNew_skipper .none a hattached hcaptured rfl hrun
  · cases ht

/-- `done_fn` is called by a skipper that has been reset already, with the operation it has
had. -/
theorem Inv.skipDone {s t : Control} (h : s.Tracked)
    {previousIntention : UserIntention} (hprevious : previousIntention.isSkipping = false)
    {op : Option OpId} (hheld : ∀ i, op = some i →
      s.IsAttached ∧ (s.ops.op i).isOpCanceled = false)
    (hskipping : s.intention.isSkipping = true → op.isSome = true) {a : Answers}
    (ht : s.skipDone previousIntention op a = some t) : t.Inv := by
  cases op with
  | none =>
    have hbefore : s.intention.isSkipping = false :=
      Bool.eq_false_iff.mpr fun hyes => absurd (hskipping hyes) Bool.false_ne_true
    unfold Control.skipDone at ht
    split at ht
    · cases ht
      exact .of_not_skipping h hbefore
    · cases ht
  | some i =>
    obtain ⟨hattached, hcanceled⟩ := hheld i rfl
    rw [skipDone_of_held hattached hcanceled] at ht
    have hrestored : ({ s with intention := previousIntention } : Control).Tracked :=
      h.of_same rfl rfl rfl id
    split at ht
    · cases ht
      refine Inv.foundItemForPlaying ?_ ?_ i a
      · exact .of_not_skipping hrestored.cancelPrefetchNextItemOp hprevious
      · exact hattached.2
    · obtain ⟨htracked, hintention⟩ := hrestored.jumpBackToCurrentlyPlaying hattached ht
      refine .of_not_skipping htracked ?_
      rw [hintention]
      exact hprevious

/-- No skip requests are pending when the operation of the skipper has completed. -/
theorem foundOrFailed_eq {s : Control} (hpending : s.pendingSkipRequests = 0) (i : OpId)
    (previousIntention : UserIntention) (a : Answers) :
    s.foundOrFailed i previousIntention a = s.skipperDone previousIntention a := by
  have hsame : ({ s with pendingSkipRequests := 0 } : Control) = s :=
    congrArg (fun n => ({ s with pendingSkipRequests := n } : Control)) hpending.symm
  unfold foundOrFailed
  dsimp only
  rw [hpending, ite_self, if_pos rfl, hsame, ite_self]

theorem Inv.skipperDone {s t : Control} (h : ({ s with findNextOp := none } : Control).Tracked)
    {previousIntention : UserIntention} (hprevious : previousIntention.isSkipping = false)
    (hheld : ∀ i, s.findNextOp = some i → s.IsAttached ∧ (s.ops.op i).isOpCanceled = false)
    (hskipping : s.intention.isSkipping = true → s.findNextOp.isSome = true) {a : Answers}
    (ht : s.skipperDone previousIntention a = some t) : t.Inv :=
  Inv.skipDone h.resetSkipper hprevious hheld hskipping ht

end Control

/-! ## Requests and notifications -/

/-- Running an operation that has just been made for playing. -/
theorem ControlOp.IsUnused.run {o : ControlOp} (h : o.IsUnused) (hok : o.IsOk)
    (hpurpose : o.purpose = .playing) (started : Bool) :
    (({ o with isContained := true } : ControlOp).start started).2.IsOk ∧
      (({ o with isContained := true } : ControlOp).start started).2.purpose = .playing ∧
      ((({ o with isContained := true } : ControlOp).start started).1 = true →
        (({ o with isContained := true } : ControlOp).start started).2.IsHeld) := by
  obtain ⟨hsame, -, -, hdelayed⟩ :=
    ({ o with isContained := true } : ControlOp).start_same started
  rcases ({ o with isContained := true } : ControlOp).start_cases started with
    ⟨-, -, heq⟩ | ⟨hno, hremoved, hfilter⟩
  · rw [heq]
    refine ⟨⟨hok.filter, fun _ => h.callback, fun _ => ?_, hok.captured,
      fun hdelayed => absurd h.delayed hdelayed, fun _ => nofun⟩, hpurpose, fun _ => ⟨rfl, ?_⟩⟩
    · rw [show o.isCompleted = false from h.notCompleted]
      refine iff_of_false Bool.false_ne_true ?_
      rintro (hdone | hfailed | hcanceled)
      · cases hdone
      · cases hfailed
      · cases hcanceled
    · exact ControlOp.isOpCanceled_eq_false.mpr ⟨nofun, nofun, h.notCanceled⟩
  · refine ⟨.of_gone (hfilter.trans hok.filter) ?_ hremoved (hdelayed.trans h.delayed),
      hsame.trans hpurpose, fun hyes => absurd (hno.symm.trans hyes) Bool.false_ne_true⟩
    rw [hsame]
    exact hok.captured

namespace Control

/-- An operation that has been passed with a play request. -/
structure Passed (s : Control) (i : OpId) : Prop where
  unused : (s.ops.op i).IsUnused
  purpose : (s.ops.op i).purpose = .playing
  allocated : i < s.ops.next
  none : s.pointers.NoneTo i

/-- The operation passed with a play request is run. -/
theorem Tracked.runPassed {s : Control} (h : s.Tracked) (hattached : s.IsAttached) {i : OpId}
    (hi : s.Passed i) (started : Bool) :
    ({ s with
      ops := (s.ops.runNow i started).2
      prefetchNextItemOp := if (s.ops.runNow i started).1 then some i else none } :
        Control).Tracked := by
  obtain ⟨hok, hpurpose, hheld⟩ :=
    hi.unused.run (h.2 i).ok hi.purpose started
  have hop : (s.ops.runNow i started).2.op i =
      (({ s.ops.op i with isContained := true } : ControlOp).start started).2 :=
    s.ops.modify_op_self i fun _ =>
      (({ s.ops.op i with isContained := true } : ControlOp).start started).2
  refine ⟨h.1, fun j => ?_⟩
  by_cases hj : j = i
  · subst hj
    have hnone := hi.none
    refine ⟨?_, fun hnext => absurd (Nat.lt_of_lt_of_le hi.allocated hnext) (Nat.lt_irrefl _),
      fun _ => hattached, fun hp => ?_, fun hu => absurd hu hnone.uris,
      fun hf => absurd hf hnone.find, fun hw => ?_, fun hs => absurd hs hnone.saved⟩
    · rw [hop]
      exact hok
    · rw [hop, hpurpose]
      refine ⟨hheld ?_, rfl⟩
      change (if (s.ops.runNow j started).1 then some j else none) = some j at hp
      split at hp
      · assumption
      · cases hp
    · have hprefetch := (h.2 j).waiting hw
      rw [hi.purpose] at hprefetch
      cases hprefetch
  · have hother := s.ops.modify_op_of_ne hj fun _ =>
      (({ s.ops.op i with isContained := true } : ControlOp).start started).2
    refine (h.2 j).frame { op := hother, prefetch := ?_ }
    change (if (s.ops.runNow i started).1 then some i else none) = some j → _
    split
    · exact fun heq => absurd (Option.some.inj heq).symm hj
    · exact nofun

/-- The operation passed with a play request is kept until the audio source is selected. -/
theorem Tracked.save {s : Control} (h : s.Tracked) {o : Option OpId}
    (ho : ∀ i, o = some i → s.Passed i) :
    ({ s with audioSourceSelectedFindOp := o } : Control).Tracked := by
  refine ⟨h.1, fun i => ?_⟩
  have hsaved : o = some i → (s.ops.op i).IsUnused ∧ (s.ops.op i).purpose = .playing :=
    fun heq => ⟨(ho i heq).unused, (ho i heq).purpose⟩
  refine ⟨(h.2 i).ok, fun hnext => ?_, (h.2 i).attached, (h.2 i).prefetch, (h.2 i).uris,
    (h.2 i).find, (h.2 i).waiting, hsaved⟩
  obtain ⟨hwaiting, hnone⟩ := (h.2 i).fresh hnext
  refine ⟨hwaiting, hnone.prefetch, hnone.uris, hnone.find, fun heq => ?_⟩
  exact absurd (Nat.lt_of_lt_of_le (ho i heq).allocated hnext) (Nat.lt_irrefl _)

/-- Nothing else points to the operation that is kept. -/
theorem Tracked.noneTo_of_saved {s : Control} (h : s.Tracked) {i : OpId}
    (hi : s.audioSourceSelectedFindOp = some i) :
    ({ s with audioSourceSelectedFindOp := none } : Control).pointers.NoneTo i := by
  obtain ⟨hunused, hpurpose⟩ := (h.2 i).saved hi
  have hnot : ¬(s.ops.op i).IsHeld := fun hheld =>
    Bool.false_ne_true (hunused.notContained.symm.trans hheld.1)
  refine ⟨fun hp => hnot ((h.2 i).prefetch hp).1, fun hu => ?_,
    fun hf => hnot ((h.2 i).find hf).1, nofun⟩
  have huris := (h.2 i).uris hu
  rw [hpurpose] at huris
  cases huris

theorem Tracked.passed_of_saved {s : Control} (h : s.Tracked) {i : OpId}
    (hi : s.audioSourceSelectedFindOp = some i) :
    ({ s with audioSourceSelectedFindOp := none } : Control).Passed i where
  unused := ((h.2 i).saved hi).1
  purpose := ((h.2 i).saved hi).2
  allocated := by
    by_contra hnot
    exact ((h.2 i).fresh (Nat.le_of_not_lt hnot)).2.saved hi
  none := h.noneTo_of_saved hi

theorem Inv.playRequest {s t : Control} (h : s.Inv) {findOp : Option OpId}
    (hfindOp : ∀ i, findOp = some i → s.Passed i) {a : Answers}
    (ht : s.playRequest findOp a = some t) : t.Inv := by
  unfold Control.playRequest at ht
  split at ht
  · cases ht
    exact h
  · next hgoing =>
    simp only [Bool.or_eq_true, Bool.not_eq_true', not_or, Bool.not_eq_false] at hgoing
    split at ht
    · cases ht
      exact h
    · cases ht
      exact h
    · cases ht
      exact .of_not_skipping ((h.tracked.save hfindOp).of_same rfl rfl rfl id) rfl
    · have hlistening : ({ s with intention := .listening } : Control).Tracked :=
        h.tracked.of_same rfl rfl rfl id
      cases findOp with
      | none =>
        cases ht
        exact .of_not_skipping hlistening rfl
      | some i =>
        dsimp only at ht
        split at ht
        · next hcrawler =>
          cases ht
          obtain ⟨hunused, hpurpose, hallocated, hnone⟩ := hfindOp i rfl
          exact .of_not_skipping (hlistening.runPassed ⟨hgoing.2, hcrawler⟩
            ⟨hunused, hpurpose, hallocated, hnone⟩ a.started) rfl
        · cases ht

/-- A play request with a new operation. -/
theorem Inv.playRequest_make {s t : Control} (h : s.Inv) (direction : Direction) {a : Answers}
    (ht : ({ s with ops := s.ops.make .playing direction } : Control).playRequest
      (some s.ops.next) a = some t) : t.Inv := by
  have hok : ControlOp.IsOk { purpose := .playing, direction := direction } :=
    ⟨rfl, nofun, nofun, nofun, fun hdelayed => absurd rfl hdelayed, nofun⟩
  have hmade : ({ s with ops := s.ops.make .playing direction } : Control).Tracked :=
    ⟨h.tracked.1, h.tracked.add hok nofun (.inl rfl) (.inl rfl) (.inl rfl) (.inl rfl)⟩
  refine Inv.playRequest (h.of_same hmade rfl rfl) ?_ ht
  rintro _ ⟨⟩
  have hnew : (s.ops.make .playing direction).op s.ops.next =
      { purpose := .playing, direction := direction } := s.ops.add_op_next _
  refine ⟨?_, ?_, Nat.lt_succ_self _, ((h.tracked.2 s.ops.next).fresh (Nat.le_refl _)).2⟩
  · rw [hnew]
    exact ⟨rfl, rfl, rfl, rfl, rfl, rfl⟩
  · rw [hnew]

theorem Inv.setIntentionByRequest {s : Control} (h : s.Inv) {intention : UserIntention}
    (hintention : intention.isSkipping = false) : (s.setIntentionByRequest intention).Inv := by
  have hset : ({ s with intention := intention } : Control).Inv :=
    .of_not_skipping (h.tracked.of_same rfl rfl rfl id) hintention
  unfold Control.setIntentionByRequest
  split
  · exact h
  · exact h
  · split
    · exact hset
    · exact h
  · split
    · exact hset
    · exact h

theorem Inv.pauseRequest {s : Control} (h : s.Inv) : s.pauseRequest.Inv := by
  unfold Control.pauseRequest
  split
  · exact h.setIntentionByRequest rfl
  · exact h

theorem Inv.deselectAudioSource {s : Control} (h : s.Inv) : s.deselectAudioSource.Inv := by
  have hforgotten : ({ s with audioSourceSelectedFindOp := none } : Control).Tracked :=
    h.tracked.save nofun
  have hcanceled := hforgotten.cancel fun _ hi => h.tracked.noneTo_of_saved hi
  exact h.of_same (hcanceled.of_same rfl rfl rfl id) rfl rfl

theorem Inv.sourceDeselectedNotification {s : Control} (h : s.Inv) :
    s.sourceDeselectedNotification.Inv := by
  unfold Control.sourceDeselectedNotification
  split
  · exact h.deselectAudioSource
  · exact h

theorem Inv.sourceSelectedNotification {s t : Control} (h : s.Inv) {isOurs isOnHold : Bool}
    {a : Answers} (ht : s.sourceSelectedNotification isOurs isOnHold a = some t) : t.Inv := by
  unfold Control.sourceSelectedNotification at ht
  split at ht
  · cases ht
    exact h
  · next state _ =>
    split at ht
    · have hselected : ({ s with
          audioSource := some (if state = .requested then .selected else state) } :
            Control).Inv := h.of_same (h.tracked.of_same rfl rfl rfl id) rfl rfl
      dsimp only at ht
      split at ht
      · cases ht
        exact hselected
      · split at ht
        · cases ht
          exact hselected
        · cases ht
          exact hselected
        · cases ht
          exact hselected
        · refine Inv.playRequest ?_ ?_ ht
          · exact hselected.of_same (hselected.tracked.save nofun) rfl rfl
          · exact fun i hi => hselected.tracked.passed_of_saved hi
        · cases ht
          exact hselected.setIntentionByRequest rfl
        · cases ht
          exact hselected.pauseRequest
    · cases ht
      exact h.deselectAudioSource

theorem Inv.nowPlayingNotification {s : Control} (h : s.Inv) (isNewStream isQueueFull : Bool)
    (a : Answers) : (s.nowPlayingNotification isNewStream isQueueFull a).Inv := by
  have hlistening :
      (if isNewStream then { s with intention := .listening } else s : Control).Inv := by
    split
    · exact .of_not_skipping (h.tracked.of_same rfl rfl rfl id) rfl
    · exact h
  unfold Control.nowPlayingNotification
  dsimp only
  generalize (if isNewStream then { s with intention := .listening } else s : Control) = u
    at hlistening ⊢
  have hdirection : (if isNewStream && u.playerData && u.crawlerHandle &&
      decide (u.prefetchDirectionAfterFailure = .backward) then
      { u with prefetchDirectionAfterFailure := .forward } else u : Control).Inv := by
    split
    · exact hlistening.of_same (hlistening.tracked.of_same rfl rfl rfl id) rfl rfl
    · exact hlistening
  generalize (if isNewStream && u.playerData && u.crawlerHandle &&
      decide (u.prefetchDirectionAfterFailure = .backward) then
      { u with prefetchDirectionAfterFailure := .forward } else u : Control) = v
    at hdirection ⊢
  split
  · exact hdirection.startPrefetchNextItem .forward false .delayed a
  · exact hdirection

theorem Inv.streamStoppedNotification {s : Control} (h : s.Inv) (reaction : StopReaction)
    (isItemNeeded : Bool) (a : Answers) :
    (s.streamStoppedNotification reaction isItemNeeded a).Inv := by
  cases reaction with
  | notAttached => exact h.playerFinished .playing false a.playerState
  | streamIgnored => exact h.playerFinished .playing false a.playerState
  | stopped => exact h.playerFinished .playing true a.playerState
  | queued => exact h
  | retry => exact h
  | takeNext =>
    unfold Control.streamStoppedNotification
    dsimp only
    split
    · exact h.startPrefetchNextItem _ true .now a
    · exact h

end Control

end Drcpd.Player

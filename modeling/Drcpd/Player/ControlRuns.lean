/-
  Player/ControlRuns.lean --- prefetching and skipping over whole runs.

  `Control::prefetch_next_item_op_` and `Skipper::find_next_op_` gate all prefetching and
  all skipping.  Operations that are cancelled do not call back, so that whoever cancels an
  operation, or loses it in another way, has to reset the pointer to it, and the intention
  with it.  There are two kinds of steps which forget about this; they are the ones that do
  not fit.
-/
import Drcpd.Foundation.Run
import Drcpd.Player.ControlSteps

set_option autoImplicit false

namespace Drcpd.Player

open Crawler (Direction OpId)
open Foundation (AlongRun runFrom alongRun_iff)

/-- The completion callback of the operation is still to come: the operation waits for its
timer, or is running, or is in the event that is going to be processed. -/
structure ControlOp.IsToCome (o : ControlOp) : Prop where
  contained : o.isContained = true
  notCanceled : o.isOpCanceled = false
  callback : o.base.hasCompletionCallback = true
  underWay : (o.base.state = .notStarted ∧ o.delayed = some true) ∨ o.base.state = .running ∨
    ((o.base.state = .done ∨ o.base.state = .failed) ∧ o.isCompleted = true)

theorem ControlOp.IsHeld.isToCome {o : ControlOp} (h : o.IsHeld) (hok : o.IsOk) :
    o.IsToCome where
  contained := h.1
  notCanceled := h.2
  callback := hok.callback h.1
  underWay := by
    obtain ⟨hcanceling, hcanceled, -⟩ := isOpCanceled_eq_false.mp h.2
    have hcompleted := hok.completed h.1
    cases hstate : o.base.state with
    | notStarted => exact .inl ⟨rfl, hok.waiting h.1 hstate⟩
    | running => exact .inr (.inl rfl)
    | done => exact .inr (.inr ⟨.inl rfl, hcompleted.mpr (.inl hstate)⟩)
    | failed => exact .inr (.inr ⟨.inr rfl, hcompleted.mpr (.inr (.inl hstate))⟩)
    | canceling => exact absurd hstate hcanceling
    | canceled => exact absurd hstate hcanceled

namespace Control

/-- The operations prefetching and skipping wait for are still to come, and the intention
to skip is backed by an operation. -/
structure Sound (s : Control) : Prop where
  prefetch : ∀ i, s.prefetchNextItemOp = some i → (s.ops.op i).IsToCome
  find : ∀ i, s.findNextOp = some i → (s.ops.op i).IsToCome
  skipping : s.intention.isSkipping = true → s.findNextOp.isSome = true

theorem Inv.sound {s : Control} (h : s.Inv) : s.Sound where
  prefetch := fun i hi => ((h.tracked.2 i).prefetch hi).1.isToCome (h.tracked.2 i).ok
  find := fun i hi => ((h.tracked.2 i).find hi).1.isToCome (h.tracked.2 i).ok
  skipping := h.skipping

/-- The step is none of those after which there is an intention to skip, but no skipping:
nothing is plugged while skipping, and we are not skipping when an operation that jumps back
has completed. -/
def Fits (s : Control) : ControlEvent → Prop
  | .plugCrawler _ _ | .plugPermissions _ => s.intention.isSkipping = false
  | .complete i _ =>
      (s.ops.op i).purpose = .jumpBack → (s.ops.op i).complete.1 = true →
        s.intention.isSkipping = false
  | .plugAudioSource _ | .plugData | .unplug _ | .playRequest _ _ | .stopRequest
  | .pauseRequest | .skipForwardRequest _ | .skipBackwardRequest _
  | .startPrefetchNextItem _ _ _ _ | .sourceSelected _ _ _ | .sourceDeselected
  | .nowPlaying _ _ _ | .streamStopped _ _ _ | .timer _ | .finish _ _ => True

/-! ## One step -/

/-- An operation that is pointed to calls back when its event is processed. -/
theorem complete_of_held {o : ControlOp} (h : o.IsHeld) (hok : o.IsOk)
    (hcompleted : o.isCompleted = true) : o.complete.1 = true := by
  obtain ⟨-, -, -, -, -, hcalled⟩ := hok.complete
  obtain ⟨-, hcanceled, -⟩ := ControlOp.isOpCanceled_eq_false.mp h.2
  refine hcalled.mpr ⟨h.1, ?_⟩
  rcases (hok.completed h.1).mp hcompleted with hdone | hfailed | hnot
  · exact .inl hdone
  · exact .inr hfailed
  · exact absurd hnot hcanceled

section Complete

variable {s : Control} {i : OpId}

/-- The player control after the operation has been removed. -/
def completed (s : Control) (i : OpId) : Control :=
  { s with ops := s.ops.modify i fun o => o.complete.2 }

/-- The operation a pointer leads to is not cancelled, even if it has just been removed. -/
theorem completed_isOpCanceled (h : s.Inv) {j : OpId} (hj : s.findNextOp = some j) :
    s.IsAttached ∧ ((s.completed i).ops.op j).isOpCanceled = false := by
  have hheld := ((h.tracked.2 j).find hj).1
  refine ⟨h.tracked.isAttached_of_find hj, ?_⟩
  unfold completed
  by_cases heq : j = i
  · subst heq
    obtain ⟨-, -, -, hcanceled, -⟩ := (h.tracked.2 j).ok.complete
    rw [s.ops.modify_op_self]
    exact hcanceled.trans hheld.2
  · rw [s.ops.modify_op_of_ne heq]
    exact hheld.2

/-- An operation that does not call back is one that nobody waits for. -/
theorem Inv.completed (h : s.Inv) (hp : s.prefetchNextItemOp ≠ some i)
    (hf : s.findNextOp ≠ some i) : (s.completed i).Inv :=
  h.of_same (h.tracked.complete (.inr rfl) hp (.inr rfl) hf) rfl rfl

/-- An operation that was to find an item is given up. -/
theorem Inv.completed_find (h : s.Inv) (hf : s.findNextOp ≠ some i) :
    ({ s.completed i with prefetchNextItemOp := none } : Control).Inv :=
  h.of_same (h.tracked.complete (.inl rfl) nofun (.inr rfl) hf) rfl rfl

/-- An operation of the skipper is given up. -/
theorem Inv.completed_skipper (h : s.Inv) (hp : s.prefetchNextItemOp ≠ some i) :
    ({ s.completed i with findNextOp := none } : Control).Tracked :=
  h.tracked.complete (.inr rfl) hp (.inl rfl) nofun

/-- The completion callback of an operation of the skipper. -/
theorem Inv.completed_resetSkipper (h : s.Inv) (hp : s.prefetchNextItemOp ≠ some i) :
    (s.completed i).resetSkipper.Tracked := by
  have hcanceled := (h.completed_skipper hp).cancel fun _ hj => h.tracked.noneTo_of_findNext hj
  exact ⟨rfl, hcanceled.2⟩

end Complete

theorem operationComplete_eq (s : Control) (i : OpId) (a : Answers) :
    s.operationComplete i a =
      if (s.ops.op i).complete.1 then (s.completed i).completionCallback i a
      else some (s.completed i) := rfl

theorem Inv.operationComplete {s t : Control} (h : s.Inv) {i : OpId} {a : Answers}
    (hfits : s.Fits (.complete i a)) (hcompleted : (s.ops.op i).isCompleted = true)
    (ht : s.operationComplete i a = some t) : t.Inv := by
  have hok := (h.tracked.2 i).ok
  obtain ⟨-, -, -, hcanceled, -, hcalled⟩ := hok.complete
  have hop : (s.completed i).ops.op i = (s.ops.op i).complete.2 :=
    s.ops.modify_op_self i fun o => o.complete.2
  have hpurpose : ((s.completed i).ops.op i).purpose = (s.ops.op i).purpose := by
    rw [hop, (s.ops.op i).complete_purpose]
  rw [operationComplete_eq] at ht
  split at ht
  · next hcall =>
    have hattached : s.IsAttached := (h.tracked.2 i).attached (hcalled.mp hcall).1
    unfold completionCallback at ht
    rw [hpurpose] at ht
    -- each kind of operation is pointed to by one pointer only
    have hfind : (s.ops.op i).purpose.isSkipper = false → s.findNextOp ≠ some i :=
      fun hno hf => Bool.false_ne_true (hno.symm.trans ((h.tracked.2 i).find hf).2)
    have hprefetch : (s.ops.op i).purpose.isFind = false → s.prefetchNextItemOp ≠ some i :=
      fun hno hp => Bool.false_ne_true (hno.symm.trans ((h.tracked.2 i).prefetch hp).2)
    cases hkind : (s.ops.op i).purpose with
    | skip previousIntention =>
      rw [hkind] at ht hprefetch
      dsimp only at ht
      rw [foundOrFailed_eq (s := s.completed i) h.tracked.1] at ht
      exact Inv.skipperDone (h.completed_skipper (hprefetch rfl)) (hok.captured _ hkind)
        (fun j hj => completed_isOpCanceled h hj) h.skipping ht
    | jumpBack =>
      rw [hkind] at ht hprefetch
      cases ht
      exact .of_not_skipping (h.completed_resetSkipper (hprefetch rfl)) (hfits hkind hcall)
    | playing =>
      rw [hkind] at ht hfind
      cases ht
      exact Inv.foundItemForPlaying (h.completed_find (hfind rfl)) hattached.2 i a
    | prefetch force =>
      rw [hkind] at ht hfind
      cases ht
      refine Inv.foundPrefetchedItem (fun hyes => ?_) (h.completed_find (hfind rfl)) hattached.2
        force a
      rw [hop, hcanceled] at hyes
      refine h.completed (fun hp => ?_) (hfind rfl)
      exact Bool.false_ne_true (((h.tracked.2 i).prefetch hp).1.2.symm.trans hyes)
    | urisForPlaying =>
      rw [hkind] at ht hfind hprefetch
      cases ht
      exact (h.completed (hprefetch rfl) (hfind rfl)).foundItemUrisForPlaying i a
    | prefetchedUris force =>
      rw [hkind] at ht hfind hprefetch
      cases ht
      exact (h.completed (hprefetch rfl) (hfind rfl)).foundPrefetchedItemUris i force a
  · next hnot =>
    cases ht
    refine h.completed (fun hp => ?_) fun hf => ?_
    · exact hnot (complete_of_held ((h.tracked.2 i).prefetch hp).1 hok hcompleted)
    · exact hnot (complete_of_held ((h.tracked.2 i).find hf).1 hok hcompleted)

theorem Inv.step {s t : Control} (h : s.Inv) {e : ControlEvent} (hfits : s.Fits e)
    (ht : s.step e = some t) : t.Inv := by
  cases e with
  | plugAudioSource isSelected =>
    cases ht
    exact h.of_same (h.tracked.plugAudioSource isSelected) rfl rfl
  | plugData =>
    cases ht
    exact h.of_same h.tracked.plugData rfl rfl
  | plugCrawler permissions isActivated =>
    cases ht
    refine .of_not_skipping (h.tracked.plugPermissions permissions rfl rfl rfl) ?_
    exact (congrArg UserIntention.isSkipping (s.plugPermissions_same permissions).1).trans hfits
  | plugPermissions permissions =>
    cases ht
    refine .of_not_skipping (h.tracked.plugPermissions permissions rfl rfl rfl) ?_
    exact (congrArg UserIntention.isSkipping (s.plugPermissions_same permissions).1).trans hfits
  | unplug isCompleteUnplug =>
    cases ht
    exact h.unplug isCompleteUnplug
  | playRequest findDirection a =>
    cases findDirection with
    | none =>
      have hnone : s.playRequest none a = some t := ht
      refine h.playRequest ?_ hnone
      rintro i ⟨⟩
    | some direction => exact h.playRequest_make direction ht
  | stopRequest =>
    cases ht
    exact h.setIntentionByRequest rfl
  | pauseRequest =>
    cases ht
    exact h.pauseRequest
  | skipForwardRequest a =>
    cases ht
    exact h.skipRequest .forward _ a
  | skipBackwardRequest a =>
    cases ht
    exact h.skipRequest .backward _ a
  | startPrefetchNextItem direction force execution a =>
    cases ht
    exact h.startPrefetchNextItem direction force execution a
  | sourceSelected isOurs isOnHold a => exact h.sourceSelectedNotification ht
  | sourceDeselected =>
    cases ht
    exact h.sourceDeselectedNotification
  | nowPlaying isNewStream isQueueFull a =>
    cases ht
    exact h.nowPlayingNotification isNewStream isQueueFull a
  | streamStopped reaction isItemNeeded a =>
    cases ht
    exact h.streamStoppedNotification reaction isItemNeeded a
  | timer i =>
    obtain ⟨isActive, hdelayed, rfl⟩ := Option.map_eq_some_iff.mp ht
    exact h.of_same (h.tracked.timer hdelayed) rfl rfl
  | finish i outcome =>
    unfold Control.step at ht
    dsimp only at ht
    split at ht
    · next hstate =>
      cases ht
      exact h.of_same (h.tracked.finish hstate outcome) rfl rfl
    · cases ht
  | complete i a =>
    unfold Control.step at ht
    dsimp only at ht
    split at ht
    · next hcompleted => exact h.operationComplete hfits hcompleted ht
    · cases ht

theorem init_inv : init.Inv := by
  refine ⟨⟨rfl, fun i => ?_⟩, nofun⟩
  have hok : ControlOp.IsOk { purpose := .jumpBack, direction := .none } :=
    ⟨rfl, nofun, nofun, nofun, fun hdelayed => absurd rfl hdelayed, nofun⟩
  exact ⟨hok, fun _ => ⟨nofun, nofun, nofun, nofun, nofun⟩, nofun, nofun, nofun, nofun, nofun,
    nofun⟩

/-! ## The steps that do not fit -/

/-- Whoever takes away the operation of the skipper while skipping ends all skipping. -/
theorem Sound.not_skipping {t : Control} (h : t.Sound) (hnull : t.findNextOp = none) :
    t.intention.isSkipping = false := by
  refine Bool.eq_false_iff.mpr fun hskipping => ?_
  have hsome := h.skipping hskipping
  rw [hnull] at hsome
  cases hsome

/-- Nothing is as it should be after a step that does not fit. -/
theorem fits_of_sound {s : Control} (h : s.Inv) {e : ControlEvent}
    (hsound : ∀ t, s.step e = some t → t.Sound) : s.Fits e := by
  cases e with
  | plugCrawler permissions isActivated =>
    obtain ⟨hsame, hnull⟩ := s.plugPermissions_same permissions
    have hnot := (hsound _ rfl).not_skipping hnull
    exact (congrArg UserIntention.isSkipping hsame).symm.trans hnot
  | plugPermissions permissions =>
    obtain ⟨hsame, hnull⟩ := s.plugPermissions_same permissions
    have hnot := (hsound _ rfl).not_skipping hnull
    exact (congrArg UserIntention.isSkipping hsame).symm.trans hnot
  | complete i a =>
    intro hkind hcall
    have hok := (h.tracked.2 i).ok
    obtain ⟨-, -, -, -, -, hcalled⟩ := hok.complete
    obtain ⟨hcontained, hended⟩ := hcalled.mp hcall
    have hcompleted : (s.ops.op i).isCompleted = true := by
      refine (hok.completed hcontained).mpr ?_
      rcases hended with hdone | hfailed
      · exact .inl hdone
      · exact .inr (.inl hfailed)
    have hop : (s.completed i).ops.op i = (s.ops.op i).complete.2 :=
      s.ops.modify_op_self i fun o => o.complete.2
    have hstep : s.step (.complete i a) = some (s.completed i).resetSkipper := by
      unfold Control.step
      dsimp only
      rw [if_pos hcompleted, operationComplete_eq, if_pos hcall]
      unfold completionCallback
      rw [hop, (s.ops.op i).complete_purpose, hkind]
    exact (hsound _ hstep).not_skipping rfl
  | plugAudioSource _ => trivial
  | plugData => trivial
  | unplug _ => trivial
  | playRequest _ _ => trivial
  | stopRequest => trivial
  | pauseRequest => trivial
  | skipForwardRequest _ => trivial
  | skipBackwardRequest _ => trivial
  | startPrefetchNextItem _ _ _ _ => trivial
  | sourceSelected _ _ _ => trivial
  | sourceDeselected => trivial
  | nowPlaying _ _ _ => trivial
  | streamStopped _ _ _ => trivial
  | timer _ => trivial
  | finish _ _ => trivial

/-! ## Whole runs -/

/-- Prefetching and skipping wait for nothing that does not come, in every state that is
reached by a run, if and only if all steps of the run fit. -/
theorem control_run_sound (es : List ControlEvent) :
    AlongRun step (fun s e => ∀ t, s.step e = some t → t.Sound) init es ↔
      AlongRun step Fits init es := by
  refine alongRun_iff (I := Inv) (fun s e t h hfits ht => h.step hfits ht) ?_ es init_inv
  intro s e h
  constructor
  · exact fits_of_sound h
  · exact fun hfits t ht => (h.step hfits ht).sound

/-- An item is selected for playing while a skip is under way: the skipper is reset, but the
intention is to skip still. -/
theorem plug_while_skipping :
    ¬∀ (es : List ControlEvent) (t : Control), runFrom step init es = some t → t.Sound := by
  intro h
  have hsound := h [.plugAudioSource true, .plugData, .plugCrawler {} true,
    .playRequest none {}, .skipForwardRequest {}, .plugCrawler {} true] _ rfl
  exact absurd (hsound.not_skipping rfl) nofun

end Control

end Drcpd.Player

/-
  Player/SkipRuns.lean --- user requests while skipping.

  A skip request makes an operation whose completion callback has captured the user
  intention at that time.  Requests which come before the operation has completed set the
  intention, and the completion callback sets it to what it has captured.  `SkipRun` adds
  to the player control what the last request that was not ignored has asked for.
-/
import Drcpd.Player.ControlRuns

set_option autoImplicit false

namespace Drcpd.Player

open Crawler (Direction OpId)
open Foundation (AlongRun runFrom alongRun_iff)

/-! ## What the functions do to the intention -/

namespace Control

/-- The intention and the skipper are left alone. -/
structure Keeps (s t : Control) : Prop where
  intention : t.intention = s.intention
  find : t.findNextOp = s.findNextOp
  purpose : ∀ i, s.findNextOp = some i → (t.ops.op i).purpose = (s.ops.op i).purpose

/-- A first skip request has been accepted. -/
structure StartsSkip (s t : Control) : Prop where
  notSkipping : s.findNextOp = none
  started : ∃ i, t.findNextOp = some i ∧ (t.ops.op i).purpose = .skip s.intention ∧
    setIntentionForSkipping s.intention = some t.intention

theorem Keeps.refl (s : Control) : Keeps s s := ⟨rfl, rfl, fun _ _ => rfl⟩

theorem Keeps.trans {s t u : Control} (h : Keeps s t) (h' : Keeps t u) : Keeps s u where
  intention := h'.intention.trans h.intention
  find := h'.find.trans h.find
  purpose := fun i hi => (h'.purpose i (h.find.trans hi)).trans (h.purpose i hi)

/-- A skip that starts after something that has left the skipper alone. -/
theorem Keeps.startsSkip {s t u : Control} (h : Keeps s t) (h' : StartsSkip t u) :
    StartsSkip s u where
  notSkipping := h.find.symm.trans h'.notSkipping
  started := by
    rw [← h.intention]
    exact h'.started

/-- The operation of the skipper is not the next one that is going to be made. -/
theorem Inv.find_ne_next {s : Control} (h : s.Inv) {i : OpId} (hi : s.findNextOp = some i) :
    i ≠ s.ops.next := by
  rintro rfl
  exact ((h.tracked.2 s.ops.next).fresh (Nat.le_refl _)).2.find hi

theorem Inv.make_keeps {s : Control} (h : s.Inv) (purpose : Purpose) (direction : Direction) :
    Keeps s { s with ops := s.ops.make purpose direction } where
  intention := rfl
  find := rfl
  purpose := fun _ hi => congrArg ControlOp.purpose
    (s.ops.add_op_of_ne { purpose := purpose, direction := direction } (h.find_ne_next hi))

theorem Inv.runNew_keeps {s : Control} (h : s.Inv) (purpose : Purpose) (direction : Direction)
    (a : Answers) : Keeps s (s.runNew purpose direction a).2 where
  intention := rfl
  find := rfl
  purpose := by
    intro i hi
    unfold Control.runNew
    rw [runNow_make]
    exact congrArg ControlOp.purpose (s.ops.add_op_of_ne _ (h.find_ne_next hi))

theorem Inv.startPrefetch_keeps {s : Control} (h : s.Inv) (direction : Direction) (force : Bool)
    (a : Answers) : Keeps s (s.startPrefetchNextItem direction force .now a) := by
  unfold Control.startPrefetchNextItem
  split
  · exact .refl s
  · obtain ⟨hintention, hfind, hpurpose⟩ := h.runNew_keeps (.prefetch force) direction a
    exact ⟨hintention, hfind, hpurpose⟩

theorem forgetUris_keeps (s : Control) (i : OpId) :
    Keeps s (if s.prefetchUrisOp = some i then { s with prefetchUrisOp := none } else s) := by
  split
  · exact ⟨rfl, rfl, fun _ _ => rfl⟩
  · exact .refl s

theorem modify_purpose (s : CrawlerOps) (i j : OpId) (f : ControlOp → ControlOp)
    (hf : (f (s.op i)).purpose = (s.op i).purpose) :
    ((s.modify i f).op j).purpose = (s.op j).purpose := by
  by_cases hj : j = i
  · subst hj
    rw [s.modify_op_self]
    exact hf
  · rw [s.modify_op_of_ne hj]

theorem completed_keeps (s : Control) (i : OpId) : Keeps s (s.completed i) :=
  ⟨rfl, rfl, fun j _ =>
    modify_purpose s.ops i j (fun o => o.complete.2) (s.ops.op i).complete_purpose⟩

theorem finish_keeps (s : Control) (i : OpId) (outcome : OpOutcome) :
    Keeps s { s with ops := s.ops.modify i (·.finish outcome) } :=
  ⟨rfl, rfl, fun j _ => modify_purpose s.ops i j (·.finish outcome) rfl⟩

/-- A skip request that is accepted as the first one leaves its operation to the skipper,
with the intention captured. -/
theorem Inv.skipRequest_outcome {s : Control} (h : s.Inv) (direction : Direction)
    (isPermitted : LocalPermissions → Bool) (a : Answers) :
    Keeps s (s.skipRequest direction isPermitted a) ∨
      StartsSkip s (s.skipRequest direction isPermitted a) := by
  rcases s.skipRequest_cases h.tracked.1 direction isPermitted a with heq | heq | hstart
  · rw [heq]
    exact .inl (.refl s)
  · rw [heq]
    exact .inl ⟨rfl, rfl, fun _ _ => rfl⟩
  · obtain ⟨hnull, -, intention, t, r, hintention, rfl, rfl, hrun⟩ := hstart
    have hcaptured : ∀ previousIntention, Purpose.skip s.intention = .skip previousIntention →
        previousIntention.isSkipping = false := by
      rintro _ ⟨⟩
      exact h.not_skipping_of_null hnull
    rcases hrun with ⟨i, hi, heq⟩ | ⟨-, heq⟩
    · refine .inr ⟨hnull, i, ?_⟩
      rw [heq]
      refine ⟨rfl, ?_, hintention⟩
      rcases runNew_cases ({ s with
          prefetchDirectionAfterFailure := direction
          intention := intention } : Control).cancelPrefetchOps direction a hcaptured with
        hran | ⟨o, -, -, -, -, hran⟩
      · rw [hran] at hi ⊢
        cases hi
        exact congrArg ControlOp.purpose (CrawlerOps.add_op_next _ _)
      · rw [hran] at hi
        cases hi
    · refine .inl ?_
      rw [heq]
      exact ⟨rfl, hnull.symm, fun i hi => absurd (hnull.symm.trans hi) nofun⟩

/-- If the item cannot be played, then the next one is tried by skipping; otherwise the
skipper is left alone. -/
theorem Inv.foundItemUris_outcome {s : Control} (h : s.Inv) (i : OpId) (a : Answers) :
    Keeps s (s.foundItemUrisForPlaying i a) ∨ StartsSkip s (s.foundItemUrisForPlaying i a) := by
  have hforgotten := h.forgetUris i
  have hkeeps := s.forgetUris_keeps i
  unfold Control.foundItemUrisForPlaying
  dsimp only
  generalize (if s.prefetchUrisOp = some i then { s with prefetchUrisOp := none } else s) = t
    at hforgotten hkeeps ⊢
  have hskip : ∀ direction isPermitted,
      Keeps s (t.skipRequest direction isPermitted a) ∨
        StartsSkip s (t.skipRequest direction isPermitted a) := by
    intro direction isPermitted
    rcases hforgotten.skipRequest_outcome direction isPermitted a with hsame | hstarts
    · exact .inl (hkeeps.trans hsame)
    · exact .inr (hkeeps.startsSkip hstarts)
  have hprefetch := hkeeps.trans (hforgotten.startPrefetch_keeps .forward false a)
  split
  · exact .inl (.refl s)
  · split
    · exact .inl hkeeps
    · split
      · split
        · split
          · exact hskip _ _
          · exact hskip _ _
          · exact .inl hkeeps
        · exact .inl hkeeps
      · split
        · exact .inl hkeeps
        · exact .inl hkeeps
        · split
          · exact .inl hprefetch
          · exact .inl hkeeps
        · split
          · exact .inl hprefetch
          · exact .inl hkeeps
        · exact .inl hkeeps
        · exact .inl hkeeps

/-! ## The end of a skip -/

/-- The search of the skipper ends playing: no item has been found, though the operation has
not come to the end of the list in its own direction. -/
def endsPlaying (s : Control) (o : ControlOp) : Bool :=
  isSkipFound o && listExhausted o && s.finishedNotification

theorem complete_found (o : ControlOp) :
    isSkipFound o.complete.2 = isSkipFound o ∧ listExhausted o.complete.2 = listExhausted o := by
  have hstate : o.complete.2.base.state = o.base.state := by
    unfold ControlOp.complete
    split
    · exact o.base.notifyCaller_same.1
    · rfl
  have hpos : o.complete.2.posState = o.posState ∧ o.complete.2.direction = o.direction := by
    unfold ControlOp.complete
    split <;> exact ⟨rfl, rfl⟩
  unfold isSkipFound listExhausted ControlOp.isOpFailure
  rw [hstate, hpos.1, hpos.2]
  exact ⟨rfl, rfl⟩

theorem setIntentionAfterSkipping_eq {s : Control} (h : s.intention.isSkipping = false) :
    s.setIntentionAfterSkipping = s := by
  unfold setIntentionAfterSkipping
  split
  · rfl
  · rfl
  · rfl
  · rfl
  · next hskipping =>
    rw [hskipping] at h
    cases h
  · next hskipping =>
    rw [hskipping] at h
    cases h

/-- The end of playing takes the intention away. -/
theorem finished_playing {s : Control} (hdata : s.playerData = true) (a : Answers) :
    (s.finished .playing a).intention =
      (if s.finishedNotification then .nothing else s.intention) ∧
    (s.findNextOp = none → (s.finished .playing a).findNextOp = none) := by
  unfold Control.finished
  split
  · have hunplug : s.playerFinished .playing true a.playerState = s.unplug false := by
      unfold Control.playerFinished
      rw [if_neg (fun h => nomatch h.1), if_pos rfl]
    rw [hunplug]
    refine ⟨?_, fun _ => ?_⟩
    · rw [unplug_intention, if_pos hdata]
    · rw [unplug_false_eq]
      rfl
  · exact ⟨rfl, id⟩

/-- `found_item_for_playing`, outside of skipping. -/
theorem foundItemForPlaying_intention {s : Control} {i : OpId} (a : Answers)
    (hdata : s.playerData = true) (hcanceled : (s.ops.op i).isOpCanceled = false)
    (hintention : s.intention.isSkipping = false) (hnull : s.findNextOp = none) :
    (s.foundItemForPlaying i a).intention =
        (if listExhausted (s.ops.op i) && s.finishedNotification then .nothing
          else s.intention) ∧
      (s.foundItemForPlaying i a).findNextOp = none := by
  have hgoing : ¬((s.ops.op i).isOpCanceled || !s.playerData) = true := by
    rw [hdata, hcanceled]
    exact Bool.false_ne_true
  unfold Control.foundItemForPlaying
  dsimp only
  rw [if_neg hgoing]
  cases hexhausted : listExhausted (s.ops.op i) with
  | true =>
    have hreset : ({ s with prefetchNextItemOp := none } :
        Control).resetSkipper.intention.isSkipping = false := hintention
    rw [if_pos rfl, setIntentionAfterSkipping_eq hreset, Bool.true_and]
    obtain ⟨hafter, hfind⟩ :=
      finished_playing (s := { s with prefetchNextItemOp := none }.resetSkipper) hdata a
    exact ⟨hafter, hfind rfl⟩
  | false => exact ⟨rfl, hnull⟩

/-- `done_fn`: the intention is the one that was captured, or playing ends; and there is no
skip any more. -/
theorem skipDone_intention {s t : Control} (hattached : s.IsAttached)
    (hnull : s.findNextOp = none) {i : OpId} (hi : s.prefetchNextItemOp ≠ some i)
    (hcanceled : (s.ops.op i).isOpCanceled = false) {previousIntention : UserIntention}
    (hprevious : previousIntention.isSkipping = false) {a : Answers}
    (ht : s.skipDone previousIntention (some i) a = some t) :
    t.intention = (if s.endsPlaying (s.ops.op i) then .nothing else previousIntention) ∧
      ∀ j intention, t.findNextOp = some j → (t.ops.op j).purpose ≠ .skip intention := by
  have hop : (s.ops.cancel s.prefetchNextItemOp).op i = s.ops.op i := by
    cases hp : s.prefetchNextItemOp with
    | none => rfl
    | some j =>
      have hne : i ≠ j := by
        rintro rfl
        exact hi hp
      exact s.ops.modify_op_of_ne hne ControlOp.cancel
  rw [skipDone_of_held hattached hcanceled] at ht
  unfold endsPlaying
  cases hfound : isSkipFound (s.ops.op i) with
  | true =>
    rw [hfound, if_pos rfl] at ht
    cases ht
    obtain ⟨hintention, hnone⟩ := foundItemForPlaying_intention (s := { s with
        intention := previousIntention
        ops := s.ops.cancel s.prefetchNextItemOp
        prefetchNextItemOp := none }) a hattached.1 ((congrArg ControlOp.isOpCanceled hop).trans
      hcanceled) hprevious hnull
    refine ⟨hintention.trans ?_, fun j _ hj => absurd (hnone.symm.trans hj) nofun⟩
    rw [Bool.true_and]
    exact congrArg (fun o => if listExhausted o && s.finishedNotification then
      UserIntention.nothing else previousIntention) hop
  | false =>
    rw [hfound, if_neg Bool.false_ne_true] at ht
    unfold jumpBackToCurrentlyPlaying at ht
    dsimp only at ht
    split at ht
    · cases ht
      refine ⟨rfl, fun j intention hj => ?_⟩
      have hcaptured : ∀ previousIntention, Purpose.jumpBack = .skip previousIntention →
          previousIntention.isSkipping = false := by
        intro _ heq
        cases heq
      rcases runNew_cases ({ s with intention := previousIntention } : Control).resetSkipper
        .none a hcaptured with hran | ⟨o, -, -, -, -, hran⟩
      · rw [hran] at hj ⊢
        cases hj
        rw [CrawlerOps.add_op_next]
        exact nofun
      · rw [hran] at hj
        cases hj
    · cases ht

/-- `done_fn` has a result unless it is to jump back to an item that is not known. -/
theorem skipDone_isSome {s : Control} (hattached : s.IsAttached) {i : OpId}
    (hcanceled : (s.ops.op i).isOpCanceled = false) (previousIntention : UserIntention)
    (a : Answers) :
    (s.skipDone previousIntention (some i) a).isSome = true ↔
      isSkipFound (s.ops.op i) = true ∨ a.hasCurrentlyPlaying = true := by
  rw [skipDone_of_held hattached hcanceled]
  cases isSkipFound (s.ops.op i) with
  | true => exact iff_of_true rfl (.inl rfl)
  | false =>
    rw [if_neg Bool.false_ne_true]
    unfold jumpBackToCurrentlyPlaying
    cases a.hasCurrentlyPlaying with
    | true => exact iff_of_true rfl (.inr rfl)
    | false => exact iff_of_false nofun nofun

section CompleteSkip

variable {s : Control} {i : OpId} {previousIntention : UserIntention} {a : Answers}

/-- The completion of a find operation of the skipper is left to `done_fn`. -/
theorem Inv.completeSkip_eq (h : s.Inv) (hi : s.findNextOp = some i)
    (hkind : (s.ops.op i).purpose = .skip previousIntention)
    (hcompleted : (s.ops.op i).isCompleted = true) :
    s.operationComplete i a =
      ({ s.completed i with findNextOp := none }.resetSkipper).skipDone previousIntention
        (some i) a := by
  have hheld := ((h.tracked.2 i).find hi).1
  have hop : (s.completed i).ops.op i = (s.ops.op i).complete.2 :=
    s.ops.modify_op_self i fun o => o.complete.2
  have hfind : (s.completed i).findNextOp = some i := hi
  rw [operationComplete_eq, if_pos (complete_of_held hheld (h.tracked.2 i).ok hcompleted)]
  unfold completionCallback
  rw [hop, (s.ops.op i).complete_purpose, hkind]
  dsimp only
  rw [foundOrFailed_eq (s := s.completed i) h.tracked.1]
  unfold Control.skipperDone
  rw [hfind]

theorem Inv.completeSkip_isSome (h : s.Inv) (hi : s.findNextOp = some i)
    (hkind : (s.ops.op i).purpose = .skip previousIntention)
    (hcompleted : (s.ops.op i).isCompleted = true) :
    (s.operationComplete i a).isSome = true ↔
      isSkipFound (s.ops.op i) = true ∨ a.hasCurrentlyPlaying = true := by
  obtain ⟨hattached, hcanceled⟩ := completed_isOpCanceled (i := i) h hi
  have hop : (s.completed i).ops.op i = (s.ops.op i).complete.2 :=
    s.ops.modify_op_self i fun o => o.complete.2
  have hfound : isSkipFound ((s.completed i).ops.op i) = isSkipFound (s.ops.op i) := by
    rw [hop, (complete_found _).1]
  rw [h.completeSkip_eq hi hkind hcompleted, ← hfound]
  exact skipDone_isSome (s := { s.completed i with findNextOp := none }.resetSkipper) hattached
    hcanceled previousIntention a

theorem Inv.completeSkip_intention {t : Control} (h : s.Inv) (hi : s.findNextOp = some i)
    (hkind : (s.ops.op i).purpose = .skip previousIntention)
    (hcompleted : (s.ops.op i).isCompleted = true) (ht : s.operationComplete i a = some t) :
    t.intention = (if s.endsPlaying (s.ops.op i) then .nothing else previousIntention) ∧
      ∀ j intention, t.findNextOp = some j → (t.ops.op j).purpose ≠ .skip intention := by
  obtain ⟨hattached, hcanceled⟩ := completed_isOpCanceled (i := i) h hi
  have hop : (s.completed i).ops.op i = (s.ops.op i).complete.2 :=
    s.ops.modify_op_self i fun o => o.complete.2
  have hprefetch : (s.completed i).prefetchNextItemOp ≠ some i :=
    (h.tracked.noneTo_of_findNext hi).prefetch
  have hends : (s.completed i).endsPlaying ((s.completed i).ops.op i) =
      s.endsPlaying (s.ops.op i) := by
    obtain ⟨hfound, hexhausted⟩ := complete_found (s.ops.op i)
    unfold endsPlaying
    rw [hop, hfound, hexhausted]
    rfl
  rw [h.completeSkip_eq hi hkind hcompleted] at ht
  rw [← hends]
  exact skipDone_intention (s := { s.completed i with findNextOp := none }.resetSkipper)
    hattached rfl hprefetch hcanceled ((h.tracked.2 i).ok.captured _ hkind) ht

end CompleteSkip

end Control

/-! ## Requests -/

/-- The player control, and what the last request that was not ignored has asked for: the
intention set by a play, pause or stop request, or nothing if it was a skip request. -/
structure SkipRun where
  control : Control
  lastRequest : Option UserIntention := none

/-- Requests, and the completion of the skipper's find operation and of the operations that
get the URIs of the item it has found. -/
inductive SkipEvent where
  | playRequest (findDirection : Option Direction) (a : Answers)
  | stopRequest
  | pauseRequest
  | skipForwardRequest (a : Answers)
  | skipBackwardRequest (a : Answers)
  | finish (op : OpId) (outcome : OpOutcome)
  | completeFind (a : Answers)
  | completeUris (op : OpId) (a : Answers)
  deriving DecidableEq, Repr

namespace SkipRun

/-- The player control is attached, and its audio source is selected or requested. -/
def takesRequests (s : Control) : Bool :=
  s.isActiveController && decide (s.audioSource ≠ some .deselected)

/-- A skip request is not ignored if it makes the skipper active. -/
def afterSkip (s t : Control) (lastRequest : Option UserIntention) : Option UserIntention :=
  if s.findNextOp.isNone && t.findNextOp.isSome then none else lastRequest

/-- One step. -/
def step (r : SkipRun) : SkipEvent → Option SkipRun
  | .playRequest findDirection a =>
      (r.control.step (.playRequest findDirection a)).map fun s =>
        ⟨s, if r.control.permits (·.canPlay) && takesRequests r.control then some .listening
            else r.lastRequest⟩
  | .stopRequest =>
      (r.control.step .stopRequest).map fun s =>
        ⟨s, if takesRequests r.control then some .stopping else r.lastRequest⟩
  | .pauseRequest =>
      (r.control.step .pauseRequest).map fun s =>
        ⟨s, if r.control.permits (·.canPause) && takesRequests r.control then some .pausing
            else r.lastRequest⟩
  | .skipForwardRequest a =>
      (r.control.step (.skipForwardRequest a)).map fun s =>
        ⟨s, afterSkip r.control s r.lastRequest⟩
  | .skipBackwardRequest a =>
      (r.control.step (.skipBackwardRequest a)).map fun s =>
        ⟨s, afterSkip r.control s r.lastRequest⟩
  | .finish i outcome =>
      (r.control.step (.finish i outcome)).map fun s => ⟨s, r.lastRequest⟩
  | .completeFind a =>
      match r.control.findNextOp with
      | none => none
      | some i => (r.control.step (.complete i a)).map fun s => ⟨s, r.lastRequest⟩
  | .completeUris i a =>
      if (r.control.ops.op i).purpose = .urisForPlaying then
        (r.control.step (.complete i a)).map fun s => ⟨s, r.lastRequest⟩
      else none

/-- The item that has been found is passed to the player with `SEND_PLAY_COMMAND_IF_IDLE`
when the operation that gets its URIs has completed. -/
def sendsPlayCommand (s : Control) (i : OpId) : Bool :=
  let o := s.ops.op i
  o.complete.1 && !o.isOpCanceled && s.playerData && !o.isOpFailure && o.hasUris &&
    (decide (s.intention = .listening) || decide (s.intention = .skippingLive))

/-- After the skip has ended, the intention is the one of the last request. -/
def Sound (r : SkipRun) : Prop :=
  (∀ i previousIntention, r.control.findNextOp = some i →
    (r.control.ops.op i).purpose ≠ .skip previousIntention) →
  ∀ intention, r.lastRequest = some intention → r.control.intention = intention

/-- No play command is sent after a stop or pause request. -/
def SendsNoPlay (r : SkipRun) : SkipEvent → Prop
  | .completeUris i _ => sendsPlayCommand r.control i = true →
      r.lastRequest ≠ some .stopping ∧ r.lastRequest ≠ some .pausing
  | .playRequest _ _ | .stopRequest | .pauseRequest | .skipForwardRequest _
  | .skipBackwardRequest _ | .finish _ _ | .completeFind _ => True

/-- Where the find operation of a skip completes, the last request has asked for what the
operation has captured, and playing does not end. -/
def Fits (r : SkipRun) : SkipEvent → Prop
  | .completeFind a => ∀ i previousIntention intention, r.control.findNextOp = some i →
      (r.control.ops.op i).purpose = .skip previousIntention →
      (r.control.ops.op i).isCompleted = true →
      (Control.isSkipFound (r.control.ops.op i) = true ∨ a.hasCurrentlyPlaying = true) →
      r.lastRequest = some intention →
      previousIntention = intention ∧ r.control.endsPlaying (r.control.ops.op i) = false
  | .playRequest _ _ | .stopRequest | .pauseRequest | .skipForwardRequest _
  | .skipBackwardRequest _ | .finish _ _ | .completeUris _ _ => True

/-! ## The invariant -/

/-- While the operation of a skip is under way, the last request may have been kept by the
operation instead of by the intention: the skip has been made by the player control itself,
because an item could not be played. -/
structure Inv (r : SkipRun) : Prop where
  control : r.control.Inv
  skipping : r.control.intention.isSkipping = true → ∃ i previousIntention,
    r.control.findNextOp = some i ∧ (r.control.ops.op i).purpose = .skip previousIntention
  request : ∀ intention, r.lastRequest = some intention →
    intention = .listening ∨ intention = .pausing ∨ intention = .stopping
  kept : ∀ intention, r.lastRequest = some intention → r.control.intention = intention ∨
    ∃ i, r.control.findNextOp = some i ∧ (r.control.ops.op i).purpose = .skip intention ∧
      Control.setIntentionForSkipping intention = some r.control.intention

variable {r : SkipRun} {t : Control}

theorem Inv.sound (h : r.Inv) : r.Sound := by
  intro hended intention hlast
  rcases h.kept intention hlast with hkept | ⟨i, hi, hkind, -⟩
  · exact hkept
  · exact absurd hkind (hended i intention hi)

/-- A step that leaves the intention and the skipper alone. -/
theorem Inv.keeps (h : r.Inv) (ht : t.Inv) (hkeeps : Control.Keeps r.control t) :
    Inv ⟨t, r.lastRequest⟩ where
  control := ht
  skipping := by
    intro hskipping
    rw [hkeeps.intention] at hskipping
    obtain ⟨i, previousIntention, hi, hkind⟩ := h.skipping hskipping
    exact ⟨i, previousIntention, hkeeps.find.trans hi, (hkeeps.purpose i hi).trans hkind⟩
  request := h.request
  kept := by
    intro intention hlast
    rcases h.kept intention hlast with hkept | ⟨i, hi, hkind, hskipping⟩
    · exact .inl (hkeeps.intention.trans hkept)
    · refine .inr ⟨i, hkeeps.find.trans hi, (hkeeps.purpose i hi).trans hkind, ?_⟩
      rw [hkeeps.intention]
      exact hskipping

/-- A request that is not ignored. -/
theorem Inv.requested {intention : UserIntention} (ht : t.Inv)
    (hrequest : intention = .listening ∨ intention = .pausing ∨ intention = .stopping)
    (hintention : t.intention = intention) : Inv ⟨t, some intention⟩ where
  control := ht
  skipping := by
    intro hskipping
    rw [hintention] at hskipping
    rcases hrequest with rfl | rfl | rfl
    · cases hskipping
    · cases hskipping
    · cases hskipping
  request := by
    rintro _ ⟨⟩
    exact hrequest
  kept := by
    rintro _ ⟨⟩
    exact .inl hintention

/-- The beginning of a skip, be it requested by the user or not. -/
theorem Inv.startsSkip (h : r.Inv) (ht : t.Inv) (hstarts : Control.StartsSkip r.control t)
    {lastRequest : Option UserIntention}
    (hlast : lastRequest = none ∨ lastRequest = r.lastRequest) : Inv ⟨t, lastRequest⟩ := by
  obtain ⟨hnull, i, hi, hkind, hskipping⟩ := hstarts
  have hsome : ∀ intention, lastRequest = some intention → r.lastRequest = some intention := by
    rintro intention rfl
    rcases hlast with hnone | hsame
    · cases hnone
    · exact hsame.symm
  refine ⟨ht, fun _ => ⟨i, _, hi, hkind⟩, fun intention hx => h.request _ (hsome _ hx), ?_⟩
  intro intention hx
  rcases h.kept intention (hsome _ hx) with hkept | ⟨j, hj, -⟩
  · refine .inr ⟨i, hi, ?_, ?_⟩
    · rw [← hkept]
      exact hkind
    · rw [← hkept]
      exact hskipping
  · exact absurd (hnull.symm.trans hj) nofun

/-! ## The steps -/

/-- A play request sets the intention, unless it is ignored. -/
theorem playRequest_outcome {s t : Control} {findOp : Option OpId} {a : Answers}
    (ht : s.playRequest findOp a = some t) :
    if s.permits (·.canPlay) && takesRequests s then t.intention = .listening else t = s := by
  unfold Control.playRequest at ht
  unfold takesRequests Control.isActiveController
  cases hpermits : s.permits (·.canPlay) with
  | false =>
    rw [hpermits] at ht
    cases ht
    rfl
  | true =>
    cases hdata : s.playerData with
    | false =>
      rw [hpermits, hdata] at ht
      cases ht
      rfl
    | true =>
      rw [hpermits, hdata] at ht
      cases hsource : s.audioSource with
      | none =>
        rw [hsource] at ht
        cases ht
        rfl
      | some state =>
        rw [hsource] at ht
        cases state with
        | deselected =>
          cases ht
          rfl
        | requested =>
          cases ht
          rfl
        | selected =>
          cases findOp with
          | none =>
            cases ht
            rfl
          | some i =>
            have hgoing : ¬(!true || !true) = true := Bool.false_ne_true
            rw [if_neg hgoing] at ht
            dsimp only at ht
            split at ht
            · cases ht
              rfl
            · cases ht

theorem setIntentionByRequest_outcome (s : Control) (intention : UserIntention) :
    s.setIntentionByRequest intention =
      if takesRequests s then { s with intention := intention } else s := by
  unfold Control.setIntentionByRequest takesRequests Control.isActiveController
  cases hsource : s.audioSource with
  | none => simp
  | some state =>
    cases state with
    | deselected => simp
    | requested => simp
    | selected => simp

theorem Inv.playRequest (h : r.Inv) {s : Control} (hkeeps : Control.Keeps r.control s)
    (hsame : (s.permits (·.canPlay) && takesRequests s) =
      (r.control.permits (·.canPlay) && takesRequests r.control)) {findOp : Option OpId}
    {a : Answers} (ht : t.Inv) (hrequest : s.playRequest findOp a = some t) :
    Inv ⟨t, if r.control.permits (·.canPlay) && takesRequests r.control then some .listening
      else r.lastRequest⟩ := by
  have houtcome := playRequest_outcome hrequest
  rw [hsame] at houtcome
  split
  · next htaken =>
    rw [if_pos htaken] at houtcome
    exact .requested ht (.inl rfl) houtcome
  · next hignored =>
    rw [if_neg hignored] at houtcome
    subst houtcome
    exact h.keeps ht hkeeps

/-- A stop or pause request. -/
theorem Inv.setIntention (h : r.Inv) {intention : UserIntention}
    (hkind : intention = .pausing ∨ intention = .stopping)
    (ht : (r.control.setIntentionByRequest intention).Inv) :
    Inv ⟨r.control.setIntentionByRequest intention,
      if takesRequests r.control then some intention else r.lastRequest⟩ := by
  rw [setIntentionByRequest_outcome] at ht ⊢
  split
  · next htaken =>
    rw [if_pos htaken] at ht
    exact .requested ht (.inr hkind) rfl
  · exact h

theorem Inv.skipRequest (h : r.Inv) (ht : t.Inv)
    (houtcome : Control.Keeps r.control t ∨ Control.StartsSkip r.control t) :
    Inv ⟨t, afterSkip r.control t r.lastRequest⟩ := by
  unfold afterSkip
  rcases houtcome with hkeeps | hstarts
  · have hsame : ¬(r.control.findNextOp.isNone && t.findNextOp.isSome) = true := by
      rw [hkeeps.find]
      cases r.control.findNextOp with
      | none => exact Bool.false_ne_true
      | some i => exact Bool.false_ne_true
    rw [if_neg hsame]
    exact h.keeps ht hkeeps
  · refine h.startsSkip ht hstarts ?_
    split
    · exact .inl rfl
    · exact .inr rfl

/-- The player control has nothing against the completion of the skipper's operation. -/
theorem Inv.control_fits (h : r.Inv) {i : OpId} (hi : r.control.findNextOp = some i)
    (a : Answers) : r.control.Fits (.complete i a) := by
  intro hkind _
  refine Bool.eq_false_iff.mpr fun hskipping => ?_
  obtain ⟨j, previousIntention, hj, hskip⟩ := h.skipping hskipping
  have hij : i = j := Option.some.inj (hi.symm.trans hj)
  subst hij
  exact absurd (hkind.symm.trans hskip) nofun

theorem Inv.completeFind (h : r.Inv) {i : OpId} (hi : r.control.findNextOp = some i)
    {a : Answers} (hfits : r.Fits (.completeFind a))
    (ht : r.control.step (.complete i a) = some t) : Inv ⟨t, r.lastRequest⟩ := by
  have hinv := h.control.step (h.control_fits hi a) ht
  have hskipper := ((h.control.tracked.2 i).find hi).2
  unfold Control.step at ht
  dsimp only at ht
  split at ht
  · next hcompleted =>
    cases hkind : (r.control.ops.op i).purpose with
    | skip previousIntention =>
      have hsome : (r.control.operationComplete i a).isSome = true := by
        rw [ht]
        rfl
      have hposition := (h.control.completeSkip_isSome hi hkind hcompleted).mp hsome
      obtain ⟨hintention, hended⟩ := h.control.completeSkip_intention hi hkind hcompleted ht
      have hprevious := (h.control.tracked.2 i).ok.captured _ hkind
      have hnot : t.intention.isSkipping = false := by
        rw [hintention]
        split
        · rfl
        · exact hprevious
      refine ⟨hinv, fun hskipping => absurd (hnot.symm.trans hskipping) Bool.false_ne_true,
        h.request, fun intention hlast => .inl ?_⟩
      obtain ⟨hsame, hends⟩ :=
        hfits i previousIntention intention hi hkind hcompleted hposition hlast
      rw [hintention, hends, if_neg Bool.false_ne_true]
      exact hsame
    | jumpBack =>
      have hcalled := Control.complete_of_held ((h.control.tracked.2 i).find hi).1
        (h.control.tracked.2 i).ok hcompleted
      have hop : (r.control.completed i).ops.op i = (r.control.ops.op i).complete.2 :=
        r.control.ops.modify_op_self i fun o => o.complete.2
      rw [Control.operationComplete_eq, if_pos hcalled] at ht
      unfold Control.completionCallback at ht
      rw [hop, (r.control.ops.op i).complete_purpose, hkind] at ht
      cases ht
      have hnot := h.control_fits hi a hkind hcalled
      refine ⟨hinv, fun hskipping => absurd (hnot.symm.trans hskipping) Bool.false_ne_true,
        h.request, fun intention hlast => .inl ?_⟩
      rcases h.kept intention hlast with hkept | ⟨j, hj, hskip, -⟩
      · exact hkept
      · have hij : i = j := Option.some.inj (hi.symm.trans hj)
        subst hij
        exact absurd (hkind.symm.trans hskip) nofun
    | playing => rw [hkind] at hskipper; cases hskipper
    | prefetch _ => rw [hkind] at hskipper; cases hskipper
    | urisForPlaying => rw [hkind] at hskipper; cases hskipper
    | prefetchedUris _ => rw [hkind] at hskipper; cases hskipper
  · cases ht

theorem Inv.completeUris (h : r.Inv) {i : OpId} {a : Answers}
    (hkind : (r.control.ops.op i).purpose = .urisForPlaying)
    (ht : r.control.step (.complete i a) = some t) : Inv ⟨t, r.lastRequest⟩ := by
  have hfits : r.control.Fits (.complete i a) := fun hjump =>
    absurd (hkind.symm.trans hjump) nofun
  have hinv := h.control.step hfits ht
  have hp : r.control.prefetchNextItemOp ≠ some i := by
    intro hp
    have hpurpose := ((h.control.tracked.2 i).prefetch hp).2
    rw [hkind] at hpurpose
    cases hpurpose
  have hf : r.control.findNextOp ≠ some i := by
    intro hf
    have hpurpose := ((h.control.tracked.2 i).find hf).2
    rw [hkind] at hpurpose
    cases hpurpose
  have hkeeps := r.control.completed_keeps i
  unfold Control.step at ht
  dsimp only at ht
  split at ht
  · rw [Control.operationComplete_eq] at ht
    split at ht
    · have hop : (r.control.completed i).ops.op i = (r.control.ops.op i).complete.2 :=
        r.control.ops.modify_op_self i fun o => o.complete.2
      unfold Control.completionCallback at ht
      rw [hop, (r.control.ops.op i).complete_purpose, hkind] at ht
      cases ht
      rcases (h.control.completed hp hf).foundItemUris_outcome i a with hsame | hstarts
      · exact h.keeps hinv (hkeeps.trans hsame)
      · exact h.startsSkip hinv (hkeeps.startsSkip hstarts) (.inr rfl)
    · cases ht
      exact h.keeps hinv hkeeps
  · cases ht

theorem Inv.step {r' : SkipRun} (h : r.Inv) {e : SkipEvent} (hfits : r.Fits e)
    (hstep : r.step e = some r') : r'.Inv := by
  unfold SkipRun.step at hstep
  cases e with
  | playRequest findDirection a =>
    obtain ⟨t, ht, rfl⟩ := Option.map_eq_some_iff.mp hstep
    have hinv := h.control.step (e := .playRequest findDirection a) trivial ht
    cases findDirection with
    | none => exact h.playRequest (a := a) (.refl _) rfl hinv ht
    | some direction =>
      exact h.playRequest (a := a) (h.control.make_keeps .playing direction) rfl hinv ht
  | stopRequest =>
    obtain ⟨t, ht, rfl⟩ := Option.map_eq_some_iff.mp hstep
    cases ht
    exact h.setIntention (.inr rfl) (h.control.setIntentionByRequest rfl)
  | pauseRequest =>
    obtain ⟨t, ht, rfl⟩ := Option.map_eq_some_iff.mp hstep
    cases ht
    have hset := h.setIntention (.inl rfl) (h.control.setIntentionByRequest rfl)
    unfold Control.pauseRequest
    cases r.control.permits (·.canPause) with
    | true => exact hset
    | false => exact h
  | skipForwardRequest a =>
    obtain ⟨t, ht, rfl⟩ := Option.map_eq_some_iff.mp hstep
    cases ht
    exact h.skipRequest (h.control.skipRequest _ _ a) (h.control.skipRequest_outcome _ _ a)
  | skipBackwardRequest a =>
    obtain ⟨t, ht, rfl⟩ := Option.map_eq_some_iff.mp hstep
    cases ht
    exact h.skipRequest (h.control.skipRequest _ _ a) (h.control.skipRequest_outcome _ _ a)
  | finish i outcome =>
    obtain ⟨t, ht, rfl⟩ := Option.map_eq_some_iff.mp hstep
    have hinv := h.control.step (e := .finish i outcome) trivial ht
    unfold Control.step at ht
    dsimp only at ht
    split at ht
    · cases ht
      exact h.keeps hinv (r.control.finish_keeps i outcome)
    · cases ht
  | completeFind a =>
    dsimp only at hstep
    split at hstep
    · cases hstep
    · next i hi =>
      obtain ⟨t, ht, rfl⟩ := Option.map_eq_some_iff.mp hstep
      exact h.completeFind hi hfits ht
  | completeUris i a =>
    dsimp only at hstep
    split at hstep
    · next hkind =>
      obtain ⟨t, ht, rfl⟩ := Option.map_eq_some_iff.mp hstep
      exact h.completeUris hkind ht
    · cases hstep

/-- Only who listens has a play command sent. -/
theorem Inv.sendsNoPlay (h : r.Inv) (e : SkipEvent) : r.SendsNoPlay e := by
  cases e with
  | completeUris i a =>
    intro hsends
    have hlistens : r.control.intention = .listening ∨ r.control.intention = .skippingLive := by
      unfold sendsPlayCommand at hsends
      dsimp only at hsends
      rw [Bool.and_eq_true, Bool.or_eq_true, decide_eq_true_eq, decide_eq_true_eq] at hsends
      exact hsends.2
    have hnot : ∀ intention, r.lastRequest = some intention → intention = .listening := by
      intro intention hlast
      have hkind := h.request intention hlast
      rcases h.kept intention hlast with hkept | ⟨-, -, -, hskipping⟩
      · rw [hkept] at hlistens
        rcases hkind with hkind | hkind | hkind
        · exact hkind
        · rcases hlistens with hyes | hyes <;> exact absurd (hkind.symm.trans hyes) nofun
        · rcases hlistens with hyes | hyes <;> exact absurd (hkind.symm.trans hyes) nofun
      · rcases hkind with rfl | rfl | rfl
        · rfl
        · have heq : UserIntention.skippingPaused = r.control.intention :=
            Option.some.inj hskipping
          rcases hlistens with hyes | hyes <;> exact absurd (heq.trans hyes) nofun
        · cases hskipping
    exact ⟨fun hstop => absurd (hnot _ hstop) nofun, fun hpause => absurd (hnot _ hpause) nofun⟩
  | playRequest _ _ => trivial
  | stopRequest => trivial
  | pauseRequest => trivial
  | skipForwardRequest _ => trivial
  | skipBackwardRequest _ => trivial
  | finish _ _ => trivial
  | completeFind _ => trivial

/-- Where a step does not fit, the intention is not the requested one afterwards. -/
theorem fits_of_sound (h : r.Inv) {e : SkipEvent}
    (hsound : ∀ r', r.step e = some r' → r'.Sound) : r.Fits e := by
  cases e with
  | completeFind a =>
    intro i previousIntention intention hi hkind hcompleted hposition hlast
    have hsome := (h.control.completeSkip_isSome hi hkind hcompleted).mpr hposition
    obtain ⟨t, ht⟩ := Option.isSome_iff_exists.mp hsome
    have hstep : r.step (.completeFind a) = some ⟨t, r.lastRequest⟩ := by
      unfold SkipRun.step
      dsimp only
      rw [hi]
      dsimp only
      unfold Control.step
      dsimp only
      rw [if_pos hcompleted, ht]
      rfl
    obtain ⟨hintention, hended⟩ := h.control.completeSkip_intention hi hkind hcompleted ht
    have hsame := hsound _ hstep hended intention hlast
    rw [hintention] at hsame
    have hrequest := h.request intention hlast
    split at hsame
    · subst hsame
      rcases hrequest with hno | hno | hno
      · cases hno
      · cases hno
      · cases hno
    · next hends => exact ⟨hsame, Bool.eq_false_iff.mpr hends⟩
  | playRequest _ _ => trivial
  | stopRequest => trivial
  | pauseRequest => trivial
  | skipForwardRequest _ => trivial
  | skipBackwardRequest _ => trivial
  | finish _ _ => trivial
  | completeUris _ _ => trivial

/-! ## Whole runs -/

/-- A player control on which no skip is under way, before the first request. -/
theorem Inv.start {s : Control} (h : s.Inv) (hidle : s.findNextOp = none) : Inv ⟨s, none⟩ where
  control := h
  skipping := fun hskipping =>
    absurd ((h.not_skipping_of_null hidle).symm.trans hskipping) Bool.false_ne_true
  request := nofun
  kept := nofun

/-- The last request is respected after each skip of a run, and no play command is sent after
a request to stop or to pause, if and only if all steps of the run fit. -/
theorem skip_run_sound {s : Control} (h : s.Inv) (hidle : s.findNextOp = none)
    (es : List SkipEvent) :
    AlongRun step (fun r e => (∀ r', r.step e = some r' → r'.Sound) ∧ r.SendsNoPlay e)
        ⟨s, none⟩ es ↔
      AlongRun step Fits ⟨s, none⟩ es := by
  refine alongRun_iff (I := Inv) (fun r e r' hr hfits hstep => hr.step hfits hstep) ?_ es
    (.start h hidle)
  intro r e hr
  constructor
  · exact fun hboth => fits_of_sound hr hboth.1
  · exact fun hfits => ⟨fun r' hstep => (hr.step hfits hstep).sound, hr.sendsNoPlay e⟩

/-- A player control that has been attached, with a selected audio source. -/
def attachedControl (intention : UserIntention) : Control :=
  { ((Control.init.plugAudioSource true).plugData).plugCrawler {} true with
    intention := intention }

theorem attachedControl_inv {intention : UserIntention} (h : intention.isSkipping = false) :
    (attachedControl intention).Inv := by
  have hplugged := (Control.init_inv.tracked.plugAudioSource true).plugData
  exact .of_not_skipping (hplugged.plugPermissions {} rfl rfl rfl) h

/-- Two requests to pause, one before and one after the skip request. -/
theorem skip_run_sound_pausing :
    AlongRun step (fun r e => (∀ r', r.step e = some r' → r'.Sound) ∧ r.SendsNoPlay e)
      ⟨attachedControl .pausing, none⟩
      [.pauseRequest, .skipForwardRequest {}, .pauseRequest,
        .finish 0 ⟨true, .reachedEndOfList, false⟩, .completeFind {}] := by
  refine (skip_run_sound (attachedControl_inv rfl) rfl _).mpr ?_
  refine ⟨trivial, ?_⟩
  rintro _ ⟨⟩
  refine ⟨trivial, ?_⟩
  rintro _ ⟨⟩
  refine ⟨trivial, ?_⟩
  rintro _ ⟨⟩
  refine ⟨trivial, ?_⟩
  rintro _ ⟨⟩
  refine ⟨?_, fun _ _ => trivial⟩
  rintro _ _ _ ⟨⟩ ⟨⟩ - - ⟨⟩
  exact ⟨rfl, rfl⟩

/-- A stop request that comes while the next item is being searched is lost. -/
theorem stop_request_lost :
    ¬∀ (s : Control) (es : List SkipEvent), s.Inv → s.findNextOp = none →
      AlongRun step (fun r e => (∀ r', r.step e = some r' → r'.Sound) ∧ r.SendsNoPlay e)
        ⟨s, none⟩ es := by
  intro h
  have hrun := h (attachedControl .listening)
    [.skipForwardRequest {}, .stopRequest, .finish 0 ⟨true, .somewhereInList, false⟩,
      .completeFind {}] (attachedControl_inv rfl) rfl
  have hlast := ((hrun.2 _ rfl).2 _ rfl).2 _ rfl
  have hsound := hlast.1.1 _ rfl
  have hintention := hsound (fun _ _ => nofun) .stopping rfl
  cases hintention

end SkipRun

end Drcpd.Player

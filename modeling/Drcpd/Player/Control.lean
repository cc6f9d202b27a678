/-
  Player/Control.lean --- playing, skipping and prefetching (`player_control.cc`,
  `player_control_skipper.cc`, `view_play.cc`).

  `Control` holds what `Player::Control` and `Player::Skipper` keep about the operations
  they have their crawler run, and the user intention of `Player::Data`.  What the
  functions learn from elsewhere (bookmarks, the state of the stream player and of its
  queue, whether an operation can be started) is in `Answers`.  Streams, retries and
  resume data do not matter here and are left out, and so are the messages.

  A function that dereferences a null pointer has no result.
-/
import Drcpd.Player.CrawlerOps

set_option autoImplicit false

namespace Drcpd.Player

open Crawler (Direction OpId PositionalState)

/-! ## The state -/

/-- `PlayerState`. -/
inductive PlayerState where
  | stopped
  | buffering
  | playing
  | paused
  deriving DecidableEq, Repr

/-- `AudioSourceState`. -/
inductive AudioSourceState where
  | deselected
  | requested
  | selected
  deriving DecidableEq, Repr

/-- `LocalPermissionsIface`. -/
structure LocalPermissions where
  canPlay : Bool := true
  canPause : Bool := true
  canSkipForward : Bool := true
  canSkipBackward : Bool := true
  canSkipOnError : Bool := true
  canPrefetchForGapless : Bool := true
  deriving DecidableEq, Repr

/-- `Control::FinishedWith`. -/
inductive FinishedWith where
  | prefetching
  | playing
  deriving DecidableEq, Repr

/-- `Control::Execution`. -/
inductive Execution where
  | now
  | delayed
  deriving DecidableEq, Repr

/-- `Skipper::RequestResult`. -/
inductive RequestResult where
  | rejected
  | firstSkipRequestPending
  | firstSkipRequestSuppressed
  | skipping
  | backToNormal
  | failed
  deriving DecidableEq, Repr

/-- `Skipper::MAX_PENDING_SKIP_REQUESTS`. -/
def maxPendingSkipRequests : Int := 0

/-- What the functions called for one event learn from elsewhere. -/
structure Answers where
  /-- An operation that is run now and does not search on from a cursor can be started. -/
  started : Bool := true
  /-- There is a bookmark to skip from. -/
  hasReferencePosition : Bool := true
  hasCurrentlyPlaying : Bool := true
  hasPrefetchCursor : Bool := true
  isQueueFull : Bool := false
  /-- `queue_item_from_op` succeeds. -/
  isQueued : Bool := true
  playerState : PlayerState := .playing
  deriving DecidableEq, Repr

/-- `Player::Control`, with its `Skipper` (`find_next_op_`, `pending_skip_requests_`) and
the intention of its `Player::Data`.  Of a pointer to something outside it is known
whether it is null. -/
structure Control where
  audioSource : Option AudioSourceState := none
  playerData : Bool := false
  crawlerHandle : Bool := false
  permissions : Option LocalPermissions := none
  finishedNotification : Bool := false
  audioSourceSelectedFindOp : Option OpId := none
  prefetchDirectionAfterFailure : Direction := .forward
  prefetchNextItemOp : Option OpId := none
  prefetchUrisOp : Option OpId := none
  findNextOp : Option OpId := none
  pendingSkipRequests : Int := 0
  intention : UserIntention := .nothing
  ops : CrawlerOps := CrawlerOps.init

/-- `SKIPPING_PAUSED` or `SKIPPING_LIVE`. -/
def UserIntention.isSkipping (intention : UserIntention) : Bool :=
  decide (intention = .skippingPaused) || decide (intention = .skippingLive)

namespace Control

/-- `permissions_`, where null permits everything. -/
def permits (s : Control) (what : LocalPermissions → Bool) : Bool :=
  (s.permissions.map what).getD true

/-- `is_active_controller`. -/
def isActiveController (s : Control) : Bool := s.playerData && s.audioSource.isSome

/-! ## Plugging -/

/-- `cancel_prefetch_ops`, on the pointers moved out of the player control. -/
def cancelPrefetchOps (s : Control) : Control :=
  { s with
    ops := (s.ops.cancel s.prefetchNextItemOp).cancel s.prefetchUrisOp
    prefetchNextItemOp := none
    prefetchUrisOp := none }

/-- `Skipper::reset__unlocked`. -/
def resetSkipper (s : Control) : Control :=
  { s with
    ops := s.ops.cancel s.findNextOp
    findNextOp := none
    pendingSkipRequests := 0 }

/-- `crawler_handle_ = nullptr`, which deactivates the crawler. -/
def dropCrawlerHandle (s : Control) : Control :=
  if s.crawlerHandle then { s with crawlerHandle := false, ops := s.ops.deactivate } else s

/-- `unplug`. -/
def unplug (s : Control) (isCompleteUnplug : Bool) : Control :=
  let s :=
    if isCompleteUnplug then { s with audioSource := none, finishedNotification := false } else s
  let s :=
    if s.playerData then { s with intention := .nothing, playerData := !isCompleteUnplug } else s
  let s := { s.resetSkipper with prefetchDirectionAfterFailure := .forward }.cancelPrefetchOps
  if isCompleteUnplug then { s.dropCrawlerHandle with permissions := none } else s

/-- `plug(permissions)`. -/
def plugPermissions (s : Control) (permissions : LocalPermissions) : Control :=
  { s.dropCrawlerHandle.resetSkipper with
    permissions := some permissions
    prefetchNextItemOp := none
    prefetchUrisOp := none }

/-- `plug(get_crawler_handle, permissions)`; the crawler throws if it is active already. -/
def plugCrawler (s : Control) (permissions : LocalPermissions) (isActivated : Bool) : Control :=
  { s.plugPermissions permissions with crawlerHandle := isActivated }

/-- `plug(audio_source, ...)`; an audio source that has been deselected is requested. -/
def plugAudioSource (s : Control) (isSelected : Bool) : Control :=
  { s with
    audioSource := some (if isSelected then .selected else .requested)
    finishedNotification := true }

/-- `plug(player_data)`. -/
def plugData (s : Control) : Control := { s with playerData := true }

/-! ## Operations -/

/-- `set_intention_after_skipping`. -/
def setIntentionAfterSkipping (s : Control) : Control :=
  match s.intention with
  | .nothing | .stopping | .pausing | .listening => s
  | .skippingPaused => { s with intention := .pausing }
  | .skippingLive => { s with intention := .listening }

/-- `ViewPlay::View::player_finished`. -/
def playerFinished (s : Control) (what : FinishedWith) (isActiveController : Bool)
    (playerState : PlayerState) : Control :=
  if what = .prefetching ∧ playerState ≠ .stopped then s
  else if isActiveController then s.unplug false
  else s

/-- `finished_notification_`, which is `player_finished` for the active controller. -/
def finished (s : Control) (what : FinishedWith) (a : Answers) : Control :=
  if s.finishedNotification then s.playerFinished what true a.playerState else s

/-- A new operation is made and run. -/
def runNew (s : Control) (purpose : Purpose) (direction : Direction) (a : Answers) :
    Option OpId × Control :=
  let r := (s.ops.make purpose direction).runNow s.ops.next a.started
  (if r.1 then some s.ops.next else none, { s with ops := r.2 })

/-- An operation gets the URIs of the item that has been found, and is the operation
`prefetch_uris_op_`, whether it could be started or not. -/
def runGetUris (s : Control) (purpose : Purpose) (direction : Direction) (a : Answers) : Control :=
  { (s.runNew purpose direction a).2 with prefetchUrisOp := some s.ops.next }

/-- The search has not led to an item. -/
def listExhausted (o : ControlOp) : Bool :=
  o.isOpFailure || decide (o.posState ≠ .somewhereInList)

/-- `found_item_for_playing`. -/
def foundItemForPlaying (s : Control) (i : OpId) (a : Answers) : Control :=
  let o := s.ops.op i
  let s := { s with prefetchNextItemOp := none }
  if o.isOpCanceled || !s.playerData then s
  else if listExhausted o then s.resetSkipper.setIntentionAfterSkipping.finished .playing a
  else s.runGetUris .urisForPlaying o.direction a

/-- `start_prefetch_next_item`. -/
def startPrefetchNextItem (s : Control) (direction : Direction)
    (forcePlayUriWhenAvailable : Bool) (execution : Execution) (a : Answers) : Control :=
  if !s.isActiveController || !s.crawlerHandle || s.prefetchNextItemOp.isSome ||
      s.findNextOp.isSome || a.isQueueFull || !a.hasPrefetchCursor then s
  else
    match execution with
    | .now =>
        let r := s.runNew (.prefetch forcePlayUriWhenAvailable) direction a
        { r.2 with prefetchNextItemOp := r.1 }
    | .delayed =>
        { s with
          ops := (s.ops.make (.prefetch forcePlayUriWhenAvailable) direction).runDelayed
            s.ops.next
          prefetchNextItemOp := some s.ops.next }

/-- `found_prefetched_item`. -/
def foundPrefetchedItem (s : Control) (i : OpId) (forcePlayUriWhenAvailable : Bool)
    (a : Answers) : Control :=
  let o := s.ops.op i
  if o.isOpCanceled then s
  else
    let s := { s with prefetchNextItemOp := none }
    if o.isOpFailure || !s.playerData then s
    else
      match o.posState with
      | .somewhereInList =>
          if s.permits (·.canPrefetchForGapless) then
            s.runGetUris (.prefetchedUris forcePlayUriWhenAvailable) o.direction a
          else s
      | .unknown => s
      | .reachedStartOfList =>
          if s.prefetchDirectionAfterFailure = .backward then
            { s with prefetchDirectionAfterFailure := .forward }.startPrefetchNextItem .forward
              false .delayed a
          else s
      | .reachedEndOfList =>
          if s.prefetchDirectionAfterFailure = .forward then s.finished .prefetching a else s

/-- `found_prefetched_item_uris`. -/
def foundPrefetchedItemUris (s : Control) (i : OpId) (forcePlayUriWhenAvailable : Bool)
    (a : Answers) : Control :=
  let o := s.ops.op i
  if o.isOpCanceled then s
  else
    let s := if s.prefetchUrisOp = some i then { s with prefetchUrisOp := none } else s
    if !s.playerData then s
    else if o.isOpFailure || !o.hasUris then
      s.startPrefetchNextItem o.direction forcePlayUriWhenAvailable .delayed a
    else
      match s.intention with
      | .nothing | .stopping => s
      | .skippingPaused | .skippingLive | .pausing | .listening =>
          if a.isQueued then
            s.startPrefetchNextItem s.prefetchDirectionAfterFailure false
              (if s.intention = .listening then .delayed else .now) a
          else s

/-! ## Skipping -/

/-- `set_intention_for_skipping`. -/
def setIntentionForSkipping : UserIntention → Option UserIntention
  | .nothing | .stopping => none
  | .pausing => some .skippingPaused
  | .listening => some .skippingLive
  | .skippingPaused => some .skippingPaused
  | .skippingLive => some .skippingLive

/-- `should_reject_skip_request`. -/
def shouldRejectSkipRequest (s : Control) (a : Answers) : Bool :=
  decide (a.playerState = .stopped) &&
    (decide (s.intention = .nothing) || decide (s.intention = .stopping))

/-- `run_new_find_next_fn` of `skip_request_prepare`. -/
def runNewFindNext (s : Control) (previousIntention : UserIntention) (direction : Direction)
    (a : Answers) : Option OpId × Control :=
  let s := s.cancelPrefetchOps
  if s.crawlerHandle then s.runNew (.skip previousIntention) direction a else (none, s)

/-- What a skip request in a direction adds to the pending skip requests. -/
def skipStep : Direction → Int
  | .backward => -1
  | .none | .forward => 1

/-- `Skipper::forward_request` and `Skipper::backward_request`. -/
def skipperRequest (s : Control) (direction : Direction) (previousIntention : UserIntention)
    (a : Answers) : RequestResult × Control :=
  let pending := s.pendingSkipRequests + skipStep direction
  if !a.hasReferencePosition then (.failed, s)
  else if s.shouldRejectSkipRequest a then (.rejected, s)
  else if s.pendingSkipRequests ≠ 0 then
    if maxPendingSkipRequests ≤ s.pendingSkipRequests * skipStep direction then (.rejected, s)
    else if pending ≠ 0 then (.skipping, { s with pendingSkipRequests := pending })
    else (.backToNormal, s.resetSkipper)
  else if s.findNextOp.isSome then
    (.skipping,
      { s with
        pendingSkipRequests :=
          if 0 < maxPendingSkipRequests then pending else s.pendingSkipRequests })
  else
    match setIntentionForSkipping s.intention with
    | none => (.rejected, s)
    | some intention =>
        match { s with intention := intention }.runNewFindNext previousIntention direction a with
        | (some op, s) => (.firstSkipRequestPending, { s with findNextOp := some op })
        | (none, s) => (.failed, s.resetSkipper)

/-- `skip_forward_request` and `skip_backward_request`. -/
def skipRequest (s : Control) (direction : Direction) (isPermitted : LocalPermissions → Bool)
    (a : Answers) : Control :=
  if !s.playerData || !s.crawlerHandle || !s.permits isPermitted ||
      decide (s.intention = .nothing) || decide (s.intention = .stopping) ||
      decide (s.audioSource ≠ some .selected) then s
  else
    match { s with prefetchDirectionAfterFailure := direction }.skipperRequest direction
        s.intention a with
    | (.firstSkipRequestPending, s') | (.skipping, s') | (.backToNormal, s')
    | (.rejected, s') => s'
    | (.firstSkipRequestSuppressed, s') | (.failed, s') => { s' with intention := s.intention }

/-- `skip_forward_request`. -/
def skipForwardRequest (s : Control) (a : Answers) : Control :=
  s.skipRequest .forward (·.canSkipForward) a

/-- `skip_backward_request`. -/
def skipBackwardRequest (s : Control) (a : Answers) : Control :=
  s.skipRequest .backward (·.canSkipBackward) a

/-- `found_item_uris_for_playing`. -/
def foundItemUrisForPlaying (s : Control) (i : OpId) (a : Answers) : Control :=
  let o := s.ops.op i
  if o.isOpCanceled then s
  else
    let s := if s.prefetchUrisOp = some i then { s with prefetchUrisOp := none } else s
    if !s.playerData then s
    else if o.isOpFailure || !o.hasUris then
      if s.permits (·.canSkipOnError) then
        match o.direction with
        | .forward => s.skipForwardRequest a
        | .backward => s.skipBackwardRequest a
        | .none => s
      else s
    else
      match s.intention with
      | .nothing | .stopping => s
      | .skippingPaused | .pausing =>
          if a.isQueued then s.startPrefetchNextItem .forward false .now a else s
      | .skippingLive | .listening => s

/-- The skip has led to an item, as far as the positional state tells. -/
def isSkipFound (o : ControlOp) : Bool :=
  match o.posState with
  | .somewhereInList | .unknown => true
  | .reachedStartOfList => decide (o.direction ≠ .backward)
  | .reachedEndOfList => decide (o.direction ≠ .forward)

/-- The function passed to `Skipper::reset` when a skip has hit the end of the list, which
makes the operation that jumps back to the currently playing item. -/
def jumpBackToCurrentlyPlaying (s : Control) (a : Answers) : Option Control :=
  if a.hasCurrentlyPlaying then
    let r := s.resetSkipper.runNew .jumpBack .none a
    some { r.2 with findNextOp := r.1 }
  else none

/-- `done_fn` of `skip_request_prepare`. -/
def skipDone (s : Control) (previousIntention : UserIntention) (op : Option OpId) (a : Answers) :
    Option Control :=
  if !s.playerData || !s.crawlerHandle then some s
  else
    match op with
    | none => none
    | some i =>
        if (s.ops.op i).isOpCanceled then some s
        else
          let s := { s with intention := previousIntention }
          if isSkipFound (s.ops.op i) then
            some ({ s with
              ops := s.ops.cancel s.prefetchNextItemOp
              prefetchNextItemOp := none }.foundItemForPlaying i a)
          else s.jumpBackToCurrentlyPlaying a

/-- The end of skipping in `Skipper::found_or_failed`. -/
def skipperDone (s : Control) (previousIntention : UserIntention) (a : Answers) :
    Option Control :=
  { s with findNextOp := none }.resetSkipper.skipDone previousIntention s.findNextOp a

/-- `Skipper::found_or_failed`. -/
def foundOrFailed (s : Control) (i : OpId) (previousIntention : UserIntention) (a : Answers) :
    Option Control :=
  let o := s.ops.op i
  if o.isOpSuccessful then
    let isAtEnd := decide (o.posState = .reachedStartOfList) ||
      decide (o.posState = .reachedEndOfList)
    let pending := if isAtEnd then 0 else s.pendingSkipRequests
    if pending = 0 then { s with pendingSkipRequests := 0 }.skipperDone previousIntention a
    else
      let direction := if 0 < pending then Direction.forward else Direction.backward
      match { s with pendingSkipRequests := pending - skipStep direction }.runNewFindNext
          previousIntention direction a with
      | (some op, s) => some { s with findNextOp := some op }
      | (none, s) => { s with findNextOp := none }.skipperDone previousIntention a
  else s.skipperDone previousIntention a

/-! ## Requests -/

/-- `play_request`. -/
def playRequest (s : Control) (findOp : Option OpId) (a : Answers) : Option Control :=
  if !s.permits (·.canPlay) || !s.playerData then some s
  else
    match s.audioSource with
    | none | some .deselected => some s
    | some .requested =>
        some { s with intention := .listening, audioSourceSelectedFindOp := findOp }
    | some .selected =>
        let s := { s with intention := .listening }
        match findOp with
        | none => some s
        | some i =>
            if s.crawlerHandle then
              let r := s.ops.runNow i a.started
              some { s with ops := r.2, prefetchNextItemOp := if r.1 then some i else none }
            else none

/-- `stop_request` and `pause_request`, once they are permitted. -/
def setIntentionByRequest (s : Control) (intention : UserIntention) : Control :=
  match s.audioSource with
  | none | some .deselected => s
  | some .requested | some .selected =>
      if s.isActiveController then { s with intention := intention } else s

/-- `stop_request`. -/
def stopRequest (s : Control) : Control := s.setIntentionByRequest .stopping

/-- `pause_request`. -/
def pauseRequest (s : Control) : Control :=
  if s.permits (·.canPause) then s.setIntentionByRequest .pausing else s

/-! ## Notifications -/

/-- `do_deselect_audio_source`. -/
def deselectAudioSource (s : Control) : Control :=
  { s with
    ops := s.ops.cancel s.audioSourceSelectedFindOp
    audioSourceSelectedFindOp := none
    audioSource := s.audioSource.map fun _ => .deselected }

/-- `source_deselected_notification`. -/
def sourceDeselectedNotification (s : Control) : Control :=
  if s.audioSource.isSome then s.deselectAudioSource else s

/-- `source_selected_notification`. -/
def sourceSelectedNotification (s : Control) (isOurs isOnHold : Bool) (a : Answers) :
    Option Control :=
  match s.audioSource with
  | none => some s
  | some state =>
      if isOurs then
        let s := { s with audioSource := some (if state = .requested then .selected else state) }
        if isOnHold || !s.playerData then some s
        else
          match s.intention with
          | .nothing | .skippingPaused | .skippingLive => some s
          | .listening =>
              { s with audioSourceSelectedFindOp := none }.playRequest
                s.audioSourceSelectedFindOp a
          | .stopping => some s.stopRequest
          | .pausing => some s.pauseRequest
      else some s.deselectAudioSource

/-- `NOTIFY_NOW_PLAYING` in the play view, with `play_notification`. -/
def nowPlayingNotification (s : Control) (isNewStream isQueueFull : Bool) (a : Answers) :
    Control :=
  let s := if isNewStream then { s with intention := .listening } else s
  let s :=
    if isNewStream && s.playerData && s.crawlerHandle &&
        decide (s.prefetchDirectionAfterFailure = .backward) then
      { s with prefetchDirectionAfterFailure := .forward }
    else s
  if s.isActiveController && !isQueueFull && isNewStream then
    s.startPrefetchNextItem .forward false .delayed a
  else s

/-- `Control::StopReaction`. -/
inductive StopReaction where
  | notAttached
  | streamIgnored
  | stopped
  | queued
  | takeNext
  | retry
  deriving DecidableEq, Repr

/-- `NOTIFY_STREAM_STOPPED` in the play view.  The reaction is decided by the stop
notifications of the player control, which may have to find more items. -/
def streamStoppedNotification (s : Control) (reaction : StopReaction) (isItemNeeded : Bool)
    (a : Answers) : Control :=
  match reaction with
  | .notAttached | .streamIgnored => s.playerFinished .playing false a.playerState
  | .stopped => s.playerFinished .playing true a.playerState
  | .queued | .retry => s
  | .takeNext =>
      if isItemNeeded then
        s.startPrefetchNextItem s.prefetchDirectionAfterFailure true .now a
      else s

/-! ## Events -/

/-- What can happen next.  If a find operation is passed with a play request, it is a new
one with the given direction. -/
inductive ControlEvent where
  | plugAudioSource (isSelected : Bool)
  | plugData
  | plugCrawler (permissions : LocalPermissions) (isActivated : Bool)
  | plugPermissions (permissions : LocalPermissions)
  | unplug (isCompleteUnplug : Bool)
  | playRequest (findDirection : Option Direction) (a : Answers)
  | stopRequest
  | pauseRequest
  | skipForwardRequest (a : Answers)
  | skipBackwardRequest (a : Answers)
  | startPrefetchNextItem (direction : Direction) (forcePlayUriWhenAvailable : Bool)
      (execution : Execution) (a : Answers)
  | sourceSelected (isOurs isOnHold : Bool) (a : Answers)
  | sourceDeselected
  | nowPlaying (isNewStream isQueueFull : Bool) (a : Answers)
  | streamStopped (reaction : StopReaction) (isItemNeeded : Bool) (a : Answers)
  /-- The end of the timer of a delayed operation. -/
  | timer (op : OpId)
  /-- An operation finishes, and its completion is posted as an event. -/
  | finish (op : OpId) (outcome : OpOutcome)
  /-- The event is processed. -/
  | complete (op : OpId) (a : Answers)
  deriving DecidableEq, Repr

/-- A call of the completion callback. -/
def completionCallback (s : Control) (i : OpId) (a : Answers) : Option Control :=
  match (s.ops.op i).purpose with
  | .skip previousIntention => s.foundOrFailed i previousIntention a
  | .jumpBack => some s.resetSkipper
  | .playing => some (s.foundItemForPlaying i a)
  | .prefetch force => some (s.foundPrefetchedItem i force a)
  | .urisForPlaying => some (s.foundItemUrisForPlaying i a)
  | .prefetchedUris force => some (s.foundPrefetchedItemUris i force a)

/-- `operation_complete_notification`. -/
def operationComplete (s : Control) (i : OpId) (a : Answers) : Option Control :=
  let r := (s.ops.op i).complete
  let s := { s with ops := s.ops.modify i fun _ => r.2 }
  if r.1 then s.completionCallback i a else some s

/-- One step.  `none` says that the event is not possible, or has no defined outcome. -/
def step (s : Control) : ControlEvent → Option Control
  | .plugAudioSource isSelected => some (s.plugAudioSource isSelected)
  | .plugData => some s.plugData
  | .plugCrawler permissions isActivated => some (s.plugCrawler permissions isActivated)
  | .plugPermissions permissions => some (s.plugPermissions permissions)
  | .unplug isCompleteUnplug => some (s.unplug isCompleteUnplug)
  | .playRequest none a => s.playRequest none a
  | .playRequest (some direction) a =>
      { s with ops := s.ops.make .playing direction }.playRequest (some s.ops.next) a
  | .stopRequest => some s.stopRequest
  | .pauseRequest => some s.pauseRequest
  | .skipForwardRequest a => some (s.skipForwardRequest a)
  | .skipBackwardRequest a => some (s.skipBackwardRequest a)
  | .startPrefetchNextItem direction force execution a =>
      some (s.startPrefetchNextItem direction force execution a)
  | .sourceSelected isOurs isOnHold a => s.sourceSelectedNotification isOurs isOnHold a
  | .sourceDeselected => some s.sourceDeselectedNotification
  | .nowPlaying isNewStream isQueueFull a =>
      some (s.nowPlayingNotification isNewStream isQueueFull a)
  | .streamStopped reaction isItemNeeded a =>
      some (s.streamStoppedNotification reaction isItemNeeded a)
  | .timer i =>
      (s.ops.op i).delayed.map fun isActive => { s with ops := s.ops.timer i isActive }
  | .finish i outcome =>
      if (s.ops.op i).base.state = .running ∨ (s.ops.op i).base.state = .canceling then
        some { s with ops := s.ops.modify i (·.finish outcome) }
      else none
  | .complete i a => if (s.ops.op i).isCompleted then s.operationComplete i a else none

/-- A player control to which nothing has been plugged yet. -/
def init : Control := {}

end Control

end Drcpd.Player

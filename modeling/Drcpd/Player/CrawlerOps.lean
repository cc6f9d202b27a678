/-
  Player/CrawlerOps.lean --- the operations `Player::Control` has its crawler run
  (`playlist_crawler.cc`, `playlist_crawler.hh`).

  The player control cares only for what comes of an operation.  An operation that has
  been started may therefore finish at any time and with any result here; how the
  results come about is left to the crawler.  All operations of the player control
  suppress their completion callbacks when they are cancelled.
-/
import Mathlib.Logic.Function.Basic
import Drcpd.Crawler.Iface

set_option autoImplicit false

namespace Drcpd.Player

open Crawler (CompletionCallbackFilter Direction OpId OpState OperationBase PositionalState)

/-- `UserIntention`. -/
inductive UserIntention where
  | nothing
  | stopping
  | pausing
  | listening
  | skippingPaused
  | skippingLive
  deriving DecidableEq, Repr

/-- What the completion callback of an operation does.  The one of the skipper has
captured the user intention at the time of the skip request. -/
inductive Purpose where
  | skip (previousIntention : UserIntention)
  | jumpBack
  | playing
  | prefetch (forcePlayUriWhenAvailable : Bool)
  | urisForPlaying
  | prefetchedUris (forcePlayUriWhenAvailable : Bool)
  deriving DecidableEq, Repr

/-- The operation searches on from where a cursor is (`FIND_NEXT`).  The others start with an
item (`FIND_FIRST`), or get the URIs of one. -/
def Purpose.findsNext : Purpose → Bool
  | .skip _ | .prefetch _ => true
  | .jumpBack | .playing | .urisForPlaying | .prefetchedUris _ => false

/-- What an operation that has finished has found. -/
structure OpOutcome where
  isSuccessful : Bool
  posState : PositionalState
  hasUris : Bool
  deriving DecidableEq, Repr

/-- An operation, its result, and what the crawler holds for it: its place in `ops_`, its
`DelayedOp` (and whether that is active), and the posted event
`VIEWMAN_CRAWLER_OP_COMPLETED`. -/
structure ControlOp where
  purpose : Purpose
  direction : Direction
  base : OperationBase := { completionCallbackFilter := .suppressCanceled }
  posState : PositionalState := .unknown
  hasUris : Bool := false
  isContained : Bool := false
  delayed : Option Bool := none
  isCompleted : Bool := false
  deriving DecidableEq, Repr

namespace ControlOp

/-- `is_op_canceled`. -/
def isOpCanceled (o : ControlOp) : Bool :=
  decide (o.base.state = .canceling) || decide (o.base.state = .canceled) ||
    o.base.wasCanceledAfterDone

/-- `is_op_failure`. -/
def isOpFailure (o : ControlOp) : Bool := decide (o.base.state = .failed)

/-- `is_op_successful`. -/
def isOpSuccessful (o : ControlOp) : Bool := decide (o.base.state = .done)

/-- `OperationBase::cancel`. -/
def cancel (o : ControlOp) : ControlOp := { o with base := o.base.cancel }

/-- `do_start`.  An operation that searches on yields, which never fails; `started` is the
answer for the others, which enter a list or make a call. -/
def doStart (o : ControlOp) (started : Bool) : Bool := o.purpose.findsNext || started

/-- `start`, and the removal from `ops_` if it fails. -/
def start (o : ControlOp) (started : Bool) : Bool × ControlOp :=
  match o.base.beginStart with
  | (true, base) =>
      if o.doStart started then (true, { o with base := base })
      else (false, { o with base := base.startFailed, isContained := false })
  | (false, base) => (false, { o with base := base, isContained := false })

/-- `DelayedOp::cancel`, for an active one. -/
def cancelDelayed (o : ControlOp) : ControlOp :=
  ({ o.cancel with delayed := some false }.start false).2

/-- `operation_finished`. -/
def finish (o : ControlOp) (outcome : OpOutcome) : ControlOp :=
  { o with
    base := (o.base.operationFinished outcome.isSuccessful).2
    posState := outcome.posState
    hasUris := outcome.hasUris
    isCompleted := true }

/-- `operation_complete_notification`: whether the completion callback is called. -/
def complete (o : ControlOp) : Bool × ControlOp :=
  if o.isContained then
    let notified := o.base.notifyCaller
    (notified.1, { o with base := notified.2, isContained := false, isCompleted := false })
  else (false, { o with isCompleted := false })

end ControlOp

/-- The operations by number, and the operation `delayed_op_` is for. -/
structure CrawlerOps where
  op : OpId → ControlOp
  next : OpId := 0
  delayedOp : Option OpId := none

namespace CrawlerOps

/-- No operation has been made. -/
def init : CrawlerOps := { op := fun _ => { purpose := .jumpBack, direction := .none } }

/-- Replace one operation. -/
def modify (s : CrawlerOps) (i : OpId) (f : ControlOp → ControlOp) : CrawlerOps :=
  { s with op := Function.update s.op i (f (s.op i)) }

/-- A new operation gets the number `next`. -/
def make (s : CrawlerOps) (purpose : Purpose) (direction : Direction) : CrawlerOps :=
  { s.modify s.next fun _ => { purpose := purpose, direction := direction } with
    next := s.next + 1 }

/-- `cancel`, if there is an operation. -/
def cancel (s : CrawlerOps) : Option OpId → CrawlerOps
  | none => s
  | some i => s.modify i ControlOp.cancel

/-- `run` without a delay. -/
def runNow (s : CrawlerOps) (i : OpId) (started : Bool) : Bool × CrawlerOps :=
  let r := ({ s.op i with isContained := true } : ControlOp).start started
  (r.1, s.modify i fun _ => r.2)

/-- `run` with a delay.  The operation takes the place of the one that is waiting. -/
def runDelayed (s : CrawlerOps) (i : OpId) : CrawlerOps :=
  let s :=
    match s.delayedOp with
    | none => s
    | some waiting => s.modify waiting ControlOp.cancelDelayed
  { s.modify i fun o => { o with isContained := true, delayed := some true } with
    delayedOp := some i }

/-- The end of a timer: `DelayedOp::run_delayed`.  What is delayed is the search for the next
item only. -/
def timer (s : CrawlerOps) (i : OpId) (isActive : Bool) : CrawlerOps :=
  { s.modify i fun o =>
      { (if isActive then (o.start true).2 else o) with delayed := none } with
    delayedOp := if s.delayedOp = some i then none else s.delayedOp }

/-- `deactivate`. -/
def deactivate (s : CrawlerOps) : CrawlerOps :=
  { s with
    op := fun i =>
      if (s.op i).isContained then { (s.op i).cancel with isContained := false } else s.op i }

end CrawlerOps

end Drcpd.Player

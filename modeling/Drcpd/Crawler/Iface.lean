/-
  Crawler/Iface.lean --- the crawler that runs operations (`playlist_crawler.cc`).

  Everything the crawler and its surroundings hold for an operation is kept in one
  record: its place in `ops_`, its `DelayedOp`, the events posted for it, the
  enter-list queries it has made and the functions passed with its hints.  Each
  operation is run once, so it has one `DelayedOp` at most.

  Events are processed in any order.  An enter-list result is handed to an operation
  in `ops_` that it matches, be it the one that made the query or not; what `do_cancel`
  does to the traversal list is seen as a result `CANCELED` of such a query.

  The source reports that result before the function returns which has cancelled the query,
  and it locks the crawler to do so.  Where the crawler is locked already, it waits for itself:
  `MayDeadlock` says where.  Otherwise the locks are left out, and so are the reference point
  and the bookmarks.
-/
import Drcpd.Crawler.FindNextOp

set_option autoImplicit false

namespace Drcpd.Crawler

open Drcpd.Lists

/-- An `OperationBase` object. -/
abbrev OpId : Type := Nat

/-- What an operation is constructed from. -/
structure NewOp where
  recursiveMode : RecursiveMode
  direction : Direction
  position : Cursor
  findMode : FindMode
  filter : CompletionCallbackFilter := .none
  hasCompletionCallback : Bool := true

/-- The operation that is constructed. -/
def NewOp.make (n : NewOp) : FindNextOp :=
  FindNextOp.make n.recursiveMode n.direction n.position n.findMode n.filter
    n.hasCompletionCallback

/-- An operation, and what is held for it. -/
structure OpRecord where
  op : FindNextOp
  /-- The operation has been passed to `run`. -/
  wasRun : Bool := false
  /-- It is contained in `ops_`. -/
  isContained : Bool := false
  /-- A timer for it is pending; whether its `DelayedOp` is active. -/
  delayed : Option Bool := none
  /-- The numbers of posted `VIEWMAN_CRAWLER_OP_YIELDED` and
  `VIEWMAN_CRAWLER_OP_COMPLETED` events. -/
  yielded : Nat := 0
  completed : Nat := 0
  queries : List EnterListParameters := []
  hinted : Nat := 0
  /-- The states in which its completion callback was called. -/
  called : List OpState := []
  /-- An empty function was called to notify the crawler. -/
  calledEmpty : Bool := false

namespace OpRecord

/-- The operation after a function that had the given effects.  The function passed to
`start` posts an event. -/
def update (r : OpRecord) : FindNextOp × Effects → OpRecord
  | (op, effects) =>
      { r with
        op := op
        queries := r.queries ++ effects.query.toList
        hinted := r.hinted + effects.hinted
        yielded :=
          r.yielded + (decide (effects.notification = some (.sent .yielding))).toNat
        completed :=
          r.completed + (decide (effects.notification = some (.sent .finished))).toNat
        calledEmpty := r.calledEmpty || decide (effects.notification = some .emptyFunction) }

/-- The result of a query has come. -/
def takeQuery (r : OpRecord) (query : EnterListParameters) : OpRecord :=
  { r with queries := r.queries.erase query }

/-- `OperationBase::cancel`. -/
def cancel (r : OpRecord) : OpRecord :=
  { r with op := { r.op with toOperationBase := r.op.toOperationBase.cancel } }

/-- `start`, and the removal from `ops_` if it fails. -/
def start (r : OpRecord) (listId : ListId) (enter : OpResult) : OpRecord :=
  match r.op.start listId enter with
  | (true, started) => r.update started
  | (false, started) => { r.update started with isContained := false }

/-- `DelayedOp::cancel`, for an active one. -/
def cancelDelayed (r : OpRecord) (listId : ListId) (enter : OpResult) : OpRecord :=
  start { r.cancel with delayed := r.delayed.map fun _ => false } listId enter

/-- The end of a timer: `DelayedOp::run_delayed`. -/
def runDelayed (r : OpRecord) (isActive : Bool) (listId : ListId) (enter : OpResult) :
    OpRecord :=
  match isActive with
  | true => start { r with delayed := none } listId enter
  | false => { r with delayed := none }

/-- `operation_complete_notification`. -/
def completeNotification (r : OpRecord) : OpRecord :=
  if r.isContained then
    let notified := r.op.toOperationBase.notifyCaller
    { r with
      isContained := false
      op := { r.op with toOperationBase := notified.2 }
      called := if notified.1 then r.called ++ [r.op.state] else r.called }
  else r

/-- `operation_yielded_notification`. -/
def yieldedNotification (r : OpRecord) (answers : FindNextOp → ListAnswers) (fuel : Nat) :
    Option OpRecord :=
  if r.isContained then (r.op.continueRunning answers fuel).map r.update else some r

/-- An operation that cannot be started is removed. -/
theorem start_eq_of_started {r : OpRecord} (hstate : r.op.state ≠ .notStarted)
    (listId : ListId) (enter : OpResult) :
    r.start listId enter =
      { r with
        op := { r.op with hasOpDoneNotificationCallback := true }
        isContained := false } := by
  have hstart : r.op.start listId enter =
      (false, { r.op with hasOpDoneNotificationCallback := true }, {}) := by
    unfold FindNextOp.start
    rw [OperationBase.beginStart_of_started hstate]
  unfold OpRecord.start
  rw [hstart]
  simp [update]

end OpRecord

/-- `Crawler::Iface`, with the operations known by numbers. -/
structure Iface where
  ops : OpId → OpRecord
  /-- `delayed_op_`. -/
  delayedOp : Option OpId := none

/-- The calls of the crawler's functions, and what is called back. -/
inductive CrawlerEvent where
  | run (op : OpId) (isDelayed : Bool) (listId : ListId) (enter : OpResult)
  | timer (op : OpId) (listId : ListId) (enter : OpResult)
  | cancel (op : OpId)
  /-- The result of a query of `owner`, handed to `target`. -/
  | enterListResult (owner : OpId) (query : EnterListParameters) (target : Option OpId)
      (result : OpResult) (lines : Nat) (answers : FindNextOp → ListAnswers) (fuel : Nat)
  | hintDone (op : OpId) (answers : FindNextOp → ListAnswers) (fuel : Nat)
  | yielded (op : OpId) (answers : FindNextOp → ListAnswers) (fuel : Nat)
  | completed (op : OpId)
  | deactivate

namespace Iface

/-- Replace one operation. -/
def setOp (s : Iface) (op : OpId) (r : OpRecord) : Iface :=
  { s with ops := Function.update s.ops op r }

/-- `run`, for an operation that is new.  A delayed operation takes the place of the one
that is waiting. -/
def run (s : Iface) (op : OpId) (isDelayed : Bool) (listId : ListId) (enter : OpResult) :
    Iface :=
  let r := { s.ops op with wasRun := true, isContained := true }
  if isDelayed then
    let s :=
      match s.delayedOp with
      | none => s
      | some waiting => s.setOp waiting ((s.ops waiting).cancelDelayed listId enter)
    { s.setOp op { r with delayed := some true } with delayedOp := some op }
  else s.setOp op (r.start listId enter)

/-- The end of the timer of an operation. -/
def runDelayed (s : Iface) (op : OpId) (isActive : Bool) (listId : ListId)
    (enter : OpResult) : Iface :=
  { s.setOp op ((s.ops op).runDelayed isActive listId enter) with
    delayedOp := if s.delayedOp = some op then none else s.delayedOp }

/-- `async_list__enter_list_event` may find this operation for the result. -/
def Finds (s : Iface) (ctx : EnterListParameters) (op : OpId) : Prop :=
  (s.ops op).isContained = true ∧ (s.ops op).op.matchesAsyncResult ctx = true

/-- `deactivate`. -/
def deactivate (s : Iface) : Iface :=
  { s with
    ops := fun op =>
      if (s.ops op).isContained then { (s.ops op).cancel with isContained := false }
      else s.ops op }

/-- The operation the result of a query is handed to handles it. -/
def handleResult (s : Iface) (ctx : EnterListParameters) (op : OpId) (result : OpResult)
    (lines : Nat) (answers : FindNextOp → ListAnswers) (fuel : Nat) : Option Iface :=
  ((s.ops op).op.enterListEvent answers fuel result ctx.callerId lines).map fun done =>
    s.setOp op ((s.ops op).update done)

instance (s : Iface) (ctx : EnterListParameters) (op : OpId) : Decidable (s.Finds ctx op) :=
  inferInstanceAs (Decidable (_ ∧ _))

/-- The query is taken from those of an operation. -/
def takeQuery (s : Iface) (owner : OpId) (query : EnterListParameters) : Iface :=
  s.setOp owner ((s.ops owner).takeQuery query)

/-- One step.  `none` says that the event is not possible, or that a loop takes more
fuel.  A result is handed to no operation only if the one that made the query is not
there or does not match. -/
def step (s : Iface) : CrawlerEvent → Option Iface
  | .run op isDelayed listId enter =>
      if (s.ops op).wasRun then none else some (s.run op isDelayed listId enter)
  | .timer op listId enter =>
      (s.ops op).delayed.map fun isActive => s.runDelayed op isActive listId enter
  | .cancel op => some (s.setOp op (s.ops op).cancel)
  | .enterListResult owner query target result lines answers fuel =>
      if query ∉ (s.ops owner).queries ∨ result = .started ∨ result = .busy then none
      else
        let s := s.takeQuery owner query
        match target with
        | some op =>
            if s.Finds query op then s.handleResult query op result lines answers fuel
            else none
        | none => if s.Finds query owner then none else some s
  | .hintDone op answers fuel =>
      let r := s.ops op
      if r.hinted = 0 then none
      else
        (r.op.hintedFn answers fuel).map fun done =>
          s.setOp op ({ r with hinted := r.hinted - 1 }.update done)
  | .yielded op answers fuel =>
      let r := s.ops op
      if r.yielded = 0 then none
      else
        ({ r with yielded := r.yielded - 1 }.yieldedNotification answers fuel).map (s.setOp op)
  | .completed op =>
      let r := s.ops op
      if r.completed = 0 then none
      else some (s.setOp op { r with completed := r.completed - 1 }.completeNotification)
  | .deactivate => some s.deactivate

/-! ## The lock -/

/-- A query is pending. -/
def IsEntering (s : Iface) : Prop := ∃ op, (s.ops op).queries ≠ []

/-- `cancel` calls `do_cancel`, and the traversal list cancels its query. -/
def callsDoCancel (op : FindNextOp) : Bool :=
  decide (op.state = .notStarted ∨ op.state = .running)

/-- `start` gets to `enter_list_async`, which cancels the query of the traversal list. -/
def entersList (op : FindNextOp) (listId : ListId) : Bool :=
  decide (op.state = .notStarted ∧ op.position.requestedListId ≠ listId ∧
    op.findMode = .findFirst)

/-- A query may be cancelled while the crawler is locked: by `run` and `deactivate`, or by the
operation to which a result is handed. -/
def MayDeadlock (s : Iface) : CrawlerEvent → Prop
  | .run op isDelayed listId _ =>
      s.IsEntering ∧
        if isDelayed then ∃ waiting, s.delayedOp = some waiting ∧ callsDoCancel (s.ops waiting).op
        else entersList (s.ops op).op listId
  | .enterListResult owner query target result _ _ _ =>
      (s.takeQuery owner query).IsEntering ∧ target.isSome ∧ result ≠ .canceled
  | .deactivate =>
      s.IsEntering ∧ ∃ op, (s.ops op).isContained ∧ callsDoCancel (s.ops op).op
  | .timer _ _ _ | .cancel _ | .hintDone _ _ _ | .yielded _ _ _ | .completed _ => False

/-- A crawler with nothing but new operations. -/
def init (new : OpId → NewOp) : Iface := { ops := fun op => { op := (new op).make } }

end Iface

end Drcpd.Crawler

/-
  Crawler/Operation.lean --- the base class of crawler operations
  (`OperationBase` in `playlist_crawler.hh`).

  The functions a derived class provides (`do_start`, `do_continue`, `do_cancel`)
  are left to it.  A `std::function` is known here by whether it is empty; what is
  done with a notification is up to the crawler.  Times and counters are left out,
  and so is the lock: each function is one step.
-/
import Mathlib.Tactic.Common

set_option autoImplicit false

namespace Drcpd.Crawler

/-- `OperationBase::State`. -/
inductive OpState where
  | notStarted
  | running
  | done
  | failed
  | canceling
  | canceled
  deriving DecidableEq, Repr

/-- `OperationBase::CompletionCallbackFilter`. -/
inductive CompletionCallbackFilter where
  | none
  | suppressCanceled
  deriving DecidableEq, Repr

/-- `OperationBase::OpDone`. -/
inductive OpDone where
  | yielding
  | finished
  deriving DecidableEq, Repr

/-- What comes of a notification of the crawler: it is sent, an empty function is
called (`std::bad_function_call`), or the state does not allow it. -/
inductive DoneNotification where
  | sent (status : OpDone)
  | emptyFunction
  | bug
  deriving DecidableEq, Repr

/-- `OperationBase`, and the `completion_callback_` of the classes derived from it. -/
structure OperationBase where
  state : OpState := .notStarted
  wasCanceledAfterDone : Bool := false
  completionCallbackFilter : CompletionCallbackFilter := .none
  hasOpDoneNotificationCallback : Bool := false
  hasCompletionCallback : Bool := true
  deriving DecidableEq, Repr

namespace OperationBase

/-- `cancel`, without the call of `do_cancel`. -/
def cancel (op : OperationBase) : OperationBase :=
  match op.state with
  | .notStarted | .running => { op with state := .canceling }
  | .done | .failed => { op with wasCanceledAfterDone := true }
  | .canceling | .canceled => op

/-- `is_op_active`. -/
def isOpActive (op : OperationBase) : Bool := decide (op.state = .running)

/-- A call of `op_done_notification_callback_`. -/
def notifyDone (op : OperationBase) (status : OpDone) : DoneNotification :=
  if op.hasOpDoneNotificationCallback then .sent status else .emptyFunction

/-- `operation_yield`. -/
def operationYield (op : OperationBase) : DoneNotification :=
  match op.state with
  | .running | .canceling => op.notifyDone .yielding
  | .notStarted | .done | .failed | .canceled => .bug

/-- `operation_finished`. -/
def operationFinished (op : OperationBase) (isSuccessful : Bool) :
    DoneNotification × OperationBase :=
  match op.state with
  | .running =>
      (op.notifyDone .finished,
        { op with
          state := if isSuccessful then .done else .failed
          hasOpDoneNotificationCallback := false })
  | .canceling | .canceled =>
      (op.notifyDone .finished,
        { op with state := .canceled, hasOpDoneNotificationCallback := false })
  | .notStarted | .done | .failed => (.bug, op)

/-- `start` up to the call of `do_start`, and whether it is called. -/
def beginStart (op : OperationBase) : Bool × OperationBase :=
  let op := { op with hasOpDoneNotificationCallback := true }
  match op.state with
  | .notStarted => (true, { op with state := .running })
  | .running | .done | .failed | .canceling | .canceled => (false, op)

/-- The end of `start` when `do_start` has failed. -/
def startFailed (op : OperationBase) : OperationBase := { op with state := .failed }

/-- `notify_caller` and `notify_caller_template`: whether the completion callback is
called. -/
def notifyCaller (op : OperationBase) : Bool × OperationBase :=
  match op.state with
  | .done | .failed =>
      (op.hasCompletionCallback, { op with hasCompletionCallback := false })
  | .canceled =>
      (op.hasCompletionCallback && decide (op.completionCallbackFilter = .none),
        { op with hasCompletionCallback := false })
  | .notStarted | .running | .canceling => (false, op)

/-! ## What the functions do to the state -/

section States

variable {op : OperationBase}

theorem cancel_of_unfinished
    (h : op.state = .notStarted ∨ op.state = .running ∨ op.state = .canceling) :
    op.cancel = { op with state := .canceling } := by
  obtain ⟨state, _, _, _, _⟩ := op
  rcases h with h | h | h <;> subst h <;> rfl

theorem cancel_of_ended
    (h : op.state = .done ∨ op.state = .failed ∨ op.state = .canceled) :
    op.cancel.state = op.state := by
  rcases h with h | h | h <;> simp [cancel, h]

@[simp] theorem cancel_callback (op : OperationBase) :
    op.cancel.hasOpDoneNotificationCallback = op.hasOpDoneNotificationCallback := by
  unfold cancel
  split <;> rfl

@[simp] theorem cancel_filter (op : OperationBase) :
    op.cancel.completionCallbackFilter = op.completionCallbackFilter := by
  unfold cancel
  split <;> rfl

/-- After `cancel` an operation can neither be started nor be active. -/
theorem cancel_state (op : OperationBase) :
    op.cancel.state ≠ .notStarted ∧ op.cancel.state ≠ .running := by
  unfold cancel
  cases h : op.state <;> simp [h]

theorem beginStart_of_started (h : op.state ≠ .notStarted) :
    op.beginStart = (false, { op with hasOpDoneNotificationCallback := true }) := by
  unfold beginStart
  cases hs : op.state with
  | notStarted => exact absurd hs h
  | _ => simp

theorem beginStart_of_notStarted (h : op.state = .notStarted) :
    op.beginStart =
      (true, { op with state := .running, hasOpDoneNotificationCallback := true }) := by
  simp [beginStart, h]

theorem operationFinished_of_running (h : op.state = .running)
    (hcallback : op.hasOpDoneNotificationCallback = true) (isSuccessful : Bool) :
    op.operationFinished isSuccessful =
      (.sent .finished,
        { op with
          state := if isSuccessful then .done else .failed
          hasOpDoneNotificationCallback := false }) := by
  simp [operationFinished, notifyDone, h, hcallback]

theorem operationFinished_of_canceling (h : op.state = .canceling)
    (hcallback : op.hasOpDoneNotificationCallback = true) (isSuccessful : Bool) :
    op.operationFinished isSuccessful =
      (.sent .finished,
        { op with state := .canceled, hasOpDoneNotificationCallback := false }) := by
  simp [operationFinished, notifyDone, h, hcallback]

/-- An operation that is not running and was not cancelled does not finish. -/
theorem operationFinished_of_done
    (h : op.state = .notStarted ∨ op.state = .done ∨ op.state = .failed)
    (isSuccessful : Bool) : op.operationFinished isSuccessful = (.bug, op) := by
  rcases h with h | h | h <;> simp [operationFinished, h]

/-- Only the completion callback is given up. -/
theorem notifyCaller_same (op : OperationBase) :
    op.notifyCaller.2.state = op.state ∧
      op.notifyCaller.2.completionCallbackFilter = op.completionCallbackFilter := by
  unfold notifyCaller
  split <;> exact ⟨rfl, rfl⟩

end States

end OperationBase

end Drcpd.Crawler

/-
  DBus/AsyncCall.lean --- one asynchronous D-Bus call (`dbus_async.hh`).

  `AsyncCall_` and `AsyncCall` are one record here.  The functions passed to the
  call are left to its users: `readyLocked` and `readyDirectly` say whether the
  result-available function is to be called, and `wait_for_result` ends with
  `readyDirectly` where the source calls `ready(nullptr, nullptr, false)`.

  `is_canceling_` guards against a `cancel` from within a `cancel`.  Cancelling a
  `GCancellable` calls nothing back, so it is never seen set.  The busy flags are
  left out.
-/
import Mathlib.Data.Option.Basic

set_option autoImplicit false

namespace Drcpd.DBus

/-- `DBus::AsyncResult`. -/
inductive AsyncResult where
  | initialized
  | inProgress
  | ready
  | done
  | cancelingDirectly
  | canceled
  | restarted
  | failed
  deriving DecidableEq, Repr

/-- `DBus::CancelResult`. -/
inductive CancelResult where
  | canceled
  | blockedRecursiveCall
  | notRunning
  deriving DecidableEq, Repr

/-- `AsyncCall_::is_success`. -/
def AsyncResult.isSuccess : AsyncResult → Bool
  | .ready | .done => true
  | .initialized | .inProgress | .cancelingDirectly | .canceled | .restarted | .failed => false

/-- `DBus::AsyncCall` with results in `R` and the exceptions of `put_result` in `E`.
`isCancelled` is the state of its `GCancellable`. -/
structure AsyncCall (R E : Type) where
  callState : AsyncResult := .initialized
  isCancelled : Bool := false
  isCanceledForRestart : Bool := false
  promise : Option (Except E R) := none
  futureTaken : Bool := false
  returnValue : Option R := none
  haveReportedResult : Bool := false
  deriving Repr

/-- How `wait_for_result` ends: with a state, with a direct call of `ready`, or with
the exception of `put_result`.  It is stuck if the promise is never set, or if the
future has been taken before. -/
inductive WaitOutcome where
  | returned (state : AsyncResult)
  | readyDirectly
  | threw
  | stuck
  deriving DecidableEq, Repr

namespace AsyncCall

variable {R E : Type}

/-- `invoke`. -/
def invoke (c : AsyncCall R E) : AsyncCall R E :=
  { c with callState := .inProgress, haveReportedResult := false }

/-- `cancel`. -/
def cancel (c : AsyncCall R E) (willBeRestarted : Bool) : CancelResult × AsyncCall R E :=
  if c.isCancelled then (.notRunning, c)
  else (.canceled, { c with isCanceledForRestart := willBeRestarted, isCancelled := true })

/-- `success`. -/
def success (c : AsyncCall R E) : Bool := c.callState.isSuccess

/-- The part of `ready_locked` for a cancelled call. -/
def markCanceled (c : AsyncCall R E) : AsyncCall R E :=
  { c with callState := if c.isCanceledForRestart then .restarted else .canceled }

/-- The part of `ready_locked` that gets the result.  Setting the promise a second
time fails. -/
def putResult (c : AsyncCall R E) : Except E R → AsyncCall R E
  | .ok value =>
      match c.promise with
      | none => { c with callState := .ready, promise := some (.ok value) }
      | some _ => { c with callState := .failed }
  | .error e => { c with callState := .failed, promise := c.promise.or (some (.error e)) }

/-- The end of `ready_locked`: whether to report the result. -/
def report (c : AsyncCall R E) : Bool × AsyncCall R E :=
  (!c.haveReportedResult, { c with haveReportedResult := true })

/-- `ready_locked` when GLib calls back. -/
def readyLocked (c : AsyncCall R E) (answer : Except E R) : Bool × AsyncCall R E :=
  (if c.isCancelled then c.markCanceled else c.putResult answer).report

/-- `ready_locked` as `wait_for_result` calls it, for a cancelled call. -/
def readyDirectly (c : AsyncCall R E) : Bool × AsyncCall R E := c.markCanceled.report

/-- `wait_for_result`, for a call that may always continue. -/
def waitForResult (c : AsyncCall R E) : WaitOutcome × AsyncCall R E :=
  match c.callState with
  | .done | .cancelingDirectly | .canceled | .restarted => (.returned c.callState, c)
  | .initialized | .inProgress | .ready | .failed =>
      if c.futureTaken then (.stuck, c)
      else if c.isCancelled then
        (.readyDirectly, { c with futureTaken := true, callState := .cancelingDirectly })
      else
        let state := if c.callState = .failed then .failed else .done
        match c.promise with
        | none => (.stuck, { c with futureTaken := true })
        | some (.ok value) =>
            (.returned state,
              { c with futureTaken := true, callState := state, returnValue := some value })
        | some (.error _) => (.threw, { c with futureTaken := true, callState := state })

end AsyncCall

end Drcpd.DBus

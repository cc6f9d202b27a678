/-
  DBus/AsyncBusy.lean --- asynchronous D-Bus calls and their busy source.

  `wait_for_result` blocks until the promise is set, or until it is told to give up.  Other
  threads go on meanwhile, and so the function is split where its loop starts.  `ready` is
  split where the lock is given up, between the result-available function and the call of
  `Busy::clear`.

  What is said about one call here is put together for all calls of a source in
  `DBus/AsyncBusyRuns.lean`.
-/
import Mathlib.Data.Bool.Basic
import Drcpd.DBus.AsyncCall
import Drcpd.Busy.State

set_option autoImplicit false

namespace Drcpd.DBus

variable {R E : Type}

/-! ## Waiting for the result -/

namespace AsyncCall

/-- `is_active`. -/
def isActive (c : AsyncCall R E) : Bool :=
  match c.callState with
  | .inProgress | .ready | .done | .cancelingDirectly | .canceled | .restarted | .failed => true
  | .initialized => false

/-- `wait_for_result` gets the future of the call. -/
def getsFuture (c : AsyncCall R E) : Bool :=
  match c.callState with
  | .done | .cancelingDirectly | .canceled | .restarted => false
  | .initialized | .inProgress | .ready | .failed => !c.futureTaken

/-- `wait_for_result`, behind the loop. -/
def finishWait (c : AsyncCall R E) : WaitOutcome × AsyncCall R E :=
  if c.isCancelled then (.readyDirectly, { c with callState := .cancelingDirectly })
  else
    let state := if c.callState = .failed then .failed else .done
    match c.promise with
    | none => (.stuck, c)
    | some (.ok value) =>
        (.returned state, { c with callState := state, returnValue := some value })
    | some (.error _) => (.threw, { c with callState := state })

/-- `wait_for_result`, up to the loop.  There is no outcome yet where the loop is entered. -/
def beginWait (c : AsyncCall R E) : Option WaitOutcome × AsyncCall R E :=
  match c.callState with
  | .done | .cancelingDirectly | .canceled | .restarted => (some (.returned c.callState), c)
  | .initialized | .inProgress | .ready | .failed =>
      if c.futureTaken then (some .threw, c)
      else if c.callState ≠ .failed ∧ c.isCancelled = false then
        (none, { c with futureTaken := true })
      else
        let result := finishWait { c with futureTaken := true }
        (some result.1, result.2)

/-- The two parts make `wait_for_result`, if nothing happens between them. -/
theorem waitForResult_eq {c : AsyncCall R E} (hfuture : c.futureTaken = false) :
    c.waitForResult =
      match c.beginWait with
      | (none, c') => c'.finishWait
      | (some outcome, c') => (outcome, c') := by
  obtain ⟨state, cancelled, restart, promise, taken, value, reported⟩ := c
  cases hfuture
  cases cancelled with
  | true => cases state <;> rfl
  | false => cases state <;> rcases promise with _ | (error | result) <;> rfl

end AsyncCall

/-! ## One call -/

/-- A call and what has been done for it: whether a thread is in the loop of
`wait_for_result`, whether GLib has called back, how often the result-available function and
`Busy::clear` have been called, and how often `Busy::clear` has yet to be called. -/
structure CallRun (R E : Type) where
  call : AsyncCall R E := {}
  waiting : Bool := false
  calledBack : Bool := false
  reports : Nat := 0
  toClear : Nat := 0
  clears : Nat := 0

/-- The functions of a call, called by any thread, and the steps of the threads in them. -/
inductive CallEvent (R E : Type) where
  | invoke
  | cancel (willBeRestarted : Bool)
  | beginWait
  | endWait (mayContinue : Bool)
  | cancelAndDelete
  | ready (answer : Except E R)
  | clear

namespace CallRun

/-- The end of `ready_locked`. -/
def readied (c : CallRun R E) (result : Bool × AsyncCall R E) : CallRun R E :=
  { c with
    call := result.2
    reports := c.reports + result.1.toNat
    toClear := c.toClear + 1 }

/-- The end of `wait_for_result`. -/
def waited (c : CallRun R E) (result : WaitOutcome × AsyncCall R E) : CallRun R E :=
  match result.1 with
  | .readyDirectly => c.readied result.2.readyDirectly
  | .returned _ | .threw | .stuck => { c with call := result.2 }

/-- `wait_for_result`, up to the loop or up to its end. -/
def beginWait (c : CallRun R E) : CallRun R E :=
  match c.call.beginWait with
  | (none, call) => { c with call := call, waiting := true }
  | (some outcome, call) => c.waited (outcome, call)

/-- One step of a call that is used as it is meant to be: it is invoked once, and only then
cancelled or waited for.  GLib calls back once for each `invoke`. -/
def step (c : CallRun R E) : CallEvent R E → Option (CallRun R E)
  | .invoke => if c.call.isActive then none else some { c with call := c.call.invoke }
  | .cancel willBeRestarted =>
      if c.call.isActive then some { c with call := (c.call.cancel willBeRestarted).2 } else none
  | .beginWait => if c.call.isActive then some c.beginWait else none
  | .endWait mayContinue =>
      if c.call.isActive && c.waiting then
        if c.call.promise.isSome then some (waited { c with waiting := false } c.call.finishWait)
        else if mayContinue then none
        else
          some
            (waited { c with waiting := false }
              (AsyncCall.finishWait { c.call with isCancelled := true }))
      else none
  | .cancelAndDelete =>
      if c.call.isActive then some (beginWait { c with call := (c.call.cancel false).2 })
      else none
  | .ready answer =>
      if c.call.isActive && !c.calledBack then
        some (readied { c with calledBack := true } (c.call.readyLocked answer))
      else none
  | .clear =>
      if 0 < c.toClear then some { c with toClear := c.toClear - 1, clears := c.clears + 1 }
      else none

/-- The result is reported once, and `Busy::clear` called once for it. -/
structure Sound (c : CallRun R E) : Prop where
  once : c.reports ≤ 1
  cleared : c.clears + c.toClear = c.reports
  complete : c.calledBack = true → c.reports = 1

/-- The call has been made, and its result has not been reported. -/
def unreported (c : CallRun R E) : Nat :=
  if c.call.isActive = true ∧ c.reports = 0 then 1 else 0

/-- `wait_for_result` does not come to report the result itself: it finds no cancelled call
whose end it has not seen yet, and does not give up. -/
def Fits (c : CallRun R E) : CallEvent R E → Prop
  | .beginWait => ¬(c.call.getsFuture = true ∧ c.call.isCancelled = true)
  | .endWait _ => c.call.isCancelled = false ∧ c.call.promise.isSome = true
  | .cancelAndDelete => c.call.getsFuture = false
  | .invoke | .cancel _ | .ready _ | .clear => True

end CallRun

end Drcpd.DBus

/-
  Rnf/CookieCalls.lean --- all calls of a file browser and the list broker
  (`rnfcall_cookiecall.hh`, `view_filebrowser.cc`, `view_manager.cc`).

  A call that gets a cookie stores its notify function and its fetch function in
  `PendingCookies`; both are known by the number of the call.  The list broker answers a
  cookie by a signal; the D-Bus thread calls the notify functions of all cookies in it and
  stores an event, and the main thread calls the fetch functions as the event is dispatched.
  A function is taken from its map in one step and called in another one.  While a call is
  being requested, the cookies are locked: this is one step.  `manage_cookie` does not throw.

  A list broker may forget about a cookie which it has been told to abort.  Otherwise, it
  answers each cookie that it has handed out once.
-/
import Drcpd.Browser.PendingCookies
import Drcpd.Rnf.Call

set_option autoImplicit false

namespace Drcpd.Rnf

open Drcpd.Browser

/-- `DataAvailable` or `DataError`: the cookies, and whether their errors say that they have
failed. -/
abbrev Signal : Type := List (UInt32 × Bool)

/-- A function that has been taken, to be called for a cookie. -/
structure Taken where
  cookie : UInt32
  failed : Bool
  call : Nat
  deriving DecidableEq, Repr

/-- The loop over the cookies of a signal. -/
structure Telling where
  done : Signal := []
  rest : Signal
  taken : Option Taken := none
  deriving DecidableEq, Repr

/-- The calls, the cookies, the list broker, and both threads; `requested` is the cookie that
a call has got, and `told` are the calls whose context data have been notified. -/
structure CookieCalls (R E : Type) where
  calls : Nat → Call R E := fun _ => {}
  pending : PendingCookies := {}
  /-- What the list broker has not answered yet. -/
  outstanding : List UInt32 := []
  /-- What it has forgotten about. -/
  dropped : List UInt32 := []
  channel : List Signal := []
  dbusThread : Option Telling := none
  events : List Signal := []
  mainThread : Option Telling := none
  /-- The calls of `abort_request` that are waiting for the abort-cookie function. -/
  aborts : List (Nat × UInt32) := []
  requested : Nat → Option UInt32 := fun _ => none
  told : List Nat := []
  /-- A fetch function has thrown a `BadStateError`. -/
  badState : Bool := false

/-- What happens to the calls, the list broker, and the threads. -/
inductive CookieCallEvent (R E : Type) where
  | request (call : Nat) (answer : RequestAnswer R E)
  /-- The list broker sends a signal. -/
  | answer (signal : Signal)
  /-- The D-Bus thread takes a signal, announces the next cookie, calls its notify function,
  and stores the event when it is done. -/
  | receive
  | announce
  | notify
  | store
  /-- The main thread takes an event, finishes the next cookie, calls its fetch function, and
  is done with the event. -/
  | dispatch
  | finish
  | fetchAndNotify (answer : Except E R)
  | dispatched
  /-- The functions called by the owner of a call. -/
  | fetch (call : Nat) (answer : Except E R)
  | abortBegin (call : Nat)
  | abortEnd (call : Nat) (cookie : UInt32) (answer : AbortAnswer) (isDropped : Bool)
  | getResult (call : Nat)
  | destroy (call : Nat) (answer : AbortAnswer)

namespace CookieCalls

variable {R E : Type}

/-- A call changes. -/
def setCall (s : CookieCalls R E) (call : Nat) (c : Call R E) : CookieCalls R E :=
  { s with calls := Function.update s.calls call c }

/-- `set_pending_cookie`, for a cookie which the list broker has handed out. -/
def setPendingCookie (s : CookieCalls R E) (call : Nat) (cookie : UInt32) : CookieCalls R E :=
  { s with
    pending := (s.pending.add cookie { add := call } { add := call }).2
    outstanding := cookie :: s.outstanding
    requested := Function.update s.requested call (some cookie) }

/-- `CookieCall::request`. -/
def request (s : CookieCalls R E) (call : Nat) (answer : RequestAnswer R E) :
    Option (CookieCalls R E) :=
  match (s.calls call).request answer with
  | (none, _) => some s
  | (some _, c) =>
      match answer with
      | .cookie cookie => some ((s.setCall call c).setPendingCookie call cookie.val)
      | .unmanaged _ _ => none
      | .fastPath _ => some { s.setCall call c with told := s.told ++ [call] }
      | .fastPathThrows _ | .failed _ => some (s.setCall call c)

/-- The list broker answers cookies that it has handed out. -/
def answer (s : CookieCalls R E) (signal : Signal) : Option (CookieCalls R E) :=
  let cookies := signal.map (·.1)
  if cookies.Nodup ∧ cookies.all (· ∈ s.outstanding) = true then
    some { s with
      outstanding := s.outstanding.filter fun cookie => cookie ∉ cookies
      channel := s.channel ++ [signal] }
  else none

/-- The D-Bus thread begins with `data_cookies_available_announcement`, or with
`data_cookies_error_announcement`. -/
def receive (s : CookieCalls R E) : Option (CookieCalls R E) :=
  match s.dbusThread, s.channel with
  | none, signal :: channel =>
      some { s with channel := channel, dbusThread := some { rest := signal } }
  | none, [] | some _, _ => none

/-- `PendingCookies::available`, up to the call of the notify function. -/
def announce (s : CookieCalls R E) : Option (CookieCalls R E) :=
  match s.dbusThread with
  | some ⟨done, (cookie, failed) :: rest, none⟩ =>
      let taken := s.pending.available cookie
      some { s with
        pending := taken.2
        dbusThread := some ⟨done ++ [(cookie, failed)], rest,
          taken.1.map fun fn => ⟨cookie, failed, fn.add⟩⟩ }
  | some ⟨_, _, _⟩ | none => none

/-- The notify function. -/
def notify (s : CookieCalls R E) : Option (CookieCalls R E) :=
  match s.dbusThread with
  | some ⟨done, rest, some taken⟩ =>
      let c := s.calls taken.call
      let c :=
        if taken.failed then c.abortedNotification taken.cookie
        else c.resultAvailableNotification taken.cookie
      some { s.setCall taken.call c with dbusThread := some ⟨done, rest, none⟩ }
  | some ⟨_, _, none⟩ | none => none

/-- `store_event`, where the event is posted. -/
def store (s : CookieCalls R E) : Option (CookieCalls R E) :=
  match s.dbusThread with
  | some ⟨done, [], none⟩ => some { s with dbusThread := none, events := s.events ++ [done] }
  | some ⟨_, _, _⟩ | none => none

/-- The main thread begins with `data_cookies_available`, or with `data_cookies_error`. -/
def dispatch (s : CookieCalls R E) : Option (CookieCalls R E) :=
  match s.mainThread, s.events with
  | none, signal :: events =>
      some { s with events := events, mainThread := some { rest := signal } }
  | none, [] | some _, _ => none

/-- `PendingCookies::finish`, up to the call of the fetch function. -/
def finish (s : CookieCalls R E) : Option (CookieCalls R E) :=
  match s.mainThread with
  | some ⟨done, (cookie, failed) :: rest, none⟩ =>
      let taken := s.pending.finish cookie
      some { s with
        pending := taken.2
        mainThread := some ⟨done ++ [(cookie, failed)], rest,
          taken.1.map fun fn => ⟨cookie, failed, fn.add⟩⟩ }
  | some ⟨_, _, _⟩ | none => none

/-- `fetch_and_notify_unlocked`, called by the fetch function. -/
def fetchAndNotify (s : CookieCalls R E) (answer : Except E R) : Option (CookieCalls R E) :=
  match s.mainThread with
  | some ⟨done, rest, some taken⟩ =>
      let fetched := (s.calls taken.call).fetchUnlocked answer
      let s := { s.setCall taken.call fetched.2 with mainThread := some ⟨done, rest, none⟩ }
      match fetched.1.result with
      | some _ => some { s with told := s.told ++ [taken.call] }
      | none => some { s with badState := true }
  | some ⟨_, _, none⟩ | none => none

/-- The event has been dispatched. -/
def dispatched (s : CookieCalls R E) : Option (CookieCalls R E) :=
  match s.mainThread with
  | some ⟨_, [], none⟩ => some { s with mainThread := none }
  | some ⟨_, _, _⟩ | none => none

/-- `abort_request`, up to the call of the abort-cookie function. -/
def abortBegin (s : CookieCalls R E) (call : Nat) : CookieCalls R E :=
  match (s.calls call).abortBegin with
  | (.returned _, c) => s.setCall call c
  | (.unlocked cookie, c) => { s.setCall call c with aborts := (call, cookie) :: s.aborts }

/-- The list broker forgets about a cookie that is to be aborted. -/
def drop (s : CookieCalls R E) (cookie : UInt32) : CookieCalls R E :=
  if cookie ∈ s.outstanding then
    { s with
      outstanding := s.outstanding.filter (· ≠ cookie)
      dropped := cookie :: s.dropped }
  else s

/-- `abort_request` from the answer of the abort-cookie function on. -/
def abortEnd (s : CookieCalls R E) (call : Nat) (cookie : UInt32) (answer : AbortAnswer)
    (isDropped : Bool) : Option (CookieCalls R E) :=
  if (call, cookie) ∈ s.aborts then
    let s := { s with aborts := s.aborts.erase (call, cookie) }
    let s := s.setCall call ((s.calls call).abortEnd answer).2
    some (if answer = .success ∧ isDropped = true then s.drop cookie else s)
  else none

/-- The functions that are stored, or that have been taken, share the call. -/
def isShared (s : CookieCalls R E) (call : Nat) : Bool :=
  (match s.requested call with
    | none => false
    | some cookie =>
        (s.pending.notificationFunctions cookie).any (·.add == call) ||
          (s.pending.fetchFunctions cookie).any (·.add == call)) ||
    (s.dbusThread.bind (·.taken)).any (·.call == call) ||
    (s.mainThread.bind (·.taken)).any (·.call == call)

/-- `abort_request_on_destroy`, and the destructor of the base class. -/
def destroy (s : CookieCalls R E) (call : Nat) (answer : AbortAnswer) :
    Option (CookieCalls R E) :=
  if s.isShared call then none
  else some (s.setCall call (((s.calls call).abortRequest answer).2.setState .aboutToDestroy))

/-- One event. -/
def step (s : CookieCalls R E) : CookieCallEvent R E → Option (CookieCalls R E)
  | .request call answer => s.request call answer
  | .answer signal => s.answer signal
  | .receive => s.receive
  | .announce => s.announce
  | .notify => s.notify
  | .store => s.store
  | .dispatch => s.dispatch
  | .finish => s.finish
  | .fetchAndNotify answer => s.fetchAndNotify answer
  | .dispatched => s.dispatched
  | .fetch call answer => some (s.setCall call ((s.calls call).fetchUnlocked answer).2)
  | .abortBegin call => some (s.abortBegin call)
  | .abortEnd call cookie answer isDropped => s.abortEnd call cookie answer isDropped
  | .getResult call => ((s.calls call).getResultUnlocked).map fun result => s.setCall call result.2
  | .destroy call answer => s.destroy call answer

end CookieCalls

end Drcpd.Rnf

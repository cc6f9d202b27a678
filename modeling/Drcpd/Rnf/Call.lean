/-
  Rnf/Call.lean --- one request/notify/fetch method call (`rnfcall.hh`,
  `rnfcall.cc`).

  `CallBase` and `Call` are one record here.  Each function is one step under the
  call's lock, with one exception: `abort_request` gives up the lock while the
  abort-cookie function runs, so it is two functions, `abortBegin` up to that point
  and `abortEnd` from there on.

  The answers of the functions passed to the call (`do_request`, `manage_cookie`,
  `do_fetch`, the abort-cookie function) are arguments.  `fetch_blocking` is `fetch`
  once the state is no longer `waitForNotification`.  The busy flag is left out.
-/
import Mathlib.Data.UInt

set_option autoImplicit false

namespace Drcpd.Rnf

/-- `DBusRNF::CallState`. -/
inductive CallState where
  | initialized
  | waitForNotification
  | readyToFetch
  | resultFetched
  | aborting
  | abortedByListBroker
  | failed
  | aboutToDestroy
  deriving DecidableEq, Repr

/-- The states a call ends in. -/
def CallState.IsFinal (state : CallState) : Prop :=
  state = .resultFetched ∨ state = .abortedByListBroker ∨ state = .failed

instance (state : CallState) : Decidable state.IsFinal :=
  inferInstanceAs (Decidable (_ ∨ _ ∨ _))

/-- A data cookie the list broker has handed out. -/
abbrev Cookie : Type := { cookie : UInt32 // cookie ≠ 0 }

/-- How `do_request` and the function called next end.  A request that returns
no cookie has set the promise. -/
inductive RequestAnswer (R E : Type) where
  /-- `do_request` returns a cookie, `manage_cookie` returns. -/
  | cookie (cookie : Cookie)
  /-- `do_request` returns a cookie, `manage_cookie` throws. -/
  | unmanaged (cookie : Cookie) (e : E)
  /-- `do_request` returns 0, `fast_path` returns. -/
  | fastPath (result : R)
  /-- `do_request` returns 0, `fast_path` throws. -/
  | fastPathThrows (result : R)
  /-- `do_request` throws. -/
  | failed (e : E)
  deriving DecidableEq, Repr

/-- What the abort-cookie function does. -/
inductive AbortAnswer where
  | success
  | failure
  | exception
  deriving DecidableEq, Repr

/-- What `get_result` throws. -/
inductive GetError (E : Type) where
  | badState
  | aborted
  | noResult
  | stored (e : E)
  deriving DecidableEq, Repr

/-- `DBusRNF::Call`.  The promise is set at most once; its future can be read
once. -/
structure Call (R E : Type) where
  state : CallState := .initialized
  wasAbortedAfterDone : Bool := false
  detached : Bool := false
  cookie : UInt32 := 0
  clearedCookie : UInt32 := 0
  promise : Option (Except E R) := none
  futureValid : Bool := true
  deriving Repr

namespace Call

variable {R E : Type}

/-- `set_state`, without the status watcher. -/
def setState (c : Call R E) (newState : CallState) : Call R E := { c with state := newState }

/-- `clear_cookie`; its result is the new `clearedCookie`. -/
def clearCookie (c : Call R E) : Call R E :=
  { c with clearedCookie := c.cookie, cookie := 0 }

/-- `promise_.set_exception`; a second one only logs. -/
def setException (c : Call R E) (e : E) : Call R E :=
  { c with promise := c.promise.or (some (.error e)) }

/-- `request`; `none` is a `BadStateError`. -/
def request (c : Call R E) (answer : RequestAnswer R E) : Option CallState × Call R E :=
  if c.state ≠ .initialized then (none, c)
  else
    let c' :=
      match answer with
      | .cookie cookie =>
          { c with cookie := cookie, detached := true, state := .waitForNotification }
      | .unmanaged cookie e =>
          ({ c with cookie := cookie, detached := true }.setException e).setState .failed
      | .fastPath result =>
          { c with promise := some (.ok result), state := .resultFetched }
      | .fastPathThrows result =>
          { c with promise := some (.ok result), state := .failed }
      | .failed e => (c.setException e).setState .failed
    (some c'.state, c')

/-- How far `abort_request` gets under its first lock. -/
inductive AbortBegin where
  | returned (result : Bool)
  | unlocked (cookie : UInt32)
  deriving DecidableEq, Repr

/-- `abort_request` up to the call of the abort-cookie function. -/
def abortBegin (c : Call R E) : AbortBegin × Call R E :=
  match c.state with
  | .initialized | .waitForNotification | .readyToFetch =>
      let c' := c.clearCookie
      if c'.clearedCookie = 0 then (.returned true, c'.setState .abortedByListBroker)
      else (.unlocked c'.clearedCookie, c')
  | .resultFetched | .failed =>
      if c.wasAbortedAfterDone then (.returned false, c)
      else (.returned true, { c with wasAbortedAfterDone := true })
  | .aborting | .abortedByListBroker => (.returned false, c)
  | .aboutToDestroy => (.returned true, c)

/-- `abort_request` from the answer of the abort-cookie function on. -/
def abortEnd (c : Call R E) : AbortAnswer → Bool × Call R E
  | .success => (true, c.setState .aborting)
  | .failure | .exception => (false, c)

/-- `abort_request` when nothing happens to the call between its two halves. -/
def abortRequest (c : Call R E) (answer : AbortAnswer) : Bool × Call R E :=
  match c.abortBegin with
  | (.returned result, c) => (result, c)
  | (.unlocked _, c) => c.abortEnd answer

/-- `notification`. -/
def notification (c : Call R E) (cookie : UInt32) (newState : CallState) : Call R E :=
  if cookie = 0 then c
  else if cookie ≠ c.cookie ∧ cookie ≠ c.clearedCookie then c
  else
    match c.state with
    | .waitForNotification | .aborting => c.setState newState
    | .initialized | .readyToFetch | .resultFetched | .abortedByListBroker | .failed
    | .aboutToDestroy => c

/-- `result_available_notification`. -/
def resultAvailableNotification (c : Call R E) (cookie : UInt32) : Call R E :=
  c.notification cookie .readyToFetch

/-- `aborted_notification`. -/
def abortedNotification (c : Call R E) (cookie : UInt32) : Call R E :=
  c.notification cookie .abortedByListBroker

/-- What `fetch` does: the cookie `do_fetch` is called with, if it is called, and
the returned value; `none` is a `BadStateError`. -/
structure FetchEffect where
  fetched : Option UInt32
  result : Option Bool
  deriving DecidableEq, Repr

/-- `fetch_unlocked` with the answer of `do_fetch`.  Setting the promise a second
time throws, like any failure of `do_fetch`. -/
def fetchUnlocked (c : Call R E) (answer : Except E R) : FetchEffect × Call R E :=
  match c.state with
  | .readyToFetch =>
      match answer, c.promise with
      | .ok result, none =>
          (⟨some c.cookie, some true⟩,
            ({ c with promise := some (.ok result) }.clearCookie).setState .resultFetched)
      | .ok _, some _ =>
          (⟨some c.cookie, some false⟩, c.clearCookie.setState .failed)
      | .error e, _ =>
          (⟨some c.cookie, some false⟩, ((c.setException e).clearCookie).setState .failed)
  | .resultFetched => (⟨none, some true⟩, c)
  | .aborting | .abortedByListBroker | .failed => (⟨none, some false⟩, c)
  | .initialized | .waitForNotification | .aboutToDestroy => (⟨none, none⟩, c)

/-- The end of `get_result_unlocked`, for a call that is done.  There is no outcome
while the future waits for a promise that is never set. -/
def readFuture (c : Call R E) : Option (Except (GetError E) R × Call R E) :=
  if c.wasAbortedAfterDone then some (.error .aborted, c)
  else if c.futureValid then
    match c.promise with
    | none => none
    | some (.ok result) => some (.ok result, { c with futureValid := false })
    | some (.error e) =>
        some (.error (.stored e), { c with futureValid := false, state := .failed })
  else some (.error .noResult, c)

/-- `get_result_unlocked`. -/
def getResultUnlocked (c : Call R E) : Option (Except (GetError E) R × Call R E) :=
  match c.state with
  | .initialized | .waitForNotification | .readyToFetch | .aboutToDestroy =>
      some (.error .badState, c)
  | .aborting | .abortedByListBroker => some (.error .aborted, c)
  | .resultFetched | .failed => c.readFuture

/-- An aborted request leaves a call that is not waiting in its state, or it clears
the cookie of the call without effect, or it ends the call. -/
theorem abortRequest_cases (c : Call R E) (answer : AbortAnswer) :
    (c.state ≠ .waitForNotification ∧ (c.abortRequest answer).2.state = c.state) ∨
    ((c.abortRequest answer).2.state = c.state ∧ c.cookie ≠ 0 ∧
      (c.abortRequest answer).2.cookie = 0 ∧
      (c.abortRequest answer).2.clearedCookie = c.cookie) ∨
    (c.abortRequest answer).2.state = .aborting ∨
    (c.abortRequest answer).2.state = .abortedByListBroker := by
  have hactive : c.state = .initialized ∨ c.state = .waitForNotification ∨
      c.state = .readyToFetch → (c.abortRequest answer).2 =
        if c.cookie = 0 then c.clearCookie.setState .abortedByListBroker
        else (c.clearCookie.abortEnd answer).2 := by
    intro hstate
    unfold abortRequest abortBegin
    by_cases hzero : c.cookie = 0
    · rcases hstate with h | h | h <;> simp [h, hzero, clearCookie]
    · rcases hstate with h | h | h <;> simp [h, hzero, clearCookie]
  have hrunning : c.state = .initialized ∨ c.state = .waitForNotification ∨
      c.state = .readyToFetch →
      ((c.abortRequest answer).2.state = c.state ∧ c.cookie ≠ 0 ∧
        (c.abortRequest answer).2.cookie = 0 ∧
        (c.abortRequest answer).2.clearedCookie = c.cookie) ∨
      (c.abortRequest answer).2.state = .aborting ∨
      (c.abortRequest answer).2.state = .abortedByListBroker := by
    intro hstate
    rw [hactive hstate]
    split_ifs with hzero
    · exact Or.inr (Or.inr rfl)
    · cases answer with
      | success => exact Or.inr (Or.inl rfl)
      | failure => exact Or.inl ⟨rfl, hzero, rfl, rfl⟩
      | exception => exact Or.inl ⟨rfl, hzero, rfl, rfl⟩
  cases hstate : c.state with
  | initialized => exact Or.inr (hstate ▸ hrunning (Or.inl hstate))
  | waitForNotification => exact Or.inr (hstate ▸ hrunning (Or.inr (Or.inl hstate)))
  | readyToFetch => exact Or.inr (hstate ▸ hrunning (Or.inr (Or.inr hstate)))
  | resultFetched =>
    left
    cases hdone : c.wasAbortedAfterDone <;> simp [abortRequest, abortBegin, hstate, hdone]
  | failed =>
    left
    cases hdone : c.wasAbortedAfterDone <;> simp [abortRequest, abortBegin, hstate, hdone]
  | aborting => left; simp [abortRequest, abortBegin, hstate]
  | abortedByListBroker => left; simp [abortRequest, abortBegin, hstate]
  | aboutToDestroy => left; simp [abortRequest, abortBegin, hstate]

theorem abortRequest_promise (c : Call R E) (answer : AbortAnswer) :
    (c.abortRequest answer).2.promise = c.promise := by
  unfold abortRequest abortBegin clearCookie setState
  cases c.state <;> dsimp only
  all_goals try split_ifs
  all_goals first | rfl | (cases answer <;> rfl)

theorem notification_promise (c : Call R E) (cookie : UInt32) (newState : CallState) :
    (c.notification cookie newState).promise = c.promise := by
  unfold notification
  split_ifs
  · rfl
  · rfl
  · cases c.state <;> rfl

theorem notification_state (c : Call R E) (cookie : UInt32) (newState : CallState) :
    (c.notification cookie newState).state = c.state ∨
      (c.notification cookie newState).state = newState := by
  unfold notification
  split_ifs
  · exact Or.inl rfl
  · exact Or.inl rfl
  · cases hstate : c.state <;> simp [setState, hstate]

/-- A call that has a result, or has failed, has set its promise. -/
def Answered (c : Call R E) : Prop :=
  c.state = .resultFetched ∨ c.state = .failed → c.promise.isSome = true

theorem Answered.abortRequest {c : Call R E} (h : c.Answered) (answer : AbortAnswer) :
    (c.abortRequest answer).2.Answered := by
  intro hstate
  rw [abortRequest_promise]
  apply h
  rcases c.abortRequest_cases answer with ⟨-, hs⟩ | ⟨hs, -⟩ | hs | hs
  · rwa [hs] at hstate
  · rwa [hs] at hstate
  · rw [hs] at hstate
    rcases hstate with hstate | hstate <;> cases hstate
  · rw [hs] at hstate
    rcases hstate with hstate | hstate <;> cases hstate

theorem Answered.notification {c : Call R E} (h : c.Answered) (cookie : UInt32)
    {newState : CallState} (hnew : newState = .readyToFetch ∨ newState = .abortedByListBroker) :
    (c.notification cookie newState).Answered := by
  intro hstate
  rw [notification_promise]
  apply h
  rcases c.notification_state cookie newState with hs | hs
  · rwa [hs] at hstate
  · rw [hs] at hstate
    rcases hnew with rfl | rfl <;> rcases hstate with hstate | hstate <;> cases hstate

theorem Answered.fetchUnlocked {c : Call R E} (h : c.Answered) (answer : Except E R) :
    (c.fetchUnlocked answer).2.Answered := by
  unfold Call.fetchUnlocked
  split
  · split
    · exact fun _ => rfl
    · rename_i hpromise
      intro _
      change c.promise.isSome = true
      rw [hpromise]
      rfl
    · intro _
      change (c.promise.or _).isSome = true
      cases c.promise <;> rfl
  all_goals exact h

/-- The result of such a call can be read without waiting. -/
theorem Answered.getResultUnlocked {c : Call R E} (h : c.Answered) :
    c.getResultUnlocked.isSome = true := by
  unfold Call.getResultUnlocked
  have hread : c.promise.isSome = true → c.readFuture.isSome = true := by
    intro hpromise
    obtain ⟨x, hx⟩ := Option.isSome_iff_exists.mp hpromise
    unfold readFuture
    split_ifs
    · rfl
    · cases x <;> simp [hx]
    · rfl
  split
  · rfl
  · rfl
  · rfl
  · rfl
  · rfl
  · rfl
  · rename_i hstate
    exact hread (h (Or.inl hstate))
  · rename_i hstate
    exact hread (h (Or.inr hstate))

/-- A request that fails sets the promise. -/
theorem Answered.request {c : Call R E} (h : c.Answered) (answer : RequestAnswer R E) :
    (c.request answer).2.Answered := by
  have hset : ∀ (d : Call R E) (e : E), (d.setException e).promise.isSome = true := by
    intro d e
    unfold setException
    cases d.promise <;> rfl
  unfold Call.request
  split
  · exact h
  · cases answer with
    | cookie cookie => exact fun hstate => by simp at hstate
    | unmanaged cookie e => exact fun _ => hset _ e
    | fastPath result => exact fun _ => rfl
    | fastPathThrows result => exact fun _ => rfl
    | failed e => exact fun _ => hset _ e

/-- Reading the result does not take the promise back. -/
theorem Answered.readResult {c c' : Call R E} {result : Except (GetError E) R} (h : c.Answered)
    (hread : c.getResultUnlocked = some (result, c')) : c'.Answered := by
  have hfuture : c.promise.isSome = true → c.readFuture = some (result, c') → c'.Answered := by
    intro hpromise hread
    unfold readFuture at hread
    split at hread
    · cases hread
      exact fun _ => hpromise
    · split at hread
      · split at hread
        · cases hread
        · cases hread
          exact fun _ => hpromise
        · cases hread
          exact fun _ => hpromise
      · cases hread
        exact fun _ => hpromise
  unfold Call.getResultUnlocked at hread
  split at hread
  case h_7 hstate => exact hfuture (h (Or.inl hstate)) hread
  case h_8 hstate => exact hfuture (h (Or.inr hstate)) hread
  all_goals
    cases hread
    exact h

end Call

end Drcpd.Rnf

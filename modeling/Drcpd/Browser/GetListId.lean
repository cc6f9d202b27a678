/-
  Browser/GetListId.lean --- the GetListID calls of a file browser.

  A view has at most one current call, `get_list_id_`.  A call that is replaced goes to the
  death row; it lives on while something refers to it, such as the functions handed to the
  cookie manager.  The busy source is set by `request` and cleared by the destructor.

  Left out here: the errors shown to the user and the jump to a context.
-/
import Drcpd.IdTypes
import Drcpd.Busy.State
import Drcpd.Rnf.Call

set_option autoImplicit false

namespace Drcpd.Browser

open Busy (GlobalBusyState Request)
open Rnf (AbortAnswer Call CallState GetError RequestAnswer)

/-! ## Results -/

/-- `ListError::Code`, as far as the view tells the codes apart. -/
inductive ListErrorCode where
  | ok
  | internal
  | interrupted
  | invalidId
  | physicalMediaIo
  | netIo
  | protocol
  | authentication
  | inconsistent
  | notSupported
  | permissionDenied
  | invalidUri
  | busy500
  | busy1000
  | busy1500
  | busy3000
  | busy5000
  | busy
  | outOfRange
  | empty
  | overflown
  | underflown
  | invalidStreamUrl
  | invalidStrboUrl
  | notFound
  deriving DecidableEq, Repr

/-- `ListError::failed`. -/
def ListErrorCode.failed (error : ListErrorCode) : Bool := decide (error ≠ .ok)

/-- `DBusRNF::GetListIDResult`. -/
structure GetListIdResult where
  error : ListErrorCode
  listId : ListId
  deriving DecidableEq, Repr

/-- What a call has been started for; it says which function is called with the result. -/
inductive Purpose where
  | rootDirectory
  | childDirectory
  | searchForm
  deriving DecidableEq, Repr

/-- `DBusRNF::GetListIDCallBase`, whether the object exists, and how often the busy source
has been cleared for it.  A `DBusListException` is represented by its error code. -/
structure GetListIdCall where
  purpose : Purpose
  call : Call GetListIdResult ListErrorCode := {}
  listError : ListErrorCode := .ok
  busySourceSet : Bool := false
  alive : Bool := true
  clears : Nat := 0

/-- The error code passed to `sink_point_to_child_error` when `get_result_unlocked` throws. -/
def GetListIdCall.thrownError (c : GetListIdCall) : GetError ListErrorCode → ListErrorCode
  | .stored error => error
  | .aborted => if c.listError.failed then c.listError else .interrupted
  | .badState | .noResult => .internal

/-! ## The calls of a view -/

/-- `AsyncCalls`, with all GetListID calls made so far. -/
structure GetListIdCalls where
  global : GlobalBusyState := {}
  calls : List GetListIdCall := []
  getListId : Option Nat := none
  deathRow : List Nat := []

namespace GetListIdCalls

/-- Change one call. -/
def modifyCall (v : GetListIdCalls) (i : Nat) (f : GetListIdCall → GetListIdCall) :
    GetListIdCalls :=
  { v with calls := v.calls.modify i f }

/-- `set_call`, with a new call. -/
def setCall (v : GetListIdCalls) (purpose : Purpose) : GetListIdCalls :=
  { v with
    calls := v.calls ++ [{ purpose := purpose }]
    getListId := some v.calls.length
    deathRow := v.deathRow ++ v.getListId.toList }

/-- `delete_get_list_id`. -/
def deleteGetListId (v : GetListIdCalls) : GetListIdCalls :=
  { v with getListId := none, deathRow := v.deathRow ++ v.getListId.toList }

/-- `Busy::set`, by `request`. -/
def setBusy (v : GetListIdCalls) (i : Nat) : GetListIdCalls :=
  { v with global := (v.global.request (.set .gettingListId)).2 }.modifyCall i fun c =>
    { c with busySourceSet := true }

/-- `Busy::clear`, done for a call. -/
def clearBusy (v : GetListIdCalls) (i : Nat) : GetListIdCalls :=
  { v with global := (v.global.request (.clear .gettingListId)).2 }.modifyCall i fun c =>
    { c with clears := c.clears + 1 }

/-- `sink_point_to_child_error`. -/
def sinkPointToChildError (v : GetListIdCalls) (i : Nat) (error : ListErrorCode) :
    Bool × GetListIdCalls :=
  (error.failed, v.clearBusy i)

/-- `point_to_root_directory__got_list_id`, with what `get_result_unlocked` gives and what
`enter_list_async` throws, if it does. -/
def gotRootListId (v : GetListIdCalls) (result : Except (GetError ListErrorCode) GetListIdResult)
    (enterThrows : Option ListErrorCode) : GetListIdCalls :=
  match result with
  | .ok result =>
      if result.error = .ok ∧ result.listId.isValid = true ∧ enterThrows.isSome = true then v
      else v.deleteGetListId
  | .error _ => v

/-- `point_to_child_directory__got_list_id`. -/
def gotChildListId (v : GetListIdCalls) (i : Nat) (c : GetListIdCall)
    (result : Except (GetError ListErrorCode) GetListIdResult)
    (enterThrows : Option ListErrorCode) : GetListIdCalls :=
  let v' :=
    match result with
    | .ok result =>
        let sunk := v.sinkPointToChildError i result.error
        if sunk.1 then sunk.2
        else if !result.listId.isValid then sunk.2
        else
          match enterThrows with
          | none => sunk.2
          | some error => (sunk.2.sinkPointToChildError i error).2
    | .error e => (v.sinkPointToChildError i (c.thrownError e)).2
  v'.deleteGetListId

/-- The function chained to a call; there is no result while `get_result_unlocked` blocks. -/
def gotListId (v : GetListIdCalls) (i : Nat) (c : GetListIdCall)
    (enterThrows : Option ListErrorCode) : Option GetListIdCalls :=
  if v.getListId ≠ some i then some v
  else
    match c.call.getResultUnlocked with
    | none => none
    | some (result, call) =>
        let v' := v.modifyCall i fun c => { c with call := call }
        match c.purpose with
        | .rootDirectory => some (v'.gotRootListId result enterThrows)
        | .childDirectory => some (v'.gotChildListId i c result enterThrows)
        | .searchForm => some v'.deleteGetListId

/-- A new call is made current, and `request` is called up to the end of `do_request`. -/
def request (v : GetListIdCalls) (purpose : Purpose)
    (answer : RequestAnswer GetListIdResult ListErrorCode) : GetListIdCalls :=
  ((v.setCall purpose).setBusy v.calls.length).modifyCall v.calls.length fun c =>
    { c with call := (c.call.request answer).2 }

/-- A new call, as it is started in `do_point_to_real_root_directory`,
`point_to_child_directory` and `point_to_search_form`.  A fast-path answer is passed on before
`request` returns. -/
def start (v : GetListIdCalls) (purpose : Purpose)
    (answer : RequestAnswer GetListIdResult ListErrorCode) (enterThrows : Option ListErrorCode) :
    Option GetListIdCalls :=
  let requested := v.request purpose answer
  let call := (Call.request {} answer).2
  let notified :=
    match answer with
    | .fastPath _ =>
        requested.gotListId v.calls.length
          { purpose := purpose, call := call, busySourceSet := true } enterThrows
    | .cookie _ | .unmanaged _ _ | .fastPathThrows _ | .failed _ => some requested
  match notified with
  | none => none
  | some v' =>
      match call.state with
      | .waitForNotification | .resultFetched | .aborting => some v'
      | .initialized | .readyToFetch | .aboutToDestroy | .abortedByListBroker | .failed =>
          some v'.deleteGetListId

/-- `cancel_and_delete_all`, for the GetListID call. -/
def cancelAndDeleteAll (v : GetListIdCalls) (answer : AbortAnswer) : GetListIdCalls :=
  match v.getListId with
  | none => v
  | some i =>
      (v.modifyCall i fun c =>
        { c with call := (c.call.abortRequest answer).2 }).deleteGetListId

/-- The function called by the cookie manager when the result can be fetched or has failed. -/
def notifyByCookie (c : GetListIdCall) (cookie : UInt32) (error : ListErrorCode) :
    GetListIdCall :=
  { c with
    listError := error
    call :=
      if error.failed then c.call.abortedNotification cookie
      else c.call.resultAvailableNotification cookie }

/-- The function called by the cookie manager to fetch the result.  Nobody is notified if
`fetch_unlocked` throws. -/
def fetchByCookie (v : GetListIdCalls) (i : Nat) (c : GetListIdCall)
    (answer : Except ListErrorCode GetListIdResult) (enterThrows : Option ListErrorCode) :
    Option GetListIdCalls :=
  let fetch := c.call.fetchUnlocked answer
  let v' := v.modifyCall i fun c => { c with call := fetch.2 }
  match fetch.1.result with
  | none => some v'
  | some _ => v'.gotListId i { c with call := fetch.2 } enterThrows

/-- `~Call`. -/
def destroy (v : GetListIdCalls) (i : Nat) (c : GetListIdCall) : GetListIdCalls :=
  (if c.busySourceSet then v.clearBusy i else v).modifyCall i fun c => { c with alive := false }

end GetListIdCalls

/-! ## Steps -/

/-- What can happen to the calls of a view. -/
inductive GetListIdEvent where
  | start (purpose : Purpose) (answer : RequestAnswer GetListIdResult ListErrorCode)
      (enterThrows : Option ListErrorCode)
  | cancelAndDeleteAll (answer : AbortAnswer)
  | deleteAll
  | notifyByCookie (i : Nat) (cookie : UInt32) (error : ListErrorCode)
  | fetchByCookie (i : Nat) (answer : Except ListErrorCode GetListIdResult)
      (enterThrows : Option ListErrorCode)
  | executeDeathRow
  | destroy (i : Nat)
  | other (q : Request)

namespace GetListIdCalls

/-- One step.  A call may be destroyed at any time when it is neither the current one nor in
the death row.  The busy source is used by the GetListID calls only. -/
def step (v : GetListIdCalls) : GetListIdEvent → Option GetListIdCalls
  | .start purpose answer enterThrows => v.start purpose answer enterThrows
  | .cancelAndDeleteAll answer => some (v.cancelAndDeleteAll answer)
  | .deleteAll => some v.deleteGetListId
  | .notifyByCookie i cookie error =>
      match v.calls[i]? with
      | some c =>
          if c.alive && c.busySourceSet then
            some (v.modifyCall i fun c => notifyByCookie c cookie error)
          else none
      | none => none
  | .fetchByCookie i answer enterThrows =>
      match v.calls[i]? with
      | some c =>
          if c.alive && c.busySourceSet then v.fetchByCookie i c answer enterThrows else none
      | none => none
  | .executeDeathRow => some { v with deathRow := [] }
  | .destroy i =>
      match v.calls[i]? with
      | some c =>
          if c.alive ∧ v.getListId ≠ some i ∧ i ∉ v.deathRow then some (v.destroy i c) else none
      | none => none
  | .other q =>
      if q = .set .gettingListId ∨ q = .clear .gettingListId then none
      else some { v with global := (v.global.request q).2 }

end GetListIdCalls

end Drcpd.Browser

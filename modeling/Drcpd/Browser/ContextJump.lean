/-
  Browser/ContextJump.lean --- the jump to the root of a list context (`view_filebrowser.cc`).

  The jump takes two steps.  The first one finds the list which holds the link to the context's
  root list, and enters it; the second one finds the root list itself, and enters it.  Three kinds
  of calls take part in it: `get_context_root_`, `get_list_id_`, and enter-list queries.

  The queries belong to the list.  Any of them may end with any result, but when a list is entered
  while another query is the current one, then that query is cancelled first.  The watcher may be
  told so before the list is entered.

  `msg_log_assert` and `MSG_BUG` write to the log, and the view goes on.  A function ends with
  `none` only where it would wait for a result for ever.

  Left out are the browsing position, the titles, the ID of the real root list, the crawler, and
  what is done for `AirableView` only: the search forms, and jumps to stored positions.
-/
import Drcpd.Browser.GetListId
import Drcpd.Lists.SegmentFetcher
import Drcpd.DBus.AsyncCall

set_option autoImplicit false

namespace Drcpd.Browser

open DBus (AsyncCall)
open Drcpd.Lists (OpResult)
open Rnf (Call CallState RequestAnswer)

/-- `List::context_id_t`, for valid contexts. -/
abbrev ContextId : Type := Nat

/-! ## The jump -/

/-- `JumpToContext::State`. -/
inductive JumpState where
  | notJumping
  | getContextParentId
  | enterContextParent
  | getContextListId
  | enterContextList
  deriving DecidableEq, Repr

/-- `JumpToContext`, without the place it starts from. -/
structure JumpToContext where
  state : JumpState := .notJumping
  destination : Option ContextId := none
  parentListId : ListId := {}
  contextListId : ListId := {}
  deriving DecidableEq, Repr

namespace JumpToContext

/-- `is_jumping_to_any_context`. -/
def isJumpingToAnyContext (j : JumpToContext) : Bool := decide (j.state ≠ .notJumping)

/-- `is_jumping_to_context`. -/
def isJumpingToContext (j : JumpToContext) (ctxId : ContextId) : Bool :=
  decide (j.state ≠ .notJumping ∧ j.destination = some ctxId)

/-- `begin`; `none` if there is a jump already. -/
def begin (j : JumpToContext) (destination : ContextId) : Option JumpToContext :=
  if j.state ≠ .notJumping then none
  else some { j with destination := some destination, state := .getContextParentId }

-- What the following functions assert about the state is only logged.

/-- `put_parent_list_id`. -/
def putParentListId (j : JumpToContext) (listId : ListId) : JumpToContext :=
  { j with parentListId := listId, state := .enterContextParent }

/-- `begin_second_step`. -/
def beginSecondStep (j : JumpToContext) : JumpToContext := { j with state := .getContextListId }

/-- `put_context_list_id`. -/
def putContextListId (j : JumpToContext) (listId : ListId) : JumpToContext :=
  { j with contextListId := listId, state := .enterContextList }

/-- `cancel`. -/
def cancel (j : JumpToContext) : JumpToContext := if j.state = .notJumping then j else {}

/-- `end`. -/
def endJump (j : JumpToContext) : ListId × JumpToContext := (j.contextListId, {})

end JumpToContext

/-- `ContextRestriction`. -/
structure ContextRestriction where
  rootListId : ListId := {}
  contextId : Option ContextId := none
  isBlocked : Bool := false
  deriving DecidableEq, Repr

namespace ContextRestriction

/-- `set_context_id`. -/
def setContextId (ctx : ContextId) : ContextRestriction :=
  { rootListId := {}, contextId := some ctx, isBlocked := true }

/-- `set_boundary`. -/
def setBoundary (r : ContextRestriction) (rootListId : ListId) : ContextRestriction :=
  { r with rootListId := rootListId, isBlocked := false }

/-- `is_boundary`. -/
def isBoundary (r : ContextRestriction) (listId : ListId) : Bool :=
  r.rootListId.isValid && decide (r.rootListId = listId) || r.isBlocked

/-- `list_invalidate`. -/
def listInvalidate (r : ContextRestriction) (listId replacementId : ListId) :
    Bool × ContextRestriction :=
  if listId ≠ r.rootListId then (false, r)
  else if replacementId.isValid then (false, { r with rootListId := replacementId })
  else
    (true, { r with
      rootListId := replacementId
      isBlocked := r.contextId.isSome || r.isBlocked })

end ContextRestriction

/-! ## The view -/

/-- What a list ID has been requested for. -/
inductive ListIdTarget where
  | rootDirectory
  | childDirectory
  deriving DecidableEq, Repr

/-- The call in `get_list_id_`.  It is kept after an exception while the real root directory is
looked for, but nothing comes of it any more. -/
structure HeldListIdCall where
  target : ListIdTarget
  isOutstanding : Bool := true
  deriving DecidableEq, Repr

/-- `QueryContextEnterList::CallerID`, without the values for the crawler's list and for jumps to
stored positions. -/
inductive ViewCallerId where
  | enterRoot
  | enterChild
  | enterParent
  | enterContextRoot
  | reloadList
  deriving DecidableEq, Repr

/-- An enter-list query of the view. -/
structure ListQuery where
  callerId : ViewCallerId
  listId : ListId
  deriving DecidableEq, Repr

/-- `ViewFileBrowser::View` with its `AsyncCalls`, and the queries of its list. -/
structure View where
  jump : JumpToContext := {}
  contextRestriction : ContextRestriction := {}
  currentListId : ListId := {}
  getListId : Option HeldListIdCall := none
  /-- There is a call in `get_parent_id_` whose result has not come. -/
  getParentId : Bool := false
  getContextRoot : Option (AsyncCall ListId Unit) := none
  /-- The current query. -/
  query : Option ListQuery := none
  /-- Those which have been replaced, but are still to be reported. -/
  outdated : List ListQuery := []
  /-- The jump before and after each completion of a call or query that takes part in it. -/
  completions : List (JumpState × JumpState) := []

/-- The results with which a cancelled query is reported. -/
inductive CancelReport where
  | failed
  | canceled
  deriving DecidableEq, Repr

/-- The result itself. -/
def CancelReport.result : CancelReport → OpResult
  | .failed => .failed
  | .canceled => .canceled

/-- The answer to a request for a list ID. -/
abbrev ListIdAnswer : Type := RequestAnswer GetListIdResult ListErrorCode

/-- What happens to the current query when a list is entered: whether it is reported, and the
answer if the real root list is requested thereupon. -/
structure QueryCancel where
  report : Option CancelReport := none
  root : ListIdAnswer := .failed .internal

namespace View

/-- All queries which are still to be reported. -/
def queries (v : View) : List ListQuery := v.query.toList ++ v.outdated

/-- A completion is noted. -/
def completed (before v : View) : View :=
  { v with completions := v.completions ++ [(before.jump.state, v.jump.state)] }

/-- `delete_get_list_id`. -/
def deleteGetListId (v : View) : View := { v with getListId := none }

/-- `delete_all`. -/
def deleteAll (v : View) : View := { v with getListId := none, getParentId := false }

/-- The end of `enter_list_async`: there is a new current query. -/
def startQuery (v : View) (q : ListQuery) : View :=
  { v with query := some q, outdated := v.outdated ++ v.query.toList }

/-! ## Functions which enter lists -/

section Entering

variable (enter : View → ListQuery → Option View)

/-- `point_to_list_context_root__got_parent_link`, for the call in `get_context_root_`. -/
def gotContextParentLink (v : View) (call : AsyncCall ListId Unit) : Option View :=
  let waited := call.waitForResult
  let reset := { v with getContextRoot := none }
  let failed := completed v { reset with jump := v.jump.cancel }
  match waited.1 with
  | .returned .done =>
      match waited.2.returnValue with
      | none => none
      | some listId =>
          if listId.isValid then
            (enter { reset with jump := v.jump.putParentListId listId }
              ⟨.enterContextRoot, listId⟩).map (completed v)
          else some failed
  | .returned _ | .threw | .readyDirectly => some failed
  | .stuck => none

/-- `cancel_and_delete`, for `get_context_root_`.  A call which has not been invoked is reported as
cancelled like any other. -/
def cancelAndDeleteContextRoot (v : View) : Option View :=
  match v.getContextRoot with
  | none => some v
  | some call =>
      match (call.cancel false).2.waitForResult with
      | (.readyDirectly, call) =>
          let ready := call.readyDirectly
          if ready.1 then
            (v.gotContextParentLink enter ready.2).map fun v =>
              { v with getContextRoot := none }
          else some { v with getContextRoot := none }
      | (.returned _, _) | (.threw, _) | (.stuck, _) => some { v with getContextRoot := none }

/-- `cancel_and_delete_all`. -/
def cancelAndDeleteAll (v : View) : Option View := v.deleteAll.cancelAndDeleteContextRoot enter

/-- What `sink_point_to_child_error` does to the jump. -/
def sinkPointToChildError (v : View) (error : ListErrorCode) : Bool × View :=
  (error.failed, if error.failed then { v with jump := v.jump.cancel } else v)

/-- `point_to_root_directory__got_list_id`, for the call in `get_list_id_`.  Exceptions are
represented by error codes. -/
def gotRootListId (v : View) (result : Except ListErrorCode GetListIdResult) : Option View :=
  match result with
  | .ok result =>
      if result.error = .ok ∧ result.listId.isValid = true then
        (enter v ⟨.enterRoot, result.listId⟩).map fun v' => completed v v'.deleteGetListId
      else some (completed v v.deleteGetListId)
  | .error _ =>
      some (completed v
        { v with getListId := v.getListId.map fun c => { c with isOutstanding := false } })

/-- The part of `point_to_child_directory__got_list_id` for a valid list ID. -/
def enterChildList (v : View) (listId : ListId) : Option View :=
  if v.jump.isJumpingToAnyContext then
    enter { v with jump := v.jump.putContextListId listId } ⟨.enterContextRoot, listId⟩
  else enter v ⟨.enterChild, listId⟩

/-- `point_to_child_directory__got_list_id`, for the call in `get_list_id_`. -/
def gotChildListId (v : View) (result : Except ListErrorCode GetListIdResult) : Option View :=
  let handled :=
    match result with
    | .ok result =>
        let sunk := v.sinkPointToChildError result.error
        if sunk.1 then some sunk.2
        else if !result.listId.isValid then some sunk.2
        else sunk.2.enterChildList enter result.listId
    | .error e => some (v.sinkPointToChildError e).2
  handled.map fun v' => completed v v'.deleteGetListId

/-- The function chained to the call in `get_list_id_`. -/
def gotListId (v : View) (target : ListIdTarget)
    (result : Except ListErrorCode GetListIdResult) : Option View :=
  match target with
  | .rootDirectory => v.gotRootListId enter result
  | .childDirectory => v.gotChildListId enter result

/-- The call is not deleted after `request`. -/
def isKept : CallState → Bool
  | .waitForNotification | .resultFetched | .aborting => true
  | .initialized | .readyToFetch | .aboutToDestroy | .abortedByListBroker | .failed => false

/-- A new call is made current and requested.  A fast-path answer is passed on before `request`
returns. -/
def requestListId (v : View) (target : ListIdTarget) (answer : ListIdAnswer) : Option View :=
  let v := { v with getListId := some { target := target } }
  let notified :=
    match answer with
    | .fastPath result => v.gotListId enter target (.ok result)
    | .cookie _ | .unmanaged _ _ | .fastPathThrows _ | .failed _ => some v
  notified.map fun v =>
    if isKept (Call.request {} answer).2.state then v else v.deleteGetListId

/-- `do_point_to_context_root_directory`. -/
def doPointToContextRootDirectory (v : View) (ctxId : ContextId) : View :=
  let made := { v with getContextRoot := some {} }
  if v.jump.isJumpingToContext ctxId then made
  else
    match v.jump.begin ctxId with
    | none => { made with getContextRoot := none }
    | some jump => { made with jump := jump, getContextRoot := some (AsyncCall.invoke {}) }

/-- `do_point_to_real_root_directory`. -/
def doPointToRealRootDirectory (v : View) (answer : ListIdAnswer) : Option View :=
  v.requestListId enter .rootDirectory answer

/-- `point_to_root_directory`. -/
def pointToRootDirectory (v : View) (answer : ListIdAnswer) : Option View :=
  (v.cancelAndDeleteAll enter).bind fun v =>
    match v.contextRestriction.contextId with
    | none => v.doPointToRealRootDirectory enter answer
    | some ctxId => some (v.doPointToContextRootDirectory ctxId)

/-- `point_to_child_directory`. -/
def pointToChildDirectory (v : View) (answer : ListIdAnswer) : Option View :=
  (v.cancelAndDeleteAll enter).bind fun v => v.requestListId enter .childDirectory answer

/-- `handle_enter_list_event_finish`. -/
def handleEnterListEventFinish (v : View) (q : ListQuery) (result : OpResult) : View :=
  match result with
  | .succeeded => { v.deleteAll with currentListId := q.listId }
  | .failed => { v.deleteAll with currentListId := {} }
  | .canceled | .started | .busy => v.deleteAll

/-- The part of `handle_enter_list_event_update_after_finish` for a list of the context.  That the
list entered is the boundary is only asserted. -/
def enteredContextRoot (v : View) (child : ListIdAnswer) : Option View :=
  match v.jump.state with
  | .notJumping | .getContextParentId | .getContextListId => some v
  | .enterContextParent =>
      { v with jump := v.jump.beginSecondStep }.pointToChildDirectory enter child
  | .enterContextList =>
      let ended := v.jump.endJump
      some { v with
        jump := ended.2
        contextRestriction := v.contextRestriction.setBoundary ended.1 }

/-- `handle_enter_list_event_update_after_finish`. -/
def handleEnterListEventUpdateAfterFinish (v : View) (q : ListQuery) (result : OpResult)
    (child root : ListIdAnswer) : Option View :=
  let updated :=
    if result = .succeeded ∧ q.callerId = .enterContextRoot then v.enteredContextRoot enter child
    else some v
  updated.bind fun v' =>
    match q.callerId with
    | .enterChild | .enterParent | .reloadList =>
        if !v.jump.isJumpingToAnyContext && !v'.currentListId.isValid then
          v'.pointToRootDirectory enter root
        else some v'
    | .enterRoot | .enterContextRoot => some v'

/-- `handle_enter_list_event`, for a query that has come to its end. -/
def handleEnterListEvent (v : View) (q : ListQuery) (result : OpResult)
    (child root : ListIdAnswer) : Option View :=
  let handled :=
    (v.handleEnterListEventFinish q result).handleEnterListEventUpdateAfterFinish enter q result
      child root
  if q.callerId = .enterContextRoot then handled.map (completed v) else handled

end Entering

/-- `enter_list_async`.  If another list is entered while the current query is being reported as
cancelled, then there is no query to cancel. -/
def enterListAsync (cancel : QueryCancel) (v : View) (q : ListQuery) : Option View :=
  match v.query, cancel.report with
  | some canceled, some report =>
      let reported :=
        handleEnterListEvent (fun v q => some (v.startQuery q)) { v with query := none } canceled
          report.result (.failed .internal) cancel.root
      reported.map fun v => v.startQuery q
  | none, _ | some _, none => some (v.startQuery q)

/-- `point_to_parent_link`. -/
def pointToParentLink (v : View) : Option View :=
  if v.contextRestriction.isBoundary v.currentListId then some v
  else
    (v.cancelAndDeleteAll fun v q => some (v.startQuery q)).map fun v =>
      { v with getParentId := true }

/-- `point_to_parent_link__got_parent_link`, for the call in `get_parent_id_`. -/
def gotParentLink (v : View) (answer : Except Unit ListId) (cancel : QueryCancel) :
    Option View :=
  let v := { v with getParentId := false }
  match answer with
  | .error _ => some v
  | .ok listId =>
      if listId.isValid then v.enterListAsync cancel ⟨.enterParent, listId⟩ else some v

/-- `set_list_context_root`. -/
def setListContextRoot (v : View) (ctxId : Option ContextId) : View :=
  { v with
    contextRestriction :=
      match ctxId with
      | none => {}
      | some ctx => ContextRestriction.setContextId ctx }

/-- `restart_if_necessary`.  The query that is restarted is still to be reported. -/
def restartIfNecessary (v : View) (listId replacementId : ListId) : View :=
  match v.query with
  | none => v
  | some q =>
      if q.listId ≠ listId ∨ replacementId.isValid = false then v
      else v.startQuery { q with listId := replacementId }

/-- `list_invalidate` up to where the view looks at its current list; whether the root list has
been lost. -/
def beginListInvalidate (v : View) (listId replacementId : ListId) : Bool × View :=
  let restriction := v.contextRestriction.listInvalidate listId replacementId
  (restriction.1,
    { v with contextRestriction := restriction.2 }.restartIfNecessary listId replacementId)

/-- `reload_list`; `hasLine` if there is a line under the cursor. -/
def reloadList (v : View) (hasLine : Bool) (answer : ListIdAnswer) (cancel : QueryCancel) :
    Option View :=
  if hasLine then v.enterListAsync cancel ⟨.reloadList, v.currentListId⟩
  else v.pointToRootDirectory (enterListAsync cancel) answer

/-- `list_invalidate`. -/
def listInvalidate (v : View) (listId replacementId : ListId) (hasLine : Bool)
    (answer : ListIdAnswer) (cancel : QueryCancel) : Option View :=
  let begun := v.beginListInvalidate listId replacementId
  if begun.1 then some { begun.2 with currentListId := {} }
  else if listId ≠ v.currentListId then
    if v.currentListId.isValid then some begun.2
    else begun.2.pointToRootDirectory (enterListAsync cancel) answer
  else if replacementId.isValid then
    { begun.2 with currentListId := replacementId }.reloadList hasLine answer cancel
  else begun.2.pointToRootDirectory (enterListAsync cancel) answer

/-- A query is taken from those which are to be reported. -/
def takeQuery (v : View) (q : ListQuery) (isOutdated : Bool) : Option View :=
  if isOutdated then
    if q ∈ v.outdated then some { v with outdated := v.outdated.erase q } else none
  else if v.query = some q then some { v with query := none }
  else none

end View

/-! ## Steps -/

/-- What can happen to a view. -/
inductive ViewEvent where
  | setListContextRoot (ctxId : Option ContextId)
  | pointToRootDirectory (answer : ListIdAnswer) (cancel : QueryCancel)
  | pointToChildDirectory (answer : ListIdAnswer) (cancel : QueryCancel)
  | pointToParentLink
  | listInvalidate (listId replacementId : ListId) (hasLine : Bool) (answer : ListIdAnswer)
      (cancel : QueryCancel)
  | contextRootResult (answer : Except Unit ListId) (cancel : QueryCancel)
  | parentIdResult (answer : Except Unit ListId) (cancel : QueryCancel)
  | listIdResult (result : Except ListErrorCode GetListIdResult) (cancel : QueryCancel)
  | enterListResult (q : ListQuery) (isOutdated : Bool) (result : OpResult)
      (child root : ListIdAnswer) (cancel : QueryCancel)

namespace View

/-- One step of a view. -/
def step (v : View) : ViewEvent → Option View
  | .setListContextRoot ctxId => some (v.setListContextRoot ctxId)
  | .pointToRootDirectory answer cancel =>
      v.pointToRootDirectory (enterListAsync cancel) answer
  | .pointToChildDirectory answer cancel =>
      v.pointToChildDirectory (enterListAsync cancel) answer
  | .pointToParentLink => v.pointToParentLink
  | .listInvalidate listId replacementId hasLine answer cancel =>
      if listId.isValid then v.listInvalidate listId replacementId hasLine answer cancel
      else none
  | .contextRootResult answer cancel =>
      match v.getContextRoot with
      | none => none
      | some call =>
          if call.callState = .inProgress then
            v.gotContextParentLink (enterListAsync cancel) (call.readyLocked answer).2
          else none
  | .parentIdResult answer cancel =>
      if v.getParentId then v.gotParentLink answer cancel else none
  | .listIdResult result cancel =>
      match v.getListId with
      | none => none
      | some call =>
          if call.isOutstanding then v.gotListId (enterListAsync cancel) call.target result
          else none
  | .enterListResult q isOutdated result child root cancel =>
      if result = .started ∨ result = .busy then none
      else
        (v.takeQuery q isOutdated).bind fun v =>
          v.handleEnterListEvent (enterListAsync cancel) q result child root

end View

end Drcpd.Browser

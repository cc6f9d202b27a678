/-
  Crawler/FindNextOp.lean --- finding the next item in a list hierarchy
  (`DirectoryCrawler::FindNextOp`).

  An operation looks at one item after the other.  What the traversal list and the
  list broker tell it while it looks at one item is given by `ListAnswers`, as a
  function of the state of the operation in front of that item.  The loop
  `run_as_far_as_possible` moves the cursor in each round; it takes fuel.

  What an operation asks for and notifies its crawler of is collected in `Effects`.
  Meta data, counters and the texts of messages are left out.  The cursor has a
  `List::Nav` with no filter and without wrap-around; what it displays is left out.
-/
import Drcpd.Crawler.Operation
import Drcpd.Lists.DBusList

set_option autoImplicit false

namespace Drcpd.Crawler

open Drcpd.Lists

/-- `Crawler::Direction`. -/
inductive Direction where
  | none
  | forward
  | backward
  deriving DecidableEq, Repr

/-- `FindNextOpBase::RecursiveMode`. -/
inductive RecursiveMode where
  | flat
  | depthFirst
  deriving DecidableEq, Repr

/-- `FindNextOpBase::PositionalState`. -/
inductive PositionalState where
  | unknown
  | somewhereInList
  | reachedStartOfList
  | reachedEndOfList
  deriving DecidableEq, Repr

/-- `FindNextOpBase::FindMode`. -/
inductive FindMode where
  | findFirst
  | findNext
  deriving DecidableEq, Repr

/-- `QueryContextEnterList::CallerID`. -/
inductive CallerId where
  | enterRoot
  | enterChild
  | enterParent
  | enterContextRoot
  | enterAnywhere
  | reloadList
  | crawlerResetPosition
  | crawlerFirstEntry
  | crawlerDescend
  | crawlerAscend
  deriving DecidableEq, Repr

/-- `FindNextOp::Continue`. -/
inductive Continue where
  | notWithError
  | notWithSuccess
  | later
  | withThisItem
  deriving DecidableEq, Repr

/-- `FindNextOp::MAX_DIRECTORY_DEPTH`. -/
def maxDirectoryDepth : Nat := 100

/-- `INT_MAX`. -/
def intMax : Nat := 2 ^ 31 - 1

/-- The parameters and the caller ID of `QueryContextEnterList`. -/
structure EnterListParameters where
  callerId : CallerId
  listId : ListId
  line : Nat
  deriving DecidableEq, Repr

/-! ## The cursor -/

/-- `DirectoryCrawler::Cursor`; `cursor` is that of its `nav_`. -/
structure Cursor where
  listId : ListId := {}
  cursor : Nat := 0
  directoryDepth : Nat := 0
  requestedListId : ListId := {}
  requestedLine : Nat := 0
  deriving DecidableEq, Repr

namespace Cursor

/-- `Nav::set_cursor_by_line_number`. -/
def setCursorByLineNumber (c : Cursor) (line visibleItems : Nat) : Cursor :=
  { c with cursor := if visibleItems ≤ line then 0 else line }

/-- `Nav::check_selection`: nothing is selectable in an empty list. -/
def checkSelection (c : Cursor) (visibleItems : Nat) : Cursor :=
  if visibleItems = 0 then { c with cursor := 0 } else c

/-- `Nav::get_line_number_by_item`; `none` is -1. -/
def lineNumber (c : Cursor) (visibleItems : Nat) : Option Nat :=
  if c.cursor < visibleItems ∧ c.cursor ≤ intMax then some c.cursor else none

/-- `Nav::down`, by one line. -/
def down (c : Cursor) (visibleItems : Nat) : Bool × Cursor :=
  let c := c.checkSelection visibleItems
  match c.lineNumber visibleItems with
  | none => (false, c)
  | some line =>
      if visibleItems ≤ line + 1 then (false, c) else (true, { c with cursor := line + 1 })

/-- `Nav::up`, by one line. -/
def up (c : Cursor) (visibleItems : Nat) : Bool × Cursor :=
  let c := c.checkSelection visibleItems
  match c.lineNumber visibleItems with
  | none | some 0 => (false, c)
  | some (line + 1) => (true, { c with cursor := line })

/-- `advance`. -/
def advance (c : Cursor) (direction : Direction) (visibleItems : Nat) : Bool × Cursor :=
  match direction with
  | .forward => c.down visibleItems
  | .backward => c.up visibleItems
  | .none => (false, c)

/-- `sync_list_id_with_request`. -/
def syncListIdWithRequest (c : Cursor) (directoryDepth : Nat) : Cursor :=
  { c with listId := c.requestedListId, directoryDepth := directoryDepth }

/-- `sync_request_with_pos`. -/
def syncRequestWithPos (c : Cursor) : Cursor :=
  { c with requestedLine := c.cursor, requestedListId := c.listId }

/-- `DirectoryCrawler::mk_cursor`, while the traversal list has the given number of
items. -/
def make (listId : ListId) (line depth visibleItems : Nat) : Cursor :=
  { listId := listId
    cursor := if visibleItems ≤ line then 0 else line
    directoryDepth := depth
    requestedListId := listId
    requestedLine := line }

/-- `update_navigation`, for a list with the given number of items. -/
def updateNavigation (c : Cursor) (direction : Direction) (line lines : Nat) : Cursor :=
  let isForward := decide (direction ≠ .backward)
  let line :=
    if lines = 0 then 0
    else if lines ≤ line then (if isForward then lines - 1 else 0)
    else if isForward then line
    else lines - 1 - line
  c.setCursorByLineNumber line lines

end Cursor

/-! ## Operations -/

/-- What an operation learns while it looks at one item. -/
structure ListAnswers where
  /-- The number of visible items. -/
  visibleItems : Nat
  /-- `hint_planned_access`. -/
  hint : HintCall
  /-- `get_item_async`, and whether the item is a directory. -/
  item : OpResult × Option Bool
  /-- `get_child_id_for_enter`, and `is_hard_error`. -/
  child : ListId × Bool
  /-- `get_parent_link_id`, if it does not throw. -/
  parent : Option (ListId × Nat)
  /-- `enter_list_async`. -/
  enter : OpResult
  deriving DecidableEq, Repr

/-- What an operation has asked for: a list to be entered, and the number of functions
passed with hints that are still to be called. -/
structure Requests where
  query : Option EnterListParameters := none
  hinted : Nat := 0
  deriving DecidableEq, Repr

/-- What an operation has asked for, and how it has notified its crawler. -/
structure Effects extends Requests where
  notification : Option DoneNotification := none
  deriving DecidableEq, Repr

/-- `DirectoryCrawler::FindNextOp`. -/
structure FindNextOp extends OperationBase where
  recursiveMode : RecursiveMode
  direction : Direction
  directoryDepth : Nat
  findMode : FindMode
  posState : PositionalState := .unknown
  position : Cursor
  enteringListCallerId : CallerId
  isWaitingForItemHint : Bool := false
  hasSkippedFirst : Bool := false
  deriving DecidableEq, Repr

namespace FindNextOp

/-- The constructor of `FindNextOp`. -/
def make (recursiveMode : RecursiveMode) (direction : Direction) (position : Cursor)
    (findMode : FindMode) (filter : CompletionCallbackFilter := .none)
    (hasCompletionCallback : Bool := true) : FindNextOp :=
  { completionCallbackFilter := filter
    hasCompletionCallback := hasCompletionCallback
    recursiveMode := recursiveMode
    direction := direction
    directoryDepth := position.directoryDepth
    findMode := findMode
    position := position
    enteringListCallerId :=
      if direction = .none then .crawlerResetPosition else .crawlerFirstEntry }

/-- `operation_finished`. -/
def finish (op : FindNextOp) (isSuccessful : Bool) : FindNextOp × Effects :=
  let r := op.toOperationBase.operationFinished isSuccessful
  ({ op with toOperationBase := r.2 }, { notification := some r.1 })

/-- `REACHED_END_OF_LIST` or `REACHED_START_OF_LIST`. -/
def endState (op : FindNextOp) : PositionalState :=
  if op.direction ≠ .backward then .reachedEndOfList else .reachedStartOfList

/-- `check_skip_directory`. -/
def checkSkipDirectory (op : FindNextOp) : Bool :=
  match op.recursiveMode with
  | .flat => true
  | .depthFirst => decide (maxDirectoryDepth ≤ op.directoryDepth)

/-- The call of `enter_list_async` in the middle of a search. -/
def enterList (op : FindNextOp) (callerId : CallerId) (listId : ListId) (line : Nat)
    (enter : OpResult) : Continue × FindNextOp × Requests :=
  let op :=
    { op with
      enteringListCallerId := callerId
      position := { op.position with requestedListId := listId, requestedLine := line } }
  match enter with
  | .started => (.later, op, { query := some ⟨callerId, listId, line⟩ })
  | .succeeded | .failed => (.notWithError, op, {})
  | .canceled | .busy => (.later, op, {})

/-- `continue_search`. -/
def continueSearch (op : FindNextOp) (a : ListAnswers) : Continue × FindNextOp × Requests :=
  let moved := op.position.advance op.direction a.visibleItems
  let op := { op with position := moved.2 }
  if moved.1 then (.withThisItem, op, {})
  else if op.direction = .none then
    (.notWithSuccess, { op with posState := .somewhereInList }, {})
  else if op.directoryDepth ≤ 1 then
    (.notWithSuccess, { op with posState := op.endState }, {})
  else
    match a.parent with
    | none => (.notWithError, op, {})
    | some (listId, itemId) =>
        if listId.isValid then op.enterList .crawlerAscend listId itemId a.enter
        else (.notWithError, op, {})

/-- The check at the beginning of `finish_with_current_item_or_continue`: whether the
item under the cursor is to be skipped. -/
def isFirstToSkip (op : FindNextOp) (visibleItems : Nat) : Bool :=
  let cursor := (op.position.checkSelection visibleItems).cursor
  !op.hasSkippedFirst &&
    match op.direction with
    | .none => false
    | .forward =>
        decide (visibleItems ≤ cursor ∨ op.enteringListCallerId = .crawlerAscend)
    | .backward => decide (cursor = 0 ∨ op.enteringListCallerId = .crawlerAscend)

/-- What is done with an item in the cache. -/
def useItem (op : FindNextOp) (a : ListAnswers) (isDirectory : Bool) :
    Continue × FindNextOp × Requests :=
  if !isDirectory then (.notWithSuccess, { op with posState := .somewhereInList }, {})
  else if op.direction = .none then (.notWithError, op, {})
  else if op.checkSkipDirectory then op.continueSearch a
  else if a.child.1.isValid then op.enterList .crawlerDescend a.child.1 0 a.enter
  else if a.child.2 then (.notWithError, op, {})
  else op.continueSearch a

/-- The part of `finish_with_current_item_or_continue` that looks at the item under the
cursor. -/
def accessItem (op : FindNextOp) (a : ListAnswers) : Continue × FindNextOp × Requests :=
  match a.hint.result with
  | .started => (.later, { op with isWaitingForItemHint := true }, {})
  | .busy | .canceled => (.later, op, {})
  | .failed => (.notWithError, op, {})
  | .succeeded =>
      let op := { op with position := op.position.checkSelection a.visibleItems }
      match a.item with
      | (.succeeded, some isDirectory) => op.useItem a isDirectory
      | (.succeeded, none) | (.failed, _) => (.notWithError, op, {})
      | (.started, _) | (.canceled, _) | (.busy, _) => (.later, op, {})

/-- `finish_with_current_item_or_continue`. -/
def finishWithCurrentItemOrContinue (op : FindNextOp) (a : ListAnswers) :
    Continue × FindNextOp × Requests :=
  if op.isWaitingForItemHint then (.later, op, {})
  else if op.isFirstToSkip a.visibleItems then
    continueSearch
      { op with hasSkippedFirst := decide (op.enteringListCallerId = .crawlerAscend) } a
  else
    match op.accessItem a with
    | (cont, op, requests) =>
        (cont, op, { requests with hinted := a.hint.startedFetch.toNat })

/-- `finish_op_if_possible`; there is no result if it returns false. -/
def finishOpIfPossible : Continue × FindNextOp × Requests → Option (FindNextOp × Effects)
  | (.notWithError, op, requests) =>
      some ((op.finish false).1, { (op.finish false).2 with toRequests := requests })
  | (.notWithSuccess, op, requests) =>
      some ((op.finish true).1, { (op.finish true).2 with toRequests := requests })
  | (.later, op, requests) => some (op, { toRequests := requests })
  | (.withThisItem, _, _) => none

/-- `run_as_far_as_possible`. -/
def runAsFarAsPossible (answers : FindNextOp → ListAnswers) :
    Nat → FindNextOp → Option (FindNextOp × Effects)
  | 0, _ => none
  | fuel + 1, op =>
      let r := op.finishWithCurrentItemOrContinue (answers op)
      match finishOpIfPossible r with
      | some finished => some finished
      | none =>
          (runAsFarAsPossible answers fuel r.2.1).map fun run =>
            (run.1, { run.2 with hinted := r.2.2.hinted + run.2.hinted })

/-- `continue_search`, and the loop if there is an item to go on with. -/
def continueSearchAndRun (answers : FindNextOp → ListAnswers) (fuel : Nat) (op : FindNextOp)
    (proceed : FindNextOp → FindNextOp) : Option (FindNextOp × Effects) :=
  let r := op.continueSearch (answers op)
  match finishOpIfPossible r with
  | some finished => some finished
  | none => runAsFarAsPossible answers fuel (proceed r.2.1)

/-- `matches_async_result`. -/
def matchesAsyncResult (op : FindNextOp) (ctx : EnterListParameters) : Bool :=
  decide (op.enteringListCallerId = ctx.callerId ∧
    ctx.listId = op.position.requestedListId ∧ ctx.line = op.position.requestedLine)

/-- The update of the cursor in `enter_list_event`, when a list with the given number of
items has been entered. -/
def updateNavigation (op : FindNextOp) (callerId : CallerId) (lines : Nat) : FindNextOp :=
  { op with
    position :=
      op.position.updateNavigation
        (if callerId = .crawlerAscend then .forward else op.direction)
        op.position.requestedLine lines }

/-- The end of `enter_list_event` for the first list, which is at the given depth. -/
def enteredFirstList (op : FindNextOp) (answers : FindNextOp → ListAnswers) (fuel depth : Nat)
    (lines : Option Nat) : Option (FindNextOp × Effects) :=
  match lines with
  | none => some (op.finish false)
  | some lines =>
      let op :=
        { op with directoryDepth := depth, position := op.position.syncListIdWithRequest depth }
      if lines = 0 then some (finish { op with posState := op.endState } true)
      else runAsFarAsPossible answers fuel op

/-- The end of `enter_list_event`, once it is known whether a list with the given number
of items has been entered, or none. -/
def enteredList (op : FindNextOp) (answers : FindNextOp → ListAnswers) (fuel : Nat)
    (callerId : CallerId) (lines : Option Nat) : Option (FindNextOp × Effects) :=
  match callerId with
  | .enterRoot | .enterChild | .enterParent | .enterContextRoot | .enterAnywhere
  | .reloadList => some (op.finish false)
  | .crawlerResetPosition => op.enteredFirstList answers fuel op.directoryDepth lines
  | .crawlerFirstEntry => op.enteredFirstList answers fuel 1 lines
  | .crawlerDescend =>
      match lines with
      | none => continueSearchAndRun answers fuel op id
      | some lines =>
          let op :=
            { op with
              directoryDepth := op.directoryDepth + 1
              hasSkippedFirst := false
              position := op.position.syncListIdWithRequest (op.directoryDepth + 1) }
          if lines = 0 then continueSearchAndRun answers fuel op id
          else runAsFarAsPossible answers fuel op
  | .crawlerAscend =>
      match lines with
      | none => some (op.finish false)
      | some lines =>
          let op :=
            { op with
              directoryDepth := op.directoryDepth - 1
              hasSkippedFirst := false
              position := op.position.syncListIdWithRequest (op.directoryDepth - 1) }
          if lines = 0 then some (op.finish false) else runAsFarAsPossible answers fuel op

/-- `enter_list_event`, with the number of items in the list that has been entered. -/
def enterListEvent (op : FindNextOp) (answers : FindNextOp → ListAnswers) (fuel : Nat)
    (result : OpResult) (callerId : CallerId) (lines : Nat) :
    Option (FindNextOp × Effects) :=
  match result with
  | .succeeded =>
      (op.updateNavigation callerId lines).enteredList answers fuel callerId (some lines)
  | .failed => op.enteredList answers fuel callerId none
  | .started | .canceled | .busy => some (op, {})

/-- The function passed with a hint. -/
def hintedFn (op : FindNextOp) (answers : FindNextOp → ListAnswers) (fuel : Nat) :
    Option (FindNextOp × Effects) :=
  if op.isOpActive then
    runAsFarAsPossible answers fuel { op with isWaitingForItemHint := false }
  else some (op, {})

/-- `do_start`, while the traversal list has the given ID; `none` is false. -/
def doStart (op : FindNextOp) (listId : ListId) (enter : OpResult) : Option Effects :=
  if op.position.requestedListId = listId ∨ op.findMode = .findNext then
    some { notification := some op.operationYield }
  else
    match enter with
    | .started =>
        some
          { query := some
              ⟨op.enteringListCallerId, op.position.requestedListId,
                op.position.requestedLine⟩ }
    | .succeeded | .failed | .canceled | .busy => none

/-- `do_continue`. -/
def doContinue (op : FindNextOp) (answers : FindNextOp → ListAnswers) (fuel : Nat) :
    Option (FindNextOp × Effects) :=
  match op.findMode with
  | .findFirst => runAsFarAsPossible answers fuel op
  | .findNext =>
      continueSearchAndRun answers fuel op fun op => { op with hasSkippedFirst := true }

/-- `start`, and whether it has succeeded. -/
def start (op : FindNextOp) (listId : ListId) (enter : OpResult) :
    Bool × FindNextOp × Effects :=
  match op.beginStart with
  | (false, base) => (false, { op with toOperationBase := base }, {})
  | (true, base) =>
      let op := { op with toOperationBase := base }
      match op.doStart listId enter with
      | some effects => (true, op, effects)
      | none => (false, { op with toOperationBase := base.startFailed }, {})

/-- `continue_running`; its result is not used but for a message. -/
def continueRunning (op : FindNextOp) (answers : FindNextOp → ListAnswers) (fuel : Nat) :
    Option (FindNextOp × Effects) :=
  match op.state with
  | .running => op.doContinue answers fuel
  | .canceling => some (op.finish false)
  | .notStarted | .done | .failed | .canceled => some (op, {})

end FindNextOp

end Drcpd.Crawler

/-
  Lists/DBusList.lean --- a list filled from D-Bus: its state, entering and
  invalidating a list (`dbuslist.cc`, `dbuslist.hh`).

  Query objects, viewports and fetchers are known by numbers, and the state maps the
  numbers to the objects.  `viewports_and_fetchers_` is a function; what the source
  does in a loop over it is done at all its entries at once.

  Each enter-list query makes one call, so the call is part of the query and goes by
  its number; `hasCall` says that `async_call_` is not null.  `captured` is the query
  the call's result-available function has captured, and `outstanding` says that GLib
  has not called back yet.

  The enter-list watcher takes note of what it is called with.  The lock is not
  modelled: each function is one step.
-/
import Drcpd.DBus.AsyncCall
import Drcpd.Lists.SegmentFetcher
import Drcpd.Lists.Viewport

set_option autoImplicit false

namespace Drcpd.Lists

open Drcpd.DBus Drcpd.Rnf

/-- A `QueryContextEnterList` object, and the call it makes. -/
abbrev QueryId : Type := Nat

/-- A `DBusListSegmentFetcher` object; the number of the hint call it is made for. -/
abbrev FetcherId : Type := Nat

/-- `QueryContextEnterList` and its call, without title and caller ID. -/
structure EnterListQuery (E : Type) where
  listId : ListId := {}
  line : UInt32 := 0
  associatedViewport : Option ViewportId := none
  hasCall : Bool := false
  call : AsyncCall UInt32 E := {}
  captured : QueryId := 0
  outstanding : Bool := false

/-- `DBusList::EnterListData`, with all queries made so far and the calls of the
enter-list watcher. -/
structure EnterListData (E : Type) where
  query : Option QueryId := none
  queries : QueryId → EnterListQuery E := fun _ => {}
  nextQuery : QueryId := 0
  watched : List (OpResult × QueryId) := []

/-- What a call of `get_item_async_set_hint` returned, and whether a fetch was
started for it. -/
structure HintCall where
  result : OpResult
  startedFetch : Bool
  deriving DecidableEq, Repr

/-- `DBusList`, with the viewports and fetchers it uses, and the calls of
`get_item_async_set_hint` with the results their functions were called with. -/
structure DBusList (Item E : Type) where
  listId : ListId := {}
  numberOfItems : Nat := 0
  viewportsAndFetchers : ViewportId → Option (Option FetcherId) := fun _ => none
  enterListData : EnterListData E := {}
  viewports : ViewportId → Viewport Item
  fetchers : FetcherId → SegmentFetcher Item E := fun _ => {}
  nextHint : FetcherId := 0
  hintCalls : FetcherId → Option HintCall := fun _ => none
  hinted : FetcherId → List OpResult := fun _ => []

variable {Item E : Type}

namespace EnterListData

/-- Replace one query. -/
def setQuery (d : EnterListData E) (q : QueryId) (x : EnterListQuery E) : EnterListData E :=
  { d with queries := Function.update d.queries q x }

/-- `notify_watcher`. -/
def notifyWatcher (d : EnterListData E) (result : OpResult) (q : QueryId) : EnterListData E :=
  { d with watched := d.watched ++ [(result, q)] }

/-- Make a query object and run it, with a result-available function that has
captured the query `captured`, or the new query itself. -/
def runQuery (d : EnterListData E) (listId : ListId) (line : UInt32)
    (associatedViewport : Option ViewportId) (captured : Option QueryId) : EnterListData E :=
  { d with
    query := some d.nextQuery
    nextQuery := d.nextQuery + 1
    queries := Function.update d.queries d.nextQuery
      { listId := listId
        line := line
        associatedViewport := associatedViewport
        hasCall := true
        call := ({} : AsyncCall UInt32 E).invoke
        captured := captured.getD d.nextQuery
        outstanding := true } }

/-- `QueryContextEnterList::cancel`. -/
def cancel (d : EnterListData E) (q : QueryId) (willBeRestarted : Bool) :
    CancelResult × EnterListData E :=
  let x := d.queries q
  if x.hasCall then
    match x.call.cancel willBeRestarted with
    | (result, call) => (result, d.setQuery q { x with call := call })
  else (.notRunning, d)

/-- `restart_if_necessary` and `cancel_and_restart`. -/
def restartIfNecessary (d : EnterListData E) (invalidatedListId replacementId : ListId) :
    EnterListData E :=
  match d.query with
  | none => d
  | some q =>
      let x := d.queries q
      if !x.hasCall then d
      else if x.listId ≠ invalidatedListId then d
      else if !replacementId.isValid then (d.cancel q false).2
      else
        (d.cancel q true).2.runQuery replacementId x.line x.associatedViewport
          (some x.captured)

end EnterListData

/-- How `QueryContextEnterList::synchronize` ends. -/
inductive SyncOutcome where
  | result (state : AsyncResult)
  | threw
  deriving DecidableEq, Repr

namespace DBusList

/-- Replace the query with the given number. -/
def setQuery (s : DBusList Item E) (q : QueryId) (x : EnterListQuery E) : DBusList Item E :=
  { s with enterListData := s.enterListData.setQuery q x }

/-- The end of `synchronize`: the call is dropped if it has not succeeded. -/
def dropCallUnlessSuccess (s : DBusList Item E) (q : QueryId) : DBusList Item E :=
  let x := s.enterListData.queries q
  s.setQuery q { x with hasCall := x.hasCall && x.call.success }

/-- `QueryContextEnterList::synchronize`.  `report` is the call of the
result-available function; there is no outcome if the wait never ends. -/
def synchronize (report : DBusList Item E → QueryId → Option (DBusList Item E))
    (s : DBusList Item E) (q : QueryId) : Option (SyncOutcome × DBusList Item E) :=
  let x := s.enterListData.queries q
  if x.hasCall then
    match x.call.waitForResult with
    | (.returned state, call) =>
        some (.result state, (s.setQuery q { x with call := call }).dropCallUnlessSuccess q)
    | (.threw, call) => some (.threw, s.setQuery q { x with call := call, hasCall := false })
    | (.stuck, _) => none
    | (.readyDirectly, call) =>
        let r := call.readyDirectly
        let s := s.setQuery q { x with call := r.2 }
        match (if r.1 then report s q else some s) with
        | none => none
        | some s =>
            some (.result (s.enterListData.queries q).call.callState,
              s.dropCallUnlessSuccess q)
  else some (.result .initialized, s)

/-- What `enter_list_async_handle_done` does on success, before the watcher is told. -/
def enteredList (s : DBusList Item E) (q : QueryId) : DBusList Item E :=
  let x := s.enterListData.queries q
  { s with
    numberOfItems := (x.call.returnValue.getD 0).toNat
    listId := x.listId
    viewports := fun vp =>
      if (s.viewportsAndFetchers vp).isSome then
        (s.viewports vp).clearForLine
          (if x.associatedViewport = some vp then x.line.toNat else 0)
      else s.viewports vp }

/-- `notify_watcher`. -/
def notifyWatcher (s : DBusList Item E) (result : OpResult) (q : QueryId) : DBusList Item E :=
  { s with enterListData := s.enterListData.notifyWatcher result q }

/-- The result-available function of a query's call, as `enter_list_async` makes it;
`handleDone` is `enter_list_async_handle_done`. -/
def resultAvailable (handleDone : DBusList Item E → QueryId → Option (DBusList Item E))
    (s : DBusList Item E) (k : QueryId) : Option (DBusList Item E) :=
  let q := (s.enterListData.queries k).captured
  if s.enterListData.query ≠ some q then handleDone s q
  else if q = k ∧ (s.enterListData.queries q).hasCall = true then
    handleDone { s with enterListData := { s.enterListData with query := none } } q
  else some s

/-- The end of `enter_list_async_handle_done`. -/
def concludeDone (s : DBusList Item E) (q : QueryId) : SyncOutcome → DBusList Item E
  | .result .done => (s.enteredList q).notifyWatcher .succeeded q
  | .result .canceled => s.notifyWatcher .canceled q
  | .result .initialized | .result .inProgress | .result .ready
  | .result .cancelingDirectly | .result .restarted | .result .failed | .threw =>
      s.notifyWatcher .failed q

/-- `enter_list_async_handle_done`, nested as deep as the fuel allows. -/
def enterListAsyncHandleDone : Nat → DBusList Item E → QueryId → Option (DBusList Item E)
  | 0, _, _ => none
  | fuel + 1, s, q =>
      match s.synchronize (resultAvailable (enterListAsyncHandleDone fuel)) q with
      | none => none
      | some (outcome, s) => some (s.concludeDone q outcome)

/-- The result-available function.  Two nested completions are enough for it. -/
def onResultAvailable (s : DBusList Item E) (k : QueryId) : Option (DBusList Item E) :=
  s.resultAvailable (enterListAsyncHandleDone 2) k

/-- `QueryContextEnterList::cancel_sync`. -/
def cancelSync (s : DBusList Item E) (q : QueryId) :
    Option (CancelResult × DBusList Item E) :=
  match s.enterListData.cancel q false with
  | (.canceled, d) =>
      match { s with enterListData := d }.synchronize onResultAvailable q with
      | none => none
      | some (_, s) => some (.canceled, s)
  | (result, d) => some (result, { s with enterListData := d })

/-- `EnterListData::cancel_enter_list_query`. -/
def cancelEnterListQuery (s : DBusList Item E) : Option (DBusList Item E) :=
  match s.enterListData.query with
  | none => some s
  | some q =>
      match s.cancelSync q with
      | none => none
      | some (.canceled, s) =>
          some { s with enterListData := { s.enterListData with query := none } }
      | some (.blockedRecursiveCall, s) | some (.notRunning, s) => some s

/-- `enter_list_async`, which returns `STARTED`. -/
def enterListAsync (s : DBusList Item E) (associatedViewport : Option ViewportId)
    (listId : ListId) (line : UInt32) : Option (DBusList Item E) :=
  match s.cancelEnterListQuery with
  | none => none
  | some s =>
      let q := s.enterListData.nextQuery
      some ({ s with
        enterListData :=
          s.enterListData.runQuery listId line associatedViewport none }.notifyWatcher
            .started q)

/-- GLib calls back for the call of a query. -/
def checkRangeReady (s : DBusList Item E) (k : QueryId) (answer : Except E UInt32) :
    Option (DBusList Item E) :=
  let x := s.enterListData.queries k
  if x.outstanding then
    let r := x.call.readyLocked answer
    let s := s.setQuery k { x with call := r.2, outstanding := false }
    if r.1 then s.onResultAvailable k else some s
  else none

/-- `cancel_op` of all fetchers in `viewports_and_fetchers_`. -/
def cancelFetchers (s : DBusList Item E) (answers : FetcherId → AbortAnswer) :
    DBusList Item E :=
  { s with
    fetchers := fun f =>
      if s.viewportsAndFetchers (s.fetchers f).listViewport = some (some f) then
        (s.fetchers f).cancelOp (answers f)
      else s.fetchers f }

/-- `clear_for_line(0)` of all viewports in `viewports_and_fetchers_`. -/
def clearViewports (s : DBusList Item E) : DBusList Item E :=
  { s with
    viewports := fun vp =>
      if (s.viewportsAndFetchers vp).isSome then (s.viewports vp).clearForLine 0
      else s.viewports vp }

/-- `list_invalidate`. -/
def listInvalidate (s : DBusList Item E) (listId replacementId : ListId)
    (answers : FetcherId → AbortAnswer) : DBusList Item E :=
  let s :=
    if s.listId = listId then
      let s := { s with listId := replacementId }
      if replacementId.isValid then s.cancelFetchers answers else s.clearViewports
    else s
  { s with enterListData := s.enterListData.restartIfNecessary listId replacementId }

/-- `cancel_all_async_calls`, without its result. -/
def cancelAllAsyncCalls (s : DBusList Item E) (answers : FetcherId → AbortAnswer) :
    Option (DBusList Item E) :=
  s.cancelEnterListQuery.map fun s => s.cancelFetchers answers

end DBusList

end Drcpd.Lists

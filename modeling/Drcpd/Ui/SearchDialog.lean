/-
  Ui/SearchDialog.lean --- asking the user for search parameters (`view_search.hh`,
  `view_search.cc`, and what `view_filebrowser.cc` has to do with it).

  A file browser that is to search for something asks for its parameters through the search
  view, of which there is one for all browsers, and waits for them.  Whatever happens to the
  browser in the meantime makes it stop waiting.  What a browser knows of its list and the
  context comes with the events.  A failed assertion is only logged; where the pointer is used
  which the assertion is about, the program comes to its end.
-/
import Drcpd.Dcp.Writing

set_option autoImplicit false

namespace Drcpd.Ui.SearchDialog

open Drcpd.Dcp

/-- `SearchParameters`. -/
structure SearchParameters where
  context : String
  query : String
  deriving DecidableEq, Repr

/-- What is used of a valid `List::ContextInfo`. -/
structure SearchContext where
  stringId : String
  stringId_ne : stringId ≠ ""
  searchNotPossible : Bool
  hasProperSearchForm : Bool
  deriving DecidableEq, Repr

/-- `GoToSearchForm`. -/
inductive GoToSearchForm where
  | notSupported
  | notAvailable
  | navigating
  deriving DecidableEq, Repr

/-- The assertions: that there are parameters and a view which has requested them in
`apply_search_parameters`, and that there is something to ask for in `write_xml`. -/
inductive Assertion where
  | params
  | requestView
  | requestContext
  deriving DecidableEq, Repr

/-- `ViewSearch::View`, what the file browsers know of it, and the queue.  `waiting` is
`waiting_for_search_parameters_` of each of the browsers, and `failures` are the assertions
that have failed. -/
structure State (V : Type) where
  views : SerializeState V := {}
  query : Option SearchParameters := none
  requestView : Option V := none
  requestContext : String := ""
  waiting : V → Bool := fun _ => false
  failures : List Assertion := []
  nullUsed : Bool := false

/-- What a file browser is told, as far as searching is concerned: `SEARCH_COMMENCE`, or
`NAV_SELECT_ITEM` for a search form, or anything else.  The context is that of the list. -/
inductive BrowserEvent where
  | searchCommence (form : GoToSearchForm) (ctx : Option SearchContext)
  | selectSearchForm (ctx : Option SearchContext)
  | other
  deriving DecidableEq, Repr

/-- What happens to the browsers, the search view, and the queue. -/
inductive Event (V : Type) where
  /-- `ViewFileBrowser::View::process_event`. -/
  | browser (view : V) (e : BrowserEvent)
  /-- `ViewFileBrowser::View::defocus`. -/
  | defocus (view : V)
  /-- `SEARCH_STORE_PARAMETERS`, which goes to the search view first, and the context of the
  view which has requested the parameters. -/
  | storeParameters (parameters : Option SearchParameters) (ctx : Option SearchContext)
  /-- `serialize` or `update` of the search view. -/
  | serialize (mode : Mode) (isFullView : Bool) (isBusy : Option Bool)
  /-- `write_xml` of the search view, and the end of `write_whole_xml`. -/
  | writeXml (text : String)
  /-- What happens to other views, and to the queue. -/
  | views (e : SerializeState.Event V)
  deriving DecidableEq, Repr

/-- The search view is written. -/
def Event.isWriteXml {V : Type} : Event V → Bool
  | .writeXml _ => true
  | .browser _ _ | .defocus _ | .storeParameters _ _ | .serialize _ _ _ | .views _ => false

namespace State

variable {V : Type} [DecidableEq V] (search : V)

/-- `forget_parameters`. -/
def forgetParameters (s : State V) : State V :=
  { s with query := none, requestView := none, requestContext := "" }

/-- `serialize` and `update` of the search view. -/
def serialize (s : State V) (mode : Mode) (isFullView : Bool) (isBusy : Option Bool) : State V :=
  if s.requestContext = "" then s
  else { s with views := (s.views.doSerialize search mode isFullView isBusy).1 }

/-- `request_parameters_for_context`, and the request to serialize the search view. -/
def requestSearchParametersFromUser (s : State V) (view : V) (ctx : SearchContext) : State V :=
  { s with requestView := some view, requestContext := ctx.stringId }.serialize search
    .syncIfPossible true none

/-- `waiting_for_search_parameters`: the state, whether there is nothing more to do, and
whether the browser keeps waiting. -/
def waitingForSearchParameters (s : State V) (view : V) (ctx : Option SearchContext) :
    State V × Bool × Bool :=
  match ctx with
  | none => (s, true, false)
  | some ctx =>
      if ctx.searchNotPossible then (s, true, false)
      else
        match s.query with
        | some _ => (s, false, false)
        | none => (s.requestSearchParametersFromUser search view ctx, true, true)

/-- An assertion. -/
def logAssert (s : State V) (isTrue : Bool) (assertion : Assertion) : State V :=
  if isTrue then s else { s with failures := s.failures ++ [assertion] }

/-- `point_to_item` with the parameters and the view which has requested them, for a valid
context. -/
def pointToItem (s : State V) (ctx : Option SearchContext) : State V :=
  if ctx.isSome && (s.query.isNone || s.requestView.isNone) then { s with nullUsed := true }
  else s

/-- `apply_search_parameters`. -/
def applySearchParameters (s : State V) (ctx : Option SearchContext) : State V :=
  let isNotPossible := match ctx with | some ctx => ctx.searchNotPossible | none => false
  let hasProperSearchForm := match ctx with | some ctx => ctx.hasProperSearchForm | none => false
  if isNotPossible then s
  else
    let s := s.logAssert s.query.isSome .params
    if hasProperSearchForm then s.forgetParameters
    else ((s.logAssert s.requestView.isSome .requestView).pointToItem ctx).forgetParameters

/-- What the destructor of `WaitForParametersHelper` does when `process_event` returns. -/
def stopWaiting (s : State V) (view : V) (havePreloadedParameters waitOnExit
    keepPreloadedParameters : Bool) : State V :=
  let s :=
    if (s.waiting view && !waitOnExit) || (havePreloadedParameters && !keepPreloadedParameters)
    then { s with waiting := Function.update s.waiting view false }.forgetParameters
    else s
  if waitOnExit then { s with waiting := Function.update s.waiting view true } else s

/-- `waiting_for_search_parameters` and, if there are parameters already, what is done
with them. -/
def searchOrWait (s : State V) (view : V) (ctx : Option SearchContext) : State V :=
  match s.waitingForSearchParameters search view ctx with
  | (s', true, waitOnExit) => s'.stopWaiting view s.query.isSome waitOnExit false
  | (s', false, waitOnExit) =>
      (s'.applySearchParameters ctx).stopWaiting view s.query.isSome waitOnExit false

/-- `ViewFileBrowser::View::process_event`. -/
def processEvent (s : State V) (view : V) : BrowserEvent → State V
  | .searchCommence form ctx =>
      if s.waiting view = false ∨ s.query = none then
        match form with
        | .notSupported | .navigating => s.searchOrWait search view ctx
        | .notAvailable => s.stopWaiting view s.query.isSome false false
      else (s.applySearchParameters ctx).stopWaiting view s.query.isSome false false
  | .selectSearchForm ctx => s.searchOrWait search view ctx
  | .other => s.stopWaiting view s.query.isSome false false

/-- `sanitize_search_parameters`. -/
def sanitizeSearchParameters (params : SearchParameters) : Bool :=
  !params.context.isEmpty && !params.query.isEmpty

/-- `ViewSearch::View::process_event`, for `SEARCH_STORE_PARAMETERS`, and what the browser
does to which the event is bounced. -/
def storeParameters (s : State V) (parameters : Option SearchParameters)
    (ctx : Option SearchContext) : State V :=
  let s := { s with query := parameters }
  match parameters, s.requestView with
  | some params, some view =>
      if sanitizeSearchParameters params then
        if s.waiting view then (s.applySearchParameters ctx).stopWaiting view true false false
        else s.stopWaiting view true false true
      else { s with query := none }
  | _, _ => { s with query := none }

/-- `ViewFileBrowser::View::defocus`. -/
def defocus (s : State V) (view : V) : State V :=
  { s with waiting := Function.update s.waiting view false }.forgetParameters

/-- The entry on top is one of the search view. -/
def isWritten (s : State V) : Bool :=
  decide (s.views.entryOnTop.map (·.view) = some search)

/-- The event is up to the search view. -/
def isOwn (s : State V) : SerializeState.Event V → Bool
  | .addUpdateFlags view _ | .doSerialize view _ _ _ | .logBegin view => decide (view = search)
  | .written _ _ => s.isWritten search
  | .logEnd | .processPendingTransactions | .serializationResult _ => false

/-- What comes of an event. -/
def handle (s : State V) : Event V → Option (State V)
  | .browser view e => some (s.processEvent search view e)
  | .defocus view => some (s.defocus view)
  | .storeParameters parameters ctx => some (s.storeParameters parameters ctx)
  | .serialize mode isFullView isBusy => some (s.serialize search mode isFullView isBusy)
  | .writeXml text =>
      if s.isWritten search then
        (s.views.step (.written text true)).map fun done =>
          { s.logAssert (decide (s.requestContext ≠ "")) .requestContext with
            views := done.1
            requestContext := "" }
      else none
  | .views e =>
      if s.isOwn search e then none
      else (s.views.step e).map fun done => { s with views := done.1 }

/-- One event, unless the program has come to its end. -/
def step (s : State V) (e : Event V) : Option (State V) :=
  if s.nullUsed then none else s.handle search e

end State

end Drcpd.Ui.SearchDialog

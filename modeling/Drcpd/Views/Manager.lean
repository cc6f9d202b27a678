/-
  Views/Manager.lean --- the view manager (`view_manager.cc`).

  A view is activated, hidden, updated, or serialized through the manager, which hands the
  requests over to the DCP queue.  What the views themselves do in `focus`, `defocus`, and
  `process_event` is not part of the model, but they may call the manager from there: an
  activation goes through `focus` and the serialization of the view, and other calls may
  come in between.  A view is found by its name among those that have been added.
-/
import Drcpd.Dcp.Writing

set_option autoImplicit false

namespace Drcpd.Views

open Drcpd.Dcp

/-- What `is_serialization_allowed` says: always false (`ViewInactive`, `ViewNop`), whether
the view is the active one (`ViewFileBrowser`, `ViewExternalSource`), or always true
(`ViewPlay`, `ViewSearch`, `ViewErrorSink`). -/
inductive Permission where
  | never
  | whileActive
  | always
  deriving DecidableEq, Repr

/-- What is fixed for each view. -/
structure Traits (V : Type) where
  name : V → String
  /-- `CAN_RETURN_TO_THIS`. -/
  canReturnToThis : V → Bool
  /-- `CAN_HIDE`. -/
  canHide : V → Bool
  permission : V → Permission
  /-- `update` does what `serialize` does (`ViewFileBrowser`, `ViewErrorSink`). -/
  updatesWholly : V → Bool

/-- `ViewIface::InputResult`. -/
inductive InputResult where
  | ok
  | updateNeeded
  | fullSerializeNeeded
  | forceSerialize
  | shouldHide
  deriving DecidableEq, Repr

/-- The function which has been called from `activate_view` and has not returned yet. -/
inductive Phase where
  | focus
  | serialize
  deriving DecidableEq, Repr

/-- A call of `activate_view` that has not returned yet; `depth` is the number of calls of
the views that had not returned when it began. -/
structure Activation where
  phase : Phase
  depth : Nat
  deriving DecidableEq, Repr

/-- `ViewManager::Manager`, with the views and the queue.

`canSerialize` tells the views whose `serialize` and `update` make a request: not
`ViewInactive` and `ViewNop`, and `ViewSearch` only while it has something to ask for.
`isAllowed` is what `is_serialization_allowed` has said for the entry being written, and
`documents` are the entries whose documents have been committed. -/
structure Manager (V : Type) where
  allViews : List V := []
  activeView : V
  returnToView : Option V := none
  activations : List Activation := []
  views : SerializeState V := {}
  canSerialize : V → Bool := fun _ => true
  isAllowed : Bool := false
  documents : List (QueueData V) := []

namespace Manager

variable {V : Type} [DecidableEq V] (traits : Traits V)

/-- `is_view_name_valid`. -/
def isViewNameValid (viewName : String) : Bool :=
  match viewName.toList with
  | [] => false
  | c :: _ => c != '#'

/-- `lookup_view_by_name`. -/
def lookupViewByName (s : Manager V) (viewName : String) : Option V :=
  if isViewNameValid viewName then s.allViews.find? fun view => traits.name view == viewName
  else none

/-- `add_view`. -/
def addView (s : Manager V) (view : V) : Bool × Manager V :=
  if isViewNameValid (traits.name view) = false then (false, s)
  else if (s.allViews.find? fun view' => traits.name view' == traits.name view).isSome then
    (false, s)
  else (true, { s with allViews := s.allViews ++ [view] })

/-- `is_serialization_allowed`, while `activeView` is the active view. -/
def isSerializationAllowed (activeView view : V) : Bool :=
  match traits.permission view with
  | .never => false
  | .whileActive => decide (view = activeView)
  | .always => true

/-- The queue has been told, and may have handed out an entry. -/
def follow (s : Manager V) (done : SerializeState V × Option (QueueData V)) : Manager V :=
  { s with
    views := done.1
    isAllowed :=
      match done.2 with
      | none => s.isAllowed
      | some d => isSerializationAllowed traits s.activeView d.view }

/-- `serialize`. -/
def serialize (s : Manager V) (view : V) (mode : Mode) (isBusy : Option Bool) : Manager V :=
  if s.canSerialize view then s.follow traits (s.views.doSerialize view mode true isBusy)
  else s

/-- `update`. -/
def update (s : Manager V) (view : V) (mode : Mode) (isBusy : Option Bool) : Manager V :=
  if s.canSerialize view then
    s.follow traits (s.views.doSerialize view mode (traits.updatesWholly view) isBusy)
  else s

/-- `activate_view`, up to the call of `focus`. -/
def activateView (s : Manager V) (view : Option V) (enforceReactivation : Bool) : Manager V :=
  match view with
  | none => s
  | some view =>
      if enforceReactivation = false ∧ view = s.activeView then s
      else
        { s with
          activeView := view
          activations := ⟨.focus, s.views.frames.length⟩ :: s.activations }

/-- `sync_activate_view_by_name`. -/
def syncActivateViewByName (s : Manager V) (viewName : String) (enforceReactivation : Bool) :
    Manager V :=
  s.activateView (s.lookupViewByName traits viewName) enforceReactivation

/-- `sync_toggle_views_by_name`. -/
def syncToggleViewsByName (s : Manager V) (viewNameA viewNameB : String)
    (enforceReactivation : Bool) : Manager V :=
  let viewA := s.lookupViewByName traits viewNameA
  let viewB := s.lookupViewByName traits viewNameB
  let nextView :=
    if viewA = viewB then viewA
    else if viewA = none then viewB
    else if viewA = some s.activeView then viewB
    else viewA
  s.activateView nextView enforceReactivation

/-- `handle_input_result`. -/
def handleInputResult (s : Manager V) (result : InputResult) (view : V) : Manager V :=
  match result with
  | .ok => s
  | .updateNeeded =>
      if view = s.activeView then s.update traits view .syncIfPossible none else s
  | .fullSerializeNeeded =>
      if view = s.activeView then s.serialize traits view .syncIfPossible none else s
  | .forceSerialize => s.serialize traits view .syncIfPossible none
  | .shouldHide =>
      if view = s.activeView ∧ traits.canHide view = true then
        s.activateView s.returnToView true
      else s

/-- `update_view_if_active`. -/
def updateViewIfActive (s : Manager V) (view : V) (mode : Mode) : Manager V :=
  if view = s.activeView then s.update traits view mode none else s

/-- `serialize_view_if_active`. -/
def serializeViewIfActive (s : Manager V) (view : V) (mode : Mode) : Manager V :=
  if view = s.activeView then s.serialize traits view mode none else s

/-- `serialize_view_forced`. -/
def serializeViewForced (s : Manager V) (view : V) (mode : Mode) : Manager V :=
  s.serialize traits view mode none

/-- `hide_view_if_active`. -/
def hideViewIfActive (s : Manager V) (view : V) : Manager V :=
  if view = s.activeView then s.handleInputResult traits .shouldHide view else s

/-- `busy_state_notification`. -/
def busyStateNotification (s : Manager V) (isBusy : Bool) : Manager V :=
  s.update traits s.activeView .forceAsync (some isBusy)

/-- How many calls of the views have been left open by the innermost activation. -/
def openBefore (s : Manager V) : Nat :=
  match s.activations with
  | [] => 0
  | activation :: _ => activation.depth

/-- What happens to the views, the manager, and the queue. -/
inductive Event (V : Type) where
  | addView (view : V)
  /-- `OPEN_VIEW`, and other requests for a view. -/
  | openView (viewName : String) (enforceReactivation : Bool)
  | toggleViews (viewNameA viewNameB : String) (enforceReactivation : Bool)
  /-- `process_event` returns. -/
  | inputResult (result : InputResult) (view : V)
  | updateViewIfActive (view : V) (mode : Mode)
  | serializeViewIfActive (view : V) (mode : Mode)
  | serializeViewForced (view : V) (mode : Mode)
  | hideViewIfActive (view : V)
  | busyStateNotification (isBusy : Bool)
  /-- The language has been changed. -/
  | languageChanged
  /-- `focus`, called from `activate_view`, returns. -/
  | focused
  /-- `serialize`, called from `activate_view`, returns. -/
  | serialized
  /-- A view begins or ceases to have something to write. -/
  | canSerialize (view : V) (canSerialize : Bool)
  /-- `add_update_flags`. -/
  | addUpdateFlags (view : V) (flags : UInt32)
  /-- `write_whole_xml` returns. -/
  | written (text : String) (isOk : Bool)
  /-- The serialization of a view to the debug stream begins, or ends. -/
  | logBegin (view : V)
  | logEnd
  | processPendingTransactions
  | serializationResult (result : TransactionResult)
  deriving DecidableEq, Repr

/-- The queue and the views go on by themselves. -/
def advance (s : Manager V) (e : SerializeState.Event V) : Option (Manager V) :=
  (s.views.step e).map (s.follow traits)

/-- One event.  What has been called last returns first. -/
def step (s : Manager V) : Event V → Option (Manager V)
  | .addView view => some (s.addView traits view).2
  | .openView viewName enforceReactivation =>
      some (s.syncActivateViewByName traits viewName enforceReactivation)
  | .toggleViews viewNameA viewNameB enforceReactivation =>
      some (s.syncToggleViewsByName traits viewNameA viewNameB enforceReactivation)
  | .inputResult result view => some (s.handleInputResult traits result view)
  | .updateViewIfActive view mode => some (s.updateViewIfActive traits view mode)
  | .serializeViewIfActive view mode => some (s.serializeViewIfActive traits view mode)
  | .serializeViewForced view mode => some (s.serializeViewForced traits view mode)
  | .hideViewIfActive view => some (s.hideViewIfActive traits view)
  | .busyStateNotification isBusy => some (s.busyStateNotification traits isBusy)
  | .languageChanged => some (s.serialize traits s.activeView .syncIfPossible none)
  | .focused =>
      match s.activations with
      | ⟨.focus, depth⟩ :: activations =>
          if s.views.frames.length = depth then
            some ({ s with activations := ⟨.serialize, depth⟩ :: activations }.serialize traits
              s.activeView .syncIfPossible none)
          else none
      | ⟨.serialize, _⟩ :: _ | [] => none
  | .serialized =>
      match s.activations with
      | ⟨.serialize, depth⟩ :: activations =>
          if s.views.frames.length = depth then
            some { s with
              activations := activations
              returnToView :=
                if traits.canReturnToThis s.activeView then some s.activeView
                else s.returnToView }
          else none
      | ⟨.focus, _⟩ :: _ | [] => none
  | .canSerialize view canSerialize =>
      some { s with canSerialize := Function.update s.canSerialize view canSerialize }
  | .addUpdateFlags view flags => s.advance traits (.addUpdateFlags view flags)
  | .written text isOk =>
      if s.openBefore < s.views.frames.length ∧ (isOk = true → s.isAllowed = true) then
        (s.advance traits (.written text isOk)).map fun s' =>
          { s' with
            documents := s.documents ++ if isOk then s.views.queue.activeData.toList else [] }
      else none
  | .logBegin view => s.advance traits (.logBegin view)
  | .logEnd => if s.openBefore < s.views.frames.length then s.advance traits .logEnd else none
  | .processPendingTransactions =>
      if s.activations = [] then s.advance traits .processPendingTransactions else none
  | .serializationResult result =>
      if s.activations = [] then s.advance traits (.serializationResult result) else none

end Manager

end Drcpd.Views

/-
  Ui/ErrorSink.lean --- the view that shows error messages (`view_error_sink.hh`,
  `view_error_sink.cc`).

  Errors are kept in a list, and the view is put into the DCP queue; a document shows one
  error.  Between `write_xml_begin` and `write_xml`, anything else may happen; `write_xml`
  and what follows up to the commit is one step, and so is `sink_error`.  A run records
  which errors have been shown and which documents have been put out.
-/
import Drcpd.Dcp.Writing
import Drcpd.Ui.PlayXml

set_option autoImplicit false

namespace Drcpd.Ui.ErrorSink

open Drcpd.Foundation Drcpd.Dcp

/-- `Error::Error`. -/
structure SinkError where
  code : UInt16
  contextId : List Char := []
  message : List Char := []
  deriving DecidableEq, Repr

/-- What the view and the DCP queue know, with what has been shown and put out so far. -/
structure State (V : Type) where
  views : SerializeState V := {}
  errors : List SinkError := []
  /-- What `write_xml_begin` has written, if `write_xml` is still to come. -/
  begun : Option Text := none
  shown : List SinkError := []
  documents : List (QueueData V × String) := []

/-- What happens to the view and the DCP queue. -/
inductive Event (V : Type) where
  | sinkError (error : SinkError)
  /-- `about_to_write_xml` and `write_xml_begin`. -/
  | beginXml
  /-- `write_xml` and `write_xml_end`, if `write_xml` allows it. -/
  | writeXml
  /-- The view is serialized on behalf of others, or updated, which is the same. -/
  | serialize (mode : Mode) (isBusy : Option Bool)
  /-- What happens to other views, and to the queue. -/
  | views (e : SerializeState.Event V)
  deriving DecidableEq, Repr

section Write

variable {V : Type} (gettext xmlEscape : List Char → List Char)

/-- `about_to_write_xml` and `get_dynamic_ids`. -/
def getDynamicIds : List SinkError → ViewId × UInt16
  | [] => (.error, invalidScreenId)
  | error :: _ => (.error, error.code)

/-- What `write_xml` writes for an error. -/
def writeError (error : SinkError) : Text :=
  (if error.contextId ≠ [] then
    Text.own "<context>" ++ Text.cText (Text.ofExternal error.contextId) ++
      Text.own "</context>"
  else []) ++
    Text.element "text" "line0" (Text.escapedBy xmlEscape (Text.ofExternal error.message))

/-- `write_xml_end`. -/
def writeXmlEnd (data : QueueData V) (busyStateTriggered : Bool) : Text :=
  appendBusyValue data.busyFlag busyStateTriggered ++ Text.own "</view>"

end Write

namespace State

variable {V : Type} [DecidableEq V] (errorSink : V) (onScreenName : List Char)
  (gettext xmlEscape : List Char → List Char)

/-- `serialize_view_forced`, called by the view itself. -/
def serializeViewForced (s : State V) : State V :=
  { s with views := (s.views.doSerialize errorSink .forceAsync true none).1 }

/-- `sink_error`. -/
def sinkError (s : State V) (error : SinkError) : State V :=
  let needSerialize := s.errors.isEmpty
  let s := { s with errors := s.errors ++ [error] }
  if needSerialize then s.serializeViewForced errorSink else s

/-- `write_xml_begin`, for an entry of the queue. -/
def beginXml (s : State V) (d : QueueData V) : State V :=
  { s with
    begun := some (writeXmlBegin gettext xmlEscape
      { onScreenName := onScreenName, drcpViewId := .error } (getDynamicIds s.errors) d) }

/-- `write_whole_xml` returns. -/
def written (s : State V) (d : QueueData V) (text : Text) (isOk : Bool) : Option (State V) :=
  let document := String.ofList text.chars
  (s.views.step (.written document isOk)).map fun done =>
    { s with
      views := done.1
      begun := none
      documents := if isOk then s.documents ++ [(d, document)] else s.documents }

/-- `write_xml`, which takes out the first error, and what follows. -/
def writeXml (s : State V) (d : QueueData V) (text : Text) : Option (State V) :=
  match s.errors with
  | [] => s.written d text false
  | error :: errors =>
      let s := { s with errors := errors, shown := s.shown ++ [error] }
      let s := if errors.isEmpty then s else s.serializeViewForced errorSink
      s.written d (text ++ writeError xmlEscape error ++ writeXmlEnd d false) true

/-- The event is up to the view itself: it does not request a part of itself to be
serialized, nor does it write to the debug stream. -/
def isOwn (s : State V) : SerializeState.Event V → Bool
  | .addUpdateFlags view _ | .doSerialize view _ _ _ | .logBegin view => decide (view = errorSink)
  | .written _ _ => decide (s.views.entryOnTop.map (·.view) = some errorSink)
  | .logEnd | .processPendingTransactions | .serializationResult _ => false

/-- The document that is put out with an event of other views. -/
def putOutBy (s : State V) : SerializeState.Event V → List (QueueData V × String)
  | .written text true => (s.views.entryOnTop.map (·, text)).toList
  | .written _ false => []
  | .addUpdateFlags _ _ | .doSerialize _ _ _ _ | .logBegin _ | .logEnd
  | .processPendingTransactions | .serializationResult _ => []

/-- What happens to other views, and to the queue. -/
def other (s : State V) (e : SerializeState.Event V) : Option (State V) :=
  if s.isOwn errorSink e then none
  else
    (s.views.step e).map fun done =>
      { s with views := done.1, documents := s.documents ++ s.putOutBy e }

/-- One event. -/
def step (s : State V) : Event V → Option (State V)
  | .sinkError error => some (s.sinkError errorSink error)
  | .beginXml =>
      match s.views.entryOnTop, s.begun with
      | some d, none =>
          if d.view = errorSink then some (s.beginXml onScreenName gettext xmlEscape d) else none
      | _, _ => none
  | .writeXml =>
      match s.views.entryOnTop, s.begun with
      | some d, some text => s.writeXml errorSink xmlEscape d text
      | _, _ => none
  | .serialize mode isBusy =>
      some { s with views := (s.views.doSerialize errorSink mode true isBusy).1 }
  | .views e => s.other errorSink e

end State

end Drcpd.Ui.ErrorSink

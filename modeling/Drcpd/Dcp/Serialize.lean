/-
  Dcp/Serialize.lean --- views that put themselves into the DCP queue
  (`view_serialize.hh`), and `write_whole_xml` as a call that takes time.

  `process` hands an entry to `write_whole_xml`; before that function returns, anything
  may be called that reaches a view, so that requests come in while an entry is being
  written.  The calls that have not returned yet are kept in a stack of `Frame`s.  The
  serialization to the debug stream sets the same flag as `do_serialize` does.
-/
import Mathlib.Logic.Function.Basic
import Drcpd.Dcp.Queue

set_option autoImplicit false

namespace Drcpd.Dcp

variable {V : Type}

namespace Queue

/-- The part of `process` that takes an entry out of the queue. -/
def take (q : Queue V) : Option (QueueData V × Queue V) :=
  match q.data with
  | [] => none
  | d :: rest =>
      match q.dcpd.start with
      | (false, _) => none
      | (true, dcpd) => some (d, ⟨rest, some d, dcpd⟩)

/-- The part of `process` behind `write_whole_xml`, which has written a text.  The result
is what `process` returns, or `none` if it goes on with the next entry. -/
def written (q : Queue V) (text : String) (isOk : Bool) : Option Bool × Queue V :=
  let dcpd := q.dcpd.write text
  if isOk then (some dcpd.commit.1, { q with dcpd := dcpd.commit.2 })
  else (none, { q with activeData := none, dcpd := dcpd.abort.2 })

/-- `process`, where nothing is called while an entry is being written. -/
theorem process_eq_take (q : Queue V) (writeWholeXml : WriteWholeXml V) :
    q.process writeWholeXml =
      match q.take with
      | none => (false, q)
      | some (d, q') =>
          match q'.written (writeWholeXml d).1 (writeWholeXml d).2 with
          | (some isCommitted, q'') => (isCommitted, q'')
          | (none, q'') => q''.process writeWholeXml := by
  obtain ⟨data, activeData, dcpd⟩ := q
  cases data with
  | nil => rfl
  | cons d rest =>
    have hprocess : (⟨d :: rest, activeData, dcpd⟩ : Queue V).process writeWholeXml =
        processLoop writeWholeXml (d :: rest) activeData dcpd := rfl
    rw [hprocess, processLoop]
    unfold take
    dsimp only
    cases hstart : dcpd.start with
    | mk isStarted dcpd' =>
      cases isStarted with
      | false =>
        have hsame : dcpd' = dcpd := by
          unfold Transaction.start at hstart
          cases hstate : dcpd.state <;> rw [hstate] at hstart <;> simp_all
        rw [hsame]
      | true =>
        unfold written
        dsimp only
        cases (writeWholeXml d).2 with
        | false =>
          rw [if_neg Bool.false_ne_true, if_neg Bool.false_ne_true]
          rfl
        | true => rfl

@[simp] theorem written_data (q : Queue V) (text : String) (isOk : Bool) :
    (q.written text isOk).2.data = q.data := by
  unfold written
  cases isOk <;> rfl

end Queue

/-- A call that has not returned yet. -/
inductive Frame (V : Type) where
  /-- `write_whole_xml`, called from `process`, which was called from the `do_serialize` of
  a view or from elsewhere. -/
  | process (caller : Option V)
  /-- The serialization of a view to the debug stream. -/
  | log (view : V)
  deriving DecidableEq, Repr

/-- What the queue and all `ViewSerializeBase` objects know. -/
structure SerializeState (V : Type) where
  queue : Queue V := {}
  updateFlags : V → UInt32 := fun _ => 0
  isSerializing : V → Bool := fun _ => false
  frames : List (Frame V) := []

namespace SerializeState

variable [DecidableEq V]

/-- `serialize_begin` and `serialize_end`. -/
def setSerializing (s : SerializeState V) (view : V) (isSerializing : Bool) :
    SerializeState V :=
  { s with isSerializing := Function.update s.isSerializing view isSerializing }

/-- `add_update_flags`. -/
def addUpdateFlags (s : SerializeState V) (view : V) (flags : UInt32) : SerializeState V :=
  { s with updateFlags := Function.update s.updateFlags view (s.updateFlags view ||| flags) }

/-- The function that has called `start_transaction` or `process_pending_transactions`
returns. -/
def returnTo (s : SerializeState V) : Option V → SerializeState V
  | none => s
  | some view => s.setSerializing view false

/-- `process`, up to the call of `write_whole_xml`, if there is one: then the entry handed
to it is returned.  Otherwise nothing is left to do for the caller. -/
def process (s : SerializeState V) (caller : Option V) :
    SerializeState V × Option (QueueData V) :=
  match s.queue.take with
  | none => (s.returnTo caller, none)
  | some (d, queue) => ({ s with queue := queue, frames := .process caller :: s.frames }, some d)

/-- `start_transaction`. -/
def startTransaction (s : SerializeState V) (mode : Mode) (caller : Option V) :
    SerializeState V × Option (QueueData V) :=
  if s.queue.data.isEmpty then (s.returnTo caller, none)
  else if s.queue.dcpd.isInProgress then (s.returnTo caller, none)
  else
    match mode with
    | .syncIfPossible => s.process caller
    | .forceAsync =>
        let queue := { s.queue with dcpd := (s.queue.dcpd.start true).2 }
        ({ s with queue := queue }.returnTo caller, none)

/-- `do_serialize`. -/
def doSerialize (s : SerializeState V) (view : V) (mode : Mode) (isFullView : Bool)
    (isBusy : Option Bool) : SerializeState V × Option (QueueData V) :=
  if s.isSerializing view then (s, none)
  else
    let s := s.setSerializing view true
    let s := { s with
      queue := s.queue.add view isFullView (s.updateFlags view) isBusy
      updateFlags := Function.update s.updateFlags view 0 }
    s.startTransaction mode (some view)

/-- What happens to the views and the queue. -/
inductive Event (V : Type) where
  | addUpdateFlags (view : V) (flags : UInt32)
  | doSerialize (view : V) (mode : Mode) (isFullView : Bool) (isBusy : Option Bool)
  /-- `write_whole_xml` returns. -/
  | written (text : String) (isOk : Bool)
  /-- `log_serialize_or_update`, or what `ViewPlay::View::serialize` does for the debug
  stream. -/
  | logBegin (view : V)
  | logEnd
  /-- `process_pending_transactions`, from the main loop. -/
  | processPendingTransactions
  /-- `Manager::serialization_result`, from the main loop. -/
  | serializationResult (result : TransactionResult)
  deriving DecidableEq, Repr

/-- One event, with the entry handed to `write_whole_xml`, if there is one.  The main loop
runs when all calls have returned. -/
def step (s : SerializeState V) : Event V → Option (SerializeState V × Option (QueueData V))
  | .addUpdateFlags view flags => some (s.addUpdateFlags view flags, none)
  | .doSerialize view mode isFullView isBusy => some (s.doSerialize view mode isFullView isBusy)
  | .written text isOk =>
      match s.frames with
      | .process caller :: frames =>
          let s' := { s with queue := (s.queue.written text isOk).2, frames := frames }
          if (s.queue.written text isOk).1 = some false then some (s'.returnTo caller, none)
          else some (s'.process caller)
      | _ => none
  | .logBegin view =>
      if s.isSerializing view then some (s, none)
      else some ({ s.setSerializing view true with frames := .log view :: s.frames }, none)
  | .logEnd =>
      match s.frames with
      | .log view :: frames => some ({ s with frames := frames }.setSerializing view false, none)
      | _ => none
  | .processPendingTransactions =>
      match s.frames with
      | [] => some (s.process none)
      | _ :: _ => none
  | .serializationResult result =>
      match s.frames with
      | [] =>
          match s.queue.finishTransaction result with
          | none => none
          | some (true, queue) =>
              some ({ s with queue := queue }.startTransaction .syncIfPossible none)
          | some (false, queue) => some ({ s with queue := queue }, none)
      | _ :: _ => none

end SerializeState

end Drcpd.Dcp

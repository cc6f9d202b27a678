/-
  Dcp/Queue.lean --- the queue of views waiting to be sent to dcpd
  (`dcp_transaction_queue.hh`, `dcp_transaction_queue.cc`), and the function
  `Manager::serialization_result` that takes dcpd's answers (`view_manager.cc`).

  A view is identified by a value of type `V`.  What `write_whole_xml` writes and
  returns is an argument of the operations that call it; one operation asks each
  queued entry at most once, so a function of the entry covers all answers.
-/
import Drcpd.Dcp.Transaction

set_option autoImplicit false

namespace Drcpd.Dcp

/-- `Queue::Mode`. -/
inductive Mode where
  | syncIfPossible
  | forceAsync
  deriving DecidableEq, Repr

/-- `Queue::Data`; a busy flag that is not known is `none`. -/
structure QueueData (V : Type) where
  view : V
  viewUpdateFlags : UInt32
  busyFlag : Option Bool
  isFullSerialize : Bool
  deriving DecidableEq, Repr

/-- `DCP::Queue`: `q_.data_`, `active_.data_` and `active_.dcpd_`. -/
structure Queue (V : Type) where
  data : List (QueueData V) := []
  activeData : Option (QueueData V) := none
  dcpd : Transaction := {}
  deriving DecidableEq, Repr

/-- The text `write_whole_xml` writes for an entry, and what it returns. -/
abbrev WriteWholeXml (V : Type) : Type := QueueData V → String × Bool

/-- What the observer does with a state. -/
inductive ObserverCall where
  | configureTimeout (enable : Bool)
  | scheduleAsyncProcessing
  deriving DecidableEq, Repr

/-- `Queue::transaction_observer`. -/
def transactionObserver : TransactionState → Option ObserverCall
  | .idle => some (.configureTimeout false)
  | .startedAsync => some .scheduleAsyncProcessing
  | .waitForCommit => none
  | .waitForAnswer => some (.configureTimeout true)

namespace Queue

variable {V : Type}

/-- How `add` merges a request into an entry for the same view. -/
def mergeRequest (d : QueueData V) (isFullSerialize : Bool) (viewUpdateFlags : UInt32)
    (isBusy : Option Bool) : QueueData V :=
  { d with
    isFullSerialize := if isFullSerialize then isFullSerialize else d.isFullSerialize
    viewUpdateFlags := d.viewUpdateFlags ||| viewUpdateFlags
    busyFlag := if isBusy.isSome then isBusy else d.busyFlag }

/-- The entries after `add`: the first entry for the view is updated, or a new one
appended. -/
def addToData [DecidableEq V] (view : V) (isFullSerialize : Bool) (viewUpdateFlags : UInt32)
    (isBusy : Option Bool) : List (QueueData V) → List (QueueData V)
  | [] => [⟨view, viewUpdateFlags, isBusy, isFullSerialize⟩]
  | d :: rest =>
      if d.view = view then mergeRequest d isFullSerialize viewUpdateFlags isBusy :: rest
      else d :: addToData view isFullSerialize viewUpdateFlags isBusy rest

/-- `add`. -/
def add [DecidableEq V] (q : Queue V) (view : V) (isFullSerialize : Bool)
    (viewUpdateFlags : UInt32) (isBusy : Option Bool) : Queue V :=
  { q with data := addToData view isFullSerialize viewUpdateFlags isBusy q.data }

/-- The loop of `process`, over the entries that are left. -/
def processLoop (writeWholeXml : WriteWholeXml V) :
    List (QueueData V) → Option (QueueData V) → Transaction → Bool × Queue V
  | [], activeData, dcpd => (false, ⟨[], activeData, dcpd⟩)
  | d :: rest, activeData, dcpd =>
      match dcpd.start with
      | (false, dcpd') => (false, ⟨d :: rest, activeData, dcpd'⟩)
      | (true, dcpd') =>
          let written := dcpd'.write (writeWholeXml d).1
          if (writeWholeXml d).2 then (written.commit.1, ⟨rest, some d, written.commit.2⟩)
          else processLoop writeWholeXml rest none written.abort.2

/-- `process`. -/
def process (q : Queue V) (writeWholeXml : WriteWholeXml V) : Bool × Queue V :=
  processLoop writeWholeXml q.data q.activeData q.dcpd

/-- The loop `while(process());`.  Every turn takes an entry out, so the length of
the queue bounds the number of turns. -/
def drain (writeWholeXml : WriteWholeXml V) : Nat → Queue V → Option (Queue V)
  | 0, _ => none
  | fuel + 1, q =>
      match q.process writeWholeXml with
      | (true, q') => drain writeWholeXml fuel q'
      | (false, q') => some q'

/-- `process_pending_transactions`. -/
def processPendingTransactions (q : Queue V) (writeWholeXml : WriteWholeXml V) :
    Option (Bool × Queue V) :=
  match q.process writeWholeXml with
  | (false, q') => some (false, q')
  | (true, q') => (drain writeWholeXml (q'.data.length + 1) q').map (true, ·)

/-- `start_transaction`. -/
def startTransaction (q : Queue V) (mode : Mode) (writeWholeXml : WriteWholeXml V) :
    Option (Bool × Queue V) :=
  if q.data.isEmpty then some (false, q)
  else if q.dcpd.isInProgress then some (true, q)
  else
    match mode with
    | .syncIfPossible => q.processPendingTransactions writeWholeXml
    | .forceAsync =>
        let dcpd := (q.dcpd.start true).2
        some (dcpd.isStartedAsync, { q with dcpd := dcpd })

/-- `finish_transaction`; there is no outcome where the program is aborted. -/
def finishTransaction (q : Queue V) (result : TransactionResult) : Option (Bool × Queue V) :=
  if q.dcpd.isInProgress then
    let q' : Queue V := { q with activeData := none }
    if result = .ok ∧ q.dcpd.done.1 = true then some (true, { q' with dcpd := q.dcpd.done.2 })
    else if q.dcpd.abort.1 then some (false, { q' with dcpd := q.dcpd.abort.2 })
    else none
  else some (true, q)

/-- `Manager::serialization_result`. -/
def serializationResult (q : Queue V) (result : TransactionResult)
    (writeWholeXml : WriteWholeXml V) : Option (Queue V) :=
  match q.finishTransaction result with
  | none => none
  | some (true, q') => (q'.startTransaction .syncIfPossible writeWholeXml).map (·.2)
  | some (false, q') => some q'

end Queue

end Drcpd.Dcp

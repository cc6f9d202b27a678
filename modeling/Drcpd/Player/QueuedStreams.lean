/-
  Player/QueuedStreams.lean --- the mirror of the stream player's queue
  (`player_data.hh`, `player_data.cc`).

  `QueuedStreams` keeps three redundant structures: the map `streams_` from
  stream ID to stream, the queue of IDs sent to the player, and the ID of the
  stream in flight.  Every operation is written as the source computes it.  An
  exception keeps the state the operation had reached when it was thrown; that
  nothing has changed by then is a theorem, not part of the definition.

  The callback `on_remove_cb_` acts on a state `σ` of its own, which the
  operations thread through.

  `std::map` iterates in key order, `AList` in the order of insertion.  The order
  shows only in the order of the callbacks of `clear` and `clearIf`.
-/
import Mathlib.Data.Finset.Basic
import Drcpd.IdTypes
import Drcpd.Foundation.Assoc

set_option autoImplicit false

namespace Drcpd.Player

open Drcpd.Foundation OurStreamId

/-- `Player::QueuedStream::State`. -/
inductive StreamState where
  | floating
  | queued
  | current
  | aboutToDie
  deriving DecidableEq, Repr

/-- `Player::QueuedStream`.  `data` stands for the stream key, meta data, URIs,
links and originating cursor, which the operations below only hand around. -/
structure QueuedStream (I D : Type) where
  streamId : I
  listId : ListId
  state : StreamState
  data : D
  deriving DecidableEq, Repr

/-- `QueuedStream::set_state`; the assertions on the old state only log. -/
def QueuedStream.setState {I D : Type} (s : QueuedStream I D) (newState : StreamState) :
    QueuedStream I D :=
  if s.state = .aboutToDie then s else { s with state := newState }

@[simp] theorem QueuedStream.setState_streamId {I D : Type} (s : QueuedStream I D)
    (newState : StreamState) : (s.setState newState).streamId = s.streamId := by
  unfold setState; split <;> rfl

@[simp] theorem QueuedStream.setState_listId {I D : Type} (s : QueuedStream I D)
    (newState : StreamState) : (s.setState newState).listId = s.listId := by
  unfold setState; split <;> rfl

/-- `Player::QueueError`, one constructor for each text. -/
inductive QueueError (I : Type) where
  | eraseInvalid (reason : String)
  | eraseNotFound (streamId : I) (reason : String)
  | frontNeitherHeadNorActive (head active : I)
  | frontHeadNotInDropSet (head : I)
  | frontQueueEmpty
  | shiftUnexpected (expected inFlight next : I)
  deriving DecidableEq, Repr

/-- The text of a `QueueError`, with the IDs as `operator<<` prints them. -/
def QueueError.what {I : Type} (print : I → String) : QueueError I → String
  | .eraseInvalid reason =>
      "Cannot erase invalid stream from container [" ++ reason ++ "]"
  | .eraseNotFound streamId reason =>
      "Cannot erase " ++ print streamId ++ " from container: not found [" ++ reason ++ "]"
  | .frontNeitherHeadNorActive head active =>
      "Cannot remove front: neither head " ++ print head ++ " nor active item " ++
        print active ++ " found in drop set"
  | .frontHeadNotInDropSet head =>
      "Cannot remove front: head " ++ print head ++
        " not found in drop set (and there is no active item)"
  | .frontQueueEmpty => "Cannot remove front: the queue is completely empty"
  | .shiftUnexpected expected inFlight next =>
      "Cannot shift queue: expected next " ++ print expected ++ ", have [" ++
        print inFlight ++ ", " ++ print next ++ "]"

/-- How a call ends.  `stuck` is a call the source gives no outcome: undefined
behaviour, or a loop that does not end. -/
inductive Exit (I α : Type) where
  | returned (value : α)
  | thrown (e : QueueError I)
  | stuck
  deriving DecidableEq, Repr

/-- `std::map<ID::OurStream, std::unique_ptr<QueuedStream>>`. -/
abbrev Streams (I D : Type) : Type := AList fun _ : I => QueuedStream I D

/-- `Player::QueuedStreams`. -/
structure QueuedStreams (I D : Type) where
  streams : Streams I D
  queue : List I
  streamInFlight : I
  nextFreeStreamId : I

namespace QueuedStreams

variable {I D σ : Type} [DecidableEq I] [OurStreamId I]

/-- The constructor. -/
def init : QueuedStreams I D where
  streams := ∅
  queue := []
  streamInFlight := makeInvalid
  nextFreeStreamId := make

/-- `is_full`. -/
def isFull (q : QueuedStreams I D) (maxLength : Nat := maxEntries) : Bool :=
  decide (maxLength ≤ q.queue.length)

/-- `copy_all_stream_ids`. -/
def copyAllStreamIds (q : QueuedStreams I D) : List I :=
  (if isValid q.streamInFlight then [q.streamInFlight] else []) ++ q.queue

/-- `is_player_queue_filled`. -/
def isPlayerQueueFilled (q : QueuedStreams I D) : Bool := !q.queue.isEmpty

/-- The loop of `append` that takes the next free ID not in use; the result is the
ID and the new value of `next_free_stream_id_`. -/
def claimFreeId (inUse : I → Bool) : Nat → I → Option (I × I)
  | 0, _ => none
  | fuel + 1, free =>
      if inUse free then claimFreeId inUse fuel (next free) else some (free, next free)

/-- `append`.  The loop looks at more IDs than the map can hold, so its fuel is
never used up (`claimFreeId_eq_some`). -/
def append (q : QueuedStreams I D) (data : D) (listId : ListId) :
    Exit I I × QueuedStreams I D :=
  if q.isFull then (.returned makeInvalid, q)
  else
    match claimFreeId (fun i => decide (i ∈ q.streams)) (q.streams.keys.length + 1)
        q.nextFreeStreamId with
    | none => (.stuck, q)
    | some (streamId, nextFree) =>
        (.returned streamId,
          { q with
            streams := q.streams.insert streamId ⟨streamId, listId, .floating, data⟩
            queue := q.queue ++ [streamId]
            nextFreeStreamId := nextFree })

section Removal

variable (onRemoveCb : QueuedStream I D → σ → σ)

/-- `erase_stream_from_container`. -/
def eraseStreamFromContainer (streams : Streams I D) (streamId : I) (reason : String)
    (env : σ) : Except (QueueError I) (QueuedStream I D) × Streams I D × σ :=
  if isValid streamId then
    match streams.lookup streamId with
    | none => (.error (.eraseNotFound streamId reason), streams, env)
    | some found =>
        (.ok (found.setState .aboutToDie), streams.erase streamId, onRemoveCb found env)
  else (.error (.eraseInvalid reason), streams, env)

/-- Which element `remove_front` takes: its ID and whether it is in the queue.
With a stream in flight that is not in `ids` and an empty queue, the source
prints `queue_.front()` of the empty queue, which is undefined. -/
def frontElement (q : QueuedStreams I D) (ids : Finset I) : Exit I (I × Bool) :=
  match q.queue with
  | head :: _ =>
      if head ∈ ids then .returned (head, true)
      else if isValid q.streamInFlight then
        if q.streamInFlight ∈ ids then .returned (q.streamInFlight, false)
        else .thrown (.frontNeitherHeadNorActive head q.streamInFlight)
      else .thrown (.frontHeadNotInDropSet head)
  | [] =>
      if isValid q.streamInFlight then
        if q.streamInFlight ∈ ids then .returned (q.streamInFlight, false) else .stuck
      else .thrown .frontQueueEmpty

/-- `remove_front`.  The set `ids` is passed by reference and loses the ID of the
removed stream. -/
def removeFront (q : QueuedStreams I D) (ids : Finset I) (env : σ) :
    Exit I (Option (QueuedStream I D)) × Finset I × QueuedStreams I D × σ :=
  if q.queue.isEmpty && !isValid q.streamInFlight then (.returned none, ids, q, env)
  else
    match q.frontElement ids with
    | .stuck => (.stuck, ids, q, env)
    | .thrown e => (.thrown e, ids, q, env)
    | .returned (streamId, isInQueue) =>
        match eraseStreamFromContainer onRemoveCb q.streams streamId
            "remove front element" env with
        | (.error e, streams, env') =>
            (.thrown e, ids.erase streamId, { q with streams := streams }, env')
        | (.ok result, streams, env') =>
            (.returned (some result), ids.erase streamId,
              if isInQueue then { q with streams := streams, queue := q.queue.tail }
              else { q with streams := streams, streamInFlight := makeInvalid },
              env')

/-- `remove_anywhere`; a `QueueError` is caught and logged. -/
def removeAnywhere (q : QueuedStreams I D) (id : I) (env : σ) :
    Option (QueuedStream I D) × QueuedStreams I D × σ :=
  if id ∈ q.queue then
    match eraseStreamFromContainer onRemoveCb q.streams id "remove rejected element" env with
    | (.error _, streams, env') => (none, { q with streams := streams }, env')
    | (.ok result, streams, env') =>
        (some result, { q with streams := streams, queue := q.queue.erase id }, env')
  else (none, q, env)

/-- The second half of both `shift_if_not_flying` functions: the head of the queue
becomes the stream in flight. -/
def launchHead (q : QueuedStreams I D) : QueuedStreams I D :=
  match q.queue with
  | [] => { q with streamInFlight := makeInvalid }
  | head :: rest => { q with streamInFlight := head, queue := rest }

/-- `shift_if_not_flying(id)`. -/
def shiftIfNotFlying (q : QueuedStreams I D) (id : I) (env : σ) :
    Exit I (Option (QueuedStream I D)) × QueuedStreams I D × σ :=
  if isValid id && decide (id = q.streamInFlight) then (.returned none, q, env)
  else if isValid q.streamInFlight then
    match eraseStreamFromContainer onRemoveCb q.streams q.streamInFlight "shift queue" env with
    | (.error e, streams, env') => (.thrown e, { q with streams := streams }, env')
    | (.ok result, streams, env') =>
        (.returned (some result), launchHead { q with streams := streams }, env')
  else (.returned none, launchHead q, env)

/-- `shift`. -/
def shift (q : QueuedStreams I D) (expectedNextId : I) (env : σ) :
    Exit I (Option (QueuedStream I D)) × QueuedStreams I D × σ :=
  let nextId := q.queue.head?.getD makeInvalid
  if nextId ≠ expectedNextId ∧ q.streamInFlight ≠ expectedNextId then
    (.thrown (.shiftUnexpected expectedNextId q.streamInFlight nextId), q, env)
  else q.shiftIfNotFlying onRemoveCb expectedNextId env

/-- `shift_if_not_flying()`, the overload without an ID. -/
def shiftIfNoneFlying (q : QueuedStreams I D) : Bool × QueuedStreams I D :=
  if isValid q.streamInFlight then (false, q)
  else if q.queue.isEmpty then (false, q)
  else (true, launchHead q)

/-- `clear`. -/
def clear (q : QueuedStreams I D) (env : σ) : Nat × QueuedStreams I D × σ :=
  (q.streams.keys.length,
    { q with streams := ∅, queue := [], streamInFlight := makeInvalid },
    (values q.streams).foldl (fun e s => onRemoveCb s e) env)

/-- `clear_if`.  The three ways the source ends in are kept apart: nothing left,
nothing removed, and some streams sorted out. -/
def clearIf (q : QueuedStreams I D) (pred : QueuedStream I D → Bool) (env : σ) :
    Nat × QueuedStreams I D × σ :=
  let remaining := filterValues (fun s => !pred s) q.streams
  let env' := ((values q.streams).filter pred).foldl (fun e s => onRemoveCb s e) env
  let result := q.streams.keys.length - remaining.keys.length
  if remaining.keys.isEmpty then
    (result, { q with streams := ∅, queue := [], streamInFlight := makeInvalid }, env')
  else if result = 0 then (0, { q with streams := remaining }, env')
  else
    (result,
      { q with
        streams := remaining
        queue := q.queue.filter fun i => decide (i ∈ remaining)
        streamInFlight := if q.streamInFlight ∈ remaining then q.streamInFlight
          else makeInvalid },
      env')

end Removal

end QueuedStreams

end Drcpd.Player

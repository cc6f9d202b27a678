/-
  Player/Data.lean --- the bookkeeping part of `Player::Data` (`player_data.hh`,
  `player_data.cc`): the queued streams, the reference counts of the lists they
  come from, and what the player reports to be playing.

  The callback `on_remove_cb_` of the queued streams is `removeDataForStream`, as
  the constructor of `Player::Data` sets it up; the environment of the queue's
  operations is the map of reference counts.
-/
import Mathlib.Data.Rat.Defs
import Drcpd.Player.QueuedStreams

set_option autoImplicit false

namespace Drcpd.Player

open OurStreamId

/-! ## Reference counts -/

/-- `std::map<ID::List, size_t>`. -/
abbrev ReferencedLists : Type := AList fun _ : ListId => Nat

/-- `ref_list_id`. -/
def refListId (listRefcounts : ReferencedLists) (listId : ListId) : ReferencedLists :=
  match listRefcounts.lookup listId with
  | some count => listRefcounts.insert listId (count + 1)
  | none => listRefcounts.insert listId 1

/-- `unref_list_id`. -/
def unrefListId (listRefcounts : ReferencedLists) (listId : ListId) : ReferencedLists :=
  match listRefcounts.lookup listId with
  | none => listRefcounts
  | some count =>
      if count - 1 = 0 then listRefcounts.erase listId
      else listRefcounts.insert listId (count - 1)

/-- `Data::remove_data_for_stream`. -/
def removeDataForStream {I D : Type} (qs : QueuedStream I D)
    (referencedLists : ReferencedLists) : ReferencedLists :=
  unrefListId referencedLists qs.listId

/-! ## The state -/

/-- `Player::NowPlayingInfo`, less the meta data. -/
structure NowPlayingInfo (S : Type) where
  streamId : S
  streamUrl : String
  streamPosition : Int
  streamDuration : Int

/-- `NowPlayingInfo::now_playing`; its callback only logs. -/
def NowPlayingInfo.nowPlaying {S : Type} (info : NowPlayingInfo S) (streamId : S)
    (streamUrl : String) : NowPlayingInfo S :=
  { info with streamId := streamId, streamUrl := streamUrl }

/-- `NowPlayingInfo::nothing`, also the state the constructor leaves. -/
def NowPlayingInfo.nothing {S : Type} (invalid : S) : NowPlayingInfo S :=
  ⟨invalid, "", -1, -1⟩

/-- `Player::Data`. -/
structure Data (I D S : Type) where
  queuedStreams : QueuedStreams I D
  referencedLists : ReferencedLists
  nowPlaying : NowPlayingInfo S
  playbackSpeed : Rat

namespace Data

variable {I D S : Type} [DecidableEq I] [OurStreamId I] [GenericStreamId S I]

/-- The constructor. -/
def init : Data I D S where
  queuedStreams := QueuedStreams.init
  referencedLists := ∅
  nowPlaying := .nothing (GenericStreamId.makeInvalid I)
  playbackSpeed := 1

/-! ## The operations -/

/-- `queued_stream_append`. -/
def queuedStreamAppend (d : Data I D S) (data : D) (listId : ListId) :
    Exit I I × Data I D S :=
  match d.queuedStreams.append data listId with
  | (.returned id, queued) =>
      (.returned id,
        { d with
          queuedStreams := queued
          referencedLists :=
            if isValid id then refListId d.referencedLists listId else d.referencedLists })
  | (exit, queued) => (exit, { d with queuedStreams := queued })

/-- `queued_stream_remove`. -/
def queuedStreamRemove (d : Data I D S) (streamId : I) : Data I D S :=
  let r := d.queuedStreams.clearIf removeDataForStream
    (fun qs => decide (qs.streamId = streamId)) d.referencedLists
  { d with queuedStreams := r.2.1, referencedLists := r.2.2 }

/-- `remove_all_queued_streams`. -/
def removeAllQueuedStreams (d : Data I D S) (alsoRemovePlayingStream : Bool) : Data I D S :=
  if alsoRemovePlayingStream then
    let r := d.queuedStreams.clear removeDataForStream d.referencedLists
    { d with queuedStreams := r.2.1, referencedLists := r.2.2 }
  else
    let headId := d.queuedStreams.streamInFlight
    let r := d.queuedStreams.clearIf removeDataForStream
      (fun qs => decide (qs.streamId ≠ headId)) d.referencedLists
    { d with queuedStreams := r.2.1, referencedLists := r.2.2 }

/-- `player_failed`. -/
def playerFailed (d : Data I D S) : Data I D S :=
  let r := d.queuedStreams.clear removeDataForStream d.referencedLists
  { d with queuedStreams := r.2.1, referencedLists := r.2.2, playbackSpeed := 1 }

/-- `stream_has_changed`. -/
def streamHasChanged (d : Data I D S) (nextStreamId : S) : Exit I Bool × Data I D S :=
  let r := d.queuedStreams.shift removeDataForStream
    (GenericStreamId.ourStream nextStreamId : I) d.referencedLists
  let d' := { d with queuedStreams := r.2.1, referencedLists := r.2.2 }
  match r.1 with
  | .returned _ => (.returned true, d')
  | .thrown _ => (.returned false, d'.playerFailed)
  | .stuck => (.stuck, d')

/-- `player_now_playing_stream`. -/
def playerNowPlayingStream (d : Data I D S) (streamId : S) (streamUrl : String) :
    Exit I Unit × Data I D S :=
  if GenericStreamId.compatibleWith I streamId then
    match d.streamHasChanged streamId with
    | (.stuck, d') => (.stuck, d')
    | (_, d') =>
        (.returned (), { d' with nowPlaying := d'.nowPlaying.nowPlaying streamId streamUrl })
  else (.returned (), { d with nowPlaying := d.nowPlaying.nowPlaying streamId streamUrl })

/-- The loop of `player_dropped_from_queue`.  Each turn takes one ID out of the drop
set, so its size is enough fuel (`dropLoop_cases`). -/
def dropLoop : Nat → Finset I → Data I D S → Exit I Bool × Data I D S
  | fuel, ids, d =>
      if ids = ∅ ∨ d.queuedStreams.isPlayerQueueFilled = false then (.returned true, d)
      else
        match fuel with
        | 0 => (.stuck, d)
        | fuel + 1 =>
            let r := d.queuedStreams.removeFront removeDataForStream ids d.referencedLists
            let d' := { d with queuedStreams := r.2.2.1, referencedLists := r.2.2.2 }
            match r.1 with
            | .stuck => (.stuck, d')
            | .thrown _ => (.returned false, d'.playerFailed)
            | .returned none => (.returned false, d'.playerFailed)
            | .returned (some qs) =>
                dropLoop fuel r.2.1
                  { d' with referencedLists := removeDataForStream qs d'.referencedLists }

/-- The set `drop_set_ours` of `player_dropped_from_queue`. -/
def dropSetOurs (dropped : List S) : Finset I :=
  ((dropped.map GenericStreamId.ourStream).filter fun i : I => isValid i).toFinset

/-- `player_dropped_from_queue`. -/
def playerDroppedFromQueue (d : Data I D S) (dropped : List S) : Exit I Bool × Data I D S :=
  if dropped.isEmpty then (.returned true, d)
  else
    let ids : Finset I := dropSetOurs dropped
    dropLoop ids.card ids d

/-- `player_rejected_unplayed_stream`. -/
def playerRejectedUnplayedStream (d : Data I D S) (dropped : S) : Data I D S :=
  let ourStream : I := GenericStreamId.ourStream dropped
  if isValid ourStream then
    match d.queuedStreams.removeAnywhere removeDataForStream ourStream d.referencedLists with
    | (none, queued, refs) => { d with queuedStreams := queued, referencedLists := refs }
    | (some qs, queued, refs) =>
        { d with queuedStreams := queued, referencedLists := removeDataForStream qs refs }
  else d

/-- `player_finished_and_idle`. -/
def playerFinishedAndIdle (d : Data I D S) : Data I D S :=
  let r := d.queuedStreams.clear removeDataForStream d.referencedLists
  { queuedStreams := r.2.1
    referencedLists := ∅
    nowPlaying := .nothing (GenericStreamId.makeInvalid I)
    playbackSpeed := 1 }

end Data

end Drcpd.Player

/-
  Player/Mirror.lean --- the stream player's queue and what `Player::Data` shows of it
  (`player_control.cc`, `view_play.cc`, `player_data.cc`).

  `Control::queue_item_from_op` adds a stream to the mirror, pushes it to the stream
  player and takes the streams the player has dropped out of the mirror, all in one
  call.  That the player has started a stream is learnt from a notification, which waits
  in the queue of UI events until the play view processes it.

  The stream player is not part of the repository.  It is a FIFO here: it starts its
  streams in order, and a push takes effect at once.
-/
import Drcpd.Player.DataRuns

set_option autoImplicit false
set_option linter.unusedSectionVars false

namespace Drcpd.Player

open Drcpd.Foundation OurStreamId

/-! ## The stream player -/

/-- `Player::Control::InsertMode`. -/
inductive InsertMode where
  | append
  | replaceQueue
  | replaceAll
  deriving DecidableEq, Repr

/-- The argument `keep_first_n` of the player's method `push`. -/
def InsertMode.keepFirstN : InsertMode → Int
  | .append => -1
  | .replaceQueue => 0
  | .replaceAll => -2

/-- `Player::Control::PlayNewMode`. -/
inductive PlayNewMode where
  | keep
  | sendPlayCommandIfIdle
  | sendPauseCommandIfIdle
  deriving DecidableEq, Repr

/-- The stream player: the stream it plays, and the streams that follow. -/
structure StreamPlayer (S : Type) where
  playing : Option S
  fifo : List S
  deriving DecidableEq, Repr

namespace StreamPlayer

variable {S : Type}

def init : StreamPlayer S := ⟨none, []⟩

/-- The streams that are removed by a push. -/
def dropped (p : StreamPlayer S) (keepFirstN : Int) : List S :=
  if keepFirstN = -2 then p.playing.toList ++ p.fifo
  else if keepFirstN < 0 then []
  else p.fifo.drop keepFirstN.toNat

/-- What is left of the player's state before the pushed stream is added. -/
def kept (p : StreamPlayer S) (keepFirstN : Int) : StreamPlayer S :=
  if keepFirstN = -2 then init
  else if keepFirstN < 0 then p
  else { p with fifo := p.fifo.take keepFirstN.toNat }

/-- `push`; the stream is lost if there is no room for it. -/
def push (p : StreamPlayer S) (streamId : S) (keepFirstN : Int) (fifoOverflow : Bool) :
    StreamPlayer S :=
  if fifoOverflow then p.kept keepFirstN
  else { p.kept keepFirstN with fifo := (p.kept keepFirstN).fifo ++ [streamId] }

/-- The player goes on to its next stream, if there is one. -/
def playNext (p : StreamPlayer S) : Option (S × StreamPlayer S) :=
  match p.fifo with
  | [] => none
  | streamId :: rest => some (streamId, ⟨some streamId, rest⟩)

end StreamPlayer

/-! ## More operations of `Player::Data` -/

variable {I D S : Type} [DecidableEq I] [OurStreamId I]

/-- `with_stream`. -/
def QueuedStreams.withStream (q : QueuedStreams I D) (streamId : I)
    (apply : QueuedStream I D → QueuedStream I D) : QueuedStreams I D :=
  match q.streams.lookup streamId with
  | none => q
  | some qs => { q with streams := q.streams.insert streamId (apply qs) }

/-- `queued_stream_sent_to_player`. -/
def Data.queuedStreamSentToPlayer (d : Data I D S) (streamId : I) : Data I D S :=
  if isValid streamId then
    { d with queuedStreams := d.queuedStreams.withStream streamId (·.setState .queued) }
  else d

/-! ## `queue_item_from_op` and the notifications -/

/-- What the result of the find operation comes to.  There are `uris` if the result has
any, a stream key, and an audio source to send them to. -/
structure QueueItem (D : Type) where
  data : D
  listId : ListId
  uris : Bool
  deriving DecidableEq, Repr

/-- How the calls made to the stream player end.  After a push the player may have to be
told to play or to pause. -/
inductive PushAnswer where
  | failed
  | done (fifoOverflow isPlaying commandSent : Bool)
  deriving DecidableEq, Repr

/-- The play view and the stream player.  `waiting` are the now-playing notifications not
processed yet, oldest first; `playerFailed` tells if a call of `stream_has_changed` or
`player_dropped_from_queue` has not ended well. -/
structure MirrorState (I D S : Type) where
  data : Data I D S
  player : StreamPlayer S
  waiting : List S
  playerFailed : Bool

namespace MirrorState

variable [DecidableEq S] [GenericStreamId S I]

def init : MirrorState I D S := ⟨Data.init, StreamPlayer.init, [], false⟩

/-- A call of `player_dropped_from_queue`. -/
def playerDroppedFromQueue (s : MirrorState I D S) (dropped : List S) : MirrorState I D S :=
  let r := s.data.playerDroppedFromQueue dropped
  { s with
    data := r.2
    playerFailed := s.playerFailed || decide (r.1 ≠ .returned true) }

/-- A call of `player_now_playing_stream`, which calls `stream_has_changed` for our own
streams. -/
def playerNowPlayingStream (s : MirrorState I D S) (streamId : S) (streamUrl : String) :
    MirrorState I D S :=
  { s with
    data := (s.data.playerNowPlayingStream streamId streamUrl).2
    playerFailed := s.playerFailed || (GenericStreamId.compatibleWith I streamId &&
      decide ((s.data.streamHasChanged streamId).1 ≠ .returned true)) }

/-- `NOTIFY_NOW_PLAYING` in `ViewPlay::View::process_event`.  No notification names
dropped streams, since all of them have been named by the pushes that dropped them. -/
def notifyNowPlaying (s : MirrorState I D S) (streamId : S) (streamUrl : String) :
    MirrorState I D S :=
  if GenericStreamId.isValid I streamId then
    let switchedStream := decide (s.data.nowPlaying.streamId ≠ streamId)
    let s' := s.playerDroppedFromQueue []
    if switchedStream then s'.playerNowPlayingStream streamId streamUrl else s'
  else s

variable [OurStreamGet S I]

/-- `send_selected_file_uri_to_streamplayer`. -/
def sendSelectedFileUriToStreamplayer (s : MirrorState I D S) (streamId : I)
    (insertMode : InsertMode) (playNewMode : PlayNewMode) :
    PushAnswer → Bool × MirrorState I D S
  | .failed => (false, s)
  | .done fifoOverflow isPlaying commandSent =>
      let rawId : S := OurStreamGet.get streamId
      let dropped := s.player.dropped insertMode.keepFirstN
      let player := s.player.push rawId insertMode.keepFirstN fifoOverflow
      let s' := { s with player := player }.playerDroppedFromQueue dropped
      if fifoOverflow then (false, s')
      else
        (isPlaying || decide (playNewMode = .keep) || commandSent,
          { s' with data := s'.data.queuedStreamSentToPlayer streamId })

/-- `queue_stream_or_forget`. -/
def queueStreamOrForget (s : MirrorState I D S) (streamId : I) (uris : Bool)
    (insertMode : InsertMode) (playNewMode : PlayNewMode) (answer : PushAnswer) :
    Bool × MirrorState I D S :=
  let sent :=
    if uris then s.sendSelectedFileUriToStreamplayer streamId insertMode playNewMode answer
    else (false, s)
  if sent.1 then sent
  else (false, { sent.2 with data := sent.2.data.queuedStreamRemove streamId })

/-- `queue_item_from_op`. -/
def queueItemFromOp (s : MirrorState I D S) (item : QueueItem D) (insertMode : InsertMode)
    (playNewMode : PlayNewMode) (answer : PushAnswer) : Bool × MirrorState I D S :=
  let appended := s.data.queuedStreamAppend item.data item.listId
  let s' := { s with data := appended.2 }
  match appended.1 with
  | .returned streamId =>
      if isValid streamId then
        s'.queueStreamOrForget streamId item.uris insertMode playNewMode answer
      else (false, s')
  | _ => (false, s')

end MirrorState

end Drcpd.Player

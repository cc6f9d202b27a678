/-
  Player/Replay.lean --- pushing all streams once again (`Player::Control::replay`).

  Streams are put back to the floating state before they are pushed, so that they can become
  queued again.  The stream to be replayed is pushed first and the others follow, but all streams
  are put back in between, also the one that has been pushed.
-/
import Drcpd.Player.MirrorRuns
import Drcpd.Player.Retry

set_option autoImplicit false
set_option linter.unusedSectionVars false

namespace Drcpd.Player

open Drcpd.Foundation OurStreamId List

variable {I D S : Type} [DecidableEq I] [OurStreamId I]

/-! ## States of the streams -/

/-- `QueuedStream::prepare_for_recovery`. -/
def QueuedStream.prepareForRecovery (s : QueuedStream I D) : QueuedStream I D :=
  match s.state with
  | .queued | .current => { s with state := .floating }
  | .floating | .aboutToDie => s

/-- `prepare_stream_for_recovery`. -/
def Data.prepareStreamForRecovery (d : Data I D S) (streamId : I) : Data I D S :=
  { d with queuedStreams := d.queuedStreams.withStream streamId (·.prepareForRecovery) }

/-- `copy_all_queued_streams_for_recovery`. -/
def Data.copyAllQueuedStreamsForRecovery (d : Data I D S) : List I × Data I D S :=
  let result := d.queuedStreams.copyAllStreamIds
  (result, result.foldl Data.prepareStreamForRecovery d)

/-! ## The pushes -/

/-- The audio source, which may have a proxy for the player's FIFO. -/
structure AudioSource where
  urlfifoProxy : Bool
  deriving DecidableEq, Repr

/-- The reply to a push. -/
inductive PushReply (S : Type)
  | failed
  | done (droppedIds : List S) (fifoOverflow isPlaying : Bool)
  deriving DecidableEq, Repr

/-- What the player control finds: the URIs to be sent for a stream, the audio source, the
reply to a push, given all pushes so far with the last one at the end, and whether the command
that may follow the push of a stream can be sent. -/
structure ReplayEnv (I D S : Type) where
  uris : D → List String
  audioSource : Option AudioSource
  reply : List (I × InsertMode) → PushReply S
  commandSent : I → Bool

/-- `Player::Control::ReplayResult`. -/
inductive ReplayResult
  | ok
  | gaveUp
  | retryFailedHard
  | emptyQueue
  deriving DecidableEq, Repr

/-- What `replay` works with.  `pushed` are the pushes so far. -/
structure ReplayState (I D S : Type) where
  data : Data I D S
  retryData : Retry I
  pushed : List (I × InsertMode)

namespace ReplayState

variable [GenericStreamId S I] (env : ReplayEnv I D S)

/-- The end of `send_selected_file_uri_to_streamplayer`, after the push. -/
def sentToPlayer (s : ReplayState I D S) (streamId : I) (playNewMode : PlayNewMode)
    (isPlaying : Bool) : Bool × ReplayState I D S :=
  (isPlaying ||
    match playNewMode with
    | .keep => true
    | .sendPlayCommandIfIdle | .sendPauseCommandIfIdle => env.commandSent streamId,
    { s with data := s.data.queuedStreamSentToPlayer streamId })

/-- `send_selected_file_uri_to_streamplayer`. -/
def sendSelectedFileUriToStreamplayer (s : ReplayState I D S) (streamId : I)
    (insertMode : InsertMode) (playNewMode : PlayNewMode) (uris : List String)
    (asrc : AudioSource) : Bool × ReplayState I D S :=
  if uris.isEmpty then (false, s)
  else if asrc.urlfifoProxy then
    let s := { s with pushed := s.pushed ++ [(streamId, insertMode)] }
    match env.reply s.pushed with
    | .failed => (false, s)
    | .done droppedIds fifoOverflow isPlaying =>
        let s := { s with data := (s.data.playerDroppedFromQueue droppedIds).2 }
        if fifoOverflow then (false, s)
        else sentToPlayer env s streamId playNewMode isPlaying
  else sentToPlayer env s streamId playNewMode false

/-- `queue_stream_or_forget`.  There is no stream key for a stream without URIs. -/
def queueStreamOrForget (s : ReplayState I D S) (streamId : I) (insertMode : InsertMode)
    (playNewMode : PlayNewMode) : Bool × ReplayState I D S :=
  let sent :=
    match env.audioSource, s.data.queuedStreams.streams.lookup streamId with
    | some asrc, some qs =>
        s.sendSelectedFileUriToStreamplayer env streamId insertMode playNewMode
          (env.uris qs.data) asrc
    | _, _ => (false, s)
  if sent.1 then sent
  else (false, { sent.2 with data := sent.2.data.queuedStreamRemove streamId })

variable [OurStreamGet S I]

/-- `replay`. -/
def replay (s : ReplayState I D S) (streamId : I) (isRetry : Bool) (playNewMode : PlayNewMode) :
    ReplayResult × ReplayState I D S :=
  let retry := s.retryData.retry S streamId
  let s := { s with retryData := retry.2 }
  if !retry.1 then (.gaveUp, s)
  else
    let s := { s with data := s.data.prepareStreamForRecovery streamId }
    let queued := s.queueStreamOrForget env streamId .replaceAll playNewMode
    if !queued.1 && isRetry then (.retryFailedHard, queued.2)
    else
      let recovered := queued.2.data.copyAllQueuedStreamsForRecovery
      let s := { queued.2 with data := recovered.2 }
      let s := recovered.1.foldl
        (fun s i =>
          if i ≠ streamId then (s.queueStreamOrForget env i .append .keep).2 else s) s
      (if recovered.1.isEmpty then .emptyQueue else .ok, s)

end ReplayState

/-! ## Changing the state of one stream -/

namespace QueuedStreams

theorem lookup_withStream (q : QueuedStreams I D) (i : I)
    (apply : QueuedStream I D → QueuedStream I D) (j : I) :
    (q.withStream i apply).streams.lookup j =
      if j = i then (q.streams.lookup j).map apply else q.streams.lookup j := by
  unfold withStream
  cases hs : q.streams.lookup i with
  | none =>
      by_cases hj : j = i
      · subst hj
        simp [hs]
      · simp [hj]
  | some qs =>
      by_cases hj : j = i
      · subst hj
        simp [hs]
      · simp [hj, AList.lookup_insert_ne hj]

theorem copyAllStreamIds_withStream (q : QueuedStreams I D) (i : I)
    (apply : QueuedStream I D → QueuedStream I D) :
    (q.withStream i apply).copyAllStreamIds = q.copyAllStreamIds := by
  obtain ⟨hqueue, hflight⟩ := q.withStream_queue i apply
  simp only [copyAllStreamIds, hqueue, hflight]

/-- Changing one stream after the other, where a second time makes no difference. -/
theorem lookup_foldl_withStream {apply : QueuedStream I D → QueuedStream I D}
    (htwice : ∀ qs, apply (apply qs) = apply qs) (ids : List I) (q : QueuedStreams I D) (j : I) :
    (ids.foldl (fun q i => q.withStream i apply) q).streams.lookup j =
      if j ∈ ids then (q.streams.lookup j).map apply else q.streams.lookup j := by
  induction ids generalizing q with
  | nil => simp
  | cons i ids ih =>
      rw [List.foldl_cons, ih, lookup_withStream]
      by_cases hi : j = i
      · subst hi
        cases q.streams.lookup j <;> simp [htwice]
      · simp [hi]

theorem copyAllStreamIds_foldl_withStream (apply : QueuedStream I D → QueuedStream I D)
    (ids : List I) (q : QueuedStreams I D) :
    (ids.foldl (fun q i => q.withStream i apply) q).copyAllStreamIds = q.copyAllStreamIds := by
  induction ids generalizing q with
  | nil => rfl
  | cons i ids ih => rw [List.foldl_cons, ih, copyAllStreamIds_withStream]

end QueuedStreams

namespace QueuedStream

@[simp] theorem prepareForRecovery_streamId (s : QueuedStream I D) :
    s.prepareForRecovery.streamId = s.streamId := by
  unfold prepareForRecovery
  split <;> rfl

@[simp] theorem prepareForRecovery_data (s : QueuedStream I D) :
    s.prepareForRecovery.data = s.data := by
  unfold prepareForRecovery
  split <;> rfl

theorem prepareForRecovery_twice (s : QueuedStream I D) :
    s.prepareForRecovery.prepareForRecovery = s.prepareForRecovery := by
  unfold prepareForRecovery
  cases hs : s.state <;> simp [hs]

theorem prepareForRecovery_state {s : QueuedStream I D} (hs : s.state ≠ .aboutToDie) :
    s.prepareForRecovery.state = .floating := by
  unfold prepareForRecovery
  cases hstate : s.state <;> simp_all

theorem setState_state {s : QueuedStream I D} (hs : s.state ≠ .aboutToDie)
    (newState : StreamState) : (s.setState newState).state = newState := by
  simp [setState, hs]

theorem setState_twice (s : QueuedStream I D) (newState : StreamState) :
    (s.setState newState).setState newState = s.setState newState := by
  unfold setState
  by_cases hs : s.state = .aboutToDie <;> simp [hs]

@[simp] theorem setState_data (s : QueuedStream I D) (newState : StreamState) :
    (s.setState newState).data = s.data := by
  unfold setState
  split <;> rfl

end QueuedStream

namespace Data

theorem copyAllQueuedStreamsForRecovery_eq (d : Data I D S) :
    d.copyAllQueuedStreamsForRecovery = (d.queuedStreams.copyAllStreamIds,
      { d with
        queuedStreams := d.queuedStreams.copyAllStreamIds.foldl
          (fun q i => q.withStream i (·.prepareForRecovery)) d.queuedStreams }) := by
  have hfold : ∀ (ids : List I) (d : Data I D S), ids.foldl prepareStreamForRecovery d =
      { d with
        queuedStreams := ids.foldl (fun q i => q.withStream i (·.prepareForRecovery))
          d.queuedStreams } := by
    intro ids
    induction ids with
    | nil => intro d; rfl
    | cons i ids ih => intro d; rw [List.foldl_cons, ih]; rfl
  simp only [copyAllQueuedStreamsForRecovery, hfold]

/-- All streams held are put back, and nothing else is changed. -/
theorem lookup_copyAllQueuedStreamsForRecovery {d : Data I D S}
    (hd : d.queuedStreams.streams.keys ⊆ d.queuedStreams.copyAllStreamIds) (j : I) :
    d.copyAllQueuedStreamsForRecovery.2.queuedStreams.streams.lookup j =
      (d.queuedStreams.streams.lookup j).map (·.prepareForRecovery) := by
  rw [copyAllQueuedStreamsForRecovery_eq]
  dsimp only
  rw [QueuedStreams.lookup_foldl_withStream QueuedStream.prepareForRecovery_twice]
  split
  · rfl
  · rename_i hj
    have hnone : d.queuedStreams.streams.lookup j = none := by
      rw [AList.lookup_eq_none, AList.mem_keys]
      exact fun hmem => hj (hd hmem)
    rw [hnone]
    rfl

end Data

/-! ## The pushes when every push succeeds -/

namespace ReplayState

variable [GenericStreamId S I]

/-- Every push takes place, succeeds, and drops nothing. -/
structure PushesSucceed (env : ReplayEnv I D S) : Prop where
  audioSource : env.audioSource = some ⟨true⟩
  reply : ∀ pushed, ∃ isPlaying, env.reply pushed = .done [] false isPlaying

/-- There is something to push for the stream. -/
def Ready (env : ReplayEnv I D S) (d : Data I D S) (i : I) : Prop :=
  isValid i = true ∧
    ∃ qs, d.queuedStreams.streams.lookup i = some qs ∧ env.uris qs.data ≠ []

/-- The stream player plays something, or gets the command that is needed. -/
def Commanded (env : ReplayEnv I D S) (s : ReplayState I D S) (streamId : I)
    (insertMode : InsertMode) (playNewMode : PlayNewMode) : Prop :=
  env.reply (s.pushed ++ [(streamId, insertMode)]) = .done [] false true ∨
    playNewMode = .keep ∨ env.commandSent streamId = true

/-- A stream that is ready is pushed, and is queued or forgotten then. -/
theorem queueStreamOrForget_of_ready {env : ReplayEnv I D S} (henv : PushesSucceed env)
    {s : ReplayState I D S} {streamId : I} (hready : Ready env s.data streamId)
    (insertMode : InsertMode) (playNewMode : PlayNewMode) :
    (Commanded env s streamId insertMode playNewMode ∧
      s.queueStreamOrForget env streamId insertMode playNewMode =
        (true, { s with
          pushed := s.pushed ++ [(streamId, insertMode)]
          data := s.data.queuedStreamSentToPlayer streamId })) ∨
    (¬Commanded env s streamId insertMode playNewMode ∧
      s.queueStreamOrForget env streamId insertMode playNewMode =
        (false, { s with
          pushed := s.pushed ++ [(streamId, insertMode)]
          data := (s.data.queuedStreamSentToPlayer streamId).queuedStreamRemove streamId })) := by
  obtain ⟨-, qs, hlookup, huris⟩ := hready
  obtain ⟨isPlaying, hreply⟩ := henv.reply (s.pushed ++ [(streamId, insertMode)])
  have hdrop : (s.data.playerDroppedFromQueue []).2 = s.data := rfl
  have hcommanded : Commanded env s streamId insertMode playNewMode ↔
      (isPlaying ||
        match playNewMode with
        | .keep => true
        | .sendPlayCommandIfIdle | .sendPauseCommandIfIdle => env.commandSent streamId) =
          true := by
    cases playNewMode <;> simp [Commanded, hreply]
  by_cases hcommand : Commanded env s streamId insertMode playNewMode
  · refine .inl ⟨hcommand, ?_⟩
    simp [queueStreamOrForget, sendSelectedFileUriToStreamplayer, sentToPlayer, henv.audioSource,
      hlookup, huris, hreply, hdrop, hcommanded.mp hcommand]
  · refine .inr ⟨hcommand, ?_⟩
    simp [queueStreamOrForget, sendSelectedFileUriToStreamplayer, sentToPlayer, henv.audioSource,
      hlookup, huris, hreply, hdrop, Bool.eq_false_iff.mpr fun h => hcommand (hcommanded.mpr h)]

theorem lookup_queuedStreamSentToPlayer {d : Data I D S} {i : I} (hi : isValid i = true) (j : I) :
    (d.queuedStreamSentToPlayer i).queuedStreams.streams.lookup j =
      if j = i then (d.queuedStreams.streams.lookup j).map (·.setState .queued)
      else d.queuedStreams.streams.lookup j := by
  simp only [Data.queuedStreamSentToPlayer, hi, if_true, QueuedStreams.lookup_withStream]

theorem copyAllStreamIds_queuedStreamSentToPlayer (d : Data I D S) (i : I) :
    (d.queuedStreamSentToPlayer i).queuedStreams.copyAllStreamIds =
      d.queuedStreams.copyAllStreamIds := by
  unfold Data.queuedStreamSentToPlayer
  split
  · exact QueuedStreams.copyAllStreamIds_withStream _ _ _
  · rfl

theorem Ready.sentToPlayer {env : ReplayEnv I D S} {d : Data I D S} {i j : I}
    (h : Ready env d j) (hi : isValid i = true) : Ready env (d.queuedStreamSentToPlayer i) j := by
  obtain ⟨hvalid, qs, hlookup, huris⟩ := h
  refine ⟨hvalid, ?_⟩
  rw [lookup_queuedStreamSentToPlayer hi, hlookup]
  by_cases hji : j = i
  · exact ⟨qs.setState .queued, by simp [hji], by simpa using huris⟩
  · exact ⟨qs, by simp [hji], huris⟩

/-- One turn of the loop of `replay`. -/
def replayNext (env : ReplayEnv I D S) (streamId : I) (s : ReplayState I D S) (i : I) :
    ReplayState I D S :=
  if i ≠ streamId then (s.queueStreamOrForget env i .append .keep).2 else s

/-- The loop pushes the other streams in their order, and they are queued then. -/
theorem foldl_replayNext {env : ReplayEnv I D S} (henv : PushesSucceed env) (streamId : I)
    (ids : List I) {s : ReplayState I D S} (hready : ∀ i ∈ ids, i ≠ streamId → Ready env s.data i) :
    let t := ids.foldl (replayNext env streamId) s
    t.pushed = s.pushed ++ (ids.filter fun i => decide (i ≠ streamId)).map (·, .append) ∧
    t.data.queuedStreams.copyAllStreamIds = s.data.queuedStreams.copyAllStreamIds ∧
    ∀ j, t.data.queuedStreams.streams.lookup j =
      if j ∈ ids ∧ j ≠ streamId then
        (s.data.queuedStreams.streams.lookup j).map (·.setState .queued)
      else s.data.queuedStreams.streams.lookup j := by
  induction ids generalizing s with
  | nil => simp
  | cons i ids ih =>
      by_cases hi : i = streamId
      · have hskip : replayNext env streamId s i = s := if_neg fun hne => hne hi
        have hrest := ih fun j hj hne => hready j (List.mem_cons_of_mem i hj) hne
        simp only [List.foldl_cons, hskip]
        refine ⟨by simpa [hi] using hrest.1, hrest.2.1, fun j => (hrest.2.2 j).trans ?_⟩
        by_cases hj : j = streamId
        · simp [hj]
        · simp [hj, hi]
      · have hreadyi := hready i List.mem_cons_self hi
        have hpush : replayNext env streamId s i =
            { s with
              pushed := s.pushed ++ [(i, .append)]
              data := s.data.queuedStreamSentToPlayer i } := by
          rcases queueStreamOrForget_of_ready henv hreadyi .append .keep with
            ⟨-, heq⟩ | ⟨hnot, -⟩
          · rw [replayNext, if_pos hi, heq]
          · exact absurd (.inr (.inl rfl)) hnot
        simp only [List.foldl_cons, hpush]
        obtain ⟨hpushed, hheld, hlookup⟩ := ih (s := { s with
            pushed := s.pushed ++ [(i, .append)]
            data := s.data.queuedStreamSentToPlayer i })
          fun j hj hne => (hready j (List.mem_cons_of_mem i hj) hne).sentToPlayer hreadyi.1
        refine ⟨by simp [hpushed, hi], ?_, fun j => (hlookup j).trans ?_⟩
        · exact hheld.trans (copyAllStreamIds_queuedStreamSentToPlayer _ _)
        · simp only [lookup_queuedStreamSentToPlayer hreadyi.1]
          by_cases hj : j = i
          · subst hj
            cases s.data.queuedStreams.streams.lookup j <;>
              simp [hi, QueuedStream.setState_twice]
          · simp [hj]

/-! ## What `replay` does -/

/-- What is expected where all streams have been pushed: the given one first, then the others,
and all of them are queued. -/
structure ReplayedAll (s : ReplayState I D S) (streamId : I) (t : ReplayState I D S) : Prop where
  pushed : t.pushed = s.pushed ++ (streamId, .replaceAll) ::
    (s.data.queuedStreams.copyAllStreamIds.filter fun i => decide (i ≠ streamId)).map (·, .append)
  held : ∀ i ∈ t.data.queuedStreams.copyAllStreamIds, i ∈ s.data.queuedStreams.copyAllStreamIds
  queued : ∀ i ∈ t.data.queuedStreams.copyAllStreamIds,
    ∃ qs, t.data.queuedStreams.streams.lookup i = some qs ∧ qs.state = .queued

/-- What happens instead: all streams are pushed and queued, but the given one is put back to
the floating state after it has been pushed. -/
structure ReplayedButFirst (s : ReplayState I D S) (streamId : I)
    (r : ReplayResult × ReplayState I D S) : Prop where
  ok : r.1 = .ok
  pushed : r.2.pushed = s.pushed ++ (streamId, .replaceAll) ::
    (s.data.queuedStreams.copyAllStreamIds.filter fun i => decide (i ≠ streamId)).map (·, .append)
  held : r.2.data.queuedStreams.copyAllStreamIds = s.data.queuedStreams.copyAllStreamIds
  states : ∀ i ∈ s.data.queuedStreams.copyAllStreamIds,
    ∃ qs, r.2.data.queuedStreams.streams.lookup i = some qs ∧
      qs.state = if i = streamId then .floating else .queued

theorem ReplayedButFirst.not_replayedAll {s : ReplayState I D S} {streamId : I}
    {r : ReplayResult × ReplayState I D S} (h : ReplayedButFirst s streamId r)
    (hheld : streamId ∈ s.data.queuedStreams.copyAllStreamIds) : ¬ReplayedAll s streamId r.2 := by
  intro hall
  obtain ⟨qs, hqs, hstate⟩ := h.states streamId hheld
  obtain ⟨qs', hqs', hqueued⟩ := hall.queued streamId (h.held ▸ hheld)
  obtain rfl := Option.some.inj (hqs.symm.trans hqs')
  simp [hqueued] at hstate

/-- The streams held, each with something to be pushed.  Streams that are about to die have
been taken out before. -/
structure Replayable (env : ReplayEnv I D S) (d : Data I D S) : Prop where
  consistent : d.queuedStreams.Consistent
  uris : ∀ i qs, d.queuedStreams.streams.lookup i = some qs → env.uris qs.data ≠ []
  alive : ∀ i qs, d.queuedStreams.streams.lookup i = some qs → qs.state ≠ .aboutToDie

/-- The second half of `replay`, after the given stream has been pushed. -/
def replayOthers (env : ReplayEnv I D S) (s : ReplayState I D S) (streamId : I) :
    ReplayState I D S :=
  let recovered := s.data.copyAllQueuedStreamsForRecovery
  recovered.1.foldl (replayNext env streamId) { s with data := recovered.2 }

/-- All streams are put back, and all but the given one are pushed and queued. -/
theorem replayOthers_spec {env : ReplayEnv I D S} (henv : PushesSucceed env)
    {s : ReplayState I D S} (hs : Replayable env s.data) (streamId : I) :
    let t := replayOthers env s streamId
    t.pushed = s.pushed ++ (s.data.queuedStreams.copyAllStreamIds.filter
      fun i => decide (i ≠ streamId)).map (·, .append) ∧
    t.data.queuedStreams.copyAllStreamIds = s.data.queuedStreams.copyAllStreamIds ∧
    ∀ j qs, s.data.queuedStreams.streams.lookup j = some qs →
      ∃ qs', t.data.queuedStreams.streams.lookup j = some qs' ∧
        qs'.state = if j = streamId then .floating else .queued := by
  have hlookup := Data.lookup_copyAllQueuedStreamsForRecovery (d := s.data)
    hs.consistent.keys_perm.subset
  have hready : ∀ i ∈ s.data.queuedStreams.copyAllStreamIds, i ≠ streamId →
      Ready env s.data.copyAllQueuedStreamsForRecovery.2 i := by
    intro i hi _
    obtain ⟨qs, hqs⟩ := hs.consistent.exists_stream hi
    refine ⟨hs.consistent.valid_of_mem hi, qs.prepareForRecovery, ?_, ?_⟩
    · rw [hlookup, hqs]
      rfl
    · rw [QueuedStream.prepareForRecovery_data]
      exact hs.uris i qs hqs
  obtain ⟨hpushed, hheld, hstates⟩ := foldl_replayNext henv streamId
    s.data.queuedStreams.copyAllStreamIds
    (s := { s with data := s.data.copyAllQueuedStreamsForRecovery.2 }) hready
  refine ⟨hpushed, hheld.trans ?_, fun j qs hqs => ?_⟩
  · rw [Data.copyAllQueuedStreamsForRecovery_eq]
    exact QueuedStreams.copyAllStreamIds_foldl_withStream _ _ _
  · have hmem : j ∈ s.data.queuedStreams.copyAllStreamIds := by
      rw [← hs.consistent.mem_streams_iff, ← AList.lookup_isSome, hqs]
      rfl
    have hfloating := QueuedStream.prepareForRecovery_state (hs.alive j qs hqs)
    have hstate := hstates j
    simp only [hlookup, hqs, Option.map_some, hmem, true_and] at hstate
    by_cases hj : j = streamId
    · exact ⟨qs.prepareForRecovery, hstate.trans (by simp [hj]), by simpa [hj] using hfloating⟩
    · refine ⟨qs.prepareForRecovery.setState .queued, hstate.trans (by simp [hj]), ?_⟩
      rw [QueuedStream.setState_state (by simp [hfloating]), if_neg hj]

theorem Replayable.withStream {env : ReplayEnv I D S} {d : Data I D S} (h : Replayable env d)
    (i : I) {apply : QueuedStream I D → QueuedStream I D}
    (hid : ∀ qs, (apply qs).streamId = qs.streamId) (hdata : ∀ qs, (apply qs).data = qs.data)
    (halive : ∀ qs, qs.state ≠ .aboutToDie → (apply qs).state ≠ .aboutToDie) :
    Replayable env { d with queuedStreams := d.queuedStreams.withStream i apply } where
  consistent := h.consistent.withStream i hid
  uris := by
    intro j qs hqs
    rw [QueuedStreams.lookup_withStream] at hqs
    split at hqs
    · obtain ⟨qs', hqs', rfl⟩ := Option.map_eq_some_iff.mp hqs
      rw [hdata]
      exact h.uris j qs' hqs'
    · exact h.uris j qs hqs
  alive := by
    intro j qs hqs
    rw [QueuedStreams.lookup_withStream] at hqs
    split at hqs
    · obtain ⟨qs', hqs', rfl⟩ := Option.map_eq_some_iff.mp hqs
      exact halive qs' (h.alive j qs' hqs')
    · exact h.alive j qs hqs

theorem Replayable.prepareStreamForRecovery {env : ReplayEnv I D S} {d : Data I D S}
    (h : Replayable env d) (i : I) : Replayable env (d.prepareStreamForRecovery i) := by
  refine h.withStream i QueuedStream.prepareForRecovery_streamId
    QueuedStream.prepareForRecovery_data fun qs hqs => ?_
  simp [QueuedStream.prepareForRecovery_state hqs]

theorem Replayable.queuedStreamSentToPlayer {env : ReplayEnv I D S} {d : Data I D S}
    (h : Replayable env d) (i : I) : Replayable env (d.queuedStreamSentToPlayer i) := by
  unfold Data.queuedStreamSentToPlayer
  split
  · refine h.withStream i (fun qs => qs.setState_streamId .queued)
      (fun qs => qs.setState_data .queued) fun qs hqs => ?_
    simp [QueuedStream.setState_state hqs]
  · exact h

/-- The streams held after one of them has been forgotten. -/
theorem lookup_queuedStreamRemove {d : Data I D S} (hd : d.queuedStreams.Consistent) {i j : I}
    {qs : QueuedStream I D} :
    (d.queuedStreamRemove i).queuedStreams.streams.lookup j = some qs ↔
      d.queuedStreams.streams.lookup j = some qs ∧ j ≠ i := by
  obtain ⟨hstreams, -⟩ := QueuedStreams.clearIf_spec removeDataForStream hd
    (fun qs => decide (qs.streamId = i)) d.referencedLists
  have hremove : (d.queuedStreamRemove i).queuedStreams.streams =
      filterValues (fun qs => !decide (qs.streamId = i)) d.queuedStreams.streams := hstreams
  rw [hremove, lookup_filterValues]
  refine and_congr_right fun hqs => ?_
  simp [hd.streamId_eq j qs hqs]

theorem copyAllStreamIds_queuedStreamRemove {d : Data I D S} (hd : d.queuedStreams.Consistent)
    (i : I) : (d.queuedStreamRemove i).queuedStreams.copyAllStreamIds =
      d.queuedStreams.copyAllStreamIds.filter fun j => decide (j ≠ i) := by
  obtain ⟨-, -, hheld, -⟩ := QueuedStreams.clearIf_spec removeDataForStream hd
    (fun qs => decide (qs.streamId = i)) d.referencedLists
  refine hheld.trans (List.filter_congr fun j hj => ?_)
  obtain ⟨qs, hqs⟩ := hd.exists_stream hj
  rw [decide_eq_decide, mem_filterValues]
  constructor
  · rintro ⟨qs', hqs', hne⟩
    simpa [hd.streamId_eq j qs' hqs'] using hne
  · intro hne
    exact ⟨qs, hqs, by simp [hd.streamId_eq j qs hqs, hne]⟩

theorem Replayable.queuedStreamRemove {env : ReplayEnv I D S} {d : Data I D S}
    (h : Replayable env d) (i : I) : Replayable env (d.queuedStreamRemove i) where
  consistent :=
    (QueuedStreams.clearIf_removal removeDataForStream h.consistent _ _).consistent h.consistent
  uris := fun j qs hqs => h.uris j qs ((lookup_queuedStreamRemove h.consistent).mp hqs).1
  alive := fun j qs hqs => h.alive j qs ((lookup_queuedStreamRemove h.consistent).mp hqs).1

variable [OurStreamGet S I]

/-- The state after the given stream has been pushed. -/
def replayedFirst (S : Type) [GenericStreamId S I] [OurStreamGet S I] (s : ReplayState I D S)
    (streamId : I) : ReplayState I D S :=
  { data := (s.data.prepareStreamForRecovery streamId).queuedStreamSentToPlayer streamId
    retryData := (s.retryData.retry S streamId).2
    pushed := s.pushed ++ [(streamId, .replaceAll)] }

theorem Ready.of_replayable {env : ReplayEnv I D S} {d : Data I D S} (h : Replayable env d) {i : I}
    (hi : i ∈ d.queuedStreams.copyAllStreamIds) : Ready env d i := by
  obtain ⟨qs, hqs⟩ := h.consistent.exists_stream hi
  exact ⟨h.consistent.valid_of_mem hi, qs, hqs, h.uris i qs hqs⟩

theorem copyAllStreamIds_replayedFirst (s : ReplayState I D S) (streamId : I) :
    (s.replayedFirst S streamId).data.queuedStreams.copyAllStreamIds =
      s.data.queuedStreams.copyAllStreamIds :=
  (copyAllStreamIds_queuedStreamSentToPlayer _ _).trans
    (QueuedStreams.copyAllStreamIds_withStream _ _ _)

theorem replayable_replayedFirst {env : ReplayEnv I D S} {s : ReplayState I D S}
    (hs : Replayable env s.data) (streamId : I) :
    Replayable env (s.replayedFirst S streamId).data :=
  (hs.prepareStreamForRecovery streamId).queuedStreamSentToPlayer streamId

theorem replay_of_refused (env : ReplayEnv I D S) {s : ReplayState I D S} {streamId : I}
    (hretry : (s.retryData.retry S streamId).1 = false) (isRetry : Bool)
    (playNewMode : PlayNewMode) : (s.replay env streamId isRetry playNewMode).1 = .gaveUp := by
  simp [replay, hretry]

/-- The state in which the given stream is pushed. -/
def prepared (S : Type) [GenericStreamId S I] [OurStreamGet S I] (s : ReplayState I D S)
    (streamId : I) : ReplayState I D S :=
  { s with
    data := s.data.prepareStreamForRecovery streamId
    retryData := (s.retryData.retry S streamId).2 }

theorem replay_of_granted (env : ReplayEnv I D S) {s : ReplayState I D S} {streamId : I}
    (hretry : (s.retryData.retry S streamId).1 = true) (isRetry : Bool)
    (playNewMode : PlayNewMode) :
    s.replay env streamId isRetry playNewMode =
      let queued := (s.prepared S streamId).queueStreamOrForget env streamId .replaceAll playNewMode
      if !queued.1 && isRetry then (.retryFailedHard, queued.2)
      else
        (if queued.2.data.queuedStreams.copyAllStreamIds.isEmpty then .emptyQueue else .ok,
          replayOthers env queued.2 streamId) := by
  rw [replay, hretry]
  rfl

section Granted

variable {env : ReplayEnv I D S} (henv : PushesSucceed env) {s : ReplayState I D S}
  (hs : Replayable env s.data) {streamId : I}
  (hheld : streamId ∈ s.data.queuedStreams.copyAllStreamIds)
  (hretry : (s.retryData.retry S streamId).1 = true) (isRetry : Bool) {playNewMode : PlayNewMode}

include hs hheld in
theorem ready_prepared : Ready env (s.prepared S streamId).data streamId := by
  refine .of_replayable (hs.prepareStreamForRecovery streamId) ?_
  rw [Data.prepareStreamForRecovery, QueuedStreams.copyAllStreamIds_withStream]
  exact hheld

include henv hs hheld hretry

theorem replay_of_commanded (hcommand : Commanded env s streamId .replaceAll playNewMode) :
    s.replay env streamId isRetry playNewMode =
      (.ok, replayOthers env (s.replayedFirst S streamId) streamId) := by
  have hpush := (queueStreamOrForget_of_ready henv (ready_prepared hs hheld) .replaceAll
    playNewMode).resolve_right fun h => h.1 hcommand
  have hsome : (s.replayedFirst S streamId).data.queuedStreams.copyAllStreamIds ≠ [] := by
    rw [copyAllStreamIds_replayedFirst]
    exact List.ne_nil_of_mem hheld
  rw [replay_of_granted env hretry, hpush.2]
  refine Prod.ext (if_neg ?_) rfl
  rw [List.isEmpty_iff]
  exact hsome

theorem replay_of_not_commanded (hcommand : ¬Commanded env s streamId .replaceAll playNewMode) :
    let forgotten := { s.replayedFirst S streamId with
      data := (s.replayedFirst S streamId).data.queuedStreamRemove streamId }
    (s.replay env streamId isRetry playNewMode).1 = .ok →
      (s.replay env streamId isRetry playNewMode).2 = replayOthers env forgotten streamId := by
  intro forgotten hok
  have hpush := (queueStreamOrForget_of_ready henv (ready_prepared hs hheld) .replaceAll
    playNewMode).resolve_left fun h => hcommand h.1
  rw [replay_of_granted env hretry, hpush.2] at hok ⊢
  cases isRetry with
  | true => cases hok
  | false => rfl

theorem replayedButFirst_of_commanded
    (hcommand : Commanded env s streamId .replaceAll playNewMode) :
    ReplayedButFirst s streamId (s.replay env streamId isRetry playNewMode) := by
  have hfirst := replayable_replayedFirst hs (S := S) streamId
  have hsame := copyAllStreamIds_replayedFirst (S := S) s streamId
  rw [replay_of_commanded henv hs hheld hretry isRetry hcommand]
  obtain ⟨hpushed, hothers, hstates⟩ := replayOthers_spec henv hfirst streamId
  refine ⟨rfl, ?_, hothers.trans hsame, fun i hi => ?_⟩
  · rw [hpushed, hsame]
    simp [replayedFirst]
  · obtain ⟨qs, hqs⟩ := hfirst.consistent.exists_stream (hsame ▸ hi)
    exact hstates i qs hqs

/-- The given stream is forgotten, so that all streams held in the end are queued. -/
theorem replayedAll_of_not_commanded
    (hcommand : ¬Commanded env s streamId .replaceAll playNewMode)
    (hok : (s.replay env streamId isRetry playNewMode).1 = .ok) :
    ReplayedAll s streamId (s.replay env streamId isRetry playNewMode).2 := by
  have hfirst := replayable_replayedFirst hs (S := S) streamId
  have hsame := copyAllStreamIds_replayedFirst (S := S) s streamId
  have hleft := copyAllStreamIds_queuedStreamRemove hfirst.consistent streamId
  have hforgotten := hfirst.queuedStreamRemove streamId
  rw [replay_of_not_commanded henv hs hheld hretry isRetry hcommand hok]
  obtain ⟨hpushed, hothers, hstates⟩ := replayOthers_spec henv
    (s := { s.replayedFirst S streamId with
      data := (s.replayedFirst S streamId).data.queuedStreamRemove streamId }) hforgotten streamId
  refine ⟨?_, ?_, ?_⟩
  · rw [hpushed, hleft, hsame]
    simp [replayedFirst]
  · rw [hothers, hleft, hsame]
    exact fun i hi => (List.mem_filter.mp hi).1
  · rw [hothers]
    intro i hi
    obtain ⟨qs, hqs⟩ := hforgotten.consistent.exists_stream hi
    have hne := ((lookup_queuedStreamRemove hfirst.consistent).mp hqs).2
    simpa [hne] using hstates i qs hqs

end Granted

/-- Where all pushes succeed, all that is expected happens exactly if the retry is refused, or the
given stream is forgotten because a command is needed that cannot be sent.  Otherwise it is the
one stream that is not queued in the end. -/
theorem replay_sound_iff {env : ReplayEnv I D S} (henv : PushesSucceed env)
    {s : ReplayState I D S} (hs : Replayable env s.data) {streamId : I}
    (hheld : streamId ∈ s.data.queuedStreams.copyAllStreamIds) (isRetry : Bool)
    (playNewMode : PlayNewMode) :
    (((s.replay env streamId isRetry playNewMode).1 = .ok →
        ReplayedAll s streamId (s.replay env streamId isRetry playNewMode).2) ↔
      ¬((s.retryData.retry S streamId).1 = true ∧
        Commanded env s streamId .replaceAll playNewMode)) ∧
    ((s.retryData.retry S streamId).1 = true ∧ Commanded env s streamId .replaceAll playNewMode →
      ReplayedButFirst s streamId (s.replay env streamId isRetry playNewMode)) := by
  have hbut : (s.retryData.retry S streamId).1 = true ∧
      Commanded env s streamId .replaceAll playNewMode →
      ReplayedButFirst s streamId (s.replay env streamId isRetry playNewMode) := fun h =>
    replayedButFirst_of_commanded henv hs hheld h.1 isRetry h.2
  refine ⟨⟨fun hsound h => ?_, fun hnot hok => ?_⟩, hbut⟩
  · exact (hbut h).not_replayedAll hheld (hsound (hbut h).ok)
  · cases hretry : (s.retryData.retry S streamId).1 with
    | false => simp [replay_of_refused env hretry] at hok
    | true =>
        exact replayedAll_of_not_commanded henv hs hheld hretry isRetry
          (fun h => hnot ⟨hretry, h⟩) hok

/-! ## One stream -/

/-- A stream with one URI has been queued. -/
def oneStream : ReplayState (Option (Fin 24)) (List String) Nat :=
  { data := (Data.init.queuedStreamAppend ["http://stream"] ⟨7⟩).2
    retryData := Retry.reset
    pushed := [] }

/-- The player plays whatever is pushed, or stays idle. -/
def obeying (isPlaying : Bool) : ReplayEnv (Option (Fin 24)) (List String) Nat :=
  { uris := fun uris => uris
    audioSource := some ⟨true⟩
    reply := fun _ => .done [] false isPlaying
    commandSent := fun _ => false }

theorem pushesSucceed_obeying (isPlaying : Bool) : PushesSucceed (obeying isPlaying) :=
  ⟨rfl, fun _ => ⟨isPlaying, rfl⟩⟩

theorem lookup_oneStream {i : Option (Fin 24)} {qs : QueuedStream (Option (Fin 24)) (List String)}
    (h : oneStream.data.queuedStreams.streams.lookup i = some qs) :
    qs = ⟨some 1, ⟨7⟩, .floating, ["http://stream"]⟩ := by
  by_cases hi : i = some 1
  · subst hi
    exact (Option.some.inj h).symm
  · have hnone : oneStream.data.queuedStreams.streams.lookup i = none := AList.lookup_insert_ne hi
    simp [hnone] at h

theorem replayable_oneStream (isPlaying : Bool) :
    Replayable (obeying isPlaying) oneStream.data := by
  refine ⟨(Data.invariant_init.queuedStreamAppend_snd _ _).consistent, ?_, ?_⟩
  · intro i qs h
    simp [lookup_oneStream h, obeying]
  · intro i qs h
    simp [lookup_oneStream h]

/-- Another stream has been queued after it. -/
def twoStreams : ReplayState (Option (Fin 24)) (List String) Nat :=
  { oneStream with data := (oneStream.data.queuedStreamAppend ["http://stream"] ⟨8⟩).2 }

theorem replayable_twoStreams (isPlaying : Bool) :
    Replayable (obeying isPlaying) twoStreams.data := by
  have hqs : ∀ i qs, twoStreams.data.queuedStreams.streams.lookup i = some qs →
      qs.data = ["http://stream"] ∧ qs.state = .floating := by
    intro i qs h
    by_cases hi : i = some 2
    · subst hi
      cases h
      exact ⟨rfl, rfl⟩
    · have hother : twoStreams.data.queuedStreams.streams.lookup i =
          oneStream.data.queuedStreams.streams.lookup i := AList.lookup_insert_ne hi
      rw [hother] at h
      rw [lookup_oneStream h]
      exact ⟨rfl, rfl⟩
  refine ⟨((Data.invariant_init.queuedStreamAppend_snd _ _).queuedStreamAppend_snd _
    _).consistent, ?_, ?_⟩
  · intro i qs h
    simp [(hqs i qs h).1, obeying]
  · intro i qs h
    simp [(hqs i qs h).2]

/-- The first stream is forgotten, as the command cannot be sent; the second one is queued. -/
theorem replay_sound_iff_not_commanded :
    (twoStreams.replay (obeying false) (some 1) false .sendPlayCommandIfIdle).1 = .ok ∧
      ReplayedAll twoStreams (some 1)
        (twoStreams.replay (obeying false) (some 1) false .sendPlayCommandIfIdle).2 := by
  have hok : (twoStreams.replay (obeying false) (some 1) false .sendPlayCommandIfIdle).1 = .ok :=
    rfl
  have hheld : some 1 ∈ twoStreams.data.queuedStreams.copyAllStreamIds := by decide
  have hsound := (replay_sound_iff (pushesSucceed_obeying false) (replayable_twoStreams false)
    hheld false .sendPlayCommandIfIdle).1.mpr (by simp [Commanded, obeying])
  exact ⟨hok, hsound hok⟩

/-- The stream that is replayed is playing, and floating. -/
theorem replayed_stream_is_floating :
    ¬∀ (env : ReplayEnv (Option (Fin 24)) (List String) Nat)
      (s : ReplayState (Option (Fin 24)) (List String) Nat) (streamId : Option (Fin 24)),
      PushesSucceed env → Replayable env s.data →
      streamId ∈ s.data.queuedStreams.copyAllStreamIds →
      (s.replay env streamId true .sendPlayCommandIfIdle).1 = .ok →
        ReplayedAll s streamId (s.replay env streamId true .sendPlayCommandIfIdle).2 := by
  intro h
  have hheld : some 1 ∈ oneStream.data.queuedStreams.copyAllStreamIds := by decide
  have hcommand : Commanded (obeying true) oneStream (some 1) .replaceAll
      .sendPlayCommandIfIdle := .inl rfl
  have hbut := replayedButFirst_of_commanded (pushesSucceed_obeying true)
    (replayable_oneStream true) hheld (by decide) true hcommand
  exact hbut.not_replayedAll hheld (h _ _ _ (pushesSucceed_obeying true)
    (replayable_oneStream true) hheld hbut.ok)

end ReplayState

end Drcpd.Player

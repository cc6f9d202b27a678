/-
  Player/MirrorRuns.lean --- the mirror of the stream player's queue while notifications
  wait.

  The mirror lags behind the player by the notifications that wait: `queue_` holds the
  streams of these notifications, then the content of the player's FIFO.  A push that
  drops streams removes what the player has, not what the mirror shows, so the two agree
  only if no notification waits when something is dropped.
-/
import Drcpd.Foundation.Run
import Drcpd.Player.Mirror

set_option autoImplicit false
set_option linter.unusedSectionVars false

namespace Drcpd.Player

open Drcpd.Foundation OurStreamId List

variable {I D S : Type} [DecidableEq I] [OurStreamId I]

namespace QueuedStreams

/-! ## Operations that leave the queue alone -/

theorem Consistent.withStream {q : QueuedStreams I D} (hq : Consistent q) (streamId : I)
    {apply : QueuedStream I D → QueuedStream I D}
    (hid : ∀ s, (apply s).streamId = s.streamId) : Consistent (q.withStream streamId apply) := by
  unfold QueuedStreams.withStream
  cases hs : q.streams.lookup streamId with
  | none => exact hq
  | some s =>
    have hmem : streamId ∈ q.streams.keys := by
      rw [← AList.mem_keys, ← AList.lookup_isSome, hs]
      exact Option.isSome_some
    refine ⟨?_, hq.valid_queue, ?_, hq.valid_next, hq.length_queue⟩
    · rw [AList.keys_insert]
      exact (List.perm_cons_erase hmem).symm.trans hq.keys_perm
    · intro i t ht
      by_cases hi : i = streamId
      · subst hi
        rw [AList.lookup_insert, Option.some.injEq] at ht
        rw [← ht, hid]
        exact hq.streamId_eq i s hs
      · rw [AList.lookup_insert_ne hi] at ht
        exact hq.streamId_eq i t ht

theorem withStream_queue (q : QueuedStreams I D) (streamId : I)
    (apply : QueuedStream I D → QueuedStream I D) :
    (q.withStream streamId apply).queue = q.queue ∧
      (q.withStream streamId apply).streamInFlight = q.streamInFlight := by
  unfold QueuedStreams.withStream
  split
  · exact ⟨rfl, rfl⟩
  · exact ⟨rfl, rfl⟩

/-- `clear_if` forgets the stream in flight only if it takes it out. -/
theorem clearIf_streamInFlight {σ : Type} (onRemoveCb : QueuedStream I D → σ → σ)
    {q : QueuedStreams I D} {pred : QueuedStream I D → Bool} (env : σ)
    (hflight : q.streamInFlight = makeInvalid ∨
      q.streamInFlight ∈ filterValues (fun s => !pred s) q.streams) :
    (clearIf onRemoveCb q pred env).2.1.streamInFlight = q.streamInFlight := by
  unfold clearIf
  dsimp only
  split
  next hnone =>
    rcases hflight with hinvalid | hmem
    · exact hinvalid.symm
    · rw [AList.mem_keys, List.isEmpty_iff.mp hnone] at hmem
      cases hmem
  next =>
    split
    next => rfl
    next =>
      dsimp only
      rcases hflight with hinvalid | hmem
      · rw [hinvalid, ite_self]
      · rw [if_pos hmem]

/-- The head of the queue becomes the stream in flight. -/
theorem shiftIfNotFlying_next {σ : Type} (onRemoveCb : QueuedStream I D → σ → σ)
    {q : QueuedStreams I D} (hq : Consistent q) {next : I} {queue : List I}
    (hqueue : q.queue = next :: queue) (hne : next ≠ q.streamInFlight) (env : σ) :
    ∃ r q' env', shiftIfNotFlying onRemoveCb q next env = (.returned r, q', env') ∧
      Consistent q' ∧ q'.streamInFlight = next ∧ q'.queue = queue := by
  have hlaunch : ∀ streams : Streams I D,
      (launchHead { q with streams := streams }).streamInFlight = next ∧
        (launchHead { q with streams := streams }).queue = queue := by
    intro streams
    unfold launchHead
    rw [hqueue]
    exact ⟨rfl, rfl⟩
  have hnot : ¬(isValid next && decide (next = q.streamInFlight)) = true := by
    rw [decide_eq_false hne, Bool.and_false]
    exact Bool.false_ne_true
  have hconsistent : Consistent (shiftIfNotFlying onRemoveCb q next env).2.1 := by
    rcases shiftIfNotFlying_cases onRemoveCb hq next env with
      heq | ⟨s, q', -, -, hrem, -, heq⟩ | ⟨q', -, hrem, -, heq⟩
    · rw [heq]
      exact hq
    · rw [heq]
      exact hrem.consistent hq
    · rw [heq]
      exact hrem.consistent hq
  cases hvalid : isValid q.streamInFlight with
  | true =>
    have hheld : q.streamInFlight ∈ q.copyAllStreamIds := by
      rw [copyAllStreamIds_of_valid hvalid]
      exact List.mem_cons_self
    obtain ⟨s, hs⟩ := hq.exists_stream hheld
    have hshift : shiftIfNotFlying onRemoveCb q next env =
        (.returned (some (s.setState .aboutToDie)),
          launchHead { q with streams := q.streams.erase q.streamInFlight },
          onRemoveCb s env) := by
      unfold shiftIfNotFlying
      rw [if_neg hnot, if_pos hvalid, eraseStreamFromContainer_eq onRemoveCb hvalid hs]
    rw [hshift] at hconsistent ⊢
    exact ⟨_, _, _, rfl, hconsistent, hlaunch (q.streams.erase q.streamInFlight)⟩
  | false =>
    have hshift : shiftIfNotFlying onRemoveCb q next env =
        (.returned none, launchHead q, env) := by
      unfold shiftIfNotFlying
      rw [if_neg hnot, if_neg (Bool.eq_false_iff.mp hvalid)]
    rw [hshift] at hconsistent ⊢
    exact ⟨_, _, _, rfl, hconsistent, hlaunch q.streams⟩

end QueuedStreams

namespace Data

open QueuedStreams

/-! ## What the mirror shows -/

/-- The stream in flight and the queued streams, in a consistent mirror. -/
structure Shows (d : Data I D S) (flight : I) (queue : List I) : Prop where
  consistent : d.queuedStreams.Consistent
  flight_eq : d.queuedStreams.streamInFlight = flight
  queue_eq : d.queuedStreams.queue = queue
  flight_valid : isValid flight = true ∨ flight = makeInvalid

theorem Shows.valid {d : Data I D S} {flight : I} {queue : List I} (h : d.Shows flight queue) :
    ∀ i ∈ queue, isValid i = true := by
  intro i hi
  rw [← h.queue_eq] at hi
  exact h.consistent.valid_queue i hi

theorem Shows.flight_notMem {d : Data I D S} {flight : I} {queue : List I}
    (h : d.Shows flight queue) : flight ∉ queue := by
  intro hmem
  have hvalid := h.valid flight hmem
  have hnodup := h.consistent.nodup
  rw [← h.flight_eq] at hvalid hmem
  rw [copyAllStreamIds_of_valid hvalid, List.nodup_cons, h.queue_eq] at hnodup
  exact hnodup.1 hmem

theorem Shows.nodup {d : Data I D S} {flight : I} {queue : List I} (h : d.Shows flight queue) :
    queue.Nodup := by
  have hnodup := h.consistent.nodup
  unfold copyAllStreamIds at hnodup
  rw [h.queue_eq] at hnodup
  exact (List.nodup_append.mp hnodup).2.1

theorem Shows.of_queuedStreams_eq {d d' : Data I D S} {flight : I} {queue : List I}
    (h : d.Shows flight queue) (heq : d'.queuedStreams = d.queuedStreams) :
    d'.Shows flight queue := by
  obtain ⟨hconsistent, hflight, hqueue, hvalid⟩ := h
  rw [← heq] at hconsistent hflight hqueue
  exact ⟨hconsistent, hflight, hqueue, hvalid⟩

/-- `queued_stream_append` adds a stream at the end, under an ID that is not shown. -/
theorem Shows.queuedStreamAppend {d : Data I D S} {flight : I} {queue : List I}
    (h : d.Shows flight queue) (data : D) (listId : ListId) :
    (d.queuedStreams.isFull = true ∧
      d.queuedStreamAppend data listId = (.returned makeInvalid, d)) ∨
    ∃ i d', d.queuedStreams.isFull = false ∧ isValid i = true ∧
      d.queuedStreamAppend data listId = (.returned i, d') ∧
      d'.Shows flight (queue ++ [i]) ∧ d'.nowPlaying = d.nowPlaying := by
  unfold Data.queuedStreamAppend
  rcases append_cases h.consistent data listId with ⟨hfull, heq⟩ |
    ⟨i, nextFree, hfull, hi, hnext, hunused, heq⟩
  · rw [heq]
    dsimp only
    rw [not_isValid_makeInvalid]
    exact .inl ⟨hfull, rfl⟩
  · rw [heq]
    refine .inr ⟨i, _, hfull, hi, rfl, ?_, rfl⟩
    refine ⟨h.consistent.insert hfull hi hnext hunused rfl, h.flight_eq, ?_, h.flight_valid⟩
    exact congrArg (· ++ [i]) h.queue_eq

/-- `queued_stream_remove` of the stream added last. -/
theorem Shows.queuedStreamRemove {d : Data I D S} {flight i : I} {queue : List I}
    (h : d.Shows flight (queue ++ [i])) : (d.queuedStreamRemove i).Shows flight queue := by
  have hstay : ∀ j, j ∈ d.queuedStreams.copyAllStreamIds → j ≠ i →
      j ∈ filterValues (fun s => !decide (s.streamId = i)) d.queuedStreams.streams := by
    intro j hj hne
    obtain ⟨s, hs⟩ := h.consistent.exists_stream hj
    refine mem_filterValues.mpr ⟨s, hs, ?_⟩
    rw [h.consistent.streamId_eq j s hs, decide_eq_false hne]
    exact Bool.not_false
  have hnodup := List.nodup_append.mp h.nodup
  obtain ⟨-, hqueue, -, -⟩ := clearIf_spec removeDataForStream h.consistent
    (fun qs => decide (qs.streamId = i)) d.referencedLists
  refine ⟨(clearIf_removal removeDataForStream h.consistent _ _).consistent h.consistent,
    ?_, ?_, h.flight_valid⟩
  · refine (clearIf_streamInFlight removeDataForStream d.referencedLists ?_).trans h.flight_eq
    rw [h.flight_eq]
    rcases h.flight_valid with hvalid | hinvalid
    · refine .inr (hstay flight ?_ fun heq => ?_)
      · rw [← h.flight_eq] at hvalid
        rw [copyAllStreamIds_of_valid hvalid, h.flight_eq]
        exact List.mem_cons_self
      · exact h.flight_notMem (List.mem_append.mpr (.inr (List.mem_singleton.mpr heq)))
    · exact .inl hinvalid
  · refine hqueue.trans ?_
    rw [h.queue_eq, List.filter_append, List.filter_eq_self.mpr ?stay,
      List.filter_eq_nil_iff.mpr ?gone, List.append_nil]
    case stay =>
      intro j hj
      refine decide_eq_true (hstay j (mem_copyAllStreamIds_of_mem_queue ?_) ?_)
      · rw [h.queue_eq]
        exact List.mem_append.mpr (.inl hj)
      · exact hnodup.2.2 j hj i (List.mem_singleton.mpr rfl)
    case gone =>
      intro j hj hmem
      obtain ⟨s, hs, hkept⟩ := mem_filterValues.mp (of_decide_eq_true hmem)
      rw [h.consistent.streamId_eq j s hs, List.mem_singleton.mp hj, decide_eq_true rfl] at hkept
      cases hkept

theorem Shows.queuedStreamSentToPlayer {d : Data I D S} {flight : I} {queue : List I}
    (h : d.Shows flight queue) (i : I) : (d.queuedStreamSentToPlayer i).Shows flight queue := by
  unfold Data.queuedStreamSentToPlayer
  split
  · obtain ⟨hqueue, hflight⟩ :=
      d.queuedStreams.withStream_queue i (·.setState .queued)
    exact ⟨h.consistent.withStream i fun s => s.setState_streamId .queued,
      hflight.trans h.flight_eq, hqueue.trans h.queue_eq, h.flight_valid⟩
  · exact h

/-! ### The drop list of a push -/

theorem dropLoop_nothing (fuel : Nat) (d : Data I D S) :
    dropLoop fuel ∅ d = (.returned true, d) := by
  cases fuel with
  | zero => exact if_pos (.inl rfl)
  | succ fuel => exact if_pos (.inl rfl)

/-- A turn of the loop that takes a stream out. -/
theorem dropLoop_turn {fuel : Nat} {ids ids' : Finset I} {d : Data I D S}
    {qs : QueuedStream I D} {q' : QueuedStreams I D} {refs' : ReferencedLists}
    (hids : ids ≠ ∅) (hqueue : d.queuedStreams.queue ≠ [])
    (hfront : d.queuedStreams.removeFront removeDataForStream ids d.referencedLists =
      (.returned (some qs), ids', q', refs')) :
    dropLoop (fuel + 1) ids d = dropLoop fuel ids'
      { d with queuedStreams := q', referencedLists := removeDataForStream qs refs' } := by
  have hgo : ¬(ids = ∅ ∨ d.queuedStreams.isPlayerQueueFilled = false) := by
    rintro (hnone | hempty)
    · exact hids hnone
    · unfold isPlayerQueueFilled at hempty
      rw [Bool.not_eq_false', List.isEmpty_iff] at hempty
      exact hqueue hempty
  rw [dropLoop, if_neg hgo, hfront]

/-- The head of the queue is taken out first. -/
theorem Shows.dropLoop_head {d : Data I D S} {flight head : I} {rest : List I}
    (h : d.Shows flight (head :: rest)) {ids : Finset I} (hmem : head ∈ ids) (fuel : Nat) :
    ∃ d', dropLoop (fuel + 1) ids d = dropLoop fuel (ids.erase head) d' ∧
      d'.Shows flight rest ∧ d'.nowPlaying = d.nowPlaying := by
  have hqueue : d.queuedStreams.queue ≠ [] := by
    rw [h.queue_eq]
    exact List.cons_ne_nil head rest
  have hhead : ¬HeadNotIn d.queuedStreams ids := fun hnot => hnot head rest h.queue_eq hmem
  rcases removeFront_cases removeDataForStream h.consistent ids d.referencedLists with
    ⟨hnone, -⟩ | ⟨hempty, -⟩ | ⟨e, hnot, -, -⟩ | ⟨i, qs, q', -, -, hrem, htaken, heq⟩
  · exact absurd (List.append_eq_nil_iff.mp hnone).2 hqueue
  · exact absurd hempty.1 hqueue
  · exact absurd hnot hhead
  · rcases htaken with ⟨rest', hcons, hrest, hflight⟩ | ⟨hnot, -⟩
    · rw [h.queue_eq, List.cons.injEq] at hcons
      obtain ⟨rfl, rfl⟩ := hcons
      refine ⟨_, dropLoop_turn (Finset.ne_empty_of_mem hmem) hqueue heq, ?_, rfl⟩
      exact ⟨hrem.consistent h.consistent, hflight.trans h.flight_eq, hrest, h.flight_valid⟩
    · exact absurd hnot hhead

/-- The stream in flight is taken out when the head of the queue has to stay. -/
theorem Shows.dropLoop_flight {d : Data I D S} {flight head : I} {rest : List I}
    (h : d.Shows flight (head :: rest)) {ids : Finset I} (hhead : head ∉ ids)
    (hvalid : isValid flight = true) (hmem : flight ∈ ids) (fuel : Nat) :
    ∃ d', dropLoop (fuel + 1) ids d = dropLoop fuel (ids.erase flight) d' ∧
      d'.Shows makeInvalid (head :: rest) ∧ d'.nowPlaying = d.nowPlaying := by
  have hqueue : d.queuedStreams.queue ≠ [] := by
    rw [h.queue_eq]
    exact List.cons_ne_nil head rest
  rw [← h.flight_eq] at hvalid hmem
  rcases removeFront_cases removeDataForStream h.consistent ids d.referencedLists with
    ⟨hnone, -⟩ | ⟨hempty, -⟩ | ⟨e, -, hnot, -⟩ | ⟨i, qs, q', hi, -, hrem, htaken, heq⟩
  · exact absurd (List.append_eq_nil_iff.mp hnone).2 hqueue
  · exact absurd hempty.1 hqueue
  · exact absurd hmem (hnot hvalid)
  · rcases htaken with ⟨rest', hcons, -, -⟩ | ⟨-, rfl, -, hstay, hgone⟩
    · rw [h.queue_eq, List.cons.injEq] at hcons
      exact absurd (hcons.1 ▸ hi) hhead
    · rw [h.flight_eq] at heq
      refine ⟨_, dropLoop_turn (Finset.ne_empty_of_mem hmem) hqueue heq, ?_, rfl⟩
      exact ⟨hrem.consistent h.consistent, hgone, hstay.trans h.queue_eq, .inr rfl⟩

/-- Where a front part of the queue is dropped, perhaps with the stream in flight,
the rest stays. -/
theorem Shows.dropLoop_front {last : I} {front : List I} {fuel : Nat} {ids : Finset I}
    {d : Data I D S} {flight : I} (h : d.Shows flight (front ++ [last]))
    (hfront : ∀ i ∈ front, i ∈ ids)
    (hids : ∀ i ∈ ids, i ∈ front ∨ isValid flight = true ∧ i = flight)
    (hfuel : ids.card ≤ fuel) :
    ∃ d', dropLoop fuel ids d = (.returned true, d') ∧
      d'.Shows (if flight ∈ ids then makeInvalid else flight) [last] ∧
      d'.nowPlaying = d.nowPlaying := by
  induction front generalizing fuel ids d with
  | nil =>
    rcases Finset.eq_empty_or_nonempty ids with rfl | ⟨i, hi⟩
    · rw [dropLoop_nothing, if_neg (Finset.notMem_empty flight)]
      exact ⟨d, rfl, h, rfl⟩
    · have hall : ∀ j ∈ ids, isValid flight = true ∧ j = flight := fun j hj =>
        (hids j hj).resolve_left List.not_mem_nil
      obtain ⟨hvalid, rfl⟩ := hall i hi
      have hlast : last ∉ ids := fun hmem =>
        h.flight_notMem (List.mem_singleton.mpr (hall last hmem).2.symm)
      have hrest : ids.erase i = ∅ := Finset.eq_empty_of_forall_notMem fun j hj =>
        (Finset.mem_erase.mp hj).1 (hall j (Finset.mem_erase.mp hj).2).2
      obtain ⟨fuel, rfl⟩ : ∃ n, fuel = n + 1 :=
        Nat.exists_eq_succ_of_ne_zero fun hzero =>
          Finset.card_ne_zero_of_mem hi (Nat.le_zero.mp (hzero ▸ hfuel))
      obtain ⟨d', heq, hd', hnow⟩ := h.dropLoop_flight hlast hvalid hi fuel
      rw [heq, hrest, dropLoop_nothing, if_pos hi]
      exact ⟨d', rfl, hd', hnow⟩
  | cons head front ih =>
    have hmem : head ∈ ids := hfront head List.mem_cons_self
    obtain ⟨fuel, rfl⟩ : ∃ n, fuel = n + 1 :=
      Nat.exists_eq_succ_of_ne_zero fun hzero =>
        Finset.card_ne_zero_of_mem hmem (Nat.le_zero.mp (hzero ▸ hfuel))
    have hnodup := h.nodup
    rw [List.cons_append, List.nodup_cons] at hnodup
    have hflight : flight ≠ head := fun heq => h.flight_notMem (heq ▸ List.mem_cons_self)
    obtain ⟨d', heq, hd', hnow⟩ := h.dropLoop_head hmem fuel
    rw [heq]
    have hcard : (ids.erase head).card ≤ fuel := by
      rw [Finset.card_erase_of_mem hmem]
      omega
    have hfront' : ∀ i ∈ front, i ∈ ids.erase head := by
      intro i hi
      refine Finset.mem_erase.mpr ⟨?_, hfront i (List.mem_cons_of_mem head hi)⟩
      rintro rfl
      exact hnodup.1 (List.mem_append_left [last] hi)
    have hids' : ∀ i ∈ ids.erase head, i ∈ front ∨ isValid flight = true ∧ i = flight := by
      intro i hi
      obtain ⟨hne, hi⟩ := Finset.mem_erase.mp hi
      exact (hids i hi).imp_left fun hin => (List.mem_cons.mp hin).resolve_left hne
    obtain ⟨d'', heq', hd'', hnow'⟩ := ih hd' hfront' hids' hcard
    refine ⟨d'', heq', ?_, hnow'.trans hnow⟩
    have hiff : flight ∈ ids.erase head ↔ flight ∈ ids :=
      Finset.mem_erase.trans (and_iff_right hflight)
    rw [← if_congr hiff rfl rfl]
    exact hd''

/-! ### The switch to the next stream -/

theorem Shows.streamHasChanged [GenericStreamId S I] {d : Data I D S} {flight next : I}
    {queue : List I} (h : d.Shows flight (next :: queue)) {streamId : S}
    (hid : GenericStreamId.ourStream streamId = next) :
    ∃ d', d.streamHasChanged streamId = (.returned true, d') ∧ d'.Shows next queue := by
  have hshift : d.queuedStreams.shift removeDataForStream next d.referencedLists =
      d.queuedStreams.shiftIfNotFlying removeDataForStream next d.referencedLists := by
    unfold QueuedStreams.shift
    rw [h.queue_eq]
    exact if_neg fun hboth => hboth.1 rfl
  have hne : next ≠ d.queuedStreams.streamInFlight := by
    rw [h.flight_eq]
    exact fun heq => h.flight_notMem (heq ▸ List.mem_cons_self)
  obtain ⟨r, q', env', heq, hconsistent, hflight, hqueue⟩ :=
    shiftIfNotFlying_next removeDataForStream h.consistent h.queue_eq hne d.referencedLists
  unfold Data.streamHasChanged
  rw [hid, hshift, heq]
  exact ⟨_, rfl, hconsistent, hflight, hqueue, .inl (h.valid next List.mem_cons_self)⟩

end Data

/-! ## The events -/

/-- What can happen next: the result of a find operation is queued, the player goes on to
its next stream, or the notification that has waited longest is processed. -/
inductive MirrorEvent (D : Type) where
  | queueItem (item : QueueItem D) (insertMode : InsertMode) (playNewMode : PlayNewMode)
      (answer : PushAnswer)
  | playNext
  | notification (streamUrl : String)
  deriving DecidableEq, Repr

/-- Nothing is removed by a push that drops nothing. -/
theorem StreamPlayer.kept_of_dropped_eq_nil {p : StreamPlayer S} {keepFirstN : Int}
    (h : p.dropped keepFirstN = []) : p.kept keepFirstN = p := by
  obtain ⟨playing, fifo⟩ := p
  unfold dropped at h
  unfold kept
  split at h
  next hall =>
    rw [if_pos hall]
    obtain ⟨hplaying, hfifo⟩ := List.append_eq_nil_iff.mp h
    rw [Option.toList_eq_nil_iff] at hplaying
    dsimp only at hplaying hfifo
    rw [hplaying, hfifo]
    exact rfl
  next hall =>
    rw [if_neg hall]
    split at h
    next hnone => rw [if_pos hnone]
    next hnone =>
      rw [if_neg hnone, List.take_of_length_le (List.drop_eq_nil_iff.mp h)]

namespace MirrorState

variable [DecidableEq S] [GenericStreamId S I] [OurStreamGet S I]

def step (s : MirrorState I D S) : MirrorEvent D → Option (MirrorState I D S)
  | .queueItem item insertMode playNewMode answer =>
      some (s.queueItemFromOp item insertMode playNewMode answer).2
  | .playNext =>
      match s.player.playNext with
      | none => none
      | some (streamId, player) =>
          some { s with player := player, waiting := s.waiting ++ [streamId] }
  | .notification streamUrl =>
      match s.waiting with
      | [] => none
      | streamId :: rest => some ({ s with waiting := rest }.notifyNowPlaying streamId streamUrl)

/-- The stream in flight, if any, as the player knows it. -/
def inFlight (flight : I) : Option S :=
  if isValid flight then some (OurStreamGet.get flight) else none

/-- No call has failed, and once all notifications are processed the mirror shows the
player's queue. -/
def Sound (s : MirrorState I D S) : Prop :=
  s.playerFailed = false ∧
    (s.waiting = [] →
      inFlight s.data.queuedStreams.streamInFlight = s.player.playing ∧
        s.data.queuedStreams.queue.map OurStreamGet.get = s.player.fifo)

/-- The condition on the steps.  Where a stream is pushed, nothing is dropped while a
notification waits, and the command that may have to follow the push reaches the player.
A notification names another stream than the one known to be playing. -/
def InStep (s : MirrorState I D S) : MirrorEvent D → Prop
  | .queueItem item insertMode playNewMode (.done fifoOverflow isPlaying commandSent) =>
      s.data.queuedStreams.isFull = false → item.uris = true →
        (s.waiting = [] ∨ s.player.dropped insertMode.keepFirstN = []) ∧
        (fifoOverflow = true ∨ isPlaying = true ∨ playNewMode = .keep ∨ commandSent = true)
  | .queueItem _ _ _ .failed => True
  | .playNext => True
  | .notification _ => s.waiting.head? ≠ some s.data.nowPlaying.streamId

/-- The mirror is behind the player by the streams that were started meanwhile. -/
structure Follows (s : MirrorState I D S) (flight : I) (started queued : List I) : Prop where
  shows : s.data.Shows flight (started ++ queued)
  waiting_eq : s.waiting = started.map OurStreamGet.get
  fifo_eq : s.player.fifo = queued.map OurStreamGet.get
  playing_eq : s.player.playing =
    (started.getLast?.map OurStreamGet.get).or (inFlight flight)
  not_failed : s.playerFailed = false

theorem follows_init : (init : MirrorState I D S).Follows makeInvalid [] [] where
  shows := ⟨QueuedStreams.consistent_init, rfl, rfl, .inr rfl⟩
  waiting_eq := rfl
  fifo_eq := rfl
  playing_eq := by
    unfold inFlight
    rw [not_isValid_makeInvalid]
    rfl
  not_failed := rfl

theorem Follows.sound {s : MirrorState I D S} {flight : I} {started queued : List I}
    (h : s.Follows flight started queued) : s.Sound := by
  refine ⟨h.not_failed, fun hnone => ?_⟩
  have hstarted : started = [] := by
    rw [h.waiting_eq, List.map_eq_nil_iff] at hnone
    exact hnone
  subst hstarted
  rw [h.shows.flight_eq, h.shows.queue_eq, h.playing_eq, h.fifo_eq]
  exact ⟨rfl, rfl⟩

/-! ## The player goes on -/

theorem Follows.playNext {s s' : MirrorState I D S} {flight : I} {started queued : List I}
    (h : s.Follows flight started queued) (hstep : s.step .playNext = some s') :
    ∃ i rest, s'.Follows flight (started ++ [i]) rest := by
  cases queued with
  | nil =>
    unfold MirrorState.step StreamPlayer.playNext at hstep
    rw [h.fifo_eq] at hstep
    cases hstep
  | cons i rest =>
    unfold MirrorState.step StreamPlayer.playNext at hstep
    rw [h.fifo_eq] at hstep
    cases hstep
    refine ⟨i, rest, ?_, ?_, rfl, ?_, h.not_failed⟩
    · rw [List.append_assoc, List.singleton_append]
      exact h.shows
    · rw [List.map_append, ← h.waiting_eq]
      rfl
    · rw [List.getLast?_concat]
      rfl

/-! ## A notification is processed -/

theorem playerDroppedFromQueue_nil (s : MirrorState I D S) :
    s.playerDroppedFromQueue [] = s := by
  have hreturned : (Data.playerDroppedFromQueue s.data ([] : List S)) = (.returned true, s.data) :=
    if_pos rfl
  unfold MirrorState.playerDroppedFromQueue
  rw [hreturned]
  dsimp only
  rw [decide_eq_false (not_not_intro rfl), Bool.or_false]

/-- The next stream of the mirror becomes the stream in flight. -/
theorem notifyNowPlaying_next {s : MirrorState I D S} {flight i : I} {queue : List I}
    (h : s.data.Shows flight (i :: queue))
    (hother : s.data.nowPlaying.streamId ≠ OurStreamGet.get i) (streamUrl : String) :
    ∃ d', s.notifyNowPlaying (OurStreamGet.get i) streamUrl = { s with data := d' } ∧
      d'.Shows i queue := by
  have hi : isValid i = true := h.valid i List.mem_cons_self
  have hcompatible := OurStreamGet.compatibleWith_get (S := S) i hi
  obtain ⟨d', hchanged, hd'⟩ := h.streamHasChanged (OurStreamGet.ourStream_get (S := S) i hi)
  have hnow : s.data.playerNowPlayingStream (OurStreamGet.get i) streamUrl =
      (.returned (),
        { d' with nowPlaying := d'.nowPlaying.nowPlaying (OurStreamGet.get i) streamUrl }) := by
    unfold Data.playerNowPlayingStream
    rw [if_pos hcompatible, hchanged]
  refine ⟨{ d' with nowPlaying := d'.nowPlaying.nowPlaying (OurStreamGet.get i) streamUrl },
    ?_, hd'.of_queuedStreams_eq rfl⟩
  unfold MirrorState.notifyNowPlaying
  rw [if_pos (OurStreamGet.isValid_get i hi), decide_eq_true hother]
  dsimp only
  rw [if_pos rfl, s.playerDroppedFromQueue_nil]
  unfold MirrorState.playerNowPlayingStream
  rw [hnow, hchanged, decide_eq_false (not_not_intro rfl), Bool.and_false, Bool.or_false]

theorem Follows.notification {s s' : MirrorState I D S} {flight : I} {started queued : List I}
    {streamUrl : String} (h : s.Follows flight started queued)
    (hother : s.InStep (.notification streamUrl))
    (hstep : s.step (.notification streamUrl) = some s') :
    ∃ i rest, s'.Follows i rest queued := by
  unfold MirrorState.step at hstep
  have hwaiting := h.waiting_eq
  cases started with
  | nil =>
    rw [hwaiting] at hstep
    cases hstep
  | cons i rest =>
    rw [List.map_cons] at hwaiting
    rw [hwaiting] at hstep
    have hdiffers : s.data.nowPlaying.streamId ≠ OurStreamGet.get i := by
      intro heq
      unfold InStep at hother
      rw [hwaiting, heq] at hother
      exact hother rfl
    obtain ⟨d', heq, hd'⟩ := notifyNowPlaying_next
      (s := { s with waiting := rest.map OurStreamGet.get }) h.shows hdiffers streamUrl
    dsimp only at hstep
    rw [heq] at hstep
    cases hstep
    refine ⟨i, rest, hd', rfl, h.fifo_eq, ?_, h.not_failed⟩
    have hi : isValid i = true := h.shows.valid i List.mem_cons_self
    refine h.playing_eq.trans ?_
    unfold inFlight
    rw [if_pos hi, List.getLast?_cons]
    cases hlast : rest.getLast? with
    | none => rfl
    | some last => rfl

/-! ## A find operation is queued -/

theorem Follows.of_data {s : MirrorState I D S} {flight : I} {started queued : List I}
    (h : s.Follows flight started queued) {d' : Data I D S}
    (hd' : d'.Shows flight (started ++ queued)) :
    ({ s with data := d' } : MirrorState I D S).Follows flight started queued :=
  ⟨hd', h.waiting_eq, h.fifo_eq, h.playing_eq, h.not_failed⟩

/-- A drop list that names a front part of the queue, perhaps with the stream in flight. -/
theorem playerDroppedFromQueue_front {s : MirrorState I D S} {flight last : I}
    {front dropped : List I} (h : s.data.Shows flight (front ++ [last]))
    (hfront : ∀ i ∈ front, i ∈ dropped)
    (hdropped : ∀ i ∈ dropped, i ∈ front ∨ isValid flight = true ∧ i = flight) :
    ∃ d', s.playerDroppedFromQueue (dropped.map OurStreamGet.get) = { s with data := d' } ∧
      d'.Shows (if flight ∈ dropped then makeInvalid else flight) [last] := by
  have hvalid : ∀ i ∈ dropped, isValid i = true := by
    intro i hi
    rcases hdropped i hi with hin | ⟨hflight, rfl⟩
    · exact h.valid i (List.mem_append_left [last] hin)
    · exact hflight
  have hours : (dropped.map (OurStreamGet.get (S := S))).map GenericStreamId.ourStream =
      dropped := by
    rw [List.map_map]
    refine (List.map_congr_left fun i hi => ?_).trans (List.map_id dropped)
    exact OurStreamGet.ourStream_get i (hvalid i hi)
  have hset : (Data.dropSetOurs (dropped.map (OurStreamGet.get (S := S))) : Finset I) =
      dropped.toFinset := by
    unfold Data.dropSetOurs
    rw [hours, List.filter_eq_self.mpr hvalid]
  have hmem : flight ∈ dropped.toFinset ↔ flight ∈ dropped := List.mem_toFinset
  have hfrontSet : ∀ i ∈ front, i ∈ dropped.toFinset := fun i hi =>
    List.mem_toFinset.mpr (hfront i hi)
  obtain ⟨d', heq, hd', -⟩ := h.dropLoop_front hfrontSet
    (fun i hi => hdropped i (List.mem_toFinset.mp hi)) (Nat.le_refl _)
  rw [if_congr hmem rfl rfl] at hd'
  have hreturned : s.data.playerDroppedFromQueue (dropped.map OurStreamGet.get) =
      (.returned true, d') := by
    unfold Data.playerDroppedFromQueue
    dsimp only
    rw [hset, heq, ite_eq_right_iff]
    intro hempty
    rw [List.isEmpty_iff, List.map_eq_nil_iff] at hempty
    rw [← heq, hempty, List.toFinset_nil, Data.dropLoop_nothing]
  refine ⟨d', ?_, hd'⟩
  unfold MirrorState.playerDroppedFromQueue
  rw [hreturned]
  dsimp only
  rw [decide_eq_false (not_not_intro rfl), Bool.or_false]

/-- The drop list of a push, taken out of a mirror that shows the pushed stream as its last
one. -/
theorem Follows.playerDroppedFromQueue {s : MirrorState I D S} {flight i : I}
    {started queued : List I} (h : s.Follows flight started queued) {d : Data I D S}
    (hd : d.Shows flight (started ++ queued ++ [i])) (insertMode : InsertMode)
    (hdrop : s.waiting = [] ∨ s.player.dropped insertMode.keepFirstN = [])
    (player : StreamPlayer S) :
    ∃ flight' kept d',
      ({ s with data := d, player := player } : MirrorState I D S).playerDroppedFromQueue
          (s.player.dropped insertMode.keepFirstN) =
        { s with data := d', player := player } ∧
      d'.Shows flight' (started ++ kept ++ [i]) ∧
      (s.player.kept insertMode.keepFirstN).fifo = kept.map OurStreamGet.get ∧
      (s.player.kept insertMode.keepFirstN).playing =
        (started.getLast?.map OurStreamGet.get).or (inFlight flight') := by
  rcases hdrop with hwaiting | hnone
  · rw [h.waiting_eq, List.map_eq_nil_iff] at hwaiting
    subst hwaiting
    rw [List.nil_append] at hd
    cases insertMode with
    | append =>
      exact ⟨flight, queued, d, playerDroppedFromQueue_nil _, hd, h.fifo_eq, h.playing_eq⟩
    | replaceQueue =>
      have hdropped : s.player.dropped InsertMode.replaceQueue.keepFirstN =
          queued.map OurStreamGet.get := h.fifo_eq
      have hflight : flight ∉ queued := h.shows.flight_notMem
      obtain ⟨d', heq, hd'⟩ := playerDroppedFromQueue_front
        (s := { s with data := d, player := player }) hd (fun j hj => hj) fun j hj => .inl hj
      rw [if_neg hflight] at hd'
      rw [hdropped]
      exact ⟨flight, [], d', heq, hd', (List.take_zero : s.player.fifo.take 0 = []), h.playing_eq⟩
    | replaceAll =>
      have hplaying : s.player.playing = inFlight flight := h.playing_eq
      have hnothing : none = (inFlight (makeInvalid : I) : Option S) := by
        unfold inFlight
        rw [not_isValid_makeInvalid, if_neg Bool.false_ne_true]
      obtain ⟨dropped, hdropped, hfront, hall, hgone⟩ : ∃ dropped : List I,
          s.player.dropped InsertMode.replaceAll.keepFirstN = dropped.map OurStreamGet.get ∧
          (∀ j ∈ queued, j ∈ dropped) ∧
          (∀ j ∈ dropped, j ∈ queued ∨ isValid flight = true ∧ j = flight) ∧
          (if flight ∈ dropped then makeInvalid else flight) = makeInvalid := by
        have hdropped : s.player.dropped InsertMode.replaceAll.keepFirstN =
            (inFlight flight).toList ++ queued.map OurStreamGet.get := by
          rw [← hplaying, ← h.fifo_eq]
          exact if_pos rfl
        unfold inFlight at hdropped
        rcases h.shows.flight_valid with hvalid | hinvalid
        · refine ⟨flight :: queued, ?_, fun j hj => List.mem_cons_of_mem flight hj, ?_,
            if_pos List.mem_cons_self⟩
          · rw [hdropped, if_pos hvalid, List.map_cons, Option.toList_some,
              List.singleton_append]
          · intro j hj
            rcases List.mem_cons.mp hj with rfl | hj
            · exact .inr ⟨hvalid, rfl⟩
            · exact .inl hj
        · refine ⟨queued, ?_, fun j hj => hj, fun j hj => .inl hj, ?_⟩
          · rw [hdropped, hinvalid, not_isValid_makeInvalid, if_neg Bool.false_ne_true,
              Option.toList_none, List.nil_append]
          · rw [hinvalid, ite_self]
      obtain ⟨d', heq, hd'⟩ := playerDroppedFromQueue_front
        (s := { s with data := d, player := player }) hd hfront hall
      rw [hgone] at hd'
      rw [hdropped]
      exact ⟨makeInvalid, [], d', heq, hd', rfl, hnothing⟩
  · rw [hnone, StreamPlayer.kept_of_dropped_eq_nil hnone, playerDroppedFromQueue_nil]
    exact ⟨flight, queued, d, rfl, hd, h.fifo_eq, h.playing_eq⟩

/-- The rest of the queue stays when the pushed stream is forgotten again. -/
theorem Follows.queueStreamOrForget {s : MirrorState I D S} {flight i : I}
    {started queued : List I} (h : s.Follows flight started queued) {d : Data I D S}
    (hd : d.Shows flight (started ++ queued ++ [i])) (uris : Bool) (insertMode : InsertMode)
    (playNewMode : PlayNewMode) (answer : PushAnswer)
    (hpush : ∀ fifoOverflow isPlaying commandSent,
      answer = .done fifoOverflow isPlaying commandSent → uris = true →
        (s.waiting = [] ∨ s.player.dropped insertMode.keepFirstN = []) ∧
        (fifoOverflow = true ∨ isPlaying = true ∨ playNewMode = .keep ∨ commandSent = true)) :
    ∃ flight' queued', (({ s with data := d } : MirrorState I D S).queueStreamOrForget i uris
      insertMode playNewMode answer).2.Follows flight' started queued' := by
  have hforget := h.of_data hd.queuedStreamRemove
  unfold MirrorState.queueStreamOrForget
  cases uris with
  | false => exact ⟨flight, queued, hforget⟩
  | true =>
    cases answer with
    | failed => exact ⟨flight, queued, hforget⟩
    | done fifoOverflow isPlaying commandSent =>
      obtain ⟨hdrop, hsent⟩ := hpush fifoOverflow isPlaying commandSent rfl rfl
      obtain ⟨flight', kept, d', hdropped, hd', hfifo, hplaying⟩ :=
        h.playerDroppedFromQueue hd insertMode hdrop
          (s.player.push (OurStreamGet.get i) insertMode.keepFirstN fifoOverflow)
      unfold sendSelectedFileUriToStreamplayer
      dsimp only
      rw [if_pos rfl, hdropped]
      cases fifoOverflow with
      | true =>
        exact ⟨flight', kept, hd'.queuedStreamRemove, h.waiting_eq, hfifo, hplaying,
          h.not_failed⟩
      | false =>
        have hcommand : (isPlaying || decide (playNewMode = .keep) || commandSent) = true := by
          rcases hsent with hoverflow | hisPlaying | hkeep | hcommandSent
          · cases hoverflow
          · rw [hisPlaying, Bool.true_or, Bool.true_or]
          · rw [decide_eq_true hkeep, Bool.or_true, Bool.true_or]
          · rw [hcommandSent, Bool.or_true]
        rw [if_neg Bool.false_ne_true, hcommand, if_pos rfl]
        refine ⟨flight', kept ++ [i], ?_, h.waiting_eq, ?_, hplaying, h.not_failed⟩
        · rw [← List.append_assoc]
          exact hd'.queuedStreamSentToPlayer i
        · rw [List.map_append, ← hfifo]
          exact rfl

theorem Follows.queueItemFromOp {s : MirrorState I D S} {flight : I} {started queued : List I}
    (h : s.Follows flight started queued) {item : QueueItem D} {insertMode : InsertMode}
    {playNewMode : PlayNewMode} {answer : PushAnswer}
    (hpush : s.InStep (.queueItem item insertMode playNewMode answer)) :
    ∃ flight' queued', (s.queueItemFromOp item insertMode playNewMode answer).2.Follows
      flight' started queued' := by
  unfold MirrorState.queueItemFromOp
  rcases h.shows.queuedStreamAppend item.data item.listId with ⟨-, heq⟩ |
    ⟨i, d', hroom, hi, heq, hd', -⟩
  · rw [heq]
    dsimp only
    rw [not_isValid_makeInvalid, if_neg Bool.false_ne_true]
    exact ⟨flight, queued, h⟩
  · rw [heq]
    dsimp only
    rw [if_pos hi]
    refine h.queueStreamOrForget hd' item.uris insertMode playNewMode answer ?_
    intro fifoOverflow isPlaying commandSent hanswer huris
    subst hanswer
    exact hpush hroom huris

/-! ## Runs -/

theorem Follows.step {s s' : MirrorState I D S} {flight : I} {started queued : List I}
    (h : s.Follows flight started queued) {e : MirrorEvent D} (hin : s.InStep e)
    (hstep : s.step e = some s') : ∃ flight' started' queued',
      s'.Follows flight' started' queued' := by
  cases e with
  | queueItem item insertMode playNewMode answer =>
    obtain ⟨flight', queued', hfollows⟩ := h.queueItemFromOp hin
    cases hstep
    exact ⟨flight', started, queued', hfollows⟩
  | playNext =>
    obtain ⟨i, rest, hfollows⟩ := h.playNext hstep
    exact ⟨flight, started ++ [i], rest, hfollows⟩
  | notification streamUrl =>
    obtain ⟨i, rest, hfollows⟩ := h.notification hin hstep
    exact ⟨i, rest, queued, hfollows⟩

end MirrorState

variable [DecidableEq S] [GenericStreamId S I] [OurStreamGet S I]

/-- In every run whose steps meet the condition, no call of `stream_has_changed` or
`player_dropped_from_queue` fails, and the mirror shows the player's queue whenever no
notification waits. -/
theorem mirror_run_sound (events : List (MirrorEvent D)) {s : MirrorState I D S}
    (hin : AlongRun MirrorState.step MirrorState.InStep
      (MirrorState.init : MirrorState I D S) events)
    (hrun : runFrom MirrorState.step MirrorState.init events = some s) : s.Sound := by
  obtain ⟨flight, started, queued, hfollows⟩ :=
    invariant_of_alongRun (I := fun s : MirrorState I D S =>
        ∃ flight started queued, s.Follows flight started queued)
      (fun s e s' ⟨_, _, _, h⟩ hin hstep => h.step hin hstep) events
      ⟨makeInvalid, [], [], MirrorState.follows_init⟩ hin hrun
  exact hfollows.sound

/-- A stream is queued and started, then all is replaced by another stream. -/
def startedThenReplaced : List (MirrorEvent Unit) :=
  [.queueItem ⟨(), ⟨7⟩, true⟩ .append .sendPlayCommandIfIdle (.done false false true),
    .playNext, .notification "a",
    .queueItem ⟨(), ⟨7⟩, true⟩ .replaceAll .sendPlayCommandIfIdle (.done false false true)]

theorem mirror_run_sound_replaced :
    ∃ s : MirrorState (Option (Fin 24)) Unit Nat,
      runFrom MirrorState.step MirrorState.init startedThenReplaced = some s ∧ s.Sound := by
  refine ⟨_, rfl, mirror_run_sound startedThenReplaced (alongRun_cons.mpr ⟨?_, ?_⟩) rfl⟩
  · intro _ _
    exact ⟨.inl rfl, .inr (.inr (.inr rfl))⟩
  · intro s₁ h₁
    cases h₁
    refine ⟨trivial, ?_⟩
    intro s₂ h₂
    cases h₂
    refine ⟨fun heq => absurd heq (by decide), ?_⟩
    intro s₃ h₃
    cases h₃
    refine ⟨?_, fun _ _ => trivial⟩
    intro _ _
    exact ⟨.inl rfl, .inr (.inr (.inr rfl))⟩

/-- The player has gone on to the second stream when all is replaced by a third one.  The
notification of the second stream then finds neither of the streams it expects. -/
theorem replaced_while_notification_waits :
    ¬∀ (events : List (MirrorEvent Unit)) (s : MirrorState (Option (Fin 24)) Unit Nat),
      runFrom MirrorState.step MirrorState.init events = some s → s.Sound := by
  intro hsound
  have hrun := hsound
    [.queueItem ⟨(), ⟨7⟩, true⟩ .append .sendPlayCommandIfIdle (.done false false true),
      .playNext, .notification "a",
      .queueItem ⟨(), ⟨7⟩, true⟩ .append .keep (.done false true false),
      .playNext,
      .queueItem ⟨(), ⟨7⟩, true⟩ .replaceAll .sendPlayCommandIfIdle (.done false false true),
      .notification "b"] _ rfl
  exact absurd hrun.1 (by decide)

end Drcpd.Player

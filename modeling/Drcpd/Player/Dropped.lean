/-
  Player/Dropped.lean --- what `Player::Data::player_dropped_from_queue` takes out of the mirror
  of the player's queue.

  The loop ends as soon as the queue is empty.  A stream in flight that the player has dropped
  together with the whole queue stays.
-/
import Mathlib.Data.List.Nodup
import Drcpd.Player.DataRuns

set_option autoImplicit false
set_option linter.unusedSectionVars false

namespace Drcpd.Player

open Drcpd.Foundation OurStreamId List QueuedStreams

variable {I D S : Type} [DecidableEq I] [OurStreamId I]

/-! ## The streams that are left -/

/-- A part of a list without duplicates is the part of its elements. -/
theorem eq_filter_of_sublist {α : Type} {p : α → Bool} {xs ys : List α} (h : xs <+ ys)
    (hnodup : ys.Nodup) (hmem : ∀ y ∈ ys, y ∈ xs ↔ p y = true) : xs = ys.filter p := by
  induction h with
  | slnil => rfl
  | @cons xs ys y h ih =>
      obtain ⟨hy, hnodup⟩ := List.nodup_cons.mp hnodup
      have hnot : p y ≠ true := fun hp => hy (h.subset ((hmem y List.mem_cons_self).mpr hp))
      rw [List.filter_cons_of_neg hnot]
      exact ih hnodup fun z hz => hmem z (List.mem_cons_of_mem y hz)
  | @cons_cons xs ys y h ih =>
      obtain ⟨hy, hnodup⟩ := List.nodup_cons.mp hnodup
      rw [List.filter_cons_of_pos ((hmem y List.mem_cons_self).mp List.mem_cons_self)]
      refine congrArg (y :: ·) (ih hnodup fun z hz => ?_)
      have hne : z ≠ y := by
        rintro rfl
        exact hy hz
      rw [← hmem z (List.mem_cons_of_mem y hz), List.mem_cons, or_iff_right hne]

namespace QueuedStreams

theorem mem_copyAllStreamIds {q : QueuedStreams I D} {i : I} :
    i ∈ q.copyAllStreamIds ↔
      isValid q.streamInFlight = true ∧ i = q.streamInFlight ∨ i ∈ q.queue := by
  cases hvalid : isValid q.streamInFlight <;> simp [copyAllStreamIds, hvalid]

/-- The streams with the IDs `ids` have gone, and all others are as before. -/
structure Without (q : QueuedStreams I D) (ids : List I) (q' : QueuedStreams I D) : Prop where
  queue : q'.queue = q.queue.filter fun i => decide (i ∉ ids)
  streamInFlight :
    q'.streamInFlight = if q.streamInFlight ∈ ids then makeInvalid else q.streamInFlight
  streams : ∀ i, q'.streams.lookup i = if i ∈ ids then none else q.streams.lookup i
  nextFreeStreamId : q'.nextFreeStreamId = q.nextFreeStreamId

theorem Without.congr {q q' : QueuedStreams I D} {ids ids' : List I} (h : Without q ids q')
    (hq : Consistent q) (hids : ∀ i ∈ q.copyAllStreamIds, i ∈ ids ↔ i ∈ ids')
    (hvalid : ∀ i ∈ ids', isValid i = true) (hvalid' : ∀ i ∈ ids, isValid i = true) :
    Without q ids' q' where
  queue := by
    rw [h.queue]
    refine List.filter_congr fun i hi => ?_
    simp [hids i (mem_copyAllStreamIds_of_mem_queue hi)]
  streamInFlight := by
    rw [h.streamInFlight]
    cases hflight : isValid q.streamInFlight with
    | true =>
        have hheld : q.streamInFlight ∈ q.copyAllStreamIds := by
          simp [copyAllStreamIds_of_valid hflight]
        simp only [hids _ hheld]
    | false =>
        have hnot : q.streamInFlight ∉ ids := fun hmem => by simp [hvalid' _ hmem] at hflight
        have hnot' : q.streamInFlight ∉ ids' := fun hmem => by simp [hvalid _ hmem] at hflight
        rw [if_neg hnot, if_neg hnot']
  streams := by
    intro i
    rw [h.streams]
    by_cases hheld : i ∈ q.copyAllStreamIds
    · simp only [hids i hheld]
    · have hnone : q.streams.lookup i = none := by
        rw [AList.lookup_eq_none, hq.mem_streams_iff]
        exact hheld
      simp [hnone]
  nextFreeStreamId := h.nextFreeStreamId

/-- Which streams are left is known from the IDs of those taken out, if the stream in flight has
not been replaced. -/
theorem Removal.without {q q' : QueuedStreams I D} {gone : List (QueuedStream I D)} {ids : List I}
    (h : Removal q q' gone) (hq : Consistent q) (hids : gone.map QueuedStream.streamId ~ ids)
    (hflight : q'.streamInFlight = q.streamInFlight ∨
      isValid q.streamInFlight = true ∧ q'.streamInFlight = makeInvalid) :
    Without q ids q' := by
  have hlookup : ∀ i, q'.streams.lookup i = if i ∈ ids then none else q.streams.lookup i := by
    intro i
    have hmem : ∀ s, q'.streams.lookup i = some s ↔ q.streams.lookup i = some s ∧ i ∉ ids := by
      intro s
      constructor
      · intro hs
        have hs' := h.lookup_mono i s hs
        have hleft := ((h.mem_iff hq s).2.mp (mem_values_iff.mpr ⟨i, hs⟩)).2
        rw [hids.mem_iff, hq.streamId_eq i s hs'] at hleft
        exact ⟨hs', hleft⟩
      · rintro ⟨hs, hnot⟩
        have hid := hq.streamId_eq i s hs
        have hleft : s ∈ values q'.streams := by
          rw [(h.mem_iff hq s).2, hids.mem_iff, hid]
          exact ⟨mem_values_iff.mpr ⟨i, hs⟩, hnot⟩
        obtain ⟨j, hj⟩ := mem_values_iff.mp hleft
        rw [← hid, hq.streamId_eq j s (h.lookup_mono j s hj)]
        exact hj
    refine Option.ext fun s => ?_
    by_cases hi : i ∈ ids
    · simp [hmem s, hi]
    · simp [hmem s, hi]
  have hheld : ∀ i, i ∈ q'.copyAllStreamIds ↔ i ∈ q.copyAllStreamIds ∧ i ∉ ids := by
    intro i
    rw [← (h.consistent hq).mem_streams_iff, ← hq.mem_streams_iff, ← AList.lookup_isSome,
      ← AList.lookup_isSome, hlookup]
    by_cases hi : i ∈ ids <;> simp [hi]
  have hnotin : isValid q.streamInFlight = true → q.streamInFlight ∉ q.queue := by
    intro hvalid hmem
    have hnodup := hq.nodup
    rw [copyAllStreamIds_of_valid hvalid] at hnodup
    exact (List.nodup_cons.mp hnodup).1 hmem
  have hgone : ∀ i ∈ ids, isValid i = true := by
    intro i hi
    obtain ⟨s, hs, rfl⟩ := List.mem_map.mp (hids.mem_iff.mpr hi)
    obtain ⟨j, hj⟩ := mem_values_iff.mp ((h.mem_iff hq s).1.mp hs).1
    rw [hq.streamId_eq j s hj]
    exact hq.valid_of_mem (hq.mem_streams_iff.mp (AList.lookup_isSome.mp (by simp [hj])))
  simp only [mem_copyAllStreamIds] at hheld
  refine ⟨?_, ?_, hlookup, h.next_eq⟩
  · refine eq_filter_of_sublist h.queue_sublist (List.nodup_append.mp hq.nodup).2.1 fun i hi => ?_
    have hne : isValid q.streamInFlight = true → i ≠ q.streamInFlight := by
      rintro hvalid rfl
      exact hnotin hvalid hi
    rw [decide_eq_true_iff]
    rcases hflight with hflight | ⟨hvalid, hflight⟩
    · have hi' := hheld i
      rw [hflight] at hi'
      tauto
    · have hi' := hheld i
      rw [hflight, not_isValid_makeInvalid] at hi'
      simpa [hi, hne hvalid] using hi'
  · rcases hflight with hflight | ⟨hvalid, hflight⟩
    · rw [hflight, if_neg]
      intro hmem
      have hheld' := hheld q.streamInFlight
      simp [hflight, hgone _ hmem, hmem] at hheld'
    · rw [hflight, if_pos]
      have hheld' := hheld q.streamInFlight
      have hnot : q.streamInFlight ∉ q'.queue := fun hmem =>
        hnotin hvalid (h.queue_sublist.subset hmem)
      simpa [hflight, not_isValid_makeInvalid, hvalid, hnot] using hheld'

end QueuedStreams

/-! ## What the loop takes out -/

namespace Data

variable [GenericStreamId S I]

/-- A drop that succeeds leaves the stream in flight alone, or takes it out. -/
theorem dropLoop_streamInFlight (fuel : Nat) (ids : Finset I) {d d' : Data I D S}
    (hd : d.queuedStreams.Consistent) (h : dropLoop fuel ids d = (.returned true, d')) :
    d'.queuedStreams.streamInFlight = d.queuedStreams.streamInFlight ∨
      isValid d.queuedStreams.streamInFlight = true ∧
        d'.queuedStreams.streamInFlight = makeInvalid := by
  induction fuel generalizing ids d with
  | zero =>
      unfold dropLoop at h
      split at h
      · cases h
        exact .inl rfl
      · cases h
  | succ fuel ih =>
      unfold dropLoop at h
      split at h
      · cases h
        exact .inl rfl
      rcases removeFront_cases removeDataForStream hd ids d.referencedLists with
        ⟨-, heq⟩ | ⟨-, heq⟩ | ⟨e, -, -, heq⟩ | ⟨i, s, q', -, -, hrem, htaken, heq⟩
      · simp [heq] at h
      · simp [heq] at h
      · simp [heq] at h
      · simp only [heq] at h
        have hrest := ih (ids.erase i) (hrem.consistent hd) h
        rcases htaken with ⟨_, -, -, hsame⟩ | ⟨-, rfl, hvalid, -, hnone⟩
        · simpa [hsame] using hrest
        · simp only [hnone, not_isValid_makeInvalid] at hrest
          exact .inr ⟨hvalid, by simpa using hrest⟩

/-- The IDs of our own streams among those dropped. -/
def ourDropped (dropped : List S) : List I :=
  (dropped.map GenericStreamId.ourStream).filter fun i => isValid i

theorem mem_ourDropped {dropped : List S} {i : I} :
    i ∈ ourDropped dropped ↔ i ∈ (dropSetOurs dropped : Finset I) :=
  List.mem_toFinset.symm

theorem valid_of_mem_ourDropped {dropped : List S} {i : I} (h : i ∈ ourDropped dropped) :
    isValid i = true :=
  (List.mem_filter.mp h).2

/-- What is expected of `player_dropped_from_queue`. -/
inductive DropsExactly (d : Data I D S) (dropped : List S) : Exit I Bool × Data I D S → Prop
  /-- All of our streams that were dropped have gone, and nothing else has changed. -/
  | succeeded (d' : Data I D S)
      (queuedStreams : Without d.queuedStreams (ourDropped dropped) d'.queuedStreams)
      (nowPlaying : d'.nowPlaying = d.nowPlaying)
      (playbackSpeed : d'.playbackSpeed = d.playbackSpeed) :
      DropsExactly d dropped (.returned true, d')
  /-- All streams have gone. -/
  | failed (d' : Data I D S) (streams : d'.queuedStreams.streams = ∅)
      (held : d'.queuedStreams.copyAllStreamIds = []) :
      DropsExactly d dropped (.returned false, d')

/-- The player has dropped the stream in flight, and with it all that is queued. -/
def DropsEverything (d : Data I D S) (dropped : List S) : Prop :=
  d.queuedStreams.streamInFlight ∈ (dropSetOurs dropped : Finset I) ∧
    ∀ i ∈ d.queuedStreams.queue, i ∈ (dropSetOurs dropped : Finset I)

theorem mem_droppedIds {d : Data I D S} {dropped : List S} {i : I}
    (h : i ∈ droppedIds d.queuedStreams (dropSetOurs dropped)) :
    i ∈ d.queuedStreams.copyAllStreamIds ∧ i ∈ (dropSetOurs dropped : Finset I) := by
  unfold droppedIds at h
  split at h
  next hall => exact ⟨mem_copyAllStreamIds_of_mem_queue h, hall i h⟩
  next => simpa using h

/-- A drop that succeeds is as expected unless the player has dropped everything. -/
theorem dropsExactly_afterDrop_iff {d : Data I D S} (hd : d.queuedStreams.Consistent)
    {dropped : List S} {q' : QueuedStreams I D} {gone : List (QueuedStream I D)}
    (hrem : Removal d.queuedStreams q' gone)
    (hids : gone.map QueuedStream.streamId ~ droppedIds d.queuedStreams (dropSetOurs dropped))
    (hflight : q'.streamInFlight = d.queuedStreams.streamInFlight ∨
      isValid d.queuedStreams.streamInFlight = true ∧ q'.streamInFlight = makeInvalid) :
    DropsExactly d dropped (.returned true, d.afterDrop q' gone) ↔ ¬DropsEverything d dropped := by
  have hwithout := hrem.without hd hids hflight
  constructor
  · rintro (⟨_, hexact, -, -⟩ | _) ⟨hmem, hall⟩
    have hvalid := valid_of_mem_ourDropped (mem_ourDropped.mpr hmem)
    have hnot : d.queuedStreams.streamInFlight ∉ d.queuedStreams.queue := by
      have hnodup := hd.nodup
      rw [copyAllStreamIds_of_valid hvalid] at hnodup
      exact (List.nodup_cons.mp hnodup).1
    -- the loop has ended with the queue, and the stream in flight is still there
    have hstays := hwithout.streamInFlight
    rw [droppedIds, if_pos hall, if_neg hnot] at hstays
    have hgoes := hexact.streamInFlight
    rw [if_pos (mem_ourDropped.mpr hmem)] at hgoes
    rw [← hstays, show q'.streamInFlight = makeInvalid from hgoes,
      not_isValid_makeInvalid] at hvalid
    cases hvalid
  · intro hnot
    refine .succeeded _ (hwithout.congr hd (fun i hheld => ?_) ?_ ?_) rfl rfl
    · rw [mem_ourDropped]
      refine ⟨fun h => (mem_droppedIds h).2, fun hi => ?_⟩
      unfold droppedIds
      split
      next hall =>
        rcases mem_copyAllStreamIds.mp hheld with ⟨-, rfl⟩ | hqueued
        · exact absurd ⟨hi, hall⟩ hnot
        · exact hqueued
      next => simp [hheld, hi]
    · exact fun i hi => valid_of_mem_ourDropped hi
    · exact fun i hi => valid_of_mem_ourDropped (mem_ourDropped.mpr (mem_droppedIds hi).2)

/-- The two ends of `player_dropped_from_queue`. -/
theorem dropsExactly_iff {d : Data I D S} (hd : d.queuedStreams.Consistent) (dropped : List S) :
    DropsExactly d dropped (d.playerDroppedFromQueue dropped) ↔ ¬DropsEverything d dropped := by
  unfold playerDroppedFromQueue
  split
  next hempty =>
    obtain rfl : dropped = [] := by simpa using hempty
    have hnothing : Without d.queuedStreams (ourDropped ([] : List S)) d.queuedStreams :=
      ⟨by simp [ourDropped], by simp [ourDropped], by simp [ourDropped], rfl⟩
    exact iff_of_true (.succeeded d hnothing rfl rfl)
      fun h => by simp [dropSetOurs, DropsEverything] at h
  next =>
    rcases dropLoop_cases (dropSetOurs dropped : Finset I).card (dropSetOurs dropped) d hd
      (Nat.le_refl _) with
      ⟨-, gone, q', hrem, hids, heq⟩ | ⟨hfails, gone, q', hrem, heq⟩
    · have hflight := dropLoop_streamInFlight _ _ hd heq
      simp only [heq]
      exact dropsExactly_afterDrop_iff hd hrem hids hflight
    · simp only [heq]
      refine iff_of_true (.failed _ rfl ?_) fun h => hfails (.inl h.2)
      simp [playerFailed, QueuedStreams.clear, copyAllStreamIds, not_isValid_makeInvalid]

/-- For all consistent states and all streams reported as dropped: what is expected happens
exactly if the player has not dropped the stream in flight together with everything queued.
Where the reference counts are exact, they are exact afterwards as well exactly if the streams
taken out share no list with those that stay. -/
theorem player_dropped_from_queue_iff {d : Data I D S} (hd : d.queuedStreams.Consistent)
    (dropped : List S) :
    (DropsExactly d dropped (d.playerDroppedFromQueue dropped) ↔ ¬DropsEverything d dropped) ∧
    (d.CountsExact →
      (DropsExactly d dropped (d.playerDroppedFromQueue dropped) ∧
          (d.playerDroppedFromQueue dropped).2.CountsExact ↔
        ¬DropsEverything d dropped ∧
          d.ReportsWholeLists (.playerDroppedFromQueue dropped))) := by
  have hdrops := dropsExactly_iff hd dropped
  refine ⟨hdrops, fun hcounts => and_congr hdrops ?_⟩
  have hinv : d.Invariant := ⟨hd, hcounts⟩
  obtain ⟨d', hfinished, -, hexact⟩ := hinv.playerDroppedFromQueue dropped
  rw [← hexact, eq_of_finished hfinished]

/-- A stream from list 7 is appended. -/
def oneQueued : Data (Option (Fin 24)) Unit Nat := (Data.init.queuedStreamAppend () ⟨7⟩).2

theorem invariant_oneQueued : oneQueued.Invariant :=
  invariant_init.queuedStreamAppend_snd () ⟨7⟩

theorem player_dropped_from_queue_one_queued :
    DropsExactly oneQueued [2, 3, 2] (oneQueued.playerDroppedFromQueue [2, 3, 2]) ∧
      (oneQueued.playerDroppedFromQueue [2, 3, 2]).2.CountsExact := by
  have h := player_dropped_from_queue_iff invariant_oneQueued.consistent [2, 3, 2]
  refine (h.2 invariant_oneQueued.counts).mpr ⟨?_, fun _ s hs _ t ht hnot => ?_⟩
  · simp only [DropsEverything]
    decide
  · revert s t
    decide

/-- The stream is moved into flight, and the player drops it. -/
theorem dropped_stream_in_flight_stays :
    ¬∀ (d : Data (Option (Fin 24)) Unit Nat) (dropped : List Nat), d.queuedStreams.Consistent →
      DropsExactly d dropped (d.playerDroppedFromQueue dropped) := by
  intro h
  let d : Data (Option (Fin 24)) Unit Nat :=
    { oneQueued with queuedStreams := oneQueued.queuedStreams.shiftIfNoneFlying.2 }
  have hone := invariant_oneQueued.consistent
  have hd : d.queuedStreams.Consistent := (shiftIfNoneFlying_removal hone).1.consistent hone
  cases h d [2] hd with
  | succeeded _ hexact _ _ =>
      have hflight := hexact.streamInFlight
      revert hflight
      decide

end Data

end Drcpd.Player

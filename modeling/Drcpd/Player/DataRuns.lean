/-
  Player/DataRuns.lean --- runs of `Player::Data` and its reference counts.

  A removal calls `on_remove_cb_` once for every stream that leaves.  Where
  `player_dropped_from_queue` and `player_rejected_unplayed_stream` call
  `remove_data_for_stream` once more, the counts stay exact only if no stream that
  leaves shares its list with one that stays.
-/
import Drcpd.Foundation.Run
import Drcpd.Player.ReferenceCounts

set_option autoImplicit false
set_option linter.unusedSectionVars false

namespace Drcpd.Player

open Drcpd.Foundation OurStreamId List

variable {I D S : Type} [DecidableEq I] [OurStreamId I]

namespace QueuedStreams

theorem Removal.trans {q₁ q₂ q₃ : QueuedStreams I D} {gone₁ gone₂ : List (QueuedStream I D)}
    (h₁ : Removal q₁ q₂ gone₁) (h₂ : Removal q₂ q₃ gone₂) : Removal q₁ q₃ (gone₁ ++ gone₂) where
  values_perm := by
    rw [List.append_assoc]
    exact h₁.values_perm.trans (h₂.values_perm.append_left gone₁)
  keys_perm := h₂.keys_perm
  lookup_mono := fun i s h => h₁.lookup_mono i s (h₂.lookup_mono i s h)
  queue_sublist := h₂.queue_sublist.trans h₁.queue_sublist
  next_eq := h₂.next_eq.trans h₁.next_eq

/-- The streams held have the IDs held. -/
theorem Consistent.map_streamId {q : QueuedStreams I D} (hq : Consistent q) :
    (values q.streams).map QueuedStream.streamId = q.streams.keys := by
  simp only [values, List.map_map, AList.keys, List.keys]
  refine List.map_congr_left fun e he => ?_
  exact hq.streamId_eq e.1 e.2 (AList.mem_lookup_iff.mpr he)

/-- Which streams stay is known from the IDs of those that go. -/
theorem Removal.mem_iff {q q' : QueuedStreams I D} {gone : List (QueuedStream I D)}
    (h : Removal q q' gone) (hq : Consistent q) (s : QueuedStream I D) :
    (s ∈ gone ↔ s ∈ values q.streams ∧ s.streamId ∈ gone.map QueuedStream.streamId) ∧
    (s ∈ values q'.streams ↔
      s ∈ values q.streams ∧ s.streamId ∉ gone.map QueuedStream.streamId) := by
  have hids : (gone.map QueuedStream.streamId ++
      (values q'.streams).map QueuedStream.streamId).Nodup := by
    rw [← List.map_append]
    refine (h.values_perm.map QueuedStream.streamId).nodup_iff.mp ?_
    rw [hq.map_streamId]
    exact q.streams.keys_nodup
  have hapart := (List.nodup_append.mp hids).2.2
  have hmem : s ∈ values q.streams ↔ s ∈ gone ∨ s ∈ values q'.streams := by
    rw [h.values_perm.mem_iff, List.mem_append]
  constructor
  · constructor
    · intro hs
      exact ⟨hmem.mpr (.inl hs), List.mem_map_of_mem hs⟩
    · rintro ⟨hs, hid⟩
      rcases hmem.mp hs with hgone | hleft
      · exact hgone
      · exact absurd rfl (hapart _ hid _ (List.mem_map_of_mem hleft))
  · constructor
    · intro hs
      exact ⟨hmem.mpr (.inr hs), fun hid => hapart _ hid _ (List.mem_map_of_mem hs) rfl⟩
    · rintro ⟨hs, hid⟩
      rcases hmem.mp hs with hgone | hleft
      · exact absurd (List.mem_map_of_mem hgone) hid
      · exact hleft

/-- No held stream with an ID in `ids` shares its list with one whose ID is not. -/
def ListsApart (q : QueuedStreams I D) (ids : List I) : Prop :=
  ∀ s ∈ values q.streams, s.streamId ∈ ids →
    ∀ t ∈ values q.streams, t.streamId ∉ ids → s.listId ≠ t.listId

theorem Removal.listsApart_iff {q q' : QueuedStreams I D} {gone : List (QueuedStream I D)}
    (h : Removal q q' gone) (hq : Consistent q) :
    (∀ s ∈ gone, ∀ t ∈ values q'.streams, s.listId ≠ t.listId) ↔
      ListsApart q (gone.map QueuedStream.streamId) := by
  constructor
  · intro hapart s hs hsid t ht htid
    exact hapart s ((h.mem_iff hq s).1.mpr ⟨hs, hsid⟩) t ((h.mem_iff hq t).2.mpr ⟨ht, htid⟩)
  · intro hapart s hs t ht
    obtain ⟨hs', hsid⟩ := (h.mem_iff hq s).1.mp hs
    obtain ⟨ht', htid⟩ := (h.mem_iff hq t).2.mp ht
    exact hapart s hs' hsid t ht' htid

theorem listsApart_congr {q : QueuedStreams I D} {a b : List I} (h : ∀ i, i ∈ a ↔ i ∈ b) :
    ListsApart q a ↔ ListsApart q b := by
  simp only [ListsApart, h]

/-! ## Which streams a drop takes out -/

theorem takeWhile_congr {α : Type} {p p' : α → Bool} {l : List α} (h : ∀ a ∈ l, p a = p' a) :
    l.takeWhile p = l.takeWhile p' := by
  induction l with
  | nil => rfl
  | cons a rest ih =>
      rw [List.takeWhile_cons, List.takeWhile_cons, h a List.mem_cons_self,
        ih fun b hb => h b (List.mem_cons_of_mem a hb)]

/-- `player_dropped_from_queue` gets through the drop set: the whole queue is to be
dropped, or the drop set is a front part of the queue, perhaps with the stream in
flight. -/
def DropSucceeds (q : QueuedStreams I D) (ids : Finset I) : Prop :=
  (∀ i ∈ q.queue, i ∈ ids) ∨
  ∀ i ∈ ids, i ∈ q.queue.takeWhile (fun j => decide (j ∈ ids)) ∨
    (isValid q.streamInFlight = true ∧ i = q.streamInFlight)

/-- The IDs it then takes out. -/
def droppedIds (q : QueuedStreams I D) (ids : Finset I) : List I :=
  if ∀ i ∈ q.queue, i ∈ ids then q.queue
  else q.copyAllStreamIds.filter fun i => decide (i ∈ ids)

/-- With nothing to drop, or nothing queued, nothing is taken out. -/
theorem drop_nothing {q : QueuedStreams I D} {ids : Finset I} (h : ids = ∅ ∨ q.queue = []) :
    DropSucceeds q ids ∧ droppedIds q ids = [] := by
  rcases h with rfl | hqueue
  · refine ⟨.inr (by simp), ?_⟩
    unfold droppedIds
    split
    next hall =>
      exact List.eq_nil_iff_forall_not_mem.mpr fun i hi => Finset.notMem_empty i (hall i hi)
    next => simp
  · exact ⟨.inl (by simp [hqueue]), by simp [droppedIds, hqueue]⟩

/-- The drop set and the queue lose the head of the queue together. -/
theorem dropSucceeds_head {q q' : QueuedStreams I D} {ids : Finset I} {i : I}
    (hnodup : q.copyAllStreamIds.Nodup) (hmem : i ∈ ids) {rest : List I}
    (hqueue : q.queue = i :: rest) (hqueue' : q'.queue = rest)
    (hflight : q'.streamInFlight = q.streamInFlight) :
    (DropSucceeds q' (ids.erase i) ↔ DropSucceeds q ids) ∧
      i :: droppedIds q' (ids.erase i) ~ droppedIds q ids := by
  have hnotin : i ∉ rest := by
    have := (List.nodup_append.mp hnodup).2.1
    rw [hqueue] at this
    exact (List.nodup_cons.mp this).1
  have hne : ∀ j ∈ rest, j ≠ i := fun j hj => by rintro rfl; exact hnotin hj
  have hfilter : ∀ j ∈ rest, decide (j ∈ ids.erase i) = decide (j ∈ ids) := by
    intro j hj
    simp [hne j hj]
  have hall : (∀ j ∈ q'.queue, j ∈ ids.erase i) ↔ ∀ j ∈ q.queue, j ∈ ids := by
    rw [hqueue, hqueue']
    simp only [Finset.mem_erase, List.forall_mem_cons, hmem, true_and]
    exact forall₂_congr fun j hj => and_iff_right (hne j hj)
  constructor
  · unfold DropSucceeds
    rw [hall, hqueue, hqueue', hflight, List.takeWhile_cons_of_pos (by simpa using hmem),
      takeWhile_congr hfilter]
    refine or_congr_right ⟨fun h j hj => ?_, fun h j hj => ?_⟩
    · by_cases hji : j = i
      · exact .inl (hji ▸ List.mem_cons_self)
      · rcases h j (Finset.mem_erase.mpr ⟨hji, hj⟩) with h | h
        · exact .inl (List.mem_cons_of_mem _ h)
        · exact .inr h
    · obtain ⟨hji, hj⟩ := Finset.mem_erase.mp hj
      rcases h j hj with h | h
      · exact .inl ((List.mem_cons.mp h).resolve_left hji)
      · exact .inr h
  · unfold droppedIds
    by_cases h : ∀ j ∈ q.queue, j ∈ ids
    · rw [if_pos h, if_pos (hall.mpr h), hqueue, hqueue']
    · rw [if_neg h, if_neg (fun h' => h (hall.mp h'))]
      have hflightne : isValid q.streamInFlight = true → q.streamInFlight ≠ i := by
        rintro hvalid rfl
        simp [copyAllStreamIds, hvalid, hqueue] at hnodup
      simp only [copyAllStreamIds, hqueue, hqueue', hflight, List.filter_append,
        List.filter_cons_of_pos (p := fun j => decide (j ∈ ids)) (by simpa using hmem),
        List.filter_congr hfilter]
      cases hvalid : isValid q.streamInFlight with
      | false => simp
      | true =>
          have hflightmem : decide (q.streamInFlight ∈ ids.erase i) =
              decide (q.streamInFlight ∈ ids) := by simp [hflightne hvalid]
          simp only [if_true, List.filter_singleton, hflightmem]
          exact List.perm_middle.symm

/-- The stream in flight goes while the head of the queue stays. -/
theorem dropSucceeds_flight {q q' : QueuedStreams I D} {ids : Finset I}
    (hnodup : q.copyAllStreamIds.Nodup) (hhead : HeadNotIn q ids) (hne : q.queue ≠ [])
    (hvalid : isValid q.streamInFlight = true) (hmem : q.streamInFlight ∈ ids)
    (hqueue' : q'.queue = q.queue) (hflight : q'.streamInFlight = makeInvalid) :
    (DropSucceeds q' (ids.erase q.streamInFlight) ↔ DropSucceeds q ids) ∧
      q.streamInFlight :: droppedIds q' (ids.erase q.streamInFlight) ~ droppedIds q ids := by
  obtain ⟨head, rest, hqueue⟩ := List.exists_cons_of_ne_nil hne
  have hheadids : head ∉ ids := hhead head rest hqueue
  have hnotin : q.streamInFlight ∉ q.queue := by
    rw [copyAllStreamIds_of_valid hvalid] at hnodup
    exact (List.nodup_cons.mp hnodup).1
  have hnot : ¬∀ j ∈ q.queue, j ∈ ids := fun h =>
    hheadids (h head (hqueue ▸ List.mem_cons_self))
  have hnot' : ¬∀ j ∈ q'.queue, j ∈ ids.erase q.streamInFlight := fun h =>
    hnot fun j hj => Finset.mem_of_mem_erase (h j (hqueue' ▸ hj))
  constructor
  · unfold DropSucceeds
    rw [or_iff_right hnot, or_iff_right hnot', hqueue', hqueue, hflight,
      not_isValid_makeInvalid,
      List.takeWhile_cons_of_neg (by simp [hheadids]),
      List.takeWhile_cons_of_neg (by simp [hheadids])]
    simp only [hvalid, Finset.mem_erase, List.not_mem_nil, true_and, false_or, false_and,
      Bool.false_eq_true, imp_false, not_and]
    exact forall_congr' fun _ => not_imp_not
  · unfold droppedIds
    rw [if_neg hnot, if_neg hnot']
    have hfilter : ∀ j ∈ q.queue, decide (j ∈ ids.erase q.streamInFlight) =
        decide (j ∈ ids) := by
      intro j hj
      have hji : j ≠ q.streamInFlight := by rintro rfl; exact hnotin hj
      simp [hji]
    rw [copyAllStreamIds_of_valid hvalid,
      copyAllStreamIds_of_invalid (by rw [hflight]; exact not_isValid_makeInvalid), hqueue',
      List.filter_congr hfilter, List.filter_cons_of_pos (by simpa using hmem)]

end QueuedStreams

/-! ## The loop of `player_dropped_from_queue` -/

open QueuedStreams

namespace Data

/-- The same data with some streams taken out that were counted down twice. -/
def afterDrop (d : Data I D S) (q : QueuedStreams I D) (gone : List (QueuedStream I D)) :
    Data I D S :=
  { d with queuedStreams := q, referencedLists := unrefTwice gone d.referencedLists }

/-- The two ends of the loop: everything to be dropped has been taken out, or the
player is found to have failed. -/
theorem dropLoop_cases (fuel : Nat) (ids : Finset I) (d : Data I D S)
    (hd : d.queuedStreams.Consistent) (hfuel : ids.card ≤ fuel) :
    (DropSucceeds d.queuedStreams ids ∧ ∃ gone q', Removal d.queuedStreams q' gone ∧
      gone.map QueuedStream.streamId ~ droppedIds d.queuedStreams ids ∧
      dropLoop fuel ids d = (.returned true, d.afterDrop q' gone)) ∨
    (¬DropSucceeds d.queuedStreams ids ∧ ∃ gone q', Removal d.queuedStreams q' gone ∧
      dropLoop fuel ids d = (.returned false, (d.afterDrop q' gone).playerFailed)) := by
  induction fuel generalizing ids d with
  | zero =>
      have hids : ids = ∅ := Finset.card_eq_zero.mp (by omega)
      obtain ⟨hsucceeds, hnil⟩ := drop_nothing (q := d.queuedStreams) (.inl hids)
      refine .inl ⟨hsucceeds, [], d.queuedStreams, Removal.refl hd, by simp [hnil], ?_⟩
      simp [dropLoop, hids, afterDrop, unrefTwice]
  | succ fuel ih =>
      unfold dropLoop
      split
      next hstop =>
        have hstop' : ids = ∅ ∨ d.queuedStreams.queue = [] :=
          hstop.imp_right fun h => by simpa [isPlayerQueueFilled] using h
        obtain ⟨hsucceeds, hnil⟩ := drop_nothing hstop'
        exact .inl ⟨hsucceeds, [], d.queuedStreams, Removal.refl hd, by simp [hnil], rfl⟩
      next hgo =>
        have hids : ids ≠ ∅ := fun h => hgo (.inl h)
        have hne : d.queuedStreams.queue ≠ [] := fun h =>
          hgo (.inr (by simp [isPlayerQueueFilled, h]))
        rcases removeFront_cases removeDataForStream hd ids d.referencedLists with
          ⟨hnone, -⟩ | ⟨hfront, -⟩ | ⟨e, hhead, hflight, heq⟩ |
          ⟨i, s, q', hmem, hs, hrem, htaken, heq⟩
        · exact absurd hnone (by simp [copyAllStreamIds, hne])
        · exact absurd hfront.1 hne
        · refine .inr ⟨?_, [], d.queuedStreams, Removal.refl hd, by simp only [heq]; rfl⟩
          obtain ⟨head, rest, hqueue⟩ := List.exists_cons_of_ne_nil hne
          have hheadids : head ∉ ids := hhead head rest hqueue
          rintro (hall | hfew)
          · exact hheadids (hall head (hqueue ▸ List.mem_cons_self))
          · obtain ⟨j, hj⟩ := Finset.nonempty_iff_ne_empty.mpr hids
            rcases hfew j hj with hprefix | ⟨hvalid, rfl⟩
            · rw [hqueue, List.takeWhile_cons_of_neg (by simp [hheadids])] at hprefix
              cases hprefix
            · exact hflight hvalid hj
        · -- one turn of the loop, then the rest of it with a smaller drop set
          have hid : s.streamId = i := hd.streamId_eq i s hs
          have hstep : (DropSucceeds q' (ids.erase i) ↔ DropSucceeds d.queuedStreams ids) ∧
              i :: droppedIds q' (ids.erase i) ~ droppedIds d.queuedStreams ids := by
            rcases htaken with ⟨rest, hqueue, hqueue', hflight⟩ |
              ⟨hhead, rfl, hvalid, hqueue', hflight⟩
            · exact dropSucceeds_head hd.nodup hmem hqueue hqueue' hflight
            · exact dropSucceeds_flight hd.nodup hhead hne hvalid hmem hqueue' hflight
          have hcard : (ids.erase i).card ≤ fuel := by
            rw [Finset.card_erase_of_mem hmem]
            omega
          simp only [heq, removeDataForStream, QueuedStream.setState_listId]
          rcases ih (ids.erase i)
            { d with
              queuedStreams := q'
              referencedLists := unrefTwice [s] d.referencedLists }
            (hrem.consistent hd) hcard with
            ⟨hsucceeds, gone, q'', hrem', hids', heq'⟩ | ⟨hfails, gone, q'', hrem', heq'⟩
          · refine .inl ⟨hstep.1.mp hsucceeds, s :: gone, q'', hrem.trans hrem', ?_, heq'⟩
            rw [List.map_cons, hid]
            exact (hids'.cons i).trans hstep.2
          · exact .inr ⟨fun h => hfails (hstep.1.mpr h), s :: gone, q'', hrem.trans hrem', heq'⟩

end Data

/-! ## Runs -/

/-- The operations of `Player::Data` that change the queued streams. -/
inductive DataOp (I D S : Type) where
  | queuedStreamAppend (data : D) (listId : ListId)
  | queuedStreamRemove (streamId : I)
  | removeAllQueuedStreams (alsoRemovePlayingStream : Bool)
  | playerNowPlayingStream (streamId : S) (streamUrl : String)
  | playerDroppedFromQueue (dropped : List S)
  | playerRejectedUnplayedStream (dropped : S)
  | playerFinishedAndIdle

variable [GenericStreamId S I]

/-- The state a call leaves, if it has an outcome. -/
def Exit.finished {α : Type} : Exit I α × Data I D S → Option (Data I D S)
  | (.stuck, _) => none
  | (_, d) => some d

namespace Data

/-- One operation. -/
def step (d : Data I D S) : DataOp I D S → Option (Data I D S)
  | .queuedStreamAppend data listId => Exit.finished (d.queuedStreamAppend data listId)
  | .queuedStreamRemove streamId => some (d.queuedStreamRemove streamId)
  | .removeAllQueuedStreams alsoRemovePlayingStream =>
      some (d.removeAllQueuedStreams alsoRemovePlayingStream)
  | .playerNowPlayingStream streamId streamUrl =>
      Exit.finished (d.playerNowPlayingStream streamId streamUrl)
  | .playerDroppedFromQueue dropped => Exit.finished (d.playerDroppedFromQueue dropped)
  | .playerRejectedUnplayedStream dropped => some (d.playerRejectedUnplayedStream dropped)
  | .playerFinishedAndIdle => some d.playerFinishedAndIdle

/-- `referenced_lists_` counts the streams of `queued_streams_`. -/
def CountsExact (d : Data I D S) : Prop :=
  Exact d.referencedLists (values d.queuedStreams.streams)

/-- The operation has an outcome, and the reference counts are exact in it. -/
def ExactAfter (d : Data I D S) (op : DataOp I D S) : Prop :=
  ∃ d', d.step op = some d' ∧ d'.CountsExact

/-- The player reports no stream whose list is also the list of a stream that
stays: a rejected stream that is queued is the only one held from its list, and a
drop that succeeds takes out all streams of a list or none. -/
def ReportsWholeLists (d : Data I D S) : DataOp I D S → Prop
  | .playerDroppedFromQueue dropped =>
      DropSucceeds d.queuedStreams (dropSetOurs dropped) →
        ListsApart d.queuedStreams (droppedIds d.queuedStreams (dropSetOurs dropped))
  | .playerRejectedUnplayedStream dropped =>
      GenericStreamId.ourStream dropped ∈ d.queuedStreams.queue →
        ListsApart d.queuedStreams [GenericStreamId.ourStream dropped]
  | _ => True

/-- What is known of the state between two operations. -/
structure Invariant (d : Data I D S) : Prop where
  consistent : d.queuedStreams.Consistent
  counts : d.CountsExact

/-! ## One operation -/

/-- Taking streams out with one call of `on_remove_cb_` each. -/
theorem Invariant.removal {d d' : Data I D S} (hd : d.Invariant)
    {gone : List (QueuedStream I D)}
    (hrem : Removal d.queuedStreams d'.queuedStreams gone)
    (hrefs : d'.referencedLists = unrefOnce gone d.referencedLists) : d'.Invariant where
  consistent := hrem.consistent hd.consistent
  counts := by
    unfold CountsExact
    rw [hrefs]
    exact Exact.unrefOnce hd.counts hrem.values_perm

theorem Invariant.queuedStreamRemove {d : Data I D S} (hd : d.Invariant) (streamId : I) :
    (d.queuedStreamRemove streamId).Invariant :=
  hd.removal (clearIf_removal removeDataForStream hd.consistent _ _)
    (clearIf_env removeDataForStream _ _ _)

theorem Invariant.clear {d d' : Data I D S} (hd : d.Invariant)
    (hqueued : d'.queuedStreams =
      (d.queuedStreams.clear removeDataForStream d.referencedLists).2.1)
    (hrefs : d'.referencedLists =
      (d.queuedStreams.clear removeDataForStream d.referencedLists).2.2) : d'.Invariant := by
  have hrem := clear_removal removeDataForStream d.queuedStreams d.referencedLists
  rw [← hqueued] at hrem
  exact hd.removal hrem hrefs

theorem Invariant.removeAllQueuedStreams {d : Data I D S} (hd : d.Invariant) (also : Bool) :
    (d.removeAllQueuedStreams also).Invariant := by
  cases also with
  | true => exact hd.clear rfl rfl
  | false =>
      exact hd.removal (clearIf_removal removeDataForStream hd.consistent _ _)
        (clearIf_env removeDataForStream _ _ _)

theorem Invariant.playerFinishedAndIdle {d : Data I D S} (hd : d.Invariant) :
    d.playerFinishedAndIdle.Invariant where
  consistent :=
    (clear_removal removeDataForStream d.queuedStreams d.referencedLists).consistent
      hd.consistent
  counts := exact_empty

theorem eq_of_finished {α : Type} {d' : Data I D S} {r : Exit I α × Data I D S}
    (h : Exit.finished r = some d') : r.2 = d' := by
  obtain ⟨exit, d⟩ := r
  cases exit with
  | returned value => simpa [Exit.finished] using h
  | thrown e => simpa [Exit.finished] using h
  | stuck => simp [Exit.finished] at h

theorem Invariant.queuedStreamAppend {d : Data I D S} (hd : d.Invariant) (data : D)
    (listId : ListId) :
    ∃ d', Exit.finished (d.queuedStreamAppend data listId) = some d' ∧ d'.Invariant := by
  unfold Data.queuedStreamAppend
  rcases append_cases hd.consistent data listId with ⟨-, heq⟩ |
    ⟨i, nextFree, hfull, hi, hnext, hunused, heq⟩
  · simp only [heq, not_isValid_makeInvalid]
    exact ⟨_, rfl, hd.consistent, hd.counts⟩
  · simp only [heq, hi, if_true]
    refine ⟨_, rfl, hd.consistent.insert hfull hi hnext hunused rfl, ?_⟩
    unfold CountsExact
    rw [values_insert_of_notMem hunused]
    exact Exact.cons hd.counts (⟨i, listId, .floating, data⟩ : QueuedStream I D)

theorem Invariant.queuedStreamAppend_snd {d : Data I D S} (hd : d.Invariant) (data : D)
    (listId : ListId) : (d.queuedStreamAppend data listId).2.Invariant := by
  obtain ⟨d', hfinished, hd'⟩ := hd.queuedStreamAppend data listId
  rw [eq_of_finished hfinished]
  exact hd'

/-- `shift` keeps the invariant, also where the failure clears the queue. -/
theorem Invariant.streamHasChanged {d : Data I D S} (hd : d.Invariant) (nextStreamId : S) :
    ∃ b d', d.streamHasChanged nextStreamId = (.returned b, d') ∧ d'.Invariant := by
  unfold Data.streamHasChanged
  rcases shift_cases removeDataForStream d.queuedStreams
    (GenericStreamId.ourStream nextStreamId) d.referencedLists with ⟨e, heq⟩ | heq
  · simp only [heq]
    exact ⟨false, _, rfl, hd.clear rfl rfl⟩
  · rw [heq]
    rcases shiftIfNotFlying_cases removeDataForStream hd.consistent
      (GenericStreamId.ourStream nextStreamId) d.referencedLists with
      heq' | ⟨s, q', -, -, hrem, -, heq'⟩ | ⟨q', -, hrem, -, heq'⟩
    · simp only [heq']
      exact ⟨true, _, rfl, hd⟩
    · simp only [heq']
      exact ⟨true, _, rfl, hd.removal hrem rfl⟩
    · simp only [heq']
      exact ⟨true, _, rfl, hd.removal hrem rfl⟩

theorem Invariant.playerNowPlayingStream {d : Data I D S} (hd : d.Invariant) (streamId : S)
    (streamUrl : String) :
    ∃ d', Exit.finished (d.playerNowPlayingStream streamId streamUrl) = some d' ∧
      d'.Invariant := by
  unfold Data.playerNowPlayingStream
  split
  · obtain ⟨b, d', heq, hd'⟩ := hd.streamHasChanged streamId
    simp only [heq]
    exact ⟨_, rfl, hd'.consistent, hd'.counts⟩
  · exact ⟨_, rfl, hd.consistent, hd.counts⟩

/-- Taking streams out with two calls of `remove_data_for_stream` each. -/
theorem Invariant.afterDrop_iff {d : Data I D S} (hd : d.Invariant) {q' : QueuedStreams I D}
    {gone : List (QueuedStream I D)} (hrem : Removal d.queuedStreams q' gone) :
    (d.afterDrop q' gone).CountsExact ↔
      ListsApart d.queuedStreams (gone.map QueuedStream.streamId) := by
  rw [← hrem.listsApart_iff hd.consistent]
  exact exact_unrefTwice_iff hd.counts hrem.values_perm

/-- After a failed drop nothing is held and nothing is counted. -/
theorem Invariant.playerFailed_afterDrop {d : Data I D S} (hd : d.Invariant)
    {q' : QueuedStreams I D} {gone : List (QueuedStream I D)}
    (hrem : Removal d.queuedStreams q' gone) :
    (d.afterDrop q' gone).playerFailed.Invariant where
  consistent :=
    (clear_removal removeDataForStream q' (unrefTwice gone d.referencedLists)).consistent
      (hrem.consistent hd.consistent)
  counts := exact_unrefTwice_unrefOnce hd.counts hrem.values_perm

theorem Invariant.playerDroppedFromQueue {d : Data I D S} (hd : d.Invariant)
    (dropped : List S) :
    ∃ d', Exit.finished (d.playerDroppedFromQueue dropped) = some d' ∧
      d'.queuedStreams.Consistent ∧
      (d'.CountsExact ↔ d.ReportsWholeLists (.playerDroppedFromQueue dropped)) := by
  unfold Data.playerDroppedFromQueue ReportsWholeLists
  split
  next hempty =>
    have hnil : dropped = [] := by simpa using hempty
    refine ⟨d, rfl, hd.consistent, iff_of_true hd.counts fun _ => ?_⟩
    rw [hnil, (drop_nothing (q := d.queuedStreams) (.inl (by simp [dropSetOurs]))).2]
    intro s _ hs
    cases hs
  next =>
    rcases dropLoop_cases (dropSetOurs dropped : Finset I).card (dropSetOurs dropped) d
      hd.consistent (Nat.le_refl _) with
      ⟨hsucceeds, gone, q', hrem, hids, heq⟩ | ⟨hfails, gone, q', hrem, heq⟩
    · rw [heq]
      refine ⟨_, rfl, hrem.consistent hd.consistent, ?_⟩
      rw [hd.afterDrop_iff hrem, listsApart_congr fun i => hids.mem_iff]
      exact ⟨fun h _ => h, fun h => h hsucceeds⟩
    · rw [heq]
      have hd' := hd.playerFailed_afterDrop hrem
      exact ⟨_, rfl, hd'.consistent, iff_of_true hd'.counts fun h => absurd h hfails⟩

theorem Invariant.playerRejectedUnplayedStream {d : Data I D S} (hd : d.Invariant)
    (dropped : S) :
    (d.playerRejectedUnplayedStream dropped).queuedStreams.Consistent ∧
      ((d.playerRejectedUnplayedStream dropped).CountsExact ↔
        d.ReportsWholeLists (.playerRejectedUnplayedStream dropped)) := by
  unfold Data.playerRejectedUnplayedStream ReportsWholeLists
  dsimp only
  split
  next hvalid =>
    rcases removeAnywhere_cases removeDataForStream hd.consistent
      (GenericStreamId.ourStream dropped) d.referencedLists with
      ⟨hnot, heq⟩ | ⟨s, q', hmem, hs, hrem, -, heq⟩
    · simp only [heq]
      exact ⟨hd.consistent, iff_of_true hd.counts fun h => absurd h hnot⟩
    · simp only [heq]
      have hiff := hd.afterDrop_iff hrem
      rw [List.map_singleton, hd.consistent.streamId_eq _ s hs] at hiff
      refine ⟨hrem.consistent hd.consistent, ?_⟩
      have hrefs : removeDataForStream (s.setState .aboutToDie)
          (removeDataForStream s d.referencedLists) = unrefTwice [s] d.referencedLists := by
        simp [removeDataForStream, unrefTwice]
      rw [hrefs]
      exact hiff.trans ⟨fun h _ => h, fun h => h hmem⟩
  next hinvalid =>
    refine ⟨hd.consistent, iff_of_true hd.counts fun hmem => ?_⟩
    exact absurd (hd.consistent.valid_queue _ hmem) hinvalid

/-- Every operation ends in a consistent container, and with exact counts if and
only if it reports whole lists. -/
theorem Invariant.step {d : Data I D S} (hd : d.Invariant) (op : DataOp I D S) :
    ∃ d', d.step op = some d' ∧ d'.queuedStreams.Consistent ∧
      (d'.CountsExact ↔ d.ReportsWholeLists op) := by
  have hkeep : ∀ d' : Data I D S, d'.Invariant →
      d'.queuedStreams.Consistent ∧ (d'.CountsExact ↔ True) :=
    fun d' hd' => ⟨hd'.consistent, iff_true_intro hd'.counts⟩
  cases op with
  | queuedStreamAppend data listId =>
      obtain ⟨d', hstep, hd'⟩ := hd.queuedStreamAppend data listId
      exact ⟨d', hstep, hkeep d' hd'⟩
  | queuedStreamRemove streamId =>
      exact ⟨_, rfl, hkeep _ (hd.queuedStreamRemove streamId)⟩
  | removeAllQueuedStreams also =>
      exact ⟨_, rfl, hkeep _ (hd.removeAllQueuedStreams also)⟩
  | playerNowPlayingStream streamId streamUrl =>
      obtain ⟨d', hstep, hd'⟩ := hd.playerNowPlayingStream streamId streamUrl
      exact ⟨d', hstep, hkeep d' hd'⟩
  | playerDroppedFromQueue dropped => exact hd.playerDroppedFromQueue dropped
  | playerRejectedUnplayedStream dropped =>
      exact ⟨_, rfl, hd.playerRejectedUnplayedStream dropped⟩
  | playerFinishedAndIdle => exact ⟨_, rfl, hkeep _ hd.playerFinishedAndIdle⟩

theorem invariant_init : (Data.init : Data I D S).Invariant where
  consistent := consistent_init
  counts := exact_empty

theorem exactAfter_iff {d : Data I D S} (hd : d.Invariant) (op : DataOp I D S) :
    d.ExactAfter op ↔ d.ReportsWholeLists op := by
  obtain ⟨d', hstep, -, hiff⟩ := hd.step op
  rw [← hiff]
  constructor
  · rintro ⟨d'', hstep', hexact⟩
    rw [hstep] at hstep'
    exact Option.some.inj hstep' ▸ hexact
  · intro hexact
    exact ⟨d', hstep, hexact⟩

theorem Invariant.next {d d' : Data I D S} (hd : d.Invariant) {op : DataOp I D S}
    (hwhole : d.ReportsWholeLists op) (hstep : d.step op = some d') : d'.Invariant := by
  obtain ⟨d'', hstep', hconsistent, hiff⟩ := hd.step op
  rw [hstep] at hstep'
  cases hstep'
  exact ⟨hconsistent, hiff.mpr hwhole⟩

end Data

/-! ## All runs -/

/-- In a run of `Player::Data`, the reference counts are exact after every operation
if and only if no operation reports a part of the streams of a list as rejected or
dropped. -/
theorem referenced_lists_exact_iff (ops : List (DataOp I D S)) :
    AlongRun Data.step Data.ExactAfter (Data.init : Data I D S) ops ↔
      AlongRun Data.step Data.ReportsWholeLists (Data.init : Data I D S) ops :=
  alongRun_iff (fun _ _ _ hd hwhole hstep => hd.next hwhole hstep)
    (fun _ op hd => Data.exactAfter_iff hd op) ops Data.invariant_init

/-- Two streams from list 7 are queued and the player rejects the first one: the
second stream is still there, but its list is not referenced any more. -/
theorem rejected_stream_is_unreferenced_twice :
    ¬AlongRun Data.step Data.ExactAfter
      (Data.init : Data (Option (Fin 24)) Unit Nat)
      [.queuedStreamAppend () ⟨7⟩, .queuedStreamAppend () ⟨7⟩,
        .playerRejectedUnplayedStream 2] := by
  intro h
  obtain ⟨d, hstep, hexact⟩ := ((h.2 _ rfl).2 _ rfl).1
  cases hstep
  have hlookup := hexact ⟨7⟩
  revert hlookup
  decide

end Drcpd.Player

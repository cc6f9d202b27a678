/-
  Player/QueueConsistency.lean --- what `QueuedStreams::log` calls a consistent
  state, and what each operation does to it.

  `Consistent` ties the three structures of `QueuedStreams` together.  Every
  operation but `append` only takes streams out; what it took out and what is
  left is said once, by `Removal`, and every operation gets one lemma that shows
  its `Removal`.
-/
import Mathlib.Data.List.Perm.Basic
import Drcpd.Player.QueuedStreams

set_option autoImplicit false

namespace Drcpd.Player

open Drcpd.Foundation OurStreamId List

namespace QueuedStreams

variable {I D σ : Type} [OurStreamId I]

/-! ## The IDs held -/

theorem copyAllStreamIds_of_valid {q : QueuedStreams I D}
    (h : isValid q.streamInFlight = true) :
    q.copyAllStreamIds = q.streamInFlight :: q.queue := by
  simp [copyAllStreamIds, h]

theorem copyAllStreamIds_of_invalid {q : QueuedStreams I D}
    (h : isValid q.streamInFlight = false) : q.copyAllStreamIds = q.queue := by
  simp [copyAllStreamIds, h]

theorem mem_copyAllStreamIds_of_mem_queue {q : QueuedStreams I D} {i : I} (h : i ∈ q.queue) :
    i ∈ q.copyAllStreamIds := by
  simp [copyAllStreamIds, h]

theorem launchHead_streams (q : QueuedStreams I D) : (launchHead q).streams = q.streams := by
  unfold launchHead; split <;> rfl

theorem launchHead_next (q : QueuedStreams I D) :
    (launchHead q).nextFreeStreamId = q.nextFreeStreamId := by
  unfold launchHead; split <;> rfl

theorem launchHead_queue_sublist (q : QueuedStreams I D) : (launchHead q).queue <+ q.queue := by
  unfold launchHead
  split
  next h => simp [h]
  next h => simp [h]

/-- With the ID in flight gone, the IDs held are those that were queued. -/
theorem copyAllStreamIds_launchHead {q : QueuedStreams I D}
    (hvalid : ∀ i ∈ q.queue, isValid i = true) : (launchHead q).copyAllStreamIds = q.queue := by
  unfold launchHead
  split
  next h => simp [copyAllStreamIds, h, not_isValid_makeInvalid]
  next head rest h =>
    have hhead : isValid head = true := hvalid head (h ▸ List.mem_cons_self)
    simp [copyAllStreamIds, h, hhead]

/-! ## The search for an ID -/

/-- The ID `claimFreeId` returns is unused. -/
theorem claimFreeId_spec {inUse : I → Bool} {fuel : Nat} {free i nextFree : I}
    (hfree : isValid free = true) (h : claimFreeId inUse fuel free = some (i, nextFree)) :
    inUse i = false ∧ isValid i = true ∧ isValid nextFree = true := by
  induction fuel generalizing free with
  | zero => cases h
  | succ fuel ih =>
      unfold claimFreeId at h
      split at h
      next => exact ih (isValid_next free hfree) h
      next hunused =>
        cases h
        exact ⟨by simpa using hunused, hfree, isValid_next _ hfree⟩

/-- The loop ends where it meets an unused ID before its fuel is used up. -/
theorem claimFreeId_eq_some {inUse : I → Bool} {fuel k : Nat} {free : I} (hk : k < fuel)
    (hunused : inUse (next^[k] free) = false) :
    ∃ i nextFree, claimFreeId inUse fuel free = some (i, nextFree) := by
  induction fuel generalizing free k with
  | zero => omega
  | succ fuel ih =>
      unfold claimFreeId
      split
      next hused =>
        cases k with
        | zero => simp_all
        | succ k => exact ih (k := k) (by omega) hunused
      next => exact ⟨_, _, rfl⟩

variable [DecidableEq I]

/-! ## Consistency -/

/-- The consistency check of `QueuedStreams::log`, with the facts about IDs the
operations rely on. -/
structure Consistent (q : QueuedStreams I D) : Prop where
  /-- The keys of `streams_` are the queued IDs and the ID in flight. -/
  keys_perm : q.streams.keys ~ q.copyAllStreamIds
  /-- Only valid IDs are queued. -/
  valid_queue : ∀ i ∈ q.queue, isValid i = true
  /-- Each stream is stored under its own ID. -/
  streamId_eq : ∀ i s, q.streams.lookup i = some s → s.streamId = i
  /-- The next ID to be tried is valid. -/
  valid_next : isValid q.nextFreeStreamId = true
  /-- `append` refuses to queue more than this. -/
  length_queue : q.queue.length ≤ maxEntries

/-- No ID is held twice. -/
theorem Consistent.nodup {q : QueuedStreams I D} (hq : Consistent q) :
    q.copyAllStreamIds.Nodup :=
  hq.keys_perm.nodup_iff.mp q.streams.keys_nodup

theorem Consistent.mem_streams_iff {q : QueuedStreams I D} (hq : Consistent q) {i : I} :
    i ∈ q.streams ↔ i ∈ q.copyAllStreamIds := by
  rw [AList.mem_keys]
  exact hq.keys_perm.mem_iff

theorem Consistent.valid_of_mem {q : QueuedStreams I D} (hq : Consistent q) {i : I}
    (h : i ∈ q.copyAllStreamIds) : isValid i = true := by
  cases hf : isValid q.streamInFlight with
  | false =>
      rw [copyAllStreamIds_of_invalid hf] at h
      exact hq.valid_queue i h
  | true =>
      rw [copyAllStreamIds_of_valid hf] at h
      rcases List.mem_cons.mp h with rfl | hi
      · exact hf
      · exact hq.valid_queue i hi

/-- Every ID held has its stream. -/
theorem Consistent.exists_stream {q : QueuedStreams I D} (hq : Consistent q) {i : I}
    (h : i ∈ q.copyAllStreamIds) : ∃ s, q.streams.lookup i = some s := by
  rw [← hq.mem_streams_iff, ← AList.lookup_isSome, Option.isSome_iff_exists] at h
  exact h

theorem consistent_init : Consistent (init : QueuedStreams I D) where
  keys_perm := by
    simp [init, copyAllStreamIds, not_isValid_makeInvalid]
  valid_queue := by simp [init]
  streamId_eq := by simp [init]
  valid_next := isValid_make
  length_queue := by simp [init]

/-! ## Taking streams out -/

/-- What taking the streams `gone` out of `q` leaves behind. -/
structure Removal (q q' : QueuedStreams I D) (gone : List (QueuedStream I D)) : Prop where
  /-- The streams held before are those gone and those still held. -/
  values_perm : values q.streams ~ gone ++ values q'.streams
  keys_perm : q'.streams.keys ~ q'.copyAllStreamIds
  lookup_mono : ∀ i s, q'.streams.lookup i = some s → q.streams.lookup i = some s
  queue_sublist : q'.queue <+ q.queue
  next_eq : q'.nextFreeStreamId = q.nextFreeStreamId

theorem Removal.consistent {q q' : QueuedStreams I D} {gone : List (QueuedStream I D)}
    (h : Removal q q' gone) (hq : Consistent q) : Consistent q' where
  keys_perm := h.keys_perm
  valid_queue := fun i hi => hq.valid_queue i (h.queue_sublist.subset hi)
  streamId_eq := fun i s hs => hq.streamId_eq i s (h.lookup_mono i s hs)
  valid_next := h.next_eq ▸ hq.valid_next
  length_queue := h.queue_sublist.length_le.trans hq.length_queue

theorem Removal.refl {q : QueuedStreams I D} (hq : Consistent q) : Removal q q [] where
  values_perm := by simp
  keys_perm := hq.keys_perm
  lookup_mono := fun _ _ h => h
  queue_sublist := List.Sublist.refl _
  next_eq := rfl

/-- Taking out one held stream, with its ID taken out of the queue or of the
flight. -/
theorem removal_erase {q q' : QueuedStreams I D} {i : I} {s : QueuedStream I D}
    (hs : q.streams.lookup i = some s) (hstreams : q'.streams = q.streams.erase i)
    (hids : q'.copyAllStreamIds ~ q.copyAllStreamIds.erase i) (hqueue : q'.queue <+ q.queue)
    (hnext : q'.nextFreeStreamId = q.nextFreeStreamId) (hq : Consistent q) :
    Removal q q' [s] where
  values_perm := by
    rw [hstreams]
    exact values_perm_cons_erase hs
  keys_perm := by
    rw [hstreams, AList.keys_erase]
    exact (hq.keys_perm.erase i).trans hids.symm
  lookup_mono := by
    intro j t hj
    rw [hstreams] at hj
    by_cases hji : j = i
    · subst hji
      rw [AList.lookup_erase] at hj
      cases hj
    · rwa [AList.lookup_erase_ne hji] at hj
  queue_sublist := hqueue
  next_eq := hnext

/-- A change that holds all streams but moves their IDs. -/
theorem removal_of_streams_eq {q q' : QueuedStreams I D} (hstreams : q'.streams = q.streams)
    (hids : q'.copyAllStreamIds ~ q.copyAllStreamIds) (hqueue : q'.queue <+ q.queue)
    (hnext : q'.nextFreeStreamId = q.nextFreeStreamId) (hq : Consistent q) :
    Removal q q' [] where
  values_perm := by simp [hstreams]
  keys_perm := by
    rw [hstreams]
    exact hq.keys_perm.trans hids.symm
  lookup_mono := by
    intro j t hj
    rwa [hstreams] at hj
  queue_sublist := hqueue
  next_eq := hnext

variable (onRemoveCb : QueuedStream I D → σ → σ)

theorem eraseStreamFromContainer_eq {streams : Streams I D} {i : I} {s : QueuedStream I D}
    (hvalid : isValid i = true) (hs : streams.lookup i = some s) (reason : String) (env : σ) :
    eraseStreamFromContainer onRemoveCb streams i reason env =
      (.ok (s.setState .aboutToDie), streams.erase i, onRemoveCb s env) := by
  simp [eraseStreamFromContainer, hvalid, hs]

/-! ## `remove_front` -/

/-- The head of the queue, if any, is not in the drop set. -/
def HeadNotIn (q : QueuedStreams I D) (ids : Finset I) : Prop :=
  ∀ head rest, q.queue = head :: rest → head ∉ ids

/-- `remove_front` is undefined exactly when it has to report that the only stream
held, the one in flight, is not in the drop set. -/
def FrontOfEmptyQueue (q : QueuedStreams I D) (ids : Finset I) : Prop :=
  q.queue = [] ∧ isValid q.streamInFlight = true ∧ q.streamInFlight ∉ ids

/-- All ends of the choice of `remove_front`. -/
theorem frontElement_cases (q : QueuedStreams I D) (ids : Finset I) :
    (FrontOfEmptyQueue q ids ∧ q.frontElement ids = .stuck) ∨
    (∃ e, HeadNotIn q ids ∧ (isValid q.streamInFlight = true → q.streamInFlight ∉ ids) ∧
      q.frontElement ids = .thrown e) ∨
    (∃ head rest, q.queue = head :: rest ∧ head ∈ ids ∧
      q.frontElement ids = .returned (head, true)) ∨
    (HeadNotIn q ids ∧ isValid q.streamInFlight = true ∧ q.streamInFlight ∈ ids ∧
      q.frontElement ids = .returned (q.streamInFlight, false)) := by
  unfold frontElement HeadNotIn FrontOfEmptyQueue
  cases q.queue with
  | nil =>
      cases hvalid : isValid q.streamInFlight with
      | false => simp
      | true => by_cases hflight : q.streamInFlight ∈ ids <;> simp [hflight]
  | cons head rest =>
      by_cases hhead : head ∈ ids
      · simp [hhead]
      · cases hvalid : isValid q.streamInFlight with
        | false => simp [hhead]
        | true => by_cases hflight : q.streamInFlight ∈ ids <;> simp [hhead, hflight]

theorem removeFront_of_frontOfEmptyQueue {q : QueuedStreams I D} {ids : Finset I}
    (h : FrontOfEmptyQueue q ids) (env : σ) :
    removeFront onRemoveCb q ids env = (.stuck, ids, q, env) := by
  have hstuck : q.frontElement ids = .stuck := by
    simp [frontElement, h.1, h.2.1, h.2.2]
  unfold removeFront
  rw [hstuck]
  simp [h.2.1]

/-- Where `remove_front` takes the stream `i` from. -/
def FrontTaken (q q' : QueuedStreams I D) (ids : Finset I) (i : I) : Prop :=
  (∃ rest, q.queue = i :: rest ∧ q'.queue = rest ∧ q'.streamInFlight = q.streamInFlight) ∨
  (HeadNotIn q ids ∧ i = q.streamInFlight ∧ isValid i = true ∧ q'.queue = q.queue ∧
    q'.streamInFlight = makeInvalid)

/-- All ends of `remove_front`. -/
theorem removeFront_cases {q : QueuedStreams I D} (hq : Consistent q) (ids : Finset I) (env : σ) :
    (q.copyAllStreamIds = [] ∧
      removeFront onRemoveCb q ids env = (.returned none, ids, q, env)) ∨
    (FrontOfEmptyQueue q ids ∧ removeFront onRemoveCb q ids env = (.stuck, ids, q, env)) ∨
    (∃ e, HeadNotIn q ids ∧ (isValid q.streamInFlight = true → q.streamInFlight ∉ ids) ∧
      removeFront onRemoveCb q ids env = (.thrown e, ids, q, env)) ∨
    (∃ i s q', i ∈ ids ∧ q.streams.lookup i = some s ∧ Removal q q' [s] ∧
      FrontTaken q q' ids i ∧
      removeFront onRemoveCb q ids env =
        (.returned (some (s.setState .aboutToDie)), ids.erase i, q', onRemoveCb s env)) := by
  unfold removeFront
  split
  next hempty =>
    simp only [Bool.and_eq_true, List.isEmpty_iff, Bool.not_eq_true'] at hempty
    exact .inl ⟨by rw [copyAllStreamIds_of_invalid hempty.2, hempty.1], rfl⟩
  next =>
    rcases frontElement_cases q ids with ⟨hfront, heq⟩ | ⟨e, hhead, hflight, heq⟩ |
      ⟨head, rest, hqueue, hmem, heq⟩ | ⟨hhead, hvalid, hmem, heq⟩
    · rw [heq]
      exact .inr (.inl ⟨hfront, rfl⟩)
    · rw [heq]
      exact .inr (.inr (.inl ⟨e, hhead, hflight, rfl⟩))
    · have hheld : head ∈ q.copyAllStreamIds :=
        mem_copyAllStreamIds_of_mem_queue (hqueue ▸ List.mem_cons_self)
      obtain ⟨s, hs⟩ := hq.exists_stream hheld
      rw [heq]
      simp only [eraseStreamFromContainer_eq onRemoveCb (hq.valid_of_mem hheld) hs, if_true]
      refine .inr (.inr (.inr ⟨head, s,
        { q with streams := q.streams.erase head, queue := q.queue.tail }, hmem, hs, ?_,
        .inl ⟨rest, hqueue, ?_, rfl⟩, rfl⟩))
      · refine removal_erase hs rfl ?_ (List.tail_sublist _) rfl hq
        have hnodup := hq.nodup
        simp only [copyAllStreamIds, hqueue, List.tail_cons] at hnodup ⊢
        cases hf : isValid q.streamInFlight with
        | false => simp
        | true =>
            have hne : q.streamInFlight ≠ head := by
              rintro rfl
              simp [hf] at hnodup
            simp [hne]
      · simp [hqueue]
    · have hheld : q.streamInFlight ∈ q.copyAllStreamIds := by
        rw [copyAllStreamIds_of_valid hvalid]
        exact List.mem_cons_self
      obtain ⟨s, hs⟩ := hq.exists_stream hheld
      rw [heq]
      simp only [eraseStreamFromContainer_eq onRemoveCb hvalid hs]
      refine .inr (.inr (.inr ⟨_, s,
        { q with streams := q.streams.erase q.streamInFlight, streamInFlight := makeInvalid },
        hmem, hs, ?_, .inr ⟨hhead, rfl, hvalid, rfl, rfl⟩, by simp⟩))
      refine removal_erase hs rfl ?_ (List.Sublist.refl _) rfl hq
      simp [copyAllStreamIds, hvalid, not_isValid_makeInvalid]

/-! ## `remove_anywhere` -/

/-- All ends of `remove_anywhere`. -/
theorem removeAnywhere_cases {q : QueuedStreams I D} (hq : Consistent q) (i : I) (env : σ) :
    (i ∉ q.queue ∧ removeAnywhere onRemoveCb q i env = (none, q, env)) ∨
    (∃ s q', i ∈ q.queue ∧ q.streams.lookup i = some s ∧ Removal q q' [s] ∧
      q'.streams = q.streams.erase i ∧
      removeAnywhere onRemoveCb q i env =
        (some (s.setState .aboutToDie), q', onRemoveCb s env)) := by
  unfold removeAnywhere
  split
  next hmem =>
    have hheld := mem_copyAllStreamIds_of_mem_queue hmem
    obtain ⟨s, hs⟩ := hq.exists_stream hheld
    simp only [eraseStreamFromContainer_eq onRemoveCb (hq.valid_of_mem hheld) hs]
    refine .inr ⟨s, _, hmem, hs, ?_, rfl, rfl⟩
    refine removal_erase hs rfl ?_ List.erase_sublist rfl hq
    have hnodup := hq.nodup
    simp only [copyAllStreamIds] at hnodup ⊢
    cases hf : isValid q.streamInFlight with
    | false => simp
    | true =>
        have hne : q.streamInFlight ≠ i := by
          rintro rfl
          simp [hf, hmem] at hnodup
        simp [hne]
  next hmem => exact .inl ⟨hmem, rfl⟩

/-! ## `shift` and `shift_if_not_flying` -/

/-- All ends of `shift_if_not_flying(id)`: the stream is in flight already, the
stream in flight is replaced, or there was none. -/
theorem shiftIfNotFlying_cases {q : QueuedStreams I D} (hq : Consistent q) (i : I) (env : σ) :
    shiftIfNotFlying onRemoveCb q i env = (.returned none, q, env) ∨
    (∃ s q', isValid q.streamInFlight = true ∧ q.streams.lookup q.streamInFlight = some s ∧
      Removal q q' [s] ∧ q'.streams = q.streams.erase q.streamInFlight ∧
      shiftIfNotFlying onRemoveCb q i env =
        (.returned (some (s.setState .aboutToDie)), q', onRemoveCb s env)) ∨
    (∃ q', isValid q.streamInFlight = false ∧ Removal q q' [] ∧ q'.streams = q.streams ∧
      shiftIfNotFlying onRemoveCb q i env = (.returned none, q', env)) := by
  unfold shiftIfNotFlying
  split
  next => exact .inl rfl
  next =>
    cases hf : isValid q.streamInFlight with
    | true =>
        have hheld : q.streamInFlight ∈ q.copyAllStreamIds := by
          rw [copyAllStreamIds_of_valid hf]
          exact List.mem_cons_self
        obtain ⟨s, hs⟩ := hq.exists_stream hheld
        simp only [eraseStreamFromContainer_eq onRemoveCb hf hs, if_true]
        refine .inr (.inl ⟨s, _, trivial, hs, ?_, launchHead_streams _, rfl⟩)
        refine removal_erase hs (launchHead_streams _) ?_ (launchHead_queue_sublist _)
          (launchHead_next _) hq
        rw [copyAllStreamIds_launchHead (by exact hq.valid_queue), copyAllStreamIds_of_valid hf]
        simp
    | false =>
        refine .inr (.inr ⟨launchHead q, rfl, ?_, launchHead_streams q, by simp⟩)
        refine removal_of_streams_eq (launchHead_streams q) ?_ (launchHead_queue_sublist _)
          (launchHead_next _) hq
        rw [copyAllStreamIds_launchHead hq.valid_queue, copyAllStreamIds_of_invalid hf]

/-- `shift` throws, or is `shift_if_not_flying(id)`. -/
theorem shift_cases (q : QueuedStreams I D) (i : I) (env : σ) :
    (∃ e, shift onRemoveCb q i env = (.thrown e, q, env)) ∨
    shift onRemoveCb q i env = shiftIfNotFlying onRemoveCb q i env := by
  unfold shift
  dsimp only
  split
  · exact .inl ⟨_, rfl⟩
  · exact .inr rfl

/-- `shift_if_not_flying()` moves IDs and takes nothing out. -/
theorem shiftIfNoneFlying_removal {q : QueuedStreams I D} (hq : Consistent q) :
    Removal q (shiftIfNoneFlying q).2 [] ∧ (shiftIfNoneFlying q).2.streams = q.streams := by
  unfold shiftIfNoneFlying
  split
  next => exact ⟨Removal.refl hq, rfl⟩
  next hf =>
    split
    next => exact ⟨Removal.refl hq, rfl⟩
    next =>
      refine ⟨removal_of_streams_eq (launchHead_streams q) ?_ (launchHead_queue_sublist _)
        (launchHead_next _) hq, launchHead_streams q⟩
      rw [copyAllStreamIds_launchHead hq.valid_queue,
        copyAllStreamIds_of_invalid (by simpa using hf)]

/-! ## `clear` and `clear_if` -/

theorem clear_removal (q : QueuedStreams I D) (env : σ) :
    Removal q (clear onRemoveCb q env).2.1 (values q.streams) where
  values_perm := by simp [clear]
  keys_perm := by simp [clear, copyAllStreamIds, not_isValid_makeInvalid]
  lookup_mono := by simp [clear]
  queue_sublist := by simp [clear]
  next_eq := rfl

/-- The three branches of `clear_if` agree on what is left. -/
theorem clearIf_spec {q : QueuedStreams I D} (hq : Consistent q) (pred : QueuedStream I D → Bool)
    (env : σ) :
    let remaining := filterValues (fun s => !pred s) q.streams
    (clearIf onRemoveCb q pred env).2.1.streams = remaining ∧
      (clearIf onRemoveCb q pred env).2.1.queue =
        q.queue.filter (fun i => decide (i ∈ remaining)) ∧
      (clearIf onRemoveCb q pred env).2.1.copyAllStreamIds =
        q.copyAllStreamIds.filter (fun i => decide (i ∈ remaining)) ∧
      (clearIf onRemoveCb q pred env).2.1.nextFreeStreamId = q.nextFreeStreamId := by
  intro remaining
  have hremaining : ∀ i, i ∈ remaining → i ∈ q.copyAllStreamIds := by
    intro i hi
    obtain ⟨s, hs, -⟩ := mem_filterValues.mp hi
    rw [← hq.mem_streams_iff, ← AList.lookup_isSome, hs]
    rfl
  generalize hq' : (clearIf onRemoveCb q pred env).2.1 = q'
  unfold clearIf at hq'
  dsimp only at hq'
  split at hq'
  next hnone =>
    have hempty : remaining = ∅ := by
      apply AList.ext
      have hkeys : remaining.keys = [] := by simpa using hnone
      simpa [AList.keys, List.keys] using hkeys
    rw [hempty, ← hq']
    simp [copyAllStreamIds, not_isValid_makeInvalid]
  next hsome =>
    split at hq'
    next hzero =>
      have hall : remaining = q.streams := filterValues_eq_self (by
        have hlen := length_filterValues_le (fun s => !pred s) q.streams
        omega)
      have hfilter : ∀ l : List I, l ⊆ q.copyAllStreamIds →
          l.filter (fun i => decide (i ∈ remaining)) = l := by
        intro l hl
        refine List.filter_eq_self.mpr fun i hi => ?_
        rw [hall, decide_eq_true_eq, hq.mem_streams_iff]
        exact hl hi
      rw [← hq', hfilter _ fun i => mem_copyAllStreamIds_of_mem_queue,
        hfilter _ (List.Subset.refl _)]
      exact ⟨rfl, rfl, rfl, rfl⟩
    next =>
      rw [← hq']
      refine ⟨rfl, rfl, ?_, rfl⟩
      by_cases hf : q.streamInFlight ∈ remaining
      · have hvalid := hq.valid_of_mem (hremaining _ hf)
        simp [copyAllStreamIds, remaining, hf, hvalid]
      · cases hvalid : isValid q.streamInFlight with
        | true => simp [copyAllStreamIds, remaining, hf, hvalid, not_isValid_makeInvalid]
        | false => simp [copyAllStreamIds, remaining, hf, hvalid, not_isValid_makeInvalid]

theorem clearIf_env (q : QueuedStreams I D) (pred : QueuedStream I D → Bool) (env : σ) :
    (clearIf onRemoveCb q pred env).2.2 =
      ((values q.streams).filter pred).foldl (fun e s => onRemoveCb s e) env := by
  unfold clearIf
  simp only
  split
  · rfl
  · split <;> rfl

theorem clearIf_removal {q : QueuedStreams I D} (hq : Consistent q)
    (pred : QueuedStream I D → Bool) (env : σ) :
    Removal q (clearIf onRemoveCb q pred env).2.1 ((values q.streams).filter pred) := by
  obtain ⟨hstreams, hqueue, hids, hnext⟩ := clearIf_spec onRemoveCb hq pred env
  refine ⟨?_, ?_, ?_, ?_, hnext⟩
  · rw [hstreams, values_filterValues]
    exact (List.filter_append_perm pred (values q.streams)).symm
  · rw [hstreams, hids, keys_filterValues]
    exact hq.keys_perm.filter _
  · intro i s hs
    rw [hstreams] at hs
    exact (lookup_filterValues.mp hs).1
  · rw [hqueue]
    exact List.filter_sublist

/-! ## `append` -/

theorem Consistent.length_keys_le {q : QueuedStreams I D} (hq : Consistent q) :
    q.streams.keys.length ≤ maxEntries + 1 := by
  rw [hq.keys_perm.length_eq]
  have hlen := hq.length_queue
  unfold copyAllStreamIds
  split <;> simp <;> omega

/-- A consistent container always has an ID left for `append`. -/
theorem Consistent.exists_free {q : QueuedStreams I D} (hq : Consistent q) :
    ∃ i nextFree, claimFreeId (fun i => decide (i ∈ q.streams)) (q.streams.keys.length + 1)
      q.nextFreeStreamId = some (i, nextFree) := by
  obtain ⟨ids, hids, hcard⟩ := enough (I := I)
  have hused : q.streams.keys.toFinset.card ≤ q.streams.keys.length := List.toFinset_card_le _
  have hfew : q.streams.keys.toFinset.card < ids.card := by
    have := hq.length_keys_le
    omega
  obtain ⟨k, hk, hunused⟩ := exists_iterate_notMem cycles hids hq.valid_next hfew
  refine claimFreeId_eq_some (k := k) (by omega) ?_
  rw [List.mem_toFinset, ← AList.mem_keys] at hunused
  exact decide_eq_false hunused

/-- All ends of `append`: the queue is full, or a stream is added under an ID that
was not in use. -/
theorem append_cases {q : QueuedStreams I D} (hq : Consistent q) (data : D) (listId : ListId) :
    (q.isFull = true ∧ append q data listId = (.returned makeInvalid, q)) ∨
    (∃ i nextFree, q.isFull = false ∧ isValid i = true ∧ isValid nextFree = true ∧
      i ∉ q.streams ∧
      append q data listId =
        (.returned i,
          { q with
            streams := q.streams.insert i ⟨i, listId, .floating, data⟩
            queue := q.queue ++ [i]
            nextFreeStreamId := nextFree })) := by
  unfold append
  cases hfull : q.isFull with
  | true => exact .inl ⟨rfl, by simp⟩
  | false =>
      obtain ⟨i, nextFree, hclaim⟩ := hq.exists_free
      obtain ⟨hunused, hi, hnext⟩ := claimFreeId_spec hq.valid_next hclaim
      refine .inr ⟨i, nextFree, rfl, hi, hnext, by simpa using hunused, ?_⟩
      simp [hclaim]

/-- Adding a stream under an unused valid ID keeps the container consistent. -/
theorem Consistent.insert {q : QueuedStreams I D} (hq : Consistent q) (hfull : q.isFull = false)
    {i nextFree : I} (hi : isValid i = true) (hnext : isValid nextFree = true)
    (hunused : i ∉ q.streams) {s : QueuedStream I D} (hs : s.streamId = i) :
    Consistent { q with
      streams := q.streams.insert i s
      queue := q.queue ++ [i]
      nextFreeStreamId := nextFree } where
  keys_perm := by
    have hkeys : (q.streams.insert i s).keys = i :: q.streams.keys := by
      rw [AList.keys_insert, List.erase_of_not_mem (by rwa [← AList.mem_keys])]
    rw [hkeys]
    refine (hq.keys_perm.cons i).trans ?_
    have hids : copyAllStreamIds { q with
        streams := q.streams.insert i s
        queue := q.queue ++ [i]
        nextFreeStreamId := nextFree } = q.copyAllStreamIds ++ [i] := by
      simp [copyAllStreamIds]
    rw [hids]
    exact (List.perm_append_singleton i _).symm
  valid_queue := by
    intro j hj
    rcases List.mem_append.mp hj with hold | hnew
    · exact hq.valid_queue j hold
    · rwa [List.mem_singleton.mp hnew]
  streamId_eq := by
    intro j t hj
    by_cases hji : j = i
    · subst hji
      rw [AList.lookup_insert] at hj
      cases hj
      exact hs
    · rw [AList.lookup_insert_ne hji] at hj
      exact hq.streamId_eq j t hj
  valid_next := hnext
  length_queue := by
    simp only [isFull, decide_eq_false_iff_not, Nat.not_le] at hfull
    simp only [List.length_append, List.length_singleton]
    omega

end QueuedStreams

end Drcpd.Player

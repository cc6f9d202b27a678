/-
  Player/QueueRuns.lean --- runs of `QueuedStreams`.

  Every operation is one event of a run.  Beside the container, the state of a
  run remembers when each stream was appended, so that the order of the queue can
  be stated although IDs are used again.
-/
import Mathlib.Logic.Function.Basic
import Drcpd.Foundation.Run
import Drcpd.Player.QueueConsistency

set_option autoImplicit false

namespace Drcpd.Player

open Drcpd.Foundation OurStreamId List

variable {I D : Type}

/-- The operations of `QueuedStreams` that change the container.  `clear_if` may be
called with any predicate. -/
inductive QueueOp (I D : Type) where
  | append (data : D) (listId : ListId)
  | removeFront (ids : Finset I)
  | removeAnywhere (id : I)
  | shift (expectedNextId : I)
  | shiftIfNotFlying (id : I)
  | shiftIfNoneFlying
  | clear
  | clearIf (pred : QueuedStream I D → Bool)

/-- What is observed of one call: how it ends, the container it leaves, the valid ID
it generated, and the streams `on_remove_cb_` was called for. -/
structure QueueEffect (I D : Type) where
  exit : Exit I Unit
  after : QueuedStreams I D
  appended : Option I
  removed : List (QueuedStream I D)

/-- Forget the returned value. -/
def Exit.discard {α : Type} : Exit I α → Exit I Unit
  | .returned _ => .returned ()
  | .thrown e => .thrown e
  | .stuck => .stuck

/-- The `on_remove_cb_` of a run keeps a record of its calls. -/
def recordRemoval (s : QueuedStream I D) (removed : List (QueuedStream I D)) :
    List (QueuedStream I D) := removed ++ [s]

theorem foldl_recordRemoval (streams removed : List (QueuedStream I D)) :
    streams.foldl (fun e s => recordRemoval s e) removed = removed ++ streams := by
  induction streams generalizing removed with
  | nil => simp
  | cons s rest ih =>
      rw [List.foldl_cons, ih]
      simp [recordRemoval]

/-- A stream appended now comes after every stream in the queue. -/
theorem inOrder_append [DecidableEq I] {queue : List I} {appendedAt : I → Nat} {clock : Nat} {i : I}
    (horder : queue.Pairwise fun a b => appendedAt a < appendedAt b)
    (hpast : ∀ a ∈ queue, appendedAt a < clock) (hi : i ∉ queue) :
    (queue ++ [i]).Pairwise fun a b =>
      Function.update appendedAt i clock a < Function.update appendedAt i clock b := by
  have hother : ∀ a ∈ queue, Function.update appendedAt i clock a = appendedAt a := by
    intro a ha
    exact Function.update_of_ne (by rintro rfl; exact hi ha) _ _
  rw [List.pairwise_append]
  refine ⟨?_, List.pairwise_singleton _ _, ?_⟩
  · refine horder.imp_of_mem fun ha hb hab => ?_
    rwa [hother _ ha, hother _ hb]
  · intro a ha b hb
    rw [List.mem_singleton.mp hb, hother a ha, Function.update_self]
    exact hpast a ha

variable [DecidableEq I] [OurStreamId I]

/-- The effect of one call. -/
def QueueOp.effect (q : QueuedStreams I D) : QueueOp I D → QueueEffect I D
  | .append data listId =>
      match q.append data listId with
      | (.returned i, after) =>
          ⟨.returned (), after, if isValid i then some i else none, []⟩
      | (exit, after) => ⟨exit.discard, after, none, []⟩
  | .removeFront ids =>
      let r := q.removeFront recordRemoval ids []
      ⟨r.1.discard, r.2.2.1, none, r.2.2.2⟩
  | .removeAnywhere id =>
      let r := q.removeAnywhere recordRemoval id []
      ⟨.returned (), r.2.1, none, r.2.2⟩
  | .shift expectedNextId =>
      let r := q.shift recordRemoval expectedNextId []
      ⟨r.1.discard, r.2.1, none, r.2.2⟩
  | .shiftIfNotFlying id =>
      let r := q.shiftIfNotFlying recordRemoval id []
      ⟨r.1.discard, r.2.1, none, r.2.2⟩
  | .shiftIfNoneFlying => ⟨.returned (), q.shiftIfNoneFlying.2, none, []⟩
  | .clear =>
      let r := q.clear recordRemoval []
      ⟨.returned (), r.2.1, none, r.2.2⟩
  | .clearIf pred =>
      let r := q.clearIf recordRemoval pred []
      ⟨.returned (), r.2.1, none, r.2.2⟩

/-- The state of a run: `appendedAt i` is the number of operations that came before
the one that appended the stream held under `i`. -/
structure QueueRunState (I D : Type) where
  container : QueuedStreams I D
  appendedAt : I → Nat
  clock : Nat

namespace QueueRunState

/-- The empty object. -/
def init : QueueRunState I D := ⟨QueuedStreams.init, fun _ => 0, 0⟩

/-- One operation; there is no next state where the source defines none. -/
def step (t : QueueRunState I D) (op : QueueOp I D) : Option (QueueRunState I D) :=
  let effect := op.effect t.container
  match effect.exit with
  | .stuck => none
  | _ =>
      some
        { container := effect.after
          appendedAt := match effect.appended with
            | none => t.appendedAt
            | some i => Function.update t.appendedAt i t.clock
          clock := t.clock + 1 }

/-- The members of the queue stand in the order in which they were appended. -/
def InOrder (t : QueueRunState I D) : Prop :=
  t.container.queue.Pairwise fun i j => t.appendedAt i < t.appendedAt j

end QueueRunState

/-- The streams a call added. -/
def QueueEffect.added (effect : QueueEffect I D) : List (QueuedStream I D) :=
  (effect.appended.bind fun i => effect.after.streams.lookup i).toList

/-- What every operation of `QueuedStreams` is expected to do. -/
structure OpSound (t : QueueRunState I D) (op : QueueOp I D) : Prop where
  /-- The operation returns or throws. -/
  ends : (op.effect t.container).exit ≠ .stuck
  /-- The keys of `streams_` are exactly the queued IDs and the ID in flight. -/
  keys_perm : (op.effect t.container).after.streams.keys ~
    (op.effect t.container).after.copyAllStreamIds
  /-- No ID occurs twice. -/
  ids_nodup : (op.effect t.container).after.copyAllStreamIds.Nodup
  /-- Every queued ID is valid. -/
  queue_valid : ∀ i ∈ (op.effect t.container).after.queue, isValid i = true
  /-- A generated ID differs from every ID held. -/
  fresh : ∀ i, (op.effect t.container).appended = some i → i ∉ t.container.copyAllStreamIds
  /-- The queue keeps the order of the appends. -/
  in_order : ∀ t', t.step op = some t' → t'.InOrder
  /-- `on_remove_cb_` is called exactly once for each stream that leaves: the streams
  held before and those added are the ones it was called for and those held after. -/
  removed_once : values t.container.streams ++ (op.effect t.container).added ~
    (op.effect t.container).removed ++ values (op.effect t.container).after.streams
  /-- An operation that throws changes nothing. -/
  thrown_unchanged : ∀ e, (op.effect t.container).exit = .thrown e →
    (op.effect t.container).after = t.container ∧ (op.effect t.container).removed = []

/-- The operation prints the front of an empty queue. -/
def PrintsFrontOfEmptyQueue (q : QueuedStreams I D) : QueueOp I D → Prop
  | .removeFront ids => q.FrontOfEmptyQueue ids
  | _ => False

/-- What is known of the state between two operations. -/
structure QueueRunState.Invariant (t : QueueRunState I D) : Prop where
  consistent : t.container.Consistent
  in_order : t.InOrder
  /-- Every stream was appended by an earlier operation. -/
  past : ∀ i ∈ t.container.queue, t.appendedAt i < t.clock

/-! ## One operation -/

/-- A call that takes streams out and does nothing else. -/
structure TakesOut (q : QueuedStreams I D) (effect : QueueEffect I D) : Prop where
  ends : effect.exit ≠ .stuck
  appended_eq : effect.appended = none
  removal : QueuedStreams.Removal q effect.after effect.removed
  thrown_unchanged : ∀ e, effect.exit = .thrown e → effect.after = q ∧ effect.removed = []

/-- A call that leaves everything as it was. -/
theorem takesOut_none {q : QueuedStreams I D} (hq : q.Consistent) {exit : Exit I Unit}
    (hexit : exit ≠ .stuck) : TakesOut q ⟨exit, q, none, []⟩ :=
  ⟨hexit, rfl, QueuedStreams.Removal.refl hq, fun _ _ => ⟨rfl, rfl⟩⟩

/-- A call that returns after taking streams out. -/
theorem takesOut_returned {q q' : QueuedStreams I D} {removed : List (QueuedStream I D)}
    (h : QueuedStreams.Removal q q' removed) : TakesOut q ⟨.returned (), q', none, removed⟩ :=
  ⟨by simp, rfl, h, by simp⟩

theorem shiftIfNotFlying_takesOut {q : QueuedStreams I D} (hq : q.Consistent) (id : I) :
    TakesOut q ((QueueOp.shiftIfNotFlying id).effect q) := by
  simp only [QueueOp.effect]
  rcases QueuedStreams.shiftIfNotFlying_cases recordRemoval hq id [] with
    heq | ⟨s, q', -, -, hrem, -, heq⟩ | ⟨q', -, hrem, -, heq⟩
  · rw [heq]
    exact takesOut_none hq (by simp [Exit.discard])
  · rw [heq]
    exact takesOut_returned hrem
  · rw [heq]
    exact takesOut_returned hrem

/-- Every operation has no outcome, takes streams out, or appends one. -/
theorem effect_cases {q : QueuedStreams I D} (hq : q.Consistent) (op : QueueOp I D) :
    (op.effect q).exit = .stuck ∨ TakesOut q (op.effect q) ∨
    (∃ data listId i nextFree, q.isFull = false ∧ isValid i = true ∧
      isValid nextFree = true ∧ i ∉ q.streams ∧
      op.effect q = ⟨.returned (),
        { q with
          streams := q.streams.insert i ⟨i, listId, .floating, data⟩
          queue := q.queue ++ [i]
          nextFreeStreamId := nextFree },
        some i, []⟩) := by
  cases op with
  | append data listId =>
      rcases QueuedStreams.append_cases hq data listId with ⟨-, heq⟩ |
        ⟨i, nextFree, hfull, hi, hnext, hunused, heq⟩
      · refine .inr (.inl ?_)
        simp only [QueueOp.effect, heq, not_isValid_makeInvalid]
        exact takesOut_none hq (by simp)
      · refine .inr (.inr ⟨data, listId, i, nextFree, hfull, hi, hnext, hunused, ?_⟩)
        simp [QueueOp.effect, heq, hi]
  | removeFront ids =>
      simp only [QueueOp.effect]
      rcases QueuedStreams.removeFront_cases recordRemoval hq ids [] with
        ⟨-, heq⟩ | ⟨-, heq⟩ | ⟨e, -, -, heq⟩ | ⟨i, s, q', -, -, hrem, -, heq⟩
      · rw [heq]
        exact .inr (.inl (takesOut_none hq (by simp [Exit.discard])))
      · rw [heq]
        exact .inl rfl
      · rw [heq]
        exact .inr (.inl (takesOut_none hq (by simp [Exit.discard])))
      · rw [heq]
        exact .inr (.inl (takesOut_returned hrem))
  | removeAnywhere id =>
      simp only [QueueOp.effect]
      rcases QueuedStreams.removeAnywhere_cases recordRemoval hq id [] with
        ⟨-, heq⟩ | ⟨s, q', -, -, hrem, -, heq⟩
      · rw [heq]
        exact .inr (.inl (takesOut_none hq (by simp)))
      · rw [heq]
        exact .inr (.inl (takesOut_returned hrem))
  | shift expectedNextId =>
      rcases QueuedStreams.shift_cases recordRemoval q expectedNextId [] with ⟨e, heq⟩ | heq
      · simp only [QueueOp.effect, heq]
        exact .inr (.inl (takesOut_none hq (by simp [Exit.discard])))
      · simp only [QueueOp.effect, heq]
        exact .inr (.inl (shiftIfNotFlying_takesOut hq expectedNextId))
  | shiftIfNotFlying id => exact .inr (.inl (shiftIfNotFlying_takesOut hq id))
  | shiftIfNoneFlying =>
      exact .inr (.inl (takesOut_returned (QueuedStreams.shiftIfNoneFlying_removal hq).1))
  | clear =>
      refine .inr (.inl (takesOut_returned ?_))
      have hrem := QueuedStreams.clear_removal recordRemoval q []
      have hlog : (q.clear recordRemoval []).2.2 = values q.streams :=
        foldl_recordRemoval _ _
      rwa [← hlog] at hrem
  | clearIf pred =>
      refine .inr (.inl (takesOut_returned ?_))
      have hrem := QueuedStreams.clearIf_removal recordRemoval hq pred []
      have hlog : (q.clearIf recordRemoval pred []).2.2 = (values q.streams).filter pred := by
        rw [QueuedStreams.clearIf_env, foldl_recordRemoval, List.nil_append]
      rwa [← hlog] at hrem

/-- The one operation without an outcome. -/
theorem effect_exit_eq_stuck {q : QueuedStreams I D} (hq : q.Consistent) (op : QueueOp I D) :
    (op.effect q).exit = .stuck ↔ PrintsFrontOfEmptyQueue q op := by
  cases op with
  | append data listId =>
      rcases QueuedStreams.append_cases hq data listId with ⟨-, heq⟩ | ⟨_, _, -, -, -, -, heq⟩
      · simp [QueueOp.effect, heq, PrintsFrontOfEmptyQueue]
      · simp [QueueOp.effect, heq, PrintsFrontOfEmptyQueue]
  | removeFront ids =>
      simp only [QueueOp.effect, PrintsFrontOfEmptyQueue]
      constructor
      · intro hexit
        rcases QueuedStreams.removeFront_cases recordRemoval hq ids [] with
          ⟨-, heq⟩ | ⟨hfront, -⟩ | ⟨e, -, -, heq⟩ | ⟨i, s, q', -, -, -, -, heq⟩
        · simp [heq, Exit.discard] at hexit
        · exact hfront
        · simp [heq, Exit.discard] at hexit
        · simp [heq, Exit.discard] at hexit
      · intro hfront
        rw [QueuedStreams.removeFront_of_frontOfEmptyQueue recordRemoval hfront]
        rfl
  | shift expectedNextId =>
      rcases QueuedStreams.shift_cases recordRemoval q expectedNextId [] with ⟨e, heq⟩ | heq
      · simp [QueueOp.effect, heq, Exit.discard, PrintsFrontOfEmptyQueue]
      · have hends := (shiftIfNotFlying_takesOut hq expectedNextId).ends
        simp only [QueueOp.effect] at hends
        simp [QueueOp.effect, heq, hends, PrintsFrontOfEmptyQueue]
  | shiftIfNotFlying id =>
      simp [(shiftIfNotFlying_takesOut hq id).ends, PrintsFrontOfEmptyQueue]
  | removeAnywhere id => simp [QueueOp.effect, PrintsFrontOfEmptyQueue]
  | shiftIfNoneFlying => simp [QueueOp.effect, PrintsFrontOfEmptyQueue]
  | clear => simp [QueueOp.effect, PrintsFrontOfEmptyQueue]
  | clearIf pred => simp [QueueOp.effect, PrintsFrontOfEmptyQueue]

theorem step_eq_some {t t' : QueueRunState I D} {op : QueueOp I D} (h : t.step op = some t') :
    t' =
      { container := (op.effect t.container).after
        appendedAt := match (op.effect t.container).appended with
          | none => t.appendedAt
          | some i => Function.update t.appendedAt i t.clock
        clock := t.clock + 1 } := by
  unfold QueueRunState.step at h
  dsimp only at h
  split at h
  · cases h
  · exact (Option.some.inj h).symm

theorem invariant_init : (QueueRunState.init : QueueRunState I D).Invariant where
  consistent := QueuedStreams.consistent_init
  in_order := List.Pairwise.nil
  past := by simp [QueueRunState.init, QueuedStreams.init]

/-- The step lemma: every operation keeps the invariant. -/
theorem QueueRunState.Invariant.step {t t' : QueueRunState I D} {op : QueueOp I D}
    (ht : t.Invariant) (hstep : t.step op = some t') : t'.Invariant := by
  have hends : (op.effect t.container).exit ≠ .stuck := by
    intro hstuck
    simp [QueueRunState.step, hstuck] at hstep
  have ht' := step_eq_some hstep
  rcases effect_cases ht.consistent op with hstuck | htakes |
    ⟨data, listId, i, nextFree, hfull, hi, hnext, hunused, heff⟩
  · exact absurd hstuck hends
  · rw [htakes.appended_eq] at ht'
    subst ht'
    exact
      { consistent := htakes.removal.consistent ht.consistent
        in_order := ht.in_order.sublist htakes.removal.queue_sublist
        past := fun a ha =>
          Nat.lt_succ_of_lt (ht.past a (htakes.removal.queue_sublist.subset ha)) }
  · rw [heff] at ht'
    subst ht'
    have hnew : i ∉ t.container.queue := fun hmem =>
      hunused (ht.consistent.mem_streams_iff.mpr
        (QueuedStreams.mem_copyAllStreamIds_of_mem_queue hmem))
    refine
      { consistent := ht.consistent.insert hfull hi hnext hunused rfl
        in_order := inOrder_append ht.in_order ht.past hnew
        past := ?_ }
    intro a ha
    by_cases hai : a = i
    · simp [hai]
    · have hold : a ∈ t.container.queue := by simpa [hai] using ha
      simp only [Function.update_of_ne hai]
      exact Nat.lt_succ_of_lt (ht.past a hold)

/-- An operation does all that is expected of it exactly if it does not print the
front of the empty queue. -/
theorem opSound_iff {t : QueueRunState I D} (ht : t.Invariant) (op : QueueOp I D) :
    OpSound t op ↔ ¬PrintsFrontOfEmptyQueue t.container op := by
  rw [← effect_exit_eq_stuck ht.consistent op]
  refine ⟨OpSound.ends, fun hends => ?_⟩
  have horder : ∀ t', t.step op = some t' → t'.InOrder := fun t' hstep =>
    (ht.step hstep).in_order
  rcases effect_cases ht.consistent op with hstuck | htakes |
    ⟨data, listId, i, nextFree, hfull, hi, hnext, hunused, heff⟩
  · exact absurd hstuck hends
  · have hafter := htakes.removal.consistent ht.consistent
    exact
      { ends := hends
        keys_perm := hafter.keys_perm
        ids_nodup := hafter.nodup
        queue_valid := hafter.valid_queue
        fresh := by simp [htakes.appended_eq]
        in_order := horder
        removed_once := by
          simpa [QueueEffect.added, htakes.appended_eq] using htakes.removal.values_perm
        thrown_unchanged := htakes.thrown_unchanged }
  · have hafter := ht.consistent.insert hfull hi hnext hunused
      (s := (⟨i, listId, .floating, data⟩ : QueuedStream I D)) rfl
    refine
      { ends := hends
        keys_perm := by rw [heff]; exact hafter.keys_perm
        ids_nodup := by rw [heff]; exact hafter.nodup
        queue_valid := by rw [heff]; exact hafter.valid_queue
        fresh := ?_
        in_order := horder
        removed_once := ?_
        thrown_unchanged := by simp [heff] }
    · intro j hj
      have hji : i = j := by simpa [heff] using hj
      rw [← hji, ← ht.consistent.mem_streams_iff]
      exact hunused
    · rw [heff]
      simp only [QueueEffect.added, Option.bind_some, AList.lookup_insert, Option.toList_some,
        values_insert_of_notMem hunused, List.nil_append]
      exact List.perm_append_singleton _ _

/-! ## All runs -/

/-- In a run of `QueuedStreams` from the empty object, every operation does what is
expected of it if and only if no `remove_front` has to report that the only stream
held, the one in flight, is not in the drop set. -/
theorem queuedStreams_run_sound_iff (ops : List (QueueOp I D)) :
    AlongRun QueueRunState.step OpSound QueueRunState.init ops ↔
      AlongRun QueueRunState.step (fun t op => ¬PrintsFrontOfEmptyQueue t.container op)
        QueueRunState.init ops :=
  alongRun_iff (fun _ _ _ ht _ hstep => ht.step hstep) (fun _ op ht => opSound_iff ht op) ops
    invariant_init

/-- One stream is appended and shifted into flight; then the player reports another
one as dropped. -/
theorem remove_front_prints_front_of_empty_queue :
    ¬AlongRun QueueRunState.step OpSound
      (QueueRunState.init : QueueRunState (Option (Fin 24)) Unit)
      [.append () {}, .shiftIfNoneFlying, .removeFront {some 5}] := by
  intro h
  exact ((h.2 _ rfl).2 _ rfl).1.ends rfl

end Drcpd.Player

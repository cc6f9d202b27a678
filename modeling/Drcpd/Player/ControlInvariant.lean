/-
  Player/ControlInvariant.lean --- what holds of the operations of a player control.

  All that is said about an operation depends on that operation and on which pointers
  point to it, so that a function that touches one operation and one pointer leaves the
  rest alone.  `Tracked` says that the pointers for prefetching and skipping lead to
  operations whose completion is still to come.
-/
import Drcpd.Player.Control

set_option autoImplicit false

namespace Drcpd.Player

open Crawler (CompletionCallbackFilter Direction OpId OpState OperationBase PositionalState)

namespace Purpose

/-- The operation is one of the skipper's. -/
def isSkipper : Purpose → Bool
  | .skip _ | .jumpBack => true
  | .playing | .prefetch _ | .urisForPlaying | .prefetchedUris _ => false

def isPrefetch : Purpose → Bool
  | .prefetch _ => true
  | .skip _ | .jumpBack | .playing | .urisForPlaying | .prefetchedUris _ => false

/-- The operation finds the item to be played or prefetched next. -/
def isFind : Purpose → Bool
  | .playing | .prefetch _ => true
  | .skip _ | .jumpBack | .urisForPlaying | .prefetchedUris _ => false

def isUris : Purpose → Bool
  | .urisForPlaying | .prefetchedUris _ => true
  | .skip _ | .jumpBack | .playing | .prefetch _ => false

/-- An operation that finds items is none of the others. -/
theorem of_isFind {p : Purpose} (h : p.isFind = true) :
    p.isSkipper = false ∧ p.isUris = false := by
  cases p with
  | playing | prefetch _ => exact ⟨rfl, rfl⟩
  | skip _ | jumpBack | urisForPlaying | prefetchedUris _ => cases h

theorem of_isUris {p : Purpose} (h : p.isUris = true) :
    p.isSkipper = false ∧ p.isFind = false := by
  cases p with
  | urisForPlaying | prefetchedUris _ => exact ⟨rfl, rfl⟩
  | skip _ | jumpBack | playing | prefetch _ => cases h

theorem of_isPrefetch {p : Purpose} (h : p.isPrefetch = true) :
    p.isFind = true ∧ p ≠ .playing := by
  cases p with
  | prefetch _ => exact ⟨rfl, nofun⟩
  | skip _ | jumpBack | playing | urisForPlaying | prefetchedUris _ => cases h

end Purpose

namespace ControlOp

/-- The operation has come to its end. -/
def IsFinished (o : ControlOp) : Prop :=
  o.base.state = .done ∨ o.base.state = .failed ∨ o.base.state = .canceled

/-- The operation is contained in `ops_` and is not cancelled. -/
def IsHeld (o : ControlOp) : Prop := o.isContained = true ∧ o.isOpCanceled = false

/-- The operation has been made, but was not run yet. -/
structure IsUnused (o : ControlOp) : Prop where
  state : o.base.state = .notStarted
  callback : o.base.hasCompletionCallback = true
  notCanceled : o.base.wasCanceledAfterDone = false
  notContained : o.isContained = false
  delayed : o.delayed = none
  notCompleted : o.isCompleted = false

/-- What holds of each operation. -/
structure IsOk (o : ControlOp) : Prop where
  filter : o.base.completionCallbackFilter = .suppressCanceled
  callback : o.isContained = true → o.base.hasCompletionCallback = true
  completed : o.isContained = true → (o.isCompleted = true ↔ o.IsFinished)
  captured : ∀ previousIntention, o.purpose = .skip previousIntention →
    previousIntention.isSkipping = false
  timer : o.delayed ≠ none → o.purpose.isPrefetch = true ∧
    (o.isOpCanceled = false → o.base.state = .notStarted)
  waiting : o.isContained = true → o.base.state = .notStarted → o.delayed = some true

theorem isOpCanceled_eq_false {o : ControlOp} :
    o.isOpCanceled = false ↔ o.base.state ≠ .canceling ∧ o.base.state ≠ .canceled ∧
      o.base.wasCanceledAfterDone = false := by
  unfold isOpCanceled
  rw [Bool.or_eq_false_iff, Bool.or_eq_false_iff, decide_eq_false_iff_not,
    decide_eq_false_iff_not, and_assoc]

/-! ## What the functions of the crawler do to an operation -/

theorem cancel_cases (o : ControlOp) :
    (o.IsFinished ∧ o.cancel.base.state = o.base.state) ∨
    (¬o.IsFinished ∧ o.cancel.base.state = .canceling) := by
  unfold cancel IsFinished OperationBase.cancel
  cases h : o.base.state with
  | notStarted => exact .inr ⟨by simp, rfl⟩
  | running => exact .inr ⟨by simp, rfl⟩
  | done => exact .inl ⟨.inl rfl, rfl⟩
  | failed => exact .inl ⟨.inr (.inl rfl), rfl⟩
  | canceling => exact .inr ⟨by simp, h⟩
  | canceled => exact .inl ⟨.inr (.inr rfl), h⟩

theorem cancel_isFinished (o : ControlOp) : o.cancel.IsFinished ↔ o.IsFinished := by
  rcases o.cancel_cases with ⟨hfinished, hstate⟩ | ⟨hnot, hstate⟩
  · unfold IsFinished
    rw [hstate]
  · refine iff_of_false ?_ hnot
    unfold IsFinished
    rw [hstate]
    simp

/-- An operation that is cancelled says so. -/
theorem cancel_isOpCanceled (o : ControlOp) : o.cancel.isOpCanceled = true := by
  unfold isOpCanceled cancel OperationBase.cancel
  cases h : o.base.state with
  | notStarted => simp
  | running => simp
  | done => simp
  | failed => simp
  | canceling => simp [h]
  | canceled => simp [h]

theorem cancel_callback (o : ControlOp) :
    o.cancel.base.hasCompletionCallback = o.base.hasCompletionCallback := by
  unfold cancel OperationBase.cancel
  split <;> rfl

theorem IsOk.cancel {o : ControlOp} (h : o.IsOk) : o.cancel.IsOk where
  filter := (o.base.cancel_filter).trans h.filter
  callback := by
    intro hcontained
    rw [o.cancel_callback]
    exact h.callback hcontained
  completed := by
    intro hcontained
    exact (h.completed hcontained).trans o.cancel_isFinished.symm
  captured := h.captured
  timer := by
    intro hdelayed
    refine ⟨(h.timer hdelayed).1, fun hnot => ?_⟩
    rw [o.cancel_isOpCanceled] at hnot
    cases hnot
  waiting := fun _ hstate => absurd hstate (OperationBase.cancel_state o.base).1

theorem IsOk.removed {o : ControlOp} (h : o.IsOk) : ({ o with isContained := false }).IsOk where
  filter := h.filter
  callback := nofun
  completed := nofun
  captured := h.captured
  timer := h.timer
  waiting := nofun

/-- An operation that is not contained in `ops_` and has no timer. -/
theorem IsOk.of_gone {o : ControlOp}
    (hfilter : o.base.completionCallbackFilter = .suppressCanceled)
    (hcaptured : ∀ previousIntention, o.purpose = .skip previousIntention →
      previousIntention.isSkipping = false)
    (hgone : o.isContained = false) (hdelayed : o.delayed = none) : o.IsOk where
  filter := hfilter
  callback := fun hyes => absurd (hgone.symm.trans hyes) Bool.false_ne_true
  completed := fun hyes => absurd (hgone.symm.trans hyes) Bool.false_ne_true
  captured := hcaptured
  timer := fun hsome => absurd hdelayed hsome
  waiting := fun hyes => absurd (hgone.symm.trans hyes) Bool.false_ne_true

theorem beginStart_cases (o : ControlOp) :
    (o.base.state = .notStarted ∧
      o.base.beginStart =
        (true, { o.base with state := .running, hasOpDoneNotificationCallback := true })) ∨
    (o.base.state ≠ .notStarted ∧
      o.base.beginStart = (false, { o.base with hasOpDoneNotificationCallback := true })) := by
  by_cases h : o.base.state = .notStarted
  · exact .inl ⟨h, OperationBase.beginStart_of_notStarted h⟩
  · exact .inr ⟨h, OperationBase.beginStart_of_started h⟩

/-- An operation is started only if it is new; otherwise it is removed. -/
theorem start_cases (o : ControlOp) (started : Bool) :
    (o.base.state = .notStarted ∧ o.doStart started = true ∧
      o.start started = (true, { o with
        base := { o.base with state := .running, hasOpDoneNotificationCallback := true } })) ∨
    ((o.start started).1 = false ∧ (o.start started).2.isContained = false ∧
      (o.start started).2.base.completionCallbackFilter = o.base.completionCallbackFilter) := by
  unfold start
  rcases o.beginStart_cases with ⟨hnew, heq⟩ | ⟨-, heq⟩
  · rw [heq]
    dsimp only
    split
    · next hstarted => exact .inl ⟨hnew, hstarted, rfl⟩
    · exact .inr ⟨rfl, rfl, rfl⟩
  · rw [heq]
    exact .inr ⟨rfl, rfl, rfl⟩

theorem start_of_notStarted {o : ControlOp} (h : o.base.state = .notStarted) {started : Bool}
    (hstarted : o.doStart started = true) :
    o.start started = (true, { o with
      base := { o.base with state := .running, hasOpDoneNotificationCallback := true } }) := by
  unfold start
  rw [OperationBase.beginStart_of_notStarted h]
  exact if_pos hstarted

theorem doStart_true (o : ControlOp) : o.doStart true = true := Bool.or_true _

theorem start_same (o : ControlOp) (started : Bool) :
    (o.start started).2.purpose = o.purpose ∧ (o.start started).2.direction = o.direction ∧
      (o.start started).2.isCompleted = o.isCompleted ∧
      (o.start started).2.delayed = o.delayed := by
  unfold start
  split
  · split <;> exact ⟨rfl, rfl, rfl, rfl⟩
  · exact ⟨rfl, rfl, rfl, rfl⟩

theorem IsOk.start {o : ControlOp} (h : o.IsOk) (started : Bool) :
    ({ (o.start started).2 with delayed := none }).IsOk := by
  obtain ⟨hpurpose, -, hcompleted, -⟩ := o.start_same started
  have hcaptured : ∀ previousIntention,
      (o.start started).2.purpose = .skip previousIntention →
        previousIntention.isSkipping = false := by
    rw [hpurpose]
    exact h.captured
  rcases o.start_cases started with ⟨hnew, -, heq⟩ | ⟨-, hremoved, hfilter⟩
  · rw [heq]
    refine ⟨h.filter, h.callback, ?_, h.captured, fun hdelayed => absurd rfl hdelayed,
      fun _ => nofun⟩
    intro hcontained
    have hnot : ¬o.IsFinished := by
      unfold IsFinished
      rw [hnew]
      simp
    refine iff_of_false (fun hyes => hnot ((h.completed hcontained).mp hyes)) ?_
    unfold IsFinished
    simp
  · exact .of_gone (hfilter.trans h.filter) hcaptured hremoved rfl

/-- What the end of its timer does to an operation. -/
def timerEnd (o : ControlOp) (isActive : Bool) : ControlOp :=
  { (if isActive then (o.start true).2 else o) with delayed := none }

/-- An operation that is held when its timer ends is started; any other one is gone
afterwards. -/
theorem IsOk.timerEnd {o : ControlOp} (h : o.IsOk) {isActive : Bool}
    (hdelayed : o.delayed = some isActive) :
    (o.timerEnd isActive).IsOk ∧
      ((o.timerEnd isActive).isContained = true → o.isContained = true) ∧
      (o.timerEnd isActive).purpose = o.purpose ∧
      (o.IsHeld → (o.timerEnd isActive).IsHeld) := by
  have hsome : o.delayed ≠ none := by
    rw [hdelayed]
    exact nofun
  have hnew := (h.timer hsome).2
  cases isActive with
  | true =>
    refine ⟨h.start true, fun hcontained => ?_, (o.start_same true).1, fun hheld => ?_⟩
    · rcases o.start_cases true with ⟨-, -, heq⟩ | ⟨-, hremoved, -⟩
      · exact (congrArg (fun r => isContained r.2) heq).symm.trans hcontained
      · exact absurd (hremoved.symm.trans hcontained) Bool.false_ne_true
    · have hflag := (isOpCanceled_eq_false.mp hheld.2).2.2
      unfold ControlOp.timerEnd
      rw [if_pos rfl, start_of_notStarted (hnew hheld.2) o.doStart_true]
      exact ⟨hheld.1, isOpCanceled_eq_false.mpr ⟨nofun, nofun, hflag⟩⟩
  | false =>
    have hnever : o.isContained = true → o.base.state ≠ .notStarted := by
      intro hcontained hstate
      have hactive := h.waiting hcontained hstate
      exact absurd (hdelayed.symm.trans hactive) nofun
    refine ⟨⟨h.filter, h.callback, h.completed, h.captured, fun hnone => absurd rfl hnone,
      fun hcontained hstate => absurd hstate (hnever hcontained)⟩, id, rfl, fun hheld => ?_⟩
    exact absurd (hnew hheld.2) (hnever hheld.1)

/-- A delayed operation that has to make room is not held any more. -/
theorem IsOk.cancelDelayed {o : ControlOp} (h : o.IsOk) (hpurpose : o.purpose.isPrefetch = true) :
    o.cancelDelayed.IsOk ∧ o.cancelDelayed.isContained = false := by
  have hstate : o.cancel.base.state ≠ .notStarted := (OperationBase.cancel_state o.base).1
  have heq : o.cancelDelayed = { o.cancel with
      delayed := some false
      base := { o.cancel.base with hasOpDoneNotificationCallback := true }
      isContained := false } := by
    unfold ControlOp.cancelDelayed ControlOp.start
    dsimp only
    rw [OperationBase.beginStart_of_started hstate]
  rw [heq]
  refine ⟨⟨h.cancel.filter, nofun, nofun, h.captured, ?_, nofun⟩, rfl⟩
  intro _
  refine ⟨hpurpose, fun hnot => ?_⟩
  have hyes := o.cancel_isOpCanceled
  exact absurd (hnot.symm.trans hyes) Bool.false_ne_true

theorem IsOk.finish {o : ControlOp} (h : o.IsOk)
    (hstate : o.base.state = .running ∨ o.base.state = .canceling) (outcome : OpOutcome) :
    (o.finish outcome).IsOk ∧ (o.finish outcome).IsFinished ∧
      ((o.finish outcome).isOpCanceled = o.isOpCanceled) := by
  have hbase : (o.base.operationFinished outcome.isSuccessful).2.completionCallbackFilter =
        o.base.completionCallbackFilter ∧
      (o.base.operationFinished outcome.isSuccessful).2.hasCompletionCallback =
        o.base.hasCompletionCallback ∧
      (o.base.operationFinished outcome.isSuccessful).2.wasCanceledAfterDone =
        o.base.wasCanceledAfterDone := by
    unfold OperationBase.operationFinished
    split <;> exact ⟨rfl, rfl, rfl⟩
  have hfinished : (o.finish outcome).IsFinished := by
    unfold IsFinished ControlOp.finish OperationBase.operationFinished
    rcases hstate with hrunning | hcanceling
    · rw [hrunning]
      cases outcome.isSuccessful with
      | true => exact .inl rfl
      | false => exact .inr (.inl rfl)
    · rw [hcanceling]
      exact .inr (.inr rfl)
  have hcanceled : (o.finish outcome).isOpCanceled = o.isOpCanceled := by
    unfold isOpCanceled ControlOp.finish
    dsimp only
    rw [hbase.2.2]
    unfold OperationBase.operationFinished
    rcases hstate with hrunning | hcanceling
    · rw [hrunning]
      cases outcome.isSuccessful with
      | true => rfl
      | false => rfl
    · rw [hcanceling]
      rfl
  refine ⟨⟨hbase.1.trans h.filter, ?_, fun _ => iff_of_true rfl hfinished, h.captured, ?_, ?_⟩,
    hfinished, hcanceled⟩
  · intro hcontained
    exact hbase.2.1.trans (h.callback hcontained)
  · intro hdelayed
    obtain ⟨hpurpose, hnotStarted⟩ := h.timer hdelayed
    refine ⟨hpurpose, fun hnot => ?_⟩
    rw [hcanceled] at hnot
    rcases hstate with hrunning | hcanceling
    · rw [hnotStarted hnot] at hrunning
      cases hrunning
    · exact absurd hcanceling (isOpCanceled_eq_false.mp hnot).1
  · intro _ hnew
    rcases hfinished with hdone | hfailed | hcancel
    · exact absurd (hnew.symm.trans hdone) nofun
    · exact absurd (hnew.symm.trans hfailed) nofun
    · exact absurd (hnew.symm.trans hcancel) nofun

/-- The completion callback is called for an operation that was not cancelled before its
end. -/
theorem IsOk.complete {o : ControlOp} (h : o.IsOk) :
    o.complete.2.IsOk ∧ o.complete.2.isContained = false ∧ o.complete.2.isCompleted = false ∧
      o.complete.2.isOpCanceled = o.isOpCanceled ∧ o.complete.2.base.state = o.base.state ∧
      (o.complete.1 = true ↔ o.isContained = true ∧
        (o.base.state = .done ∨ o.base.state = .failed)) := by
  cases hcontained : o.isContained with
  | false =>
    have heq : o.complete = (false, { o with isCompleted := false }) := by
      unfold ControlOp.complete
      rw [if_neg (Bool.eq_false_iff.mp hcontained)]
    rw [heq]
    have hnot : ¬o.isContained = true := Bool.eq_false_iff.mp hcontained
    exact ⟨⟨h.filter, fun hyes => absurd hyes hnot, fun hyes => absurd hyes hnot, h.captured,
      h.timer, fun hyes => absurd hyes hnot⟩, hcontained, rfl, rfl, rfl,
      iff_of_false Bool.false_ne_true fun hyes =>
        Bool.false_ne_true hyes.1⟩
  | true =>
    have heq : o.complete = (o.base.notifyCaller.1,
        { o with base := o.base.notifyCaller.2, isContained := false, isCompleted := false }) := by
      unfold ControlOp.complete
      rw [if_pos hcontained]
    obtain ⟨hstate, hfilter⟩ := o.base.notifyCaller_same
    have hflag : o.base.notifyCaller.2.wasCanceledAfterDone = o.base.wasCanceledAfterDone := by
      unfold OperationBase.notifyCaller
      split <;> rfl
    have hcanceled : isOpCanceled { o with
        base := o.base.notifyCaller.2
        isContained := false
        isCompleted := false } = o.isOpCanceled := by
      unfold isOpCanceled
      dsimp only
      rw [hstate, hflag]
    rw [heq]
    refine ⟨⟨hfilter.trans h.filter, nofun, nofun, h.captured, ?_, nofun⟩, rfl, rfl, hcanceled,
      hstate, ?_⟩
    · intro hdelayed
      refine ⟨(h.timer hdelayed).1, fun hnot => hstate.trans ((h.timer hdelayed).2 ?_)⟩
      exact hcanceled.symm.trans hnot
    · rw [← h.callback hcontained]
      dsimp only
      unfold OperationBase.notifyCaller
      rw [h.callback hcontained, h.filter]
      cases o.base.state with
      | done => simp
      | failed => simp
      | canceled => simp
      | notStarted => simp
      | running => simp
      | canceling => simp

theorem complete_purpose (o : ControlOp) : o.complete.2.purpose = o.purpose := by
  unfold complete
  split <;> rfl

theorem IsUnused.complete {o : ControlOp} (h : o.IsUnused) : o.complete.2.IsUnused := by
  have heq : o.complete = (false, { o with isCompleted := false }) := by
    unfold ControlOp.complete
    rw [if_neg (Bool.eq_false_iff.mp h.notContained)]
  rw [heq]
  exact ⟨h.state, h.callback, h.notCanceled, h.notContained, h.delayed, rfl⟩

end ControlOp

/-! ## The invariant -/

/-- The operations the player control points to. -/
structure Pointers where
  prefetchNextItemOp : Option OpId
  prefetchUrisOp : Option OpId
  findNextOp : Option OpId
  audioSourceSelectedFindOp : Option OpId

/-- Nothing points to the operation. -/
structure Pointers.NoneTo (p : Pointers) (i : OpId) : Prop where
  prefetch : p.prefetchNextItemOp ≠ some i
  uris : p.prefetchUrisOp ≠ some i
  find : p.findNextOp ≠ some i
  saved : p.audioSourceSelectedFindOp ≠ some i

/-- What holds of one operation of a player control. -/
structure TrackedAt (ops : CrawlerOps) (p : Pointers) (isAttached : Prop) (i : OpId) : Prop where
  ok : (ops.op i).IsOk
  /-- The number has not been given away yet. -/
  fresh : ops.next ≤ i → ops.delayedOp ≠ some i ∧ p.NoneTo i
  attached : (ops.op i).isContained = true → isAttached
  prefetch : p.prefetchNextItemOp = some i →
    (ops.op i).IsHeld ∧ (ops.op i).purpose.isFind = true
  uris : p.prefetchUrisOp = some i → (ops.op i).purpose.isUris = true
  find : p.findNextOp = some i → (ops.op i).IsHeld ∧ (ops.op i).purpose.isSkipper = true
  waiting : ops.delayedOp = some i → (ops.op i).purpose.isPrefetch = true
  saved : p.audioSourceSelectedFindOp = some i →
    (ops.op i).IsUnused ∧ (ops.op i).purpose = .playing

/-- The change leaves this operation and the pointers to it alone. -/
structure SameAt (ops ops' : CrawlerOps) (p p' : Pointers) (isAttached isAttached' : Prop)
    (i : OpId) : Prop where
  op : ops'.op i = ops.op i
  next : ops'.next ≤ i → ops.next ≤ i := by exact id
  attached : isAttached → isAttached' := by exact id
  prefetch : p'.prefetchNextItemOp = some i → p.prefetchNextItemOp = some i := by exact id
  uris : p'.prefetchUrisOp = some i → p.prefetchUrisOp = some i := by exact id
  find : p'.findNextOp = some i → p.findNextOp = some i := by exact id
  waiting : ops'.delayedOp = some i → ops.delayedOp = some i := by exact id
  saved : p'.audioSourceSelectedFindOp = some i → p.audioSourceSelectedFindOp = some i := by
    exact id

theorem TrackedAt.frame {ops ops' : CrawlerOps} {p p' : Pointers} {isAttached isAttached' : Prop}
    {i : OpId} (h : TrackedAt ops p isAttached i)
    (hsame : SameAt ops ops' p p' isAttached isAttached' i) :
    TrackedAt ops' p' isAttached' i where
  ok := by
    rw [hsame.op]
    exact h.ok
  fresh := by
    intro hnext
    obtain ⟨hdelayed, hnone⟩ := h.fresh (hsame.next hnext)
    exact ⟨fun hw => hdelayed (hsame.waiting hw),
      fun hp => hnone.prefetch (hsame.prefetch hp), fun hu => hnone.uris (hsame.uris hu),
      fun hf => hnone.find (hsame.find hf), fun hs => hnone.saved (hsame.saved hs)⟩
  attached := by
    rw [hsame.op]
    exact fun hcontained => hsame.attached (h.attached hcontained)
  prefetch := by
    rw [hsame.op]
    exact fun hp => h.prefetch (hsame.prefetch hp)
  uris := by
    rw [hsame.op]
    exact fun hu => h.uris (hsame.uris hu)
  find := by
    rw [hsame.op]
    exact fun hf => h.find (hsame.find hf)
  waiting := by
    rw [hsame.op]
    exact fun hw => h.waiting (hsame.waiting hw)
  saved := by
    rw [hsame.op]
    exact fun hs => h.saved (hsame.saved hs)

namespace Control

def pointers (s : Control) : Pointers :=
  ⟨s.prefetchNextItemOp, s.prefetchUrisOp, s.findNextOp, s.audioSourceSelectedFindOp⟩

/-- There are player data and a crawler. -/
def IsAttached (s : Control) : Prop := s.playerData = true ∧ s.crawlerHandle = true

/-- The invariant, less what it says about the user intention. -/
def Tracked (s : Control) : Prop :=
  s.pendingSkipRequests = 0 ∧ ∀ i, TrackedAt s.ops s.pointers s.IsAttached i

end Control

namespace CrawlerOps

@[simp] theorem modify_op_self (s : CrawlerOps) (i : OpId) (f : ControlOp → ControlOp) :
    (s.modify i f).op i = f (s.op i) := Function.update_self ..

theorem modify_op_of_ne (s : CrawlerOps) {i j : OpId} (h : j ≠ i) (f : ControlOp → ControlOp) :
    (s.modify i f).op j = s.op j := Function.update_of_ne h ..

theorem timer_delayedOp_ne (s : CrawlerOps) (i : OpId) (isActive : Bool) :
    (s.timer i isActive).delayedOp ≠ some i := by
  unfold timer
  dsimp only
  split
  · exact nofun
  · assumption

end CrawlerOps

/-! ## Cancelling -/

/-- An operation nothing points to may be cancelled. -/
theorem TrackedAt.cancel {ops : CrawlerOps} {p p' : Pointers} {isAttached : Prop} {i : OpId}
    (h : TrackedAt ops p isAttached i) (hnone : p'.NoneTo i) :
    TrackedAt (ops.cancel (some i)) p' isAttached i := by
  have hop : (ops.cancel (some i)).op i = (ops.op i).cancel := ops.modify_op_self i _
  refine ⟨?_, ?_, ?_, fun hp => absurd hp hnone.prefetch, fun hu => absurd hu hnone.uris,
    fun hf => absurd hf hnone.find, ?_, fun hs => absurd hs hnone.saved⟩
  · rw [hop]
    exact h.ok.cancel
  · exact fun hnext => ⟨(h.fresh hnext).1, hnone⟩
  · rw [hop]
    exact h.attached
  · rw [hop]
    exact h.waiting

namespace Control

theorem Tracked.modify {s : Control} (h : s.Tracked) {i : OpId} {f : ControlOp → ControlOp}
    (hi : TrackedAt (s.ops.modify i f) s.pointers s.IsAttached i) :
    ({ s with ops := s.ops.modify i f } : Control).Tracked := by
  refine ⟨h.1, fun j => ?_⟩
  by_cases hj : j = i
  · subst hj
    exact hi
  · exact (h.2 j).frame { op := s.ops.modify_op_of_ne hj f }

theorem Tracked.cancel {s : Control} (h : s.Tracked) {o : Option OpId}
    (hnone : ∀ i, o = some i → s.pointers.NoneTo i) :
    ({ s with ops := s.ops.cancel o } : Control).Tracked := by
  cases o with
  | none => exact h
  | some i => exact h.modify ((h.2 i).cancel (hnone i rfl))

/-! The operations pointed to differ in what they are for. -/

theorem Tracked.noneTo_of_prefetch {s : Control} (h : s.Tracked) {i : OpId}
    (hi : s.prefetchNextItemOp = some i) :
    ({ s.pointers with prefetchNextItemOp := none } : Pointers).NoneTo i := by
  obtain ⟨hheld, hpurpose⟩ := (h.2 i).prefetch hi
  obtain ⟨hskipper, huris⟩ := Purpose.of_isFind hpurpose
  refine ⟨nofun, fun hu => ?_, fun hf => ?_, fun hs => ?_⟩
  · exact Bool.false_ne_true (huris.symm.trans ((h.2 i).uris hu))
  · exact Bool.false_ne_true (hskipper.symm.trans ((h.2 i).find hf).2)
  · have hunused := ((h.2 i).saved hs).1.notContained
    exact Bool.false_ne_true (hunused.symm.trans hheld.1)

theorem Tracked.noneTo_of_uris {s : Control} (h : s.Tracked) {i : OpId}
    (hi : s.prefetchUrisOp = some i) :
    ({ s.pointers with prefetchUrisOp := none } : Pointers).NoneTo i := by
  have hpurpose := (h.2 i).uris hi
  obtain ⟨hskipper, hfind⟩ := Purpose.of_isUris hpurpose
  refine ⟨fun hp => ?_, nofun, fun hf => ?_, fun hs => ?_⟩
  · exact Bool.false_ne_true (hfind.symm.trans ((h.2 i).prefetch hp).2)
  · exact Bool.false_ne_true (hskipper.symm.trans ((h.2 i).find hf).2)
  · rw [((h.2 i).saved hs).2] at hpurpose
    cases hpurpose

theorem Tracked.noneTo_of_findNext {s : Control} (h : s.Tracked) {i : OpId}
    (hi : s.findNextOp = some i) :
    ({ s.pointers with findNextOp := none } : Pointers).NoneTo i := by
  obtain ⟨hheld, hpurpose⟩ := (h.2 i).find hi
  refine ⟨fun hp => ?_, fun hu => ?_, nofun, fun hs => ?_⟩
  · have hnot := (Purpose.of_isFind ((h.2 i).prefetch hp).2).1
    exact Bool.false_ne_true (hnot.symm.trans hpurpose)
  · have hnot := (Purpose.of_isUris ((h.2 i).uris hu)).1
    exact Bool.false_ne_true (hnot.symm.trans hpurpose)
  · have hunused := ((h.2 i).saved hs).1.notContained
    exact Bool.false_ne_true (hunused.symm.trans hheld.1)

/-- Pointers may be given up. -/
theorem Tracked.giveUp {s : Control} (h : s.Tracked) {p u f : Option OpId}
    (hp : p = none ∨ p = s.prefetchNextItemOp) (hu : u = none ∨ u = s.prefetchUrisOp)
    (hf : f = none ∨ f = s.findNextOp) :
    ({ s with prefetchNextItemOp := p, prefetchUrisOp := u, findNextOp := f } :
      Control).Tracked := by
  refine ⟨h.1, fun i => (h.2 i).frame { op := rfl, prefetch := ?_, uris := ?_, find := ?_ }⟩
  · rcases hp with rfl | rfl
    · exact nofun
    · exact id
  · rcases hu with rfl | rfl
    · exact nofun
    · exact id
  · rcases hf with rfl | rfl
    · exact nofun
    · exact id

theorem Tracked.cancelPrefetchNextItemOp {s : Control} (h : s.Tracked) :
    ({ s with
      ops := s.ops.cancel s.prefetchNextItemOp
      prefetchNextItemOp := none } : Control).Tracked :=
  (h.giveUp (.inl rfl) (.inr rfl) (.inr rfl)).cancel fun _ hi => h.noneTo_of_prefetch hi

theorem Tracked.cancelPrefetchOps {s : Control} (h : s.Tracked) : s.cancelPrefetchOps.Tracked := by
  have hfirst := h.cancelPrefetchNextItemOp
  refine (hfirst.giveUp (.inl rfl) (.inl rfl) (.inr rfl)).cancel ?_
  intro i hi
  obtain ⟨hprefetch, -, hfind, hsaved⟩ := hfirst.noneTo_of_uris hi
  exact ⟨hprefetch, nofun, hfind, hsaved⟩

theorem Tracked.resetSkipper {s : Control} (h : s.Tracked) : s.resetSkipper.Tracked := by
  refine ⟨rfl, ?_⟩
  have hreset := (h.giveUp (.inr rfl) (.inr rfl) (.inl rfl)).cancel
    fun i hi => h.noneTo_of_findNext hi
  exact hreset.2

end Control

/-! ## New operations -/

namespace CrawlerOps

/-- The operations with one more. -/
def add (s : CrawlerOps) (o : ControlOp) : CrawlerOps :=
  { s.modify s.next fun _ => o with next := s.next + 1 }

@[simp] theorem add_op_next (s : CrawlerOps) (o : ControlOp) : (s.add o).op s.next = o :=
  s.modify_op_self s.next fun _ => o

theorem add_op_of_ne (s : CrawlerOps) (o : ControlOp) {i : OpId} (h : i ≠ s.next) :
    (s.add o).op i = s.op i := s.modify_op_of_ne h fun _ => o

theorem add_modify_next (s : CrawlerOps) (o : ControlOp) (f : ControlOp → ControlOp) :
    (s.add o).modify s.next f = s.add (f o) := by
  unfold modify
  rw [add_op_next]
  unfold add modify
  dsimp only
  rw [Function.update_idem]

end CrawlerOps

/-- An operation as it is after it has been run. -/
def ControlOp.runningOp (purpose : Purpose) (direction : Direction) : ControlOp where
  purpose := purpose
  direction := direction
  base :=
    { state := .running
      completionCallbackFilter := .suppressCanceled
      hasOpDoneNotificationCallback := true }
  isContained := true

theorem ControlOp.runningOp_isOk {purpose : Purpose} (direction : Direction)
    (hcaptured : ∀ previousIntention, purpose = .skip previousIntention →
      previousIntention.isSkipping = false) : (runningOp purpose direction).IsOk where
  filter := rfl
  callback := fun _ => rfl
  completed := by
    intro _
    refine iff_of_false nofun ?_
    rintro (h | h | h)
    · cases h
    · cases h
    · cases h
  captured := hcaptured
  timer := fun h => absurd rfl h
  waiting := fun _ => nofun

theorem ControlOp.runningOp_isHeld (purpose : Purpose) (direction : Direction) :
    (runningOp purpose direction).IsHeld := ⟨rfl, rfl⟩

/-- An operation as it is after it has been run with a delay. -/
def ControlOp.waitingOp (force : Bool) (direction : Direction) : ControlOp where
  purpose := .prefetch force
  direction := direction
  isContained := true
  delayed := some true

theorem ControlOp.waitingOp_isOk (force : Bool) (direction : Direction) :
    (waitingOp force direction).IsOk where
  filter := rfl
  callback := fun _ => rfl
  completed := by
    intro _
    refine iff_of_false nofun ?_
    rintro (h | h | h)
    · cases h
    · cases h
    · cases h
  captured := nofun
  timer := fun _ => ⟨rfl, fun _ => rfl⟩
  waiting := fun _ _ => rfl

theorem ControlOp.waitingOp_isHeld (force : Bool) (direction : Direction) :
    (waitingOp force direction).IsHeld := ⟨rfl, rfl⟩

namespace Control

/-- An operation that has just been made is run. -/
theorem runNow_make (ops : CrawlerOps) (purpose : Purpose) (direction : Direction)
    (started : Bool) :
    (ops.make purpose direction).runNow ops.next started =
      ((ControlOp.start { purpose := purpose, direction := direction, isContained := true }
          started).1,
        ops.add (ControlOp.start
          { purpose := purpose, direction := direction, isContained := true } started).2) := by
  have hnew : (ops.make purpose direction).op ops.next =
      { purpose := purpose, direction := direction } := ops.add_op_next _
  unfold CrawlerOps.runNow
  rw [hnew]
  refine Prod.ext rfl ?_
  exact ops.add_modify_next { purpose := purpose, direction := direction } fun _ => _

/-- A new operation is running, or could not be started. -/
theorem runNew_cases (s : Control) {purpose : Purpose} (direction : Direction) (a : Answers)
    (hcaptured : ∀ previousIntention, purpose = .skip previousIntention →
      previousIntention.isSkipping = false) :
    s.runNew purpose direction a =
      (some s.ops.next, { s with ops := s.ops.add (.runningOp purpose direction) }) ∨
    ∃ o, ControlOp.IsOk o ∧ o.isContained = false ∧ o.isCompleted = false ∧
      o.purpose = purpose ∧
      s.runNew purpose direction a = (none, { s with ops := s.ops.add o }) := by
  unfold Control.runNew
  rw [runNow_make]
  let new : ControlOp := { purpose := purpose, direction := direction, isContained := true }
  obtain ⟨hpurpose, -, hcompleted, hdelayed⟩ := new.start_same a.started
  rcases new.start_cases a.started with ⟨-, -, heq⟩ | ⟨hno, hremoved, hfilter⟩
  · rw [heq]
    exact .inl rfl
  · refine .inr ⟨(new.start a.started).2, .of_gone hfilter ?_ hremoved hdelayed, hremoved,
      hcompleted, hpurpose, ?_⟩
    · rw [hpurpose]
      exact hcaptured
    · rw [hno]
      rfl

/-- A new operation that is not contained in `ops_`, or that is pointed to. -/
theorem Tracked.add {s : Control} (h : s.Tracked) {o : ControlOp} {p : Pointers}
    (hok : o.IsOk) (hattached : o.isContained = true → s.IsAttached)
    (hprefetch : p.prefetchNextItemOp = s.prefetchNextItemOp ∨
      p.prefetchNextItemOp = none ∨
      p.prefetchNextItemOp = some s.ops.next ∧ o.IsHeld ∧ o.purpose.isFind = true)
    (huris : p.prefetchUrisOp = s.prefetchUrisOp ∨
      p.prefetchUrisOp = some s.ops.next ∧ o.purpose.isUris = true)
    (hfind : p.findNextOp = s.findNextOp ∨
      p.findNextOp = some s.ops.next ∧ o.IsHeld ∧ o.purpose.isSkipper = true)
    (hsaved : p.audioSourceSelectedFindOp = s.audioSourceSelectedFindOp ∨
      p.audioSourceSelectedFindOp = some s.ops.next ∧ o.IsUnused ∧ o.purpose = .playing)
    (i : OpId) : TrackedAt (s.ops.add o) p s.IsAttached i := by
  obtain ⟨hwaiting, hnone⟩ := (h.2 s.ops.next).fresh (Nat.le_refl _)
  by_cases hi : i = s.ops.next
  · subst hi
    have hop : (s.ops.add o).op s.ops.next = o := s.ops.add_op_next o
    refine ⟨?_, ?_, ?_, ?_, ?_, ?_, fun heq => absurd heq hwaiting, ?_⟩
    · rw [hop]
      exact hok
    · exact fun hnext => absurd hnext (Nat.not_succ_le_self s.ops.next)
    · rw [hop]
      exact hattached
    · rw [hop]
      intro heq
      rcases hprefetch with hsame | hgone | ⟨-, hnew⟩
      · exact absurd (hsame.symm.trans heq) hnone.prefetch
      · rw [hgone] at heq
        cases heq
      · exact hnew
    · rw [hop]
      intro heq
      rcases huris with hsame | ⟨-, hnew⟩
      · exact absurd (hsame.symm.trans heq) hnone.uris
      · exact hnew
    · rw [hop]
      intro heq
      rcases hfind with hsame | ⟨-, hnew⟩
      · exact absurd (hsame.symm.trans heq) hnone.find
      · exact hnew
    · rw [hop]
      intro heq
      rcases hsaved with hsame | ⟨-, hnew⟩
      · exact absurd (hsame.symm.trans heq) hnone.saved
      · exact hnew
  · have hother : ∀ {q : Option OpId}, q = some s.ops.next → q ≠ some i := by
      rintro q rfl heq
      exact hi (Option.some.inj heq).symm
    refine (h.2 i).frame { op := s.ops.add_op_of_ne o hi, next := ?_, prefetch := ?_,
                           uris := ?_, find := ?_, saved := ?_ }
    · exact fun hnext => Nat.le_of_succ_le hnext
    · intro heq
      rcases hprefetch with hsame | hgone | ⟨hnew, -⟩
      · exact hsame.symm.trans heq
      · rw [hgone] at heq
        cases heq
      · exact absurd heq (hother hnew)
    · intro heq
      rcases huris with hsame | ⟨hnew, -⟩
      · exact hsame.symm.trans heq
      · exact absurd heq (hother hnew)
    · intro heq
      rcases hfind with hsame | ⟨hnew, -⟩
      · exact hsame.symm.trans heq
      · exact absurd heq (hother hnew)
    · intro heq
      rcases hsaved with hsame | ⟨hnew, -⟩
      · exact hsame.symm.trans heq
      · exact absurd heq (hother hnew)

section RunNew

variable {s : Control} {purpose : Purpose} (direction : Direction) (a : Answers)

/-- Running a new operation that nothing points to. -/
theorem Tracked.runNew (h : s.Tracked) (hattached : s.IsAttached)
    (hcaptured : ∀ previousIntention, purpose = .skip previousIntention →
      previousIntention.isSkipping = false) : (s.runNew purpose direction a).2.Tracked := by
  rcases s.runNew_cases direction a hcaptured with heq | ⟨o, hok, -, -, -, heq⟩
  · rw [heq]
    exact ⟨h.1, h.add (ControlOp.runningOp_isOk direction hcaptured) (fun _ => hattached)
      (.inl rfl) (.inl rfl) (.inl rfl) (.inl rfl)⟩
  · rw [heq]
    exact ⟨h.1, h.add hok (fun _ => hattached) (.inl rfl) (.inl rfl) (.inl rfl) (.inl rfl)⟩

/-- A new operation of the skipper that could be started becomes `find_next_op_`. -/
theorem Tracked.runNew_skipper (h : s.Tracked) (hattached : s.IsAttached)
    (hcaptured : ∀ previousIntention, purpose = .skip previousIntention →
      previousIntention.isSkipping = false) (hpurpose : purpose.isSkipper = true) {i : OpId}
    (hi : (s.runNew purpose direction a).1 = some i) :
    ({ (s.runNew purpose direction a).2 with findNextOp := some i } : Control).Tracked := by
  rcases s.runNew_cases direction a hcaptured with heq | ⟨o, -, -, -, -, heq⟩
  · rw [heq] at hi ⊢
    cases hi
    exact ⟨h.1, h.add (ControlOp.runningOp_isOk direction hcaptured) (fun _ => hattached)
      (.inl rfl) (.inl rfl) (.inr ⟨rfl, ControlOp.runningOp_isHeld _ _, hpurpose⟩) (.inl rfl)⟩
  · rw [heq] at hi
    cases hi

/-- What an operation for prefetching has captured is no user intention. -/
theorem captured_of_not_skipper (hpurpose : purpose.isSkipper = false) :
    ∀ previousIntention, purpose = .skip previousIntention →
      previousIntention.isSkipping = false := by
  rintro previousIntention rfl
  cases hpurpose

/-- A new operation that finds an item becomes `prefetch_next_item_op_`, which is null if it
could not be started. -/
theorem Tracked.runNew_find (h : s.Tracked) (hattached : s.IsAttached)
    (hpurpose : purpose.isFind = true) :
    ({ (s.runNew purpose direction a).2 with
      prefetchNextItemOp := (s.runNew purpose direction a).1 } : Control).Tracked := by
  have hcaptured := captured_of_not_skipper (Purpose.of_isFind hpurpose).1
  rcases s.runNew_cases direction a hcaptured with heq | ⟨o, hok, -, -, -, heq⟩
  · rw [heq]
    exact ⟨h.1, h.add (ControlOp.runningOp_isOk direction hcaptured) (fun _ => hattached)
      (.inr (.inr ⟨rfl, ControlOp.runningOp_isHeld _ _, hpurpose⟩)) (.inl rfl) (.inl rfl)
      (.inl rfl)⟩
  · rw [heq]
    exact ⟨h.1, h.add hok (fun _ => hattached) (.inr (.inl rfl)) (.inl rfl) (.inl rfl)
      (.inl rfl)⟩

theorem Tracked.runGetUris (h : s.Tracked) (hattached : s.IsAttached)
    (hpurpose : purpose.isUris = true) : (s.runGetUris purpose direction a).Tracked := by
  have hcaptured := captured_of_not_skipper (Purpose.of_isUris hpurpose).1
  unfold Control.runGetUris
  rcases s.runNew_cases direction a hcaptured with heq | ⟨o, hok, -, -, hsame, heq⟩
  · rw [heq]
    exact ⟨h.1, h.add (ControlOp.runningOp_isOk direction hcaptured) (fun _ => hattached)
      (.inl rfl) (.inr ⟨rfl, hpurpose⟩) (.inl rfl) (.inl rfl)⟩
  · rw [heq]
    refine ⟨h.1, h.add hok (fun _ => hattached) (.inl rfl) (.inr ⟨rfl, ?_⟩) (.inl rfl)
      (.inl rfl)⟩
    rw [hsame]
    exact hpurpose

end RunNew

/-! ## Delayed operations -/

/-- The operation that is waiting has to make room for the next one. -/
theorem Tracked.replaceDelayed {s : Control} (h : s.Tracked) (hnull : s.prefetchNextItemOp = none)
    {w : OpId} (hw : s.ops.delayedOp = some w) :
    ({ s with ops := s.ops.modify w ControlOp.cancelDelayed } : Control).Tracked := by
  have hpurpose := (h.2 w).waiting hw
  obtain ⟨hfind, hplaying⟩ := Purpose.of_isPrefetch hpurpose
  obtain ⟨hskipper, huris⟩ := Purpose.of_isFind hfind
  have hop := s.ops.modify_op_self w ControlOp.cancelDelayed
  obtain ⟨hok, hremoved⟩ := (h.2 w).ok.cancelDelayed hpurpose
  have hsame : (s.ops.op w).cancelDelayed.purpose = (s.ops.op w).purpose :=
    (ControlOp.start_same _ false).1
  refine h.modify ⟨?_, (h.2 w).fresh, ?_, fun hp => ?_, fun hu => ?_, fun hf => ?_, ?_,
    fun hs => ?_⟩
  · rw [hop]
    exact hok
  · rw [hop]
    exact fun hcontained => absurd (hremoved.symm.trans hcontained) Bool.false_ne_true
  · exact absurd (hnull.symm.trans hp) nofun
  · exact absurd (huris.symm.trans ((h.2 w).uris hu)) Bool.false_ne_true
  · exact absurd (hskipper.symm.trans ((h.2 w).find hf).2) Bool.false_ne_true
  · rw [hop, hsame]
    exact (h.2 w).waiting
  · exact absurd ((h.2 w).saved hs).2 hplaying

/-- A new operation starts waiting, and becomes `prefetch_next_item_op_`. -/
theorem Tracked.setDelayed {s : Control} (h : s.Tracked) (hattached : s.IsAttached) {i : OpId}
    (hi : i < s.ops.next) {force : Bool} {direction : Direction}
    (hop : s.ops.op i = { purpose := .prefetch force, direction := direction })
    (hnone : s.pointers.NoneTo i) :
    ({ s with
      ops := { s.ops.modify i fun o => { o with isContained := true, delayed := some true } with
        delayedOp := some i }
      prefetchNextItemOp := some i } : Control).Tracked := by
  refine ⟨h.1, fun j => ?_⟩
  by_cases hj : j = i
  · subst hj
    have hwaits : (s.ops.modify j fun o => { o with isContained := true, delayed := some true }).op
        j = .waitingOp force direction := by
      rw [s.ops.modify_op_self, hop]
      rfl
    have hheld : (ControlOp.waitingOp force direction).IsHeld ∧
        (ControlOp.waitingOp force direction).purpose.isFind = true :=
      ⟨ControlOp.waitingOp_isHeld force direction, rfl⟩
    exact ⟨(congrArg ControlOp.IsOk hwaits).mpr (ControlOp.waitingOp_isOk force direction),
      fun hnext => absurd (Nat.lt_of_lt_of_le hi hnext) (Nat.lt_irrefl _),
      fun _ => hattached,
      fun _ => (congrArg (fun o : ControlOp => o.IsHeld ∧ o.purpose.isFind = true) hwaits).mpr
        hheld,
      fun hu => absurd hu hnone.uris, fun hf => absurd hf hnone.find,
      fun _ => congrArg (fun o : ControlOp => o.purpose.isPrefetch) hwaits,
      fun hs => absurd hs hnone.saved⟩
  · have hother : ∀ {q : Option OpId}, q = some i → q ≠ some j := by
      rintro q rfl heq
      exact hj (Option.some.inj heq).symm
    have hop' := s.ops.modify_op_of_ne hj fun o =>
      { o with isContained := true, delayed := some true }
    exact (h.2 j).frame { op := hop', prefetch := fun heq => absurd heq (hother rfl),
                          waiting := fun heq => absurd heq (hother rfl) }

theorem Tracked.runDelayed {s : Control} (h : s.Tracked) (hattached : s.IsAttached)
    (hnull : s.prefetchNextItemOp = none) (force : Bool) (direction : Direction) :
    ({ s with
      ops := (s.ops.make (.prefetch force) direction).runDelayed s.ops.next
      prefetchNextItemOp := some s.ops.next } : Control).Tracked := by
  obtain ⟨hfree, hnone⟩ := (h.2 s.ops.next).fresh (Nat.le_refl _)
  have hmade : ({ s with ops := s.ops.make (.prefetch force) direction } : Control).Tracked := by
    have hok : ControlOp.IsOk { purpose := .prefetch force, direction := direction } :=
      ⟨rfl, nofun, nofun, nofun, fun hdelayed => absurd rfl hdelayed, nofun⟩
    exact ⟨h.1, h.add hok nofun (.inl rfl) (.inl rfl) (.inl rfl) (.inl rfl)⟩
  have hnew : (s.ops.make (.prefetch force) direction).op s.ops.next =
      { purpose := .prefetch force, direction := direction } := s.ops.add_op_next _
  have hnext : s.ops.next < s.ops.next + 1 := Nat.lt_succ_self _
  cases hw : s.ops.delayedOp with
  | none =>
    have heq : (s.ops.make (.prefetch force) direction).delayedOp = none := hw
    have hset := hmade.setDelayed hattached hnext hnew hnone
    unfold CrawlerOps.runDelayed
    rw [heq]
    exact hset
  | some w =>
    have heq : (s.ops.make (.prefetch force) direction).delayedOp = some w := hw
    have hne : s.ops.next ≠ w := by
      rintro rfl
      exact hfree hw
    have hreplaced := hmade.replaceDelayed hnull heq
    have hset := hreplaced.setDelayed hattached hnext
      (((s.ops.make (.prefetch force) direction).modify_op_of_ne hne _).trans hnew) hnone
    unfold CrawlerOps.runDelayed
    rw [heq]
    exact hset

theorem Tracked.startPrefetchNextItem {s : Control} (h : s.Tracked) (direction : Direction)
    (force : Bool) (execution : Execution) (a : Answers) :
    (s.startPrefetchNextItem direction force execution a).Tracked := by
  unfold Control.startPrefetchNextItem
  split
  · exact h
  · next hcond =>
    simp only [Bool.or_eq_true, Bool.not_eq_true', not_or, Bool.not_eq_false,
      Option.isSome_iff_ne_none, not_not] at hcond
    obtain ⟨⟨⟨⟨⟨hactive, hcrawler⟩, hnull⟩, -⟩, -⟩, -⟩ := hcond
    have hattached : s.IsAttached := by
      unfold isActiveController at hactive
      exact ⟨(Bool.and_eq_true_iff.mp hactive).1, hcrawler⟩
    cases execution with
    | now => exact h.runNew_find direction a hattached rfl
    | delayed => exact h.runDelayed hattached hnull force direction

/-- The end of a timer.  The operation the next item is to come from is started. -/
theorem Tracked.timer {s : Control} (h : s.Tracked) {i : OpId} {isActive : Bool}
    (hdelayed : (s.ops.op i).delayed = some isActive) :
    ({ s with ops := s.ops.timer i isActive } : Control).Tracked := by
  have hsome : (s.ops.op i).delayed ≠ none := by
    rw [hdelayed]
    exact nofun
  obtain ⟨hfind, hplaying⟩ := Purpose.of_isPrefetch ((h.2 i).ok.timer hsome).1
  obtain ⟨hskipper, huris⟩ := Purpose.of_isFind hfind
  obtain ⟨hok, hcontained, hsame, hheld⟩ := (h.2 i).ok.timerEnd hdelayed
  have hop : (s.ops.timer i isActive).op i = (s.ops.op i).timerEnd isActive :=
    s.ops.modify_op_self i (·.timerEnd isActive)
  refine ⟨h.1, fun j => ?_⟩
  by_cases hj : j = i
  · subst hj
    have hwaiting := s.ops.timer_delayedOp_ne j isActive
    refine ⟨?_, fun hnext => ⟨hwaiting, ((h.2 j).fresh hnext).2⟩, ?_, fun hp => ?_, fun hu => ?_,
      fun hf => ?_, fun hw => absurd hw hwaiting, fun hs => ?_⟩
    · rw [hop]
      exact hok
    · rw [hop]
      exact fun hin => (h.2 j).attached (hcontained hin)
    · rw [hop, hsame]
      exact ⟨hheld ((h.2 j).prefetch hp).1, hfind⟩
    · exact absurd (huris.symm.trans ((h.2 j).uris hu)) Bool.false_ne_true
    · exact absurd (hskipper.symm.trans ((h.2 j).find hf).2) Bool.false_ne_true
    · exact absurd ((h.2 j).saved hs).2 hplaying
  · have hother := s.ops.modify_op_of_ne hj fun o =>
      { (if isActive then (o.start true).2 else o) with delayed := none }
    refine (h.2 j).frame { op := hother, waiting := ?_ }
    unfold CrawlerOps.timer
    dsimp only
    split
    · exact nofun
    · exact id

theorem Tracked.finish {s : Control} (h : s.Tracked) {i : OpId}
    (hstate : (s.ops.op i).base.state = .running ∨ (s.ops.op i).base.state = .canceling)
    (outcome : OpOutcome) :
    ({ s with ops := s.ops.modify i (·.finish outcome) } : Control).Tracked := by
  obtain ⟨hok, -, hcanceled⟩ := (h.2 i).ok.finish hstate outcome
  have hheld : (s.ops.op i).IsHeld → ((s.ops.op i).finish outcome).IsHeld :=
    fun hheld => ⟨hheld.1, hcanceled.trans hheld.2⟩
  have hop := s.ops.modify_op_self i (·.finish outcome)
  refine h.modify ⟨?_, (h.2 i).fresh, ?_, fun hp => ?_, ?_, fun hf => ?_, ?_, fun hs => ?_⟩
  · rw [hop]
    exact hok
  · rw [hop]
    exact (h.2 i).attached
  · rw [hop]
    exact ⟨hheld ((h.2 i).prefetch hp).1, ((h.2 i).prefetch hp).2⟩
  · rw [hop]
    exact (h.2 i).uris
  · rw [hop]
    exact ⟨hheld ((h.2 i).find hf).1, ((h.2 i).find hf).2⟩
  · rw [hop]
    exact (h.2 i).waiting
  · have hnew := ((h.2 i).saved hs).1.state
    rcases hstate with hrunning | hcanceling
    · exact absurd (hnew.symm.trans hrunning) nofun
    · exact absurd (hnew.symm.trans hcanceling) nofun

/-- The event for an operation is processed.  Nothing may point to it any more. -/
theorem Tracked.complete {s : Control} (h : s.Tracked) {i : OpId} {p f : Option OpId}
    (hp : p = none ∨ p = s.prefetchNextItemOp) (hpi : p ≠ some i)
    (hf : f = none ∨ f = s.findNextOp) (hfi : f ≠ some i) :
    ({ s with
      ops := s.ops.modify i fun o => o.complete.2
      prefetchNextItemOp := p
      findNextOp := f } : Control).Tracked := by
  have hgiven := h.giveUp hp (.inr rfl) hf
  obtain ⟨hok, hremoved, -⟩ := (h.2 i).ok.complete
  have hop := s.ops.modify_op_self i fun o => o.complete.2
  have hsame : (s.ops.op i).complete.2.purpose = (s.ops.op i).purpose :=
    (s.ops.op i).complete_purpose
  refine hgiven.modify ⟨?_, (hgiven.2 i).fresh, ?_, fun hp => absurd hp hpi, ?_,
    fun hf => absurd hf hfi, ?_, fun hs => ?_⟩
  · rw [hop]
    exact hok
  · rw [hop]
    exact fun hin => absurd (hremoved.symm.trans hin) Bool.false_ne_true
  · rw [hop, hsame]
    exact (h.2 i).uris
  · rw [hop, hsame]
    exact (h.2 i).waiting
  · rw [hop, hsame]
    exact ⟨((h.2 i).saved hs).1.complete, ((h.2 i).saved hs).2⟩

end Control

end Drcpd.Player

/-
  Player/Retry.lean --- how often a stream is retried (`Player::Control::Retry`).

  The retry counter is coupled with the stream that is tracked.  It counts the retries that have
  been granted since it was reset, for whatever streams they were.
-/
import Drcpd.Foundation.Run
import Drcpd.IdTypes

set_option autoImplicit false

namespace Drcpd.Player

open Foundation (AlongRun)

variable {S I : Type} [OurStreamId I] [GenericStreamId S I] [OurStreamGet S I] [DecidableEq I]

/-! ## The counter -/

/-- `Retry::MAX_RETRIES`. -/
def maxRetries : Nat := 2

/-- `Player::Control::Retry`. -/
structure Retry (I : Type) where
  count : Nat
  streamId : I
  deriving DecidableEq, Repr

namespace Retry

/-- `reset`, and the constructor. -/
def reset : Retry I := { count := 0, streamId := OurStreamId.makeInvalid }

/-- `playing`. -/
def playing (r : Retry I) (streamId : S) : Retry I :=
  if GenericStreamId.isValid I streamId then
    { r with streamId := GenericStreamId.ourStream streamId }
  else reset

variable (S) in
/-- `retry`. -/
def retry (r : Retry I) (streamId : I) : Bool × Retry I :=
  if !OurStreamId.isValid streamId then (false, reset)
  else
    let r := if r.streamId ≠ streamId then r.playing (OurStreamGet.get streamId : S) else r
    if maxRetries ≤ r.count then (false, r) else (true, { r with count := r.count + 1 })

end Retry

/-! ## Runs -/

/-- The calls of the functions of `Retry`. -/
inductive RetryEvent (S I : Type) where
  | playing (streamId : S)
  | retry (streamId : I)
  | reset
  deriving DecidableEq, Repr

/-- The retries granted for a stream since it became the tracked one or the counter was reset.
The history has the last call first, with the answers of `retry`. -/
def grants (streamId : I) : List (RetryEvent S I × Bool) → Nat
  | [] => 0
  | (.playing s, _) :: history =>
      if GenericStreamId.isValid I s = true ∧ GenericStreamId.ourStream s = streamId then
        grants streamId history
      else 0
  | (.retry s, granted) :: history =>
      if s = streamId then grants streamId history + granted.toNat else 0
  | (.reset, _) :: _ => 0

/-- The retries granted since the counter was reset, for any stream. -/
def grantsOfAny : List (RetryEvent S I × Bool) → Nat
  | [] => 0
  | (.playing s, _) :: history => if GenericStreamId.isValid I s then grantsOfAny history else 0
  | (.retry s, granted) :: history =>
      if OurStreamId.isValid s then grantsOfAny history + granted.toNat else 0
  | (.reset, _) :: _ => 0

omit [OurStreamGet S I] in
theorem grants_le_grantsOfAny {streamId : I} (hvalid : OurStreamId.isValid streamId = true)
    (history : List (RetryEvent S I × Bool)) :
    grants streamId history ≤ grantsOfAny history := by
  induction history with
  | nil => simp [grants]
  | cons call history ih =>
    obtain ⟨e, granted⟩ := call
    cases e with
    | playing s =>
      by_cases hs : GenericStreamId.isValid I s = true
      · simp only [grants, grantsOfAny, hs, true_and, if_true]
        split
        · exact ih
        · exact Nat.zero_le _
      · simp [grants, hs]
    | retry s =>
      by_cases hs : s = streamId
      · subst hs
        simp only [grants, grantsOfAny, hvalid, if_true]
        exact Nat.add_le_add_right ih _
      · simp [grants, hs]
    | reset => simp [grants]

/-- The counter, with the calls so far. -/
structure RetryRun (S I : Type) where
  retry : Retry I
  history : List (RetryEvent S I × Bool) := []

namespace RetryRun

/-- The start of a run. -/
def init : RetryRun S I := { retry := Retry.reset }

/-- One call. -/
def step (r : RetryRun S I) (e : RetryEvent S I) : Option (RetryRun S I) :=
  match e with
  | .playing s => some { retry := r.retry.playing s, history := (e, false) :: r.history }
  | .retry s =>
      let called := r.retry.retry S s
      some { retry := called.2, history := (e, called.1) :: r.history }
  | .reset => some { retry := Retry.reset, history := (e, false) :: r.history }

/-- What is expected of a call: a retry is granted if the stream has not used up its own. -/
def StepSound (r : RetryRun S I) : RetryEvent S I → Prop
  | .retry s =>
      (r.retry.retry S s).1 = true ↔
        OurStreamId.isValid s = true ∧ grants s r.history < maxRetries
  | .playing _ | .reset => True

/-- The condition on a call: fewer than the maximum of retries have been granted, or the stream
has used them up itself. -/
def Fits (r : RetryRun S I) : RetryEvent S I → Prop
  | .retry s =>
      OurStreamId.isValid s = true →
        grantsOfAny r.history < maxRetries ∨ maxRetries ≤ grants s r.history
  | .playing _ | .reset => True

variable {r r' : RetryRun S I}

/-- The counter counts the retries granted for any stream. -/
def Counts (r : RetryRun S I) : Prop := r.retry.count = grantsOfAny r.history

/-- A retry for a valid stream is granted as long as the counter is below the maximum. -/
theorem retry_of_valid {s : I} (hvalid : OurStreamId.isValid s = true) (c : Retry I) :
    c.retry S s =
      (decide (c.count < maxRetries),
        { count := if c.count < maxRetries then c.count + 1 else c.count, streamId := s }) := by
  have hget : GenericStreamId.isValid I (OurStreamGet.get s : S) = true :=
    OurStreamGet.isValid_get s hvalid
  have hours : GenericStreamId.ourStream (OurStreamGet.get s : S) = s :=
    OurStreamGet.ourStream_get s hvalid
  have htracked : (if c.streamId ≠ s then c.playing (OurStreamGet.get s : S) else c) =
      { c with streamId := s } := by
    by_cases hsame : c.streamId = s
    · simp [← hsame]
    · simp [hsame, Retry.playing, hget, hours]
  unfold Retry.retry
  rw [htracked]
  by_cases hcount : c.count < maxRetries
  · simp [hvalid, hcount]
  · simp [hvalid, hcount, Nat.le_of_not_lt hcount]

theorem Counts.step (h : r.Counts) {e : RetryEvent S I} (hstep : r.step e = some r') :
    r'.Counts := by
  cases e with
  | playing s =>
    cases hstep
    unfold Counts grantsOfAny Retry.playing
    split
    · exact h
    · rfl
  | retry s =>
    cases hstep
    unfold Counts grantsOfAny
    cases hvalid : OurStreamId.isValid s with
    | false => simp [Retry.retry, hvalid, Retry.reset]
    | true =>
      rw [retry_of_valid hvalid, ← h]
      by_cases hcount : r.retry.count < maxRetries
      · simp [hcount]
      · simp [hcount]
  | reset =>
    cases hstep
    rfl

theorem Counts.stepSound_iff (h : r.Counts) (e : RetryEvent S I) : r.StepSound e ↔ r.Fits e := by
  cases e with
  | retry s =>
    unfold StepSound Fits
    cases hvalid : OurStreamId.isValid s with
    | false => simp [Retry.retry, hvalid]
    | true =>
      have hle := grants_le_grantsOfAny hvalid r.history
      have hcount : r.retry.count = grantsOfAny r.history := h
      dsimp only
      rw [retry_of_valid hvalid, hcount]
      simp only [decide_eq_true_eq, hvalid, true_and, true_implies]
      omega
  | _ => exact Iff.rfl

/-- Every stream gets its own retries, in all calls of a run, exactly if no stream asks for one
that others have used up. -/
theorem retry_run_sound_iff (es : List (RetryEvent S I)) :
    AlongRun step StepSound init es ↔ AlongRun step Fits init es := by
  apply Foundation.alongRun_iff (I := Counts)
  · intro r e r' h _ hstep
    exact h.step hstep
  · intro r e h
    exact h.stepSound_iff e
  · rfl

/-- Two retries for one stream, and then another stream is played and fails. -/
theorem retries_shared :
    ¬ ∀ es : List (RetryEvent Nat (Option (Fin 24))), AlongRun step StepSound init es := by
  intro h
  have hrun := h [.retry (some 1), .retry (some 1), .playing 4, .retry (some 2)]
  have hretry := ((((hrun.2 _ rfl).2 _ rfl).2 _ rfl).1).mpr ⟨by decide, by decide⟩
  cases hretry

end RetryRun

end Drcpd.Player

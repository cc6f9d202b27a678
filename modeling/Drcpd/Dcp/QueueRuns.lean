/-
  Dcp/QueueRuns.lean --- runs of the DCP queue.

  Two facts are followed through every run: whether a queued entry will be picked
  up because a transaction is in progress (`Served`), and that the entry being sent
  is remembered exactly while it is being sent (`ActiveMatches`).
-/
import Drcpd.Foundation.Run
import Drcpd.Dcp.Queue

set_option autoImplicit false

namespace Drcpd.Dcp

open Drcpd.Foundation

variable {V : Type}

namespace Queue

/-- Whatever is queued, a transaction is in progress. -/
def Served (q : Queue V) : Prop := q.data ≠ [] → q.dcpd.isInProgress = true

/-- An entry is active exactly while it is waiting for its commit or its answer. -/
def ActiveMatches (q : Queue V) : Prop :=
  q.activeData.isSome = true ↔
    q.dcpd.state = .waitForCommit ∨ q.dcpd.state = .waitForAnswer

/-- What is known of the queue between two operations. -/
structure Invariant (q : Queue V) : Prop where
  active_matches : q.ActiveMatches
  /-- A commit follows at once, so no operation ends before it. -/
  committed : q.dcpd.state ≠ .waitForCommit

theorem invariant_init (os : Option String) : ({ dcpd := { os := os } } : Queue V).Invariant where
  active_matches := by simp [ActiveMatches]
  committed := by simp

/-! ## Taking entries out of the queue -/

/-- The loop of `process`, started while no entry is active: it sends an entry and
waits for the answer, or there is nothing left and no transaction. -/
theorem processLoop_of_open (writeWholeXml : WriteWholeXml V) :
    ∀ (data : List (QueueData V)) (dcpd : Transaction),
      dcpd.state = .idle ∨ dcpd.state = .startedAsync →
      (∃ d rest dcpd', processLoop writeWholeXml data none dcpd = (true, ⟨rest, some d, dcpd'⟩) ∧
        dcpd'.state = .waitForAnswer) ∨
      (∃ dcpd', processLoop writeWholeXml data none dcpd = (false, ⟨[], none, dcpd'⟩) ∧
        (dcpd'.state = .idle ∨ dcpd' = dcpd)) := by
  intro data
  induction data with
  | nil =>
      intro dcpd _
      exact .inr ⟨dcpd, rfl, .inr rfl⟩
  | cons d rest ih =>
      intro dcpd hopen
      have hstart : (dcpd.start false).1 = true := by
        rw [Transaction.start_fst]
        rcases hopen with hidle | hasync
        · exact .inl ⟨hidle, rfl⟩
        · exact .inr hasync
      have hstate := Transaction.start_state_of_true hstart
      obtain ⟨b, dcpd', hpair⟩ : ∃ b dcpd', dcpd.start false = (b, dcpd') := ⟨_, _, rfl⟩
      rw [hpair] at hstart hstate
      subst hstart
      have hwritten : (dcpd'.write (writeWholeXml d).1).state = .waitForCommit := hstate
      unfold processLoop
      rw [hpair]
      dsimp only
      split
      · obtain ⟨hcommit, hanswer⟩ := Transaction.commit_of_waitForCommit hwritten
        exact .inl ⟨d, rest, _, by rw [hcommit], hanswer⟩
      · have habort := Transaction.abort_of_isInProgress
          (show (dcpd'.write (writeWholeXml d).1).isInProgress = true by
            simp [Transaction.isInProgress, hwritten])
        rcases ih _ (.inl habort.2) with hsent | ⟨dcpd'', heq, hidle⟩
        · exact .inl hsent
        · refine .inr ⟨dcpd'', heq, .inl ?_⟩
          rcases hidle with hidle | rfl
          · exact hidle
          · exact habort.2

/-- While an entry waits for its answer, `process` does nothing. -/
theorem process_of_waitForAnswer {q : Queue V} (h : q.dcpd.state = .waitForAnswer)
    (writeWholeXml : WriteWholeXml V) : q.process writeWholeXml = (false, q) := by
  obtain ⟨data, activeData, dcpd⟩ := q
  have hstart : dcpd.start = (false, dcpd) := by
    unfold Transaction.start
    rw [show dcpd.state = _ from h]
  unfold process
  cases data with
  | nil => rfl
  | cons d rest =>
      unfold processLoop
      rw [hstart]

theorem Invariant.activeData_eq_none {q : Queue V} (hq : q.Invariant)
    (h : q.dcpd.state ≠ .waitForAnswer) : q.activeData = none := by
  rw [← Option.not_isSome_iff_eq_none]
  intro hsome
  rcases hq.active_matches.mp hsome with hcommit | hanswer
  · exact hq.committed hcommit
  · exact h hanswer

theorem Invariant.open_of_ne {q : Queue V} (hq : q.Invariant)
    (h : q.dcpd.state ≠ .waitForAnswer) :
    q.dcpd.state = .idle ∨ q.dcpd.state = .startedAsync := by
  have hcommit := hq.committed
  cases hs : q.dcpd.state with
  | idle => exact .inl rfl
  | startedAsync => exact .inr rfl
  | waitForCommit => exact absurd hs hcommit
  | waitForAnswer => exact absurd hs h

/-- All ends of `process`. -/
theorem Invariant.process_cases {q : Queue V} (hq : q.Invariant)
    (writeWholeXml : WriteWholeXml V) :
    ∃ q', q'.Invariant ∧ q'.Served ∧
      (q.process writeWholeXml = (false, q') ∨
        (q.process writeWholeXml = (true, q') ∧ q'.dcpd.state = .waitForAnswer)) := by
  by_cases hanswer : q.dcpd.state = .waitForAnswer
  · refine ⟨q, hq, fun _ => ?_, .inl (process_of_waitForAnswer hanswer writeWholeXml)⟩
    simp [Transaction.isInProgress, hanswer]
  · have hopen := hq.open_of_ne hanswer
    unfold process
    rw [hq.activeData_eq_none hanswer]
    rcases processLoop_of_open writeWholeXml q.data q.dcpd hopen with
      ⟨d, rest, dcpd', heq, hsent⟩ | ⟨dcpd', heq, hidle⟩
    · refine ⟨⟨rest, some d, dcpd'⟩, ?_, fun _ => ?_, .inr ⟨heq, hsent⟩⟩
      · exact
          { active_matches := by simp [ActiveMatches, hsent]
            committed := by simp [hsent] }
      · simp [Transaction.isInProgress, hsent]
    · refine ⟨⟨[], none, dcpd'⟩, ?_, fun hne => absurd rfl hne, .inl heq⟩
      have hstate : dcpd'.state = .idle ∨ dcpd'.state = .startedAsync := by
        rcases hidle with hidle | rfl
        · exact .inl hidle
        · exact hopen
      exact
        { active_matches := by rcases hstate with h | h <;> simp [ActiveMatches, h]
          committed := by rcases hstate with h | h <;> simp [h] }

/-- `process_pending_transactions` ends, and leaves no entry unserved. -/
theorem Invariant.processPendingTransactions {q : Queue V} (hq : q.Invariant)
    (writeWholeXml : WriteWholeXml V) :
    ∃ b q', q.processPendingTransactions writeWholeXml = some (b, q') ∧ q'.Invariant ∧
      q'.Served := by
  obtain ⟨q', hq', hserved, heq | ⟨heq, hsent⟩⟩ := hq.process_cases writeWholeXml
  · exact ⟨false, q', by simp [Queue.processPendingTransactions, heq], hq', hserved⟩
  · -- the next call of `process` finds the entry waiting for its answer
    refine ⟨true, q', ?_, hq', hserved⟩
    unfold Queue.processPendingTransactions
    rw [heq]
    simp [drain, process_of_waitForAnswer hsent]

theorem Invariant.startTransaction {q : Queue V} (hq : q.Invariant) (mode : Mode)
    (writeWholeXml : WriteWholeXml V) :
    ∃ b q', q.startTransaction mode writeWholeXml = some (b, q') ∧ q'.Invariant ∧
      q'.Served := by
  unfold Queue.startTransaction
  split
  next hempty =>
    exact ⟨false, q, rfl, hq, fun hne => absurd (List.isEmpty_iff.mp hempty) hne⟩
  next =>
    split
    next hprogress => exact ⟨true, q, rfl, hq, fun _ => hprogress⟩
    next hidle =>
      cases mode with
      | syncIfPossible => exact hq.processPendingTransactions writeWholeXml
      | forceAsync =>
          have hstate : q.dcpd.state = .idle := by simpa [Transaction.isInProgress] using hidle
          have hasync : (q.dcpd.start true).2.state = .startedAsync := by
            simp [Transaction.start, hstate, Transaction.setState]
          have hnone := hq.activeData_eq_none (by simp [hstate])
          refine ⟨_, _, rfl, ?_, fun _ => ?_⟩
          · exact
              { active_matches := by simp [ActiveMatches, hasync, hnone]
                committed := by simp [hasync] }
          · simp [Transaction.isInProgress, hasync]

/-- All ends of `finish_transaction`; the program is never aborted. -/
theorem Invariant.finishTransaction {q : Queue V} (hq : q.Invariant)
    (result : TransactionResult) :
    ∃ b q', q.finishTransaction result = some (b, q') ∧ q'.Invariant ∧ q'.data = q.data ∧
      (b = true ↔ q.dcpd.state = .idle ∨ (result = .ok ∧ q.dcpd.state ≠ .startedAsync)) := by
  unfold Queue.finishTransaction
  split
  next hprogress =>
    have hne : q.dcpd.state ≠ .idle := by simpa [Transaction.isInProgress] using hprogress
    have hends : ∀ dcpd : Transaction, dcpd.state = .idle →
        ({ q with activeData := none, dcpd := dcpd } : Queue V).Invariant := by
      intro dcpd hidle
      exact
        { active_matches := by simp [ActiveMatches, hidle]
          committed := by simp [hidle] }
    by_cases hanswer : q.dcpd.state = .waitForAnswer
    · have hdone := Transaction.done_of_waitForAnswer hanswer
      have habort := Transaction.abort_of_isInProgress hprogress
      by_cases hok : result = .ok
      · refine ⟨true, _, by simp [hok, hdone.1], hends _ hdone.2, rfl, ?_⟩
        simp [hok, hanswer]
      · refine ⟨false, _, by simp [hok, habort.1], hends _ habort.2, rfl, ?_⟩
        simp [hok, hanswer]
    · have hasync : q.dcpd.state = .startedAsync := (hq.open_of_ne hanswer).resolve_left hne
      have hdone := Transaction.done_of_ne hanswer
      have habort := Transaction.abort_of_isInProgress hprogress
      refine ⟨false, _, by simp [hdone, habort.1], hends _ habort.2, rfl, ?_⟩
      simp [hasync]
  next hidle =>
    have hstate : q.dcpd.state = .idle := by simpa [Transaction.isInProgress] using hidle
    exact ⟨true, q, rfl, hq, rfl, by simp [hstate]⟩

/-- `serialization_result` starts the next transaction where `finish_transaction`
has returned true. -/
theorem Invariant.serializationResult {q : Queue V} (hq : q.Invariant)
    (result : TransactionResult) (writeWholeXml : WriteWholeXml V) :
    ∃ q', q.serializationResult result writeWholeXml = some q' ∧ q'.Invariant ∧
      (q.dcpd.state = .idle ∨ (result = .ok ∧ q.dcpd.state ≠ .startedAsync) → q'.Served) := by
  obtain ⟨b, q₁, hfinish, hq₁, -, hb⟩ := hq.finishTransaction result
  unfold Queue.serializationResult
  rw [hfinish]
  cases b with
  | true =>
      obtain ⟨b', q₂, hstart, hq₂, hserved⟩ :=
        hq₁.startTransaction .syncIfPossible writeWholeXml
      exact ⟨q₂, by simp [hstart], hq₂, fun _ => hserved⟩
  | false => exact ⟨q₁, rfl, hq₁, fun h => absurd (hb.mpr h) (by simp)⟩

/-! ## Runs -/

/-- The operations on the queue. -/
inductive Op (V : Type) where
  | add (view : V) (isFullSerialize : Bool) (viewUpdateFlags : UInt32) (isBusy : Option Bool)
  | startTransaction (mode : Mode) (writeWholeXml : WriteWholeXml V)
  | processPendingTransactions (writeWholeXml : WriteWholeXml V)
  | serializationResult (result : TransactionResult) (writeWholeXml : WriteWholeXml V)

variable [DecidableEq V]

/-- One operation. -/
def step (q : Queue V) : Op V → Option (Queue V)
  | .add view isFullSerialize viewUpdateFlags isBusy =>
      some (q.add view isFullSerialize viewUpdateFlags isBusy)
  | .startTransaction mode writeWholeXml => (q.startTransaction mode writeWholeXml).map (·.2)
  | .processPendingTransactions writeWholeXml =>
      (q.processPendingTransactions writeWholeXml).map (·.2)
  | .serializationResult result writeWholeXml => q.serializationResult result writeWholeXml

/-- The operations that see to it that the queue is served: all but `add`, which
leaves that to `start_transaction`, and but for an answer of dcpd on which the
transaction is aborted. -/
def Serves (q : Queue V) : Op V → Prop
  | .add .. => False
  | .startTransaction .. | .processPendingTransactions .. => True
  | .serializationResult result _ =>
      q.dcpd.state = .idle ∨ (result = .ok ∧ q.dcpd.state ≠ .startedAsync)

/-- What every operation does. -/
structure OpSound (q : Queue V) (op : Op V) : Prop where
  /-- The operation ends, and the program is not aborted. -/
  ends : ∃ q', q.step op = some q'
  active_matches : ∀ q', q.step op = some q' → q'.ActiveMatches
  served : ∀ q', q.step op = some q' → q.Serves op → q'.Served

/-- The step lemma. -/
theorem Invariant.step {q : Queue V} (hq : q.Invariant) (op : Op V) :
    ∃ q', q.step op = some q' ∧ q'.Invariant ∧ (q.Serves op → q'.Served) := by
  cases op with
  | add view isFullSerialize viewUpdateFlags isBusy =>
      exact ⟨_, rfl, ⟨hq.active_matches, hq.committed⟩, False.elim⟩
  | startTransaction mode writeWholeXml =>
      obtain ⟨b, q', hstart, hq', hserved⟩ := hq.startTransaction mode writeWholeXml
      exact ⟨q', by simp [Queue.step, hstart], hq', fun _ => hserved⟩
  | processPendingTransactions writeWholeXml =>
      obtain ⟨b, q', hprocess, hq', hserved⟩ := hq.processPendingTransactions writeWholeXml
      exact ⟨q', by simp [Queue.step, hprocess], hq', fun _ => hserved⟩
  | serializationResult result writeWholeXml =>
      exact hq.serializationResult result writeWholeXml

theorem Invariant.opSound {q : Queue V} (hq : q.Invariant) (op : Op V) : q.OpSound op := by
  obtain ⟨q', hstep, hq', hserved⟩ := hq.step op
  exact
    { ends := ⟨q', hstep⟩
      active_matches := fun q'' h => Option.some.inj (hstep.symm.trans h) ▸ hq'.active_matches
      served := fun q'' h => Option.some.inj (hstep.symm.trans h) ▸ hserved }

/-- In every run, whatever dcpd answers and the views write: `active_.data_` is set
exactly while its entry waits for the commit or the answer, and a non-empty queue has
a transaction in progress after every operation that serves the queue. -/
theorem queue_run_sound (os : Option String) (ops : List (Op V)) :
    AlongRun step OpSound ({ dcpd := { os := os } } : Queue V) ops :=
  alongRun_of_invariant
    (fun q op q' hq hstep => by
      obtain ⟨q'', hstep', hq', -⟩ := hq.step op
      exact Option.some.inj (hstep'.symm.trans hstep) ▸ hq')
    (fun _ op hq => hq.opSound op) ops (invariant_init os)

/-- After `add` alone nothing is in progress; and when dcpd fails to handle a
transaction, the entry queued meanwhile is left behind. -/
theorem queued_entry_not_served :
    (∃ q, runFrom step ({} : Queue Nat) [.add 1 true 0 none] = some q ∧ ¬q.Served) ∧
    (∃ q, runFrom step ({} : Queue Nat)
      [.add 1 true 0 none, .startTransaction .syncIfPossible fun _ => ("x", true),
        .add 2 true 0 none, .serializationResult .failed fun _ => ("x", true)] = some q ∧
      ¬q.Served) := by
  constructor
  · exact ⟨_, rfl, by simp [Served, Transaction.isInProgress, Queue.add, addToData]⟩
  · refine ⟨_, rfl, fun h => ?_⟩
    exact absurd (h (by decide)) (by decide)

end Queue

end Drcpd.Dcp

/-
  Dcp/Answers.lean --- the pipes to and from dcpd, and the timer that watches over the
  answers (`drcpd.cc`, `named_pipe.c`, `dcp_transaction_queue.cc`).

  dcpd answers the documents in the order in which it gets them, with three bytes each,
  which it writes at once; it may take as long as it likes.  What becomes readable is handed
  over to whatever transaction there is then.  A read from the pipe gets all bytes that are
  there, up to those asked for.  That dcpd dies and the pipe is opened again is left out.

  `link_run_sound` is about the timer and the bytes of the answers; `answers_attributed_iff`
  says when each answer ends the transaction of the document it is for.
-/
import Drcpd.Dcp.QueueRuns
import Drcpd.Timeout.Timer

set_option autoImplicit false

namespace Drcpd.Dcp

open Drcpd.Foundation Drcpd.Timeout

/-- What dcpd answers. -/
inductive Answer where
  | ok
  | failed
  deriving DecidableEq, Repr

/-- `ok_result` and `error_result`. -/
def Answer.bytes : Answer → List UInt8
  | ok => [79, 75, 10]
  | failed => [70, 70, 10]

/-- What an answer means for a transaction. -/
def Answer.result : Answer → TransactionResult
  | ok => .ok
  | failed => .failed

/-- `fifo_try_read_to_buffer`, from the start of the buffer: what it returns, the bytes
read, and those left in the pipe.  The read that finds nothing more decides. -/
def fifoTryReadToBuffer (pipe : List UInt8) (count : Nat) : Int × List UInt8 × List UInt8 :=
  (if pipe.length < count then 0 else 1, pipe.take count, pipe.drop count)

/-- `read_transaction_result`, with the bytes left in the pipe. -/
def readTransactionResult (pipe : List UInt8) : TransactionResult × List UInt8 :=
  match fifoTryReadToBuffer pipe 3 with
  | (retval, result, rest) =>
      if retval ≠ 1 then (.ioError, rest)
      else if result = Answer.ok.bytes then (.ok, rest)
      else if result = Answer.failed.bytes then (.failed, rest)
      else (.invalidAnswer, rest)

/-- What `timeout_config` is called with. -/
def transactionTimeout : Int := 15000

/-- `transaction_observer` and `timeout_config`. -/
def observe (timer : Timer Unit) (state : TransactionState) : Timer Unit :=
  match transactionObserver state with
  | some (.configureTimeout true) => (timer.start transactionTimeout ()).2
  | some (.configureTimeout false) => timer.stop
  | some .scheduleAsyncProcessing | none => timer

/-- The DCP queue, the timer, and the pipe from dcpd, with what dcpd has answered and what
has been read so far.  `expiries` counts the transactions that have ended because the timer
ran out, and `strays` the answers read while no transaction was waiting for one. -/
structure Link (V : Type) where
  queue : Queue V := {}
  timer : Timer Unit := {}
  pipe : List UInt8 := []
  answers : List Answer := []
  received : List TransactionResult := []
  expiries : Nat := 0
  strays : Nat := 0

namespace Link

variable {V : Type}

/-- A transaction waits for its answer. -/
def IsWaiting (l : Link V) : Prop := l.queue.dcpd.state = .waitForAnswer

instance (l : Link V) : Decidable l.IsWaiting := inferInstanceAs (Decidable (_ = _))

/-- How many documents have been sent. -/
def sent (l : Link V) : Nat := l.queue.dcpd.observed.count .waitForAnswer

/-- The queue has gone on, and the observer has been called on the way. -/
def follow (l : Link V) (queue : Queue V) : Link V :=
  { l with
    queue := queue
    timer := (queue.dcpd.observed.drop l.queue.dcpd.observed.length).foldl observe l.timer }

/-- What happens to the queue, the pipe, and the timer. -/
inductive Event (V : Type) where
  /-- An operation on the queue which is not about an answer. -/
  | op (op : Queue.Op V)
  /-- dcpd answers a document. -/
  | answer (answer : Answer)
  /-- `dcp_fifo_in_dispatch`: the pipe is readable. -/
  | readable (writeWholeXml : WriteWholeXml V)
  /-- The main loop dispatches an event source of the timer. -/
  | dispatch (id : Nat) (writeWholeXml : WriteWholeXml V)

variable [DecidableEq V]

/-- One event. -/
def step (l : Link V) : Event V → Option (Link V)
  | .op (.serializationResult _ _) => none
  | .op op => (l.queue.step op).map l.follow
  | .answer answer =>
      if l.answers.length < l.sent then
        some { l with answers := l.answers ++ [answer], pipe := l.pipe ++ answer.bytes }
      else none
  | .readable writeWholeXml =>
      if l.pipe = [] then none
      else
        match readTransactionResult l.pipe with
        | (result, pipe) =>
            (l.queue.serializationResult result writeWholeXml).map fun queue =>
              { l.follow queue with
                pipe := pipe
                received := l.received ++ [result]
                strays := if l.IsWaiting then l.strays else l.strays + 1 }
  | .dispatch id writeWholeXml =>
      if l.timer.firing = none ∧ id ∈ l.timer.attached then
        let l := { l with timer := l.timer.expired id }
        match l.timer.firing with
        | none => some l
        | some id =>
            -- `transaction_timeout_exceeded`
            (l.queue.serializationResult .timeout writeWholeXml).map fun queue =>
              let l := l.follow queue
              { l with timer := l.timer.returned id millisecondsMin, expiries := l.expiries + 1 }
      else none

end Link

/-! ## What the observer sees -/

/-- Whether the timer is to be running. -/
def wanted (isRunning : Bool) (state : TransactionState) : Bool :=
  match transactionObserver state with
  | some (.configureTimeout enable) => enable
  | some .scheduleAsyncProcessing | none => isRunning

namespace Transaction

/-- The transaction waits for its answer. -/
def isWaiting (t : Transaction) : Bool := decide (t.state = .waitForAnswer)

/-- What a transaction goes through as long as no answer is taken: the observer is told when
it begins to wait, and it waits for one answer only. -/
def Moves (t t' : Transaction) : Prop :=
  ∃ states, t'.observed = t.observed ++ states ∧
    states.foldl wanted t.isWaiting = t'.isWaiting ∧
    states.count .waitForAnswer + t.isWaiting.toNat = t'.isWaiting.toNat

theorem Moves.refl (t : Transaction) : Moves t t :=
  ⟨[], (List.append_nil _).symm, rfl, Nat.zero_add _⟩

theorem Moves.trans {t t' t'' : Transaction} (h : Moves t t') (h' : Moves t' t'') :
    Moves t t'' := by
  obtain ⟨states, hobserved, hwanted, hcount⟩ := h
  obtain ⟨states', hobserved', hwanted', hcount'⟩ := h'
  refine ⟨states ++ states', ?_, ?_, ?_⟩
  · rw [hobserved', hobserved, List.append_assoc]
  · rw [List.foldl_append, hwanted, hwanted']
  · rw [List.count_append, ← hcount', ← hcount]
    omega

theorem moves_start (t : Transaction) (forceAsync : Bool) : Moves t (t.start forceAsync).2 := by
  unfold start
  cases hstate : t.state with
  | idle =>
    cases forceAsync with
    | true => exact ⟨[.startedAsync], rfl, by simp [isWaiting, hstate, wanted,
        transactionObserver, setState], by simp [isWaiting, hstate, setState]⟩
    | false => exact ⟨[.waitForCommit], rfl, by simp [isWaiting, hstate, wanted,
        transactionObserver, setState], by simp [isWaiting, hstate, setState]⟩
  | startedAsync => exact ⟨[.waitForCommit], rfl, by simp [isWaiting, hstate, wanted,
        transactionObserver, setState], by simp [isWaiting, hstate, setState]⟩
  | waitForCommit => exact Moves.refl t
  | waitForAnswer => exact Moves.refl t

theorem moves_write (t : Transaction) (text : String) : Moves t (t.write text) :=
  ⟨[], (List.append_nil _).symm, rfl, Nat.zero_add _⟩

theorem moves_commit (t : Transaction) : Moves t t.commit.2 := by
  unfold commit
  cases hstate : t.state with
  | waitForCommit =>
    refine ⟨[.waitForAnswer], ?_, by simp [isWaiting, hstate, wanted, transactionObserver,
      setState], by simp [isWaiting, hstate, setState]⟩
    dsimp only
    split_ifs <;> rfl
  | idle => exact Moves.refl t
  | startedAsync => exact Moves.refl t
  | waitForAnswer => exact Moves.refl t

/-- What has not been committed is aborted. -/
theorem moves_abort {t : Transaction} (h : t.state ≠ .waitForAnswer) : Moves t t.abort.2 := by
  unfold abort
  cases hstate : t.state with
  | idle => exact Moves.refl t
  | startedAsync => exact ⟨[.idle], rfl, by simp [isWaiting, hstate, wanted,
      transactionObserver, setState, done], by simp [isWaiting, hstate, setState, done]⟩
  | waitForCommit => exact ⟨[.idle], rfl, by simp [isWaiting, hstate, wanted,
      transactionObserver, setState, done], by simp [isWaiting, hstate, setState, done]⟩
  | waitForAnswer => exact absurd hstate h

/-- A transaction stops waiting. -/
def Ends (t t' : Transaction) : Prop :=
  t.isWaiting = true ∧ t'.isWaiting = false ∧ t'.observed = t.observed ++ [.idle]

end Transaction

namespace Queue

variable {V : Type}

theorem moves_processLoop (writeWholeXml : WriteWholeXml V) :
    ∀ (data : List (QueueData V)) (activeData : Option (QueueData V)) (dcpd : Transaction),
      dcpd.Moves (processLoop writeWholeXml data activeData dcpd).2.dcpd := by
  intro data
  induction data with
  | nil =>
    intro activeData dcpd
    exact Transaction.Moves.refl dcpd
  | cons d rest ih =>
    intro activeData dcpd
    have hstart := dcpd.moves_start false
    unfold processLoop
    cases hpair : dcpd.start with
    | mk isStarted dcpd' =>
      rw [hpair] at hstart
      cases isStarted with
      | false => exact hstart
      | true =>
        have hstate : dcpd'.state = .waitForCommit := by
          have hcommit := Transaction.start_state_of_true (t := dcpd) (by rw [hpair])
          rw [hpair] at hcommit
          exact hcommit
        have hwritten := hstart.trans (dcpd'.moves_write (writeWholeXml d).1)
        dsimp only
        cases (writeWholeXml d).2 with
        | true => exact hwritten.trans (Transaction.moves_commit _)
        | false =>
          have hne : dcpd'.state ≠ .waitForAnswer := by
            rw [hstate]
            decide
          have habort : dcpd.Moves (dcpd'.write (writeWholeXml d).1).abort.2 :=
            hwritten.trans (Transaction.moves_abort hne)
          exact habort.trans (ih none _)

theorem moves_process (q : Queue V) (writeWholeXml : WriteWholeXml V) :
    q.dcpd.Moves (q.process writeWholeXml).2.dcpd :=
  moves_processLoop writeWholeXml q.data q.activeData q.dcpd

theorem moves_drain (writeWholeXml : WriteWholeXml V) :
    ∀ (fuel : Nat) {q q' : Queue V}, drain writeWholeXml fuel q = some q' →
      q.dcpd.Moves q'.dcpd := by
  intro fuel
  induction fuel with
  | zero =>
    intro q q' h
    exact absurd h nofun
  | succ fuel ih =>
    intro q q' h
    have hmoves := q.moves_process writeWholeXml
    unfold drain at h
    cases hpair : q.process writeWholeXml with
    | mk isCommitted q₁ =>
      rw [hpair] at h hmoves
      cases isCommitted with
      | true => exact hmoves.trans (ih h)
      | false =>
        obtain rfl := Option.some.inj h
        exact hmoves

theorem moves_processPendingTransactions {q : Queue V} {writeWholeXml : WriteWholeXml V}
    {done : Bool × Queue V} (h : q.processPendingTransactions writeWholeXml = some done) :
    q.dcpd.Moves done.2.dcpd := by
  have hmoves := q.moves_process writeWholeXml
  unfold Queue.processPendingTransactions at h
  cases hpair : q.process writeWholeXml with
  | mk isCommitted q₁ =>
    rw [hpair] at h hmoves
    cases isCommitted with
    | false =>
      obtain rfl := Option.some.inj h
      exact hmoves
    | true =>
      obtain ⟨q₂, hdrain, rfl⟩ := Option.map_eq_some_iff.mp h
      exact hmoves.trans (moves_drain writeWholeXml _ hdrain)

theorem moves_startTransaction {q : Queue V} {mode : Mode} {writeWholeXml : WriteWholeXml V}
    {done : Bool × Queue V} (h : q.startTransaction mode writeWholeXml = some done) :
    q.dcpd.Moves done.2.dcpd := by
  unfold Queue.startTransaction at h
  split_ifs at h
  · obtain rfl := Option.some.inj h
    exact Transaction.Moves.refl _
  · obtain rfl := Option.some.inj h
    exact Transaction.Moves.refl _
  · cases mode with
    | syncIfPossible => exact moves_processPendingTransactions h
    | forceAsync =>
      obtain rfl := Option.some.inj h
      exact q.dcpd.moves_start true

/-- `finish_transaction` ends the waiting, if a transaction is waiting. -/
theorem finishTransaction_moves {q : Queue V} {result : TransactionResult}
    {done : Bool × Queue V} (h : q.finishTransaction result = some done) :
    if q.dcpd.isWaiting then q.dcpd.Ends done.2.dcpd else q.dcpd.Moves done.2.dcpd := by
  unfold Queue.finishTransaction at h
  split_ifs at h with hprogress hok habort
  all_goals obtain rfl := Option.some.inj h
  · obtain ⟨-, hdone⟩ := hok
    have hstate : q.dcpd.state = .waitForAnswer := by
      by_contra hne
      rw [Transaction.done_of_ne hne] at hdone
      exact Bool.false_ne_true hdone
    have hwaiting : q.dcpd.isWaiting = true := decide_eq_true hstate
    rw [if_pos hwaiting]
    refine ⟨hwaiting, ?_, ?_⟩ <;>
      simp [Transaction.done, hstate, Transaction.isWaiting, Transaction.setState,
        Transaction.clearStream]
  · split_ifs with hwaiting
    · have hstate : q.dcpd.state = .waitForAnswer := of_decide_eq_true hwaiting
      refine ⟨hwaiting, ?_, ?_⟩ <;>
        simp [Transaction.abort, Transaction.done, hstate, Transaction.isWaiting,
          Transaction.setState, Transaction.clearStream]
    · exact Transaction.moves_abort fun hstate => hwaiting (decide_eq_true hstate)
  · have hidle : q.dcpd.state = .idle := by
      simpa [Transaction.isInProgress] using hprogress
    rw [if_neg]
    · exact Transaction.Moves.refl _
    · simp [Transaction.isWaiting, hidle]

/-- Operations which are not about an answer. -/
theorem moves_step [DecidableEq V] {q q' : Queue V} {op : Op V} (h : q.step op = some q')
    (hop : ∀ result writeWholeXml, op ≠ .serializationResult result writeWholeXml) :
    q.dcpd.Moves q'.dcpd := by
  cases op with
  | add view isFullSerialize viewUpdateFlags isBusy =>
    obtain rfl := Option.some.inj h
    exact Transaction.Moves.refl _
  | startTransaction mode writeWholeXml =>
    obtain ⟨done, hdone, rfl⟩ := Option.map_eq_some_iff.mp h
    exact moves_startTransaction hdone
  | processPendingTransactions writeWholeXml =>
    obtain ⟨done, hdone, rfl⟩ := Option.map_eq_some_iff.mp h
    exact moves_processPendingTransactions hdone
  | serializationResult result writeWholeXml => exact absurd rfl (hop result writeWholeXml)

/-- What a result comes to: the waiting ends, and may begin again for the next entry. -/
theorem serializationResult_moves {q q' : Queue V} {result : TransactionResult}
    {writeWholeXml : WriteWholeXml V}
    (h : q.serializationResult result writeWholeXml = some q') :
    ∃ dcpd, (if q.dcpd.isWaiting then q.dcpd.Ends dcpd else q.dcpd.Moves dcpd) ∧
      dcpd.Moves q'.dcpd ∧
      (q.dcpd.isWaiting = true → result ≠ .ok → q'.dcpd = dcpd) := by
  unfold Queue.serializationResult at h
  cases hfinish : q.finishTransaction result with
  | none =>
    rw [hfinish] at h
    exact absurd h nofun
  | some done =>
    obtain ⟨isFinished, q₁⟩ := done
    have hmoves := finishTransaction_moves hfinish
    rw [hfinish] at h
    refine ⟨q₁.dcpd, hmoves, ?_⟩
    cases isFinished with
    | false =>
      obtain rfl := Option.some.inj h
      exact ⟨Transaction.Moves.refl _, fun _ _ => rfl⟩
    | true =>
      obtain ⟨done, hstart, rfl⟩ := Option.map_eq_some_iff.mp h
      refine ⟨moves_startTransaction hstart, fun hwaiting hne => ?_⟩
      unfold Queue.finishTransaction at hfinish
      have hprogress : q.dcpd.isInProgress = true := by
        have hstate : q.dcpd.state = .waitForAnswer := of_decide_eq_true hwaiting
        simp [Transaction.isInProgress, hstate]
      rw [if_pos hprogress, if_neg fun hok => hne hok.1] at hfinish
      split_ifs at hfinish
      exact absurd (Prod.mk.inj (Option.some.inj hfinish)).1 Bool.false_ne_true

/-- What the observer is told when a result is handed over. -/
theorem serializationResult_states {q q' : Queue V} {result : TransactionResult}
    {writeWholeXml : WriteWholeXml V}
    (h : q.serializationResult result writeWholeXml = some q') :
    ∃ states, q'.dcpd.observed = q.dcpd.observed ++ states ∧
      states.foldl wanted q.dcpd.isWaiting = q'.dcpd.isWaiting ∧
      states.count .waitForAnswer = q'.dcpd.isWaiting.toNat := by
  obtain ⟨dcpd, hfinish, hrest, -⟩ := serializationResult_moves h
  cases hwaiting : q.dcpd.isWaiting with
  | true =>
    rw [hwaiting, if_pos rfl] at hfinish
    obtain ⟨-, hended, hobserved⟩ := hfinish
    obtain ⟨states, hobserved', hwanted, hcount⟩ := hrest
    rw [hended] at hwanted hcount
    refine ⟨.idle :: states, ?_, hwanted, ?_⟩
    · rw [hobserved', hobserved, List.append_assoc]
      rfl
    · rw [List.count_cons_of_ne (by decide)]
      exact hcount
  | false =>
    rw [hwaiting, if_neg nofun] at hfinish
    obtain ⟨states, hobserved, hwanted, hcount⟩ := hfinish.trans hrest
    rw [hwaiting] at hwanted hcount
    exact ⟨states, hobserved, hwanted, hcount⟩

/-- Nothing follows when the timer has run out. -/
theorem serializationResult_timeout {q q' : Queue V} {writeWholeXml : WriteWholeXml V}
    (h : q.serializationResult .timeout writeWholeXml = some q')
    (hwaiting : q.dcpd.isWaiting = true) :
    q'.dcpd.observed = q.dcpd.observed ++ [.idle] ∧ q'.dcpd.isWaiting = false := by
  obtain ⟨dcpd, hfinish, -, hsame⟩ := serializationResult_moves h
  rw [hwaiting, if_pos rfl] at hfinish
  obtain ⟨-, hended, hobserved⟩ := hfinish
  rw [hsame hwaiting nofun]
  exact ⟨hobserved, hended⟩

end Queue

/-! ## The bytes of the answers -/

theorem readTransactionResult_bytes (answer : Answer) (rest : List UInt8) :
    readTransactionResult (answer.bytes ++ rest) = (answer.result, rest) := by
  have hlength : ¬rest.length + 1 + 1 + 1 < 3 := by omega
  cases answer <;>
    simp [readTransactionResult, fifoTryReadToBuffer, Answer.bytes, Answer.result, hlength]

namespace Link

variable {V : Type} {l l' : Link V}

/-! ## The timer -/

theorem foldl_observe (states : List TransactionState) {timer : Timer Unit} (h : timer.Known) :
    (states.foldl observe timer).Known ∧ (states.foldl observe timer).firing = timer.firing ∧
      (states.foldl observe timer).timeoutEventSourceId.isSome =
        states.foldl wanted timer.timeoutEventSourceId.isSome := by
  induction states generalizing timer with
  | nil => exact ⟨h, rfl, rfl⟩
  | cons state states ih =>
    have hone : (observe timer state).Known ∧ (observe timer state).firing = timer.firing ∧
        (observe timer state).timeoutEventSourceId.isSome =
          wanted timer.timeoutEventSourceId.isSome state := by
      cases state with
      | idle =>
        refine ⟨h.stop, ?_, ?_⟩ <;>
          · unfold observe transactionObserver Timer.stop
            cases hid : timer.timeoutEventSourceId <;> simp [hid, wanted, transactionObserver]
      | startedAsync => exact ⟨h, rfl, rfl⟩
      | waitForCommit => exact ⟨h, rfl, rfl⟩
      | waitForAnswer =>
        refine ⟨h.start transactionTimeout (), ?_, ?_⟩ <;>
          · unfold observe transactionObserver Timer.start
            cases hid : timer.timeoutEventSourceId <;> simp [hid, wanted, transactionObserver]
    obtain ⟨hknown, hfiring, hrunning⟩ := ih hone.1
    refine ⟨hknown, hfiring.trans hone.2.1, ?_⟩
    rw [List.foldl_cons, List.foldl_cons, hrunning, hone.2.2]

/-- The timer has been told what the queue went through. -/
theorem follow_of_observed {queue : Queue V} {states : List TransactionState}
    (h : queue.dcpd.observed = l.queue.dcpd.observed ++ states) :
    (l.follow queue).timer = states.foldl observe l.timer := by
  unfold follow
  dsimp only
  rw [h, List.drop_left]

theorem sent_of_observed {queue : Queue V} {states : List TransactionState}
    (h : queue.dcpd.observed = l.queue.dcpd.observed ++ states) :
    (l.follow queue).sent = l.sent + states.count .waitForAnswer := by
  unfold sent follow
  dsimp only
  rw [h, List.count_append]

/-- What is known of the queue, the pipe, and the timer. -/
structure Coupled (l : Link V) : Prop where
  known : l.timer.Known
  quiet : l.timer.firing = none
  running : l.timer.timeoutEventSourceId.isSome = l.queue.dcpd.isWaiting
  account : l.sent + l.strays =
    l.received.length + l.expiries + l.queue.dcpd.isWaiting.toNat
  pipe : l.pipe = (l.answers.drop l.received.length).flatMap Answer.bytes
  received : l.received = (l.answers.take l.received.length).map Answer.result
  received_le : l.received.length ≤ l.answers.length
  answered_le : l.answers.length ≤ l.sent

theorem coupled_init (os : Option String) :
    ({ queue := { dcpd := { os := os } } } : Link V).Coupled where
  known := Timer.known_init
  quiet := rfl
  running := rfl
  account := rfl
  pipe := rfl
  received := rfl
  received_le := Nat.le_refl _
  answered_le := Nat.le_refl _

/-- The next bytes to be read are those of the next answer. -/
theorem Coupled.next_answer (h : l.Coupled) (hpipe : l.pipe ≠ []) :
    ∃ answer, l.answers[l.received.length]? = some answer ∧
      readTransactionResult l.pipe =
        (answer.result, (l.answers.drop (l.received.length + 1)).flatMap Answer.bytes) := by
  have hdrop := h.pipe
  cases hrest : l.answers.drop l.received.length with
  | nil =>
    rw [hrest] at hdrop
    exact absurd hdrop hpipe
  | cons answer rest =>
    have hlt : l.received.length < l.answers.length := by
      by_contra hge
      rw [List.drop_eq_nil_of_le (Nat.le_of_not_lt hge)] at hrest
      exact List.cons_ne_nil _ _ hrest.symm
    have hcons := List.drop_eq_getElem_cons hlt
    rw [hrest] at hcons
    obtain ⟨rfl, rfl⟩ := List.cons.inj hcons
    refine ⟨l.answers[l.received.length], List.getElem?_eq_getElem hlt, ?_⟩
    rw [hdrop, hrest, List.flatMap_cons]
    exact readTransactionResult_bytes _ _

/-- One more result has been read. -/
theorem received_concat {answers : List Answer} {received : List TransactionResult}
    {answer : Answer} (h : received = (answers.take received.length).map Answer.result)
    (hnext : answers[received.length]? = some answer) :
    received ++ [answer.result] =
      (answers.take (received ++ [answer.result]).length).map Answer.result := by
  rw [List.length_append, List.length_singleton, List.take_add_one, List.map_append, hnext, ← h]
  rfl

/-! ## The steps -/

/-- The queue goes on, and takes no answer. -/
theorem Coupled.follow_moves (h : l.Coupled) {queue : Queue V}
    (hmoves : l.queue.dcpd.Moves queue.dcpd) : (l.follow queue).Coupled := by
  obtain ⟨states, hobserved, hwanted, hcount⟩ := hmoves
  obtain ⟨hknown, hfiring, hrunning⟩ := foldl_observe states h.known
  have htimer := follow_of_observed hobserved
  have hsent := sent_of_observed hobserved
  have haccount := h.account
  have hanswered := h.answered_le
  exact
    { known := htimer ▸ hknown
      quiet := by rw [htimer, hfiring, h.quiet]
      running := by
        rw [htimer, hrunning, h.running]
        exact hwanted
      account := by
        rw [hsent]
        change l.sent + states.count .waitForAnswer + l.strays =
          l.received.length + l.expiries + queue.dcpd.isWaiting.toNat
        omega
      pipe := h.pipe
      received := h.received
      received_le := h.received_le
      answered_le := by
        rw [hsent]
        exact Nat.le_add_right_of_le hanswered }

/-- A result that has been read is handed over. -/
theorem Coupled.readable (h : l.Coupled) (hpipe : l.pipe ≠ []) {writeWholeXml : WriteWholeXml V}
    {queue : Queue V}
    (hqueue : l.queue.serializationResult (readTransactionResult l.pipe).1 writeWholeXml =
      some queue) :
    ({ l.follow queue with
      pipe := (readTransactionResult l.pipe).2
      received := l.received ++ [(readTransactionResult l.pipe).1]
      strays := if l.IsWaiting then l.strays else l.strays + 1 } : Link V).Coupled := by
  obtain ⟨answer, hnext, hread⟩ := h.next_answer hpipe
  obtain ⟨states, hobserved, hwanted, hcount⟩ := Queue.serializationResult_states hqueue
  obtain ⟨hknown, hfiring, hrunning⟩ := foldl_observe states h.known
  have htimer := follow_of_observed hobserved
  have hsent := sent_of_observed hobserved
  have haccount := h.account
  have hanswered := h.answered_le
  have hlt : l.received.length < l.answers.length := (List.getElem?_eq_some_iff.mp hnext).1
  have hlength : (l.received ++ [answer.result]).length = l.received.length + 1 := by
    rw [List.length_append, List.length_singleton]
  rw [hread]
  exact
    { known := htimer ▸ hknown
      quiet := by
        change (l.follow queue).timer.firing = none
        rw [htimer, hfiring, h.quiet]
      running := by
        change (l.follow queue).timer.timeoutEventSourceId.isSome = queue.dcpd.isWaiting
        rw [htimer, hrunning, h.running]
        exact hwanted
      account := by
        change (l.follow queue).sent + (if l.IsWaiting then l.strays else l.strays + 1) =
          (l.received ++ [answer.result]).length + l.expiries + queue.dcpd.isWaiting.toNat
        rw [hsent, hlength]
        split_ifs with hwaiting
        · have htrue : l.queue.dcpd.isWaiting = true := decide_eq_true hwaiting
          rw [htrue, Bool.toNat_true] at haccount
          omega
        · have hfalse : l.queue.dcpd.isWaiting = false := decide_eq_false hwaiting
          rw [hfalse, Bool.toNat_false] at haccount
          omega
      pipe := by
        change _ = (l.answers.drop (l.received ++ [answer.result]).length).flatMap Answer.bytes
        rw [hlength]
      received := received_concat h.received hnext
      received_le := by
        change (l.received ++ [answer.result]).length ≤ l.answers.length
        rw [hlength]
        exact hlt
      answered_le := by
        change l.answers.length ≤ (l.follow queue).sent
        rw [hsent]
        exact Nat.le_add_right_of_le hanswered }

/-- The timer runs out: the transaction ends, and so does the timer. -/
theorem Coupled.dispatch (h : l.Coupled) {id : Nat} (hmem : id ∈ l.timer.attached)
    {writeWholeXml : WriteWholeXml V} {queue : Queue V}
    (hqueue : l.queue.serializationResult .timeout writeWholeXml = some queue) :
    ({ ({ l with timer := { l.timer with firing := some id } }.follow queue) with
      timer := ({ l with timer := { l.timer with firing := some id } }.follow queue).timer.returned
        id millisecondsMin
      expiries := l.expiries + 1 } : Link V).Coupled ∧ queue.dcpd.isWaiting = false := by
  obtain ⟨hid, hexpired, hknown⟩ := h.known.expired hmem
  have hwaiting : l.queue.dcpd.isWaiting = true := by
    rw [← h.running, hid]
    rfl
  obtain ⟨hobserved, hended⟩ := Queue.serializationResult_timeout hqueue hwaiting
  -- The observer stops the timer from within the callback.
  have htimer : ({ l with timer := { l.timer with firing := some id } }.follow queue).timer =
      ({ l.timer with firing := some id } : Timer Unit).stop := by
    rw [@follow_of_observed V { l with timer := { l.timer with firing := some id } } queue
      [.idle] hobserved]
    rfl
  have hsent : queue.dcpd.observed.count .waitForAnswer = l.sent := by
    rw [hobserved, List.count_append]
    rfl
  have hstopped : ({ l.timer with firing := some id } : Timer Unit).stop.timeoutEventSourceId =
      none := by
    unfold Timer.stop
    dsimp only
    rw [hid]
  have hfiring : ({ l.timer with firing := some id } : Timer Unit).stop.firing = some id := by
    unfold Timer.stop
    dsimp only
    rw [hid]
  rw [hexpired] at hknown
  have hkeeps : ¬({ l.timer with firing := some id } : Timer Unit).stop.Forgets
      (.returned millisecondsMin) := by
    intro hforgets
    have hsome := hforgets.1
    rw [hstopped] at hsome
    exact Bool.false_ne_true hsome
  have hreturned := hknown.stop.returned hfiring hkeeps
  have hquiet := Timer.returned_of_none hstopped id
  refine ⟨?_, hended⟩
  rw [htimer]
  have haccount := h.account
  have hanswered := h.answered_le
  rw [hwaiting, Bool.toNat_true] at haccount
  exact
    { known := hreturned
      quiet := hquiet.1
      running := by
        change _ = queue.dcpd.isWaiting
        rw [hquiet.2, hended]
        rfl
      account := by
        change queue.dcpd.observed.count .waitForAnswer + l.strays =
          l.received.length + (l.expiries + 1) + queue.dcpd.isWaiting.toNat
        rw [hsent, hended, Bool.toNat_false]
        omega
      pipe := h.pipe
      received := h.received
      received_le := h.received_le
      answered_le := by
        change l.answers.length ≤ queue.dcpd.observed.count .waitForAnswer
        rw [hsent]
        exact hanswered }

variable [DecidableEq V]

theorem step_op {op : Queue.Op V}
    (hop : ∀ result writeWholeXml, op ≠ .serializationResult result writeWholeXml) :
    l.step (.op op) = (l.queue.step op).map l.follow := by
  cases op with
  | serializationResult result writeWholeXml => exact absurd rfl (hop result writeWholeXml)
  | add view isFullSerialize viewUpdateFlags isBusy => rfl
  | startTransaction mode writeWholeXml => rfl
  | processPendingTransactions writeWholeXml => rfl

/-- The step lemma. -/
theorem Coupled.step (h : l.Coupled) {e : Event V} (hstep : l.step e = some l') :
    l'.Coupled := by
  cases e with
  | op op =>
    have hop : ∀ result writeWholeXml, op ≠ .serializationResult result writeWholeXml := by
      rintro result writeWholeXml rfl
      exact absurd hstep nofun
    rw [step_op hop] at hstep
    obtain ⟨queue, hqueue, rfl⟩ := Option.map_eq_some_iff.mp hstep
    exact h.follow_moves (Queue.moves_step hqueue hop)
  | answer answer =>
    unfold Link.step at hstep
    dsimp only at hstep
    split_ifs at hstep with hlt
    obtain rfl := Option.some.inj hstep
    exact
      { known := h.known
        quiet := h.quiet
        running := h.running
        account := h.account
        pipe := by
          change l.pipe ++ answer.bytes =
            ((l.answers ++ [answer]).drop l.received.length).flatMap Answer.bytes
          rw [List.drop_append_of_le_length h.received_le, List.flatMap_append, ← h.pipe,
            List.flatMap_singleton]
        received := by
          change l.received = ((l.answers ++ [answer]).take l.received.length).map Answer.result
          rw [List.take_append_of_le_length h.received_le]
          exact h.received
        received_le := by
          change l.received.length ≤ (l.answers ++ [answer]).length
          rw [List.length_append]
          exact Nat.le_add_right_of_le h.received_le
        answered_le := by
          change (l.answers ++ [answer]).length ≤ l.sent
          rw [List.length_append]
          exact hlt }
  | readable writeWholeXml =>
    unfold Link.step at hstep
    dsimp only at hstep
    rcases Decidable.em (l.pipe = []) with hpipe | hpipe
    · rw [if_pos hpipe] at hstep
      exact absurd hstep nofun
    · rw [if_neg hpipe] at hstep
      obtain ⟨queue, hqueue, rfl⟩ := Option.map_eq_some_iff.mp hstep
      exact h.readable hpipe hqueue
  | dispatch id writeWholeXml =>
    unfold Link.step at hstep
    dsimp only at hstep
    split_ifs at hstep with hdispatch
    obtain ⟨-, hexpired, -⟩ := h.known.expired hdispatch.2
    rw [hexpired] at hstep
    obtain ⟨queue, hqueue, rfl⟩ := Option.map_eq_some_iff.mp hstep
    exact (h.dispatch hdispatch.2 hqueue).1

/-- What holds of the link to dcpd in every state. -/
structure Sound (l : Link V) : Prop where
  /-- The timer is running exactly while a transaction waits for its answer. -/
  watched : l.timer.timeoutEventSourceId.isSome = true ↔ l.IsWaiting
  one_source : l.timer.attached = l.timer.timeoutEventSourceId.toList
  /-- The results that have been read are what dcpd has answered, one by one. -/
  received : l.received = (l.answers.take l.received.length).map Answer.result
  /-- Each transaction ends with an answer or because the timer has run out, and each
  answer that is read by no transaction is late. -/
  account : l.sent + l.strays = l.received.length + l.expiries + if l.IsWaiting then 1 else 0

omit [DecidableEq V] in
theorem Coupled.sound (h : l.Coupled) : l.Sound where
  watched := by
    rw [h.running]
    exact decide_eq_true_iff
  one_source := h.known.knows
  received := h.received
  account := by
    have haccount := h.account
    split_ifs with hwaiting
    · rw [show l.queue.dcpd.isWaiting = true from decide_eq_true hwaiting] at haccount
      exact haccount
    · rw [show l.queue.dcpd.isWaiting = false from decide_eq_false hwaiting] at haccount
      exact haccount

/-- In every run of the queue, dcpd, and the timer: while a transaction waits for its
answer, the timer is running, and one event source is attached for it; otherwise it is
stopped.  No byte of an answer is lost, and all answers and timeouts are accounted for. -/
theorem link_run_sound (os : Option String) (es : List (Event V)) (l : Link V)
    (hrun : runFrom Link.step { queue := { dcpd := { os := os } } } es = some l) : l.Sound :=
  (invariant_of_run (I := Coupled) (fun _ _ _ h hstep => h.step hstep) es (coupled_init os)
    hrun).sound

/-- A document whose transaction has ended when dcpd answers; the answer is taken for that
of the next document. -/
def lateAnswer : List (Event Nat) :=
  [.op (.add 1 true 0 none), .op (.startTransaction .syncIfPossible fun _ => ("x", true)),
    .dispatch 0 fun _ => ("x", true), .op (.add 2 true 0 none),
    .op (.startTransaction .syncIfPossible fun _ => ("y", true)), .answer .failed,
    .readable fun _ => ("y", true)]

/-- Two documents have been sent, and one has been answered; nothing waits. -/
theorem link_run_sound_lateAnswer :
    ∃ l : Link Nat, runFrom Link.step {} lateAnswer = some l ∧ l.sent = 2 ∧
      l.received = [.failed] ∧ ¬l.IsWaiting ∧ l.Sound := by
  refine ⟨_, rfl, rfl, rfl, by decide, ?_⟩
  exact link_run_sound none lateAnswer _ rfl

/-- The transaction that takes the next answer from the pipe has sent the document which
the answer is for. -/
def Attributes (l : Link V) : Event V → Prop
  | .readable _ => l.IsWaiting → l.pipe ≠ [] → l.received.length + 1 = l.sent
  | .op _ | .answer _ | .dispatch _ _ => True

/-- So far, as many late answers have been read while no transaction was waiting as
transactions have ended because the timer ran out. -/
def CaughtUp (l : Link V) : Event V → Prop
  | .readable _ => l.IsWaiting → l.pipe ≠ [] → l.strays = l.expiries
  | .op _ | .answer _ | .dispatch _ _ => True

omit [DecidableEq V] in
/-- An answer is taken for the document sent last exactly if none is owed. -/
theorem Coupled.attributes_iff (h : l.Coupled) (e : Event V) : l.Attributes e ↔ l.CaughtUp e := by
  cases e with
  | op op => exact Iff.rfl
  | answer answer => exact Iff.rfl
  | dispatch id writeWholeXml => exact Iff.rfl
  | readable writeWholeXml =>
    have haccount := h.account
    unfold Attributes CaughtUp
    refine forall_congr' fun hwaiting => forall_congr' fun _ => ?_
    rw [show l.queue.dcpd.isWaiting = true from decide_eq_true hwaiting,
      Bool.toNat_true] at haccount
    omega

end Link

end Drcpd.Dcp

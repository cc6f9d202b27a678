/-
  Dcp/Transaction.lean --- one transmission to dcpd (`dcp_transaction.hh`,
  `dcp_transaction.cc`).

  The string stream a view writes into and the output stream to dcpd are strings;
  an output stream that was never set is `none`.  The observer passed to the
  constructor is represented by the list of states it was called with.
-/
import Mathlib.Data.String.Defs

set_option autoImplicit false

namespace Drcpd.Dcp

/-- `Transaction::state`. -/
inductive TransactionState where
  | idle
  | startedAsync
  | waitForCommit
  | waitForAnswer
  deriving DecidableEq, Repr

/-- `Transaction::Result`. -/
inductive TransactionResult where
  | ok
  | failed
  | timeout
  | invalidAnswer
  | ioError
  deriving DecidableEq, Repr

/-- `DCP::Transaction`. -/
structure Transaction where
  os : Option String := none
  sstr : String := ""
  state : TransactionState := .idle
  observed : List TransactionState := []
  deriving DecidableEq, Repr

namespace Transaction

/-- `set_state`. -/
def setState (t : Transaction) (s : TransactionState) : Transaction :=
  { t with state := s, observed := t.observed ++ [s] }

/-- `clear_stream` on the string stream. -/
def clearStream (t : Transaction) : Transaction := { t with sstr := "" }

/-- What a view writes to `stream()`. -/
def write (t : Transaction) (text : String) : Transaction := { t with sstr := t.sstr ++ text }

/-- `is_in_progress`. -/
def isInProgress (t : Transaction) : Bool := decide (t.state ≠ .idle)

/-- `is_started_async`. -/
def isStartedAsync (t : Transaction) : Bool := decide (t.state = .startedAsync)

/-- `start`. -/
def start (t : Transaction) (forceAsync : Bool := false) : Bool × Transaction :=
  match t.state with
  | .idle =>
      if forceAsync then (false, t.clearStream.setState .startedAsync)
      else (true, t.clearStream.setState .waitForCommit)
  | .startedAsync => (true, t.setState .waitForCommit)
  | .waitForCommit | .waitForAnswer => (false, t)

/-- The header and the document `commit` puts out. -/
def frame (document : String) : String :=
  "Size: " ++ toString document.utf8ByteSize ++ "\n" ++ document

/-- `commit`. -/
def commit (t : Transaction) : Bool × Transaction :=
  match t.state with
  | .waitForCommit =>
      let t' :=
        if t.sstr.isEmpty then t
        else { t with os := t.os.map (· ++ frame t.sstr) }.clearStream
      (true, t'.setState .waitForAnswer)
  | .idle | .startedAsync | .waitForAnswer => (false, t)

/-- `done`. -/
def done (t : Transaction) : Bool × Transaction :=
  match t.state with
  | .waitForAnswer => (true, t.clearStream.setState .idle)
  | .idle | .startedAsync | .waitForCommit => (false, t)

/-- `abort`; the state it passes through is not observed. -/
def abort (t : Transaction) : Bool × Transaction :=
  match t.state with
  | .startedAsync | .waitForCommit | .waitForAnswer => { t with state := .waitForAnswer }.done
  | .idle => (false, t)

/-! ## What the functions do to the state -/

theorem start_fst (t : Transaction) (forceAsync : Bool) :
    (t.start forceAsync).1 = true ↔
      (t.state = .idle ∧ forceAsync = false) ∨ t.state = .startedAsync := by
  unfold start
  cases t.state <;> cases forceAsync <;> simp

theorem start_state_of_true {t : Transaction} {forceAsync : Bool}
    (h : (t.start forceAsync).1 = true) : (t.start forceAsync).2.state = .waitForCommit := by
  unfold start at h ⊢
  cases hs : t.state <;> cases forceAsync <;> simp_all [setState]

theorem commit_of_waitForCommit {t : Transaction} (h : t.state = .waitForCommit) :
    t.commit.1 = true ∧ t.commit.2.state = .waitForAnswer := by
  simp [commit, h, setState]

theorem done_of_waitForAnswer {t : Transaction} (h : t.state = .waitForAnswer) :
    t.done.1 = true ∧ t.done.2.state = .idle := by
  simp [done, h, setState]

theorem done_of_ne {t : Transaction} (h : t.state ≠ .waitForAnswer) : t.done = (false, t) := by
  unfold done
  cases hs : t.state <;> simp_all

/-- A transaction in progress can always be aborted. -/
theorem abort_of_isInProgress {t : Transaction} (h : t.isInProgress = true) :
    t.abort.1 = true ∧ t.abort.2.state = .idle := by
  unfold abort
  cases hs : t.state <;> simp_all [isInProgress, done, setState]

end Transaction

end Drcpd.Dcp

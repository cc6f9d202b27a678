/-
  Dcp/Writing.lean --- while an entry is being written.

  At most one call of `write_whole_xml` is open at any time, and one is open exactly while
  the transaction waits for its commit; whatever else is called in the meantime leaves the
  transaction and the entry being written alone.  The string stream is empty whenever an
  entry is handed out, so that what is committed is what has been written for the entry.
-/
import Drcpd.Dcp.SerializeRuns

set_option autoImplicit false

namespace Drcpd.Dcp

open Drcpd.Foundation

variable {V : Type}

/-- The frame is a call of `write_whole_xml`. -/
def Frame.isProcess : Frame V → Bool
  | .process _ => true
  | .log _ => false

/-- A view is serializing as long as the frame is there. -/
def Frame.Holds (view : V) : Frame V → Prop
  | .process caller => caller = some view
  | .log view' => view' = view

/-- What has been put out after one more document. -/
def putOut (os : Option String) (document : String) : Option String :=
  if document.isEmpty then os else os.map (· ++ Transaction.frame document)

namespace SerializeState

/-- An entry is being written. -/
def IsWriting (s : SerializeState V) : Prop := s.queue.dcpd.state = .waitForCommit

instance (s : SerializeState V) : Decidable s.IsWriting :=
  inferInstanceAs (Decidable (_ = _))

/-- What is known of the entry being written. -/
structure Steady (s : SerializeState V) : Prop where
  one_open : s.IsWriting → (s.frames.filter Frame.isProcess).length = 1
  none_open : ¬s.IsWriting → s.frames.filter Frame.isProcess = []
  active : s.IsWriting → s.queue.activeData.isSome = true
  stream : s.queue.dcpd.sstr = ""

theorem steady_init (os : Option String) :
    ({ queue := { dcpd := { os := os } } } : SerializeState V).Steady where
  one_open := fun h => absurd h nofun
  none_open := fun _ => rfl
  active := fun h => absurd h nofun
  stream := rfl

/-- While nothing else has been called from it, the open call is on top of the stack. -/
theorem Steady.isWriting_of_frames {s : SerializeState V} (h : s.Steady) {caller : Option V}
    {frames : List (Frame V)} (hframes : s.frames = .process caller :: frames) :
    s.IsWriting ∧ frames.filter Frame.isProcess = [] := by
  have hcons : s.frames.filter Frame.isProcess =
      .process caller :: frames.filter Frame.isProcess := by
    rw [hframes]
    rfl
  have hwriting : s.IsWriting := by
    by_contra hno
    rw [h.none_open hno] at hcons
    exact absurd hcons nofun
  refine ⟨hwriting, ?_⟩
  have hone := h.one_open hwriting
  rw [hcons, List.length_cons] at hone
  exact List.eq_nil_of_length_eq_zero (Nat.succ.inj hone)

theorem Steady.not_isWriting_of_nil {s : SerializeState V} (h : s.Steady)
    (hframes : s.frames = []) : ¬s.IsWriting := by
  intro hwriting
  have hone := h.one_open hwriting
  rw [hframes] at hone
  exact absurd hone nofun

/-- What an event does to the transaction and the entry being written, unless it is the end
of `write_whole_xml`. -/
structure Keeps (s : SerializeState V)
    (done : SerializeState V × Option (QueueData V)) : Prop where
  steady : done.1.Steady
  os : done.1.queue.dcpd.os = s.queue.dcpd.os
  kept : s.IsWriting → done.1.queue.dcpd = s.queue.dcpd ∧
    done.1.queue.activeData = s.queue.activeData ∧ done.2 = none
  /-- An entry is being written when it has been handed out, and not otherwise. -/
  handed : ∀ d, done.2 = some d → done.1.IsWriting ∧ done.1.queue.activeData = some d
  begun : ¬s.IsWriting → done.1.IsWriting → done.2.isSome = true

/-- `finish_transaction` ends what has been committed, or begun for later. -/
theorem finishTransaction_effect {q q' : Queue V} {result : TransactionResult}
    {isFinished : Bool} (h : q.finishTransaction result = some (isFinished, q'))
    (hno : q.dcpd.state ≠ .waitForCommit) (hsstr : q.dcpd.sstr = "") :
    q'.dcpd.state ≠ .waitForCommit ∧ q'.dcpd.os = q.dcpd.os ∧ q'.dcpd.sstr = "" := by
  have hdone : ∀ t : Transaction, t.state = .waitForAnswer →
      t.done = (true, t.clearStream.setState .idle) := by
    intro t ht
    unfold Transaction.done
    rw [ht]
  have hidle : TransactionState.idle ≠ .waitForCommit := by decide
  cases hstate : q.dcpd.state with
  | waitForCommit => exact absurd hstate hno
  | idle =>
    have hprogress : q.dcpd.isInProgress = false := by simp [Transaction.isInProgress, hstate]
    unfold Queue.finishTransaction at h
    rw [hprogress, if_neg Bool.false_ne_true] at h
    obtain ⟨-, rfl⟩ := Prod.mk.inj (Option.some.inj h)
    exact ⟨hno, rfl, hsstr⟩
  | startedAsync =>
    have hprogress : q.dcpd.isInProgress = true := by simp [Transaction.isInProgress, hstate]
    have hne : q.dcpd.state ≠ .waitForAnswer := by rw [hstate]; decide
    have hnot := Transaction.done_of_ne hne
    have habort : q.dcpd.abort =
        (true, ({ q.dcpd with state := .waitForAnswer } : Transaction).clearStream.setState
          .idle) := by
      unfold Transaction.abort
      rw [hstate]
      exact hdone _ rfl
    unfold Queue.finishTransaction at h
    have hfail : ¬(result = .ok ∧ false = true) := fun h => Bool.false_ne_true h.2
    rw [if_pos hprogress, hnot, habort, if_neg hfail, if_pos rfl] at h
    obtain ⟨-, rfl⟩ := Prod.mk.inj (Option.some.inj h)
    exact ⟨hidle, rfl, rfl⟩
  | waitForAnswer =>
    have hprogress : q.dcpd.isInProgress = true := by simp [Transaction.isInProgress, hstate]
    have habort : q.dcpd.abort = (true, q.dcpd.clearStream.setState .idle) := by
      unfold Transaction.abort
      rw [hstate]
      exact hdone _ rfl
    unfold Queue.finishTransaction at h
    rw [if_pos hprogress, hdone _ hstate, habort] at h
    dsimp only at h
    rw [if_pos rfl] at h
    split_ifs at h
    · obtain ⟨-, rfl⟩ := Prod.mk.inj (Option.some.inj h)
      exact ⟨hidle, rfl, rfl⟩
    · obtain ⟨-, rfl⟩ := Prod.mk.inj (Option.some.inj h)
      exact ⟨hidle, rfl, rfl⟩

/-- `commit` puts out what has been written. -/
theorem commit_effect {t : Transaction} (hwriting : t.state = .waitForCommit)
    (hsstr : t.sstr = "") (text : String) :
    ∃ t', (t.write text).commit = (true, t') ∧ t'.state = .waitForAnswer ∧
      t'.os = putOut t.os text ∧ t'.sstr = "" := by
  have htext : (t.write text).sstr = text := by
    unfold Transaction.write
    rw [hsstr]
    exact String.empty_append
  have hstate : (t.write text).state = .waitForCommit := hwriting
  unfold Transaction.commit putOut
  rw [hstate, htext]
  dsimp only
  cases hempty : text.isEmpty with
  | false => exact ⟨_, rfl, rfl, rfl, rfl⟩
  | true =>
    refine ⟨_, rfl, rfl, rfl, ?_⟩
    exact htext.trans (String.isEmpty_iff.mp hempty)

/-- An entry is taken out of the queue only if no transaction waits for anything. -/
theorem take_cases (q : Queue V) :
    (q.take = none ∧ (q.data = [] ∨ q.dcpd.state = .waitForCommit ∨
      q.dcpd.state = .waitForAnswer)) ∨
    ∃ d rest dcpd, q.data = d :: rest ∧ q.take = some (d, ⟨rest, some d, dcpd⟩) ∧
      q.dcpd.state ≠ .waitForCommit ∧ dcpd.state = .waitForCommit ∧ dcpd.os = q.dcpd.os ∧
      (q.dcpd.sstr = "" → dcpd.sstr = "") := by
  obtain ⟨data, activeData, dcpd⟩ := q
  cases data with
  | nil => exact Or.inl ⟨rfl, Or.inl rfl⟩
  | cons d rest =>
    cases hstate : dcpd.state with
    | idle =>
      have hstart : dcpd.start = (true, dcpd.clearStream.setState .waitForCommit) := by
        unfold Transaction.start
        rw [hstate]
        rfl
      refine Or.inr ⟨d, rest, dcpd.clearStream.setState .waitForCommit, rfl, ?_, nofun, rfl,
        rfl, fun _ => rfl⟩
      unfold Queue.take
      simp only [hstart]
    | startedAsync =>
      have hstart : dcpd.start = (true, dcpd.setState .waitForCommit) := by
        unfold Transaction.start
        rw [hstate]
      refine Or.inr ⟨d, rest, dcpd.setState .waitForCommit, rfl, ?_, nofun, rfl, rfl,
        fun hsstr => hsstr⟩
      unfold Queue.take
      simp only [hstart]
    | waitForCommit =>
      refine Or.inl ⟨?_, Or.inr (Or.inl rfl)⟩
      unfold Queue.take Transaction.start
      simp only [hstate]
    | waitForAnswer =>
      refine Or.inl ⟨?_, Or.inr (Or.inr rfl)⟩
      unfold Queue.take Transaction.start
      simp only [hstate]

/-- What does not change the queue nor the open calls of `write_whole_xml`. -/
theorem Steady.keeps_of_eq {s s' : SerializeState V} (h : s.Steady)
    (hdcpd : s'.queue.dcpd = s.queue.dcpd) (hactive : s'.queue.activeData = s.queue.activeData)
    (hframes : s'.frames.filter Frame.isProcess = s.frames.filter Frame.isProcess) :
    Keeps s (s', none) := by
  have hiff : s'.IsWriting ↔ s.IsWriting := by
    unfold IsWriting
    rw [hdcpd]
  exact
    { steady :=
        { one_open := fun hw => hframes ▸ h.one_open (hiff.mp hw)
          none_open := fun hw => hframes ▸ h.none_open fun hs => hw (hiff.mpr hs)
          active := fun hw => by
            rw [hactive]
            exact h.active (hiff.mp hw)
          stream := by
            rw [hdcpd]
            exact h.stream }
      os := congrArg Transaction.os hdcpd
      kept := fun _ => ⟨hdcpd, hactive, rfl⟩
      handed := fun _ hd => absurd hd nofun
      begun := fun hno hw => absurd (hiff.mp hw) hno }

/-- `abort` forgets what has been written. -/
theorem abort_effect {t : Transaction} (hwriting : t.state = .waitForCommit) (text : String) :
    ∃ t', (t.write text).abort.2 = t' ∧ t'.state = .idle ∧ t'.os = t.os ∧ t'.sstr = "" := by
  have hstate : (t.write text).state = .waitForCommit := hwriting
  refine ⟨_, rfl, ?_⟩
  unfold Transaction.abort
  rw [hstate]
  exact ⟨rfl, rfl, rfl⟩

section Functions

variable [DecidableEq V]

@[simp] theorem returnTo_queue (s : SerializeState V) (caller : Option V) :
    (s.returnTo caller).queue = s.queue := by
  cases caller <;> rfl

@[simp] theorem returnTo_frames (s : SerializeState V) (caller : Option V) :
    (s.returnTo caller).frames = s.frames := by
  cases caller <;> rfl

@[simp] theorem returnTo_updateFlags (s : SerializeState V) (caller : Option V) :
    (s.returnTo caller).updateFlags = s.updateFlags := by
  cases caller <;> rfl

theorem Steady.keeps_returnTo {s : SerializeState V} (h : s.Steady) (caller : Option V) :
    Keeps s (s.returnTo caller, none) :=
  h.keeps_of_eq (by rw [returnTo_queue]) (by rw [returnTo_queue]) (by rw [returnTo_frames])

theorem Steady.keeps_process {s : SerializeState V} (h : s.Steady) (caller : Option V) :
    Keeps s (s.process caller) := by
  unfold process
  rcases take_cases s.queue with ⟨htake, -⟩ | ⟨d, rest, dcpd, -, htake, hopen, hstate, hos, hsstr⟩
  · rw [htake]
    exact h.keeps_returnTo caller
  · rw [htake]
    have hwriting : ¬s.IsWriting := hopen
    exact
      { steady :=
          { one_open := fun _ => by
              rw [List.filter_cons_of_pos rfl, h.none_open hwriting]
              rfl
            none_open := fun hno => absurd hstate hno
            active := fun _ => rfl
            stream := hsstr h.stream }
        os := hos
        kept := fun hw => absurd hw hwriting
        handed := fun d' hd' => ⟨hstate, hd'⟩
        begun := fun _ _ => rfl }

theorem Steady.keeps_startTransaction {s : SerializeState V} (h : s.Steady) (mode : Mode)
    (caller : Option V) : Keeps s (s.startTransaction mode caller) := by
  unfold startTransaction
  split_ifs with hempty hprogress
  · exact h.keeps_returnTo caller
  · exact h.keeps_returnTo caller
  · cases mode with
    | syncIfPossible => exact h.keeps_process caller
    | forceAsync =>
      have hidle : s.queue.dcpd.state = .idle := by
        unfold Transaction.isInProgress at hprogress
        simpa using hprogress
      have hno : ¬s.IsWriting := fun hw => absurd (hidle.symm.trans hw) nofun
      have hstart : (s.queue.dcpd.start true).2 =
          s.queue.dcpd.clearStream.setState .startedAsync := by
        unfold Transaction.start
        simp only [hidle]
        rfl
      dsimp only
      rw [hstart]
      have hasync : ¬({ s with
          queue := { s.queue with
            dcpd := s.queue.dcpd.clearStream.setState .startedAsync } }.returnTo
              caller).IsWriting := by
        unfold IsWriting
        rw [returnTo_queue]
        exact nofun
      exact
        { steady :=
            { one_open := fun hw => absurd hw hasync
              none_open := fun _ => by
                rw [returnTo_frames]
                exact h.none_open hno
              active := fun hw => absurd hw hasync
              stream := by
                rw [returnTo_queue]
                rfl }
          os := by
            rw [returnTo_queue]
            rfl
          kept := fun hw => absurd hw hno
          handed := fun _ hd => absurd hd nofun
          begun := fun _ hw => absurd hw hasync }

/-- The state in which `do_serialize` calls `start_transaction`. -/
def enqueue (s : SerializeState V) (view : V) (isFullView : Bool) (isBusy : Option Bool) :
    SerializeState V :=
  { s.setSerializing view true with
    queue := s.queue.add view isFullView (s.updateFlags view) isBusy
    updateFlags := Function.update s.updateFlags view 0 }

theorem doSerialize_eq {s : SerializeState V} {view : V} (h : s.isSerializing view = false)
    {mode : Mode} {isFullView : Bool} {isBusy : Option Bool} :
    s.doSerialize view mode isFullView isBusy =
      (s.enqueue view isFullView isBusy).startTransaction mode (some view) := by
  unfold doSerialize
  rw [if_neg (fun hs => Bool.false_ne_true (h.symm.trans hs))]
  rfl

/-- A request is ignored while its view is being serialized. -/
theorem doSerialize_of_isSerializing {s : SerializeState V} {view : V}
    (h : s.isSerializing view = true) {mode : Mode} {isFullView : Bool}
    {isBusy : Option Bool} : s.doSerialize view mode isFullView isBusy = (s, none) :=
  if_pos h

/-- A request that is to be processed later hands nothing out. -/
theorem forceAsync_frames (s : SerializeState V) (view : V) (isFullView : Bool)
    (isBusy : Option Bool) :
    (s.doSerialize view .forceAsync isFullView isBusy).1.frames = s.frames := by
  cases hserializing : s.isSerializing view with
  | true => rw [doSerialize_of_isSerializing hserializing]
  | false =>
    rw [doSerialize_eq hserializing]
    unfold startTransaction
    split_ifs
    · exact returnTo_frames ..
    · exact returnTo_frames ..
    · exact returnTo_frames ..

/-- A request while an entry is being written only adds to the queue. -/
theorem Steady.keeps_doSerialize {s : SerializeState V} (h : s.Steady) (view : V) (mode : Mode)
    (isFullView : Bool) (isBusy : Option Bool) :
    Keeps s (s.doSerialize view mode isFullView isBusy) := by
  cases hserializing : s.isSerializing view with
  | true =>
    rw [doSerialize_of_isSerializing hserializing]
    exact h.keeps_of_eq rfl rfl rfl
  | false =>
    have hqueued : (s.enqueue view isFullView isBusy).Steady :=
      (@Steady.keeps_of_eq V s (s.enqueue view isFullView isBusy) h rfl rfl rfl).steady
    have hkeeps := hqueued.keeps_startTransaction mode (some view)
    rw [doSerialize_eq hserializing]
    exact ⟨hkeeps.steady, hkeeps.os, hkeeps.kept, hkeeps.handed, hkeeps.begun⟩

/-- All events but the end of `write_whole_xml`. -/
theorem Steady.step_keeps {s : SerializeState V} (h : s.Steady) {e : Event V}
    {done : SerializeState V × Option (QueueData V)} (hstep : s.step e = some done)
    (hwritten : ∀ text isOk, e ≠ .written text isOk) : Keeps s done := by
  cases e with
  | addUpdateFlags view flags =>
    obtain rfl := Option.some.inj hstep
    exact h.keeps_of_eq rfl rfl rfl
  | doSerialize view mode isFullView isBusy =>
    obtain rfl := Option.some.inj hstep
    exact h.keeps_doSerialize view mode isFullView isBusy
  | written text isOk => exact absurd rfl (hwritten text isOk)
  | logBegin view =>
    unfold SerializeState.step at hstep
    dsimp only at hstep
    split_ifs at hstep
    · obtain rfl := Option.some.inj hstep
      exact h.keeps_of_eq rfl rfl rfl
    · obtain rfl := Option.some.inj hstep
      exact h.keeps_of_eq rfl rfl rfl
  | logEnd =>
    cases hframes : s.frames with
    | nil => simp [SerializeState.step, hframes] at hstep
    | cons frame frames =>
      cases frame with
      | process caller => simp [SerializeState.step, hframes] at hstep
      | log view =>
        simp only [SerializeState.step, hframes] at hstep
        obtain rfl := Option.some.inj hstep
        refine h.keeps_of_eq rfl rfl ?_
        rw [hframes]
        rfl
  | processPendingTransactions =>
    cases hframes : s.frames with
    | nil =>
      simp only [SerializeState.step, hframes] at hstep
      obtain rfl := Option.some.inj hstep
      exact h.keeps_process none
    | cons frame frames => simp [SerializeState.step, hframes] at hstep
  | serializationResult result =>
    cases hframes : s.frames with
    | cons frame frames => simp [SerializeState.step, hframes] at hstep
    | nil =>
      have hno := h.not_isWriting_of_nil hframes
      simp only [SerializeState.step, hframes] at hstep
      cases hfinish : s.queue.finishTransaction result with
      | none => simp [hfinish] at hstep
      | some finished =>
        obtain ⟨isFinished, queue⟩ := finished
        obtain ⟨hstate, hos, hsstr⟩ := finishTransaction_effect hfinish hno h.stream
        have hsteady : ({ s with queue := queue, frames := [] } : SerializeState V).Steady :=
          { one_open := fun hw => absurd hw hstate
            none_open := fun _ => rfl
            active := fun hw => absurd hw hstate
            stream := hsstr }
        rw [hfinish] at hstep
        cases isFinished with
        | false =>
          obtain rfl := Option.some.inj hstep
          exact ⟨hsteady, hos, fun hw => absurd hw hno, fun _ hd => absurd hd nofun,
            fun _ hw => absurd hw hstate⟩
        | true =>
          obtain rfl := Option.some.inj hstep
          have hkeeps := hsteady.keeps_startTransaction .syncIfPossible none
          exact ⟨hkeeps.steady, hkeeps.os.trans hos, fun hw => absurd hw hno, hkeeps.handed,
            fun _ hw => hkeeps.begun hstate hw⟩

/-- An entry has been written: its text is put out as a document, and nothing else is
handed out before dcpd has answered. -/
theorem Steady.step_written {s : SerializeState V} (h : s.Steady) {caller : Option V}
    {frames : List (Frame V)} (hframes : s.frames = .process caller :: frames) (text : String) :
    ∃ s', s.step (.written text true) = some (s', none) ∧ s'.Steady ∧ ¬s'.IsWriting ∧
      s'.queue.data = s.queue.data ∧ s'.queue.dcpd.os = putOut s.queue.dcpd.os text ∧
      s'.frames = frames ∧ s'.isSerializing = (s.returnTo caller).isSerializing := by
  obtain ⟨hwriting, hnone⟩ := h.isWriting_of_frames hframes
  obtain ⟨dcpd, hcommit, hstate, hos, hsstr⟩ := commit_effect hwriting h.stream text
  have hwritten : s.queue.written text true = (some true, { s.queue with dcpd := dcpd }) := by
    unfold Queue.written
    rw [if_pos rfl, hcommit]
  have htake : ({ s.queue with dcpd := dcpd } : Queue V).take = none := by
    unfold Queue.take Transaction.start
    cases s.queue.data with
    | nil => rfl
    | cons d rest => simp only [hstate]
  refine ⟨{ s with queue := { s.queue with dcpd := dcpd }, frames := frames }.returnTo caller,
    ?_, ?_⟩
  · unfold SerializeState.step
    simp only [hframes, hwritten]
    rw [if_neg nofun]
    unfold process
    rw [htake]
  · have hno : ¬({ s with queue := { s.queue with dcpd := dcpd }, frames := frames }.returnTo
        caller).IsWriting := by
      unfold IsWriting
      rw [returnTo_queue, hstate]
      exact nofun
    refine ⟨⟨fun hw => absurd hw hno, fun _ => ?_, fun hw => absurd hw hno, ?_⟩, hno, ?_, ?_, ?_,
      ?_⟩
    · rw [returnTo_frames]
      exact hnone
    · rw [returnTo_queue]
      exact hsstr
    · rw [returnTo_queue]
    · rw [returnTo_queue]
      exact hos
    · rw [returnTo_frames]
    · cases caller <;> rfl

/-- The end of `write_whole_xml`. -/
theorem Steady.written_cases {s : SerializeState V} (h : s.Steady) {text : String} {isOk : Bool}
    {done : SerializeState V × Option (QueueData V)}
    (hstep : s.step (.written text isOk) = some done) :
    s.IsWriting ∧ done.1.Steady ∧
      done.1.queue.dcpd.os =
        (if isOk then putOut s.queue.dcpd.os text else s.queue.dcpd.os) ∧
      (∀ d, done.2 = some d → done.1.IsWriting ∧ done.1.queue.activeData = some d) ∧
      (done.1.IsWriting → done.2.isSome = true) := by
  cases hframes : s.frames with
  | nil => simp [SerializeState.step, hframes] at hstep
  | cons frame frames =>
    cases frame with
    | log view => simp [SerializeState.step, hframes] at hstep
    | process caller =>
      obtain ⟨hwriting, hnone⟩ := h.isWriting_of_frames hframes
      cases isOk with
      | true =>
        obtain ⟨s', hwritten, hsteady, hno, -, hos, -⟩ := h.step_written hframes text
        obtain rfl := Option.some.inj (hwritten.symm.trans hstep)
        exact ⟨hwriting, hsteady, hos, fun _ hd => absurd hd nofun, fun hw => absurd hw hno⟩
      | false =>
        obtain ⟨dcpd, habort, hstate, hos, hsstr⟩ := abort_effect hwriting text
        have hwritten : s.queue.written text false =
            (none, { s.queue with activeData := none, dcpd := dcpd }) := by
          unfold Queue.written
          rw [if_neg nofun, habort]
        have hno : ¬({ s with
            queue := { s.queue with activeData := none, dcpd := dcpd }, frames := frames } :
            SerializeState V).IsWriting := fun hw => absurd (hstate.symm.trans hw) nofun
        have hsteady : ({ s with
            queue := { s.queue with activeData := none, dcpd := dcpd }, frames := frames } :
            SerializeState V).Steady :=
          ⟨fun hw => absurd hw hno, fun _ => hnone, fun hw => absurd hw hno, hsstr⟩
        have hkeeps := hsteady.keeps_process caller
        simp only [SerializeState.step, hframes, hwritten] at hstep
        rw [if_neg nofun] at hstep
        obtain rfl := Option.some.inj hstep
        exact ⟨hwriting, hkeeps.steady, hkeeps.os.trans hos, hkeeps.handed, hkeeps.begun hno⟩

theorem Steady.step {s : SerializeState V} (h : s.Steady) {e : Event V}
    {done : SerializeState V × Option (QueueData V)} (hstep : s.step e = some done) :
    done.1.Steady := by
  rcases Classical.em (∃ text isOk, e = .written text isOk) with ⟨text, isOk, rfl⟩ | hwritten
  · exact (h.written_cases hstep).2.1
  · exact (h.step_keeps hstep fun text isOk he => hwritten ⟨text, isOk, he⟩).steady

/-- The entry that is being written, where nothing else has been called in the meantime. -/
def entryOnTop (s : SerializeState V) : Option (QueueData V) :=
  match s.frames with
  | .process _ :: _ => s.queue.activeData
  | .log _ :: _ | [] => none

omit [DecidableEq V] in
theorem entryOnTop_eq_some {s : SerializeState V} {d : QueueData V}
    (h : s.entryOnTop = some d) :
    ∃ caller frames, s.frames = .process caller :: frames ∧ s.queue.activeData = some d := by
  unfold entryOnTop at h
  cases hframes : s.frames with
  | nil => simp [hframes] at h
  | cons frame frames =>
    cases frame with
    | log view => simp [hframes] at h
    | process caller =>
      rw [hframes] at h
      exact ⟨caller, frames, rfl, h⟩

/-- It is the entry on top that `write_whole_xml` ends for. -/
theorem Steady.entryOnTop_of_written {s : SerializeState V} (h : s.Steady) {text : String}
    {isOk : Bool} {done : SerializeState V × Option (QueueData V)}
    (hstep : s.step (.written text isOk) = some done) :
    ∃ d, s.entryOnTop = some d ∧ s.queue.activeData = some d := by
  obtain ⟨d, hactive⟩ := Option.isSome_iff_exists.mp (h.active (h.written_cases hstep).1)
  refine ⟨d, ?_, hactive⟩
  cases hframes : s.frames with
  | nil => simp [SerializeState.step, hframes] at hstep
  | cons frame frames =>
    cases frame with
    | log view => simp [SerializeState.step, hframes] at hstep
    | process caller =>
      unfold entryOnTop
      rw [hframes]
      exact hactive

/-! ## The entries of a view -/

/-- The entries of a view that have not been written yet: the one being written, and those
in the queue. -/
def waiting (s : SerializeState V) (view : V) : List (QueueData V) :=
  ((if s.IsWriting then s.queue.activeData.toList else []) ++ s.queue.data).filter fun d =>
    decide (d.view = view)

theorem waiting_of_isWriting {s : SerializeState V} {d : QueueData V} (h : s.IsWriting)
    (hactive : s.queue.activeData = some d) (view : V) :
    s.waiting view = (d :: s.queue.data).filter fun d => decide (d.view = view) := by
  unfold waiting
  rw [if_pos h, hactive]
  rfl

theorem waiting_of_not_isWriting {s : SerializeState V} (h : ¬s.IsWriting) (view : V) :
    s.waiting view = s.queue.data.filter fun d => decide (d.view = view) := by
  unfold waiting
  rw [if_neg h, List.nil_append]

theorem filter_cons_of_eq {d : QueueData V} {view : V} (h : d.view = view)
    (data : List (QueueData V)) :
    (d :: data).filter (fun d => decide (d.view = view)) =
      d :: data.filter fun d => decide (d.view = view) :=
  List.filter_cons_of_pos (decide_eq_true h)

theorem filter_cons_of_ne {d : QueueData V} {view : V} (h : d.view ≠ view)
    (data : List (QueueData V)) :
    (d :: data).filter (fun d => decide (d.view = view)) =
      data.filter fun d => decide (d.view = view) :=
  List.filter_cons_of_neg (decide_eq_true_iff.not.mpr h)

/-- Handing out an entry does not change what waits. -/
theorem Keeps.waiting_eq {s : SerializeState V} {done : SerializeState V × Option (QueueData V)}
    (h : Keeps s done) (hdata : s.queue.data = done.2.toList ++ done.1.queue.data) (view : V) :
    done.1.waiting view = s.waiting view := by
  by_cases hw : s.IsWriting
  · obtain ⟨hdcpd, hactive, hnone⟩ := h.kept hw
    have hw' : done.1.IsWriting := (congrArg Transaction.state hdcpd).trans hw
    obtain ⟨d, hd⟩ := Option.isSome_iff_exists.mp (h.steady.active hw')
    rw [hnone] at hdata
    rw [waiting_of_isWriting hw' hd, waiting_of_isWriting hw (hactive.symm.trans hd),
      hdata]
    rfl
  · rw [waiting_of_not_isWriting hw]
    cases hhanded : done.2 with
    | none =>
      have hno : ¬done.1.IsWriting := fun hw' => by
        have hsome := h.begun hw hw'
        rw [hhanded] at hsome
        exact Bool.false_ne_true hsome
      rw [waiting_of_not_isWriting hno, hdata, hhanded]
      rfl
    | some d =>
      obtain ⟨hw', hactive⟩ := h.handed d hhanded
      rw [waiting_of_isWriting hw' hactive, hdata, hhanded]
      rfl

/-- The entries of other views are left alone. -/
theorem filter_addToData {view view' : V} (hne : view' ≠ view)
    (isFullSerialize : Bool) (viewUpdateFlags : UInt32) (isBusy : Option Bool)
    (data : List (QueueData V)) :
    (Queue.addToData view' isFullSerialize viewUpdateFlags isBusy data).filter
        (fun d => decide (d.view = view)) =
      data.filter fun d => decide (d.view = view) := by
  induction data with
  | nil => exact filter_cons_of_ne hne []
  | cons d data ih =>
    unfold Queue.addToData
    split_ifs with hview
    · have hother : d.view ≠ view := hview ▸ hne
      rw [filter_cons_of_ne hother, filter_cons_of_ne (show (Queue.mergeRequest d _ _ _).view ≠ view
        from hother)]
    · rcases Decidable.em (d.view = view) with hsame | hother
      · rw [filter_cons_of_eq hsame, filter_cons_of_eq hsame, ih]
      · rw [filter_cons_of_ne hother, filter_cons_of_ne hother, ih]

/-- A view that has no entry gets one. -/
theorem filter_addToData_self {view : V} {data : List (QueueData V)}
    (hnone : data.filter (fun d => decide (d.view = view)) = []) (isFullSerialize : Bool)
    (viewUpdateFlags : UInt32) (isBusy : Option Bool) :
    (Queue.addToData view isFullSerialize viewUpdateFlags isBusy data).filter
        (fun d => decide (d.view = view)) =
      [⟨view, viewUpdateFlags, isBusy, isFullSerialize⟩] := by
  induction data with
  | nil => exact filter_cons_of_eq rfl []
  | cons d data ih =>
    have hother : d.view ≠ view := by
      intro hsame
      rw [filter_cons_of_eq hsame] at hnone
      exact List.cons_ne_nil _ _ hnone
    rw [filter_cons_of_ne hother] at hnone
    unfold Queue.addToData
    rw [if_neg hother, filter_cons_of_ne hother, ih hnone]

/-- A view that has made a request has an entry. -/
theorem filter_addToData_ne_nil (view : V) (isFullSerialize : Bool) (viewUpdateFlags : UInt32)
    (isBusy : Option Bool) (data : List (QueueData V)) :
    (Queue.addToData view isFullSerialize viewUpdateFlags isBusy data).filter
        (fun d => decide (d.view = view)) ≠ [] := by
  induction data with
  | nil =>
    rw [filter_addToData_self rfl]
    exact List.cons_ne_nil _ _
  | cons d data ih =>
    unfold Queue.addToData
    split_ifs with hview
    · rw [filter_cons_of_eq (show (Queue.mergeRequest d _ _ _).view = view from hview)]
      exact List.cons_ne_nil _ _
    · rw [filter_cons_of_ne hview]
      exact ih

/-- What waits when a request has been made. -/
theorem waiting_doSerialize {s : SerializeState V} (h : s.Steady) {view : V}
    (hserializing : s.isSerializing view = false) (mode : Mode) (isFullView : Bool)
    (isBusy : Option Bool) (view' : V) :
    (s.doSerialize view mode isFullView isBusy).1.waiting view' =
      (s.enqueue view isFullView isBusy).waiting view' := by
  have hqueued : (s.enqueue view isFullView isBusy).Steady :=
    (@Steady.keeps_of_eq V s (s.enqueue view isFullView isBusy) h rfl rfl rfl).steady
  rw [doSerialize_eq hserializing]
  exact (hqueued.keeps_startTransaction mode (some view)).waiting_eq
    (SerializeRun.hands_startTransaction _ mode (some view)).data view'

theorem waiting_enqueue_of_ne (s : SerializeState V) {view view' : V} (hne : view' ≠ view)
    (isFullView : Bool) (isBusy : Option Bool) :
    (s.enqueue view' isFullView isBusy).waiting view = s.waiting view := by
  have hfilter := filter_addToData hne isFullView (s.updateFlags view') isBusy s.queue.data
  unfold waiting
  rw [List.filter_append, List.filter_append]
  exact congrArg (_ ++ ·) hfilter

theorem waiting_enqueue_ne_nil (s : SerializeState V) (view : V) (isFullView : Bool)
    (isBusy : Option Bool) : (s.enqueue view isFullView isBusy).waiting view ≠ [] := by
  have hfilter := filter_addToData_ne_nil view isFullView (s.updateFlags view) isBusy
    s.queue.data
  unfold waiting
  rw [List.filter_append]
  exact fun h => hfilter (List.append_eq_nil_iff.mp h).2

/-- The events of other views, and the end of `write_whole_xml` of another view, leave what
waits alone. -/
theorem Steady.waiting_step {s : SerializeState V} (h : s.Steady) {view : V} {e : Event V}
    {done : SerializeState V × Option (QueueData V)} (hstep : s.step e = some done)
    (hrequest : ∀ mode isFullView isBusy, e ≠ .doSerialize view mode isFullView isBusy)
    (hwritten : ∀ text isOk, e = .written text isOk →
      s.queue.activeData.map (·.view) ≠ some view) :
    done.1.waiting view = s.waiting view := by
  cases e with
  | written text isOk =>
    obtain ⟨hw, -, -, hhanded, hbegun⟩ := h.written_cases hstep
    obtain ⟨d, hactive⟩ := Option.isSome_iff_exists.mp (h.active hw)
    have hother : d.view ≠ view := fun hview =>
      hwritten text isOk rfl (by rw [hactive, ← hview]; rfl)
    have hdata := (SerializeRun.step_hands hstep nofun nofun).data
    rw [waiting_of_isWriting hw hactive, filter_cons_of_ne hother]
    cases hout : done.2 with
    | none =>
      have hno : ¬done.1.IsWriting := fun hw' => by
        have hsome := hbegun hw'
        rw [hout] at hsome
        exact Bool.false_ne_true hsome
      rw [waiting_of_not_isWriting hno, hdata, hout]
      rfl
    | some d' =>
      obtain ⟨hw', hactive'⟩ := hhanded d' hout
      rw [waiting_of_isWriting hw' hactive', hdata, hout]
      rfl
  | doSerialize view' mode isFullView isBusy =>
    have hne : view' ≠ view := fun heq => hrequest mode isFullView isBusy (heq ▸ rfl)
    obtain rfl := Option.some.inj hstep
    cases hserializing : s.isSerializing view' with
    | true => rw [doSerialize_of_isSerializing hserializing]
    | false =>
      rw [waiting_doSerialize h hserializing]
      exact s.waiting_enqueue_of_ne hne isFullView isBusy
  | addUpdateFlags view' flags =>
    obtain rfl := Option.some.inj hstep
    rfl
  | logBegin view' =>
    exact (h.step_keeps hstep nofun).waiting_eq (SerializeRun.step_hands hstep nofun nofun).data
      view
  | logEnd =>
    exact (h.step_keeps hstep nofun).waiting_eq (SerializeRun.step_hands hstep nofun nofun).data
      view
  | processPendingTransactions =>
    exact (h.step_keeps hstep nofun).waiting_eq (SerializeRun.step_hands hstep nofun nofun).data
      view
  | serializationResult result =>
    exact (h.step_keeps hstep nofun).waiting_eq (SerializeRun.step_hands hstep nofun nofun).data
      view

/-! ## Views that are not being serialized -/

/-- The view is not being serialized, and no open call belongs to it. -/
def Idle (view : V) (s : SerializeState V) : Prop :=
  s.isSerializing view = false ∧ ∀ frame ∈ s.frames, ¬frame.Holds view

theorem Idle.returnTo {view : V} {s : SerializeState V} (h : s.Idle view) (caller : Option V) :
    (s.returnTo caller).Idle view := by
  cases caller with
  | none => exact h
  | some view' =>
    refine ⟨?_, h.2⟩
    unfold SerializeState.returnTo setSerializing
    rcases Decidable.em (view = view') with rfl | hne
    · exact Function.update_self ..
    · exact (Function.update_of_ne hne ..).trans h.1

theorem Idle.process {view : V} {s : SerializeState V} (h : s.Idle view) {caller : Option V}
    (hcaller : caller ≠ some view) : (s.process caller).1.Idle view := by
  unfold SerializeState.process
  cases s.queue.take with
  | none => exact h.returnTo caller
  | some taken =>
    refine ⟨h.1, fun frame hframe => ?_⟩
    rcases List.mem_cons.mp hframe with rfl | hframe
    · exact hcaller
    · exact h.2 frame hframe

theorem Idle.startTransaction {view : V} {s : SerializeState V} (h : s.Idle view) (mode : Mode)
    {caller : Option V} (hcaller : caller ≠ some view) :
    (s.startTransaction mode caller).1.Idle view := by
  unfold SerializeState.startTransaction
  split_ifs
  · exact h.returnTo caller
  · exact h.returnTo caller
  · cases mode with
    | syncIfPossible => exact h.process hcaller
    | forceAsync =>
      have hasync : ({ s with queue := { s.queue with dcpd := (s.queue.dcpd.start true).2 } } :
          SerializeState V).Idle view := h
      exact hasync.returnTo caller

/-- A request that is to be processed later does not keep the view from being serialized. -/
theorem Idle.doSerialize_forceAsync {view : V} {s : SerializeState V} (h : s.Idle view)
    (isFullView : Bool) (isBusy : Option Bool) :
    (s.doSerialize view .forceAsync isFullView isBusy).1.Idle view := by
  have hreturn : ∀ s' : SerializeState V, (∀ frame ∈ s'.frames, ¬frame.Holds view) →
      (s'.returnTo (some view)).Idle view := fun s' hframes =>
    ⟨Function.update_self .., hframes⟩
  rw [doSerialize_eq h.1]
  unfold SerializeState.startTransaction
  split_ifs
  · exact hreturn _ h.2
  · exact hreturn _ h.2
  · exact hreturn { s.enqueue view isFullView isBusy with
      queue := { (s.enqueue view isFullView isBusy).queue with
        dcpd := ((s.enqueue view isFullView isBusy).queue.dcpd.start true).2 } } h.2

/-- The events of other views leave the view alone. -/
theorem Idle.step {view : V} {s : SerializeState V} (h : s.Idle view) {e : Event V}
    {done : SerializeState V × Option (QueueData V)} (hstep : s.step e = some done)
    (hrequest : ∀ mode isFullView isBusy, e ≠ .doSerialize view mode isFullView isBusy)
    (hlog : e ≠ .logBegin view) : done.1.Idle view := by
  cases e with
  | addUpdateFlags view' flags =>
    obtain rfl := Option.some.inj hstep
    exact h
  | doSerialize view' mode isFullView isBusy =>
    obtain rfl := Option.some.inj hstep
    have hne : view' ≠ view := fun heq => hrequest mode isFullView isBusy (heq ▸ rfl)
    cases hserializing : s.isSerializing view' with
    | true =>
      rw [doSerialize_of_isSerializing hserializing]
      exact h
    | false =>
      have hqueued : (s.enqueue view' isFullView isBusy).Idle view :=
        ⟨(Function.update_of_ne (Ne.symm hne) ..).trans h.1, h.2⟩
      rw [doSerialize_eq hserializing]
      exact hqueued.startTransaction mode fun heq => hne (Option.some.inj heq)
  | written text isOk =>
    cases hframes : s.frames with
    | nil => simp [SerializeState.step, hframes] at hstep
    | cons frame frames =>
      cases frame with
      | log view' => simp [SerializeState.step, hframes] at hstep
      | process caller =>
        have hcaller : caller ≠ some view :=
          h.2 (.process caller) (hframes ▸ List.mem_cons_self)
        have hrest : ({ s with
            queue := (s.queue.written text isOk).2, frames := frames } :
            SerializeState V).Idle view :=
          ⟨h.1, fun frame hframe => h.2 frame (hframes ▸ List.mem_cons_of_mem _ hframe)⟩
        simp only [SerializeState.step, hframes] at hstep
        split_ifs at hstep
        · obtain rfl := Option.some.inj hstep
          exact hrest.returnTo caller
        · obtain rfl := Option.some.inj hstep
          exact hrest.process hcaller
  | logBegin view' =>
    have hne : view' ≠ view := fun heq => hlog (heq ▸ rfl)
    unfold SerializeState.step at hstep
    dsimp only at hstep
    split_ifs at hstep
    · obtain rfl := Option.some.inj hstep
      exact h
    · obtain rfl := Option.some.inj hstep
      refine ⟨(Function.update_of_ne (Ne.symm hne) ..).trans h.1, fun frame hframe => ?_⟩
      rcases List.mem_cons.mp hframe with rfl | hframe
      · exact hne
      · exact h.2 frame hframe
  | logEnd =>
    cases hframes : s.frames with
    | nil => simp [SerializeState.step, hframes] at hstep
    | cons frame frames =>
      cases frame with
      | process caller => simp [SerializeState.step, hframes] at hstep
      | log view' =>
        simp only [SerializeState.step, hframes] at hstep
        obtain rfl := Option.some.inj hstep
        exact Idle.returnTo (s := { s with frames := frames })
          ⟨h.1, fun frame hframe => h.2 frame (hframes ▸ List.mem_cons_of_mem _ hframe)⟩
          (some view')
  | processPendingTransactions =>
    cases hframes : s.frames with
    | cons frame frames => simp [SerializeState.step, hframes] at hstep
    | nil =>
      simp only [SerializeState.step, hframes] at hstep
      obtain rfl := Option.some.inj hstep
      exact h.process nofun
  | serializationResult result =>
    cases hframes : s.frames with
    | cons frame frames => simp [SerializeState.step, hframes] at hstep
    | nil =>
      simp only [SerializeState.step, hframes] at hstep
      cases hfinish : s.queue.finishTransaction result with
      | none => simp [hfinish] at hstep
      | some finished =>
        obtain ⟨isFinished, queue⟩ := finished
        rw [hfinish] at hstep
        have hrest : ({ s with queue := queue, frames := [] } : SerializeState V).Idle view :=
          ⟨h.1, nofun⟩
        cases isFinished with
        | false =>
          obtain rfl := Option.some.inj hstep
          exact hrest
        | true =>
          obtain rfl := Option.some.inj hstep
          exact hrest.startTransaction .syncIfPossible nofun

end Functions

end SerializeState

end Drcpd.Dcp

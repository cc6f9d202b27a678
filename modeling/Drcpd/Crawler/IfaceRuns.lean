/-
  Crawler/IfaceRuns.lean --- what a crawler keeps to in every run.

  `OpRecord.Progresses` says what an operation in `ops_` can be waiting for: a timer, a
  posted event, a list, or items.  Each step keeps it, as long as no running operation is
  cancelled but between its yield and its continuation, nothing an operation has asked for
  is lost, and the crawler does not wait for its own lock; `CrawlerEvent.Regular` is that
  condition.
-/
import Drcpd.Crawler.Iface
import Drcpd.Crawler.Progress
import Drcpd.Foundation.Run

set_option autoImplicit false

namespace Drcpd.Crawler

open Drcpd.Lists
open Drcpd.Foundation

namespace OpRecord

/-! ## What the crawler promises -/

/-- A timer, a posted event or a D-Bus call is outstanding for the operation. -/
def Outstanding (r : OpRecord) : Prop :=
  r.delayed.isSome = true ∨ 0 < r.yielded ∨ 0 < r.completed ∨ r.queries ≠ [] ∨ 0 < r.hinted

instance (r : OpRecord) : Decidable r.Outstanding := inferInstanceAs (Decidable (_ ∨ _))

/-- A completion callback may be called in this state. -/
def MayBeCalled (filter : CompletionCallbackFilter) : OpState → Prop
  | .done | .failed => True
  | .canceled => filter = .none
  | .notStarted | .running | .canceling => False

/-- The completion callback and the crawler's own are called as they should be. -/
structure Notifies (r : OpRecord) : Prop where
  once : r.called.length ≤ 1
  called : ∀ state ∈ r.called, MayBeCalled r.op.completionCallbackFilter state
  nonempty : r.calledEmpty = false

/-- What the crawler promises for one operation. -/
structure Correct (r : OpRecord) : Prop extends r.Notifies where
  contained : ¬ r.Outstanding → r.isContained = false

/-! ## The invariant -/

/-- Nothing has been asked for, and no event is posted. -/
structure Quiet (r : OpRecord) : Prop where
  yielded : r.yielded = 0
  completed : r.completed = 0
  queries : r.queries = []
  hinted : r.hinted = 0
  waiting : r.op.isWaitingForItemHint = false

/-- The operation has started, and will notify its crawler. -/
structure Started (r : OpRecord) : Prop where
  timer : r.delayed ≠ some true
  callback : r.op.hasOpDoneNotificationCallback = true
  completed : r.completed = 0

/-- What an operation in `ops_` can be waiting for. -/
inductive Progresses (r : OpRecord) : Prop where
  | delayed (state : r.op.state = .notStarted ∨ r.op.state = .canceling)
      (timer : r.delayed = some true) (quiet : r.Quiet)
  | yielded (state : r.op.state = .running ∨ r.op.state = .canceling)
      (started : r.Started) (event : r.yielded = 1) (queries : r.queries = [])
      (hinted : r.hinted = 0) (waiting : r.op.isWaitingForItemHint = false)
  | searching (state : r.op.state = .running) (started : r.Started) (event : r.yielded = 0)
      (asked : r.queries ≠ [] ∨ 0 < r.hinted)
      (waiting : r.op.isWaitingForItemHint = true → 0 < r.hinted)
  | ended (state : r.op.state = .done ∨ r.op.state = .failed ∨ r.op.state = .canceled)
      (timer : r.delayed ≠ some true) (event : 0 < r.completed)
      (queries : r.op.state = .canceled → r.queries = [])

/-- The operation has not been passed to `run`. -/
structure Fresh (r : OpRecord) : Prop where
  contained : r.isContained = false
  called : r.called = []
  timer : r.delayed = none
  state : r.op.state = .notStarted ∨ r.op.state = .canceling
  quiet : r.Quiet

/-- The invariant of one operation. -/
structure Sound (r : OpRecord) : Prop extends r.Notifies where
  fresh : r.wasRun = false → r.Fresh
  uncalled : r.isContained = true → r.called = []
  progresses : r.isContained = true → r.Progresses
  left : r.wasRun = true → r.isContained = false →
    r.op.state ≠ .notStarted ∧ r.op.state ≠ .running

theorem Progresses.outstanding {r : OpRecord} (h : r.Progresses) : r.Outstanding := by
  cases h with
  | delayed state timer quiet => exact Or.inl (by rw [timer]; exact Option.isSome_some)
  | yielded state started event queries hinted waiting =>
    exact Or.inr (Or.inl (by rw [event]; exact Nat.one_pos))
  | searching state started event asked waiting =>
    exact Or.inr (Or.inr (Or.inr asked))
  | ended state timer event queries => exact Or.inr (Or.inr (Or.inl event))

theorem Sound.correct {r : OpRecord} (h : r.Sound) : r.Correct := by
  refine ⟨h.toNotifies, fun hidle => ?_⟩
  rcases hcontained : r.isContained with _ | _
  · rfl
  · exact absurd (h.progresses hcontained).outstanding hidle

theorem Sound.wasRun {r : OpRecord} (h : r.Sound) (hcontained : r.isContained = true) :
    r.wasRun = true := by
  rcases hrun : r.wasRun with _ | _
  · rw [(h.fresh hrun).contained] at hcontained
    exact absurd hcontained nofun
  · rfl

theorem init_sound (new : OpId → NewOp) (op : OpId) : ((Iface.init new).ops op).Sound where
  once := Nat.zero_le 1
  called := nofun
  nonempty := rfl
  fresh _ := ⟨rfl, rfl, rfl, Or.inl rfl, ⟨rfl, rfl, rfl, rfl, rfl⟩⟩
  uncalled := nofun
  progresses := nofun
  left := nofun

/-! ## Records that differ in a part -/

section Parts

variable {r r' : OpRecord}

theorem Sound.of_contained (hcontained : r'.isContained = true) (hrun : r'.wasRun = true)
    (hcalled : r'.called = []) (hnonempty : r'.calledEmpty = false) (hp : r'.Progresses) :
    r'.Sound where
  once := by rw [hcalled]; exact Nat.zero_le 1
  called := by rw [hcalled]; exact nofun
  nonempty := hnonempty
  fresh hfresh := absurd (hrun.symm.trans hfresh) nofun
  uncalled _ := hcalled
  progresses _ := hp
  left _ hleft := absurd (hcontained.symm.trans hleft) nofun

/-- An operation in `ops_` that stays there. -/
theorem Sound.stay (h : r.Sound) (hcontained : r.isContained = true)
    (hsame : r'.wasRun = r.wasRun ∧ r'.isContained = r.isContained ∧ r'.called = r.called)
    (hnonempty : r'.calledEmpty = false) (hp : r'.Progresses) : r'.Sound :=
  Sound.of_contained (hsame.2.1.trans hcontained) (hsame.1.trans (h.wasRun hcontained))
    (hsame.2.2.trans (h.uncalled hcontained)) hnonempty hp

/-- An operation that is not in `ops_`, or has just left it. -/
theorem Sound.of_left (h : r.Notifies) (hrun : r.wasRun = true) (hleft : r.isContained = false)
    (hstate : r.op.state ≠ .notStarted ∧ r.op.state ≠ .running) : r.Sound where
  toNotifies := h
  fresh hfresh := absurd (hrun.symm.trans hfresh) nofun
  uncalled hcontained := absurd (hleft.symm.trans hcontained) nofun
  progresses hcontained := absurd (hleft.symm.trans hcontained) nofun
  left _ _ := hstate

/-- What has been called stays the same, and so does the filter. -/
theorem Notifies.of_same (h : r.Notifies) (hcalled : r'.called = r.called)
    (hnonempty : r'.calledEmpty = false)
    (hfilter : r'.op.completionCallbackFilter = r.op.completionCallbackFilter) :
    r'.Notifies where
  once := by rw [hcalled]; exact h.once
  called := by rw [hcalled, hfilter]; exact h.called
  nonempty := hnonempty

theorem Sound.leave (h : r.Notifies) (hrun : r'.wasRun = true) (hleft : r'.isContained = false)
    (hcalled : r'.called = r.called) (hnonempty : r'.calledEmpty = false)
    (hfilter : r'.op.completionCallbackFilter = r.op.completionCallbackFilter)
    (hstate : r'.op.state ≠ .notStarted ∧ r'.op.state ≠ .running) : r'.Sound :=
  Sound.of_left (h.of_same hcalled hnonempty hfilter) hrun hleft hstate

end Parts

/-! ## Cancelling and starting -/

section Start

variable {r : OpRecord}

theorem Quiet.cancel (h : r.Quiet) : r.cancel.Quiet :=
  ⟨h.yielded, h.completed, h.queries, h.hinted, h.waiting⟩

theorem cancel_state_of_unfinished
    (h : r.op.state = .notStarted ∨ r.op.state = .running ∨ r.op.state = .canceling) :
    r.cancel.op.state = .canceling := by
  unfold OpRecord.cancel
  rw [OperationBase.cancel_of_unfinished h]

/-- A running operation must have yielded to make anything of being cancelled. -/
theorem Progresses.cancel (h : r.Progresses) (hcancel : r.op.state = .running → 0 < r.yielded) :
    r.cancel.Progresses := by
  cases h with
  | delayed state timer quiet =>
    have hstate := cancel_state_of_unfinished (state.imp_right Or.inr)
    exact .delayed (Or.inr hstate) timer quiet.cancel
  | yielded state started event queries hinted waiting =>
    have hstate := cancel_state_of_unfinished (Or.inr state)
    have hcallback : r.cancel.op.hasOpDoneNotificationCallback = true :=
      (OperationBase.cancel_callback _).trans started.callback
    exact .yielded (Or.inr hstate) ⟨started.timer, hcallback, started.completed⟩ event queries
      hinted waiting
  | searching state started event asked waiting =>
    exact absurd event (Nat.ne_of_gt (hcancel state))
  | ended state timer event queries =>
    have hstate : r.cancel.op.state = r.op.state := OperationBase.cancel_of_ended state
    refine .ended ?_ timer event ?_
    · rw [hstate]
      exact state
    · rw [hstate]
      exact queries

theorem Sound.cancel (h : r.Sound) (hcancel : r.op.state = .running → 0 < r.yielded) :
    r.cancel.Sound where
  toNotifies := h.toNotifies.of_same rfl h.nonempty (OperationBase.cancel_filter _)
  fresh hfresh :=
    let fresh := h.fresh hfresh
    ⟨fresh.contained, fresh.called, fresh.timer,
      Or.inr (cancel_state_of_unfinished (fresh.state.imp_right Or.inr)), fresh.quiet.cancel⟩
  uncalled := h.uncalled
  progresses hcontained := (h.progresses hcontained).cancel hcancel
  left _ _ := OperationBase.cancel_state r.op.toOperationBase

theorem start_of_started (h : r.Notifies) (hrun : r.wasRun = true)
    (hstate : r.op.state ≠ .notStarted ∧ r.op.state ≠ .running) (listId : ListId)
    (enter : OpResult) : (r.start listId enter).Sound := by
  rw [start_eq_of_started hstate.1]
  exact Sound.leave h hrun rfl rfl h.nonempty rfl hstate

/-- A delayed operation that is cancelled is removed. -/
theorem Sound.cancelDelayed (h : r.Sound) (listId : ListId) (enter : OpResult) :
    (r.cancelDelayed listId enter).Sound := by
  have hstate := OperationBase.cancel_state r.op.toOperationBase
  have hnotifies : r.cancel.Notifies :=
    h.toNotifies.of_same rfl h.nonempty (OperationBase.cancel_filter _)
  unfold OpRecord.cancelDelayed
  rw [start_eq_of_started hstate.1]
  refine ⟨hnotifies.of_same rfl hnotifies.nonempty rfl, ?_, nofun, nofun, fun _ _ => hstate⟩
  intro hfresh
  have hfresh := h.fresh hfresh
  have htimer : (r.delayed.map fun _ => false) = none := by
    rw [hfresh.timer]
    rfl
  exact ⟨rfl, hfresh.called, htimer,
    Or.inr (cancel_state_of_unfinished (hfresh.state.imp_right Or.inr)),
    hfresh.quiet.yielded, hfresh.quiet.completed, hfresh.quiet.queries, hfresh.quiet.hinted,
    hfresh.quiet.waiting⟩

/-- A new operation yields, enters a list, or fails and is removed. -/
theorem start_sound (hcontained : r.isContained = true) (hrun : r.wasRun = true)
    (hcalled : r.called = []) (hnonempty : r.calledEmpty = false)
    (hstate : r.op.state = .notStarted ∨ r.op.state = .canceling)
    (htimer : r.delayed ≠ some true) (hquiet : r.Quiet) (listId : ListId) (enter : OpResult) :
    (r.start listId enter).Sound := by
  have hnotifies : r.Notifies := by
    refine ⟨?_, ?_, hnonempty⟩
    · rw [hcalled]
      exact Nat.zero_le 1
    · rw [hcalled]
      exact nofun
  rcases hstate with hstate | hstate
  · have hbase := OperationBase.beginStart_of_notStarted hstate
    unfold OpRecord.start FindNextOp.start
    rw [hbase]
    dsimp only
    rcases FindNextOp.doStart_cases
        { r.op with state := .running, hasOpDoneNotificationCallback := true } rfl rfl listId enter
      with hyield | ⟨query, hquery⟩ | hfail
    · rw [hyield]
      refine Sound.of_contained hcontained hrun hcalled ?_
        (.yielded (Or.inl rfl) ⟨htimer, rfl, hquiet.completed⟩ ?_ ?_ hquiet.hinted hquiet.waiting)
      · exact (Bool.or_false _).trans hnonempty
      · exact congrArg (· + 1) hquiet.yielded
      · exact (List.append_nil _).trans hquiet.queries
    · rw [hquery]
      refine Sound.of_contained hcontained hrun hcalled ?_
        (.searching rfl ⟨htimer, rfl, hquiet.completed⟩ hquiet.yielded (Or.inl ?_) ?_)
      · exact (Bool.or_false _).trans hnonempty
      · exact List.append_ne_nil_of_right_ne_nil _ (List.cons_ne_nil query [])
      · intro hwaiting
        exact absurd (hquiet.waiting.symm.trans hwaiting) nofun
    · rw [hfail]
      refine Sound.leave hnotifies hrun rfl rfl ?_ rfl ⟨nofun, nofun⟩
      exact (Bool.or_false _).trans hnonempty
  · have hstarted : r.op.state ≠ .notStarted ∧ r.op.state ≠ .running := by
      rw [hstate]
      exact ⟨nofun, nofun⟩
    exact start_of_started hnotifies hrun hstarted listId enter

/-- The timer of an operation that has been replaced is not waited for. -/
theorem Progresses.without_timer (h : r.Progresses) (htimer : r.delayed ≠ some true) :
    Progresses { r with delayed := none } := by
  cases h with
  | delayed state timer quiet => exact absurd timer htimer
  | yielded state started event queries hinted waiting =>
    exact .yielded state ⟨nofun, started.callback, started.completed⟩ event queries hinted waiting
  | searching state started event asked waiting =>
    exact .searching state ⟨nofun, started.callback, started.completed⟩ event asked waiting
  | ended state timer event queries => exact .ended state nofun event queries

/-- The end of a timer starts the operation, or removes it if it has been cancelled. -/
theorem Sound.runDelayed (h : r.Sound) {isActive : Bool} (htimer : r.delayed = some isActive)
    (listId : ListId) (enter : OpResult) : (r.runDelayed isActive listId enter).Sound := by
  have hrun : r.wasRun = true := by
    rcases hrun : r.wasRun with _ | _
    · rw [(h.fresh hrun).timer] at htimer
      exact absurd htimer nofun
    · rfl
  unfold OpRecord.runDelayed
  rcases Bool.eq_false_or_eq_true r.isContained with hcontained | hcontained
  rotate_left
  · have hleft := h.left hrun hcontained
    cases isActive with
    | false => exact Sound.leave h.toNotifies hrun hcontained rfl h.nonempty rfl hleft
    | true =>
      exact start_of_started (r := { r with delayed := none })
        ⟨h.once, h.called, h.nonempty⟩ hrun hleft listId enter
  · cases isActive with
    | false =>
      have htimer : r.delayed ≠ some true := by
        rw [htimer]
        exact nofun
      exact h.stay hcontained ⟨rfl, rfl, rfl⟩ h.nonempty
        ((h.progresses hcontained).without_timer htimer)
    | true =>
      cases h.progresses hcontained with
      | delayed state timer quiet =>
        exact start_sound (r := { r with delayed := none }) hcontained hrun
          (h.uncalled hcontained) h.nonempty state (Option.some_ne_none true).symm
          ⟨quiet.yielded, quiet.completed, quiet.queries, quiet.hinted, quiet.waiting⟩
          listId enter
      | yielded state started => exact absurd htimer started.timer
      | searching state started => exact absurd htimer started.timer
      | ended state timer => exact absurd htimer timer

end Start

/-! ## Searching -/

section Search

variable {r : OpRecord} {op : FindNextOp} {done : FindNextOp × Effects}

theorem update_nothing (r : OpRecord) : r.update (r.op, {}) = r := by
  simp [update]

/-- A running operation that has searched has ended or is still searching. -/
theorem update_running (hruns : op.Runs done) (hstate : op.state = .running)
    (hcallback : op.hasOpDoneNotificationCallback = true) (htimer : r.delayed ≠ some true)
    (hyielded : r.yielded = 0) (hcompleted : r.completed = 0)
    (hwaiting : op.isWaitingForItemHint = true → 0 < r.hinted) :
    (r.update done).Progresses ∧ (r.update done).calledEmpty = r.calledEmpty := by
  obtain ⟨op', effects⟩ := done
  rcases hruns.outcome with ⟨isSuccessful, hbase, hnotified⟩ | ⟨hbase, hnotified, hleft⟩
  · rw [OperationBase.operationFinished_of_running hstate hcallback] at hbase hnotified
    dsimp only at hbase hnotified
    have hended : op'.state = .done ∨ op'.state = .failed := by
      rw [hbase]
      cases isSuccessful with
      | false => exact Or.inr rfl
      | true => exact Or.inl rfl
    refine ⟨.ended (hended.imp_right Or.inl) htimer ?_ ?_, ?_⟩
    · simp [update, hnotified]
    · intro hcanceled
      have hcanceled : op'.state = .canceled := hcanceled
      rw [hcanceled] at hended
      exact absurd hended (by decide)
    · simp [update, hnotified]
  · dsimp only at hbase hnotified hleft
    have hstate' : op'.state = .running := by rw [hbase]; exact hstate
    have hcallback' : op'.hasOpDoneNotificationCallback = true := by rw [hbase]; exact hcallback
    refine ⟨.searching hstate' ⟨htimer, hcallback', ?_⟩ ?_ ?_ ?_, ?_⟩
    · simp [update, hnotified, hcompleted]
    · simp [update, hnotified, hyielded]
    · rcases hleft with hwaits | hquery | hpos
      · exact Or.inr (Nat.add_pos_left (hwaiting hwaits) _)
      · obtain ⟨query, hquery⟩ := Option.isSome_iff_exists.mp hquery
        refine Or.inl (List.append_ne_nil_of_right_ne_nil _ ?_)
        rw [hquery]
        exact List.cons_ne_nil query []
      · exact Or.inr (Nat.add_pos_right _ hpos)
    · intro hwaits
      rcases hruns.waiting hwaits with hwaits | hpos
      · exact Nat.add_pos_left (hwaiting hwaits) _
      · exact Nat.add_pos_right _ hpos
    · simp [update, hnotified]

/-- Whatever is still searched for an operation that has ended, it does not change. -/
theorem update_ended (hruns : op.Runs done) (hstate : op.state = .done ∨ op.state = .failed)
    (htimer : r.delayed ≠ some true) (hcompleted : 0 < r.completed) :
    (r.update done).Progresses ∧ (r.update done).calledEmpty = r.calledEmpty := by
  obtain ⟨op', effects⟩ := done
  have hsame : op'.toOperationBase = op.toOperationBase ∧
      (effects.notification = some .bug ∨ effects.notification = none) := by
    rcases hruns.outcome with ⟨isSuccessful, hbase, hnotified⟩ | ⟨hbase, hnotified, _⟩
    · rw [OperationBase.operationFinished_of_done (Or.inr hstate)] at hbase hnotified
      exact ⟨hbase, Or.inl hnotified⟩
    · exact ⟨hbase, Or.inr hnotified⟩
  have hstate' : op'.state = .done ∨ op'.state = .failed := by
    rw [hsame.1]
    exact hstate
  refine ⟨.ended (hstate'.imp_right Or.inl) htimer (Nat.add_pos_left hcompleted _) ?_, ?_⟩
  · intro hcanceled
    have hcanceled : op'.state = .canceled := hcanceled
    rw [hcanceled] at hstate'
    exact absurd hstate' (by decide)
  · rcases hsame.2 with hnotified | hnotified
    · simp [update, hnotified]
    · simp [update, hnotified]

end Search

/-! ## Events -/

section Events

variable {r : OpRecord} {answers : FindNextOp → ListAnswers} {fuel : Nat}

/-- Nothing is outstanding for an operation that has not been run. -/
theorem Sound.wasRun_of_outstanding (h : r.Sound) (hr : r.Outstanding) : r.wasRun = true := by
  rcases Bool.eq_false_or_eq_true r.wasRun with hrun | hrun
  · exact hrun
  · have hfresh := h.fresh hrun
    rcases hr with htimer | hyielded | hcompleted | hqueries | hhinted
    · rw [hfresh.timer] at htimer
      exact absurd htimer nofun
    · exact absurd hfresh.quiet.yielded (Nat.ne_of_gt hyielded)
    · exact absurd hfresh.quiet.completed (Nat.ne_of_gt hcompleted)
    · exact absurd hfresh.quiet.queries hqueries
    · exact absurd hfresh.quiet.hinted (Nat.ne_of_gt hhinted)

/-- A query is taken away, but something else is still outstanding. -/
theorem Sound.takeQuery (h : r.Sound) {query : EnterListParameters} (hquery : query ∈ r.queries)
    (hleft : r.isContained = true → r.queries.erase query ≠ [] ∨ 0 < r.hinted) :
    (r.takeQuery query).Sound := by
  have hqueries : r.queries ≠ [] := List.ne_nil_of_mem hquery
  have hrun := h.wasRun_of_outstanding (Or.inr (Or.inr (Or.inr (Or.inl hqueries))))
  rcases Bool.eq_false_or_eq_true r.isContained with hcontained | hcontained
  · refine h.stay hcontained ⟨rfl, rfl, rfl⟩ h.nonempty ?_
    cases h.progresses hcontained with
    | delayed state timer quiet => exact absurd quiet.queries hqueries
    | yielded state started event queries => exact absurd queries hqueries
    | searching state started event asked waiting =>
      exact .searching state ⟨started.timer, started.callback, started.completed⟩ event
        (hleft hcontained) waiting
    | ended state timer event queries =>
      exact .ended state timer event fun hstate => absurd (queries hstate) hqueries
  · exact Sound.leave h.toNotifies hrun hcontained rfl h.nonempty rfl (h.left hrun hcontained)

/-- The result of a query is handed to the operation that made it. -/
theorem Sound.enterListResult (h : r.Sound) (hkeeps : ∀ op, (answers op).KeepsGoing)
    {query : EnterListParameters} (hquery : query ∈ r.queries)
    (hcontained : r.isContained = true) {result : OpResult}
    (hresult : result = .succeeded ∨ result = .failed) {lines : Nat}
    {done : FindNextOp × Effects}
    (hdone : r.op.enterListEvent answers fuel result query.callerId lines = some done) :
    ((r.takeQuery query).update done).Sound := by
  have hqueries : r.queries ≠ [] := List.ne_nil_of_mem hquery
  have hruns := FindNextOp.enterListEvent_runs hkeeps fuel hresult _ _ hdone
  cases h.progresses hcontained with
  | delayed state timer quiet => exact absurd quiet.queries hqueries
  | yielded state started event queries => exact absurd queries hqueries
  | searching state started event asked waiting =>
    have hupdate := update_running (r := r.takeQuery query) hruns
      state started.callback started.timer event started.completed waiting
    exact h.stay hcontained ⟨rfl, rfl, rfl⟩ (hupdate.2.trans h.nonempty) hupdate.1
  | ended state timer event queries =>
    have hstate : r.op.state = .done ∨ r.op.state = .failed := by
      rcases state with hstate | hstate | hstate
      · exact Or.inl hstate
      · exact Or.inr hstate
      · exact absurd (queries hstate) hqueries
    have hupdate := update_ended (r := r.takeQuery query) hruns
      hstate timer event
    exact h.stay hcontained ⟨rfl, rfl, rfl⟩ (hupdate.2.trans h.nonempty) hupdate.1

/-- A function passed with a hint is called; it does nothing but for a running operation. -/
theorem Sound.hintDone (h : r.Sound) (hkeeps : ∀ op, (answers op).KeepsGoing)
    (hhinted : r.hinted ≠ 0) {done : FindNextOp × Effects}
    (hdone : r.op.hintedFn answers fuel = some done) :
    (update { r with hinted := r.hinted - 1 } done).Sound := by
  have hrun := h.wasRun_of_outstanding
    (Or.inr (Or.inr (Or.inr (Or.inr (Nat.pos_of_ne_zero hhinted)))))
  rcases Decidable.em (r.op.state = .running) with hactive | hactive
  · have hcontained : r.isContained = true := by
      rcases Bool.eq_false_or_eq_true r.isContained with hcontained | hcontained
      · exact hcontained
      · exact absurd hactive (h.left hrun hcontained).2
    have hruns := FindNextOp.hintedFn_runs hkeeps fuel hactive hdone
    cases h.progresses hcontained with
    | delayed state timer quiet => exact absurd quiet.hinted hhinted
    | yielded state started event queries hinted => exact absurd hinted hhinted
    | searching state started event asked waiting =>
      have hupdate := update_running (r := { r with hinted := r.hinted - 1 }) hruns
        hactive started.callback started.timer event started.completed nofun
      exact h.stay hcontained ⟨rfl, rfl, rfl⟩ (hupdate.2.trans h.nonempty) hupdate.1
    | ended state timer event queries =>
      rw [hactive] at state
      exact absurd state (by decide)
  · have hnothing : done = (r.op, {}) := by
      have hop : r.op.isOpActive ≠ true := fun hop => hactive (of_decide_eq_true hop)
      rw [FindNextOp.hintedFn, if_neg hop] at hdone
      exact (Option.some.inj hdone).symm
    have hsame := update_nothing { r with hinted := r.hinted - 1 }
    rw [hnothing, hsame]
    rcases Bool.eq_false_or_eq_true r.isContained with hcontained | hcontained
    · refine h.stay hcontained ⟨rfl, rfl, rfl⟩ h.nonempty ?_
      cases h.progresses hcontained with
      | delayed state timer quiet => exact absurd quiet.hinted hhinted
      | yielded state started event queries hinted => exact absurd hinted hhinted
      | searching state started event asked waiting => exact absurd state hactive
      | ended state timer event queries => exact .ended state timer event queries
    · exact Sound.leave h.toNotifies hrun hcontained rfl h.nonempty rfl (h.left hrun hcontained)

/-- An operation is continued, or finishes if it has been cancelled. -/
theorem Sound.yieldedNotification (h : r.Sound) (hkeeps : ∀ op, (answers op).KeepsGoing)
    (hyielded : r.yielded ≠ 0) {r' : OpRecord}
    (hr' : OpRecord.yieldedNotification { r with yielded := r.yielded - 1 } answers fuel =
      some r') : r'.Sound := by
  have hrun := h.wasRun_of_outstanding (Or.inr (Or.inl (Nat.pos_of_ne_zero hyielded)))
  unfold OpRecord.yieldedNotification at hr'
  rcases Bool.eq_false_or_eq_true r.isContained with hcontained | hcontained
  · rw [if_pos hcontained] at hr'
    obtain ⟨done, hdone, rfl⟩ := Option.map_eq_some_iff.mp hr'
    unfold FindNextOp.continueRunning at hdone
    cases h.progresses hcontained with
    | delayed state timer quiet => exact absurd quiet.yielded hyielded
    | searching state started event => exact absurd event hyielded
    | yielded state started event queries hinted waiting =>
      have hyields : r.yielded - 1 = 0 := by rw [event]
      rcases state with hstate | hstate
      · rw [hstate] at hdone
        have hruns := FindNextOp.doContinue_runs hkeeps fuel hdone
        have hupdate := update_running (r := { r with yielded := r.yielded - 1 }) hruns
          hstate started.callback started.timer hyields started.completed
          fun hwaits => absurd (waiting.symm.trans hwaits) nofun
        exact h.stay hcontained ⟨rfl, rfl, rfl⟩ (hupdate.2.trans h.nonempty) hupdate.1
      · rw [hstate] at hdone
        obtain rfl := Option.some.inj hdone
        unfold FindNextOp.finish
        rw [OperationBase.operationFinished_of_canceling hstate started.callback]
        refine h.stay hcontained ⟨rfl, rfl, rfl⟩ ?_
          (.ended (Or.inr (Or.inr rfl)) started.timer ?_ fun _ => ?_)
        · exact (Bool.or_false _).trans h.nonempty
        · exact Nat.succ_pos _
        · exact (List.append_nil _).trans queries
    | ended state timer event queries =>
      have hnothing : done = (r.op, {}) := by
        rcases state with hstate | hstate | hstate
        all_goals
          rw [hstate] at hdone
          exact (Option.some.inj hdone).symm
      have hsame := update_nothing { r with yielded := r.yielded - 1 }
      rw [hnothing, hsame]
      exact h.stay hcontained ⟨rfl, rfl, rfl⟩ h.nonempty (.ended state timer event queries)
  · have hnot : ¬ r.isContained = true := by
      rw [hcontained]
      exact nofun
    rw [if_neg hnot] at hr'
    obtain rfl := Option.some.inj hr'
    exact Sound.leave h.toNotifies hrun hcontained rfl h.nonempty rfl (h.left hrun hcontained)

/-- The filter is regarded when the caller is notified. -/
theorem mayBeCalled_of_notifyCaller {op : OperationBase} (h : op.notifyCaller.1 = true) :
    MayBeCalled op.completionCallbackFilter op.state := by
  unfold OperationBase.notifyCaller at h
  cases hstate : op.state with
  | done => trivial
  | failed => trivial
  | canceled =>
    rw [hstate] at h
    have hfilter := of_decide_eq_true ((Bool.and_eq_true _ _).mp h).2
    exact hfilter
  | notStarted =>
    rw [hstate] at h
    exact absurd h nofun
  | running =>
    rw [hstate] at h
    exact absurd h nofun
  | canceling =>
    rw [hstate] at h
    exact absurd h nofun

/-- Only an operation that has ended is found in `ops_` when it completes. -/
theorem Sound.completeNotification (h : r.Sound) (hcompleted : r.completed ≠ 0) :
    (completeNotification { r with completed := r.completed - 1 }).Sound := by
  have hrun := h.wasRun_of_outstanding
    (Or.inr (Or.inr (Or.inl (Nat.pos_of_ne_zero hcompleted))))
  unfold OpRecord.completeNotification
  rcases Bool.eq_false_or_eq_true r.isContained with hcontained | hcontained
  · rw [if_pos hcontained]
    have hcalled := h.uncalled hcontained
    cases h.progresses hcontained with
    | delayed state timer quiet => exact absurd quiet.completed hcompleted
    | yielded state started => exact absurd started.completed hcompleted
    | searching state started => exact absurd started.completed hcompleted
    | ended state timer event queries =>
      have hsame := OperationBase.notifyCaller_same r.op.toOperationBase
      have hstate : r.op.toOperationBase.notifyCaller.2.state ≠ .notStarted ∧
          r.op.toOperationBase.notifyCaller.2.state ≠ .running := by
        rw [hsame.1]
        rcases state with hstate | hstate | hstate
        all_goals
          rw [hstate]
          exact ⟨nofun, nofun⟩
      refine Sound.of_left ⟨?_, ?_, h.nonempty⟩ hrun rfl hstate
      · dsimp only
        split_ifs
        · simp [hcalled]
        · simp [hcalled]
      · intro called hmem
        dsimp only at hmem ⊢
        rw [hsame.2]
        split_ifs at hmem with hnotified
        · rw [hcalled, List.nil_append, List.mem_singleton] at hmem
          exact hmem ▸ mayBeCalled_of_notifyCaller hnotified
        · rw [hcalled] at hmem
          exact absurd hmem List.not_mem_nil
  · have hnot : ¬ r.isContained = true := by
      rw [hcontained]
      exact nofun
    rw [if_neg hnot]
    exact Sound.leave h.toNotifies hrun hcontained rfl h.nonempty rfl (h.left hrun hcontained)

end Events

end OpRecord

namespace CrawlerEvent

/-- No running operation is cancelled but between its yield and its continuation, results
go to the operations that have made the queries, and nothing an operation waits for is
lost: the traversal list keeps its searches going, and where a result is `CANCELED` or
handed to no operation, something else is on its way. -/
def KeepsWaiting (s : Iface) : CrawlerEvent → Prop
  | .run .. | .timer .. | .completed _ | .deactivate => True
  | .cancel op => (s.ops op).op.state = .running → 0 < (s.ops op).yielded
  | .enterListResult owner query target result _ answers _ =>
      (∀ op, (answers op).KeepsGoing) ∧ (target = some owner ∨ target = none) ∧
        (target = none ∨ result = .canceled → (s.ops owner).isContained = true →
          (s.ops owner).queries.erase query ≠ [] ∨ 0 < (s.ops owner).hinted)
  | .hintDone _ answers _ | .yielded _ answers _ => ∀ op, (answers op).KeepsGoing

/-- The condition on a step. -/
structure Regular (s : Iface) (e : CrawlerEvent) : Prop where
  keepsWaiting : e.KeepsWaiting s
  unlocked : ¬s.MayDeadlock e

end CrawlerEvent

namespace Iface

/-- The invariant. -/
def Sound (s : Iface) : Prop := ∀ op, (s.ops op).Sound

/-- What the crawler promises for all operations. -/
def Correct (s : Iface) : Prop := ∀ op, (s.ops op).Correct

section Steps

variable {s : Iface}

theorem Sound.setOp (h : s.Sound) (op : OpId) {r : OpRecord} (hr : r.Sound) :
    (s.setOp op r).Sound := by
  intro op'
  unfold Iface.setOp
  rcases Decidable.em (op' = op) with rfl | hne
  · dsimp only
    rw [Function.update_self]
    exact hr
  · dsimp only
    rw [Function.update_of_ne hne]
    exact h op'

theorem Sound.run (h : s.Sound) {op : OpId} (hnew : (s.ops op).wasRun = false)
    (isDelayed : Bool) (listId : ListId) (enter : OpResult) :
    (s.run op isDelayed listId enter).Sound := by
  have hfresh := (h op).fresh hnew
  have hquiet := hfresh.quiet
  unfold Iface.run
  cases isDelayed with
  | false =>
    have htimer : (s.ops op).delayed ≠ some true := by
      rw [hfresh.timer]
      exact nofun
    exact h.setOp op (OpRecord.start_sound
      (r := { s.ops op with wasRun := true, isContained := true }) rfl rfl hfresh.called
      (h op).nonempty hfresh.state htimer
      ⟨hquiet.yielded, hquiet.completed, hquiet.queries, hquiet.hinted, hquiet.waiting⟩
      listId enter)
  | true =>
    have hwaits : OpRecord.Sound
        { s.ops op with wasRun := true, isContained := true, delayed := some true } :=
      OpRecord.Sound.of_contained rfl rfl hfresh.called (h op).nonempty
        (.delayed hfresh.state rfl
          ⟨hquiet.yielded, hquiet.completed, hquiet.queries, hquiet.hinted, hquiet.waiting⟩)
    cases hdelayed : s.delayedOp with
    | none => exact h.setOp op hwaits
    | some waiting =>
      exact (h.setOp waiting ((h waiting).cancelDelayed listId enter)).setOp op hwaits

theorem Sound.deactivate (h : s.Sound) : s.deactivate.Sound := by
  intro op
  unfold Iface.deactivate
  dsimp only
  split_ifs with hcontained
  · exact OpRecord.Sound.leave (h op).toNotifies ((h op).wasRun hcontained) rfl rfl
      (h op).nonempty (OperationBase.cancel_filter _) (OperationBase.cancel_state _)
  · exact h op

theorem takeQuery_ops (owner : OpId) (query : EnterListParameters) :
    (s.takeQuery owner query).ops owner = (s.ops owner).takeQuery query :=
  Function.update_self _ _ _

theorem takeQuery_setOp (owner : OpId) (query : EnterListParameters) (r : OpRecord) :
    (s.takeQuery owner query).setOp owner r = s.setOp owner r := by
  simp [Iface.takeQuery, Iface.setOp]

/-- What becomes of the result of a query. -/
theorem step_enterListResult {owner : OpId} {query : EnterListParameters}
    {target : Option OpId} {result : OpResult} {lines : Nat}
    {answers : FindNextOp → ListAnswers} {fuel : Nat} {s' : Iface}
    (hs : s.step (.enterListResult owner query target result lines answers fuel) = some s') :
    query ∈ (s.ops owner).queries ∧ result ≠ .started ∧ result ≠ .busy ∧
      ((target = none ∧ s' = s.takeQuery owner query) ∨
        ∃ op, target = some op ∧ (s.takeQuery owner query).Finds query op ∧
          (s.takeQuery owner query).handleResult query op result lines answers fuel =
            some s') := by
  unfold Iface.step at hs
  dsimp only at hs
  rcases Decidable.em
    (query ∉ (s.ops owner).queries ∨ result = .started ∨ result = .busy) with hnot | hpossible
  · rw [if_pos hnot] at hs
    exact absurd hs nofun
  · rw [if_neg hpossible] at hs
    obtain ⟨hquery, hresult⟩ := not_or.mp hpossible
    obtain ⟨hstarted, hbusy⟩ := not_or.mp hresult
    refine ⟨not_not.mp hquery, hstarted, hbusy, ?_⟩
    cases target with
    | none =>
      dsimp only at hs
      split_ifs at hs
      exact Or.inl ⟨rfl, (Option.some.inj hs).symm⟩
    | some op =>
      dsimp only at hs
      split_ifs at hs with hfinds
      exact Or.inr ⟨op, rfl, hfinds, hs⟩

/-- The operation the result is handed to is the one that made the query. -/
theorem Sound.enterListResult (h : s.Sound) {owner : OpId} {query : EnterListParameters}
    {target : Option OpId} {result : OpResult} {lines : Nat}
    {answers : FindNextOp → ListAnswers} {fuel : Nat}
    (he : (CrawlerEvent.enterListResult owner query target result lines answers fuel).Regular s)
    {s' : Iface}
    (hs : s.step (.enterListResult owner query target result lines answers fuel) = some s') :
    s'.Sound := by
  obtain ⟨hkeeps, htarget, hleft⟩ := he.keepsWaiting
  obtain ⟨hquery, hstarted, hbusy, ⟨hnone, rfl⟩ | ⟨op, hsome, hfinds, hhandled⟩⟩ :=
    step_enterListResult hs
  · exact h.setOp owner ((h owner).takeQuery hquery (hleft (Or.inl hnone)))
  · have hop : op = owner := by
      rw [hsome] at htarget
      simpa using htarget
    subst hop
    obtain ⟨done, hdone, hs'⟩ := Option.map_eq_some_iff.mp hhandled
    rw [takeQuery_ops] at hdone
    rw [← hs', takeQuery_ops, takeQuery_setOp]
    have hcontained : ((s.takeQuery op query).ops op).isContained = true := hfinds.1
    rw [takeQuery_ops] at hcontained
    apply h.setOp op
    cases result with
    | started => exact absurd rfl hstarted
    | busy => exact absurd rfl hbusy
    | canceled =>
      obtain rfl := Option.some.inj hdone
      rw [OpRecord.update_nothing]
      exact (h op).takeQuery hquery (hleft (Or.inr rfl))
    | succeeded => exact (h op).enterListResult hkeeps hquery hcontained (Or.inl rfl) hdone
    | failed => exact (h op).enterListResult hkeeps hquery hcontained (Or.inr rfl) hdone

theorem Sound.step (h : s.Sound) {e : CrawlerEvent} (he : e.Regular s) {s' : Iface}
    (hs : s.step e = some s') : s'.Sound := by
  cases e with
  | run op isDelayed listId enter =>
    unfold Iface.step at hs
    dsimp only at hs
    split_ifs at hs with hrun
    obtain rfl := Option.some.inj hs
    exact h.run (Bool.eq_false_iff.mpr hrun) isDelayed listId enter
  | timer op listId enter =>
    obtain ⟨isActive, htimer, rfl⟩ := Option.map_eq_some_iff.mp hs
    exact h.setOp op ((h op).runDelayed htimer listId enter)
  | cancel op =>
    obtain rfl := Option.some.inj hs
    exact h.setOp op ((h op).cancel he.keepsWaiting)
  | enterListResult => exact h.enterListResult he hs
  | hintDone op answers fuel =>
    unfold Iface.step at hs
    dsimp only at hs
    split_ifs at hs with hhinted
    obtain ⟨done, hdone, rfl⟩ := Option.map_eq_some_iff.mp hs
    exact h.setOp op ((h op).hintDone he.keepsWaiting hhinted hdone)
  | yielded op answers fuel =>
    unfold Iface.step at hs
    dsimp only at hs
    split_ifs at hs with hyielded
    obtain ⟨r', hr', rfl⟩ := Option.map_eq_some_iff.mp hs
    exact h.setOp op ((h op).yieldedNotification he.keepsWaiting hyielded hr')
  | completed op =>
    unfold Iface.step at hs
    dsimp only at hs
    split_ifs at hs with hcompleted
    obtain rfl := Option.some.inj hs
    exact h.setOp op ((h op).completeNotification hcompleted)
  | deactivate =>
    obtain rfl := Option.some.inj hs
    exact h.deactivate

end Steps

/-! ## All runs -/

/-- A step after which the crawler has kept its promises. -/
def StepCorrect (s : Iface) (e : CrawlerEvent) : Prop :=
  ∀ s', s.step e = some s' → s'.Correct

theorem init_sound (new : OpId → NewOp) : (Iface.init new).Sound := fun op =>
  OpRecord.init_sound new op

/-- In a run in which no running operation is cancelled but between its yield and its
continuation, nothing an operation waits for is lost, and the crawler does not wait for its own
lock, it keeps its promises after every step. -/
theorem crawler_run_correct (new : OpId → NewOp) (events : List CrawlerEvent)
    (hregular : AlongRun step (fun s e => e.Regular s) (Iface.init new) events) :
    AlongRun step StepCorrect (Iface.init new) events :=
  AlongRun.imp (I := Iface.Sound) (fun _ _ _ h he hs => h.step he hs)
    (fun _ _ h he _ hs op => (h.step he hs op).correct) events (init_sound new) hregular

/-- What a traversal list answers while all its five items are files in the cache, and
while they are not. -/
def cachedFiles : ListAnswers :=
  ⟨5, ⟨.succeeded, false⟩, (.succeeded, some false), ({}, false), none, .started⟩

def fetchedFiles : ListAnswers :=
  ⟨5, ⟨.started, true⟩, (.started, none), ({}, false), none, .started⟩

/-- Operations that are to find the first item of list 1. -/
def findFirstItem : NewOp :=
  { recursiveMode := .depthFirst, direction := .forward
    position := Cursor.make ⟨1⟩ 0 0 5, findMode := .findFirst }

/-- The list is entered, and its first item is found. -/
theorem crawler_run_correct_find_first :
    AlongRun step StepCorrect (Iface.init fun _ => findFirstItem)
      [.run 0 false ⟨2⟩ .started,
        .enterListResult 0 ⟨.crawlerFirstEntry, ⟨1⟩, 0⟩ (some 0) .succeeded 5
          (fun _ => cachedFiles) 5,
        .completed 0, .deactivate] := by
  apply crawler_run_correct
  have hkeeps : cachedFiles.KeepsGoing :=
    ⟨⟨nofun, nofun⟩, nofun, ⟨nofun, nofun⟩, nofun, ⟨nofun, nofun⟩⟩
  refine .cons_of_step ⟨trivial, fun h => ?_⟩ rfl ?_
  · obtain ⟨op, hop⟩ := h.1
    exact hop rfl
  refine .cons_of_step ⟨⟨fun _ => hkeeps, Or.inl rfl, nofun⟩, fun h => ?_⟩ rfl ?_
  · obtain ⟨op, hop⟩ := h.1
    cases op with
    | zero => exact hop rfl
    | succ op => exact hop rfl
  refine .cons_of_step ⟨trivial, id⟩ rfl ?_
  refine .cons_of_step ⟨trivial, fun h => ?_⟩ rfl trivial
  obtain ⟨op, hop⟩ := h.1
  cases op with
  | zero => exact hop rfl
  | succ op => exact hop rfl

/-- An operation that is cancelled while it waits for items is never removed. -/
theorem canceled_operation_left_behind :
    ¬AlongRun step StepCorrect (Iface.init fun _ => findFirstItem)
      [.run 0 false ⟨2⟩ .started,
        .enterListResult 0 ⟨.crawlerFirstEntry, ⟨1⟩, 0⟩ (some 0) .succeeded 5
          (fun _ => fetchedFiles) 5,
        .cancel 0, .hintDone 0 (fun _ => cachedFiles) 5] := by
  intro h
  have hcorrect := (((h.2 _ rfl).2 _ rfl).2 _ rfl).1
  have hleft := (hcorrect _ rfl 0).contained (by decide)
  cases hleft

end Iface

end Drcpd.Crawler

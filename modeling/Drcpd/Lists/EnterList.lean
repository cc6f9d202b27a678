/-
  Lists/EnterList.lean --- what entering a list does.

  A completion may be reported while another one is being handled: waiting for a
  cancelled call reports the call at once.  `handleDone_of_idle` says that this ends,
  and that it changes one query only, as long as the query is not the current one.
  `handleDone_preserves` says what it can do to the rest of the list.
-/
import Drcpd.Lists.DBusList

set_option autoImplicit false

namespace Drcpd.Lists

open Drcpd.DBus Drcpd.Rnf

variable {Item E : Type}

/-! ## The queries -/

namespace EnterListData

variable (d : EnterListData E) (q : QueryId) (x : EnterListQuery E)

@[simp] theorem setQuery_query : (d.setQuery q x).query = d.query := rfl

@[simp] theorem setQuery_nextQuery : (d.setQuery q x).nextQuery = d.nextQuery := rfl

@[simp] theorem setQuery_watched : (d.setQuery q x).watched = d.watched := rfl

@[simp] theorem setQuery_queries_self : (d.setQuery q x).queries q = x := by
  simp [setQuery]

theorem setQuery_queries_of_ne {j : QueryId} (h : j ≠ q) :
    (d.setQuery q x).queries j = d.queries j := by
  simp [setQuery, h]

@[simp] theorem notifyWatcher_query (result : OpResult) :
    (d.notifyWatcher result q).query = d.query := rfl

@[simp] theorem notifyWatcher_nextQuery (result : OpResult) :
    (d.notifyWatcher result q).nextQuery = d.nextQuery := rfl

@[simp] theorem notifyWatcher_queries (result : OpResult) :
    (d.notifyWatcher result q).queries = d.queries := rfl

end EnterListData

/-- Two states of the queries differ in the query `q` only, which is still pending if
it was. -/
structure OnlyTouches (d d' : EnterListData E) (q : QueryId) : Prop where
  query : d'.query = d.query
  nextQuery : d'.nextQuery = d.nextQuery
  others : ∀ j, j ≠ q → d'.queries j = d.queries j
  captured : (d'.queries q).captured = (d.queries q).captured
  outstanding : (d'.queries q).outstanding = (d.queries q).outstanding
  isCancelled : (d'.queries q).call.isCancelled = (d.queries q).call.isCancelled

namespace OnlyTouches

variable {d d' d'' : EnterListData E} {q : QueryId}

theorem refl (d : EnterListData E) (q : QueryId) : OnlyTouches d d q :=
  ⟨rfl, rfl, fun _ _ => rfl, rfl, rfl, rfl⟩

theorem trans (h : OnlyTouches d d' q) (h' : OnlyTouches d' d'' q) : OnlyTouches d d'' q where
  query := h'.query.trans h.query
  nextQuery := h'.nextQuery.trans h.nextQuery
  others j hj := (h'.others j hj).trans (h.others j hj)
  captured := h'.captured.trans h.captured
  outstanding := h'.outstanding.trans h.outstanding
  isCancelled := h'.isCancelled.trans h.isCancelled

theorem setQuery {x : EnterListQuery E} (hcaptured : x.captured = (d.queries q).captured)
    (houtstanding : x.outstanding = (d.queries q).outstanding)
    (hcancelled : x.call.isCancelled = (d.queries q).call.isCancelled) :
    OnlyTouches d (d.setQuery q x) q where
  query := rfl
  nextQuery := rfl
  others j hj := d.setQuery_queries_of_ne q x hj
  captured := by rw [EnterListData.setQuery_queries_self, hcaptured]
  outstanding := by rw [EnterListData.setQuery_queries_self, houtstanding]
  isCancelled := by rw [EnterListData.setQuery_queries_self, hcancelled]

end OnlyTouches

namespace EnterListQuery

/-- The call runs and has not been reported. -/
structure Waiting (x : EnterListQuery E) : Prop where
  hasCall : x.hasCall = true
  inProgress : x.call.callState = .inProgress
  unreported : x.call.haveReportedResult = false
  promise : x.call.promise = none
  future : x.call.futureTaken = false
  outstanding : x.outstanding = true

/-- There is no call, or it has ended. -/
def Stopped (x : EnterListQuery E) : Prop :=
  x.hasCall = true →
    x.call.callState = .done ∨ x.call.callState = .canceled ∨ x.call.callState = .restarted

/-- The call has been cancelled and not been waited for. -/
structure CancelledInProgress (x : EnterListQuery E) : Prop where
  inProgress : x.call.callState = .inProgress
  isCancelled : x.call.isCancelled = true
  future : x.call.futureTaken = false

/-- A query that is nothing to wait for. -/
def Settled (x : EnterListQuery E) : Prop := x.Stopped ∨ x.CancelledInProgress

/-- A query that is over: it is settled, and if GLib still calls back, then for a
cancelled call. -/
structure Idle (x : EnterListQuery E) : Prop where
  settled : x.Settled
  cancelled : x.outstanding = true → x.call.isCancelled = true

theorem Waiting.idle_of_isCancelled {x : EnterListQuery E} (h : x.Waiting)
    (hc : x.call.isCancelled = true) : x.Idle :=
  ⟨Or.inr ⟨h.inProgress, hc, h.future⟩, fun _ => hc⟩

/-- The query after `wait_for_result` has reported its cancelled call. -/
def afterDirectReady (x : EnterListQuery E) : EnterListQuery E :=
  { x with
    call := { x.call with
      futureTaken := true
      callState := if x.call.isCanceledForRestart then .restarted else .canceled
      haveReportedResult := true } }

theorem afterDirectReady_stopped (x : EnterListQuery E) : x.afterDirectReady.Stopped := by
  intro _
  cases hr : x.call.isCanceledForRestart with
  | false => right; left; simp [afterDirectReady, hr]
  | true => right; right; simp [afterDirectReady, hr]

theorem stopped_of_not_success {x : EnterListQuery E} (h : x.Stopped) :
    Stopped { x with hasCall := x.hasCall && x.call.success } := by
  intro hx
  exact h (Bool.and_eq_true_iff.mp hx).1

end EnterListQuery

/-! ## The effect on the rest of the list -/

namespace DBusList

section Preserves

/-- What does not depend on the queries and is kept where a list is entered. -/
structure KeptByEntering (P : DBusList Item E → Prop) : Prop where
  data : ∀ s d, P s → P { s with enterListData := d }
  entered : ∀ s q, P s → P (s.enteredList q)

variable {P : DBusList Item E → Prop}

theorem concludeDone_preserves (hP : KeptByEntering P) {s : DBusList Item E} (q : QueryId)
    (outcome : SyncOutcome) (h : P s) : P (s.concludeDone q outcome) := by
  cases outcome with
  | threw => exact hP.data _ _ h
  | result state =>
    cases state with
    | done => exact hP.data _ _ (hP.entered _ _ h)
    | _ => exact hP.data _ _ h

theorem synchronize_preserves (hP : KeptByEntering P)
    {report : DBusList Item E → QueryId → Option (DBusList Item E)}
    (hreport : ∀ s q s', report s q = some s' → P s → P s')
    {s s' : DBusList Item E} {q : QueryId} {outcome : SyncOutcome}
    (h : s.synchronize report q = some (outcome, s')) (hs : P s) : P s' := by
  unfold synchronize at h
  dsimp only at h
  split at h
  · split at h
    · obtain ⟨rfl, rfl⟩ := Prod.mk.inj (Option.some.inj h)
      exact hP.data _ _ (hP.data _ _ hs)
    · obtain ⟨rfl, rfl⟩ := Prod.mk.inj (Option.some.inj h)
      exact hP.data _ _ hs
    · cases h
    · split at h
      · cases h
      · rename_i s₁ hs₁
        obtain ⟨rfl, rfl⟩ := Prod.mk.inj (Option.some.inj h)
        refine hP.data _ _ ?_
        split at hs₁
        · exact hreport _ _ _ hs₁ (hP.data _ _ hs)
        · rw [← Option.some.inj hs₁]
          exact hP.data _ _ hs
  · obtain ⟨rfl, rfl⟩ := Prod.mk.inj (Option.some.inj h)
    exact hs

theorem resultAvailable_preserves (hP : KeptByEntering P)
    {handleDone : DBusList Item E → QueryId → Option (DBusList Item E)}
    (hdone : ∀ s q s', handleDone s q = some s' → P s → P s')
    {s s' : DBusList Item E} {k : QueryId}
    (h : s.resultAvailable handleDone k = some s') (hs : P s) : P s' := by
  unfold resultAvailable at h
  dsimp only at h
  split_ifs at h
  · exact hdone _ _ _ h hs
  · exact hdone _ _ _ h (hP.data _ _ hs)
  · exact Option.some.inj h ▸ hs

/-- A completion, with all it nests, keeps what entering a list keeps. -/
theorem handleDone_preserves (hP : KeptByEntering P) (fuel : Nat) {s s' : DBusList Item E}
    {q : QueryId} (h : enterListAsyncHandleDone fuel s q = some s') (hs : P s) : P s' := by
  induction fuel generalizing s s' q with
  | zero => cases h
  | succ fuel ih =>
    rw [enterListAsyncHandleDone] at h
    split at h
    · cases h
    · rename_i outcome s₁ hsync
      rw [← Option.some.inj h]
      apply concludeDone_preserves hP
      refine synchronize_preserves hP ?_ hsync hs
      intro s q s' hr
      exact resultAvailable_preserves hP (fun _ _ _ hd => ih hd) hr

theorem onResultAvailable_preserves (hP : KeptByEntering P) {s s' : DBusList Item E}
    {k : QueryId} (h : s.onResultAvailable k = some s') (hs : P s) : P s' :=
  resultAvailable_preserves hP (fun _ _ _ hd => handleDone_preserves hP 2 hd) h hs

theorem cancelEnterListQuery_preserves (hP : KeptByEntering P) {s s' : DBusList Item E}
    (h : s.cancelEnterListQuery = some s') (hs : P s) : P s' := by
  have hcancel : ∀ {q r t}, s.cancelSync q = some (r, t) → P t := by
    intro q r t ht
    unfold cancelSync at ht
    split at ht
    · split at ht
      · cases ht
      · rename_i hsync
        obtain ⟨-, rfl⟩ := Prod.mk.inj (Option.some.inj ht)
        refine synchronize_preserves hP ?_ hsync (hP.data _ _ hs)
        intro s q s' hr
        exact onResultAvailable_preserves hP hr
    · obtain ⟨-, rfl⟩ := Prod.mk.inj (Option.some.inj ht)
      exact hP.data _ _ hs
  unfold cancelEnterListQuery at h
  split at h
  · exact Option.some.inj h ▸ hs
  · split at h
    · cases h
    · rename_i ht
      exact Option.some.inj h ▸ hP.data _ _ (hcancel ht)
    · rename_i ht
      exact Option.some.inj h ▸ hcancel ht
    · rename_i ht
      exact Option.some.inj h ▸ hcancel ht

theorem enterListAsync_preserves (hP : KeptByEntering P) {s s' : DBusList Item E}
    {associatedViewport : Option ViewportId} {listId : ListId} {line : UInt32}
    (h : s.enterListAsync associatedViewport listId line = some s') (hs : P s) : P s' := by
  unfold enterListAsync at h
  split at h
  · cases h
  · rename_i hcancel
    rw [← Option.some.inj h]
    exact hP.data _ _ (hP.data _ _ (cancelEnterListQuery_preserves hP hcancel hs))

theorem checkRangeReady_preserves (hP : KeptByEntering P) {s s' : DBusList Item E}
    {k : QueryId} {answer : Except E UInt32} (h : s.checkRangeReady k answer = some s')
    (hs : P s) : P s' := by
  unfold checkRangeReady at h
  dsimp only at h
  split_ifs at h
  · exact onResultAvailable_preserves hP h (hP.data _ _ hs)
  · exact Option.some.inj h ▸ hP.data _ _ hs

end Preserves

/-! ## The effect on the queries -/

section Queries

variable (s : DBusList Item E) (q : QueryId)

@[simp] theorem notifyWatcher_enterListData (result : OpResult) :
    (s.notifyWatcher result q).enterListData = s.enterListData.notifyWatcher result q := rfl

@[simp] theorem setQuery_enterListData (x : EnterListQuery E) :
    (s.setQuery q x).enterListData = s.enterListData.setQuery q x := rfl

@[simp] theorem enteredList_enterListData :
    (s.enteredList q).enterListData = s.enterListData := rfl

theorem dropCallUnlessSuccess_enterListData :
    (s.dropCallUnlessSuccess q).enterListData =
      s.enterListData.setQuery q
        { s.enterListData.queries q with
          hasCall := (s.enterListData.queries q).hasCall &&
            (s.enterListData.queries q).call.success } := rfl

theorem concludeDone_onlyTouches (outcome : SyncOutcome) :
    OnlyTouches s.enterListData (s.concludeDone q outcome).enterListData q := by
  cases outcome with
  | threw => exact ⟨rfl, rfl, fun _ _ => rfl, rfl, rfl, rfl⟩
  | result state => cases state <;> exact ⟨rfl, rfl, fun _ _ => rfl, rfl, rfl, rfl⟩

theorem concludeDone_queries (outcome : SyncOutcome) :
    (s.concludeDone q outcome).enterListData.queries = s.enterListData.queries := by
  cases outcome with
  | threw => rfl
  | result state => cases state <;> rfl

theorem dropCallUnlessSuccess_onlyTouches :
    OnlyTouches s.enterListData (s.dropCallUnlessSuccess q).enterListData q :=
  OnlyTouches.setQuery rfl rfl rfl

end Queries

section HandleDone

variable {s : DBusList Item E} {q : QueryId}

theorem synchronize_of_no_call
    (report : DBusList Item E → QueryId → Option (DBusList Item E))
    (h : (s.enterListData.queries q).hasCall = false) :
    s.synchronize report q = some (.result .initialized, s) := by
  simp [synchronize, h]

theorem synchronize_of_returned
    (report : DBusList Item E → QueryId → Option (DBusList Item E)) {state : AsyncResult}
    {call : AsyncCall UInt32 E} (h : (s.enterListData.queries q).hasCall = true)
    (hwait : (s.enterListData.queries q).call.waitForResult = (.returned state, call)) :
    s.synchronize report q =
      some (.result state,
        (s.setQuery q { s.enterListData.queries q with call := call }).dropCallUnlessSuccess
          q) := by
  simp [synchronize, h, hwait]

theorem synchronize_of_threw
    (report : DBusList Item E → QueryId → Option (DBusList Item E))
    {call : AsyncCall UInt32 E} (h : (s.enterListData.queries q).hasCall = true)
    (hwait : (s.enterListData.queries q).call.waitForResult = (.threw, call)) :
    s.synchronize report q =
      some (.threw,
        s.setQuery q { s.enterListData.queries q with call := call, hasCall := false }) := by
  simp [synchronize, h, hwait]

/-- Waiting for a query whose call has ended changes nothing but to drop the call. -/
theorem synchronize_of_stopped
    (report : DBusList Item E → QueryId → Option (DBusList Item E))
    (h : (s.enterListData.queries q).Stopped) :
    ∃ outcome s', s.synchronize report q = some (outcome, s') ∧
      OnlyTouches s.enterListData s'.enterListData q ∧
      (s'.enterListData.queries q).Stopped := by
  cases hcall : (s.enterListData.queries q).hasCall with
  | false =>
    refine ⟨_, s, synchronize_of_no_call report hcall, OnlyTouches.refl _ _, h⟩
  | true =>
    have hwait : (s.enterListData.queries q).call.waitForResult =
        (.returned (s.enterListData.queries q).call.callState,
          (s.enterListData.queries q).call) := by
      rcases h hcall with hs | hs | hs <;> simp [AsyncCall.waitForResult, hs]
    refine ⟨_, _, synchronize_of_returned report hcall hwait, ?_, ?_⟩
    · refine OnlyTouches.trans ?_ (dropCallUnlessSuccess_onlyTouches _ q)
      exact OnlyTouches.setQuery rfl rfl rfl
    · rw [dropCallUnlessSuccess_enterListData, EnterListData.setQuery_queries_self]
      apply EnterListQuery.stopped_of_not_success
      simpa using h

theorem handleDone_of_stopped (n : Nat) (h : (s.enterListData.queries q).Stopped) :
    ∃ s', enterListAsyncHandleDone (n + 1) s q = some s' ∧
      OnlyTouches s.enterListData s'.enterListData q ∧
      (s'.enterListData.queries q).Stopped := by
  obtain ⟨outcome, s₁, hsync, htouches, hstopped⟩ :=
    synchronize_of_stopped (resultAvailable (enterListAsyncHandleDone n)) h
  refine ⟨s₁.concludeDone q outcome, ?_, ?_, ?_⟩
  · rw [enterListAsyncHandleDone, hsync]
  · exact htouches.trans (concludeDone_onlyTouches _ q outcome)
  · rw [concludeDone_queries]
    exact hstopped

/-- Waiting for a cancelled call reports it first, if it has not been reported. -/
theorem synchronize_of_cancelled
    (report : DBusList Item E → QueryId → Option (DBusList Item E))
    (hcall : (s.enterListData.queries q).hasCall = true)
    (hc : (s.enterListData.queries q).CancelledInProgress) :
    s.synchronize report q =
      match (if (s.enterListData.queries q).call.haveReportedResult then
          some (s.setQuery q (s.enterListData.queries q).afterDirectReady)
        else report (s.setQuery q (s.enterListData.queries q).afterDirectReady) q) with
      | none => none
      | some s₂ => some (.result (s₂.enterListData.queries q).call.callState,
          s₂.dropCallUnlessSuccess q) := by
  have hwait : (s.enterListData.queries q).call.waitForResult =
      (.readyDirectly,
        { (s.enterListData.queries q).call with
          futureTaken := true, callState := .cancelingDirectly }) := by
    simp [AsyncCall.waitForResult, hc.inProgress, hc.future, hc.isCancelled]
  unfold synchronize
  rw [if_pos hcall, hwait]
  cases hr : (s.enterListData.queries q).call.haveReportedResult with
  | true =>
    simp [EnterListQuery.afterDirectReady, AsyncCall.readyDirectly, AsyncCall.markCanceled,
      AsyncCall.report, hr]
  | false =>
    simp only [AsyncCall.readyDirectly, AsyncCall.markCanceled, AsyncCall.report, hr,
      Bool.not_false, if_true, Bool.false_eq_true, if_false]
    rfl

theorem dropCallUnlessSuccess_stopped (h : (s.enterListData.queries q).Stopped) :
    ((s.dropCallUnlessSuccess q).enterListData.queries q).Stopped := by
  rw [dropCallUnlessSuccess_enterListData, EnterListData.setQuery_queries_self]
  exact EnterListQuery.stopped_of_not_success h

/-- A completion handled for a settled query that is not the current one ends, and
changes this query only. -/
theorem handleDone_of_settled (n : Nat) (hcaptured : (s.enterListData.queries q).captured = q)
    (hquery : s.enterListData.query ≠ some q) (h : (s.enterListData.queries q).Settled) :
    ∃ s', enterListAsyncHandleDone (n + 2) s q = some s' ∧
      OnlyTouches s.enterListData s'.enterListData q ∧
      (s'.enterListData.queries q).Stopped := by
  rcases h with hstopped | hc
  · exact handleDone_of_stopped (n + 1) hstopped
  · cases hcall : (s.enterListData.queries q).hasCall with
    | false => exact handleDone_of_stopped (n + 1) (fun h => absurd h (by simp [hcall]))
    | true =>
      let s₁ := s.setQuery q (s.enterListData.queries q).afterDirectReady
      have h₁ : OnlyTouches s.enterListData s₁.enterListData q :=
        OnlyTouches.setQuery rfl rfl rfl
      have hstopped₁ : (s₁.enterListData.queries q).Stopped := by
        rw [setQuery_enterListData, EnterListData.setQuery_queries_self]
        exact EnterListQuery.afterDirectReady_stopped _
      have hreport : ∃ s₂,
          (if (s.enterListData.queries q).call.haveReportedResult then some s₁
            else resultAvailable (enterListAsyncHandleDone (n + 1)) s₁ q) = some s₂ ∧
          OnlyTouches s₁.enterListData s₂.enterListData q ∧
          (s₂.enterListData.queries q).Stopped := by
        cases (s.enterListData.queries q).call.haveReportedResult with
        | true => exact ⟨s₁, rfl, OnlyTouches.refl _ _, hstopped₁⟩
        | false =>
          have hq₁ : (s₁.enterListData.queries q).captured = q := h₁.captured.trans hcaptured
          have hquery₁ : s₁.enterListData.query ≠ some q := by
            rw [h₁.query]
            exact hquery
          unfold resultAvailable
          simp only [hq₁, if_pos hquery₁]
          exact handleDone_of_stopped n hstopped₁
      obtain ⟨s₂, hs₂, h₂, hstopped₂⟩ := hreport
      have h₃ := dropCallUnlessSuccess_onlyTouches s₂ q
      refine ⟨(s₂.dropCallUnlessSuccess q).concludeDone q
        (.result (s₂.enterListData.queries q).call.callState), ?_, ?_, ?_⟩
      · rw [enterListAsyncHandleDone, synchronize_of_cancelled _ hcall hc, hs₂]
      · exact ((h₁.trans h₂).trans h₃).trans (concludeDone_onlyTouches _ q _)
      · rw [concludeDone_queries]
        exact dropCallUnlessSuccess_stopped hstopped₂

/-- The completion of a call with a result. -/
theorem handleDone_of_ready (n : Nat) {size : UInt32}
    (hcall : (s.enterListData.queries q).hasCall = true)
    (hstate : (s.enterListData.queries q).call.callState = .ready)
    (hcancelled : (s.enterListData.queries q).call.isCancelled = false)
    (hpromise : (s.enterListData.queries q).call.promise = some (.ok size))
    (hfuture : (s.enterListData.queries q).call.futureTaken = false) :
    ∃ s', enterListAsyncHandleDone (n + 1) s q = some s' ∧
      OnlyTouches s.enterListData s'.enterListData q ∧
      (s'.enterListData.queries q).Stopped ∧
      s'.listId = (s.enterListData.queries q).listId ∧ s'.numberOfItems = size.toNat ∧
      s'.enterListData.watched = s.enterListData.watched ++ [(.succeeded, q)] := by
  have hwait : (s.enterListData.queries q).call.waitForResult =
      (.returned .done,
        { (s.enterListData.queries q).call with
          futureTaken := true, callState := .done, returnValue := some size }) := by
    simp [AsyncCall.waitForResult, hstate, hfuture, hcancelled, hpromise]
  refine ⟨((s.setQuery q { s.enterListData.queries q with
    call := { (s.enterListData.queries q).call with
      futureTaken := true, callState := .done, returnValue := some size }
    }).dropCallUnlessSuccess q).concludeDone q (.result .done), ?_, ?_, ?_⟩
  · rw [enterListAsyncHandleDone, synchronize_of_returned _ hcall hwait]
  · refine OnlyTouches.trans ?_ (concludeDone_onlyTouches _ q _)
    refine OnlyTouches.trans ?_ (dropCallUnlessSuccess_onlyTouches _ q)
    exact OnlyTouches.setQuery rfl rfl rfl
  · refine ⟨?_, ?_, ?_, rfl⟩
    · rw [concludeDone_queries]
      apply dropCallUnlessSuccess_stopped
      rw [setQuery_enterListData, EnterListData.setQuery_queries_self]
      exact fun _ => Or.inl rfl
    · simp [concludeDone, enteredList, notifyWatcher, dropCallUnlessSuccess_enterListData]
    · simp [concludeDone, enteredList, notifyWatcher, dropCallUnlessSuccess_enterListData]

/-- The completion of a call with an error. -/
theorem handleDone_of_failed (n : Nat) {e : E}
    (hcall : (s.enterListData.queries q).hasCall = true)
    (hstate : (s.enterListData.queries q).call.callState = .failed)
    (hcancelled : (s.enterListData.queries q).call.isCancelled = false)
    (hpromise : (s.enterListData.queries q).call.promise = some (.error e))
    (hfuture : (s.enterListData.queries q).call.futureTaken = false) :
    ∃ s', enterListAsyncHandleDone (n + 1) s q = some s' ∧
      OnlyTouches s.enterListData s'.enterListData q ∧
      (s'.enterListData.queries q).Stopped := by
  have hwait : (s.enterListData.queries q).call.waitForResult =
      (.threw, { (s.enterListData.queries q).call with futureTaken := true }) := by
    simp [AsyncCall.waitForResult, hstate, hfuture, hcancelled, hpromise]
  refine ⟨(s.setQuery q { s.enterListData.queries q with
    call := { (s.enterListData.queries q).call with futureTaken := true }
    hasCall := false }).concludeDone q .threw, ?_, ?_, ?_⟩
  · rw [enterListAsyncHandleDone, synchronize_of_threw _ hcall hwait]
  · refine OnlyTouches.trans ?_ (concludeDone_onlyTouches _ q _)
    exact OnlyTouches.setQuery rfl rfl rfl
  · rw [concludeDone_queries, setQuery_enterListData, EnterListData.setQuery_queries_self]
    intro h
    cases h

end HandleDone

end DBusList

end Drcpd.Lists

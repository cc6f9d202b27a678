/-
  Lists/EnterListRuns.lean --- entering lists in any order.

  A list is entered by a query, which may be cancelled, replaced by a later one, or
  restarted when its list is invalidated.  The completion of the most recent query is
  what counts: the list must be the one that was entered, and there must be nothing
  left to wait for.

  A restarted query is run with the result-available function of the query it
  replaces, and that function compares the current query with the one it was made for.
  So the completion of a restarted query is taken for that of an outdated one.
-/
import Drcpd.Foundation.Run
import Drcpd.Lists.EnterList
import Drcpd.Lists.ItemAccess

set_option autoImplicit false

namespace Drcpd.Lists

open Drcpd.Foundation Drcpd.DBus Drcpd.Rnf

variable {Item E : Type}

/-! ## The invariant -/

/-- What holds of the queries between two steps. -/
structure EnterInvariant (d : EnterListData E) : Prop where
  /-- The current query is the last one that was started. -/
  latest : ∀ k, d.query = some k → k + 1 = d.nextQuery
  waiting : ∀ k, d.query = some k → (d.queries k).Waiting
  idle : ∀ j, d.query ≠ some j → (d.queries j).Idle
  captured_lt : ∀ j, j < d.nextQuery → (d.queries j).captured < d.nextQuery
  captured_captured : ∀ j, j < d.nextQuery →
    (d.queries (d.queries j).captured).captured = (d.queries j).captured
  outstanding_lt : ∀ j, (d.queries j).outstanding = true → j < d.nextQuery

/-- The query data without the current query. -/
def EnterListData.withoutQuery (d : EnterListData E) : EnterListData E := { d with query := none }

theorem OnlyTouches.withoutQuery {d d' : EnterListData E} {q : QueryId}
    (h : OnlyTouches d d' q) : OnlyTouches d.withoutQuery d'.withoutQuery q where
  query := rfl
  nextQuery := h.nextQuery
  others := h.others
  captured := h.captured
  outstanding := h.outstanding
  isCancelled := h.isCancelled

namespace EnterInvariant

variable {d d' : EnterListData E} {k : QueryId}

theorem init : EnterInvariant ({} : EnterListData E) where
  latest k h := by cases h
  waiting k h := by cases h
  idle j _ := ⟨Or.inl nofun, fun h => by cases h⟩
  captured_lt j h := by cases h
  captured_captured j h := by cases h
  outstanding_lt j h := by cases h

/-- A change to a query that is over now, and not the current one any more. -/
theorem of_idle (h : EnterInvariant d) (hk : (d'.queries k).Idle)
    (hquery : d'.query ≠ some k) (hsame : ∀ j, j ≠ k → (d'.query = some j ↔ d.query = some j))
    (hnext : d'.nextQuery = d.nextQuery) (hothers : ∀ j, j ≠ k → d'.queries j = d.queries j)
    (hcaptured : (d'.queries k).captured = (d.queries k).captured)
    (houtstanding : (d'.queries k).outstanding = true → k < d.nextQuery) :
    EnterInvariant d' := by
  have hcap : ∀ j, (d'.queries j).captured = (d.queries j).captured := by
    intro j
    by_cases hj : j = k
    · rw [hj, hcaptured]
    · rw [hothers j hj]
  constructor
  · intro j hj
    have hne : j ≠ k := fun h => hquery (h ▸ hj)
    rw [hnext]
    exact h.latest j ((hsame j hne).mp hj)
  · intro j hj
    have hne : j ≠ k := fun h => hquery (h ▸ hj)
    rw [hothers j hne]
    exact h.waiting j ((hsame j hne).mp hj)
  · intro j hj
    by_cases hne : j = k
    · exact hne ▸ hk
    · rw [hothers j hne]
      exact h.idle j (fun hq => hj ((hsame j hne).mpr hq))
  · intro j hj
    rw [hnext] at hj ⊢
    rw [hcap]
    exact h.captured_lt j hj
  · intro j hj
    rw [hnext] at hj
    rw [hcap, hcap]
    exact h.captured_captured j hj
  · intro j hj
    rw [hnext]
    by_cases hne : j = k
    · exact hne ▸ houtstanding (hne ▸ hj)
    · rw [hothers j hne] at hj
      exact h.outstanding_lt j hj

/-- What a completion does to a query that is not the current one. -/
theorem of_onlyTouches (h : EnterInvariant d) (hquery : d.query ≠ some k)
    (ht : OnlyTouches d d' k) (hstopped : (d'.queries k).Stopped) : EnterInvariant d' := by
  have hk : (d'.queries k).Idle := by
    refine ⟨Or.inl hstopped, fun ho => ?_⟩
    rw [ht.isCancelled]
    exact (h.idle k hquery).cancelled (ht.outstanding ▸ ho)
  apply h.of_idle hk (ht.query ▸ hquery) _ ht.nextQuery ht.others ht.captured
  · exact fun ho => h.outstanding_lt k (ht.outstanding ▸ ho)
  · intro j _
    rw [ht.query]

/-- What a completion does to the current query, which is not the current one after
it. -/
theorem of_onlyTouches_withoutQuery (h : EnterInvariant d) (hquery : d.query = some k)
    (ht : OnlyTouches d d' k) (hstopped : (d'.queries k).Stopped)
    (hcancelled : (d.queries k).call.isCancelled = true) :
    EnterInvariant d'.withoutQuery := by
  have hk : (d'.queries k).Idle := by
    refine ⟨Or.inl hstopped, fun _ => ?_⟩
    rw [ht.isCancelled]
    exact hcancelled
  refine h.of_idle ?_ ?_ ?_ ht.nextQuery ht.others ht.captured ?_
  · exact hk
  · exact nofun
  · intro j hj
    refine ⟨nofun, fun hj' => ?_⟩
    exact absurd (Option.some.inj (hj'.symm.trans hquery)) hj
  · exact fun ho => h.outstanding_lt k (ht.outstanding ▸ ho)

/-- The captured query of a query is older than the one to be made next. -/
theorem captured_root (h : EnterInvariant d) {j : QueryId} (hj : j < d.nextQuery) :
    (d.queries j).captured < d.nextQuery ∧
      (d.queries (d.queries j).captured).captured = (d.queries j).captured :=
  ⟨h.captured_lt j hj, h.captured_captured j hj⟩

/-- A new query becomes the current one when all others are over. -/
theorem runQuery (h : EnterInvariant d) (hidle : ∀ j, (d.queries j).Idle) (listId : ListId)
    (line : UInt32) (vp : Option ViewportId) {captured : Option QueryId}
    (hcaptured : ∀ c, captured = some c →
      c < d.nextQuery ∧ (d.queries c).captured = c) :
    EnterInvariant (d.runQuery listId line vp captured) := by
  have hnew : ((d.runQuery listId line vp captured).queries d.nextQuery).Waiting := by
    simp only [EnterListData.runQuery, Function.update_self]
    exact ⟨rfl, rfl, rfl, rfl, rfl, rfl⟩
  have hold : ∀ j, j ≠ d.nextQuery →
      (d.runQuery listId line vp captured).queries j = d.queries j := by
    intro j hj
    simp [EnterListData.runQuery, hj]
  have hcapNew : ((d.runQuery listId line vp captured).queries d.nextQuery).captured =
      captured.getD d.nextQuery := by
    simp [EnterListData.runQuery]
  constructor
  · intro j hj
    rw [← Option.some.inj hj]
    rfl
  · intro j hj
    rw [← Option.some.inj hj]
    exact hnew
  · intro j hj
    have hne : j ≠ d.nextQuery := fun h => hj (h ▸ rfl)
    rw [hold j hne]
    exact hidle j
  · intro j hj
    change _ < d.nextQuery + 1
    by_cases hne : j = d.nextQuery
    · rw [hne, hcapNew]
      cases captured with
      | none => exact Nat.lt_succ_self _
      | some c => exact Nat.lt_succ_of_lt (hcaptured c rfl).1
    · have hlt : j < d.nextQuery := Nat.lt_of_le_of_ne (Nat.le_of_lt_succ hj) hne
      rw [hold j hne]
      exact Nat.lt_succ_of_lt (h.captured_lt j hlt)
  · intro j hj
    by_cases hne : j = d.nextQuery
    · rw [hne, hcapNew]
      cases captured with
      | none => exact hcapNew
      | some c =>
        obtain ⟨hlt, hc⟩ := hcaptured c rfl
        rw [Option.getD_some, hold c (Nat.ne_of_lt hlt)]
        exact hc
    · have hlt : j < d.nextQuery := Nat.lt_of_le_of_ne (Nat.le_of_lt_succ hj) hne
      obtain ⟨hroot, hself⟩ := h.captured_root hlt
      rw [hold j hne, hold _ (Nat.ne_of_lt hroot)]
      exact hself
  · intro j hj
    change j < d.nextQuery + 1
    by_cases hne : j = d.nextQuery
    · exact hne ▸ Nat.lt_succ_self _
    · rw [hold j hne] at hj
      exact Nat.lt_succ_of_lt (h.outstanding_lt j hj)

end EnterInvariant

/-! ## Cancelling and restarting -/

namespace EnterListData

variable {d : EnterListData E} {k : QueryId}

/-- Cancelling a call that runs. -/
def cancelled (d : EnterListData E) (k : QueryId) (willBeRestarted : Bool) :
    EnterListData E :=
  d.setQuery k { d.queries k with
    call := { (d.queries k).call with
      isCanceledForRestart := willBeRestarted, isCancelled := true } }

theorem cancel_of_running (hcall : (d.queries k).hasCall = true)
    (hrunning : (d.queries k).call.isCancelled = false) (willBeRestarted : Bool) :
    d.cancel k willBeRestarted = (.canceled, d.cancelled k willBeRestarted) := by
  simp [cancel, cancelled, AsyncCall.cancel, hcall, hrunning]

theorem cancel_of_isCancelled (hcancelled : (d.queries k).call.isCancelled = true)
    (willBeRestarted : Bool) : d.cancel k willBeRestarted = (.notRunning, d) := by
  simp [cancel, AsyncCall.cancel, hcancelled, setQuery]

@[simp] theorem cancelled_queries_self (willBeRestarted : Bool) :
    (d.cancelled k willBeRestarted).queries k = { d.queries k with
      call := { (d.queries k).call with
        isCanceledForRestart := willBeRestarted, isCancelled := true } } :=
  setQuery_queries_self _ _ _

theorem cancelled_queries_of_ne (willBeRestarted : Bool) {j : QueryId} (hj : j ≠ k) :
    (d.cancelled k willBeRestarted).queries j = d.queries j :=
  setQuery_queries_of_ne _ _ _ hj

end EnterListData

namespace EnterInvariant

variable {d : EnterListData E} {k : QueryId}

/-- The current query still waits for GLib after it has been cancelled. -/
theorem cancelled (h : EnterInvariant d) (hk : d.query = some k) (willBeRestarted : Bool) :
    EnterInvariant (d.cancelled k willBeRestarted) := by
  have hw := h.waiting k hk
  have hcap : ∀ j, ((d.cancelled k willBeRestarted).queries j).captured =
      (d.queries j).captured := by
    intro j
    by_cases hj : j = k
    · rw [hj, EnterListData.cancelled_queries_self]
    · rw [EnterListData.cancelled_queries_of_ne _ hj]
  constructor
  · exact h.latest
  · intro j hj
    obtain rfl : k = j := Option.some.inj (hk.symm.trans hj)
    rw [EnterListData.cancelled_queries_self]
    exact ⟨hw.hasCall, hw.inProgress, hw.unreported, hw.promise, hw.future, hw.outstanding⟩
  · intro j hj
    have hne : j ≠ k := fun h => hj (h ▸ hk)
    rw [EnterListData.cancelled_queries_of_ne _ hne]
    exact h.idle j hj
  · intro j hj
    rw [hcap]
    exact h.captured_lt j hj
  · intro j hj
    rw [hcap, hcap]
    exact h.captured_captured j hj
  · intro j hj
    by_cases hne : j = k
    · exact h.outstanding_lt j (hne ▸ hw.outstanding)
    · rw [EnterListData.cancelled_queries_of_ne _ hne] at hj
      exact h.outstanding_lt j hj

/-- Once the current query is cancelled, all queries are over. -/
theorem idle_of_isCancelled (h : EnterInvariant d)
    (hc : ∀ k, d.query = some k → (d.queries k).call.isCancelled = true) (j : QueryId) :
    (d.queries j).Idle := by
  by_cases hj : d.query = some j
  · exact (h.waiting j hj).idle_of_isCancelled (hc j hj)
  · exact h.idle j hj

/-- Cancelling the current query, whether it runs or not. -/
theorem cancel (h : EnterInvariant d) (hk : d.query = some k) (willBeRestarted : Bool) :
    EnterInvariant (d.cancel k willBeRestarted).2 ∧
      (d.cancel k willBeRestarted).2.query = some k ∧
      (d.cancel k willBeRestarted).2.nextQuery = d.nextQuery ∧
      (∀ j, ((d.cancel k willBeRestarted).2.queries j).captured = (d.queries j).captured) ∧
      ∀ j, ((d.cancel k willBeRestarted).2.queries j).Idle := by
  cases hc : (d.queries k).call.isCancelled with
  | true =>
    rw [EnterListData.cancel_of_isCancelled hc]
    refine ⟨h, hk, rfl, fun _ => rfl, h.idle_of_isCancelled ?_⟩
    intro j hj
    obtain rfl : k = j := Option.some.inj (hk.symm.trans hj)
    exact hc
  | false =>
    rw [EnterListData.cancel_of_running (h.waiting k hk).hasCall hc]
    refine ⟨h.cancelled hk _, hk, rfl, ?_, (h.cancelled hk _).idle_of_isCancelled ?_⟩
    · intro j
      by_cases hj : j = k
      · rw [hj, EnterListData.cancelled_queries_self]
      · rw [EnterListData.cancelled_queries_of_ne _ hj]
    · intro j hj
      obtain rfl : k = j := Option.some.inj (hk.symm.trans hj)
      rw [EnterListData.cancelled_queries_self]

theorem restartIfNecessary (h : EnterInvariant d) (listId replacementId : ListId) :
    EnterInvariant (d.restartIfNecessary listId replacementId) := by
  unfold EnterListData.restartIfNecessary
  split
  · exact h
  · rename_i k hk
    dsimp only
    split_ifs
    · exact h
    · exact h
    · exact (h.cancel hk false).1
    · obtain ⟨hinv, hquery, hnext, hcap, hidle⟩ := h.cancel hk true
      refine hinv.runQuery hidle _ _ _ ?_
      intro c hc
      obtain rfl := Option.some.inj hc
      have hlt : k < d.nextQuery := h.latest k hk ▸ Nat.lt_succ_self k
      rw [hnext, hcap]
      exact h.captured_root hlt

end EnterInvariant

namespace DBusList

variable {s : DBusList Item E}

/-- What the result-available function does for the call of the current query, when
that call is over: it handles the completion of the query it has captured. -/
theorem onResultAvailable_of_current {k : QueryId}
    (hinv : EnterInvariant s.enterListData.withoutQuery)
    (hquery : s.enterListData.query = some k) (hk : k < s.enterListData.nextQuery)
    (hstopped : (s.enterListData.queries k).Stopped)
    (hcall : (s.enterListData.queries k).hasCall = true) :
    ∃ s', s.onResultAvailable k = some s' ∧ EnterInvariant s'.enterListData.withoutQuery ∧
      (s'.enterListData.queries k).Stopped := by
  unfold onResultAvailable resultAvailable
  dsimp only
  obtain ⟨-, hroot⟩ := hinv.captured_root hk
  by_cases hq : (s.enterListData.queries k).captured = k
  · rw [hq, if_neg (not_not.mpr hquery), if_pos ⟨rfl, hcall⟩]
    obtain ⟨s', hs', ht, hst⟩ := handleDone_of_stopped (s := { s with
      enterListData := s.enterListData.withoutQuery }) (q := k) 1 hstopped
    refine ⟨s', hs', ?_, hst⟩
    exact hinv.of_onlyTouches nofun ht.withoutQuery hst
  · have hne : s.enterListData.query ≠ some (s.enterListData.queries k).captured := by
      rw [hquery]
      exact fun h => hq (Option.some.inj h).symm
    rw [if_pos hne]
    have hidle := hinv.idle (s.enterListData.queries k).captured nofun
    obtain ⟨s', hs', ht, hst⟩ := handleDone_of_settled 0 hroot hne hidle.settled
    refine ⟨s', hs', ?_, ?_⟩
    · exact hinv.of_onlyTouches nofun ht.withoutQuery hst
    · rw [ht.others k (Ne.symm hq)]
      exact hstopped

/-- A running call is cancelled, and the query is synchronised with it. -/
theorem cancelSync_of_running {k : QueryId} {outcome : SyncOutcome} {s' : DBusList Item E}
    (hcall : (s.enterListData.queries k).hasCall = true)
    (hc : (s.enterListData.queries k).call.isCancelled = false)
    (hsync : synchronize onResultAvailable
      { s with enterListData := s.enterListData.cancelled k false } k = some (outcome, s')) :
    s.cancelSync k = some (.canceled, s') := by
  unfold cancelSync
  rw [EnterListData.cancel_of_running hcall hc]
  dsimp only
  rw [hsync]

/-- After the current query has been cancelled all queries are over. -/
theorem cancelEnterListQuery_spec (h : EnterInvariant s.enterListData) :
    ∃ s', s.cancelEnterListQuery = some s' ∧ EnterInvariant s'.enterListData ∧
      ∀ j, (s'.enterListData.queries j).Idle := by
  unfold cancelEnterListQuery
  cases hk : s.enterListData.query with
  | none =>
    refine ⟨s, rfl, h, fun j => h.idle j ?_⟩
    rw [hk]
    exact fun hj => by cases hj
  | some k =>
    have hw := h.waiting k hk
    cases hc : (s.enterListData.queries k).call.isCancelled with
    | true =>
      have hsync : s.cancelSync k = some (.notRunning, s) := by
        unfold cancelSync
        rw [EnterListData.cancel_of_isCancelled hc]
      simp only [hsync]
      refine ⟨s, rfl, h, h.idle_of_isCancelled ?_⟩
      intro j hj
      obtain rfl : k = j := Option.some.inj (hk.symm.trans hj)
      exact hc
    | false =>
      let s₀ : DBusList Item E :=
        { s with enterListData := s.enterListData.cancelled k false }
      let s₁ := s₀.setQuery k (s₀.enterListData.queries k).afterDirectReady
      have h₀ : EnterInvariant s₀.enterListData := h.cancelled hk false
      have hw₀ := h₀.waiting k hk
      have hc₀ : (s₀.enterListData.queries k).call.isCancelled = true := by
        simp [s₀]
      have hself₁ : s₁.enterListData.queries k =
          (s₀.enterListData.queries k).afterDirectReady :=
        EnterListData.setQuery_queries_self _ _ _
      have hstopped₁ : (s₁.enterListData.queries k).Stopped := by
        rw [hself₁]
        exact EnterListQuery.afterDirectReady_stopped _
      have h₁ : EnterInvariant s₁.enterListData.withoutQuery := by
        refine h₀.of_onlyTouches_withoutQuery hk ?_ hstopped₁ hc₀
        exact OnlyTouches.setQuery rfl rfl rfl
      have hlt : k < s₁.enterListData.nextQuery := h.latest k hk ▸ Nat.lt_succ_self k
      obtain ⟨s₂, hs₂, h₂, hstopped₂⟩ :=
        onResultAvailable_of_current h₁ hk hlt hstopped₁ (hself₁ ▸ hw₀.hasCall)
      have hsync₀ : s₀.synchronize onResultAvailable k =
          some (.result (s₂.enterListData.queries k).call.callState,
            s₂.dropCallUnlessSuccess k) := by
        rw [synchronize_of_cancelled onResultAvailable hw₀.hasCall
          ⟨hw₀.inProgress, hc₀, hw₀.future⟩, hw₀.unreported, if_neg (by simp)]
        rw [hs₂]
      have hsync : s.cancelSync k = some (.canceled, s₂.dropCallUnlessSuccess k) :=
        cancelSync_of_running hw.hasCall hc hsync₀
      simp only [hsync]
      have h₃ : EnterInvariant (s₂.dropCallUnlessSuccess k).enterListData.withoutQuery :=
        h₂.of_onlyTouches (by intro hquery; cases hquery)
          (dropCallUnlessSuccess_onlyTouches s₂ k).withoutQuery
          (dropCallUnlessSuccess_stopped hstopped₂)
      exact ⟨_, rfl, h₃, fun j => h₃.idle j (by intro hj; cases hj)⟩

/-! ## Completions -/

/-- The state in which the completion of a call is reported. -/
def answered (s : DBusList Item E) (k : QueryId) (answer : Except E UInt32) :
    DBusList Item E :=
  s.setQuery k { s.enterListData.queries k with
    call := ((s.enterListData.queries k).call.readyLocked answer).2
    outstanding := false }

@[simp] theorem answered_queries_self (k : QueryId) (answer : Except E UInt32) :
    (s.answered k answer).enterListData.queries k =
      { s.enterListData.queries k with
        call := ((s.enterListData.queries k).call.readyLocked answer).2
        outstanding := false } :=
  EnterListData.setQuery_queries_self _ _ _

theorem answered_queries_of_ne {j k : QueryId} (hj : j ≠ k) (answer : Except E UInt32) :
    (s.answered k answer).enterListData.queries j = s.enterListData.queries j :=
  EnterListData.setQuery_queries_of_ne _ _ _ hj

@[simp] theorem answered_query (k : QueryId) (answer : Except E UInt32) :
    (s.answered k answer).enterListData.query = s.enterListData.query := rfl

theorem answered_stopped {k : QueryId} (answer : Except E UInt32)
    (h : (s.enterListData.queries k).call.isCancelled = true) :
    ((s.answered k answer).enterListData.queries k).Stopped := by
  rw [answered_queries_self]
  intro _
  cases hr : (s.enterListData.queries k).call.isCanceledForRestart with
  | false =>
    right; left
    simp [AsyncCall.readyLocked, AsyncCall.report, AsyncCall.markCanceled, h, hr]
  | true =>
    right; right
    simp [AsyncCall.readyLocked, AsyncCall.report, AsyncCall.markCanceled, h, hr]

theorem checkRangeReady_of_waiting {k : QueryId} (answer : Except E UInt32)
    (hw : (s.enterListData.queries k).Waiting) :
    s.checkRangeReady k answer = (s.answered k answer).onResultAvailable k := by
  have hreport : ((s.enterListData.queries k).call.readyLocked answer).1 = true := by
    unfold AsyncCall.readyLocked AsyncCall.report
    split_ifs
    · simp [AsyncCall.markCanceled, hw.unreported]
    · cases answer <;> simp [AsyncCall.putResult, hw.promise, hw.unreported]
  unfold checkRangeReady
  dsimp only
  rw [if_pos hw.outstanding, if_pos hreport]
  rfl

/-- The completion of the call of the query `k`, handled for this query. -/
theorem handleDone_answered {k : QueryId} (answer : Except E UInt32)
    (hw : (s.enterListData.queries k).Waiting) {s₁ : DBusList Item E}
    (h₁ : s₁.enterListData.queries k = (s.answered k answer).enterListData.queries k) :
    ∃ s', enterListAsyncHandleDone 2 s₁ k = some s' ∧
      OnlyTouches s₁.enterListData s'.enterListData k ∧
      (s'.enterListData.queries k).Stopped ∧
      ∀ size, answer = .ok size → (s.enterListData.queries k).call.isCancelled = false →
        s'.listId = (s.enterListData.queries k).listId ∧ s'.numberOfItems = size.toNat ∧
        s'.enterListData.watched = s₁.enterListData.watched ++ [(.succeeded, k)] := by
  have hself : s₁.enterListData.queries k = { s.enterListData.queries k with
      call := ((s.enterListData.queries k).call.readyLocked answer).2
      outstanding := false } := h₁.trans (answered_queries_self k answer)
  cases hc : (s.enterListData.queries k).call.isCancelled with
  | true =>
    have hstopped : (s₁.enterListData.queries k).Stopped := h₁ ▸ answered_stopped answer hc
    obtain ⟨s', hs', ht, hst⟩ := handleDone_of_stopped 1 hstopped
    exact ⟨s', hs', ht, hst, fun _ _ h => by cases h⟩
  | false =>
    cases answer with
    | ok size =>
      have hcall : (s₁.enterListData.queries k).call =
          { (s.enterListData.queries k).call with
            callState := .ready, promise := some (.ok size), haveReportedResult := true } := by
        rw [hself]
        simp [AsyncCall.readyLocked, AsyncCall.report, AsyncCall.putResult, hc, hw.promise]
      have hpromise : (s₁.enterListData.queries k).call.promise = some (.ok size) := by
        rw [hcall]
      obtain ⟨s', hs', ht, hst, hlist, hn, hwatched⟩ :=
        handleDone_of_ready 1 (by rw [hself]; exact hw.hasCall) (by rw [hcall])
          (by rw [hcall]; exact hc) hpromise (by rw [hcall]; exact hw.future)
      refine ⟨s', hs', ht, hst, ?_⟩
      intro size' hsize _
      obtain rfl := Except.ok.inj hsize
      exact ⟨hlist.trans (by rw [hself]), hn, hwatched⟩
    | error e =>
      have hcall : (s₁.enterListData.queries k).call =
          { (s.enterListData.queries k).call with
            callState := .failed, promise := some (.error e)
            haveReportedResult := true } := by
        rw [hself]
        simp [AsyncCall.readyLocked, AsyncCall.report, AsyncCall.putResult, hc, hw.promise]
      have hpromise : (s₁.enterListData.queries k).call.promise = some (.error e) := by
        rw [hcall]
      obtain ⟨s', hs', ht, hst⟩ :=
        handleDone_of_failed 1 (by rw [hself]; exact hw.hasCall) (by rw [hcall])
          (by rw [hcall]; exact hc) hpromise (by rw [hcall]; exact hw.future)
      exact ⟨s', hs', ht, hst, fun _ h => by cases h⟩

/-- The completion of the current query, when it was not restarted. -/
theorem checkRangeReady_of_current (h : EnterInvariant s.enterListData) {k : QueryId}
    (hk : s.enterListData.query = some k) (hcap : (s.enterListData.queries k).captured = k)
    (answer : Except E UInt32) :
    ∃ s', s.checkRangeReady k answer = some s' ∧ EnterInvariant s'.enterListData ∧
      s'.enterListData.query = none ∧
      ∀ size, answer = .ok size → (s.enterListData.queries k).call.isCancelled = false →
        s'.listId = (s.enterListData.queries k).listId ∧ s'.numberOfItems = size.toNat ∧
        s'.enterListData.watched = s.enterListData.watched ++ [(.succeeded, k)] := by
  have hw := h.waiting k hk
  let s₁ : DBusList Item E :=
    { s.answered k answer with
      enterListData := (s.answered k answer).enterListData.withoutQuery }
  obtain ⟨s', hs', ht, hst, hsize⟩ := 
    handleDone_answered answer hw
      (show s₁.enterListData.queries k = (s.answered k answer).enterListData.queries k from rfl)
  have hquery' : s'.enterListData.query = none := ht.query
  refine ⟨s', ?_, ?_, hquery', hsize⟩
  · rw [checkRangeReady_of_waiting answer hw]
    unfold onResultAvailable resultAvailable
    simp only [answered_queries_self, answered_query, hcap, hk, ne_eq, not_true, if_false,
      hw.hasCall, and_self, if_true]
    exact hs'
  · have hout : (s'.enterListData.queries k).outstanding = false := by
      rw [ht.outstanding]
      exact congrArg EnterListQuery.outstanding (answered_queries_self k answer)
    refine h.of_idle (k := k) ⟨Or.inl hst, ?_⟩ ?_ ?_ ht.nextQuery ?_ ?_ ?_
    · rw [hout]
      exact nofun
    · rw [hquery']
      exact nofun
    · intro j hj
      rw [hquery', hk]
      exact ⟨nofun, fun hj' => absurd (Option.some.inj hj').symm hj⟩
    · intro j hj
      rw [ht.others j hj]
      exact answered_queries_of_ne hj answer
    · rw [ht.captured]
      change ((s.answered k answer).enterListData.queries k).captured = _
      rw [answered_queries_self]
    · rw [hout]
      exact nofun

/-- The completion of a query that is not the current one. -/
theorem checkRangeReady_of_other (h : EnterInvariant s.enterListData) {k : QueryId}
    (hk : s.enterListData.query ≠ some k)
    (hout : (s.enterListData.queries k).outstanding = true) (answer : Except E UInt32) :
    ∃ s', s.checkRangeReady k answer = some s' ∧ EnterInvariant s'.enterListData := by
  have hlt := h.outstanding_lt k hout
  have hc := (h.idle k hk).cancelled hout
  have hstopped := answered_stopped answer hc
  have h₁ : EnterInvariant (s.answered k answer).enterListData := by
    refine h.of_idle (k := k) ⟨Or.inl hstopped, ?_⟩ hk (fun j _ => Iff.rfl) rfl
      (fun j hj => answered_queries_of_ne hj answer) ?_ ?_
    · rw [answered_queries_self]
      exact nofun
    · rw [answered_queries_self]
    · exact fun _ => hlt
  have hreport : ∃ s', (s.answered k answer).onResultAvailable k = some s' ∧
      EnterInvariant s'.enterListData := by
    obtain ⟨-, hroot⟩ := h₁.captured_root hlt
    unfold onResultAvailable resultAvailable
    dsimp only
    split_ifs with hq hself
    · obtain ⟨s', hs', ht, hst⟩ :=
        handleDone_of_settled 0 hroot hq (h₁.idle _ hq).settled
      exact ⟨s', hs', h₁.of_onlyTouches hq ht hst⟩
    · rw [hself.1] at hq
      exact absurd (not_not.mp hq) hk
    · exact ⟨_, rfl, h₁⟩
  unfold checkRangeReady
  dsimp only
  rw [if_pos hout]
  split_ifs
  · exact hreport
  · exact ⟨_, rfl, h₁⟩

/-- The completion of the current query, when it was restarted: the query stays the
current one, and nothing will complete it. -/
theorem checkRangeReady_of_restarted (h : EnterInvariant s.enterListData) {k : QueryId}
    (hk : s.enterListData.query = some k) (hcap : (s.enterListData.queries k).captured ≠ k)
    (answer : Except E UInt32) :
    ∃ s', s.checkRangeReady k answer = some s' ∧ s'.enterListData.query = some k ∧
      (s'.enterListData.queries k).outstanding = false := by
  have hw := h.waiting k hk
  have hlt : k < s.enterListData.nextQuery := h.latest k hk ▸ Nat.lt_succ_self k
  obtain ⟨-, hroot⟩ := h.captured_root hlt
  have hne : s.enterListData.query ≠ some (s.enterListData.queries k).captured := by
    rw [hk]
    exact fun hq => hcap (Option.some.inj hq).symm
  have hsame := answered_queries_of_ne (s := s) hcap answer
  obtain ⟨s', hs', ht, -⟩ :=
    handleDone_of_settled (s := s.answered k answer)
      (q := (s.enterListData.queries k).captured) 0
      (by rw [hsame]; exact hroot) hne (by rw [hsame]; exact (h.idle _ hne).settled)
  refine ⟨s', ?_, ht.query.trans hk, ?_⟩
  · rw [checkRangeReady_of_waiting answer hw]
    unfold onResultAvailable resultAvailable
    simp only [answered_queries_self, answered_query, if_pos hne]
    exact hs'
  · rw [ht.others k (Ne.symm hcap), answered_queries_self]

/-! ## Steps -/

/-- The range check of a query is pending. -/
def RangeCheckPending (s : DBusList Item E) (k : QueryId) : Prop :=
  (s.enterListData.queries k).outstanding = true

/-- What is expected of every step. -/
structure EnterStepSound (content : ListId → Nat → Item) (s : DBusList Item E)
    (e : DBusListEvent E) : Prop where
  /-- The successful range check of the last query enters the list of that query. -/
  entered : ∀ k size, e = .checkRangeReady k (.ok size) → s.RangeCheckPending k →
    k + 1 = s.enterListData.nextQuery →
    (s.enterListData.queries k).call.isCancelled = false →
    ∃ s', s.step content e = some s' ∧ s'.enterListData.query = none ∧
      s'.listId = (s.enterListData.queries k).listId ∧ s'.numberOfItems = size.toNat ∧
      s'.enterListData.watched = s.enterListData.watched ++ [(.succeeded, k)]
  /-- A query is the current one only while its range check is pending. -/
  pending : ∀ s' k, s.step content e = some s' → s'.enterListData.query = some k →
    s'.RangeCheckPending k
  /-- So items are refused only while a range check is pending. -/
  hint_refused : ∀ s', s.step content e = some s' → ∀ vp line count request abort,
    (s'.getItemAsyncSetHint content vp line count request abort).1.result = .canceled →
    ∃ k, s'.RangeCheckPending k
  item_refused : ∀ s', s.step content e = some s' → ∀ vp line abort,
    (s'.getItemAsync vp line abort).1.1 = .canceled → ∃ k, s'.RangeCheckPending k
  /-- Entering, cancelling and all range checks come to an end. -/
  enter_ends : ∀ associatedViewport listId line,
    e = .enterListAsync associatedViewport listId line → (s.step content e).isSome
  cancel_ends : ∀ answers, e = .cancelAllAsyncCalls answers → (s.step content e).isSome
  ready_ends : ∀ k answer, e = .checkRangeReady k answer → s.RangeCheckPending k →
    (s.step content e).isSome

/-- The range check of the current query completes, and the query is one that was
restarted: its call is run with the result-available function of another query. -/
def RestartedQueryCompletes (s : DBusList Item E) : DBusListEvent E → Prop
  | .checkRangeReady k _ =>
      s.enterListData.query = some k ∧ (s.enterListData.queries k).captured ≠ k
  | _ => False

theorem enterListAsync_spec (h : EnterInvariant s.enterListData) (vp : Option ViewportId)
    (listId : ListId) (line : UInt32) :
    ∃ s', s.enterListAsync vp listId line = some s' ∧ EnterInvariant s'.enterListData := by
  obtain ⟨s₁, hs₁, h₁, hidle⟩ := cancelEnterListQuery_spec h
  have h₂ := h₁.runQuery hidle listId line vp (show ∀ c, none = some c → _ from nofun)
  unfold enterListAsync
  rw [hs₁]
  exact ⟨_, rfl, h₂.latest, h₂.waiting, h₂.idle, h₂.captured_lt, h₂.captured_captured,
    h₂.outstanding_lt⟩

theorem cancelAllAsyncCalls_spec (h : EnterInvariant s.enterListData)
    (answers : FetcherId → AbortAnswer) :
    ∃ s', s.cancelAllAsyncCalls answers = some s' ∧ EnterInvariant s'.enterListData := by
  obtain ⟨s₁, hs₁, h₁, -⟩ := cancelEnterListQuery_spec h
  unfold cancelAllAsyncCalls
  rw [hs₁]
  exact ⟨_, rfl, h₁⟩

theorem listInvalidate_spec (h : EnterInvariant s.enterListData)
    (listId replacementId : ListId) (answers : FetcherId → AbortAnswer) :
    EnterInvariant (s.listInvalidate listId replacementId answers).enterListData := by
  have hdata : (s.listInvalidate listId replacementId answers).enterListData =
      s.enterListData.restartIfNecessary listId replacementId := by
    unfold listInvalidate
    dsimp only
    split_ifs <;> rfl
  rw [hdata]
  exact h.restartIfNecessary listId replacementId

/-- The completion of a range check, unless it is that of a restarted query. -/
theorem checkRangeReady_spec (content : ListId → Nat → Item)
    (h : EnterInvariant s.enterListData) {k : QueryId} {answer : Except E UInt32}
    (hrestarted : ¬s.RestartedQueryCompletes (.checkRangeReady k answer))
    (hpending : s.RangeCheckPending k) :
    ∃ s', s.step content (.checkRangeReady k answer) = some s' ∧
      EnterInvariant s'.enterListData := by
  by_cases hk : s.enterListData.query = some k
  · have hcap : (s.enterListData.queries k).captured = k :=
      not_not.mp fun hne => hrestarted ⟨hk, hne⟩
    obtain ⟨s', hs', h', -⟩ := checkRangeReady_of_current h hk hcap answer
    exact ⟨s', hs', h'⟩
  · exact checkRangeReady_of_other h hk hpending answer

theorem pending_of_step {content : ListId → Nat → Item} {s' : DBusList Item E} {k : QueryId}
    {answer : Except E UInt32} (h : s.step content (.checkRangeReady k answer) = some s') :
    s.RangeCheckPending k := by
  by_contra hpending
  change s.checkRangeReady k answer = some s' at h
  unfold RangeCheckPending at hpending
  unfold checkRangeReady at h
  dsimp only at h
  rw [if_neg hpending] at h
  cases h

/-- One step keeps the invariant, unless it completes a restarted query. -/
theorem enterInvariant_step {content : ListId → Nat → Item} {s' : DBusList Item E}
    {e : DBusListEvent E} (h : EnterInvariant s.enterListData)
    (hrestarted : ¬s.RestartedQueryCompletes e) (hstep : s.step content e = some s') :
    EnterInvariant s'.enterListData := by
  cases e with
  | enterListAsync vp listId line =>
    obtain ⟨t, ht, h'⟩ := enterListAsync_spec h vp listId line
    exact Option.some.inj (ht.symm.trans hstep) ▸ h'
  | checkRangeReady k answer =>
    obtain ⟨t, ht, h'⟩ :=
      checkRangeReady_spec content h hrestarted (pending_of_step hstep)
    exact Option.some.inj (ht.symm.trans hstep) ▸ h'
  | listInvalidate listId replacementId answers =>
    exact Option.some.inj hstep ▸ listInvalidate_spec h listId replacementId answers
  | cancelAllAsyncCalls answers =>
    obtain ⟨t, ht, h'⟩ := cancelAllAsyncCalls_spec h answers
    exact Option.some.inj (ht.symm.trans hstep) ▸ h'
  | _ =>
    have hsame := step_sameList (by exact trivial) hstep
    rw [hsame.enterListData]
    exact h

/-- A step is sound exactly if it does not complete a restarted query. -/
theorem enterStepSound_iff {content : ListId → Nat → Item}
    (h : EnterInvariant s.enterListData) (e : DBusListEvent E) :
    s.EnterStepSound content e ↔ ¬s.RestartedQueryCompletes e := by
  constructor
  · intro hsound hrestarted
    cases e with
    | checkRangeReady k answer =>
      obtain ⟨s', hs', hquery, hout⟩ :=
        checkRangeReady_of_restarted h hrestarted.1 hrestarted.2 answer
      have hpending := hsound.pending s' k hs' hquery
      rw [RangeCheckPending, hout] at hpending
      cases hpending
    | _ => exact hrestarted
  · intro hrestarted
    have hpending : ∀ s' k, s.step content e = some s' →
        s'.enterListData.query = some k → s'.RangeCheckPending k := by
      intro s' k hs' hk
      exact ((enterInvariant_step h hrestarted hs').waiting k hk).outstanding
    constructor
    · intro k size he hout hlast hrunning
      subst he
      have hk : s.enterListData.query = some k := by
        by_contra hk
        rw [(h.idle k hk).cancelled hout] at hrunning
        cases hrunning
      have hcap : (s.enterListData.queries k).captured = k :=
        not_not.mp fun hne => hrestarted ⟨hk, hne⟩
      obtain ⟨s', hs', -, hquery, hsize⟩ := checkRangeReady_of_current h hk hcap (.ok size)
      exact ⟨s', hs', hquery, hsize size rfl hrunning⟩
    · exact hpending
    · intro s' hs' vp line count request abort hrefused
      obtain ⟨k, hk⟩ := query_of_hint_canceled hrefused
      exact ⟨k, hpending s' k hs' hk⟩
    · intro s' hs' vp line abort hrefused
      obtain ⟨k, hk⟩ := query_of_get_item_canceled hrefused
      exact ⟨k, hpending s' k hs' hk⟩
    · intro vp listId line he
      subst he
      obtain ⟨s', hs', -⟩ := enterListAsync_spec h vp listId line
      exact Option.isSome_iff_exists.mpr ⟨s', hs'⟩
    · intro answers he
      subst he
      obtain ⟨s', hs', -⟩ := cancelAllAsyncCalls_spec h answers
      exact Option.isSome_iff_exists.mpr ⟨s', hs'⟩
    · intro k answer he hout
      subst he
      obtain ⟨s', hs', -⟩ := checkRangeReady_spec content h hrestarted hout
      exact Option.isSome_iff_exists.mpr ⟨s', hs'⟩

/-! ## All runs -/

/-- In a run of a list, every step is sound if and only if no range check of a current
query completes that was restarted. -/
theorem enter_list_run_sound_iff (content : ListId → Nat → Item)
    (cacheSizes : ViewportId → UInt32) (events : List (DBusListEvent E)) :
    AlongRun (step content) (EnterStepSound content) (init cacheSizes) events ↔
      AlongRun (step content) (fun s e => ¬s.RestartedQueryCompletes e) (init cacheSizes)
        events :=
  alongRun_iff (I := fun s => EnterInvariant s.enterListData)
    (fun _ _ _ h hrestarted hstep => enterInvariant_step h hrestarted hstep)
    (fun _ e h => enterStepSound_iff h e) events EnterInvariant.init

/-- List 1 is invalidated with list 2 for a replacement while it is being entered; the
range check of list 2 succeeds, and the list is not entered. -/
theorem replaced_list_is_not_entered :
    ¬AlongRun (step fun _ line => line) (EnterStepSound fun _ line => line)
      (init (E := Unit) fun _ => 8)
      [.enterListAsync none ⟨1⟩ 0, .listInvalidate ⟨1⟩ ⟨2⟩ (fun _ => .success),
        .checkRangeReady 1 (.ok 5)] := by
  intro h
  have hsound := ((h.2 _ rfl).2 _ rfl).1
  obtain ⟨s', hs', hquery, -⟩ := hsound.entered 1 5 rfl rfl rfl rfl
  obtain rfl := Option.some.inj hs'
  cases hquery

end DBusList

end Drcpd.Lists

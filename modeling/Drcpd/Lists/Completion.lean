/-
  Lists/Completion.lean --- which completions enter a list.

  A query that has been cancelled before it was done is dead: waiting for its call
  never gives a result, however often it is reported.  A restarted query is run with
  the result-available function of a query that is dead since.  So a step enters a
  list only if it is the successful range check of a query that was neither cancelled
  nor restarted.
-/
import Drcpd.Lists.EnterList
import Drcpd.Lists.ItemAccess

set_option autoImplicit false

namespace Drcpd.Lists

open Drcpd.DBus Drcpd.Rnf

variable {Item E : Type}

/-! ## Dead queries -/

/-- The call has been cancelled before it was done. -/
structure EnterListQuery.Dead (x : EnterListQuery E) : Prop where
  isCancelled : x.call.isCancelled = true
  notDone : x.call.callState ≠ .done

/-- What completions and cancellations keep of the queries. -/
structure Kept (d d' : EnterListData E) : Prop where
  nextQuery : d'.nextQuery = d.nextQuery
  captured : ∀ j, (d'.queries j).captured = (d.queries j).captured
  outstanding : ∀ j, (d'.queries j).outstanding = true → (d.queries j).outstanding = true
  dead : ∀ j, (d.queries j).Dead → (d'.queries j).Dead
  query : ∀ k, d'.query = some k → d.query = some k
  current : ∀ k, d'.query = some k → (d'.queries k).call.callState = .done →
    (d.queries k).call.callState = .done

namespace Kept

variable {d d' d'' : EnterListData E}

theorem refl (d : EnterListData E) : Kept d d :=
  ⟨rfl, fun _ => rfl, fun _ h => h, fun _ h => h, fun _ h => h, fun _ _ h => h⟩

theorem trans (h : Kept d d') (h' : Kept d' d'') : Kept d d'' where
  nextQuery := h'.nextQuery.trans h.nextQuery
  captured j := (h'.captured j).trans (h.captured j)
  outstanding j hj := h.outstanding j (h'.outstanding j hj)
  dead j hj := h'.dead j (h.dead j hj)
  query k hk := h.query k (h'.query k hk)
  current k hk hdone := h.current k (h'.query k hk) (h'.current k hk hdone)

/-- A change to one query. -/
theorem setQuery {q : QueryId} {x : EnterListQuery E}
    (hcaptured : x.captured = (d.queries q).captured)
    (houtstanding : x.outstanding = true → (d.queries q).outstanding = true)
    (hdead : (d.queries q).Dead → x.Dead)
    (hcurrent : d.query = some q → x.call.callState = .done →
      (d.queries q).call.callState = .done) : Kept d (d.setQuery q x) := by
  have hcases : ∀ j, (j = q ∧ (d.setQuery q x).queries j = x) ∨
      (d.setQuery q x).queries j = d.queries j := by
    intro j
    rcases Decidable.em (j = q) with rfl | hj
    · exact Or.inl ⟨rfl, d.setQuery_queries_self j x⟩
    · exact Or.inr (d.setQuery_queries_of_ne q x hj)
  refine ⟨rfl, fun j => ?_, fun j => ?_, fun j => ?_, fun k hk => hk, fun k hk => ?_⟩
  · rcases hcases j with ⟨rfl, hx⟩ | hx
    · rw [hx, hcaptured]
    · rw [hx]
  · rcases hcases j with ⟨rfl, hx⟩ | hx
    · rw [hx]
      exact houtstanding
    · rw [hx]
      exact id
  · rcases hcases j with ⟨rfl, hx⟩ | hx
    · rw [hx]
      exact hdead
    · rw [hx]
      exact id
  · rcases hcases k with ⟨rfl, hx⟩ | hx
    · rw [hx]
      exact hcurrent hk
    · rw [hx]
      exact id

theorem notifyWatcher (d : EnterListData E) (result : OpResult) (q : QueryId) :
    Kept d (d.notifyWatcher result q) :=
  ⟨rfl, fun _ => rfl, fun _ h => h, fun _ h => h, fun _ h => h, fun _ _ h => h⟩

theorem dropQuery (d : EnterListData E) : Kept d { d with query := none } :=
  ⟨rfl, fun _ => rfl, fun _ h => h, fun _ h => h, nofun, nofun⟩

end Kept

namespace DBusList

/-- Only the queries have changed. -/
def OnlyQueries (s s' : DBusList Item E) : Prop :=
  s' = { s with enterListData := s'.enterListData }

namespace OnlyQueries

variable {s s' s'' : DBusList Item E}

theorem refl (s : DBusList Item E) : OnlyQueries s s := rfl

theorem of_data (s : DBusList Item E) (d : EnterListData E) :
    OnlyQueries s { s with enterListData := d } := rfl

theorem trans (h : OnlyQueries s s') (h' : OnlyQueries s' s'') : OnlyQueries s s'' := by
  unfold OnlyQueries at h h' ⊢
  rw [h', h]

end OnlyQueries

section Completion

variable {s s' : DBusList Item E} {q k : QueryId}

theorem dropCallUnlessSuccess_kept (s : DBusList Item E) (q : QueryId) :
    Kept s.enterListData (s.dropCallUnlessSuccess q).enterListData := by
  refine Kept.setQuery rfl ?_ ?_ ?_
  · exact id
  · exact fun h => ⟨h.isCancelled, h.notDone⟩
  · exact fun _ h => h

theorem concludeDone_kept (s : DBusList Item E) (q : QueryId) (outcome : SyncOutcome) :
    Kept s.enterListData (s.concludeDone q outcome).enterListData := by
  cases outcome with
  | threw => exact Kept.notifyWatcher _ _ _
  | result state => cases state <;> exact Kept.notifyWatcher _ _ _

theorem concludeDone_onlyQueries {outcome : SyncOutcome} (h : outcome ≠ .result .done) :
    OnlyQueries s (s.concludeDone q outcome) := by
  cases outcome with
  | threw => rfl
  | result state =>
    cases state with
    | done => exact absurd rfl h
    | _ => rfl

theorem waitForResult_dead {c : AsyncCall UInt32 E} (hc : c.isCancelled = true)
    (hdone : c.callState ≠ .done) :
    (c.waitForResult.2.isCancelled = true ∧ c.waitForResult.2.callState ≠ .done) ∧
      (c.waitForResult = (.returned c.callState, c) ∨ c.waitForResult.1 = .stuck ∨
        c.waitForResult.1 = .readyDirectly) := by
  cases hstate : c.callState with
  | done => exact absurd hstate hdone
  | cancelingDirectly => simp [AsyncCall.waitForResult, hstate, hc]
  | canceled => simp [AsyncCall.waitForResult, hstate, hc]
  | restarted => simp [AsyncCall.waitForResult, hstate, hc]
  | _ => cases hf : c.futureTaken <;> simp [AsyncCall.waitForResult, hstate, hc, hf]

theorem readyDirectly_state (c : AsyncCall UInt32 E) : c.readyDirectly.2.callState ≠ .done := by
  cases hr : c.isCanceledForRestart <;>
    simp [AsyncCall.readyDirectly, AsyncCall.markCanceled, AsyncCall.report, hr]

theorem waitForResult_cancelled (c : AsyncCall UInt32 E) :
    c.waitForResult.2.isCancelled = c.isCancelled := by
  unfold AsyncCall.waitForResult
  split
  all_goals try rfl
  all_goals
    dsimp only
    split_ifs
    all_goals first | rfl | split
    all_goals rfl

/-- Waiting for a query that is not the current one, or that is cancelled. -/
theorem synchronize_kept {report : DBusList Item E → QueryId → Option (DBusList Item E)}
    (hq : s.enterListData.query ≠ some q ∨
      (s.enterListData.queries q).call.isCancelled = true)
    (hreport : ∀ t t', t.enterListData.query = s.enterListData.query →
      report t q = some t' → Kept t.enterListData t'.enterListData)
    {outcome : SyncOutcome} (h : s.synchronize report q = some (outcome, s')) :
    Kept s.enterListData s'.enterListData := by
  have hwait : ∀ outcome' call, (s.enterListData.queries q).call.waitForResult =
      (outcome', call) → ∀ b, Kept s.enterListData
        (s.setQuery q { s.enterListData.queries q with call := call, hasCall := b
          }).enterListData := by
    intro outcome' call hw b
    refine Kept.setQuery rfl id ?_ ?_
    · intro hdead
      have hd := (waitForResult_dead hdead.isCancelled hdead.notDone).1
      rw [hw] at hd
      exact ⟨hd.1, hd.2⟩
    · intro hk hdone
      rcases hq with hne | hc
      · exact absurd hk hne
      · by_contra hnot
        have hd := (waitForResult_dead hc hnot).1
        rw [hw] at hd
        exact hd.2 hdone
  unfold synchronize at h
  dsimp only at h
  split_ifs at h with hcall
  · split at h
    · rename_i state call hw
      obtain ⟨-, rfl⟩ := Prod.mk.inj (Option.some.inj h)
      exact (hwait _ _ hw _).trans (dropCallUnlessSuccess_kept _ q)
    · rename_i call hw
      obtain ⟨-, rfl⟩ := Prod.mk.inj (Option.some.inj h)
      exact hwait _ _ hw _
    · cases h
    · rename_i call hw
      split at h
      · cases h
      · rename_i t ht
        obtain ⟨-, rfl⟩ := Prod.mk.inj (Option.some.inj h)
        refine Kept.trans ?_ (dropCallUnlessSuccess_kept _ q)
        have hset : Kept s.enterListData
            (s.setQuery q { s.enterListData.queries q with call := call.readyDirectly.2
              }).enterListData := by
          refine Kept.setQuery rfl id ?_ ?_
          · intro hdead
            refine ⟨?_, readyDirectly_state call⟩
            have hc := waitForResult_cancelled (s.enterListData.queries q).call
            rw [hw] at hc
            exact hc.trans hdead.isCancelled
          · exact fun _ hdone => absurd hdone (readyDirectly_state call)
        split_ifs at ht
        · exact hset.trans (hreport _ _ rfl ht)
        · exact Option.some.inj ht ▸ hset
  · obtain ⟨-, rfl⟩ := Prod.mk.inj (Option.some.inj h)
    exact Kept.refl _

theorem resultAvailable_kept
    {handleDone : DBusList Item E → QueryId → Option (DBusList Item E)}
    (hdone : ∀ t t' c, t.enterListData.query ≠ some c → handleDone t c = some t' →
      Kept t.enterListData t'.enterListData)
    (h : s.resultAvailable handleDone k = some s') :
    Kept s.enterListData s'.enterListData := by
  unfold resultAvailable at h
  dsimp only at h
  split_ifs at h with hquery hself
  · exact hdone _ _ _ hquery h
  · exact (Kept.dropQuery _).trans (hdone _ _ _ (show none ≠ some _ from nofun) h)
  · exact Option.some.inj h ▸ Kept.refl _

theorem handleDone_kept (fuel : Nat) (hq : s.enterListData.query ≠ some q)
    (h : enterListAsyncHandleDone fuel s q = some s') :
    Kept s.enterListData s'.enterListData := by
  induction fuel generalizing s s' q with
  | zero => cases h
  | succ fuel ih =>
    rw [enterListAsyncHandleDone] at h
    split at h
    · cases h
    · rename_i outcome s₁ hsync
      rw [← Option.some.inj h]
      refine (synchronize_kept (Or.inl hq) ?_ hsync).trans (concludeDone_kept _ q outcome)
      intro t t' _ ht
      exact resultAvailable_kept (fun _ _ _ hc hd => ih hc hd) ht

theorem onResultAvailable_kept (h : s.onResultAvailable k = some s') :
    Kept s.enterListData s'.enterListData :=
  resultAvailable_kept (fun _ _ _ hc hd => handleDone_kept 2 hc hd) h

/-- Waiting for a dead query changes nothing but queries, and gives no list. -/
theorem synchronize_of_dead {report : DBusList Item E → QueryId → Option (DBusList Item E)}
    (hq : (s.enterListData.queries q).Dead)
    (hreport : ∀ t t', Kept s.enterListData t.enterListData →
      t.enterListData.query = s.enterListData.query →
      (t.enterListData.queries q).Dead → report t q = some t' →
      OnlyQueries t t' ∧ (t'.enterListData.queries q).Dead)
    {outcome : SyncOutcome} (h : s.synchronize report q = some (outcome, s')) :
    OnlyQueries s s' ∧ outcome ≠ .result .done := by
  obtain ⟨⟨hcancelled, -⟩, hcases⟩ := waitForResult_dead hq.isCancelled hq.notDone
  unfold synchronize at h
  dsimp only at h
  split_ifs at h with hcall
  · rcases hcases with hw | hw | hw
    · rw [hw] at h
      obtain ⟨rfl, rfl⟩ := Prod.mk.inj (Option.some.inj h)
      exact ⟨rfl, fun hd => hq.notDone (SyncOutcome.result.inj hd)⟩
    · rcases hwait : (s.enterListData.queries q).call.waitForResult with ⟨outcome', call⟩
      rw [hwait] at h hw
      obtain rfl := hw
      cases h
    · rcases hwait : (s.enterListData.queries q).call.waitForResult with ⟨outcome', call⟩
      rw [hwait] at h hw hcancelled
      obtain rfl := hw
      dsimp only at h
      have hset : ((s.setQuery q { s.enterListData.queries q with
          call := call.readyDirectly.2 }).enterListData.queries q).Dead := by
        rw [setQuery_enterListData, EnterListData.setQuery_queries_self]
        exact ⟨hcancelled, readyDirectly_state call⟩
      have hkept : Kept s.enterListData (s.setQuery q { s.enterListData.queries q with
          call := call.readyDirectly.2 }).enterListData := by
        refine Kept.setQuery rfl id (fun _ => ⟨hcancelled, readyDirectly_state call⟩) ?_
        exact fun _ hdone => absurd hdone (readyDirectly_state call)
      split at h
      · cases h
      · rename_i t ht
        obtain ⟨rfl, rfl⟩ := Prod.mk.inj (Option.some.inj h)
        have hresult : OnlyQueries s t ∧ (t.enterListData.queries q).Dead := by
          split_ifs at ht
          · exact hreport (s.setQuery q _) t hkept rfl hset ht
          · rw [← Option.some.inj ht]
            exact ⟨rfl, hset⟩
        refine ⟨hresult.1.trans rfl, fun hd => ?_⟩
        exact hresult.2.notDone (SyncOutcome.result.inj hd)
  · obtain ⟨rfl, rfl⟩ := Prod.mk.inj (Option.some.inj h)
    exact ⟨rfl, nofun⟩

/-- The completion of a dead query enters no list. -/
theorem handleDone_of_dead (fuel : Nat) (hself : (s.enterListData.queries q).captured = q)
    (hquery : s.enterListData.query ≠ some q) (hq : (s.enterListData.queries q).Dead)
    (h : enterListAsyncHandleDone fuel s q = some s') : OnlyQueries s s' := by
  induction fuel generalizing s s' with
  | zero => cases h
  | succ fuel ih =>
    rw [enterListAsyncHandleDone] at h
    split at h
    · cases h
    · rename_i outcome s₁ hsync
      rw [← Option.some.inj h]
      have hresult := synchronize_of_dead hq ?_ hsync
      · exact hresult.1.trans (concludeDone_onlyQueries hresult.2)
      · intro t t' hkept htquery htdead ht
        have hcaptured := (hkept.captured q).trans hself
        have htkept := resultAvailable_kept (fun _ _ _ hc hd => handleDone_kept fuel hc hd) ht
        refine ⟨?_, htkept.dead q htdead⟩
        unfold resultAvailable at ht
        dsimp only at ht
        rw [hcaptured, htquery, if_pos hquery] at ht
        exact ih hcaptured (htquery ▸ hquery) htdead ht

end Completion

/-! ## Where the captured queries are dead -/

/-- A query that another one has captured is dead, and the current query is not done
if it has captured itself. -/
structure RootsDead (d : EnterListData E) : Prop where
  captured_lt : ∀ j, j < d.nextQuery → (d.queries j).captured < d.nextQuery
  captured_captured : ∀ j, j < d.nextQuery →
    (d.queries (d.queries j).captured).captured = (d.queries j).captured
  dead : ∀ j, j < d.nextQuery → (d.queries j).captured ≠ j →
    (d.queries (d.queries j).captured).Dead
  query_lt : ∀ k, d.query = some k → k < d.nextQuery
  outstanding_lt : ∀ j, (d.queries j).outstanding = true → j < d.nextQuery
  current : ∀ k, d.query = some k → (d.queries k).captured = k →
    (d.queries k).call.callState ≠ .done

namespace RootsDead

variable {d d' : EnterListData E}

theorem init : RootsDead ({} : EnterListData E) where
  captured_lt j hj := by cases hj
  captured_captured j hj := by cases hj
  dead j hj := by cases hj
  query_lt k hk := by cases hk
  outstanding_lt j hj := by cases hj
  current k hk := by cases hk

theorem of_kept (h : RootsDead d) (hkept : Kept d d') : RootsDead d' where
  captured_lt j hj := by
    rw [hkept.nextQuery] at hj ⊢
    rw [hkept.captured]
    exact h.captured_lt j hj
  captured_captured j hj := by
    rw [hkept.nextQuery] at hj
    rw [hkept.captured, hkept.captured]
    exact h.captured_captured j hj
  dead j hj hne := by
    rw [hkept.nextQuery] at hj
    rw [hkept.captured] at hne ⊢
    exact hkept.dead _ (h.dead j hj hne)
  query_lt k hk := by
    rw [hkept.nextQuery]
    exact h.query_lt k (hkept.query k hk)
  outstanding_lt j hj := by
    rw [hkept.nextQuery]
    exact h.outstanding_lt j (hkept.outstanding j hj)
  current k hk hself hdone := by
    rw [hkept.captured] at hself
    exact h.current k (hkept.query k hk) hself (hkept.current k hk hdone)

/-- A new query, with a result-available function of its own or that of a dead
query. -/
theorem runQuery (h : RootsDead d) (listId : ListId) (line : UInt32)
    (vp : Option ViewportId) {captured : Option QueryId}
    (hcaptured : ∀ c, captured = some c →
      c < d.nextQuery ∧ (d.queries c).captured = c ∧ (d.queries c).Dead) :
    RootsDead (d.runQuery listId line vp captured) := by
  have hold : ∀ j, j < d.nextQuery →
      (d.runQuery listId line vp captured).queries j = d.queries j := by
    intro j hj
    simp [EnterListData.runQuery, Nat.ne_of_lt hj]
  have hnew : ((d.runQuery listId line vp captured).queries d.nextQuery).captured =
      captured.getD d.nextQuery := by
    simp [EnterListData.runQuery]
  have hcases : ∀ j, j < d.nextQuery + 1 → j < d.nextQuery ∨ j = d.nextQuery :=
    fun j hj => Nat.lt_succ_iff_lt_or_eq.mp hj
  constructor
  · intro j hj
    change _ < d.nextQuery + 1
    rcases hcases j hj with hlt | rfl
    · rw [hold j hlt]
      exact Nat.lt_succ_of_lt (h.captured_lt j hlt)
    · rw [hnew]
      cases captured with
      | none => exact Nat.lt_succ_self _
      | some c => exact Nat.lt_succ_of_lt (hcaptured c rfl).1
  · intro j hj
    rcases hcases j hj with hlt | rfl
    · rw [hold j hlt, hold _ (h.captured_lt j hlt)]
      exact h.captured_captured j hlt
    · rw [hnew]
      cases captured with
      | none => exact hnew
      | some c =>
        obtain ⟨hlt, hself, -⟩ := hcaptured c rfl
        rw [Option.getD_some, hold c hlt]
        exact hself
  · intro j hj hne
    rcases hcases j hj with hlt | rfl
    · rw [hold j hlt] at hne ⊢
      rw [hold _ (h.captured_lt j hlt)]
      exact h.dead j hlt hne
    · rw [hnew] at hne ⊢
      cases captured with
      | none => exact absurd rfl hne
      | some c =>
        obtain ⟨hlt, -, hdead⟩ := hcaptured c rfl
        rw [Option.getD_some, hold c hlt]
        exact hdead
  · intro k hk
    rw [← Option.some.inj hk]
    exact Nat.lt_succ_self _
  · intro j hj
    change j < d.nextQuery + 1
    rcases Decidable.em (j = d.nextQuery) with rfl | hne
    · exact Nat.lt_succ_self _
    · have hsame : (d.runQuery listId line vp captured).queries j = d.queries j := by
        simp [EnterListData.runQuery, hne]
      rw [hsame] at hj
      exact Nat.lt_succ_of_lt (h.outstanding_lt j hj)
  · intro k hk _
    rw [← Option.some.inj hk]
    simp [EnterListData.runQuery, AsyncCall.invoke]

end RootsDead

theorem cancel_kept (d : EnterListData E) (q : QueryId) (willBeRestarted : Bool) :
    Kept d (d.cancel q willBeRestarted).2 := by
  unfold EnterListData.cancel AsyncCall.cancel
  dsimp only
  split_ifs with hcall hcancelled
  · exact Kept.setQuery rfl id id fun _ h => h
  · exact Kept.setQuery rfl id (fun h => ⟨rfl, h.notDone⟩) fun _ h => h
  · exact Kept.refl d

theorem cancel_isCancelled {d d' : EnterListData E} {q : QueryId} {willBeRestarted : Bool}
    {result : CancelResult} (hcall : (d.queries q).hasCall = true)
    (h : d.cancel q willBeRestarted = (result, d')) :
    (d'.queries q).call.isCancelled = true ∧
      (d'.queries q).call.callState = (d.queries q).call.callState := by
  unfold EnterListData.cancel AsyncCall.cancel at h
  dsimp only at h
  rw [if_pos hcall] at h
  split_ifs at h with hcancelled
  · obtain ⟨-, rfl⟩ := Prod.mk.inj h
    rw [EnterListData.setQuery_queries_self]
    exact ⟨hcancelled, rfl⟩
  · obtain ⟨-, rfl⟩ := Prod.mk.inj h
    rw [EnterListData.setQuery_queries_self]
    exact ⟨rfl, rfl⟩

theorem RootsDead.restartIfNecessary {d : EnterListData E} (h : RootsDead d)
    (invalidatedListId replacementId : ListId) :
    RootsDead (d.restartIfNecessary invalidatedListId replacementId) := by
  unfold EnterListData.restartIfNecessary
  cases hquery : d.query with
  | none => exact h
  | some q =>
    dsimp only
    cases hcall : (d.queries q).hasCall with
    | false => exact h
    | true =>
      simp only [Bool.not_true, Bool.false_eq_true, if_false]
      split_ifs with hlist hvalid
      · exact h
      · exact h.of_kept (cancel_kept d q false)
      · have hkept := cancel_kept d q true
        apply (h.of_kept hkept).runQuery
        intro c hc
        obtain rfl := Option.some.inj hc
        have hlt := h.query_lt q hquery
        refine ⟨?_, ?_, ?_⟩
        · rw [hkept.nextQuery]
          exact h.captured_lt q hlt
        · rw [hkept.captured]
          exact h.captured_captured q hlt
        · rcases Decidable.em ((d.queries q).captured = q) with hself | hne
          · -- the query is dead from now on
            rcases hcancel : d.cancel q true with ⟨result, d'⟩
            obtain ⟨hcancelled, hstate⟩ := cancel_isCancelled hcall hcancel
            rw [hself]
            refine ⟨hcancelled, ?_⟩
            rw [hstate]
            exact h.current q hquery hself
          · exact hkept.dead _ (h.dead q hlt hne)

section Steps

variable {s s' : DBusList Item E} {k : QueryId}

/-- The result-available function of a dead query enters no list, and neither does that
of a query that has captured another one. -/
theorem onResultAvailable_onlyQueries (h : RootsDead s.enterListData)
    (hk : k < s.enterListData.nextQuery)
    (hdead : (s.enterListData.queries k).captured = k → (s.enterListData.queries k).Dead)
    (hs : s.onResultAvailable k = some s') : OnlyQueries s s' := by
  have hroot : (s.enterListData.queries (s.enterListData.queries k).captured).Dead := by
    rcases Decidable.em ((s.enterListData.queries k).captured = k) with hself | hne
    · rw [hself]
      exact hdead hself
    · exact h.dead k hk hne
  unfold onResultAvailable resultAvailable at hs
  dsimp only at hs
  split_ifs at hs with hquery hcurrent
  · exact handleDone_of_dead 2 (h.captured_captured k hk) hquery hroot hs
  · have honly := handleDone_of_dead (s := { s with
      enterListData := { s.enterListData with query := none } }) 2
      (h.captured_captured k hk) nofun hroot hs
    exact (OnlyQueries.of_data s _).trans honly
  · exact Option.some.inj hs ▸ OnlyQueries.refl s

/-- Waiting for a query that has just been cancelled. -/
theorem synchronize_of_isCancelled (h : RootsDead s.enterListData)
    (hk : k < s.enterListData.nextQuery)
    (hcancelled : (s.enterListData.queries k).call.isCancelled = true) {outcome : SyncOutcome}
    (hs : s.synchronize onResultAvailable k = some (outcome, s')) : OnlyQueries s s' := by
  rcases Decidable.em ((s.enterListData.queries k).call.callState = .done) with hdone | hnot
  · have hwait : (s.enterListData.queries k).call.waitForResult =
        (.returned .done, (s.enterListData.queries k).call) := by
      simp [AsyncCall.waitForResult, hdone]
    unfold synchronize at hs
    dsimp only at hs
    rw [hwait] at hs
    split_ifs at hs
    · obtain ⟨-, rfl⟩ := Prod.mk.inj (Option.some.inj hs)
      rfl
    · obtain ⟨-, rfl⟩ := Prod.mk.inj (Option.some.inj hs)
      rfl
  · refine (synchronize_of_dead ⟨hcancelled, hnot⟩ ?_ hs).1
    intro t t' hkept _ hdead ht
    refine ⟨?_, (onResultAvailable_kept ht).dead k hdead⟩
    apply onResultAvailable_onlyQueries (h.of_kept hkept) _ (fun _ => hdead) ht
    rw [hkept.nextQuery]
    exact hk

/-- Cancelling the current query enters no list. -/
theorem cancelEnterListQuery_onlyQueries (h : RootsDead s.enterListData)
    (hs : s.cancelEnterListQuery = some s') :
    RootsDead s'.enterListData ∧ OnlyQueries s s' := by
  have hcancel : ∀ q result t, s.enterListData.query = some q →
      s.cancelSync q = some (result, t) → RootsDead t.enterListData ∧ OnlyQueries s t := by
    intro q result t hquery ht
    have hkept := cancel_kept s.enterListData q false
    unfold cancelSync at ht
    split at ht
    · rename_i d hd
      rw [hd] at hkept
      have hcancelled : (d.queries q).call.isCancelled = true := by
        cases hcall : (s.enterListData.queries q).hasCall with
        | true => exact (cancel_isCancelled hcall hd).1
        | false =>
          rw [EnterListData.cancel, hcall] at hd
          cases hd
      split at ht
      · cases ht
      · rename_i outcome t' hsync
        obtain ⟨-, rfl⟩ := Prod.mk.inj (Option.some.inj ht)
        refine ⟨(h.of_kept hkept).of_kept ?_, ?_⟩
        · exact synchronize_kept (Or.inr hcancelled)
            (fun _ _ _ hready => onResultAvailable_kept hready) hsync
        · refine (OnlyQueries.of_data s d).trans
            (synchronize_of_isCancelled (h.of_kept hkept) ?_ hcancelled hsync)
          rw [hkept.nextQuery]
          exact h.query_lt q hquery
    · rename_i d hd
      rw [hd] at hkept
      obtain ⟨-, rfl⟩ := Prod.mk.inj (Option.some.inj ht)
      exact ⟨h.of_kept hkept, rfl⟩
  unfold cancelEnterListQuery at hs
  split at hs
  · exact Option.some.inj hs ▸ ⟨h, rfl⟩
  · rename_i q hquery
    split at hs
    · cases hs
    · rename_i t ht
      obtain ⟨hroots, honly⟩ := hcancel q _ t hquery ht
      rw [← Option.some.inj hs]
      exact ⟨hroots.of_kept (Kept.dropQuery _), honly.trans rfl⟩
    · rename_i t ht
      exact Option.some.inj hs ▸ hcancel q _ t hquery ht
    · rename_i t ht
      exact Option.some.inj hs ▸ hcancel q _ t hquery ht

/-- `enter_list_async` itself enters no list. -/
theorem enterListAsync_onlyQueries (h : RootsDead s.enterListData)
    {associatedViewport : Option ViewportId} {listId : ListId} {line : UInt32}
    (hs : s.enterListAsync associatedViewport listId line = some s') :
    RootsDead s'.enterListData ∧ OnlyQueries s s' := by
  unfold enterListAsync at hs
  split at hs
  · cases hs
  · rename_i t ht
    obtain ⟨hroots, honly⟩ := cancelEnterListQuery_onlyQueries h ht
    rw [← Option.some.inj hs]
    refine ⟨?_, honly.trans rfl⟩
    exact (hroots.runQuery listId line associatedViewport
      (show ∀ c, none = some c → _ from nofun)).of_kept (Kept.notifyWatcher _ _ _)

theorem waitForResult_failed {c : AsyncCall UInt32 E} (hstate : c.callState = .failed)
    (hcancelled : c.isCancelled = false) :
    c.waitForResult.1 = .stuck ∨ c.waitForResult.1 = .threw ∨
      c.waitForResult.1 = .returned .failed := by
  cases hf : c.futureTaken with
  | true => simp [AsyncCall.waitForResult, hstate, hf]
  | false =>
    rcases hp : c.promise with _ | (_ | _) <;>
      simp [AsyncCall.waitForResult, hstate, hcancelled, hf, hp]

/-- The completion of a call with an error enters no list. -/
theorem handleDone_onlyQueries_of_failed (fuel : Nat)
    (hstate : (s.enterListData.queries k).call.callState = .failed)
    (hcancelled : (s.enterListData.queries k).call.isCancelled = false)
    (hs : enterListAsyncHandleDone fuel s k = some s') : OnlyQueries s s' := by
  cases fuel with
  | zero => cases hs
  | succ fuel =>
    rw [enterListAsyncHandleDone] at hs
    split at hs
    · cases hs
    · rename_i outcome t hsync
      rw [← Option.some.inj hs]
      have hresult : OnlyQueries s t ∧ outcome ≠ .result .done := by
        have hcases := waitForResult_failed hstate hcancelled
        unfold synchronize at hsync
        dsimp only at hsync
        rcases hwait : (s.enterListData.queries k).call.waitForResult with ⟨outcome', call⟩
        rw [hwait] at hsync hcases
        split_ifs at hsync
        · rcases hcases with rfl | rfl | rfl
          · cases hsync
          · obtain ⟨rfl, rfl⟩ := Prod.mk.inj (Option.some.inj hsync)
            exact ⟨rfl, by intro houtcome; cases houtcome⟩
          · obtain ⟨rfl, rfl⟩ := Prod.mk.inj (Option.some.inj hsync)
            exact ⟨rfl, by intro houtcome; cases houtcome⟩
        · obtain ⟨rfl, rfl⟩ := Prod.mk.inj (Option.some.inj hsync)
          exact ⟨rfl, by intro houtcome; cases houtcome⟩
      exact hresult.1.trans (concludeDone_onlyQueries hresult.2)

/-- A successful range check of a query that was neither cancelled nor restarted. -/
def EntersList (s : DBusList Item E) (k : QueryId) : Except E UInt32 → Prop
  | .ok _ => (s.enterListData.queries k).call.isCancelled = false ∧
      (s.enterListData.queries k).captured = k
  | .error _ => False

theorem readyLocked_state (c : AsyncCall UInt32 E) (answer : Except E UInt32) :
    (c.readyLocked answer).2.callState ≠ .done := by
  unfold AsyncCall.readyLocked
  split_ifs
  · exact readyDirectly_state c
  · cases answer with
    | ok value =>
      cases hp : c.promise <;> simp [AsyncCall.putResult, AsyncCall.report, hp]
    | error e => simp [AsyncCall.putResult, AsyncCall.report]

theorem readyLocked_isCancelled (c : AsyncCall UInt32 E) (answer : Except E UInt32) :
    (c.readyLocked answer).2.isCancelled = c.isCancelled := by
  unfold AsyncCall.readyLocked
  split_ifs
  · rfl
  · cases answer with
    | ok value =>
      cases hp : c.promise <;> simp [AsyncCall.putResult, AsyncCall.report, hp]
    | error e => rfl

/-- The result-available function of a call with an error enters no list. -/
theorem onResultAvailable_onlyQueries_of_failed
    (hself : (s.enterListData.queries k).captured = k)
    (hstate : (s.enterListData.queries k).call.callState = .failed)
    (hcancelled : (s.enterListData.queries k).call.isCancelled = false)
    (hs : s.onResultAvailable k = some s') : OnlyQueries s s' := by
  unfold onResultAvailable resultAvailable at hs
  dsimp only at hs
  rw [hself] at hs
  split_ifs at hs
  · exact handleDone_onlyQueries_of_failed 2 hstate hcancelled hs
  · have honly := handleDone_onlyQueries_of_failed (s := { s with
      enterListData := { s.enterListData with query := none } }) 2 hstate hcancelled hs
    exact (OnlyQueries.of_data s _).trans honly
  · exact Option.some.inj hs ▸ OnlyQueries.refl s

/-- When GLib calls back, a list is entered only as `EntersList` says. -/
theorem checkRangeReady_onlyQueries (h : RootsDead s.enterListData)
    {answer : Except E UInt32} (hs : s.checkRangeReady k answer = some s') :
    RootsDead s'.enterListData ∧ (¬s.EntersList k answer → OnlyQueries s s') := by
  unfold checkRangeReady at hs
  dsimp only at hs
  cases hout : (s.enterListData.queries k).outstanding with
  | false =>
    rw [hout] at hs
    cases hs
  | true =>
    rw [hout, if_pos rfl] at hs
    let t := s.setQuery k
      { s.enterListData.queries k with
        call := ((s.enterListData.queries k).call.readyLocked answer).2, outstanding := false }
    have ht : t.enterListData.queries k =
        { s.enterListData.queries k with
          call := ((s.enterListData.queries k).call.readyLocked answer).2
          outstanding := false } := EnterListData.setQuery_queries_self _ _ _
    have hkept : Kept s.enterListData t.enterListData := by
      refine Kept.setQuery rfl nofun ?_ ?_
      · intro hdead
        refine ⟨?_, readyLocked_state _ answer⟩
        rw [readyLocked_isCancelled]
        exact hdead.isCancelled
      · exact fun _ hdone => absurd hdone (readyLocked_state _ answer)
    have hroots := h.of_kept hkept
    split_ifs at hs
    · refine ⟨hroots.of_kept (onResultAvailable_kept hs), fun hnot => ?_⟩
      have hcancelled : (t.enterListData.queries k).call.isCancelled =
          (s.enterListData.queries k).call.isCancelled := by
        rw [ht]
        exact readyLocked_isCancelled _ answer
      refine (OnlyQueries.of_data s t.enterListData).trans ?_
      cases hc : (s.enterListData.queries k).call.isCancelled with
      | true =>
        refine onResultAvailable_onlyQueries hroots (h.outstanding_lt k hout) (fun _ => ?_) hs
        refine ⟨hcancelled.trans hc, ?_⟩
        rw [ht]
        exact readyLocked_state _ answer
      | false =>
        rcases Decidable.em ((s.enterListData.queries k).captured = k) with hself | hne
        · cases answer with
          | ok size => exact absurd ⟨hc, hself⟩ hnot
          | error e =>
            refine onResultAvailable_onlyQueries_of_failed ((hkept.captured k).trans hself) ?_
              (hcancelled.trans hc) hs
            rw [ht]
            simp [AsyncCall.readyLocked, hc, AsyncCall.putResult, AsyncCall.report]
        · refine onResultAvailable_onlyQueries hroots (h.outstanding_lt k hout) ?_ hs
          intro hself
          exact absurd ((hkept.captured k).symm.trans hself) hne
    · exact Option.some.inj hs ▸ ⟨hroots, fun _ => rfl⟩

/-- `cancel_all` changes nothing but queries and fetchers. -/
theorem cancelAllAsyncCalls_frame (h : RootsDead s.enterListData)
    {answers : FetcherId → AbortAnswer} (hs : s.cancelAllAsyncCalls answers = some s') :
    RootsDead s'.enterListData ∧ s'.listId = s.listId ∧ s'.numberOfItems = s.numberOfItems ∧
      s'.viewports = s.viewports := by
  obtain ⟨t, ht, rfl⟩ := Option.map_eq_some_iff.mp hs
  obtain ⟨hroots, honly⟩ := cancelEnterListQuery_onlyQueries h ht
  unfold OnlyQueries at honly
  refine ⟨hroots, ?_, ?_, ?_⟩
  · exact congrArg (fun x => x.listId) honly
  · exact congrArg (fun x => x.numberOfItems) honly
  · exact congrArg (fun x => x.viewports) honly

/-- Captured queries stay dead. -/
theorem rootsDead_step {content : ListId → Nat → Item} {e : DBusListEvent E}
    (h : RootsDead s.enterListData) (hstep : s.step content e = some s') :
    RootsDead s'.enterListData := by
  cases e with
  | enterListAsync vp listId line => exact (enterListAsync_onlyQueries h hstep).1
  | checkRangeReady k answer => exact (checkRangeReady_onlyQueries h hstep).1
  | listInvalidate listId replacementId answers =>
    obtain rfl := Option.some.inj hstep
    have hdata : (s.listInvalidate listId replacementId answers).enterListData =
        s.enterListData.restartIfNecessary listId replacementId := by
      unfold listInvalidate
      dsimp only
      split_ifs <;> rfl
    rw [hdata]
    exact h.restartIfNecessary listId replacementId
  | cancelAllAsyncCalls answers => exact (cancelAllAsyncCalls_frame h hstep).1
  | _ =>
    have hsame := step_sameList (by exact trivial) hstep
    rw [hsame.enterListData]
    exact h

end Steps

end DBusList

end Drcpd.Lists

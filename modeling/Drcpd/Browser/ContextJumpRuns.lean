/-
  Browser/ContextJumpRuns.lean --- jumps to list contexts over whole runs.

  In each of the phases of a jump, every step is as expected exactly if it meets a condition, and
  then the view is in one of the phases again.
-/
import Drcpd.Foundation.Run
import Drcpd.Browser.ContextJumpSteps

set_option autoImplicit false

namespace Drcpd.Browser

open DBus (AsyncCall)
open Foundation (AlongRun runFrom)
open Drcpd.Lists (OpResult)
open Rnf (Call RequestAnswer)

namespace View

/-! ## What is expected, and when it is met -/

/-- A call or query which takes part in the jump is completed in a step. -/
def Completes (v : View) : ViewEvent → Prop
  | .contextRootResult _ _ =>
      ∃ call, v.getContextRoot = some call ∧ call.callState = .inProgress
  | .listIdResult _ _ => ∃ call, v.getListId = some call ∧ call.isOutstanding = true
  | .enterListResult q isOutdated result _ _ _ =>
      q.callerId = .enterContextRoot ∧ result ≠ .started ∧ result ≠ .busy ∧
        (v.takeQuery q isOutdated).isSome = true
  | .pointToChildDirectory (.fastPath _) _ => True
  | .pointToChildDirectory _ _ | .setListContextRoot _ | .pointToRootDirectory _ _
  | .pointToParentLink | .listInvalidate _ _ _ _ _ | .parentIdResult _ _ => False

/-- What is expected of a step: the view is sound afterwards, and during a jump it gets past the
completions of calls. -/
structure StepSound (v : View) (e : ViewEvent) : Prop where
  completes : v.jump.state ≠ .notJumping → v.Completes e → (v.step e).isSome = true
  sound : ∀ v', v.step e = some v' → v'.Sound

/-- The condition for going to the root directory.  A new call takes care of the jump if it is not
answered at once. -/
def RootFits (v : View) (answer : ListIdAnswer) : Prop :=
  v.IsPastFirstStep →
    match v.contextRestriction.contextId with
    | some ctxId => v.jump.isJumpingToContext ctxId = false ∧ v.EntersContextRoot
    | none =>
        match answer with
        | .cookie _ => True
        | .fastPath _ => False
        | .unmanaged _ _ | .fastPathThrows _ | .failed _ => v.EntersContextRoot

/-- The condition on the result of a call for a child directory. -/
def ListIdFits (v : View) (result : Except ListErrorCode GetListIdResult)
    (cancel : QueryCancel) : Prop :=
  match result with
  | .error e => e.failed = true
  | .ok result =>
      result.error.failed = true ∨
        (result.listId.isValid = true ∧ v.jump.state ≠ .enterContextList ∧
          ¬v.ReportsContextRoot cancel)

/-- The condition for going to a child directory. -/
def ChildFits (v : View) (answer : ListIdAnswer) (cancel : QueryCancel) : Prop :=
  v.IsPastFirstStep →
    match answer with
    | .cookie _ => True
    | .fastPath result => v.ListIdFits (.ok result) cancel
    | .unmanaged _ _ | .fastPathThrows _ | .failed _ => v.EntersContextRoot

/-- The condition for entering any other list. -/
def EnterFits (v : View) (cancel : QueryCancel) : Prop :=
  v.jump.state ≠ .notJumping → cancel.report.isSome = true →
    ∀ canceled, v.query = some canceled → canceled.callerId ≠ .enterContextRoot ∧
      (v.IsPastFirstStep → ∃ q ∈ v.outdated, q.callerId = .enterContextRoot)

/-- The condition on the end of a query, which is no longer among the queries of the view. -/
def QueryFits (v : View) (q : ListQuery) (result : OpResult) (child : ListIdAnswer)
    (cancel : QueryCancel) : Prop :=
  v.jump.state ≠ .notJumping →
    if q.callerId = .enterContextRoot then
      result = .succeeded ∧
        match v.jump.state with
        | .enterContextParent =>
            { v with jump := v.jump.beginSecondStep }.ChildFits child cancel
        | .enterContextList => True
        | .notJumping | .getContextParentId | .getContextListId => False
    else v.IsPastFirstStep → v.EntersContextRoot

/-- The condition on a step. -/
def Fits (v : View) : ViewEvent → Prop
  | .setListContextRoot _ => True
  | .pointToRootDirectory answer _ => v.RootFits answer
  | .pointToChildDirectory answer cancel => v.ChildFits answer cancel
  | .pointToParentLink =>
      v.IsPastFirstStep → v.contextRestriction.isBoundary v.currentListId = false →
        v.EntersContextRoot
  | .listInvalidate listId replacementId hasLine answer cancel =>
      let begun := v.beginListInvalidate listId replacementId
      listId.isValid = true → begun.1 = false →
        if listId ≠ v.currentListId then v.currentListId.isValid = false → begun.2.RootFits answer
        else if replacementId.isValid ∧ hasLine then begun.2.EnterFits cancel
        else begun.2.RootFits answer
  | .contextRootResult answer cancel =>
      v.jump.state = .getContextParentId →
        ∀ listId, answer = .ok listId → listId.isValid = true → ¬v.ReportsContextRoot cancel
  | .parentIdResult answer cancel =>
      v.getParentId = true →
        ∀ listId, answer = .ok listId → listId.isValid = true → v.EnterFits cancel
  | .listIdResult result cancel =>
      v.IsPastFirstStep → ∀ call, v.getListId = some call → call.isOutstanding = true →
        call.target = .childDirectory ∧ v.ListIdFits result cancel
  | .enterListResult q isOutdated result child _ cancel =>
      result ≠ .started → result ≠ .busy →
        ∀ v', v.takeQuery q isOutdated = some v' → v'.QueryFits q result child cancel

/-! ## Outcomes -/

/-- How a function ends: if the condition is met, then the view is in one of the phases, and the
jump has not gone back; if not, then the view is not sound. -/
structure Outcome (s : JumpState) (r : Option View) (fits : Prop) : Prop where
  good : fits → ∃ v', r = some v' ∧ v'.Inv ∧
    (v'.jump.state = .notJumping ∨ s.rank ≤ v'.jump.state.rank)
  bad : ¬fits → ∀ v', r = some v' → ¬v'.Sound

variable {v v' : View} {r : Option View} {fits : Prop}

theorem Early.not_past (h : v.Early) : ¬v.IsPastFirstStep := by
  rintro ⟨hjumping, hpast⟩
  rcases h with h | h
  · exact hjumping h.state
  · exact hpast h.state

theorem Early.outcome (h : v.Early) (hr : ∃ v', r = some v' ∧ v'.Early) (hfits : fits) :
    Outcome v.jump.state r fits where
  good := by
    intro _
    obtain ⟨v', hv', hearly⟩ := hr
    refine ⟨v', hv', Or.inl hearly, ?_⟩
    rcases hearly with h' | h'
    · exact Or.inl h'.state
    · right
      rw [h'.state]
      rcases h with h | h
      · rw [h.state]
        exact Nat.zero_le _
      · rw [h.state]
  bad := fun hnot => absurd hfits hnot

/-- The jump has come past its first step. -/
structure LateBase (v : View) : Prop where
  past : v.IsPastFirstStep
  contextRoot : v.getContextRoot = none
  completions : ∀ c ∈ v.completions, Advances c.1 c.2

theorem Late.base (h : v.Late) : v.LateBase := ⟨h.past, h.contextRoot, h.completions⟩

theorem LateBase.inv_of_call (h : v.LateBase) {call : HeldListIdCall}
    (hcall : v.getListId = some call) (houtstanding : call.isOutstanding = true) : v.Inv :=
  Or.inr ⟨h.past, h.contextRoot, Or.inl ⟨call, hcall, houtstanding⟩, h.completions⟩

theorem LateBase.inv_of_query (h : v.LateBase) (hquery : v.EntersContextRoot) : v.Inv :=
  Or.inr ⟨h.past, h.contextRoot, Or.inr hquery, h.completions⟩

/-- Without a GetListID call, the jump needs a query. -/
theorem LateBase.not_sound (h : v.LateBase) (hlist : v.getListId = none)
    (hquery : ¬v.EntersContextRoot) : ¬v.Sound := by
  intro hsound
  rcases hsound.carried (isJumping_iff.mpr h.past.1) with ⟨call, hcall, -⟩ | ⟨call, hcall, -⟩ | hq
  · simp [h.contextRoot] at hcall
  · simp [hlist] at hcall
  · exact hquery hq

theorem LateBase.outcome_of_none (h : v.LateBase) (hlist : v.getListId = none) (before : View)
    (hbefore : before.jump = v.jump) : Outcome before.jump.state (some v) v.EntersContextRoot where
  good := fun hquery => ⟨v, rfl, h.inv_of_query hquery, Or.inr (by rw [hbefore])⟩
  bad := by
    intro hquery v' hv'
    cases hv'
    exact h.not_sound hlist hquery

/-- A completion without effect on the jump. -/
theorem not_sound_of_completion {s : JumpState} (hmem : (s, s) ∈ v.completions)
    (hs : s ≠ .notJumping) : ¬v.Sound :=
  fun hsound => not_advances_self hs (hsound.completions _ hmem)

theorem not_sound_completed {before : View} (h : ¬v.Sound) : ¬(completed before v).Sound := by
  intro hsound
  exact h ⟨hsound.carried, hsound.invoked,
    fun c hc => hsound.completions c (List.mem_append_left _ hc)⟩

theorem not_sound_completed_self {before : View} (hjump : v.jump = before.jump)
    (hjumping : before.jump.state ≠ .notJumping) : ¬(completed before v).Sound := by
  refine not_sound_of_completion (s := before.jump.state) ?_ hjumping
  have hlast : (before.jump.state, v.jump.state) ∈ (completed before v).completions :=
    List.mem_append_right _ (List.mem_singleton.mpr rfl)
  rwa [hjump] at hlast

theorem Inv.completed (h : v.Inv) {before : View}
    (hadvances : Advances before.jump.state v.jump.state) : (View.completed before v).Inv := by
  have hcompletions := fun hv => forall_completed (v := v) hv hadvances
  rcases h with (h | h) | h
  · exact Or.inl (Or.inl ⟨h.state, h.contextRoot, hcompletions h.completions⟩)
  · exact Or.inl (Or.inr ⟨h.state, h.contextRoot, h.listId, h.parentId,
      hcompletions h.completions⟩)
  · exact Or.inr ⟨h.past, h.contextRoot, h.carried, hcompletions h.completions⟩

/-! ## Entering lists -/

/-- Another list is entered during a jump, and no query is reported to be cancelled. -/
theorem Inv.startQuery (h : v.Inv) (q : ListQuery) : (v.startQuery q).Inv := by
  rcases h with h | h
  · exact Or.inl (h.startQuery q)
  · refine Or.inr ⟨h.past, h.contextRoot, h.carried.imp_right ?_, h.completions⟩
    rintro ⟨other, hother, hcaller⟩
    refine ⟨other, ?_, hcaller⟩
    unfold queries View.startQuery at *
    simp only [Option.toList_some, List.mem_append, List.mem_singleton] at hother ⊢
    tauto

/-- Another list is entered during a jump, and a query is reported to be cancelled. -/
theorem Inv.enterListAsync_reported (h : v.Inv) (hjumping : v.jump.state ≠ .notJumping)
    {cancel : QueryCancel} {q canceled : ListQuery} (hq : q.callerId ≠ .enterContextRoot)
    (hcanceled : v.query = some canceled) (hreport : cancel.report.isSome = true) {w : View}
    (hentered : v.Entered cancel q w) :
    Outcome v.jump.state (some w) (v.EnterFits cancel) := by
  obtain ⟨hlist, hparent, houtdated⟩ := hentered.reported canceled hcanceled hreport
  have hqueries : w.EntersContextRoot ↔ ∃ o ∈ v.outdated, o.callerId = .enterContextRoot := by
    unfold EntersContextRoot queries
    rw [hentered.query, houtdated]
    simp [hq]
  constructor
  · intro hfits
    obtain ⟨hother, hpast⟩ := hfits hjumping hreport canceled hcanceled
    have hnot : ¬v.ReportsContextRoot cancel := by
      rintro ⟨-, o, ho, hcaller⟩
      cases hcanceled.symm.trans ho
      exact hother hcaller
    refine ⟨w, rfl, ?_, Or.inr (by rw [hentered.jump])⟩
    rcases h with (h | h) | h
    · exact absurd h.state hjumping
    · exact Or.inl (Or.inr ⟨hentered.jump ▸ h.state, hentered.contextRoot ▸ h.contextRoot,
        hlist, hparent, hentered.completions hnot ▸ h.completions⟩)
    · refine LateBase.inv_of_query ⟨?_, hentered.contextRoot ▸ h.contextRoot,
        hentered.completions hnot ▸ h.completions⟩ (hqueries.mpr (hpast h.past))
      unfold IsPastFirstStep
      rw [hentered.jump]
      exact h.past
  · intro hnot v' hv'
    cases hv'
    by_cases hcaller : canceled.callerId = .enterContextRoot
    · refine not_sound_of_completion (s := v.jump.state) ?_ hjumping
      rw [hentered.completed ⟨hreport, canceled, hcanceled, hcaller⟩]
      exact List.mem_append_right _ (List.mem_singleton.mpr rfl)
    · have hmissing : ¬(v.IsPastFirstStep →
          ∃ o ∈ v.outdated, o.callerId = .enterContextRoot) := by
        intro hpast
        refine hnot fun _ _ other hother => ?_
        cases hcanceled.symm.trans hother
        exact ⟨hcaller, hpast⟩
      obtain ⟨hpast, hnone⟩ := Classical.not_imp.mp hmissing
      intro hsound
      have hactive : w.jump.isJumpingToAnyContext = true := by
        rw [hentered.jump]
        exact isJumping_iff.mpr hjumping
      rcases hsound.carried hactive with ⟨call, hcall, -⟩ | ⟨call, hcall, -⟩ | hcarried
      · rw [hentered.contextRoot] at hcall
        rcases h with (h | h) | h
        · exact hjumping h.state
        · exact hpast.2 h.state
        · simp [h.contextRoot] at hcall
      · simp [hlist] at hcall
      · exact hnone (hqueries.mp hcarried)

/-- Another list is entered. -/
theorem Inv.enterListAsync (h : v.Inv) (cancel : QueryCancel) {q : ListQuery}
    (hq : q.callerId ≠ .enterContextRoot) :
    Outcome v.jump.state (enterListAsync cancel v q) (v.EnterFits cancel) := by
  by_cases hidle : v.jump.state = .notJumping
  · have hentered : ∃ v', View.enterListAsync cancel v q = some v' ∧ v'.Early := by
      rcases h with (h | h) | h
      · exact entersEarly_enterListAsync cancel v q h
      · cases hidle.symm.trans h.state
      · exact absurd hidle h.past.1
    rcases h with h | h
    · exact h.outcome hentered fun hjumping => absurd hidle hjumping
    · exact absurd hidle h.past.1
  · obtain ⟨w, hw, hentered⟩ := enterListAsync_of_jumping hidle cancel q
    rw [hw]
    by_cases hunreported : cancel.report = none ∨ v.query = none
    · obtain rfl := hentered.unreported hunreported
      have hfits : v.EnterFits cancel := by
        intro _ hreport canceled hcanceled
        rcases hunreported with hnone | hnone
        · simp [hnone] at hreport
        · simp [hnone] at hcanceled
      exact ⟨fun _ => ⟨_, rfl, h.startQuery q, Or.inr (Nat.le_refl _)⟩,
        fun hnot => absurd hfits hnot⟩
    · rw [not_or] at hunreported
      obtain ⟨canceled, hcanceled⟩ := Option.ne_none_iff_exists'.mp hunreported.2
      have hreport : cancel.report.isSome = true := Option.isSome_iff_ne_none.mpr hunreported.1
      exact h.enterListAsync_reported hidle hq hcanceled hreport hentered

/-! ## Results -/

/-- The jump is cancelled because of an error. -/
theorem LateBase.outcome_of_cancel (h : v.LateBase) (hfits : fits) :
    Outcome v.jump.state
      (some (View.completed v { v with jump := v.jump.cancel }.deleteGetListId)) fits where
  good := by
    intro _
    have hcancel : v.jump.cancel = {} := if_neg h.past.1
    have hidle : Idle { v with jump := v.jump.cancel }.deleteGetListId :=
      ⟨by rw [deleteGetListId, hcancel], h.contextRoot, h.completions⟩
    exact ⟨_, rfl, Or.inl (Or.inl (hidle.completed v)), Or.inl hidle.state⟩
  bad := fun hnot => absurd hfits hnot

/-- The result is for nothing. -/
theorem LateBase.outcome_of_same (h : v.LateBase) (hjump : v'.jump = v.jump) (hfits : ¬fits) :
    Outcome v.jump.state (some (View.completed v v')) fits where
  good := fun hyes => absurd hyes hfits
  bad := by
    intro _ w hw
    cases hw
    exact not_sound_completed_self hjump h.past.1

theorem LateBase.enterChildList (h : v.LateBase) (cancel : QueryCancel) {listId : ListId}
    (hvalid : listId.isValid = true) :
    Outcome v.jump.state ((v.enterChildList (View.enterListAsync cancel) listId).map fun v' =>
        View.completed v v'.deleteGetListId)
      (listId.isValid = true ∧ v.jump.state ≠ .enterContextList ∧
        ¬v.ReportsContextRoot cancel) := by
  unfold View.enterChildList
  rw [if_pos (isJumping_iff.mpr h.past.1)]
  obtain ⟨w, hw, hentered⟩ := enterListAsync_of_jumping
    (v := { v with jump := v.jump.putContextListId listId }) nofun cancel
    ⟨.enterContextRoot, listId⟩
  rw [hw]
  have hjump : w.jump.state = .enterContextList := by rw [hentered.jump]; rfl
  constructor
  · rintro ⟨-, hstate, hreports⟩
    have hrank : v.jump.state.rank < JumpState.rank .enterContextList :=
      JumpState.rank_lt_enterContextList hstate
    refine ⟨_, rfl, ?_, Or.inr ?_⟩
    · refine LateBase.inv_of_query ⟨?_, hentered.contextRoot.trans h.contextRoot, ?_⟩ ?_
      · unfold IsPastFirstStep View.completed deleteGetListId
        rw [hjump]
        exact ⟨nofun, nofun⟩
      · refine forall_completed ?_ (Or.inr (Or.inr ?_))
        · exact hentered.completions hreports ▸ h.completions
        · unfold deleteGetListId
          rw [hjump]
          exact hrank
      · refine ⟨⟨.enterContextRoot, listId⟩, List.mem_append_left _ ?_, rfl⟩
        unfold View.completed deleteGetListId
        rw [hentered.query]
        exact List.mem_singleton.mpr rfl
    · unfold View.completed deleteGetListId
      rw [hjump]
      exact Nat.le_of_lt hrank
  · intro hnot w' hw'
    cases hw'
    by_cases hstate : v.jump.state = .enterContextList
    · -- The jump has found its list before, and stays where it is.
      refine not_sound_of_completion (s := .enterContextList) ?_ nofun
      refine List.mem_append_right _ (List.mem_singleton.mpr ?_)
      unfold deleteGetListId
      rw [hstate, hjump]
    · have hreports : v.ReportsContextRoot cancel := by
        by_contra hreports
        exact hnot ⟨hvalid, hstate, hreports⟩
      refine not_sound_completed (not_sound_of_completion (s := .enterContextList) ?_ nofun)
      unfold deleteGetListId
      rw [hentered.completed hreports]
      exact List.mem_append_right _ (List.mem_singleton.mpr rfl)

theorem LateBase.gotChildListId (h : v.LateBase) (cancel : QueryCancel)
    (result : Except ListErrorCode GetListIdResult) :
    Outcome v.jump.state (v.gotChildListId (View.enterListAsync cancel) result)
      (v.ListIdFits result cancel) := by
  unfold View.gotChildListId ListIdFits sinkPointToChildError
  cases result with
  | error e =>
    dsimp only
    cases hfailed : e.failed with
    | true => exact h.outcome_of_cancel rfl
    | false => exact h.outcome_of_same rfl nofun
  | ok result =>
    dsimp only
    cases hfailed : result.error.failed with
    | true => exact h.outcome_of_cancel (Or.inl rfl)
    | false =>
      cases hvalid : result.listId.isValid with
      | false =>
        refine h.outcome_of_same rfl ?_
        rintro (hfailed | ⟨hvalid, -⟩)
        · cases hfailed
        · cases hvalid
      | true =>
        have hentered := h.enterChildList cancel hvalid
        rw [hvalid] at hentered
        exact ⟨fun hfits => hentered.good (hfits.resolve_left nofun),
          fun hnot => hentered.bad fun hfits => hnot (Or.inr hfits)⟩

/-- The ID of the real root list does not help the jump. -/
theorem LateBase.gotRootListId (h : v.LateBase) (cancel : QueryCancel)
    (result : Except ListErrorCode GetListIdResult) :
    ∃ v', v.gotRootListId (View.enterListAsync cancel) result = some v' ∧ ¬v'.Sound := by
  have hsame : ∀ w : View, w.jump = v.jump → ¬(View.completed v w).Sound :=
    fun w hjump => not_sound_completed_self hjump h.past.1
  unfold View.gotRootListId
  cases result with
  | error e => exact ⟨_, rfl, hsame _ rfl⟩
  | ok result =>
    dsimp only
    split
    · obtain ⟨w, hw, hentered⟩ := enterListAsync_of_jumping h.past.1 cancel
        ⟨.enterRoot, result.listId⟩
      rw [hw]
      exact ⟨_, rfl, hsame _ hentered.jump⟩
    · exact ⟨_, rfl, hsame _ rfl⟩

theorem LateBase.setListId (h : v.LateBase) (call : Option HeldListIdCall) :
    LateBase { v with getListId := call } := ⟨h.past, h.contextRoot, h.completions⟩

theorem LateBase.deleteAll (h : v.LateBase) : v.deleteAll.LateBase :=
  ⟨h.past, h.contextRoot, h.completions⟩

/-! ## Requests -/

theorem LateBase.pointToChildDirectory (h : v.LateBase) (answer : ListIdAnswer)
    (cancel : QueryCancel) :
    Outcome v.jump.state (v.pointToChildDirectory (View.enterListAsync cancel) answer)
      (v.ChildFits answer cancel) := by
  have hrefused : Outcome v.jump.state (some { v.deleteAll with getListId := none })
      v.EntersContextRoot :=
    LateBase.outcome_of_none (v := { v.deleteAll with getListId := none })
      (h.deleteAll.setListId none) rfl v rfl
  unfold View.pointToChildDirectory ChildFits
  rw [cancelAndDeleteAll_of_none _ h.contextRoot, Option.bind_some, forall_prop_of_true h.past]
  cases answer with
  | cookie cookie =>
    exact ⟨fun _ => ⟨_, rfl, (h.deleteAll.setListId _).inv_of_call rfl rfl,
      Or.inr (Nat.le_refl _)⟩, fun hnot => absurd trivial hnot⟩
  | fastPath result =>
    rw [requestListId_fastPath]
    exact (h.deleteAll.setListId _).gotChildListId cancel (.ok result)
  | unmanaged => exact hrefused
  | fastPathThrows => exact hrefused
  | failed => exact hrefused

theorem Inv.pointToChildDirectory (h : v.Inv) (answer : ListIdAnswer) (cancel : QueryCancel) :
    Outcome v.jump.state (v.pointToChildDirectory (View.enterListAsync cancel) answer)
      (v.ChildFits answer cancel) := by
  rcases h with h | h
  · exact h.outcome (h.pointToChildDirectory (entersEarly_enterListAsync cancel) answer)
      fun hpast => absurd hpast h.not_past
  · exact h.base.pointToChildDirectory answer cancel

theorem LateBase.doPointToContextRootDirectory (h : v.LateBase) (hlist : v.getListId = none)
    (ctxId : ContextId) :
    Outcome v.jump.state (some (v.doPointToContextRootDirectory ctxId))
      (v.jump.isJumpingToContext ctxId = false ∧ v.EntersContextRoot) := by
  unfold View.doPointToContextRootDirectory
  cases hjumping : v.jump.isJumpingToContext ctxId with
  | true =>
    refine ⟨fun hfits => (nomatch hfits.1), ?_⟩
    intro _ v' hv'
    cases hv'
    -- The call has been made, but not invoked.
    exact fun hsound => hsound.invoked _ rfl rfl
  | false =>
    have hbegin : v.jump.begin ctxId = none := if_pos h.past.1
    rw [hbegin]
    have hnone : LateBase { v with getContextRoot := none } := ⟨h.past, rfl, h.completions⟩
    have houtcome := hnone.outcome_of_none hlist v rfl
    exact ⟨fun hfits => houtcome.good hfits.2, fun hnot => houtcome.bad fun hq => hnot ⟨rfl, hq⟩⟩

theorem Inv.pointToRootDirectory (h : v.Inv) (answer : ListIdAnswer) (cancel : QueryCancel) :
    Outcome v.jump.state (v.pointToRootDirectory (View.enterListAsync cancel) answer)
        (v.RootFits answer) ∧
      (v.pointToRootDirectory (View.enterListAsync cancel) answer).isSome = true := by
  rcases h with h | h
  · have hearly := h.pointToRootDirectory (entersEarly_enterListAsync cancel) answer
    refine ⟨h.outcome hearly fun hpast => absurd hpast h.not_past, ?_⟩
    obtain ⟨v', hv', -⟩ := hearly
    rw [hv']
    rfl
  · have hrefused : Outcome v.jump.state (some { v.deleteAll with getListId := none })
        v.EntersContextRoot :=
      LateBase.outcome_of_none (v := { v.deleteAll with getListId := none })
        (h.base.deleteAll.setListId none) rfl v rfl
    unfold View.pointToRootDirectory RootFits
    rw [cancelAndDeleteAll_of_none _ h.contextRoot, Option.bind_some, forall_prop_of_true h.past]
    have hsame : v.deleteAll.contextRestriction = v.contextRestriction := rfl
    rw [hsame]
    cases v.contextRestriction.contextId with
    | some ctxId => exact ⟨h.base.deleteAll.doPointToContextRootDirectory rfl ctxId, rfl⟩
    | none =>
      dsimp only
      unfold doPointToRealRootDirectory
      cases answer with
      | cookie cookie =>
        exact ⟨⟨fun _ => ⟨_, rfl, (h.base.deleteAll.setListId _).inv_of_call rfl rfl,
          Or.inr (Nat.le_refl _)⟩, fun hnot => absurd trivial hnot⟩, rfl⟩
      | fastPath result =>
        rw [requestListId_fastPath]
        obtain ⟨v', hv', hsound⟩ := (h.base.deleteAll.setListId
          (some { target := .rootDirectory })).gotRootListId cancel (.ok result)
        unfold gotListId
        dsimp only
        rw [hv']
        refine ⟨⟨nofun, fun _ w hw => ?_⟩, rfl⟩
        cases hw
        exact hsound
      | unmanaged => exact ⟨hrefused, rfl⟩
      | fastPathThrows => exact ⟨hrefused, rfl⟩
      | failed => exact ⟨hrefused, rfl⟩

theorem Inv.pointToParentLink (h : v.Inv) :
    Outcome v.jump.state v.pointToParentLink
        (v.IsPastFirstStep → v.contextRestriction.isBoundary v.currentListId = false →
          v.EntersContextRoot) ∧
      v.pointToParentLink.isSome = true := by
  unfold View.pointToParentLink
  cases v.contextRestriction.isBoundary v.currentListId with
  | true =>
    exact ⟨⟨fun _ => ⟨v, rfl, h, Or.inr (Nat.le_refl _)⟩, fun hnot => absurd nofun hnot⟩, rfl⟩
  | false =>
    rw [if_neg nofun]
    rcases h with h | h
    · obtain ⟨w, hw, hidle, -⟩ := h.cancelAndDeleteAll fun v q => some (v.startQuery q)
      rw [hw]
      have hearly : Early { w with getParentId := true } :=
        Or.inl ⟨hidle.state, hidle.contextRoot, hidle.completions⟩
      exact ⟨h.outcome ⟨_, rfl, hearly⟩ fun hpast => absurd hpast h.not_past, rfl⟩
    · rw [cancelAndDeleteAll_of_none _ h.contextRoot, forall_prop_of_true h.past,
        forall_prop_of_true rfl]
      have hbase : LateBase { v.deleteAll with getParentId := true } :=
        ⟨h.past, h.contextRoot, h.completions⟩
      exact ⟨hbase.outcome_of_none rfl v rfl, rfl⟩

/-! ## The list is invalidated -/

theorem Inv.startQuery_same (h : v.Inv) {q q' : ListQuery} (hquery : v.query = some q)
    (hcaller : q'.callerId = q.callerId) : (v.startQuery q').Inv := by
  rcases h with h | h
  · exact Or.inl (h.startQuery q')
  · refine Or.inr ⟨h.past, h.contextRoot, h.carried.imp_right ?_, h.completions⟩
    rintro ⟨other, hother, hcontext⟩
    unfold queries at hother
    rw [hquery] at hother
    rcases List.mem_append.mp hother with hother | hother
    · obtain rfl := List.mem_singleton.mp hother
      exact ⟨q', List.mem_append_left _ (List.mem_singleton.mpr rfl), hcaller.trans hcontext⟩
    · exact ⟨other, List.mem_append_right _ (List.mem_append_left _ hother), hcontext⟩

theorem Inv.of_same (h : v.Inv) (restriction : ContextRestriction) (listId : ListId) :
    Inv { v with contextRestriction := restriction, currentListId := listId } := by
  rcases h with (h | h) | h
  · exact Or.inl (Or.inl ⟨h.state, h.contextRoot, h.completions⟩)
  · exact Or.inl (Or.inr ⟨h.state, h.contextRoot, h.listId, h.parentId, h.completions⟩)
  · exact Or.inr ⟨h.past, h.contextRoot, h.carried, h.completions⟩

theorem Inv.beginListInvalidate (h : v.Inv) (listId replacementId : ListId) :
    (v.beginListInvalidate listId replacementId).2.Inv := by
  have hrestricted := h.of_same (v.contextRestriction.listInvalidate listId replacementId).2
    v.currentListId
  unfold View.beginListInvalidate restartIfNecessary
  dsimp only
  split
  · exact hrestricted
  · next q hquery =>
    split
    · exact hrestricted
    · exact hrestricted.startQuery_same hquery rfl

theorem beginListInvalidate_jump (v : View) (listId replacementId : ListId) :
    (v.beginListInvalidate listId replacementId).2.jump = v.jump := by
  unfold View.beginListInvalidate restartIfNecessary
  dsimp only
  split
  · rfl
  · split <;> rfl

theorem Inv.isSome_enterListAsync (h : v.Inv) (cancel : QueryCancel) (q : ListQuery) :
    (View.enterListAsync cancel v q).isSome = true := by
  by_cases hidle : v.jump.state = .notJumping
  · rcases h with (h | h) | h
    · obtain ⟨w, hw, -⟩ := entersEarly_enterListAsync cancel v q h
      rw [hw]
      rfl
    · cases hidle.symm.trans h.state
    · exact absurd hidle h.past.1
  · obtain ⟨w, hw, -⟩ := enterListAsync_of_jumping hidle cancel q
    rw [hw]
    rfl

theorem Inv.reloadList (h : v.Inv) (hasLine : Bool) (answer : ListIdAnswer)
    (cancel : QueryCancel) :
    Outcome v.jump.state (v.reloadList hasLine answer cancel)
        (if hasLine then v.EnterFits cancel else v.RootFits answer) ∧
      (v.reloadList hasLine answer cancel).isSome = true := by
  unfold View.reloadList
  cases hasLine with
  | true => exact ⟨h.enterListAsync cancel nofun, h.isSome_enterListAsync cancel _⟩
  | false => exact h.pointToRootDirectory answer cancel

theorem Inv.listInvalidate (h : v.Inv) {listId : ListId} (hvalid : listId.isValid = true)
    (replacementId : ListId) (hasLine : Bool) (answer : ListIdAnswer) (cancel : QueryCancel) :
    Outcome v.jump.state (v.listInvalidate listId replacementId hasLine answer cancel)
        (v.Fits (.listInvalidate listId replacementId hasLine answer cancel)) ∧
      (v.listInvalidate listId replacementId hasLine answer cancel).isSome = true := by
  have hbegun := h.beginListInvalidate listId replacementId
  have hjump := v.beginListInvalidate_jump listId replacementId
  have hkept : ∀ w : View, w.Inv → w.jump = v.jump →
      Outcome v.jump.state (some w) True ∧ (some w).isSome = true :=
    fun w hw hsame => ⟨⟨fun _ => ⟨w, rfl, hw, Or.inr (by rw [hsame])⟩,
      fun hnot => absurd trivial hnot⟩, rfl⟩
  unfold View.listInvalidate
  simp only [Fits, hvalid, true_implies]
  cases hlost : (v.beginListInvalidate listId replacementId).1 with
  | true =>
    simpa using hkept _
      (hbegun.of_same (v.beginListInvalidate listId replacementId).2.contextRestriction {}) hjump
  | false =>
    simp only [Bool.false_eq_true, if_false, true_implies]
    by_cases hcurrent : listId = v.currentListId
    · rw [if_neg (not_not.mpr hcurrent), if_neg (not_not.mpr hcurrent)]
      cases hreplacement : replacementId.isValid with
      | true =>
        have hreloaded := Inv.reloadList
          (hbegun.of_same (v.beginListInvalidate listId replacementId).2.contextRestriction
            replacementId) hasLine answer cancel
        rw [← hjump]
        simp only [true_and, if_true]
        exact hreloaded
      | false =>
        rw [← hjump]
        simpa using hbegun.pointToRootDirectory answer cancel
    · rw [if_pos hcurrent, if_pos hcurrent]
      cases hvalid' : v.currentListId.isValid with
      | true => simpa using hkept _ hbegun hjump
      | false =>
        rw [← hjump]
        simpa using hbegun.pointToRootDirectory answer cancel

/-! ## Calls and queries come to their end -/

theorem FirstStep.contextRootResult (h : v.FirstStep) (answer : Except Unit ListId)
    (cancel : QueryCancel) :
    Outcome v.jump.state
        (v.gotContextParentLink (View.enterListAsync cancel)
          ((AsyncCall.invoke {}).readyLocked answer).2)
        (∀ listId, answer = .ok listId → listId.isValid = true →
          ¬v.ReportsContextRoot cancel) ∧
      (v.gotContextParentLink (View.enterListAsync cancel)
        ((AsyncCall.invoke {}).readyLocked answer).2).isSome = true := by
  have hcanceled : ∀ fits : Prop, fits → Outcome v.jump.state
      (some (View.completed v { v with getContextRoot := none, jump := v.jump.cancel })) fits := by
    intro fits hfits
    have hcancel : v.jump.cancel = {} := if_neg (by rw [h.state]; nofun)
    have hidle : Idle { v with getContextRoot := none, jump := v.jump.cancel } :=
      ⟨by rw [hcancel], rfl, h.completions⟩
    exact ⟨fun _ => ⟨_, rfl, Or.inl (Or.inl (hidle.completed v)), Or.inl hidle.state⟩,
      fun hnot => absurd hfits hnot⟩
  cases answer with
  | error e => exact ⟨hcanceled _ nofun, rfl⟩
  | ok listId =>
    have hgot : v.gotContextParentLink (View.enterListAsync cancel)
        ((AsyncCall.invoke {}).readyLocked (.ok listId)).2 =
        if listId.isValid then
          (View.enterListAsync cancel
            { v with getContextRoot := none, jump := v.jump.putParentListId listId }
            ⟨.enterContextRoot, listId⟩).map (View.completed v)
        else some (View.completed v { v with getContextRoot := none, jump := v.jump.cancel }) := rfl
    rw [hgot]
    cases hvalid : listId.isValid with
    | false =>
      refine ⟨hcanceled _ fun other hother hvalid' => ?_, rfl⟩
      cases hother
      cases hvalid.symm.trans hvalid'
    | true =>
      rw [if_pos rfl]
      obtain ⟨w, hw, hentered⟩ := enterListAsync_of_jumping
        (v := { v with getContextRoot := none, jump := v.jump.putParentListId listId })
        nofun cancel ⟨.enterContextRoot, listId⟩
      rw [hw]
      have hjump : w.jump.state = .enterContextParent := by rw [hentered.jump]; rfl
      refine ⟨⟨fun hfits => ⟨_, rfl, ?_, Or.inr ?_⟩, fun hnot w' hw' => ?_⟩, rfl⟩
      · refine LateBase.inv_of_query ⟨?_, hentered.contextRoot, ?_⟩ ?_
        · unfold IsPastFirstStep View.completed
          rw [hjump]
          exact ⟨nofun, nofun⟩
        · refine forall_completed ?_ (Or.inr (Or.inr ?_))
          · exact hentered.completions (hfits listId rfl hvalid) ▸ h.completions
          · rw [h.state, hjump]
            decide
        · refine ⟨⟨.enterContextRoot, listId⟩, List.mem_append_left _ ?_, rfl⟩
          unfold View.completed
          rw [hentered.query]
          exact List.mem_singleton.mpr rfl
      · unfold View.completed
        rw [h.state, hjump]
        decide
      · cases hw'
        have hreports : v.ReportsContextRoot cancel := by
          by_contra hreports
          exact hnot fun _ _ _ => hreports
        refine not_sound_completed (not_sound_of_completion (s := .enterContextParent) ?_ nofun)
        rw [hentered.completed hreports]
        exact List.mem_append_right _ (List.mem_singleton.mpr rfl)

section EnteredContextRoot

variable (enter : View → ListQuery → Option View) (child : ListIdAnswer)

theorem enteredContextRoot_parent (h : v.jump.state = .enterContextParent) :
    v.enteredContextRoot enter child =
      { v with jump := v.jump.beginSecondStep }.pointToChildDirectory enter child := by
  unfold enteredContextRoot
  rw [h]

theorem enteredContextRoot_list (h : v.jump.state = .enterContextList) :
    v.enteredContextRoot enter child =
      some { v with
        jump := {}
        contextRestriction := v.contextRestriction.setBoundary v.jump.contextListId } := by
  unfold enteredContextRoot JumpToContext.endJump
  rw [h]

end EnteredContextRoot

theorem LateBase.enteredContextRoot (h : v.LateBase) {q : ListQuery}
    (hq : q.callerId = .enterContextRoot) (child root : ListIdAnswer) (cancel : QueryCancel) :
    Outcome v.jump.state
      (v.handleEnterListEvent (View.enterListAsync cancel) q .succeeded child root)
      (v.QueryFits q .succeeded child cancel) := by
  rw [handleEnterListEvent_contextRoot _ hq]
  have hentered : LateBase { v.deleteAll with currentListId := q.listId } :=
    ⟨h.past, h.contextRoot, h.completions⟩
  have hjump : View.jump { v.deleteAll with currentListId := q.listId } = v.jump := rfl
  unfold QueryFits
  rw [forall_prop_of_true h.past.1, if_pos hq]
  cases hstate : v.jump.state with
  | notJumping => exact absurd hstate h.past.1
  | getContextParentId => exact absurd hstate h.past.2
  | getContextListId =>
    rw [enteredContextRoot_same _ _ (Or.inr (Or.inr (hjump ▸ hstate)))]
    have hsame : Outcome v.jump.state
        (some (View.completed v { v.deleteAll with currentListId := q.listId }))
        (OpResult.succeeded = .succeeded ∧ False) := h.outcome_of_same rfl And.right
    rw [hstate] at hsame
    exact hsame
  | enterContextParent =>
    rw [enteredContextRoot_parent _ _ (hjump ▸ hstate)]
    have hsecond : LateBase
        { v.deleteAll with
          currentListId := q.listId
          jump := v.jump.beginSecondStep } :=
      ⟨⟨nofun, nofun⟩, h.contextRoot, h.completions⟩
    have houtcome := hsecond.pointToChildDirectory child cancel
    constructor
    · rintro ⟨-, hfits⟩
      obtain ⟨w, hw, hinv, hrank⟩ := houtcome.good hfits
      have hadvances : Advances v.jump.state w.jump.state := by
        refine Or.inr (hrank.imp_right fun hle => ?_)
        rw [hstate]
        exact Nat.lt_of_succ_le hle
      refine ⟨View.completed v w, ?_, hinv.completed hadvances, hrank.imp_right fun hle => ?_⟩
      · exact congrArg (Option.map _) hw
      · exact Nat.le_of_succ_le hle
    · intro hnot w hw
      obtain ⟨w', hw', rfl⟩ := Option.map_eq_some_iff.mp hw
      exact not_sound_completed (houtcome.bad (fun hfits => hnot ⟨rfl, hfits⟩) w' hw')
  | enterContextList =>
    rw [enteredContextRoot_list _ _ (hjump ▸ hstate)]
    have hidle : Idle
        { v.deleteAll with
          currentListId := q.listId
          jump := {}
          contextRestriction := v.contextRestriction.setBoundary v.jump.contextListId } :=
      ⟨rfl, h.contextRoot, h.completions⟩
    exact ⟨fun _ => ⟨_, rfl, Or.inl (Or.inl (hidle.completed v)), Or.inl rfl⟩,
      fun hnot => absurd ⟨rfl, trivial⟩ hnot⟩

/-- A query which is reported during a jump. -/
theorem handleEnterListEvent_outcome (h : v.FirstStep ∨ v.LateBase) (q : ListQuery)
    (result : OpResult) (child root : ListIdAnswer) (cancel : QueryCancel) :
    Outcome v.jump.state (v.handleEnterListEvent (View.enterListAsync cancel) q result child root)
        (v.QueryFits q result child cancel) ∧
      ((v.handleEnterListEvent (View.enterListAsync cancel) q result child root).isSome = true ∨
        q.callerId = .enterContextRoot) := by
  have hjumping : v.jump.state ≠ .notJumping := by
    rcases h with h | h
    · rw [h.state]
      nofun
    · exact h.past.1
  by_cases hq : result = .succeeded ∧ q.callerId = .enterContextRoot
  · obtain ⟨rfl, hq⟩ := hq
    refine ⟨?_, Or.inr hq⟩
    rcases h with h | h
    · have hjump : View.jump { v.deleteAll with currentListId := q.listId } = v.jump := rfl
      rw [handleEnterListEvent_contextRoot _ hq,
        enteredContextRoot_same _ _ (Or.inr (Or.inl (hjump ▸ h.state)))]
      constructor
      · intro hfits
        have hnone := hfits hjumping
        rw [if_pos hq, h.state] at hnone
        exact hnone.2.elim
      · intro _ w hw
        cases hw
        exact not_sound_completed_self hjump hjumping
    · exact h.enteredContextRoot hq child root cancel
  · obtain ⟨listId, hreported⟩ := handleEnterListEvent_of_jumping (View.enterListAsync cancel)
      hjumping hq child root
    rw [hreported]
    refine ⟨?_, Or.inl rfl⟩
    unfold QueryFits
    rw [forall_prop_of_true hjumping]
    by_cases hcaller : q.callerId = .enterContextRoot
    · rw [if_pos hcaller, if_pos hcaller]
      constructor
      · exact fun hfits => absurd ⟨hfits.1, hcaller⟩ hq
      · intro _ w hw
        cases hw
        exact not_sound_completed_self rfl hjumping
    · rw [if_neg hcaller, if_neg hcaller]
      rcases h with h | h
      · have hearly : Early { v.deleteAll with currentListId := listId } :=
          Or.inr ⟨h.state, h.contextRoot, rfl, rfl, h.completions⟩
        exact Early.outcome (Or.inr h) ⟨_, rfl, hearly⟩ fun hpast => absurd h.state hpast.2
      · have hbase : LateBase { v.deleteAll with currentListId := listId } :=
          ⟨h.past, h.contextRoot, h.completions⟩
        rw [forall_prop_of_true h.past]
        exact hbase.outcome_of_none rfl v rfl

/-! ## One step -/

/-- The condition on a step is exact: it is met if and only if the step is as expected, and then the
view is in one of the phases again. -/
structure StepExact (v : View) (e : ViewEvent) : Prop where
  stepSound_iff : v.StepSound e ↔ v.Fits e
  inv : v.Fits e → ∀ v', v.step e = some v' → v'.Inv

variable {e : ViewEvent}

theorem Outcome.stepExact {s : JumpState} (h : Outcome s (v.step e) (v.Fits e))
    (hsome : (v.step e).isSome = true ∨ v.jump.state ≠ .notJumping ∧ v.Completes e) :
    v.StepExact e where
  stepSound_iff := by
    constructor
    · intro hsound
      by_contra hnot
      have hmade := hsome.elim (fun h => h) fun hcompletes =>
        hsound.completes hcompletes.1 hcompletes.2
      obtain ⟨w, hw⟩ := Option.isSome_iff_exists.mp hmade
      exact h.bad hnot w hw (hsound.sound w hw)
    · intro hfits
      obtain ⟨w, hw, hinv, -⟩ := h.good hfits
      refine ⟨fun _ _ => by rw [hw]; rfl, fun w' hw' => ?_⟩
      cases hw.symm.trans hw'
      exact hinv.sound
  inv := by
    intro hfits w' hw'
    obtain ⟨w, hw, hinv, -⟩ := h.good hfits
    cases hw.symm.trans hw'
    exact hinv

/-- A step that is not possible, or is possible only where there is no jump. -/
theorem stepExact_of_early (hfits : v.Fits e) (hstep : ∀ v', v.step e = some v' → v'.Early)
    (hcompletes : v.jump.state ≠ .notJumping → ¬v.Completes e) : v.StepExact e where
  stepSound_iff := iff_of_true
    ⟨fun hjumping hc => absurd hc (hcompletes hjumping),
      fun w hw => Inv.sound (Or.inl (hstep w hw))⟩
    hfits
  inv := fun _ w hw => Or.inl (hstep w hw)

theorem stepExact_of_none (hstep : v.step e = none) (hfits : v.Fits e)
    (hcompletes : v.jump.state ≠ .notJumping → ¬v.Completes e) : v.StepExact e :=
  stepExact_of_early hfits (fun w hw => by cases hstep.symm.trans hw) hcompletes

theorem Inv.takeQuery (h : v.Inv) {q : ListQuery} {isOutdated : Bool}
    (htaken : v.takeQuery q isOutdated = some v') :
    v'.Idle ∨ v'.FirstStep ∨ v'.LateBase := by
  have hphase : ∀ (query : Option ListQuery) (outdated : List ListQuery),
      Idle { v with query := query, outdated := outdated } ∨
        FirstStep { v with query := query, outdated := outdated } ∨
        LateBase { v with query := query, outdated := outdated } := by
    intro query outdated
    rcases h with (h | h) | h
    · exact Or.inl ⟨h.state, h.contextRoot, h.completions⟩
    · exact Or.inr (Or.inl ⟨h.state, h.contextRoot, h.listId, h.parentId, h.completions⟩)
    · exact Or.inr (Or.inr ⟨h.past, h.contextRoot, h.completions⟩)
  unfold View.takeQuery at htaken
  split_ifs at htaken
  · cases htaken
    exact hphase _ _
  · cases htaken
    exact hphase _ _

theorem Inv.pointToChildDirectory_stepExact (h : v.Inv) (answer : ListIdAnswer)
    (cancel : QueryCancel) : v.StepExact (.pointToChildDirectory answer cancel) := by
  refine Outcome.stepExact (h.pointToChildDirectory answer cancel) ?_
  rcases h with h | h
  · obtain ⟨w, hw, -⟩ := h.pointToChildDirectory (entersEarly_enterListAsync cancel) answer
    have hstep : v.step (.pointToChildDirectory answer cancel) = some w := hw
    exact Or.inl (by rw [hstep]; rfl)
  · have hmade : ∀ w : View, v.deleteAll.requestListId (View.enterListAsync cancel) .childDirectory
        answer = some w → (v.step (.pointToChildDirectory answer cancel)).isSome = true := by
      intro w hw
      have hstep : v.step (.pointToChildDirectory answer cancel) =
          (v.cancelAndDeleteAll (View.enterListAsync cancel)).bind fun v =>
            v.requestListId (View.enterListAsync cancel) .childDirectory answer := rfl
      rw [hstep, cancelAndDeleteAll_of_none _ h.contextRoot, Option.bind_some, hw]
      rfl
    cases answer with
    | fastPath result => exact Or.inr ⟨h.past.1, trivial⟩
    | cookie => exact Or.inl (hmade _ rfl)
    | unmanaged => exact Or.inl (hmade _ rfl)
    | fastPathThrows => exact Or.inl (hmade _ rfl)
    | failed => exact Or.inl (hmade _ rfl)

theorem Inv.listInvalidate_stepExact (h : v.Inv) (listId replacementId : ListId) (hasLine : Bool)
    (answer : ListIdAnswer) (cancel : QueryCancel) :
    v.StepExact (.listInvalidate listId replacementId hasLine answer cancel) := by
  cases hvalid : listId.isValid with
  | true =>
    have hstep : v.step (.listInvalidate listId replacementId hasLine answer cancel) =
        v.listInvalidate listId replacementId hasLine answer cancel := if_pos hvalid
    obtain ⟨houtcome, hsome⟩ := h.listInvalidate hvalid replacementId hasLine answer cancel
    rw [← hstep] at houtcome hsome
    exact houtcome.stepExact (Or.inl hsome)
  | false =>
    have hstep : v.step (.listInvalidate listId replacementId hasLine answer cancel) = none :=
      if_neg (by rw [hvalid]; nofun)
    refine stepExact_of_none hstep (fun hvalid' => ?_) fun _ hc => hc
    cases hvalid.symm.trans hvalid'

theorem Inv.contextRootResult_stepExact (h : v.Inv) (answer : Except Unit ListId)
    (cancel : QueryCancel) : v.StepExact (.contextRootResult answer cancel) := by
  by_cases hfirst : v.FirstStep
  · have hstep : v.step (.contextRootResult answer cancel) =
        v.gotContextParentLink (View.enterListAsync cancel)
          ((AsyncCall.invoke {}).readyLocked answer).2 := by
      unfold View.step
      rw [hfirst.contextRoot]
      rfl
    obtain ⟨houtcome, hsome⟩ := hfirst.contextRootResult answer cancel
    rw [← hstep] at houtcome hsome
    refine Outcome.stepExact ⟨fun hfits => houtcome.good (hfits hfirst.state),
      fun hnot => houtcome.bad fun hfits => hnot fun _ => hfits⟩ (Or.inl hsome)
  · have hnone : v.getContextRoot = none ∧ v.jump.state ≠ .getContextParentId := by
      rcases h with (h | h) | h
      · exact ⟨h.contextRoot, by rw [h.state]; nofun⟩
      · exact absurd h hfirst
      · exact ⟨h.contextRoot, h.past.2⟩
    have hstep : v.step (.contextRootResult answer cancel) = none := by
      unfold View.step
      rw [hnone.1]
    refine stepExact_of_none hstep (fun hstate => absurd hstate hnone.2) fun _ => ?_
    rintro ⟨call, hcall, -⟩
    simp [hnone.1] at hcall

theorem Inv.parentIdResult_stepExact (h : v.Inv) (answer : Except Unit ListId)
    (cancel : QueryCancel) : v.StepExact (.parentIdResult answer cancel) := by
  cases hparent : v.getParentId with
  | false =>
    have hstep : v.step (.parentIdResult answer cancel) = none :=
      if_neg (by rw [hparent]; nofun)
    refine stepExact_of_none hstep (fun hparent' => ?_) fun _ hc => hc
    cases hparent.symm.trans hparent'
  | true =>
    have hstep : v.step (.parentIdResult answer cancel) = v.gotParentLink answer cancel :=
      if_pos hparent
    have hinv : Inv { v with getParentId := false } := by
      rcases h with (h | h) | h
      · exact Or.inl (Or.inl ⟨h.state, h.contextRoot, h.completions⟩)
      · exact Or.inl (Or.inr ⟨h.state, h.contextRoot, h.listId, rfl, h.completions⟩)
      · exact Or.inr ⟨h.past, h.contextRoot, h.carried, h.completions⟩
    have hreset : v.Fits (.parentIdResult answer cancel) →
        v.step (.parentIdResult answer cancel) = some { v with getParentId := false } →
        v.StepExact (.parentIdResult answer cancel) := by
      intro hfits hmade
      refine Outcome.stepExact (s := v.jump.state)
        ⟨fun _ => ⟨_, hmade, hinv, Or.inr (Nat.le_refl _)⟩, fun hnot => absurd hfits hnot⟩
        (Or.inl (by rw [hmade]; rfl))
    cases answer with
    | error e => exact hreset (fun _ => nofun) hstep
    | ok listId =>
      cases hvalid : listId.isValid with
      | false =>
        refine hreset (fun _ other hother hvalid' => ?_) (hstep.trans ?_)
        · cases hother
          cases hvalid.symm.trans hvalid'
        · exact if_neg (by rw [hvalid]; nofun)
      | true =>
        have hentered : v.step (.parentIdResult (.ok listId) cancel) =
            View.enterListAsync cancel { v with getParentId := false } ⟨.enterParent, listId⟩ :=
          hstep.trans (if_pos hvalid)
        have houtcome := hinv.enterListAsync (q := ⟨.enterParent, listId⟩) cancel nofun
        have hsome := hinv.isSome_enterListAsync cancel ⟨.enterParent, listId⟩
        rw [← hentered] at houtcome hsome
        refine Outcome.stepExact ⟨fun hfits => houtcome.good (hfits hparent listId rfl hvalid),
          fun hnot => houtcome.bad fun hfits => hnot fun _ _ _ _ => hfits⟩ (Or.inl hsome)

theorem Inv.listIdResult_stepExact (h : v.Inv) (result : Except ListErrorCode GetListIdResult)
    (cancel : QueryCancel) : v.StepExact (.listIdResult result cancel) := by
  by_cases hcall : ∃ call, v.getListId = some call ∧ call.isOutstanding = true
  · obtain ⟨call, hcall, houtstanding⟩ := hcall
    have hstep : v.step (.listIdResult result cancel) =
        v.gotListId (View.enterListAsync cancel) call.target result := by
      unfold View.step
      rw [hcall]
      exact if_pos houtstanding
    rcases h with (h | h) | h
    · refine stepExact_of_early (fun hpast => absurd h.state hpast.1) ?_
        fun hjumping => absurd h.state hjumping
      intro w hw
      obtain ⟨w', hw', hearly⟩ := h.gotListId (entersEarly_enterListAsync cancel) call.target result
      rw [hstep, hw'] at hw
      cases hw
      exact hearly
    · simp [h.listId] at hcall
    · refine Outcome.stepExact (s := v.jump.state) ?_
        (Or.inr ⟨h.past.1, call, hcall, houtstanding⟩)
      rw [hstep]
      have hfits : v.Fits (.listIdResult result cancel) ↔
          call.target = .childDirectory ∧ v.ListIdFits result cancel := by
        constructor
        · exact fun hfits => hfits h.past call hcall houtstanding
        · rintro hfits - other hother -
          cases hcall.symm.trans hother
          exact hfits
      rw [hfits]
      cases call.target with
      | childDirectory =>
        have houtcome := h.base.gotChildListId cancel result
        exact ⟨fun hfits => houtcome.good hfits.2,
          fun hnot => houtcome.bad fun hfits => hnot ⟨rfl, hfits⟩⟩
      | rootDirectory =>
        obtain ⟨w, hw, hsound⟩ := h.base.gotRootListId cancel result
        refine ⟨fun hfits => (nomatch hfits.1), fun _ w' hw' => ?_⟩
        cases hw.symm.trans hw'
        exact hsound
  · have hstep : v.step (.listIdResult result cancel) = none := by
      unfold View.step
      cases hlist : v.getListId with
      | none => rfl
      | some call => exact if_neg fun houtstanding => hcall ⟨call, hlist, houtstanding⟩
    refine stepExact_of_none hstep ?_ fun _ => hcall
    exact fun _ call hlist houtstanding => absurd ⟨call, hlist, houtstanding⟩ hcall

theorem Inv.enterListResult_stepExact (h : v.Inv) (q : ListQuery) (isOutdated : Bool)
    (result : OpResult) (child root : ListIdAnswer) (cancel : QueryCancel) :
    v.StepExact (.enterListResult q isOutdated result child root cancel) := by
  by_cases hended : result = .started ∨ result = .busy
  · have hstep : v.step (.enterListResult q isOutdated result child root cancel) = none :=
      if_pos hended
    refine stepExact_of_none hstep
      (fun hstarted hbusy => absurd hended (not_or.mpr ⟨hstarted, hbusy⟩))
      fun _ hc => absurd hended (not_or.mpr ⟨hc.2.1, hc.2.2.1⟩)
  · have hstep : v.step (.enterListResult q isOutdated result child root cancel) =
        (v.takeQuery q isOutdated).bind fun v =>
          v.handleEnterListEvent (View.enterListAsync cancel) q result child root := if_neg hended
    obtain ⟨hstarted, hbusy⟩ := not_or.mp hended
    cases htaken : v.takeQuery q isOutdated with
    | none =>
      rw [htaken] at hstep
      refine stepExact_of_none hstep (fun _ _ w hw => ?_) fun _ hc => ?_
      · simp [htaken] at hw
      · have hsome := hc.2.2.2
        simp [htaken] at hsome
    | some w =>
      rw [htaken, Option.bind_some] at hstep
      have hfits : v.Fits (.enterListResult q isOutdated result child root cancel) ↔
          w.QueryFits q result child cancel := by
        constructor
        · exact fun hfits => hfits hstarted hbusy w htaken
        · rintro hfits - - other hother
          cases htaken.symm.trans hother
          exact hfits
      rcases h.takeQuery htaken with hidle | hjumping
      · have hnot : v.jump.state = .notJumping := by
          rw [← takeQuery_jump htaken]
          exact hidle.state
        refine stepExact_of_early (hfits.mpr fun hjumping => absurd hidle.state hjumping) ?_
          fun hjumping => absurd hnot hjumping
        intro w' hw'
        rw [hstep] at hw'
        obtain ⟨w'', hw'', hearly⟩ :=
          hidle.handleEnterListEvent (entersEarly_enterListAsync cancel) q result child root
        cases hw''.symm.trans hw'
        exact hearly
      · obtain ⟨houtcome, hsome⟩ :=
          handleEnterListEvent_outcome hjumping q result child root cancel
        rw [← hstep, ← hfits] at houtcome
        refine houtcome.stepExact (hsome.imp (fun hsome => by rwa [hstep]) fun hq => ?_)
        refine ⟨?_, hq, hstarted, hbusy, by rw [htaken]; rfl⟩
        rw [← takeQuery_jump htaken]
        rcases hjumping with hjumping | hjumping
        · rw [hjumping.state]
          nofun
        · exact hjumping.past.1

/-- Every step of a view is as expected exactly if it meets the condition, and then the view is in
one of the phases again. -/
theorem Inv.stepExact (h : v.Inv) (e : ViewEvent) : v.StepExact e := by
  cases e with
  | setListContextRoot ctxId =>
    have hset : (v.setListContextRoot ctxId).Inv := h.of_same _ v.currentListId
    exact Outcome.stepExact (s := v.jump.state) ⟨fun _ => ⟨_, rfl, hset, Or.inr (Nat.le_refl _)⟩,
      fun hnot => absurd trivial hnot⟩ (Or.inl rfl)
  | pointToRootDirectory answer cancel =>
    obtain ⟨houtcome, hsome⟩ := h.pointToRootDirectory answer cancel
    exact Outcome.stepExact houtcome (Or.inl hsome)
  | pointToChildDirectory answer cancel => exact h.pointToChildDirectory_stepExact answer cancel
  | pointToParentLink =>
    obtain ⟨houtcome, hsome⟩ := h.pointToParentLink
    exact Outcome.stepExact houtcome (Or.inl hsome)
  | listInvalidate listId replacementId hasLine answer cancel =>
    exact h.listInvalidate_stepExact listId replacementId hasLine answer cancel
  | contextRootResult answer cancel => exact h.contextRootResult_stepExact answer cancel
  | parentIdResult answer cancel => exact h.parentIdResult_stepExact answer cancel
  | listIdResult result cancel => exact h.listIdResult_stepExact result cancel
  | enterListResult q isOutdated result child root cancel =>
    exact h.enterListResult_stepExact q isOutdated result child root cancel

/-! ## Whole runs -/

theorem init_inv : Inv {} := Or.inl (Or.inl ⟨rfl, rfl, nofun⟩)

/-- Along a run of a view, the jump is taken care of, advanced, and cancelled as expected exactly
if every step meets the condition. -/
theorem context_jump_run_sound_iff (es : List ViewEvent) :
    AlongRun step StepSound {} es ↔ AlongRun step Fits {} es := by
  apply Foundation.alongRun_iff (I := Inv)
  · intro v e v' h hfits hstep
    exact (h.stepExact e).inv hfits v' hstep
  · intro v e h
    exact (h.stepExact e).stepSound_iff
  · exact init_inv

/-- A list of the context is being entered when the view is told to go to the root directory of
the same context once more: a call is made, but not invoked. -/
theorem context_root_call_not_invoked :
    ¬ ∀ es : List ViewEvent, AlongRun step StepSound {} es := by
  intro h
  have hrun := h
    [.setListContextRoot (some 1), .pointToRootDirectory (.failed .internal) {},
      .contextRootResult (.ok ⟨5⟩) {}, .pointToRootDirectory (.failed .internal) {}]
  have hsound := ((((hrun.2 _ rfl).2 _ rfl).2 _ rfl).1.sound _ rfl).invoked _ rfl
  exact hsound rfl

end View

end Drcpd.Browser

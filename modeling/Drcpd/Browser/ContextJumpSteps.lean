/-
  Browser/ContextJumpSteps.lean --- the phases of the jump to a list context.

  A view is idle, in the first step of a jump, or past it.  In the first step the call in
  `get_context_root_` takes care of the jump; all requests cancel that call, and the jump with it.
  From then on, there is nothing that cancels the jump when other lists are asked for.
-/
import Drcpd.Browser.ContextJump

set_option autoImplicit false

namespace Drcpd.Browser

open DBus (AsyncCall)
open Drcpd.Lists (OpResult)
open Rnf (Call RequestAnswer)

/-- How far a jump has come. -/
def JumpState.rank : JumpState → Nat
  | .notJumping => 0
  | .getContextParentId => 1
  | .enterContextParent => 2
  | .getContextListId => 3
  | .enterContextList => 4

theorem JumpState.rank_lt_enterContextList {s : JumpState} (h : s ≠ .enterContextList) :
    s.rank < JumpState.rank .enterContextList := by
  cases s with
  | enterContextList => exact absurd rfl h
  | _ => decide

/-- If there is a jump, then it comes further or ends. -/
def Advances (before after : JumpState) : Prop :=
  before = .notJumping ∨ after = .notJumping ∨ before.rank < after.rank

theorem not_advances_self {s : JumpState} (h : s ≠ .notJumping) : ¬Advances s s := by
  rintro (hs | hs | hs)
  · exact h hs
  · exact h hs
  · exact Nat.lt_irrefl _ hs

/-- A request for a list ID is refused: there is no call afterwards. -/
def IsRefused : ListIdAnswer → Prop
  | .cookie _ | .fastPath _ => False
  | .unmanaged _ _ | .fastPathThrows _ | .failed _ => True

namespace View

/-- A query which enters a list of the context is to be reported. -/
def EntersContextRoot (v : View) : Prop := ∃ q ∈ v.queries, q.callerId = .enterContextRoot

/-- One of the calls which take part in a jump is outstanding. -/
def Carried (v : View) : Prop :=
  (∃ call, v.getContextRoot = some call ∧ call.callState = .inProgress) ∨
    (∃ call, v.getListId = some call ∧ call.isOutstanding = true) ∨ v.EntersContextRoot

/-- What is expected of the jump in every state. -/
structure Sound (v : View) : Prop where
  carried : v.jump.isJumpingToAnyContext = true → v.Carried
  invoked : ∀ call, v.getContextRoot = some call → call.callState ≠ .initialized
  completions : ∀ c ∈ v.completions, Advances c.1 c.2

/-! ## Phases -/

/-- There is no jump. -/
structure Idle (v : View) : Prop where
  state : v.jump.state = .notJumping
  contextRoot : v.getContextRoot = none
  completions : ∀ c ∈ v.completions, Advances c.1 c.2

/-- The jump waits for the call in `get_context_root_`. -/
structure FirstStep (v : View) : Prop where
  state : v.jump.state = .getContextParentId
  contextRoot : v.getContextRoot = some (AsyncCall.invoke {})
  listId : v.getListId = none
  parentId : v.getParentId = false
  completions : ∀ c ∈ v.completions, Advances c.1 c.2

/-- The jump has come past its first step. -/
def IsPastFirstStep (v : View) : Prop :=
  v.jump.state ≠ .notJumping ∧ v.jump.state ≠ .getContextParentId

/-- The jump has come past its first step, and a call takes care of it. -/
structure Late (v : View) : Prop where
  past : v.IsPastFirstStep
  contextRoot : v.getContextRoot = none
  carried : (∃ call, v.getListId = some call ∧ call.isOutstanding = true) ∨ v.EntersContextRoot
  completions : ∀ c ∈ v.completions, Advances c.1 c.2

/-- There is no jump, or it is in its first step. -/
def Early (v : View) : Prop := v.Idle ∨ v.FirstStep

/-- A view is in one of the phases. -/
def Inv (v : View) : Prop := v.Early ∨ v.Late

variable {v v' : View}

theorem isJumping_iff :
    v.jump.isJumpingToAnyContext = true ↔ v.jump.state ≠ .notJumping := by
  simp [JumpToContext.isJumpingToAnyContext]

theorem Idle.sound (h : v.Idle) : v.Sound where
  carried := fun hjumping => absurd h.state (isJumping_iff.mp hjumping)
  invoked := by simp [h.contextRoot]
  completions := h.completions

theorem FirstStep.sound (h : v.FirstStep) : v.Sound where
  carried := fun _ => Or.inl ⟨_, h.contextRoot, rfl⟩
  invoked := by
    intro call hcall
    cases h.contextRoot.symm.trans hcall
    nofun
  completions := h.completions

theorem Late.sound (h : v.Late) : v.Sound where
  carried := fun _ => Or.inr h.carried
  invoked := by simp [h.contextRoot]
  completions := h.completions

theorem Inv.sound (h : v.Inv) : v.Sound := by
  rcases h with (h | h) | h
  · exact h.sound
  · exact h.sound
  · exact h.sound

theorem forall_completed {before : View} (hbefore : ∀ c ∈ v.completions, Advances c.1 c.2)
    (h : Advances before.jump.state v.jump.state) :
    ∀ c ∈ (completed before v).completions, Advances c.1 c.2 := by
  intro c hc
  rcases List.mem_append.mp hc with hc | hc
  · exact hbefore c hc
  · rw [List.mem_singleton.mp hc]
    exact h

theorem Idle.completed (h : v.Idle) (before : View) : (completed before v).Idle :=
  ⟨h.state, h.contextRoot, forall_completed h.completions (Or.inr (Or.inl h.state))⟩

theorem Idle.deleteGetListId (h : v.Idle) : v.deleteGetListId.Idle :=
  ⟨h.state, h.contextRoot, h.completions⟩

theorem Idle.deleteAll (h : v.Idle) : v.deleteAll.Idle :=
  ⟨h.state, h.contextRoot, h.completions⟩

theorem Early.deleteGetListId (h : v.Early) : v.deleteGetListId.Early := by
  rcases h with h | h
  · exact Or.inl h.deleteGetListId
  · exact Or.inr ⟨h.state, h.contextRoot, rfl, h.parentId, h.completions⟩

theorem Early.startQuery (h : v.Early) (q : ListQuery) : (v.startQuery q).Early := by
  rcases h with h | h
  · exact Or.inl ⟨h.state, h.contextRoot, h.completions⟩
  · exact Or.inr ⟨h.state, h.contextRoot, h.listId, h.parentId, h.completions⟩

/-- A call that ends when there was no jump. -/
theorem Early.completed (h : v.Early) {before : View} (hbefore : before.Idle) :
    (completed before v).Early := by
  have hcompletions := fun hv => forall_completed (v := v) hv (Or.inl hbefore.state)
  rcases h with h | h
  · exact Or.inl ⟨h.state, h.contextRoot, hcompletions h.completions⟩
  · exact Or.inr ⟨h.state, h.contextRoot, h.listId, h.parentId, hcompletions h.completions⟩

/-! ## All calls are cancelled -/

section Entering

variable (enter : View → ListQuery → Option View)

theorem cancelAndDeleteAll_of_none (h : v.getContextRoot = none) :
    v.cancelAndDeleteAll enter = some v.deleteAll := by
  unfold cancelAndDeleteAll cancelAndDeleteContextRoot
  have hsame : v.deleteAll.getContextRoot = none := h
  rw [hsame]

/-- The jump ends with its call. -/
theorem FirstStep.cancelAndDeleteAll (h : v.FirstStep) :
    ∃ v', v.cancelAndDeleteAll enter = some v' ∧ v'.Idle ∧
      v'.getListId = none ∧ v'.getParentId = false := by
  have hcall : v.deleteAll.getContextRoot = some (AsyncCall.invoke {}) := h.contextRoot
  have hstate : v.deleteAll.jump.state = .getContextParentId := h.state
  have hcancel : v.deleteAll.jump.cancel = {} := by
    unfold JumpToContext.cancel
    rw [hstate]
    rfl
  refine ⟨View.completed v.deleteAll { v.deleteAll with getContextRoot := none, jump := {} }, ?_,
    ?_, rfl, rfl⟩
  · unfold View.cancelAndDeleteAll cancelAndDeleteContextRoot
    rw [hcall, ← hcancel]
    rfl
  · exact Idle.completed (v := { v.deleteAll with getContextRoot := none, jump := {} })
      ⟨rfl, rfl, h.completions⟩ _

theorem Early.cancelAndDeleteAll (h : v.Early) :
    ∃ v', v.cancelAndDeleteAll enter = some v' ∧ v'.Idle ∧
      v'.getListId = none ∧ v'.getParentId = false := by
  rcases h with h | h
  · exact ⟨_, cancelAndDeleteAll_of_none enter h.contextRoot, h.deleteAll, rfl, rfl⟩
  · exact h.cancelAndDeleteAll enter

/-! ## Without a jump -/

/-- Entering a list is all right when there is no jump. -/
def EntersEarly : Prop := ∀ v q, Idle v → ∃ v', enter v q = some v' ∧ v'.Early

variable {enter}

theorem Idle.sinkPointToChildError (h : v.Idle) (error : ListErrorCode) :
    (v.sinkPointToChildError error).2 = v := by
  unfold View.sinkPointToChildError JumpToContext.cancel
  rw [if_pos h.state]
  exact ite_self _

theorem Idle.gotListId (h : v.Idle) (henter : EntersEarly enter) (target : ListIdTarget)
    (result : Except ListErrorCode GetListIdResult) :
    ∃ v', v.gotListId enter target result = some v' ∧ v'.Early := by
  have hended : ∃ v', some (View.completed v v.deleteGetListId) = some v' ∧ v'.Early :=
    ⟨_, rfl, Early.completed (Or.inl h.deleteGetListId) h⟩
  have hentered : ∀ q, ∃ v', (enter v q).map (fun v' => View.completed v v'.deleteGetListId) =
      some v' ∧ v'.Early := by
    intro q
    obtain ⟨v', hv', hearly⟩ := henter v q h
    exact ⟨_, by rw [hv']; rfl, hearly.deleteGetListId.completed h⟩
  cases target with
  | rootDirectory =>
    unfold View.gotListId gotRootListId
    cases result with
    | error e =>
      exact ⟨_, rfl, Early.completed (v := { v with
        getListId := v.getListId.map fun c => { c with isOutstanding := false } })
        (Or.inl ⟨h.state, h.contextRoot, h.completions⟩) h⟩
    | ok result =>
      dsimp only
      split
      · exact hentered _
      · exact hended
  | childDirectory =>
    unfold View.gotListId gotChildListId
    cases result with
    | error e =>
      dsimp only
      rw [h.sinkPointToChildError]
      exact hended
    | ok result =>
      dsimp only
      rw [h.sinkPointToChildError]
      split_ifs
      · exact hended
      · exact hended
      · have hnot : v.jump.isJumpingToAnyContext = false := by
          simp [JumpToContext.isJumpingToAnyContext, h.state]
        unfold enterChildList
        rw [hnot]
        exact hentered _

theorem requestListId_fastPath (target : ListIdTarget) (result : GetListIdResult) :
    v.requestListId enter target (.fastPath result) =
      { v with getListId := some { target := target } }.gotListId enter target (.ok result) := by
  have hkept : ∀ w : Option View, (w.map fun v =>
      if isKept (Call.request {} (RequestAnswer.fastPath result (E := ListErrorCode))).2.state
      then v else v.deleteGetListId) = w := by
    intro w
    cases w <;> rfl
  exact hkept _

theorem requestListId_refused (target : ListIdTarget) {answer : ListIdAnswer}
    (h : IsRefused answer) :
    v.requestListId enter target answer = some { v with getListId := none } := by
  cases answer with
  | cookie => cases h
  | fastPath => cases h
  | unmanaged => rfl
  | fastPathThrows => rfl
  | failed => rfl

theorem Idle.requestListId (h : v.Idle) (henter : EntersEarly enter) (target : ListIdTarget)
    (answer : ListIdAnswer) :
    ∃ v', v.requestListId enter target answer = some v' ∧ v'.Early := by
  have hset : ∀ call, Idle { v with getListId := call } := fun _ =>
    ⟨h.state, h.contextRoot, h.completions⟩
  cases answer with
  | fastPath result =>
    rw [requestListId_fastPath]
    exact (hset _).gotListId henter target _
  | cookie => exact ⟨_, rfl, Or.inl (hset _)⟩
  | _ => exact ⟨_, requestListId_refused target trivial, Or.inl (hset _)⟩

theorem Idle.doPointToContextRootDirectory (h : v.Idle) (hlist : v.getListId = none)
    (hparent : v.getParentId = false) (ctxId : ContextId) :
    (v.doPointToContextRootDirectory ctxId).FirstStep := by
  have hnot : v.jump.isJumpingToContext ctxId = false := by
    simp [JumpToContext.isJumpingToContext, h.state]
  have hbegin : v.jump.begin ctxId =
      some { v.jump with destination := some ctxId, state := .getContextParentId } := by
    simp [JumpToContext.begin, h.state]
  unfold View.doPointToContextRootDirectory
  rw [hnot, hbegin]
  exact ⟨rfl, rfl, hlist, hparent, h.completions⟩

theorem Early.pointToRootDirectory (h : v.Early) (henter : EntersEarly enter)
    (answer : ListIdAnswer) :
    ∃ v', v.pointToRootDirectory enter answer = some v' ∧ v'.Early := by
  obtain ⟨w, hw, hidle, hlist, hparent⟩ := h.cancelAndDeleteAll enter
  unfold View.pointToRootDirectory
  rw [hw, Option.bind_some]
  cases w.contextRestriction.contextId with
  | none => exact hidle.requestListId henter .rootDirectory answer
  | some ctxId =>
    exact ⟨_, rfl, Or.inr (hidle.doPointToContextRootDirectory hlist hparent ctxId)⟩

theorem Early.pointToChildDirectory (h : v.Early) (henter : EntersEarly enter)
    (answer : ListIdAnswer) :
    ∃ v', v.pointToChildDirectory enter answer = some v' ∧ v'.Early := by
  obtain ⟨w, hw, hidle, -⟩ := h.cancelAndDeleteAll enter
  unfold View.pointToChildDirectory
  rw [hw, Option.bind_some]
  exact hidle.requestListId henter .childDirectory answer

variable (enter) in
theorem enteredContextRoot_same (child : ListIdAnswer)
    (h : v.jump.state = .notJumping ∨ v.jump.state = .getContextParentId ∨
      v.jump.state = .getContextListId) :
    v.enteredContextRoot enter child = some v := by
  unfold enteredContextRoot
  rcases h with h | h | h <;> rw [h]

theorem handleEnterListEventFinish_same (q : ListQuery) (result : OpResult) :
    ∃ listId, v.handleEnterListEventFinish q result =
      { v.deleteAll with currentListId := listId } := by
  unfold handleEnterListEventFinish
  cases result with
  | succeeded => exact ⟨_, rfl⟩
  | failed => exact ⟨_, rfl⟩
  | _ => exact ⟨v.currentListId, rfl⟩

/-- A query is reported while there is no jump.  One which has entered a list of the context does
nothing more. -/
theorem Idle.handleEnterListEvent (h : v.Idle) (henter : EntersEarly enter) (q : ListQuery)
    (result : OpResult) (child root : ListIdAnswer) :
    ∃ v', v.handleEnterListEvent enter q result child root = some v' ∧ v'.Early := by
  obtain ⟨listId, hfinish⟩ := handleEnterListEventFinish_same (v := v) q result
  have hidle : Idle { v.deleteAll with currentListId := listId } :=
    ⟨h.state, h.contextRoot, h.completions⟩
  have hentered : View.enteredContextRoot enter { v.deleteAll with currentListId := listId } child =
      some { v.deleteAll with currentListId := listId } :=
    enteredContextRoot_same enter child (Or.inl hidle.state)
  unfold View.handleEnterListEvent handleEnterListEventUpdateAfterFinish
  rw [hfinish]
  dsimp only
  rw [hentered, ite_self, Option.bind_some]
  cases hcaller : q.callerId with
  | enterContextRoot => exact ⟨_, rfl, Early.completed (Or.inl hidle) h⟩
  | enterRoot => exact ⟨_, rfl, Or.inl hidle⟩
  | _ =>
    dsimp only
    rw [if_neg nofun]
    split
    · exact Early.pointToRootDirectory (Or.inl hidle) henter root
    · exact ⟨_, rfl, Or.inl hidle⟩

theorem entersEarly_startQuery : EntersEarly fun v q => some (v.startQuery q) :=
  fun _ q h => ⟨_, rfl, Early.startQuery (Or.inl h) q⟩

theorem entersEarly_enterListAsync (cancel : QueryCancel) :
    EntersEarly (enterListAsync cancel) := by
  intro v q h
  unfold enterListAsync
  cases hquery : v.query with
  | none => exact ⟨_, rfl, Early.startQuery (Or.inl h) q⟩
  | some canceled =>
    cases hreport : cancel.report with
    | none => exact ⟨_, rfl, Early.startQuery (Or.inl h) q⟩
    | some report =>
      have hnone : Idle { v with query := none } := ⟨h.state, h.contextRoot, h.completions⟩
      obtain ⟨w, hw, hearly⟩ := hnone.handleEnterListEvent entersEarly_startQuery canceled
        report.result (.failed .internal) cancel.root
      dsimp only
      rw [hw]
      exact ⟨_, rfl, hearly.startQuery q⟩

/-! ## During a jump -/

/-- The current query enters a list of the context, and it is reported as cancelled. -/
def ReportsContextRoot (v : View) (cancel : QueryCancel) : Prop :=
  cancel.report.isSome = true ∧ ∃ q, v.query = some q ∧ q.callerId = .enterContextRoot

/-- What entering a list does to a view during a jump. -/
structure Entered (v : View) (cancel : QueryCancel) (q : ListQuery) (v' : View) : Prop where
  jump : v'.jump = v.jump
  contextRoot : v'.getContextRoot = v.getContextRoot
  query : v'.query = some q
  completions : ¬v.ReportsContextRoot cancel → v'.completions = v.completions
  completed : v.ReportsContextRoot cancel →
    v'.completions = v.completions ++ [(v.jump.state, v.jump.state)]
  unreported : cancel.report = none ∨ v.query = none → v' = v.startQuery q
  reported : ∀ canceled, v.query = some canceled → cancel.report.isSome = true →
    v'.getListId = none ∧ v'.getParentId = false ∧ v'.outdated = v.outdated

variable (enter) in
/-- Queries reported during a jump do not start anything, except where a list of the context has
been entered. -/
theorem handleEnterListEvent_of_jumping (hjumping : v.jump.state ≠ .notJumping) {q : ListQuery}
    {result : OpResult} (hq : ¬(result = .succeeded ∧ q.callerId = .enterContextRoot))
    (child root : ListIdAnswer) :
    ∃ listId, v.handleEnterListEvent enter q result child root =
      some (if q.callerId = .enterContextRoot
        then View.completed v { v.deleteAll with currentListId := listId }
        else { v.deleteAll with currentListId := listId }) := by
  obtain ⟨listId, hfinish⟩ := handleEnterListEventFinish_same (v := v) q result
  have hjump : v.deleteAll.jump.isJumpingToAnyContext = true := isJumping_iff.mpr hjumping
  refine ⟨listId, ?_⟩
  unfold View.handleEnterListEvent handleEnterListEventUpdateAfterFinish
  rw [hfinish]
  dsimp only
  rw [if_neg hq, Option.bind_some, hjump]
  cases hcaller : q.callerId <;> rfl

theorem enterListAsync_of_jumping (hjumping : v.jump.state ≠ .notJumping) (cancel : QueryCancel)
    (q : ListQuery) : ∃ v', enterListAsync cancel v q = some v' ∧ v.Entered cancel q v' := by
  have hstarted : (cancel.report = none ∨ v.query = none) →
      v.Entered cancel q (v.startQuery q) := by
    intro hnone
    have hnot : ¬v.ReportsContextRoot cancel := by
      rintro ⟨hreport, canceled, hquery, -⟩
      rcases hnone with hnone | hnone
      · simp [hnone] at hreport
      · simp [hnone] at hquery
    refine ⟨rfl, rfl, rfl, fun _ => rfl, fun h => absurd h hnot, fun _ => rfl, ?_⟩
    intro canceled hquery hreport
    rcases hnone with hnone | hnone
    · simp [hnone] at hreport
    · simp [hnone] at hquery
  unfold enterListAsync
  cases hquery : v.query with
  | none => exact ⟨_, rfl, hstarted (Or.inr hquery)⟩
  | some canceled =>
    cases hreport : cancel.report with
    | none => exact ⟨_, rfl, hstarted (Or.inl hreport)⟩
    | some report =>
      have hresult : ¬(report.result = .succeeded ∧ canceled.callerId = .enterContextRoot) := by
        cases report <;> exact fun hsucceeded => nomatch hsucceeded.1
      obtain ⟨listId, hreported⟩ := handleEnterListEvent_of_jumping
        (fun v q => some (v.startQuery q)) (v := { v with query := none }) hjumping hresult
        (.failed .internal) cancel.root
      dsimp only
      rw [hreported]
      refine ⟨_, rfl, ?_⟩
      have hunreported : ∀ w : View,
          cancel.report = none ∨ v.query = none → w = v.startQuery q := by
        rintro w (hnone | hnone)
        · simp [hreport] at hnone
        · simp [hquery] at hnone
      by_cases hcaller : canceled.callerId = .enterContextRoot
      · have hreports : v.ReportsContextRoot cancel :=
          ⟨by rw [hreport]; rfl, canceled, hquery, hcaller⟩
        rw [if_pos hcaller]
        exact ⟨rfl, rfl, rfl, fun hnot => absurd hreports hnot, fun _ => rfl, hunreported _,
          fun _ _ _ => ⟨rfl, rfl, List.append_nil _⟩⟩
      · have hnot : ¬v.ReportsContextRoot cancel := by
          rintro ⟨-, other, hother, heq⟩
          cases hquery.symm.trans hother
          exact hcaller heq
        rw [if_neg hcaller]
        exact ⟨rfl, rfl, rfl, fun _ => rfl, fun h => absurd h hnot, hunreported _,
          fun _ _ _ => ⟨rfl, rfl, List.append_nil _⟩⟩

/-- The end of a query that has entered a list of the context. -/
theorem handleEnterListEvent_contextRoot (enter : View → ListQuery → Option View) {q : ListQuery}
    (hq : q.callerId = .enterContextRoot) (child root : ListIdAnswer) :
    v.handleEnterListEvent enter q .succeeded child root =
      ({ v.deleteAll with currentListId := q.listId }.enteredContextRoot enter child).map
        (View.completed v) := by
  unfold View.handleEnterListEvent handleEnterListEventUpdateAfterFinish handleEnterListEventFinish
  dsimp only
  rw [if_pos hq, if_pos (And.intro rfl hq), hq]
  exact congrArg _ (Option.bind_fun_some _)

theorem takeQuery_jump {q : ListQuery} {isOutdated : Bool}
    (htaken : v.takeQuery q isOutdated = some v') : v'.jump = v.jump := by
  unfold View.takeQuery at htaken
  split_ifs at htaken
  · cases htaken
    rfl
  · cases htaken
    rfl

end Entering

end View

end Drcpd.Browser

/-
  Browser/ContextBoundarySteps.lean --- what a restricted view keeps to.

  As long as the restriction of a view stays the same, its calls, current list and queries keep to a
  guard: each function which ends keeps to it, if the lists which are found do.
-/
import Drcpd.Browser.ContextBoundary
import Drcpd.Browser.ContextJumpSteps

set_option autoImplicit false

namespace Drcpd.Browser

open DBus (AsyncCall)
open Drcpd.Lists (OpResult)
open Rnf (Call RequestAnswer)

/-- The list which is entered in the end has been found. -/
def JumpToContext.HasFound (j : JumpToContext) : Prop :=
  j.state = .enterContextList → j.contextListId.isValid = true

/-- What a view keeps to while its restriction stays the same. -/
structure Guard where
  restriction : ContextRestriction
  target : ListIdTarget → Prop
  list : ListId → Prop
  query : ListQuery → Prop
  jump : JumpToContext → Prop
  /-- What is known about the call in `get_parent_id_`. -/
  parent : Prop

namespace Guard

/-- The view keeps to the guard. -/
structure Holds (g : Guard) (v : View) : Prop where
  restriction : v.contextRestriction = g.restriction
  target : ∀ call, v.getListId = some call → g.target call.target
  list : g.list v.currentListId
  query : ∀ q ∈ v.queries, g.query q
  jump : g.jump v.jump
  parent : v.getParentId = true → g.parent

/-- The guard permits what the functions do on their own. -/
structure Closed (g : Guard) : Prop where
  child : g.target .childDirectory
  root : g.restriction.contextId = none → g.target .rootDirectory
  noList : g.list {}
  contextQuery : ∀ listId, listId.isValid = true → g.query ⟨.enterContextRoot, listId⟩
  rootQuery : g.target .rootDirectory → ∀ listId, listId.isValid = true →
    g.query ⟨.enterRoot, listId⟩
  jump : ∀ j, j.HasFound → g.jump j

/-- Entering a permitted list keeps to the guard. -/
def Enters (g : Guard) (enter : View → ListQuery → Option View) : Prop :=
  ∀ v q v', g.Holds v → g.query q → enter v q = some v' → g.Holds v'

variable {g : Guard} {v v' : View}

/-! ## Changes of the view -/

theorem Holds.completed (h : g.Holds v) (before : View) : g.Holds (View.completed before v) :=
  ⟨h.restriction, h.target, h.list, h.query, h.jump, h.parent⟩

theorem Holds.set_jump (h : g.Holds v) {jump : JumpToContext} (hjump : g.jump jump) :
    g.Holds { v with jump := jump } :=
  ⟨h.restriction, h.target, h.list, h.query, hjump, h.parent⟩

theorem Holds.cancel_jump (h : g.Holds v) (hg : g.Closed) :
    g.Holds { v with jump := v.jump.cancel } := by
  refine h.set_jump ?_
  unfold JumpToContext.cancel
  split
  · exact h.jump
  · exact hg.jump {} nofun

theorem Holds.set_list (h : g.Holds v) {listId : ListId} (hlist : g.list listId) :
    g.Holds { v with currentListId := listId } :=
  ⟨h.restriction, h.target, hlist, h.query, h.jump, h.parent⟩

theorem Holds.set_contextRoot (h : g.Holds v) (call : Option (AsyncCall ListId Unit)) :
    g.Holds { v with getContextRoot := call } :=
  ⟨h.restriction, h.target, h.list, h.query, h.jump, h.parent⟩

theorem Holds.set_listId (h : g.Holds v) {call : Option HeldListIdCall}
    (hcall : ∀ c, call = some c → g.target c.target) : g.Holds { v with getListId := call } :=
  ⟨h.restriction, hcall, h.list, h.query, h.jump, h.parent⟩

theorem Holds.deleteGetListId (h : g.Holds v) : g.Holds v.deleteGetListId := h.set_listId nofun

/-- There is no call for a parent any more, whatever has been known about it. -/
theorem Holds.deleteAll (h : g.Holds v) (parent : Prop) :
    Holds { g with parent := parent } v.deleteAll :=
  ⟨h.restriction, nofun, h.list, h.query, h.jump, nofun⟩

theorem Holds.startQuery (h : g.Holds v) {q : ListQuery} (hq : g.query q) :
    g.Holds (v.startQuery q) := by
  refine ⟨h.restriction, h.target, h.list, ?_, h.jump, h.parent⟩
  intro other hother
  unfold View.queries View.startQuery at hother
  rcases List.mem_append.mp hother with hother | hother
  · cases List.mem_singleton.mp hother
    exact hq
  · exact h.query other (List.mem_append.mpr (List.mem_append.mp hother).symm)

theorem Holds.of_queries (h : g.Holds v) {query : Option ListQuery} {outdated : List ListQuery}
    (hqueries : ∀ q ∈ query.toList ++ outdated, q ∈ v.queries) :
    g.Holds { v with query := query, outdated := outdated } :=
  ⟨h.restriction, h.target, h.list, fun q hq => h.query q (hqueries q hq), h.jump, h.parent⟩

theorem mem_queries_of_takeQuery {q : ListQuery} {isOutdated : Bool}
    (htaken : (v.takeQuery q isOutdated).isSome = true) : q ∈ v.queries := by
  obtain ⟨v', hv'⟩ := Option.isSome_iff_exists.mp htaken
  unfold View.takeQuery at hv'
  split_ifs at hv' with hisOutdated hmem hquery
  · exact List.mem_append_right _ hmem
  · refine List.mem_append_left _ ?_
    rw [hquery]
    exact List.mem_singleton.mpr rfl

theorem Holds.takeQuery (h : g.Holds v) {q : ListQuery} {isOutdated : Bool}
    (hv' : v.takeQuery q isOutdated = some v') : g.Holds v' := by
  unfold View.takeQuery at hv'
  split_ifs at hv'
  · cases hv'
    refine h.of_queries fun other hother => ?_
    rcases List.mem_append.mp hother with hother | hother
    · exact List.mem_append_left _ hother
    · exact List.mem_append_right _ (List.mem_of_mem_erase hother)
  · cases hv'
    exact h.of_queries fun other hother => List.mem_append_right _ hother

/-! ## Functions which enter lists -/

section Entering

variable {enter : View → ListQuery → Option View}

theorem Holds.gotContextParentLink (h : g.Holds v) (hg : g.Closed) (henter : g.Enters enter)
    {call : AsyncCall ListId Unit} (hv' : v.gotContextParentLink enter call = some v') :
    g.Holds v' := by
  have hreset := h.set_contextRoot none
  have hfailed : g.Holds (View.completed v
      { v with getContextRoot := none, jump := v.jump.cancel }) :=
    (hreset.cancel_jump hg).completed v
  unfold View.gotContextParentLink at hv'
  dsimp only at hv'
  split at hv'
  · split at hv'
    · cases hv'
    · next listId hlist =>
      split at hv'
      · next hvalid =>
        obtain ⟨w, hw, rfl⟩ := Option.map_eq_some_iff.mp hv'
        have hput := hreset.set_jump (hg.jump (v.jump.putParentListId listId) nofun)
        exact (henter _ _ w hput (hg.contextQuery _ hvalid) hw).completed v
      · cases hv'
        exact hfailed
  · cases hv'
    exact hfailed
  · cases hv'
    exact hfailed
  · cases hv'
    exact hfailed
  · cases hv'

theorem Holds.cancelAndDeleteContextRoot (h : g.Holds v) (hg : g.Closed) (henter : g.Enters enter)
    (hv' : v.cancelAndDeleteContextRoot enter = some v') : g.Holds v' := by
  have hreset := h.set_contextRoot none
  unfold View.cancelAndDeleteContextRoot at hv'
  split at hv'
  · cases hv'
    exact h
  · split at hv'
    · dsimp only at hv'
      split at hv'
      · obtain ⟨w, hw, rfl⟩ := Option.map_eq_some_iff.mp hv'
        exact (h.gotContextParentLink hg henter hw).set_contextRoot none
      · cases hv'
        exact hreset
    · cases hv'
      exact hreset
    · cases hv'
      exact hreset
    · cases hv'
      exact hreset

theorem Closed.of_parent (hg : g.Closed) (parent : Prop) : Closed { g with parent := parent } :=
  ⟨hg.child, hg.root, hg.noList, hg.contextQuery, hg.rootQuery, hg.jump⟩

theorem Holds.cancelAndDeleteAll (h : g.Holds v) (hg : g.Closed) (henter : g.Enters enter)
    (hv' : v.cancelAndDeleteAll enter = some v') : g.Holds v' :=
  (h.deleteAll g.parent).cancelAndDeleteContextRoot hg henter hv'

/-- A list found for the user is permitted, if there is one. -/
def Finds (g : Guard) (listId : ListId) : Prop :=
  listId.isValid = true → g.query ⟨.enterChild, listId⟩

theorem Holds.sinkPointToChildError (h : g.Holds v) (hg : g.Closed) (error : ListErrorCode) :
    g.Holds (v.sinkPointToChildError error).2 := by
  unfold View.sinkPointToChildError
  dsimp only
  split
  · exact h.cancel_jump hg
  · exact h

theorem Holds.enterChildList (h : g.Holds v) (hg : g.Closed) (henter : g.Enters enter)
    {listId : ListId} (hvalid : listId.isValid = true) (hfinds : g.Finds listId)
    (hv' : v.enterChildList enter listId = some v') : g.Holds v' := by
  unfold View.enterChildList at hv'
  split at hv'
  · have hput := h.set_jump (hg.jump (v.jump.putContextListId listId) fun _ => hvalid)
    exact henter _ _ v' hput (hg.contextQuery _ hvalid) hv'
  · exact henter _ _ v' h (hfinds hvalid) hv'

theorem Holds.gotListId (h : g.Holds v) (hg : g.Closed) (henter : g.Enters enter)
    {target : ListIdTarget} (htarget : g.target target)
    {result : Except ListErrorCode GetListIdResult}
    (hfinds : target = .childDirectory → ∀ found, result = .ok found → g.Finds found.listId)
    (hv' : v.gotListId enter target result = some v') : g.Holds v' := by
  cases target with
  | rootDirectory =>
    unfold View.gotListId View.gotRootListId at hv'
    cases result with
    | error e =>
      cases hv'
      refine (h.set_listId ?_).completed v
      intro c hc
      obtain ⟨call, hcall, rfl⟩ := Option.map_eq_some_iff.mp hc
      exact h.target call hcall
    | ok found =>
      dsimp only at hv'
      split at hv'
      · next hfound =>
        obtain ⟨w, hw, rfl⟩ := Option.map_eq_some_iff.mp hv'
        have hentered := henter _ _ w h (hg.rootQuery htarget _ hfound.2) hw
        exact hentered.deleteGetListId.completed v
      · cases hv'
        exact h.deleteGetListId.completed v
  | childDirectory =>
    unfold View.gotListId View.gotChildListId at hv'
    dsimp only at hv'
    obtain ⟨w, hw, rfl⟩ := Option.map_eq_some_iff.mp hv'
    refine Holds.completed (Holds.deleteGetListId ?_) v
    cases result with
    | error e =>
      cases hw
      exact h.sinkPointToChildError hg e
    | ok found =>
      have hsunk := h.sinkPointToChildError hg found.error
      dsimp only at hw
      split at hw
      · cases hw
        exact hsunk
      · split at hw
        · cases hw
          exact hsunk
        · next hvalid =>
          exact hsunk.enterChildList hg henter (by simpa using hvalid) (hfinds rfl found rfl) hw

theorem Holds.requestListId (h : g.Holds v) (hg : g.Closed) (henter : g.Enters enter)
    {target : ListIdTarget} (htarget : g.target target) {answer : ListIdAnswer}
    (hfinds : target = .childDirectory → ∀ found, answer = .fastPath found → g.Finds found.listId)
    (hv' : v.requestListId enter target answer = some v') : g.Holds v' := by
  have hmade : g.Holds { v with getListId := some { target := target } } := by
    refine h.set_listId fun c hc => ?_
    cases hc
    exact htarget
  unfold View.requestListId at hv'
  dsimp only at hv'
  obtain ⟨w, hw, rfl⟩ := Option.map_eq_some_iff.mp hv'
  have hnotified : g.Holds w := by
    cases answer with
    | fastPath found =>
      refine hmade.gotListId hg henter htarget ?_ hw
      intro hchild other hother
      cases hother
      exact hfinds hchild _ rfl
    | _ =>
      cases hw
      exact hmade
  split
  · exact hnotified
  · exact hnotified.deleteGetListId

theorem Holds.doPointToContextRootDirectory (h : g.Holds v) (hg : g.Closed) (ctxId : ContextId) :
    g.Holds (v.doPointToContextRootDirectory ctxId) := by
  unfold View.doPointToContextRootDirectory
  dsimp only
  split
  · exact h.set_contextRoot _
  · split
    · exact h.set_contextRoot none
    · next jump hbegun =>
      refine (h.set_jump (hg.jump jump ?_)).set_contextRoot _
      unfold JumpToContext.begin at hbegun
      cases (Option.ite_none_left_eq_some.mp hbegun).2
      nofun

theorem Holds.pointToRootDirectory (h : g.Holds v) (hg : g.Closed) (henter : g.Enters enter)
    {answer : ListIdAnswer} (hv' : v.pointToRootDirectory enter answer = some v') :
    g.Holds v' := by
  unfold View.pointToRootDirectory at hv'
  obtain ⟨w, hw, hpointed⟩ := Option.bind_eq_some_iff.mp hv'
  have hcanceled := h.cancelAndDeleteAll hg henter hw
  split at hpointed
  · next hctx =>
    exact hcanceled.requestListId hg henter (hg.root (hcanceled.restriction ▸ hctx)) nofun hpointed
  · cases hpointed
    exact hcanceled.doPointToContextRootDirectory hg _

theorem Holds.pointToChildDirectory (h : g.Holds v) (hg : g.Closed) (henter : g.Enters enter)
    {answer : ListIdAnswer} (hfinds : ∀ found, answer = .fastPath found → g.Finds found.listId)
    (hv' : v.pointToChildDirectory enter answer = some v') : g.Holds v' := by
  unfold View.pointToChildDirectory at hv'
  obtain ⟨w, hw, hrequested⟩ := Option.bind_eq_some_iff.mp hv'
  exact (h.cancelAndDeleteAll hg henter hw).requestListId hg henter hg.child (fun _ => hfinds)
    hrequested

theorem Holds.handleEnterListEventFinish (h : g.Holds v) (hg : g.Closed) {q : ListQuery}
    {result : OpResult} (hlist : result = .succeeded → g.list q.listId) :
    g.Holds (v.handleEnterListEventFinish q result) := by
  have hdeleted : g.Holds v.deleteAll := h.deleteAll g.parent
  unfold View.handleEnterListEventFinish
  cases result with
  | succeeded => exact hdeleted.set_list (hlist rfl)
  | failed => exact hdeleted.set_list hg.noList
  | _ => exact hdeleted

/-- A list of the context has been entered, but the jump does not end. -/
theorem Holds.enteredContextRoot (h : g.Holds v) (hg : g.Closed) (henter : g.Enters enter)
    {child : ListIdAnswer} (hfinds : ∀ found, child = .fastPath found → g.Finds found.listId)
    (hstate : v.jump.state ≠ .enterContextList)
    (hv' : v.enteredContextRoot enter child = some v') : g.Holds v' := by
  unfold View.enteredContextRoot at hv'
  split at hv'
  · cases hv'
    exact h
  · cases hv'
    exact h
  · cases hv'
    exact h
  · have hbegun := h.set_jump (hg.jump v.jump.beginSecondStep nofun)
    exact hbegun.pointToChildDirectory hg henter hfinds hv'
  · next hends => exact absurd hends hstate

/-- A query ends, and the jump does not. -/
theorem Holds.handleEnterListEvent (h : g.Holds v) (hg : g.Closed) (henter : g.Enters enter)
    {q : ListQuery} {result : OpResult} {child root : ListIdAnswer}
    (hlist : result = .succeeded → g.list q.listId)
    (hcontext : result = .succeeded → q.callerId = .enterContextRoot →
      v.jump.state ≠ .enterContextList ∧
        ∀ found, child = .fastPath found → g.Finds found.listId)
    (hv' : v.handleEnterListEvent enter q result child root = some v') : g.Holds v' := by
  have hfinished := h.handleEnterListEventFinish hg hlist
  by_cases hq : result = .succeeded ∧ q.callerId = .enterContextRoot
  · obtain ⟨rfl, hcaller⟩ := hq
    rw [View.handleEnterListEvent_contextRoot _ hcaller] at hv'
    obtain ⟨w, hw, rfl⟩ := Option.map_eq_some_iff.mp hv'
    obtain ⟨hstate, hfinds⟩ := hcontext rfl hcaller
    exact (hfinished.enteredContextRoot hg henter hfinds hstate hw).completed v
  · have hupdated : ∀ w,
        (v.handleEnterListEventFinish q result).handleEnterListEventUpdateAfterFinish
          enter q result child root = some w → g.Holds w := by
      intro w hw
      unfold View.handleEnterListEventUpdateAfterFinish at hw
      rw [if_neg hq, Option.bind_some] at hw
      cases hcaller : q.callerId with
      | enterContextRoot =>
        rw [hcaller] at hw
        cases hw
        exact hfinished
      | enterRoot =>
        rw [hcaller] at hw
        cases hw
        exact hfinished
      | _ =>
        rw [hcaller] at hw
        dsimp only at hw
        split at hw
        · exact hfinished.pointToRootDirectory hg henter hw
        · cases hw
          exact hfinished
    unfold View.handleEnterListEvent at hv'
    dsimp only at hv'
    split at hv'
    · obtain ⟨w, hw, rfl⟩ := Option.map_eq_some_iff.mp hv'
      exact (hupdated w hw).completed v
    · exact hupdated v' hv'

end Entering

theorem enters_startQuery (g : Guard) : g.Enters fun v q => some (v.startQuery q) := by
  intro v q v' h hq hv'
  cases hv'
  exact h.startQuery hq

theorem Closed.enters (hg : g.Closed) (cancel : QueryCancel) :
    g.Enters (View.enterListAsync cancel) := by
  intro v q v' h hq hv'
  unfold View.enterListAsync at hv'
  split at hv'
  · next canceled report hquery hreport =>
    obtain ⟨w, hw, rfl⟩ := Option.map_eq_some_iff.mp hv'
    have hnone : g.Holds { v with query := none } :=
      h.of_queries fun other hother => List.mem_append_right _ hother
    have hresult : report.result ≠ .succeeded := by
      cases report <;> nofun
    refine Holds.startQuery ?_ hq
    exact hnone.handleEnterListEvent hg (enters_startQuery g)
      (fun hsucceeded => absurd hsucceeded hresult)
      (fun hsucceeded => absurd hsucceeded hresult) hw
  · cases hv'
    exact h.startQuery hq
  · cases hv'
    exact h.startQuery hq

/-! ## Events -/

/-- What the guard asks of an event, if the restriction stays the same. -/
def Permits (g : Guard) (v : View) : ViewEvent → Prop
  | .pointToChildDirectory answer _ => ∀ found, answer = .fastPath found → g.Finds found.listId
  | .parentIdResult answer _ =>
      v.getParentId = true →
        ∀ listId, answer = .ok listId → listId.isValid = true → g.query ⟨.enterParent, listId⟩
  | .listIdResult result _ =>
      ∀ call, v.getListId = some call → call.target = .childDirectory →
        ∀ found, result = .ok found → g.Finds found.listId
  | .enterListResult q isOutdated result child _ _ =>
      result = .succeeded → (v.takeQuery q isOutdated).isSome = true →
        g.list q.listId ∧
          (q.callerId = .enterContextRoot → v.jump.state ≠ .enterContextList ∧
            ∀ found, child = .fastPath found → g.Finds found.listId)
  | .pointToRootDirectory _ _ | .contextRootResult _ _ => True
  | .setListContextRoot _ | .pointToParentLink | .listInvalidate _ _ _ _ _ => False

theorem Holds.step (h : g.Holds v) (hg : g.Closed) {e : ViewEvent} (hpermits : g.Permits v e)
    (hv' : v.step e = some v') : g.Holds v' := by
  unfold View.step at hv'
  cases e with
  | setListContextRoot ctxId => cases hpermits
  | pointToParentLink => cases hpermits
  | listInvalidate listId replacementId hasLine answer cancel => cases hpermits
  | pointToRootDirectory answer cancel => exact h.pointToRootDirectory hg (hg.enters cancel) hv'
  | pointToChildDirectory answer cancel =>
    exact h.pointToChildDirectory hg (hg.enters cancel) hpermits hv'
  | contextRootResult answer cancel =>
    dsimp only at hv'
    split at hv'
    · cases hv'
    · split at hv'
      · exact h.gotContextParentLink hg (hg.enters cancel) hv'
      · cases hv'
  | parentIdResult answer cancel =>
    dsimp only at hv'
    split at hv'
    · next hcall =>
      have hended : g.Holds { v with getParentId := false } :=
        ⟨h.restriction, h.target, h.list, h.query, h.jump, nofun⟩
      unfold View.gotParentLink at hv'
      dsimp only at hv'
      split at hv'
      · cases hv'
        exact hended
      · next listId =>
        split at hv'
        · next hvalid =>
          exact hg.enters cancel _ _ v' hended (hpermits hcall listId rfl hvalid) hv'
        · cases hv'
          exact hended
    · cases hv'
  | listIdResult result cancel =>
    dsimp only at hv'
    split at hv'
    · cases hv'
    · next call hcall =>
      split at hv'
      · exact h.gotListId hg (hg.enters cancel) (h.target call hcall) (hpermits call hcall) hv'
      · cases hv'
  | enterListResult q isOutdated result child root cancel =>
    dsimp only at hv'
    split at hv'
    · cases hv'
    · obtain ⟨w, hw, hreported⟩ := Option.bind_eq_some_iff.mp hv'
      have htaken : (v.takeQuery q isOutdated).isSome = true := by
        rw [hw]
        rfl
      have hjump : w.jump = v.jump := View.takeQuery_jump hw
      exact (h.takeQuery hw).handleEnterListEvent hg (hg.enters cancel)
        (fun hsucceeded => (hpermits hsucceeded htaken).1)
        (fun hsucceeded => hjump ▸ (hpermits hsucceeded htaken).2) hreported

/-- The request is sent, whatever has been known about the call before. -/
theorem Holds.pointToParentLink (h : g.Holds v) (hg : g.Closed) {parent : Prop}
    (hparent : parent) (hrequests : v.contextRestriction.isBoundary v.currentListId = false)
    (hv' : v.pointToParentLink = some v') : Holds { g with parent := parent } v' := by
  unfold View.pointToParentLink at hv'
  rw [hrequests] at hv'
  obtain ⟨w, hw, rfl⟩ := Option.map_eq_some_iff.mp hv'
  have hcanceled : Holds { g with parent := parent } w :=
    (h.deleteAll parent).cancelAndDeleteContextRoot (hg.of_parent parent)
      (enters_startQuery _) hw
  exact ⟨hcanceled.restriction, hcanceled.target, hcanceled.list, hcanceled.query, hcanceled.jump,
    fun _ => hparent⟩

theorem Holds.restartIfNecessary (h : g.Holds v) {listId replacementId : ListId}
    (hrestarts : replacementId.isValid = true → ∀ q ∈ v.queries, q.listId = listId →
      g.query { q with listId := replacementId }) :
    g.Holds (v.restartIfNecessary listId replacementId) := by
  unfold View.restartIfNecessary
  split
  · exact h
  · next q hq =>
    split
    · exact h
    · next hreplaced =>
      obtain ⟨hsame, hvalid⟩ := not_or.mp hreplaced
      have hmem : q ∈ v.queries := by
        refine List.mem_append_left _ ?_
        rw [hq]
        exact List.mem_singleton.mpr rfl
      exact h.startQuery (hrestarts (by simpa using hvalid) q hmem (not_not.mp hsame))

/-- The list is invalidated; `hlost`, `hother` and `hreplaced` are about the view when its current
list has been set. -/
theorem Holds.listInvalidate (hg : g.Closed) {listId replacementId : ListId} {hasLine : Bool}
    {answer : ListIdAnswer} {cancel : QueryCancel}
    (hlost : (v.beginListInvalidate listId replacementId).1 = true →
      g.Holds { (v.beginListInvalidate listId replacementId).2 with currentListId := {} })
    (hother : (v.beginListInvalidate listId replacementId).1 = false →
      listId ≠ v.currentListId ∨ replacementId.isValid = false →
        g.Holds (v.beginListInvalidate listId replacementId).2)
    (hreplaced : (v.beginListInvalidate listId replacementId).1 = false →
      listId = v.currentListId → replacementId.isValid = true →
        g.Holds { (v.beginListInvalidate listId replacementId).2 with
          currentListId := replacementId } ∧
          g.query ⟨.reloadList, replacementId⟩)
    (hv' : v.listInvalidate listId replacementId hasLine answer cancel = some v') :
    g.Holds v' := by
  unfold View.listInvalidate at hv'
  dsimp only at hv'
  split at hv'
  · next hbegun =>
    cases hv'
    exact hlost hbegun
  · next hbegun =>
    have hbegun := Bool.eq_false_of_not_eq_true hbegun
    split at hv'
    · next hne =>
      have hheld := hother hbegun (Or.inl hne)
      split at hv'
      · cases hv'
        exact hheld
      · exact hheld.pointToRootDirectory hg (hg.enters cancel) hv'
    · next hsame =>
      split at hv'
      · next hvalid =>
        obtain ⟨hheld, hquery⟩ := hreplaced hbegun (not_not.mp hsame) hvalid
        unfold View.reloadList at hv'
        split at hv'
        · exact hg.enters cancel _ _ v' hheld hquery hv'
        · exact hheld.pointToRootDirectory hg (hg.enters cancel) hv'
      · next hinvalid =>
        have hheld := hother hbegun (Or.inr (by simpa using hinvalid))
        exact hheld.pointToRootDirectory hg (hg.enters cancel) hv'

end Guard

end Drcpd.Browser

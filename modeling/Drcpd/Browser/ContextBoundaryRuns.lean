/-
  Browser/ContextBoundaryRuns.lean --- the boundary of a context over whole runs.

  Nothing needs to be known about a view as long as access is blocked.  Access is unblocked where a
  jump ends: the list which has been found is the boundary then, and no calls are outstanding.  The
  user stays at or below the boundary as long as no list from elsewhere gets current, then or later.
-/
import Drcpd.Foundation.Run
import Drcpd.Browser.ContextBoundarySteps

set_option autoImplicit false

namespace Drcpd.Browser

open Foundation (AlongRun)
open Drcpd.Lists (OpResult)

/-! ## The restriction -/

namespace ContextRestriction

variable {r : ContextRestriction} {listId replacementId : ListId}

theorem isBoundary_eq_false :
    r.isBoundary listId = false ↔
      r.isBlocked = false ∧ ¬(r.rootListId.isValid = true ∧ r.rootListId = listId) := by
  unfold isBoundary
  cases r.isBlocked <;> simp

theorem listInvalidate_contextId :
    (r.listInvalidate listId replacementId).2.contextId = r.contextId := by
  unfold listInvalidate
  split_ifs <;> rfl

theorem listInvalidate_isBlocked (h : r.isBlocked = true) :
    (r.listInvalidate listId replacementId).2.isBlocked = true := by
  unfold listInvalidate
  split_ifs
  · exact h
  · exact h
  · simp [h]

/-- Without its boundary, a context is blocked. -/
theorem listInvalidate_lost (hlost : (r.listInvalidate listId replacementId).1 = true)
    (hctx : r.contextId ≠ none) : (r.listInvalidate listId replacementId).2.isBlocked = true := by
  unfold listInvalidate at hlost ⊢
  split_ifs at hlost ⊢
  simp [Option.isSome_iff_ne_none.mpr hctx]

/-- The boundary is replaced, or it stays. -/
theorem listInvalidate_kept (hkept : (r.listInvalidate listId replacementId).1 = false) :
    (listId = r.rootListId ∧ replacementId.isValid = true ∧
      (r.listInvalidate listId replacementId).2 = { r with rootListId := replacementId }) ∨
    (listId ≠ r.rootListId ∧ (r.listInvalidate listId replacementId).2 = r) := by
  unfold listInvalidate at hkept ⊢
  split_ifs at hkept ⊢ with hne hvalid
  · exact Or.inr ⟨hne, rfl⟩
  · exact Or.inl ⟨not_not.mp hne, hvalid, rfl⟩

end ContextRestriction

/-- What is kept of the restriction alone. -/
def Guard.only (r : ContextRestriction) : Guard where
  restriction := r
  target _ := True
  list _ := True
  query _ := True
  jump _ := True
  parent := True

/-- The lists which are entered have valid IDs. -/
def Guard.valid (r : ContextRestriction) : Guard :=
  { Guard.only r with
    query := fun q => q.listId.isValid = true
    jump := JumpToContext.HasFound }

namespace Guard

theorem only_closed (r : ContextRestriction) : (only r).Closed where
  child := trivial
  root := fun _ => trivial
  noList := trivial
  contextQuery := fun _ _ => trivial
  rootQuery := fun _ _ _ => trivial
  jump := fun _ _ => trivial

theorem only_holds {v : View} {r : ContextRestriction} (h : v.contextRestriction = r) :
    (only r).Holds v :=
  ⟨h, fun _ _ => trivial, trivial, fun _ _ => trivial, trivial, fun _ => trivial⟩

theorem valid_closed (r : ContextRestriction) : (valid r).Closed where
  child := trivial
  root := fun _ => trivial
  noList := trivial
  contextQuery := fun _ hvalid => hvalid
  rootQuery := fun _ _ hvalid => hvalid
  jump := fun _ hfound => hfound

end Guard

namespace View

variable {v v' : View}

/-- The jump has ended with a query: the list found is the boundary, and that of the query is the
current one. -/
structure JumpEnded (v : View) (q : ListQuery) (v' : View) : Prop where
  root : v'.contextRestriction.rootListId = v.jump.contextListId
  contextId : v'.contextRestriction.contextId = v.contextRestriction.contextId
  current : v'.currentListId = q.listId
  jump : v'.jump = {}
  listId : v'.getListId = none
  parentId : v'.getParentId = false
  queries : ∀ other ∈ v'.queries, other ∈ v.queries

/-- The restriction stays in force. -/
structure StaysRestricted (v v' : View) : Prop where
  contextId : v'.contextRestriction.contextId = v.contextRestriction.contextId
  blocked : v.contextRestriction.isBlocked = true → v'.contextRestriction.isBlocked = true

theorem staysRestricted_of_permits (e : ViewEvent)
    (hpermits : (Guard.only v.contextRestriction).Permits v e) (hv' : v.step e = some v') :
    v.StaysRestricted v' := by
  have hsame := ((Guard.only_holds rfl).step (Guard.only_closed _) hpermits hv').restriction
  exact ⟨congrArg _ hsame, fun hblocked => (congrArg _ hsame).trans hblocked⟩

theorem listInvalidate_contextRestriction {listId replacementId : ListId} {hasLine : Bool}
    {answer : ListIdAnswer} {cancel : QueryCancel}
    (hv' : v.listInvalidate listId replacementId hasLine answer cancel = some v') :
    v'.contextRestriction =
      (v.contextRestriction.listInvalidate listId replacementId).2 := by
  set r := (v.contextRestriction.listInvalidate listId replacementId).2
  have hheld : (Guard.only r).Holds (v.beginListInvalidate listId replacementId).2 :=
    Guard.Holds.restartIfNecessary (v := { v with contextRestriction := r })
      (Guard.only_holds rfl) fun _ _ _ _ => trivial
  have hkept := Guard.Holds.listInvalidate (Guard.only_closed r)
    (fun _ => hheld.set_list trivial) (fun _ _ => hheld)
    (fun _ _ _ => ⟨hheld.set_list trivial, trivial⟩) hv'
  exact hkept.restriction

theorem beginListInvalidate_set_list (v : View) (listId replacementId current : ListId) :
    { (v.beginListInvalidate listId replacementId).2 with currentListId := current } =
      View.restartIfNecessary
        { v with
          contextRestriction := (v.contextRestriction.listInvalidate listId replacementId).2
          currentListId := current }
        listId replacementId := by
  unfold beginListInvalidate restartIfNecessary
  dsimp only
  split
  · rfl
  · split <;> rfl

theorem takeQuery_contextRestriction {q : ListQuery} {isOutdated : Bool}
    (hv' : v.takeQuery q isOutdated = some v') :
    v'.contextRestriction = v.contextRestriction :=
  ((Guard.only_holds rfl).takeQuery hv').restriction

theorem takeQuery_queries {q : ListQuery} {isOutdated : Bool}
    (hv' : v.takeQuery q isOutdated = some v') : ∀ other ∈ v'.queries, other ∈ v.queries := by
  have hheld : Guard.Holds { Guard.only v.contextRestriction with query := (· ∈ v.queries) } v :=
    ⟨rfl, fun _ _ => trivial, trivial, fun _ hother => hother, trivial, fun _ => trivial⟩
  exact (hheld.takeQuery hv').query

theorem jumpEnded_of_step {q : ListQuery} {isOutdated : Bool} {child root : ListIdAnswer}
    {cancel : QueryCancel} (hcaller : q.callerId = .enterContextRoot)
    (hstate : v.jump.state = .enterContextList)
    (hv' : v.step (.enterListResult q isOutdated .succeeded child root cancel) = some v') :
    v.JumpEnded q v' := by
  obtain ⟨w, hw, hreported⟩ := Option.bind_eq_some_iff.mp hv'
  rw [handleEnterListEvent_contextRoot _ hcaller] at hreported
  obtain ⟨entered, hentered, rfl⟩ := Option.map_eq_some_iff.mp hreported
  have htaken : w.jump = v.jump := takeQuery_jump hw
  have hjump : View.jump { w.deleteAll with currentListId := q.listId } = v.jump := htaken
  have hctx := congrArg ContextRestriction.contextId (takeQuery_contextRestriction hw)
  have hqueries := takeQuery_queries hw
  unfold View.enteredContextRoot at hentered
  rw [hjump, hstate] at hentered
  cases hentered
  exact ⟨rfl, hctx, rfl, rfl, rfl, rfl, hqueries⟩

/-- The query which ends the jump. -/
theorem enterListResult_of_endsJump {e : ViewEvent} (hends : v.endsJump e = true) :
    ∃ q isOutdated child root cancel,
      e = .enterListResult q isOutdated .succeeded child root cancel ∧
        q.callerId = .enterContextRoot ∧ v.jump.state = .enterContextList := by
  cases e with
  | enterListResult q isOutdated result child root cancel =>
    obtain ⟨rfl, hended⟩ := of_decide_eq_true hends
    exact ⟨q, isOutdated, child, root, cancel, rfl, hended⟩
  | _ => cases hends

/-- Only `set_list_context_root` changes the context, and access gets unblocked only where the
boundary is set. -/
theorem staysRestricted_of_step {e : ViewEvent} (hset : ∀ ctxId, e ≠ .setListContextRoot ctxId)
    (hends : v.endsJump e = false) (hv' : v.step e = some v') : v.StaysRestricted v' := by
  cases e with
  | setListContextRoot ctxId => exact absurd rfl (hset ctxId)
  | pointToRootDirectory answer cancel =>
    exact staysRestricted_of_permits (.pointToRootDirectory answer cancel) trivial hv'
  | contextRootResult answer cancel =>
    exact staysRestricted_of_permits (.contextRootResult answer cancel) trivial hv'
  | pointToChildDirectory answer cancel =>
    exact staysRestricted_of_permits (.pointToChildDirectory answer cancel)
      (fun _ _ _ => trivial) hv'
  | parentIdResult answer cancel =>
    exact staysRestricted_of_permits (.parentIdResult answer cancel)
      (fun _ _ _ _ => trivial) hv'
  | listIdResult result cancel =>
    exact staysRestricted_of_permits (.listIdResult result cancel)
      (fun _ _ _ _ _ _ => trivial) hv'
  | pointToParentLink =>
    have hpointed : v.pointToParentLink = some v' := hv'
    have hsame : v'.contextRestriction = v.contextRestriction := by
      cases hboundary : v.contextRestriction.isBoundary v.currentListId with
      | true =>
        unfold View.pointToParentLink at hpointed
        rw [hboundary] at hpointed
        cases hpointed
        rfl
      | false =>
        exact ((Guard.only_holds rfl).pointToParentLink (Guard.only_closed _) trivial hboundary
          hpointed).restriction
    exact ⟨congrArg _ hsame, fun hblocked => (congrArg _ hsame).trans hblocked⟩
  | listInvalidate listId replacementId hasLine answer cancel =>
    unfold View.step at hv'
    dsimp only at hv'
    split at hv'
    · have hrestriction := listInvalidate_contextRestriction hv'
      constructor
      · rw [hrestriction]
        exact ContextRestriction.listInvalidate_contextId
      · intro hblocked
        rw [hrestriction]
        exact ContextRestriction.listInvalidate_isBlocked hblocked
    · cases hv'
  | enterListResult q isOutdated result child root cancel =>
    refine staysRestricted_of_permits (.enterListResult q isOutdated result child root cancel) ?_
      hv'
    intro hsucceeded _
    refine ⟨trivial, fun hcaller => ⟨fun hstate => ?_, fun _ _ _ => trivial⟩⟩
    exact of_decide_eq_false hends ⟨hsucceeded, hcaller, hstate⟩

/-! ## Lists are entered under valid IDs -/

/-- The lists which are, or are about to be, entered have valid IDs. -/
structure EntersValid (v : View) : Prop where
  found : v.jump.HasFound
  queries : ∀ q ∈ v.queries, q.listId.isValid = true

theorem EntersValid.holds (h : v.EntersValid) : (Guard.valid v.contextRestriction).Holds v :=
  ⟨rfl, fun _ _ => trivial, trivial, h.queries, h.found, fun _ => trivial⟩

theorem entersValid_of_holds {r : ContextRestriction} (h : (Guard.valid r).Holds v) :
    v.EntersValid := ⟨h.jump, h.query⟩

theorem EntersValid.of_permits (h : v.EntersValid) {e : ViewEvent}
    (hpermits : (Guard.valid v.contextRestriction).Permits v e) (hv' : v.step e = some v') :
    v'.EntersValid :=
  entersValid_of_holds (h.holds.step (Guard.valid_closed _) hpermits hv')

theorem EntersValid.listInvalidate (h : v.EntersValid) {listId replacementId : ListId}
    {hasLine : Bool} {answer : ListIdAnswer} {cancel : QueryCancel}
    (hv' : v.listInvalidate listId replacementId hasLine answer cancel = some v') :
    v'.EntersValid := by
  set r := (v.contextRestriction.listInvalidate listId replacementId).2
  have hset : (Guard.valid r).Holds { v with contextRestriction := r } :=
    ⟨rfl, fun _ _ => trivial, trivial, h.queries, h.found, fun _ => trivial⟩
  have hheld : (Guard.valid r).Holds (v.beginListInvalidate listId replacementId).2 :=
    hset.restartIfNecessary fun hvalid _ _ _ => hvalid
  exact entersValid_of_holds (Guard.Holds.listInvalidate (Guard.valid_closed r)
    (fun _ => hheld.set_list trivial) (fun _ _ => hheld)
    (fun _ _ hvalid => ⟨hheld.set_list trivial, hvalid⟩) hv')

theorem EntersValid.pointToParentLink (h : v.EntersValid) (hv' : v.pointToParentLink = some v') :
    v'.EntersValid := by
  cases hboundary : v.contextRestriction.isBoundary v.currentListId with
  | true =>
    unfold View.pointToParentLink at hv'
    rw [hboundary] at hv'
    cases hv'
    exact h
  | false =>
    exact entersValid_of_holds
      (h.holds.pointToParentLink (Guard.valid_closed _) trivial hboundary hv')

theorem EntersValid.step (h : v.EntersValid) {e : ViewEvent} (hv' : v.step e = some v') :
    v'.EntersValid := by
  cases e with
  | setListContextRoot ctxId =>
    cases hv'
    exact ⟨h.found, h.queries⟩
  | pointToRootDirectory answer cancel =>
    exact h.of_permits (e := .pointToRootDirectory answer cancel) trivial hv'
  | contextRootResult answer cancel =>
    exact h.of_permits (e := .contextRootResult answer cancel) trivial hv'
  | pointToChildDirectory answer cancel =>
    exact h.of_permits (e := .pointToChildDirectory answer cancel) (fun _ _ hvalid => hvalid) hv'
  | parentIdResult answer cancel =>
    exact h.of_permits (e := .parentIdResult answer cancel) (fun _ _ _ hvalid => hvalid) hv'
  | listIdResult result cancel =>
    exact h.of_permits (e := .listIdResult result cancel) (fun _ _ _ _ _ hvalid => hvalid) hv'
  | pointToParentLink => exact h.pointToParentLink hv'
  | listInvalidate listId replacementId hasLine answer cancel =>
    unfold View.step at hv'
    dsimp only at hv'
    split at hv'
    · exact h.listInvalidate hv'
    · cases hv'
  | enterListResult q isOutdated result child root cancel =>
    cases hends : v.endsJump (.enterListResult q isOutdated result child root cancel) with
    | true =>
      obtain ⟨rfl, hcaller, hstate⟩ := of_decide_eq_true hends
      have hended := jumpEnded_of_step hcaller hstate hv'
      refine ⟨?_, fun other hother => h.queries other (hended.queries other hother)⟩
      rw [hended.jump]
      nofun
    | false =>
      refine h.of_permits (e := .enterListResult q isOutdated result child root cancel) ?_ hv'
      intro hsucceeded _
      refine ⟨trivial, fun hcaller => ⟨fun hstate => ?_, fun _ _ hvalid => hvalid⟩⟩
      exact of_decide_eq_false hends ⟨hsucceeded, hcaller, hstate⟩

end View

namespace Browsing

variable {ι : Type*} (lists : ListHierarchy ι)

/-! ## What holds inside the boundary -/

/-- What a view keeps to behind the boundary. -/
def guard (s : Browsing) : Guard where
  restriction := s.view.contextRestriction
  target t := t = .childDirectory
  list listId := listId.isValid = true →
    lists.Unlocked s.view.contextRestriction.rootListId listId ∧
      (lists.SameList listId s.view.contextRestriction.rootListId →
        listId = s.view.contextRestriction.rootListId)
  query q := q.callerId = .enterContextRoot ∨
    lists.Unlocked s.view.contextRestriction.rootListId q.listId ∨ s.IsLeftover lists q.listId
  jump _ := True
  parent := s.parentCall.isValid = true →
    lists.Unlocked s.view.contextRestriction.rootListId s.parentCall ∧
      ¬lists.SameList s.parentCall s.view.contextRestriction.rootListId

/-- The user is inside the boundary. -/
structure Kept (s : Browsing) : Prop where
  valid : s.view.contextRestriction.rootListId.isValid = true
  guard : (s.guard lists).Holds s.view
  childCall : s.childCall.isValid = true →
    lists.Unlocked s.view.contextRestriction.rootListId s.childCall

/-- A view that is restricted and not blocked keeps inside the boundary. -/
structure Inv (s : Browsing) : Prop where
  valid : s.view.EntersValid
  kept : s.view.IsRestricted → s.view.contextRestriction.isBlocked = false → s.Kept lists

variable {lists} {s s' : Browsing} {e : ViewEvent}

theorem guard_closed (hctx : s.view.IsRestricted) : (s.guard lists).Closed where
  child := rfl
  root := fun hnone => absurd hnone hctx
  noList := nofun
  contextQuery := fun _ _ => Or.inl rfl
  rootQuery := nofun
  jump := fun _ _ => trivial

theorem IsLeftover.of_same {listId other : ListId} (h : s.IsLeftover lists listId)
    (hsame : lists.SameList other listId) : s.IsLeftover lists other := by
  obtain ⟨q, hq, hlist⟩ := h
  exact ⟨q, hq, hlist.trans hsame.symm⟩

theorem not_isLeftover {listId : ListId} (h : s.leftover = []) : ¬s.IsLeftover lists listId := by
  rintro ⟨q, hq, -⟩
  rw [h] at hq
  cases hq

/-! ## Steps -/

theorem step_eq_some (h : s.step e = some s') :
    s.view.step e = some s'.view ∧
      s'.parentCall =
        (if s.view.requestsParent e then s.view.currentListId else s.parentCall) ∧
      s'.leftover = (if s.view.endsJump e then s'.view.queries else s.leftover) := by
  unfold Browsing.step at h
  obtain ⟨v, hv, rfl⟩ := Option.map_eq_some_iff.mp h
  exact ⟨hv, rfl, rfl⟩

/-- The call for a child is for the list that has been current, or is. -/
theorem step_childCall (h : s.step e = some s') :
    s'.childCall = s.view.currentListId ∨
      s'.childCall = s.childCall ∨ s'.childCall = s'.view.currentListId := by
  unfold Browsing.step at h
  obtain ⟨v, hv, rfl⟩ := Option.map_eq_some_iff.mp h
  cases e with
  | pointToChildDirectory answer cancel => exact Or.inl rfl
  | _ =>
    dsimp only
    split
    · exact Or.inr (Or.inr rfl)
    · exact Or.inr (Or.inl rfl)

theorem childCall_of_endsJump (hends : s.view.endsJump e = true) (h : s.step e = some s')
    (hvalid : s'.view.currentListId.isValid = true) :
    s'.childCall = s'.view.currentListId := by
  unfold Browsing.step at h
  obtain ⟨v, hv, rfl⟩ := Option.map_eq_some_iff.mp h
  cases e with
  | enterListResult q isOutdated result child root cancel => exact if_pos hvalid
  | _ => cases hends

/-- The boundary has been set, and the current list is not above it. -/
theorem Kept.of_endsJump (hvalid : s.view.EntersValid) (hctx : s.view.IsRestricted)
    (hfits : s.Fits lists e) (hends : s.view.endsJump e = true) (h : s.step e = some s') :
    s'.Kept lists := by
  obtain ⟨hv', -, hleftover⟩ := step_eq_some h
  rw [if_pos hends] at hleftover
  obtain ⟨q, isOutdated, child, root, cancel, rfl, hcaller, hstate⟩ :=
    View.enterListResult_of_endsJump hends
  have hended := View.jumpEnded_of_step hcaller hstate hv'
  have htaken : (s.view.takeQuery q isOutdated).isSome = true := by
    obtain ⟨w, hw, -⟩ := Option.bind_eq_some_iff.mp hv'
    rw [hw]
    rfl
  have hlist := hfits hctx htaken
  rw [if_pos ⟨hcaller, hstate⟩, ← hended.root, ← hended.current] at hlist
  have hcurrent : s'.view.currentListId.isValid = true := by
    rw [hended.current]
    exact hvalid.queries q (Guard.mem_queries_of_takeQuery htaken)
  refine ⟨?_, ⟨rfl, ?_, fun _ => hlist, ?_, trivial, ?_⟩, fun _ => ?_⟩
  · rw [hended.root]
    exact hvalid.found hstate
  · intro call hcall
    cases hended.listId.symm.trans hcall
  · intro other hother
    exact Or.inr (Or.inr ⟨other, hleftover ▸ hother, rfl⟩)
  · intro hparent
    cases hended.parentId.symm.trans hparent
  · rw [childCall_of_endsJump hends h hcurrent]
    exact hlist.1

/-- After a step which keeps to the guard, with the boundary possibly under a new ID. -/
theorem Kept.of_holds (h : s.Kept lists) (hstep : s.step e = some s')
    (hvalid : s'.view.contextRestriction.rootListId.isValid = true)
    (hroot : lists.SameList s'.view.contextRestriction.rootListId
      s.view.contextRestriction.rootListId)
    (hguard : (s'.guard lists).Holds s'.view) : s'.Kept lists where
  valid := hvalid
  guard := hguard
  childCall := by
    intro hchild
    rcases step_childCall hstep with heq | heq | heq
    · rw [heq] at hchild ⊢
      exact (h.guard.list hchild).1.of_same_boundary hroot
    · rw [heq] at hchild ⊢
      exact (h.childCall hchild).of_same_boundary hroot
    · rw [heq] at hchild ⊢
      exact (hguard.list hchild).1

theorem guard_congr (hrestriction : s'.view.contextRestriction = s.view.contextRestriction)
    (hparent : s'.parentCall = s.parentCall) (hleftover : s'.leftover = s.leftover) :
    s'.guard lists = s.guard lists := by
  unfold guard IsLeftover
  rw [hrestriction, hparent, hleftover]

/-- The restriction stays the same, and no parent is requested. -/
theorem Kept.of_permits (h : s.Kept lists) (hctx : s.view.IsRestricted)
    (hends : s.view.endsJump e = false)
    (hrequests : s.view.requestsParent e = false) (hpermits : (s.guard lists).Permits s.view e)
    (hstep : s.step e = some s') : s'.Kept lists := by
  obtain ⟨hv', hparent, hleftover⟩ := step_eq_some hstep
  rw [hrequests] at hparent
  rw [hends] at hleftover
  have hheld := h.guard.step (guard_closed hctx) hpermits hv'
  refine h.of_holds hstep ?_ ?_ ?_
  · rw [hheld.restriction]
    exact h.valid
  · rw [hheld.restriction]
    rfl
  · rw [guard_congr hheld.restriction hparent hleftover]
    exact hheld

theorem Kept.pointToParentLink (h : s.Kept lists) (hctx : s.view.IsRestricted)
    (hstep : s.step .pointToParentLink = some s') : s'.Kept lists := by
  obtain ⟨hv', hparent, hleftover⟩ := step_eq_some hstep
  have hpointed : s.view.pointToParentLink = some s'.view := hv'
  have hleftover : s'.leftover = s.leftover := hleftover
  cases hboundary : s.view.contextRestriction.isBoundary s.view.currentListId with
  | true =>
    have hsame : s'.view = s.view := by
      unfold View.pointToParentLink at hpointed
      rw [hboundary] at hpointed
      exact (Option.some.inj hpointed).symm
    unfold View.requestsParent at hparent
    rw [hboundary] at hparent
    refine h.of_holds hstep ?_ ?_ ?_
    · rw [hsame]
      exact h.valid
    · rw [hsame]
      rfl
    · rw [guard_congr (by rw [hsame]) hparent hleftover, hsame]
      exact h.guard
  | false =>
    obtain ⟨-, hnot⟩ := ContextRestriction.isBoundary_eq_false.mp hboundary
    unfold View.requestsParent at hparent
    rw [hboundary] at hparent
    -- The current list is not the boundary, under whatever ID.
    have hrequested : s.view.currentListId.isValid = true →
        lists.Unlocked s.view.contextRestriction.rootListId s.view.currentListId ∧
          ¬lists.SameList s.view.currentListId s.view.contextRestriction.rootListId := by
      intro hcurrent
      obtain ⟨hunlocked, hsame⟩ := h.guard.list hcurrent
      exact ⟨hunlocked, fun heq => hnot ⟨h.valid, (hsame heq).symm⟩⟩
    have hheld := h.guard.pointToParentLink (guard_closed hctx) hrequested hboundary hpointed
    refine h.of_holds hstep ?_ ?_ ?_
    · rw [hheld.restriction]
      exact h.valid
    · rw [hheld.restriction]
      rfl
    · have hguard : s'.guard lists = { s.guard lists with
          parent := s.view.currentListId.isValid = true →
            lists.Unlocked s.view.contextRestriction.rootListId s.view.currentListId ∧
              ¬lists.SameList s.view.currentListId s.view.contextRestriction.rootListId } := by
        have hrestriction : s'.view.contextRestriction = s.view.contextRestriction :=
          hheld.restriction
        unfold Browsing.guard IsLeftover
        rw [hrestriction, hparent, hleftover]
        rfl
      rw [hguard]
      exact hheld

variable (lists) in
/-- The boundary has not been lost with the list, but it may have another ID now. -/
structure Rebinds (s s' : Browsing) (listId replacementId : ListId) : Prop where
  restriction : s'.view.contextRestriction =
    (s.view.contextRestriction.listInvalidate listId replacementId).2
  kept : (s.view.contextRestriction.listInvalidate listId replacementId).1 = false
  replaces : replacementId.isValid = true → lists.SameList replacementId listId
  parentCall : s'.parentCall = s.parentCall
  leftover : s'.leftover = s.leftover

section Rebinds

variable {listId replacementId : ListId}

theorem Rebinds.root (hr : Rebinds lists s s' listId replacementId) (h : s.Kept lists) :
    s'.view.contextRestriction.rootListId.isValid = true ∧
      lists.SameList s'.view.contextRestriction.rootListId
        s.view.contextRestriction.rootListId := by
  rw [hr.restriction]
  rcases ContextRestriction.listInvalidate_kept hr.kept with ⟨hlist, hvalid, hset⟩ | ⟨-, hset⟩
  · rw [hset, ← hlist]
    exact ⟨hvalid, hr.replaces hvalid⟩
  · rw [hset]
    exact ⟨h.valid, rfl⟩

/-- The current list keeps its ID.  If it is the boundary, then that one does, too. -/
theorem Rebinds.list_of_stays (hr : Rebinds lists s s' listId replacementId) (h : s.Kept lists)
    (hstays : listId ≠ s.view.currentListId ∨ replacementId.isValid = false) :
    (s'.guard lists).list s.view.currentListId := by
  intro hcurrent
  have hroot := (hr.root h).2
  obtain ⟨hunlocked, hsame⟩ := h.guard.list hcurrent
  refine ⟨hunlocked.of_same_boundary hroot, fun heq => ?_⟩
  have hboundary := hsame (heq.trans hroot)
  rcases ContextRestriction.listInvalidate_kept hr.kept with ⟨hlist, hvalid, -⟩ | ⟨-, hset⟩
  · rcases hstays with hne | hinvalid
    · exact absurd (hlist.trans hboundary.symm) hne
    · cases hvalid.symm.trans hinvalid
  · rw [hr.restriction, hset]
    exact hboundary

/-- The current list gets another ID.  If it is the boundary, then that one gets it, too. -/
theorem Rebinds.list_of_replaced (hr : Rebinds lists s s' listId replacementId) (h : s.Kept lists)
    (hlistId : listId.isValid = true) (hcurrent : listId = s.view.currentListId)
    (hreplacement : replacementId.isValid = true) : (s'.guard lists).list replacementId := by
  intro _
  have hroot := (hr.root h).2
  have hsame := hr.replaces hreplacement
  obtain ⟨hunlocked, hboundary⟩ := h.guard.list (hcurrent ▸ hlistId)
  rw [← hcurrent] at hunlocked hboundary
  refine ⟨(hunlocked.of_same hsame).of_same_boundary hroot, fun heq => ?_⟩
  rcases ContextRestriction.listInvalidate_kept hr.kept with ⟨-, -, hset⟩ | ⟨hne, -⟩
  · rw [hr.restriction, hset]
  · exact absurd (hboundary ((hsame.symm.trans heq).trans hroot)) hne

/-- The guard asks for the same as before, and restarting a query does not make a difference. -/
theorem Rebinds.holds (hr : Rebinds lists s s' listId replacementId) (h : s.Kept lists)
    {current : ListId} (hcurrent : (s'.guard lists).list current) :
    (s'.guard lists).Holds (View.restartIfNecessary
      { s.view with
        contextRestriction := (s.view.contextRestriction.listInvalidate listId replacementId).2
        currentListId := current }
      listId replacementId) := by
  have hroot := (hr.root h).2
  have hquery : ∀ q, (s.guard lists).query q → (s'.guard lists).query q := by
    rintro q (hcaller | hunlocked | hq)
    · exact Or.inl hcaller
    · exact Or.inr (Or.inl (hunlocked.of_same_boundary hroot))
    · refine Or.inr (Or.inr ?_)
      unfold IsLeftover
      rw [hr.leftover]
      exact hq
  have hset : (s'.guard lists).Holds
      { s.view with
        contextRestriction := (s.view.contextRestriction.listInvalidate listId replacementId).2
        currentListId := current } := by
    refine ⟨hr.restriction.symm, h.guard.target, hcurrent,
      fun q hq => hquery q (h.guard.query q hq), trivial, fun hcall hvalid => ?_⟩
    rw [hr.parentCall] at hvalid ⊢
    obtain ⟨hunlocked, hnot⟩ := h.guard.parent hcall hvalid
    exact ⟨hunlocked.of_same_boundary hroot, fun hsame => hnot (hsame.trans hroot)⟩
  refine hset.restartIfNecessary ?_
  intro hvalid q hq hlist
  have hsame : lists.SameList replacementId q.listId := hlist ▸ hr.replaces hvalid
  rcases hset.query q hq with hcaller | hunlocked | hleft
  · exact Or.inl hcaller
  · exact Or.inr (Or.inl (hunlocked.of_same hsame))
  · exact Or.inr (Or.inr (hleft.of_same hsame))

end Rebinds

theorem Kept.listInvalidate (h : s.Kept lists) (hctx : s.view.IsRestricted)
    {listId replacementId : ListId} {hasLine : Bool} {answer : ListIdAnswer} {cancel : QueryCancel}
    (hreplaces : replacementId.isValid = true → lists.SameList replacementId listId)
    (hstep : s.step (.listInvalidate listId replacementId hasLine answer cancel) = some s')
    (hunblocked : s'.view.contextRestriction.isBlocked = false) : s'.Kept lists := by
  obtain ⟨hv', hparent, hleftover⟩ := step_eq_some hstep
  unfold View.step at hv'
  dsimp only at hv'
  split at hv'
  · next hlistId =>
    have hrestriction := View.listInvalidate_contextRestriction hv'
    have hkept : (s.view.contextRestriction.listInvalidate listId replacementId).1 = false := by
      refine Bool.eq_false_of_not_eq_true fun hlost => ?_
      have hagain := ContextRestriction.listInvalidate_lost hlost hctx
      rw [← hrestriction] at hagain
      cases hagain.symm.trans hunblocked
    have hr : Rebinds lists s s' listId replacementId :=
      ⟨hrestriction, hkept, hreplaces, hparent, hleftover⟩
    have hctx' : s'.view.IsRestricted := by
      unfold View.IsRestricted
      rw [hrestriction, ContextRestriction.listInvalidate_contextId]
      exact hctx
    obtain ⟨hvalid, hroot⟩ := hr.root h
    refine h.of_holds hstep hvalid hroot
      (Guard.Holds.listInvalidate (guard_closed hctx') ?_ ?_ ?_ hv')
    · intro hlost
      cases hkept.symm.trans hlost
    · exact fun _ hstays => hr.holds h (hr.list_of_stays h hstays)
    · intro _ hcurrent hreplacement
      have hlist := hr.list_of_replaced h hlistId hcurrent hreplacement
      rw [View.beginListInvalidate_set_list]
      exact ⟨hr.holds h hlist, Or.inr (Or.inl (hlist hreplacement).1)⟩
  · cases hv'

/-- A query of the user is for a list behind the boundary, unless it is left over. -/
theorem Kept.unlocked_of_query (h : s.Kept lists) {q : ListQuery} {isOutdated : Bool}
    (htaken : (s.view.takeQuery q isOutdated).isSome = true)
    (hfits : q.callerId = .enterContextRoot ∨ s.IsLeftover lists q.listId →
      lists.Unlocked s.view.contextRestriction.rootListId q.listId) :
    lists.Unlocked s.view.contextRestriction.rootListId q.listId := by
  rcases h.guard.query q (Guard.mem_queries_of_takeQuery htaken) with hcaller | hunlocked | hleft
  · exact hfits (Or.inl hcaller)
  · exact hunlocked
  · exact hfits (Or.inr hleft)

/-- What is found is behind the boundary where the list broker tells the truth, and what is entered
is behind it if the condition is met. -/
theorem Kept.permits (h : s.Kept lists) (hctx : s.view.IsRestricted)
    (hblocked : s.view.contextRestriction.isBlocked = false) (hanswers : s.Answers lists e)
    (hfits : s.Fits lists e) (hends : s.view.endsJump e = false)
    (hset : ∀ ctxId, e ≠ .setListContextRoot ctxId) (hparent : e ≠ .pointToParentLink)
    (hinvalidate : ∀ listId replacementId hasLine answer cancel,
      e ≠ .listInvalidate listId replacementId hasLine answer cancel) :
    (s.guard lists).Permits s.view e := by
  cases e with
  | setListContextRoot ctxId => exact absurd rfl (hset ctxId)
  | pointToParentLink => exact absurd rfl hparent
  | listInvalidate listId replacementId hasLine answer cancel =>
    exact absurd rfl (hinvalidate listId replacementId hasLine answer cancel)
  | pointToRootDirectory answer cancel => trivial
  | contextRootResult answer cancel => trivial
  | pointToChildDirectory answer cancel =>
    intro found hfound hvalid
    subst hfound
    have hchild := hanswers hvalid
    exact Or.inr (Or.inl ((h.guard.list hchild.parentValid).1.child hchild))
  | parentIdResult answer cancel =>
    intro hcall listId hanswer hvalid
    subst hanswer
    have hlist := hanswers hvalid
    obtain ⟨hunlocked, hnot⟩ := h.guard.parent hcall hlist.childValid
    exact Or.inr (Or.inl (hunlocked.parent hnot hlist))
  | listIdResult result cancel =>
    intro call hcall htarget found hresult hvalid
    subst hresult
    have hchild := hanswers hvalid call hcall htarget
    exact Or.inr (Or.inl ((h.childCall hchild.parentValid).child hchild))
  | enterListResult q isOutdated result child root cancel =>
    intro hsucceeded htaken
    subst hsucceeded
    have hended := hfits hctx htaken
    rw [if_neg fun hlast => of_decide_eq_false hends ⟨rfl, hlast⟩, hblocked, if_neg nofun] at hended
    have hunlocked := h.unlocked_of_query htaken hended.1
    refine ⟨fun _ => ⟨hunlocked, hended.2⟩, fun hcaller => ⟨fun hstate => ?_, ?_⟩⟩
    · exact of_decide_eq_false hends ⟨rfl, hcaller, hstate⟩
    · intro found hfound hvalid
      subst hfound
      exact Or.inr (Or.inl (hunlocked.child (hanswers hvalid)))

theorem Inv.step (h : s.Inv lists) (hanswers : s.Answers lists e) (hfits : s.Fits lists e)
    (hstep : s.step e = some s') : s'.Inv lists := by
  obtain ⟨hv', -⟩ := step_eq_some hstep
  refine ⟨h.valid.step hv', fun hctx' hunblocked => ?_⟩
  by_cases hset : ∃ ctxId, e = .setListContextRoot ctxId
  · obtain ⟨ctxId, rfl⟩ := hset
    have hview : s.view.setListContextRoot ctxId = s'.view := Option.some.inj hv'
    rw [← hview] at hctx' hunblocked
    cases ctxId with
    | none => exact absurd rfl hctx'
    | some ctx => cases hunblocked
  · have hother : ∀ ctxId, e ≠ .setListContextRoot ctxId := fun ctxId heq => hset ⟨ctxId, heq⟩
    cases hends : s.view.endsJump e with
    | true =>
      obtain ⟨q, isOutdated, child, root, cancel, rfl, hcaller, hstate⟩ :=
        View.enterListResult_of_endsJump hends
      have hctx : s.view.IsRestricted := by
        unfold View.IsRestricted
        rw [← (View.jumpEnded_of_step hcaller hstate hv').contextId]
        exact hctx'
      exact Kept.of_endsJump h.valid hctx hfits hends hstep
    | false =>
      have hstays := View.staysRestricted_of_step hother hends hv'
      have hctx : s.view.IsRestricted := by
        unfold View.IsRestricted
        rw [← hstays.contextId]
        exact hctx'
      have hblocked : s.view.contextRestriction.isBlocked = false := by
        refine Bool.eq_false_of_not_eq_true fun hblocked => ?_
        cases (hstays.blocked hblocked).symm.trans hunblocked
      have hkept := h.kept hctx hblocked
      cases e with
      | pointToParentLink => exact hkept.pointToParentLink hctx hstep
      | listInvalidate listId replacementId hasLine answer cancel =>
        exact hkept.listInvalidate hctx hanswers hstep hunblocked
      | _ =>
        have hpermits := hkept.permits hctx hblocked hanswers hfits hends hother
          (fun heq => nomatch heq) (fun _ _ _ _ _ heq => nomatch heq)
        exact hkept.of_permits hctx hends rfl hpermits hstep

theorem Inv.boundaryKept (h : s.Inv lists) (hanswers : s.Answers lists e)
    (hfits : s.Fits lists e) : s.BoundaryKept lists e where
  requested := by
    intro hctx hrequests
    cases e with
    | pointToParentLink =>
      unfold View.requestsParent at hrequests
      obtain ⟨hblocked, hnot⟩ :=
        ContextRestriction.isBoundary_eq_false.mp ((Bool.not_eq_true' _).mp hrequests)
      have hkept := h.kept hctx hblocked
      refine ⟨hblocked, fun heq => hnot ⟨hkept.valid, heq.symm⟩, fun hcurrent hsame => ?_⟩
      exact hnot ⟨hkept.valid, ((hkept.guard.list hcurrent).2 hsame).symm⟩
    | _ => cases hrequests
  entered := by
    intro hctx listId hentered
    cases e with
    | parentIdResult answer cancel =>
      cases answer with
      | error error => cases hentered
      | ok parentId =>
        obtain ⟨hcall, hvalid, rfl⟩ := hentered
        have hblocked := hfits hctx hcall hvalid
        have hlist := hanswers hvalid
        obtain ⟨hunlocked, hnot⟩ := (h.kept hctx hblocked).guard.parent hcall hlist.childValid
        exact ⟨hblocked, hunlocked.parent hnot hlist⟩
    | enterListResult q isOutdated result child root cancel =>
      obtain ⟨rfl, htaken, rfl⟩ := hentered
      have hended := hfits hctx htaken
      rw [if_neg (not_and_of_not_left _ nofun)] at hended
      cases hblocked : s.view.contextRestriction.isBlocked with
      | true =>
        rw [hblocked, if_pos rfl] at hended
        exact absurd rfl hended
      | false =>
        rw [hblocked, if_neg nofun] at hended
        exact ⟨rfl, (h.kept hctx hblocked).unlocked_of_query htaken hended.1⟩
    | _ => cases hentered

/-- The condition keeps lists from elsewhere from getting current.  If one does, then going back
once more leads further away from the context. -/
theorem parent_entered_of_not_unlocked (hctx : s.view.IsRestricted)
    (hblocked : s.view.contextRestriction.isBlocked = false)
    (hnot : ¬lists.Unlocked s.view.contextRestriction.rootListId s.view.currentListId)
    {parentId : ListId} (hparent : lists.IsParent parentId s.view.currentListId)
    (hstep : s.step .pointToParentLink = some s') :
    s'.Answers lists (.parentIdResult (.ok parentId) {}) ∧
      ¬s'.BoundaryKept lists (.parentIdResult (.ok parentId) {}) := by
  obtain ⟨hv', hcall, -⟩ := step_eq_some hstep
  have hpointed : s.view.pointToParentLink = some s'.view := hv'
  have hboundary : s.view.contextRestriction.isBoundary s.view.currentListId = false := by
    refine ContextRestriction.isBoundary_eq_false.mpr ⟨hblocked, fun ⟨_, heq⟩ => hnot ?_⟩
    rw [heq]
    exact ListHierarchy.unlocked_boundary _
  have hsame : s'.view.contextRestriction = s.view.contextRestriction :=
    ((Guard.only_holds rfl).pointToParentLink (Guard.only_closed _) trivial hboundary
      hpointed).restriction
  have hgetParentId : s'.view.getParentId = true := by
    unfold View.pointToParentLink at hpointed
    rw [hboundary] at hpointed
    obtain ⟨w, -, hw⟩ := Option.map_eq_some_iff.mp hpointed
    rw [← hw]
  unfold View.requestsParent at hcall
  rw [hboundary] at hcall
  constructor
  · intro _
    rw [hcall]
    exact hparent
  · intro hkept
    have hctx' : s'.view.IsRestricted := by
      unfold View.IsRestricted
      rw [hsame]
      exact hctx
    have hunlocked := (hkept.entered hctx' parentId ⟨hgetParentId, hparent.parentValid, rfl⟩).2
    rw [hsame] at hunlocked
    exact hnot (hunlocked.child hparent)

/-! ## Whole runs -/

/-- Along a run of a view, the restriction keeps the user from leaving the context upwards, if the
list broker tells the truth, and every step meets the condition. -/
theorem context_boundary_kept (es : List ViewEvent)
    (hanswers : AlongRun step (fun s e => s.Answers lists e) {} es)
    (hfits : AlongRun step (fun s e => s.Fits lists e) {} es) :
    AlongRun step (fun s e => s.BoundaryKept lists e) {} es := by
  have hboth := AlongRun.and es hanswers hfits
  have hinit : Inv lists {} := ⟨⟨nofun, nofun⟩, fun hctx => absurd rfl hctx⟩
  refine AlongRun.imp (I := fun s => s.Inv lists) ?_ ?_ es hinit hboth
  · intro s e s' h hboth hstep
    exact h.step hboth.1 hboth.2 hstep
  · intro s e h hboth
    exact h.boundaryKept hboth.1 hboth.2

/-- Each list is in the one whose number is one less, down to the list 4. -/
def numberedLists : ListHierarchy ListId where
  listOf listId := listId
  parent listId := if 4 < listId.rawId then some ⟨listId.rawId - 1⟩ else none

/-- The end of the current query.  If a child is requested then, a cookie is returned. -/
def entered (callerId : ViewCallerId) (listId : ListId) : ViewEvent :=
  .enterListResult ⟨callerId, listId⟩ false .succeeded (.cookie ⟨1, by decide⟩) (.failed .internal)
    {}

/-- The list 6 is the root list of the context, and the list 5 holds the link to it. -/
def entersContext : List ViewEvent :=
  [.setListContextRoot (some 1), .pointToRootDirectory (.failed .internal) {},
    .contextRootResult (.ok ⟨5⟩) {}, entered .enterContextRoot ⟨5⟩,
    .listIdResult (.ok ⟨.ok, ⟨6⟩⟩) {}, entered .enterContextRoot ⟨6⟩]

/-- The user goes to a child of the context's root list, and back to that list. -/
theorem context_boundary_kept_back :
    AlongRun step (fun s e => s.BoundaryKept numberedLists e) {}
      (entersContext ++
        [.pointToChildDirectory (.cookie ⟨2, by decide⟩) {}, .listIdResult (.ok ⟨.ok, ⟨7⟩⟩) {},
          entered .enterChild ⟨7⟩, .pointToParentLink, .parentIdResult (.ok ⟨6⟩) {},
          entered .enterParent ⟨6⟩]) := by
  apply context_boundary_kept
  · refine .cons_of_step trivial rfl <| .cons_of_step trivial rfl <| .cons_of_step trivial rfl <|
      .cons_of_step trivial rfl <| .cons_of_step (fun _ _ _ _ => ⟨rfl, rfl, rfl⟩) rfl <|
      .cons_of_step trivial rfl <| .cons_of_step trivial rfl <|
      .cons_of_step (fun _ _ _ _ => ⟨rfl, rfl, rfl⟩) rfl <| .cons_of_step trivial rfl <|
      .cons_of_step trivial rfl <| .cons_of_step (fun _ => ⟨rfl, rfl, rfl⟩) rfl <|
      .cons_of_step trivial rfl trivial
  · have hours : ∀ (s : Browsing) {q : ListQuery}, q.callerId ≠ .enterContextRoot →
        s.leftover = [] →
          ¬(q.callerId = .enterContextRoot ∨ s.IsLeftover numberedLists q.listId) :=
      fun s q hcaller hnone => not_or.mpr ⟨hcaller, not_isLeftover hnone⟩
    have hblocked : ViewCallerId.enterContextRoot ≠ .enterParent := nofun
    have hfound : numberedLists.Unlocked ⟨6⟩ ⟨6⟩ ∧
        (numberedLists.SameList ⟨6⟩ ⟨6⟩ → (⟨6⟩ : ListId) = ⟨6⟩) :=
      ⟨ListHierarchy.unlocked_boundary _, fun _ => rfl⟩
    have hchild : (⟨7⟩ : ListId) = ⟨6⟩ → (⟨7⟩ : ListId) = ⟨6⟩ := id
    refine .cons_of_step trivial rfl <| .cons_of_step trivial rfl <| .cons_of_step trivial rfl <|
      .cons_of_step (fun _ _ => hblocked) rfl <| .cons_of_step trivial rfl <|
      .cons_of_step (fun _ _ => hfound) rfl <| .cons_of_step trivial rfl <|
      .cons_of_step trivial rfl <|
      .cons_of_step (fun _ _ => ⟨fun hleft => absurd hleft (hours _ nofun rfl), hchild⟩) rfl <|
      .cons_of_step trivial rfl <| .cons_of_step (fun _ _ _ => rfl) rfl <|
      .cons_of_step (fun _ _ => ⟨fun hleft => absurd hleft (hours _ nofun rfl), fun _ => rfl⟩) rfl
        trivial

/-- The jump to the context's root list passes through the list which holds it while access is not
blocked any more, and there the user goes back. -/
theorem parent_of_hidden_list_entered :
    ¬ ∀ (lists : ListHierarchy ListId) (es : List ViewEvent),
      AlongRun step (fun s e => s.Answers lists e) {} es →
        AlongRun step (fun s e => s.BoundaryKept lists e) {} es := by
  intro h
  have hrun := h numberedLists
    (entersContext ++
      [.pointToRootDirectory (.failed .internal) {}, .contextRootResult (.ok ⟨5⟩) {},
        entered .enterContextRoot ⟨5⟩, .pointToParentLink, .parentIdResult (.ok ⟨4⟩) {}])
    (.cons_of_step trivial rfl <| .cons_of_step trivial rfl <| .cons_of_step trivial rfl <|
      .cons_of_step trivial rfl <| .cons_of_step (fun _ _ _ _ => ⟨rfl, rfl, rfl⟩) rfl <|
      .cons_of_step trivial rfl <| .cons_of_step trivial rfl <| .cons_of_step trivial rfl <|
      .cons_of_step trivial rfl <| .cons_of_step trivial rfl <|
      .cons_of_step (fun _ => ⟨rfl, rfl, rfl⟩) rfl trivial)
  have hlast : numberedLists.Unlocked ⟨6⟩ ⟨4⟩ :=
    (((((((((((hrun.2 _ rfl).2 _ rfl).2 _ rfl).2 _ rfl).2 _ rfl).2 _ rfl).2 _ rfl).2 _ rfl).2 _
      rfl).2 _ rfl).1.entered nofun ⟨4⟩ ⟨rfl, rfl, rfl⟩).2
  exact Foundation.not_below_of_parent_none rfl (by decide) hlast

end Browsing

end Drcpd.Browser

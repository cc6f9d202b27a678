/-
  Browser/ContextBoundary.lean --- the boundary of a context (`ContextRestriction`).

  A view can be restricted to the lists of a context: the root list of the context is the boundary,
  whose parent must not be entered.  The restriction blocks access as long as the boundary is not
  known.  It is asked only where the parent of the current list is about to be requested.

  The lists of the list broker form a hierarchy.  A list keeps its place there when it gets a new
  ID, so that several IDs may stand for the same list.
-/
import Drcpd.Foundation.Ancestors
import Drcpd.Browser.ContextJump

set_option autoImplicit false

namespace Drcpd.Browser

open Drcpd.Lists (OpResult)

/-! ## The lists of the list broker -/

/-- The lists, and how they have been entered one from the other. -/
structure ListHierarchy (ι : Type*) where
  /-- The list an ID stands for.  IDs are not used again for other lists. -/
  listOf : ListId → ι
  parent : ι → Option ι

namespace ListHierarchy

variable {ι : Type*} (lists : ListHierarchy ι)

/-- The two IDs stand for the same list. -/
def SameList (a b : ListId) : Prop := lists.listOf a = lists.listOf b

/-- The list is the boundary, or it is below it. -/
def Unlocked (boundary listId : ListId) : Prop :=
  Foundation.Below lists.parent (lists.listOf boundary) (lists.listOf listId)

/-- `parentId` and `childId` are the IDs of a list and one of its children. -/
structure IsParent (parentId childId : ListId) : Prop where
  parentValid : parentId.isValid = true
  childValid : childId.isValid = true
  parent : lists.parent (lists.listOf childId) = some (lists.listOf parentId)

variable {lists} {boundary boundary' listId parentId childId : ListId}

theorem unlocked_boundary (boundary : ListId) : lists.Unlocked boundary boundary :=
  Foundation.below_self _ _

theorem Unlocked.child (h : lists.Unlocked boundary listId)
    (hchild : lists.IsParent listId childId) :
    lists.Unlocked boundary childId :=
  Foundation.Below.to_child h hchild.parent

theorem Unlocked.parent (h : lists.Unlocked boundary listId)
    (hboundary : ¬lists.SameList listId boundary) (hparent : lists.IsParent parentId listId) :
    lists.Unlocked boundary parentId :=
  Foundation.Below.to_parent h hboundary hparent.parent

theorem Unlocked.of_same (h : lists.Unlocked boundary listId) {other : ListId}
    (hsame : lists.SameList other listId) : lists.Unlocked boundary other := by
  unfold Unlocked
  rw [hsame]
  exact h

theorem Unlocked.of_same_boundary (h : lists.Unlocked boundary listId)
    (hsame : lists.SameList boundary' boundary) : lists.Unlocked boundary' listId := by
  unfold Unlocked
  rw [hsame]
  exact h

end ListHierarchy

/-! ## Restricted views -/

namespace View

/-- The view is restricted to a context. -/
def IsRestricted (v : View) : Prop := v.contextRestriction.contextId ≠ none

/-- `point_to_parent_link` gets past its check, and a request is sent. -/
def requestsParent (v : View) : ViewEvent → Bool
  | .pointToParentLink => !v.contextRestriction.isBoundary v.currentListId
  | .setListContextRoot _ | .pointToRootDirectory _ _ | .pointToChildDirectory _ _
  | .listInvalidate _ _ _ _ _ | .contextRootResult _ _ | .parentIdResult _ _
  | .listIdResult _ _ | .enterListResult _ _ _ _ _ _ => false

/-- The jump ends with the context's root list, and the boundary is set. -/
def endsJump (v : View) : ViewEvent → Bool
  | .enterListResult q _ result _ _ _ =>
      decide (result = .succeeded ∧ q.callerId = .enterContextRoot ∧
        v.jump.state = .enterContextList)
  | .pointToParentLink | .setListContextRoot _ | .pointToRootDirectory _ _
  | .pointToChildDirectory _ _ | .listInvalidate _ _ _ _ _ | .contextRootResult _ _
  | .parentIdResult _ _ | .listIdResult _ _ => false

/-- A list is entered as the parent of another one: a query for it is started, or has succeeded. -/
def EntersParent (v : View) (listId : ListId) : ViewEvent → Prop
  | .parentIdResult (.ok parentId) _ =>
      v.getParentId = true ∧ parentId.isValid = true ∧ parentId = listId
  | .enterListResult q isOutdated result _ _ _ =>
      result = .succeeded ∧ (v.takeQuery q isOutdated).isSome = true ∧
        q = ⟨.enterParent, listId⟩
  | .parentIdResult (.error _) _ | .pointToParentLink | .setListContextRoot _
  | .pointToRootDirectory _ _ | .pointToChildDirectory _ _ | .listInvalidate _ _ _ _ _
  | .contextRootResult _ _ | .listIdResult _ _ => False

end View

/-- A view, and for which lists its calls have been made. -/
structure Browsing where
  view : View := {}
  /-- The list whose parent has been requested. -/
  parentCall : ListId := {}
  /-- The list a child of which has been requested: the current list, which may get another ID, or
  be lost, but not change as long as there is a call in `get_list_id_`. -/
  childCall : ListId := {}
  /-- The queries which were still to be reported when the boundary was set. -/
  leftover : List ListQuery := []

namespace Browsing

/-- One step of the view. -/
def step (s : Browsing) (e : ViewEvent) : Option Browsing :=
  (s.view.step e).map fun v =>
    { view := v
      parentCall := if s.view.requestsParent e then s.view.currentListId else s.parentCall
      childCall :=
        match e with
        | .pointToChildDirectory _ _ => s.view.currentListId
        | .setListContextRoot _ | .pointToRootDirectory _ _ | .pointToParentLink
        | .listInvalidate _ _ _ _ _ | .contextRootResult _ _ | .parentIdResult _ _
        | .listIdResult _ _ | .enterListResult _ _ _ _ _ _ =>
            if v.currentListId.isValid then v.currentListId else s.childCall
      leftover := if s.view.endsJump e then v.queries else s.leftover }

variable {ι : Type*} (lists : ListHierarchy ι)

/-- What the list broker says about its lists is true. -/
def Answers (s : Browsing) : ViewEvent → Prop
  | .parentIdResult (.ok listId) _ =>
      listId.isValid = true → lists.IsParent listId s.parentCall
  | .listIdResult (.ok result) _ =>
      result.listId.isValid = true →
        ∀ call, s.view.getListId = some call → call.target = .childDirectory →
          lists.IsParent s.childCall result.listId
  | .pointToChildDirectory (.fastPath result) _ =>
      result.listId.isValid = true → lists.IsParent s.view.currentListId result.listId
  | .enterListResult q _ _ (.fastPath result) _ _ =>
      result.listId.isValid = true → lists.IsParent q.listId result.listId
  | .listInvalidate listId replacementId _ _ _ =>
      replacementId.isValid = true → lists.SameList replacementId listId
  | .parentIdResult (.error _) _ | .listIdResult (.error _) _ | .setListContextRoot _
  | .pointToRootDirectory _ _ | .pointToParentLink | .contextRootResult _ _ => True
  | .pointToChildDirectory (.cookie _) _ | .pointToChildDirectory (.unmanaged _ _) _
  | .pointToChildDirectory (.fastPathThrows _) _ | .pointToChildDirectory (.failed _) _ => True
  | .enterListResult _ _ _ (.cookie _) _ _ | .enterListResult _ _ _ (.unmanaged _ _) _ _
  | .enterListResult _ _ _ (.fastPathThrows _) _ _ | .enterListResult _ _ _ (.failed _) _ _ => True

/-- What is expected of a step: the restriction keeps the user from leaving the context upwards. -/
structure BoundaryKept (s : Browsing) (e : ViewEvent) : Prop where
  requested : s.view.IsRestricted → s.view.requestsParent e = true →
    s.view.contextRestriction.isBlocked = false ∧
      s.view.currentListId ≠ s.view.contextRestriction.rootListId ∧
      (s.view.currentListId.isValid = true →
        ¬lists.SameList s.view.currentListId s.view.contextRestriction.rootListId)
  entered : s.view.IsRestricted → ∀ listId, s.view.EntersParent listId e →
    s.view.contextRestriction.isBlocked = false ∧
      lists.Unlocked s.view.contextRestriction.rootListId listId

/-- There was a query for the list when the boundary was set. -/
def IsLeftover (s : Browsing) (listId : ListId) : Prop :=
  ∃ q ∈ s.leftover, lists.SameList q.listId listId

/-- The condition on a step. -/
def Fits (s : Browsing) : ViewEvent → Prop
  | .parentIdResult (.ok listId) _ =>
      s.view.IsRestricted → s.view.getParentId = true → listId.isValid = true →
        s.view.contextRestriction.isBlocked = false
  | .enterListResult q isOutdated .succeeded _ _ _ =>
      s.view.IsRestricted → (s.view.takeQuery q isOutdated).isSome = true →
        if q.callerId = .enterContextRoot ∧ s.view.jump.state = .enterContextList then
          lists.Unlocked s.view.jump.contextListId q.listId ∧
            (lists.SameList q.listId s.view.jump.contextListId →
              q.listId = s.view.jump.contextListId)
        else if s.view.contextRestriction.isBlocked then q.callerId ≠ .enterParent
        else
          (q.callerId = .enterContextRoot ∨ s.IsLeftover lists q.listId →
            lists.Unlocked s.view.contextRestriction.rootListId q.listId) ∧
            (lists.SameList q.listId s.view.contextRestriction.rootListId →
              q.listId = s.view.contextRestriction.rootListId)
  | .parentIdResult (.error _) _ | .setListContextRoot _ | .pointToRootDirectory _ _
  | .pointToChildDirectory _ _ | .pointToParentLink | .listInvalidate _ _ _ _ _
  | .contextRootResult _ _ | .listIdResult _ _ => True
  | .enterListResult _ _ .failed _ _ _ | .enterListResult _ _ .canceled _ _ _
  | .enterListResult _ _ .started _ _ _ | .enterListResult _ _ .busy _ _ _ => True

end Browsing

end Drcpd.Browser

/-
  Crawler/ListIds.lean --- which lists an operation refers to.

  The list IDs in the cursor of an operation come from the cursor it was made with and from
  the answers of the list broker.  An operation which refers to none of the given lists, and is
  told of none of them, goes on to refer to none of them, and asks for none to be entered.
-/
import Drcpd.Crawler.Iface

set_option autoImplicit false

namespace Drcpd.Crawler

open Drcpd.Lists

variable {gone : List ListId}

/-- The cursor refers to none of the lists. -/
structure Cursor.Avoids (gone : List ListId) (c : Cursor) : Prop where
  listId : c.listId ∉ gone
  requestedListId : c.requestedListId ∉ gone

/-- The list broker names none of the lists. -/
def AnswersAvoid (gone : List ListId) (answers : FindNextOp → ListAnswers) : Prop :=
  ∀ op, (answers op).child.1 ∉ gone ∧ ∀ parent, (answers op).parent = some parent → parent.1 ∉ gone

namespace Cursor

/-- Moving the cursor. -/
theorem Avoids.of_same {c c' : Cursor} (h : c.Avoids gone) (hlist : c'.listId = c.listId)
    (hrequested : c'.requestedListId = c.requestedListId) : c'.Avoids gone :=
  ⟨hlist ▸ h.listId, hrequested ▸ h.requestedListId⟩

theorem Avoids.checkSelection {c : Cursor} (h : c.Avoids gone) (visibleItems : Nat) :
    (c.checkSelection visibleItems).Avoids gone := by
  unfold Cursor.checkSelection
  split
  · exact h.of_same rfl rfl
  · exact h

theorem Avoids.advance {c : Cursor} (h : c.Avoids gone) (direction : Direction)
    (visibleItems : Nat) : (c.advance direction visibleItems).2.Avoids gone := by
  have hchecked := h.checkSelection visibleItems
  cases direction with
  | none => exact h
  | forward =>
    unfold Cursor.advance Cursor.down
    dsimp only
    split
    · exact hchecked
    · split
      · exact hchecked
      · exact hchecked.of_same rfl rfl
  | backward =>
    unfold Cursor.advance Cursor.up
    dsimp only
    split
    · exact hchecked
    · exact hchecked
    · exact hchecked.of_same rfl rfl

end Cursor

namespace FindNextOp

/-- What a part of a search leaves. -/
structure Avoids (gone : List ListId) (op : FindNextOp) (requests : Requests) : Prop where
  position : op.position.Avoids gone
  query : ∀ query, requests.query = some query → query.listId ∉ gone

variable {op : FindNextOp} {answers : FindNextOp → ListAnswers}

theorem Avoids.stop (h : op.position.Avoids gone) : op.Avoids gone {} :=
  ⟨h, nofun⟩

theorem avoids_enterList (h : op.position.Avoids gone) (callerId : CallerId) {listId : ListId}
    (hlist : listId ∉ gone) (line : Nat) (enter : OpResult) :
    (op.enterList callerId listId line enter).2.1.Avoids gone
      (op.enterList callerId listId line enter).2.2 := by
  have hposition : Cursor.Avoids gone
      { op.position with requestedListId := listId, requestedLine := line } :=
    ⟨h.listId, hlist⟩
  unfold enterList
  cases enter with
  | started =>
    refine ⟨hposition, fun query hquery => ?_⟩
    cases hquery
    exact hlist
  | _ => exact ⟨hposition, nofun⟩

theorem avoids_continueSearch {a : ListAnswers} (h : op.position.Avoids gone)
    (hparent : ∀ parent, a.parent = some parent → parent.1 ∉ gone) :
    (op.continueSearch a).2.1.Avoids gone (op.continueSearch a).2.2 := by
  have hmoved := h.advance op.direction a.visibleItems
  unfold continueSearch
  dsimp only
  split_ifs
  · exact .stop hmoved
  · exact .stop hmoved
  · exact .stop hmoved
  · split
    · exact .stop hmoved
    · next listId itemId hsome =>
      split_ifs
      · exact avoids_enterList hmoved _ (hparent _ hsome) itemId _
      · exact .stop hmoved

theorem avoids_useItem {a : ListAnswers} (h : op.position.Avoids gone)
    (hchild : a.child.1 ∉ gone) (hparent : ∀ parent, a.parent = some parent → parent.1 ∉ gone)
    (isDirectory : Bool) :
    (op.useItem a isDirectory).2.1.Avoids gone (op.useItem a isDirectory).2.2 := by
  unfold useItem
  split_ifs
  · exact .stop h
  · exact .stop h
  · exact avoids_continueSearch h hparent
  · exact avoids_enterList h _ hchild 0 _
  · exact .stop h
  · exact avoids_continueSearch h hparent

theorem avoids_finishWithCurrentItemOrContinue {a : ListAnswers} (h : op.position.Avoids gone)
    (hchild : a.child.1 ∉ gone) (hparent : ∀ parent, a.parent = some parent → parent.1 ∉ gone) :
    (op.finishWithCurrentItemOrContinue a).2.1.Avoids gone
      (op.finishWithCurrentItemOrContinue a).2.2 := by
  have haccess : (op.accessItem a).2.1.Avoids gone (op.accessItem a).2.2 := by
    have hchecked := h.checkSelection a.visibleItems
    unfold accessItem
    split
    · exact .stop h
    · exact .stop h
    · exact .stop h
    · exact .stop h
    · dsimp only
      split
      · exact avoids_useItem hchecked hchild hparent _
      · exact .stop hchecked
      · exact .stop hchecked
      · exact .stop hchecked
      · exact .stop hchecked
      · exact .stop hchecked
  unfold finishWithCurrentItemOrContinue
  split_ifs
  · exact .stop h
  · exact avoids_continueSearch h hparent
  · exact ⟨haccess.position, haccess.query⟩

theorem avoids_finish (h : op.position.Avoids gone) (isSuccessful : Bool) :
    (op.finish isSuccessful).1.Avoids gone (op.finish isSuccessful).2.toRequests :=
  ⟨h, nofun⟩

theorem avoids_finishOpIfPossible {r : Continue × FindNextOp × Requests}
    (h : r.2.1.Avoids gone r.2.2) {done : FindNextOp × Effects}
    (hdone : finishOpIfPossible r = some done) : done.1.Avoids gone done.2.toRequests := by
  obtain ⟨cont, op, requests⟩ := r
  cases cont with
  | withThisItem => cases hdone
  | _ =>
    cases hdone
    exact ⟨h.position, h.query⟩

theorem avoids_runAsFarAsPossible (fuel : Nat) (h : op.position.Avoids gone)
    (hanswers : AnswersAvoid gone answers) {done : FindNextOp × Effects}
    (hdone : runAsFarAsPossible answers fuel op = some done) :
    done.1.Avoids gone done.2.toRequests := by
  induction fuel generalizing op done with
  | zero => cases hdone
  | succ fuel ih =>
    have hround := avoids_finishWithCurrentItemOrContinue h (hanswers op).1 (hanswers op).2
    unfold runAsFarAsPossible at hdone
    dsimp only at hdone
    split at hdone
    · next hfinished =>
      rw [hdone] at hfinished
      exact avoids_finishOpIfPossible hround hfinished
    · obtain ⟨run, hrun, rfl⟩ := Option.map_eq_some_iff.mp hdone
      have hrest := ih hround.position hrun
      exact ⟨hrest.position, hrest.query⟩

theorem avoids_continueSearchAndRun (fuel : Nat) {proceed : FindNextOp → FindNextOp}
    (hproceed : ∀ op, (proceed op).position = op.position) (h : op.position.Avoids gone)
    (hanswers : AnswersAvoid gone answers) {done : FindNextOp × Effects}
    (hdone : continueSearchAndRun answers fuel op proceed = some done) :
    done.1.Avoids gone done.2.toRequests := by
  have hround := avoids_continueSearch h (hanswers op).2
  unfold continueSearchAndRun at hdone
  dsimp only at hdone
  split at hdone
  · next hfinished =>
    rw [hdone] at hfinished
    exact avoids_finishOpIfPossible hround hfinished
  · refine avoids_runAsFarAsPossible fuel ?_ hanswers hdone
    rw [hproceed]
    exact hround.position

theorem avoids_hintedFn (fuel : Nat)
    (h : op.isOpActive = true → op.position.Avoids gone) (hanswers : AnswersAvoid gone answers)
    {done : FindNextOp × Effects} (hdone : op.hintedFn answers fuel = some done) :
    done = (op, {}) ∨ done.1.Avoids gone done.2.toRequests := by
  unfold hintedFn at hdone
  split at hdone
  · next hactive =>
    have hwaited : Cursor.Avoids gone { op with isWaitingForItemHint := false }.position :=
      h hactive
    exact Or.inr (avoids_runAsFarAsPossible fuel hwaited hanswers hdone)
  · exact Or.inl (Option.some.inj hdone).symm

theorem avoids_continueRunning (fuel : Nat) (h : op.position.Avoids gone)
    (hanswers : AnswersAvoid gone answers) {done : FindNextOp × Effects}
    (hdone : op.continueRunning answers fuel = some done) :
    done.1.Avoids gone done.2.toRequests := by
  unfold continueRunning at hdone
  split at hdone
  · unfold doContinue at hdone
    split at hdone
    · exact avoids_runAsFarAsPossible fuel h hanswers hdone
    · refine avoids_continueSearchAndRun fuel ?_ h hanswers hdone
      exact fun _ => rfl
  · cases hdone
    exact avoids_finish h false
  all_goals
    cases hdone
    exact .stop h

/-- The list that has been asked for is entered. -/
theorem avoids_enteredList (fuel : Nat) (callerId : CallerId) (lines : Option Nat)
    (h : op.position.Avoids gone) (hanswers : AnswersAvoid gone answers)
    {done : FindNextOp × Effects}
    (hdone : op.enteredList answers fuel callerId lines = some done) :
    done.1.Avoids gone done.2.toRequests := by
  have hsync : ∀ depth, (op.position.syncListIdWithRequest depth).Avoids gone := fun _ =>
    ⟨h.requestedListId, h.requestedListId⟩
  have hfirst : ∀ depth, op.enteredFirstList answers fuel depth lines = some done →
      done.1.Avoids gone done.2.toRequests := by
    intro depth hentered
    unfold enteredFirstList at hentered
    cases lines with
    | none =>
      cases hentered
      exact avoids_finish h false
    | some lines =>
      dsimp only at hentered
      split at hentered
      · cases hentered
        exact ⟨hsync depth, nofun⟩
      · exact avoids_runAsFarAsPossible fuel (hsync depth) hanswers hentered
  unfold enteredList at hdone
  cases callerId with
  | crawlerResetPosition => exact hfirst _ hdone
  | crawlerFirstEntry => exact hfirst _ hdone
  | crawlerDescend =>
    cases lines with
    | none => exact avoids_continueSearchAndRun fuel (fun _ => rfl) h hanswers hdone
    | some lines =>
      dsimp only at hdone
      split at hdone
      · exact avoids_continueSearchAndRun fuel (fun _ => rfl) (hsync _) hanswers hdone
      · exact avoids_runAsFarAsPossible fuel (hsync _) hanswers hdone
  | crawlerAscend =>
    cases lines with
    | none =>
      cases hdone
      exact avoids_finish h false
    | some lines =>
      dsimp only at hdone
      split at hdone
      · cases hdone
        exact ⟨hsync _, nofun⟩
      · exact avoids_runAsFarAsPossible fuel (hsync _) hanswers hdone
  | _ =>
    cases hdone
    exact avoids_finish h false

theorem avoids_enterListEvent (fuel : Nat) (result : OpResult) (callerId : CallerId) (lines : Nat)
    (h : op.position.Avoids gone) (hanswers : AnswersAvoid gone answers)
    {done : FindNextOp × Effects}
    (hdone : op.enterListEvent answers fuel result callerId lines = some done) :
    done.1.Avoids gone done.2.toRequests := by
  unfold enterListEvent at hdone
  cases result with
  | succeeded =>
    have hmoved : (op.updateNavigation callerId lines).position.Avoids gone := h.of_same rfl rfl
    exact avoids_enteredList fuel callerId _ hmoved hanswers hdone
  | failed => exact avoids_enteredList fuel callerId none h hanswers hdone
  | _ =>
    cases hdone
    exact .stop h

/-- An operation is started where it has been left, with a query for the list it is to be
in. -/
theorem avoids_start (h : op.position.Avoids gone) (listId : ListId) (enter : OpResult) :
    (op.start listId enter).2.1.Avoids gone (op.start listId enter).2.2.toRequests := by
  unfold start
  split
  · exact .stop h
  · dsimp only
    split
    · next effects hstart =>
      refine ⟨h, fun query hquery => ?_⟩
      unfold doStart at hstart
      split at hstart
      · cases hstart
        cases hquery
      · cases enter with
        | started =>
          cases hstart
          cases hquery
          exact h.requestedListId
        | _ => cases hstart
    · exact .stop h

end FindNextOp

/-! ## All operations -/

/-- The operation may still ask for something. -/
def OpRecord.IsLive (r : OpRecord) : Prop :=
  r.isContained = true ∨ r.op.state = .running ∨ r.delayed.isSome = true

/-- An operation refers to none of the lists as long as it may ask for something, and no list
it has asked for is one of them. -/
structure OpRecord.Avoids (gone : List ListId) (r : OpRecord) : Prop where
  position : r.IsLive → r.op.position.Avoids gone
  queries : ∀ query ∈ r.queries, query.listId ∉ gone

/-- What an event tells about lists is about other lists. -/
def CrawlerEvent.Avoids (gone : List ListId) (s : Iface) : CrawlerEvent → Prop
  | .run op _ _ _ => (s.ops op).op.position.Avoids gone
  | .enterListResult _ _ _ _ _ answers _ | .hintDone _ answers _ | .yielded _ answers _ =>
      AnswersAvoid gone answers
  | .timer _ _ _ | .cancel _ | .completed _ | .deactivate => True

namespace OpRecord

variable {r : OpRecord}

theorem Avoids.update (h : r.Avoids gone) {done : FindNextOp × Effects}
    (hdone : done.1.Avoids gone done.2.toRequests) : (r.update done).Avoids gone where
  position := fun _ => hdone.position
  queries := fun query hquery => by
    rcases List.mem_append.mp hquery with hold | hnew
    · exact h.queries query hold
    · exact hdone.query query (Option.mem_toList.mp hnew)

theorem Avoids.of_same {r' : OpRecord} (h : r.Avoids gone)
    (hposition : r'.op.position = r.op.position) (hlive : r'.IsLive → r.IsLive)
    (hqueries : ∀ query ∈ r'.queries, query ∈ r.queries) : r'.Avoids gone where
  position := fun hlive' => hposition ▸ h.position (hlive hlive')
  queries := fun query hquery => h.queries query (hqueries query hquery)

/-- A cancelled operation is not running. -/
theorem cancel_live (hlive : r.cancel.IsLive) : r.IsLive := by
  rcases hlive with hcontained | hrunning | hdelayed
  · exact Or.inl hcontained
  · exact absurd hrunning (OperationBase.cancel_state r.op.toOperationBase).2
  · exact Or.inr (Or.inr hdelayed)

theorem Avoids.cancel (h : r.Avoids gone) : r.cancel.Avoids gone :=
  h.of_same rfl cancel_live fun _ hquery => hquery

theorem Avoids.start (h : r.Avoids gone) (hposition : r.op.position.Avoids gone)
    (listId : ListId) (enter : OpResult) : (r.start listId enter).Avoids gone := by
  have hstarted := FindNextOp.avoids_start hposition listId enter
  unfold OpRecord.start
  split
  · next started heq =>
    rw [heq] at hstarted
    exact h.update hstarted
  · next started heq =>
    rw [heq] at hstarted
    have hupdated := h.update hstarted
    exact ⟨fun _ => hstarted.position, hupdated.queries⟩

/-- An operation that has been cancelled is not started any more. -/
theorem Avoids.cancelDelayed (h : r.Avoids gone) (listId : ListId) (enter : OpResult) :
    (r.cancelDelayed listId enter).Avoids gone := by
  have hnot := OperationBase.cancel_state r.op.toOperationBase
  unfold OpRecord.cancelDelayed
  rw [start_eq_of_started hnot.1]
  refine h.of_same rfl (fun hlive => ?_) fun _ hquery => hquery
  rcases hlive with hcontained | hrunning | hdelayed
  · cases hcontained
  · exact absurd hrunning hnot.2
  · rw [Option.isSome_map] at hdelayed
    exact Or.inr (Or.inr hdelayed)

end OpRecord

namespace Iface

/-- All operations refer to other lists. -/
def Avoids (gone : List ListId) (s : Iface) : Prop := ∀ op, (s.ops op).Avoids gone

variable {s s' : Iface}

theorem Avoids.setOp (h : s.Avoids gone) (op : OpId) {r : OpRecord} (hr : r.Avoids gone) :
    (s.setOp op r).Avoids gone := by
  intro other
  unfold Iface.setOp
  dsimp only
  by_cases heq : other = op
  · subst heq
    rw [Function.update_self]
    exact hr
  · rw [Function.update_of_ne heq]
    exact h other

theorem Avoids.run (h : s.Avoids gone) (op : OpId) (isDelayed : Bool)
    (hposition : (s.ops op).op.position.Avoids gone) (listId : ListId) (enter : OpResult) :
    (s.run op isDelayed listId enter).Avoids gone := by
  have hrecord : OpRecord.Avoids gone { s.ops op with wasRun := true, isContained := true } :=
    ⟨fun _ => hposition, (h op).queries⟩
  unfold Iface.run
  dsimp only
  split
  · split
    · exact h.setOp op ⟨fun _ => hposition, (h op).queries⟩
    · next waiting _ =>
      exact (h.setOp waiting ((h waiting).cancelDelayed listId enter)).setOp op
        ⟨fun _ => hposition, (h op).queries⟩
  · exact h.setOp op (hrecord.start hposition listId enter)

theorem Avoids.runDelayed (h : s.Avoids gone) (op : OpId) (isActive : Bool)
    (hdelayed : (s.ops op).delayed = some isActive) (listId : ListId) (enter : OpResult) :
    (s.runDelayed op isActive listId enter).Avoids gone := by
  have hlive : (s.ops op).IsLive := Or.inr (Or.inr (Option.isSome_of_eq_some hdelayed))
  have hrecord : OpRecord.Avoids gone { s.ops op with delayed := none } :=
    ⟨fun _ => (h op).position hlive, (h op).queries⟩
  refine h.setOp op ?_
  unfold OpRecord.runDelayed
  cases isActive with
  | true => exact hrecord.start ((h op).position hlive) listId enter
  | false => exact hrecord

theorem Avoids.takeQuery (h : s.Avoids gone) (owner : OpId) (query : EnterListParameters) :
    (s.takeQuery owner query).Avoids gone :=
  h.setOp owner ((h owner).of_same rfl (fun hlive => hlive) fun _ hquery =>
    List.mem_of_mem_erase hquery)

/-- A step keeps all operations away from the lists. -/
theorem Avoids.step (h : s.Avoids gone) {e : CrawlerEvent} (he : e.Avoids gone s)
    (hstep : s.step e = some s') : s'.Avoids gone := by
  cases e with
  | run op isDelayed listId enter =>
    obtain ⟨-, hmade⟩ := Option.ite_none_left_eq_some.mp hstep
    cases hmade
    exact h.run op isDelayed he listId enter
  | timer op listId enter =>
    obtain ⟨isActive, hdelayed, hmade⟩ := Option.map_eq_some_iff.mp hstep
    cases hmade
    exact h.runDelayed op isActive hdelayed listId enter
  | cancel op =>
    cases hstep
    exact h.setOp op (h op).cancel
  | enterListResult owner query target result lines answers fuel =>
    obtain ⟨-, hmade⟩ := Option.ite_none_left_eq_some.mp hstep
    have htaken := h.takeQuery owner query
    cases target with
    | none =>
      obtain ⟨-, hmade⟩ := Option.ite_none_left_eq_some.mp hmade
      cases hmade
      exact htaken
    | some op =>
      obtain ⟨hfinds, hmade⟩ := Option.ite_none_right_eq_some.mp hmade
      obtain ⟨done, hdone, hmade⟩ := Option.map_eq_some_iff.mp hmade
      cases hmade
      refine htaken.setOp op ((htaken op).update ?_)
      exact FindNextOp.avoids_enterListEvent fuel result _ lines
        ((htaken op).position (Or.inl hfinds.1)) he hdone
  | hintDone op answers fuel =>
    obtain ⟨-, hmade⟩ := Option.ite_none_left_eq_some.mp hstep
    obtain ⟨done, hdone, hmade⟩ := Option.map_eq_some_iff.mp hmade
    cases hmade
    have hrecord : OpRecord.Avoids gone
        { s.ops op with hinted := (s.ops op).hinted - 1 } :=
      ⟨(h op).position, (h op).queries⟩
    refine h.setOp op ?_
    rcases FindNextOp.avoids_hintedFn fuel (fun hactive => (h op).position
      (Or.inr (Or.inl (of_decide_eq_true hactive)))) he hdone with hsame | hclean
    · subst hsame
      refine hrecord.of_same rfl (fun hlive => hlive) fun query hquery => ?_
      rcases List.mem_append.mp hquery with hold | hnew
      · exact hold
      · cases hnew
    · exact hrecord.update hclean
  | yielded op answers fuel =>
    obtain ⟨-, hmade⟩ := Option.ite_none_left_eq_some.mp hstep
    obtain ⟨r, hr, hmade⟩ := Option.map_eq_some_iff.mp hmade
    cases hmade
    have hrecord : OpRecord.Avoids gone
        { s.ops op with yielded := (s.ops op).yielded - 1 } :=
      ⟨(h op).position, (h op).queries⟩
    refine h.setOp op ?_
    unfold OpRecord.yieldedNotification at hr
    split at hr
    · next hcontained =>
      obtain ⟨done, hdone, hmade⟩ := Option.map_eq_some_iff.mp hr
      cases hmade
      exact hrecord.update (FindNextOp.avoids_continueRunning fuel
        (hrecord.position (Or.inl hcontained)) he hdone)
    · cases hr
      exact hrecord
  | completed op =>
    obtain ⟨-, hmade⟩ := Option.ite_none_left_eq_some.mp hstep
    cases hmade
    refine h.setOp op ?_
    unfold OpRecord.completeNotification
    split
    · next hcontained =>
      exact ⟨fun _ => (h op).position (Or.inl hcontained), (h op).queries⟩
    · exact ⟨(h op).position, (h op).queries⟩
  | deactivate =>
    cases hstep
    intro op
    unfold Iface.deactivate
    dsimp only
    split
    · next hcontained =>
      exact ⟨fun _ => (h op).position (Or.inl hcontained), (h op).queries⟩
    · exact h op

end Iface

end Drcpd.Crawler

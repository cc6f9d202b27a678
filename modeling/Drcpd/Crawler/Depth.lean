/-
  Crawler/Depth.lean --- what a search does to the depth counted by an operation.

  A search by itself keeps the depth: it changes only when a list has been entered.  A
  directory is entered below the maximum depth only, and the parent of a list only from
  depth 2 on.  The end of a list is reported at depth 1 and above.
-/
import Drcpd.Crawler.FindNextOp

set_option autoImplicit false

namespace Drcpd.Crawler

open Drcpd.Lists

/-- `REACHED_END_OF_LIST` or `REACHED_START_OF_LIST`. -/
def PositionalState.IsReached (posState : PositionalState) : Prop :=
  posState = .reachedEndOfList ∨ posState = .reachedStartOfList

/-- A list that may be entered at the given depth. -/
def EnterListParameters.FitsDepth (query : EnterListParameters) (depth : Nat) : Prop :=
  (query.callerId = .crawlerDescend ∧ depth < maxDirectoryDepth) ∨
    (query.callerId = .crawlerAscend ∧ 2 ≤ depth)

namespace FindNextOp

/-- The cursor cannot be moved on in a list with the given number of items, and is where
the operation has left it. -/
def AtEndOf (op : FindNextOp) (visibleItems : Nat) : Prop :=
  ∃ position : Cursor, position.advance op.direction visibleItems = (false, op.position)

/-- What a part of a search keeps, where it learns of the given number of items. -/
structure Keeps (op : FindNextOp) (visibleItems : Nat) (r : Continue × FindNextOp × Requests) :
    Prop where
  base : r.2.1.toOperationBase = op.toOperationBase
  depth : r.2.1.directoryDepth = op.directoryDepth
  direction : r.2.1.direction = op.direction
  position_depth : r.2.1.position.directoryDepth = op.position.directoryDepth
  query : ∀ query, r.2.2.query = some query → query.FitsDepth op.directoryDepth
  reached : r.2.1.posState.IsReached → op.posState.IsReached ∨
    (r.1 = .notWithSuccess ∧ op.directoryDepth ≤ 1 ∧ r.2.1.AtEndOf visibleItems)

/-- The end of the list the operation is in, as far as the answers say. -/
def AtEndBy (answers : FindNextOp → ListAnswers) (op : FindNextOp) : Prop :=
  ∃ before, op.AtEndOf (answers before).visibleItems

/-- What a whole search keeps.  If it reports the end of a list, then the operation has
finished there. -/
structure RunKeeps (op : FindNextOp) (atEnd : FindNextOp → Prop)
    (done : FindNextOp × Effects) : Prop where
  depth : done.1.directoryDepth = op.directoryDepth
  direction : done.1.direction = op.direction
  position_depth : done.1.position.directoryDepth = op.position.directoryDepth
  query : ∀ query, done.2.query = some query → query.FitsDepth op.directoryDepth
  notYielding : done.2.notification ≠ some (.sent .yielding)
  base : done.1.toOperationBase = op.toOperationBase ∨
    ∃ isSuccessful,
      done.1.toOperationBase = (op.toOperationBase.operationFinished isSuccessful).2
  reached : done.1.posState.IsReached → op.posState.IsReached ∨
    ((∃ isSuccessful,
        done.1.toOperationBase = (op.toOperationBase.operationFinished isSuccessful).2) ∧
      op.directoryDepth ≤ 1 ∧ atEnd done.1)

section Keeps

variable {op : FindNextOp} {a : ListAnswers}

theorem advance_depth (position : Cursor) (direction : Direction) (visibleItems : Nat) :
    (position.advance direction visibleItems).2.directoryDepth = position.directoryDepth := by
  have hcheck : (position.checkSelection visibleItems).directoryDepth =
      position.directoryDepth := by
    unfold Cursor.checkSelection
    split_ifs <;> rfl
  cases direction with
  | none => rfl
  | forward =>
    unfold Cursor.advance Cursor.down
    dsimp only
    split
    · exact hcheck
    · split_ifs
      · exact hcheck
      · exact hcheck
  | backward =>
    unfold Cursor.advance Cursor.up
    dsimp only
    split
    · exact hcheck
    · exact hcheck
    · exact hcheck

theorem checkSelection_depth (position : Cursor) (visibleItems : Nat) :
    (position.checkSelection visibleItems).directoryDepth = position.directoryDepth := by
  unfold Cursor.checkSelection
  split_ifs <;> rfl

/-- The search stops or goes on without anything asked for. -/
theorem Keeps.stop (cont : Continue) (visibleItems : Nat) :
    op.Keeps visibleItems (cont, op, {}) :=
  ⟨rfl, rfl, rfl, rfl, nofun, Or.inl⟩

/-- The rest of the operation does not matter. -/
theorem Keeps.of_same {op' : FindNextOp} {visibleItems : Nat}
    {r : Continue × FindNextOp × Requests} (h : op'.Keeps visibleItems r)
    (hbase : op'.toOperationBase = op.toOperationBase)
    (hdepth : op'.directoryDepth = op.directoryDepth)
    (hdirection : op'.direction = op.direction)
    (hposition : op'.position.directoryDepth = op.position.directoryDepth)
    (hposState : op'.posState = op.posState) : op.Keeps visibleItems r := by
  constructor
  · exact h.base.trans hbase
  · exact h.depth.trans hdepth
  · exact h.direction.trans hdirection
  · exact h.position_depth.trans hposition
  · rw [← hdepth]
    exact h.query
  · rw [← hdepth, ← hposState]
    exact h.reached

theorem enterList_keeps (callerId : CallerId) (listId : ListId) (line visibleItems : Nat)
    (enter : OpResult)
    (hfits : EnterListParameters.FitsDepth ⟨callerId, listId, line⟩ op.directoryDepth) :
    op.Keeps visibleItems (op.enterList callerId listId line enter) := by
  have hquery : ∀ query : EnterListParameters, some ⟨callerId, listId, line⟩ = some query →
      query.FitsDepth op.directoryDepth := by
    intro query heq
    obtain rfl := Option.some.inj heq
    exact hfits
  cases enter with
  | started => exact ⟨rfl, rfl, rfl, rfl, hquery, Or.inl⟩
  | _ => exact ⟨rfl, rfl, rfl, rfl, nofun, Or.inl⟩

theorem continueSearch_keeps : op.Keeps a.visibleItems (op.continueSearch a) := by
  have hposition := advance_depth op.position op.direction a.visibleItems
  unfold continueSearch
  dsimp only
  split_ifs with hmoved hnone hdepth
  · exact ⟨rfl, rfl, rfl, hposition, nofun, Or.inl⟩
  · refine ⟨rfl, rfl, rfl, hposition, nofun, ?_⟩
    rintro (hreached | hreached)
    · exact absurd hreached nofun
    · exact absurd hreached nofun
  · refine ⟨rfl, rfl, rfl, hposition, nofun, fun _ => Or.inr ⟨rfl, hdepth, op.position, ?_⟩⟩
    exact Prod.ext (Bool.eq_false_iff.mpr hmoved) rfl
  · split
    · exact ⟨rfl, rfl, rfl, hposition, nofun, Or.inl⟩
    · split_ifs
      · refine (enterList_keeps _ _ _ _ _ (Or.inr ⟨rfl, ?_⟩)).of_same rfl rfl rfl hposition rfl
        exact Nat.lt_of_not_le hdepth
      · exact ⟨rfl, rfl, rfl, hposition, nofun, Or.inl⟩

theorem useItem_keeps (isDirectory : Bool) :
    op.Keeps a.visibleItems (op.useItem a isDirectory) := by
  unfold useItem
  split_ifs with hfile hnone hskip hchild hhard
  · refine ⟨rfl, rfl, rfl, rfl, nofun, ?_⟩
    rintro (hreached | hreached)
    · exact absurd hreached nofun
    · exact absurd hreached nofun
  · exact Keeps.stop _ _
  · exact continueSearch_keeps
  · refine enterList_keeps _ _ _ _ _ (Or.inl ⟨rfl, ?_⟩)
    unfold checkSkipDirectory at hskip
    split at hskip
    · exact absurd rfl hskip
    · exact Nat.lt_of_not_le fun h => hskip (decide_eq_true h)
  · exact Keeps.stop _ _
  · exact continueSearch_keeps

theorem accessItem_keeps : op.Keeps a.visibleItems (op.accessItem a) := by
  unfold accessItem
  split
  · exact ⟨rfl, rfl, rfl, rfl, nofun, Or.inl⟩
  · exact Keeps.stop _ _
  · exact Keeps.stop _ _
  · exact Keeps.stop _ _
  · have hposition := checkSelection_depth op.position a.visibleItems
    dsimp only
    split
    · exact (useItem_keeps _).of_same rfl rfl rfl hposition rfl
    · exact ⟨rfl, rfl, rfl, hposition, nofun, Or.inl⟩
    · exact ⟨rfl, rfl, rfl, hposition, nofun, Or.inl⟩
    · exact ⟨rfl, rfl, rfl, hposition, nofun, Or.inl⟩
    · exact ⟨rfl, rfl, rfl, hposition, nofun, Or.inl⟩
    · exact ⟨rfl, rfl, rfl, hposition, nofun, Or.inl⟩

theorem finishWithCurrentItemOrContinue_keeps :
    op.Keeps a.visibleItems (op.finishWithCurrentItemOrContinue a) := by
  unfold finishWithCurrentItemOrContinue
  split_ifs
  · exact Keeps.stop _ _
  · exact continueSearch_keeps.of_same rfl rfl rfl rfl rfl
  · have haccess : op.Keeps a.visibleItems (op.accessItem a) := accessItem_keeps
    exact ⟨haccess.base, haccess.depth, haccess.direction, haccess.position_depth,
      haccess.query, haccess.reached⟩

end Keeps

/-! ## Whole searches -/

section RunKeeps

variable {op : FindNextOp} {atEnd : FindNextOp → Prop} {answers : FindNextOp → ListAnswers}

theorem operationFinished_notification (base : OperationBase) (isSuccessful : Bool) :
    (base.operationFinished isSuccessful).1 ≠ .sent .yielding := by
  unfold OperationBase.operationFinished OperationBase.notifyDone
  split
  · split_ifs <;> nofun
  · split_ifs <;> nofun
  · split_ifs <;> nofun
  · nofun
  · nofun
  · nofun

theorem finish_keeps (isSuccessful : Bool) : op.RunKeeps atEnd (op.finish isSuccessful) where
  depth := rfl
  direction := rfl
  position_depth := rfl
  query := nofun
  notYielding := fun h => operationFinished_notification _ _ (Option.some.inj h)
  base := Or.inr ⟨isSuccessful, rfl⟩
  reached := Or.inl

theorem finishOpIfPossible_keeps {before : FindNextOp} {r : Continue × FindNextOp × Requests}
    (h : op.Keeps (answers before).visibleItems r) {done : FindNextOp × Effects}
    (hdone : finishOpIfPossible r = some done) : op.RunKeeps (AtEndBy answers) done := by
  obtain ⟨cont, op', requests⟩ := r
  have hfinish : ∀ isSuccessful, op.RunKeeps (AtEndBy answers)
      ((op'.finish isSuccessful).1,
        { (op'.finish isSuccessful).2 with toRequests := requests }) := by
    intro isSuccessful
    have hbase : (op'.finish isSuccessful).1.toOperationBase =
        (op.toOperationBase.operationFinished isSuccessful).2 := by
      rw [← h.base]
      rfl
    exact
      { depth := h.depth
        direction := h.direction
        position_depth := h.position_depth
        query := h.query
        notYielding := fun h => operationFinished_notification _ _ (Option.some.inj h)
        base := Or.inr ⟨isSuccessful, hbase⟩
        reached := fun hreached => (h.reached hreached).imp_right
          fun ⟨_, hdepth, hend⟩ => ⟨⟨isSuccessful, hbase⟩, hdepth, before, hend⟩ }
  cases cont with
  | notWithError =>
    obtain rfl := Option.some.inj hdone
    exact hfinish false
  | notWithSuccess =>
    obtain rfl := Option.some.inj hdone
    exact hfinish true
  | later =>
    obtain rfl := Option.some.inj hdone
    refine ⟨h.depth, h.direction, h.position_depth, h.query, nofun, Or.inl h.base, ?_⟩
    intro hreached
    exact (h.reached hreached).imp_right fun ⟨hcont, _⟩ => absurd hcont nofun
  | withThisItem => exact absurd hdone nofun

/-- The search goes on with what a part of it has left. -/
theorem RunKeeps.after {r : Continue × FindNextOp × Requests} {visibleItems : Nat}
    (h : op.Keeps visibleItems r) (hcont : finishOpIfPossible r = none)
    {done : FindNextOp × Effects} (hdone : r.2.1.RunKeeps atEnd done) :
    op.RunKeeps atEnd done := by
  have hreached : r.2.1.posState.IsReached → op.posState.IsReached := by
    intro hreached
    refine (h.reached hreached).resolve_right fun ⟨hsuccess, _⟩ => ?_
    obtain ⟨cont, op', requests⟩ := r
    obtain rfl : cont = .notWithSuccess := hsuccess
    exact absurd hcont nofun
  exact
    { depth := hdone.depth.trans h.depth
      direction := hdone.direction.trans h.direction
      position_depth := hdone.position_depth.trans h.position_depth
      query := by
        rw [← h.depth]
        exact hdone.query
      notYielding := hdone.notYielding
      base := by
        rw [← h.base]
        exact hdone.base
      reached := by
        rw [← h.base, ← h.depth]
        exact fun hend => (hdone.reached hend).imp_left hreached }

theorem runAsFarAsPossible_keeps (fuel : Nat) {done : FindNextOp × Effects}
    (hdone : runAsFarAsPossible answers fuel op = some done) :
    op.RunKeeps (AtEndBy answers) done := by
  induction fuel generalizing op done with
  | zero => exact absurd hdone nofun
  | succ fuel ih =>
    have hkeeps : op.Keeps (answers op).visibleItems
        (op.finishWithCurrentItemOrContinue (answers op)) :=
      finishWithCurrentItemOrContinue_keeps
    unfold runAsFarAsPossible at hdone
    dsimp only at hdone
    split at hdone
    · rename_i hfinish
      rw [hdone] at hfinish
      exact finishOpIfPossible_keeps hkeeps hfinish
    · rename_i hcont
      obtain ⟨run, hrun, rfl⟩ := Option.map_eq_some_iff.mp hdone
      have hruns := RunKeeps.after hkeeps hcont (ih hrun)
      exact ⟨hruns.depth, hruns.direction, hruns.position_depth, hruns.query,
        hruns.notYielding, hruns.base, hruns.reached⟩

/-- The rest of the operation does not matter. -/
theorem RunKeeps.of_same {op' : FindNextOp} {done : FindNextOp × Effects}
    (h : op'.RunKeeps atEnd done) (hbase : op'.toOperationBase = op.toOperationBase)
    (hdepth : op'.directoryDepth = op.directoryDepth)
    (hdirection : op'.direction = op.direction)
    (hposition : op'.position.directoryDepth = op.position.directoryDepth)
    (hposState : op'.posState = op.posState) : op.RunKeeps atEnd done := by
  constructor
  · exact h.depth.trans hdepth
  · exact h.direction.trans hdirection
  · exact h.position_depth.trans hposition
  · rw [← hdepth]
    exact h.query
  · exact h.notYielding
  · rw [← hbase]
    exact h.base
  · rw [← hdepth, ← hposState, ← hbase]
    exact h.reached

theorem continueSearchAndRun_keeps (fuel : Nat) {proceed : FindNextOp → FindNextOp}
    (hproceed : ∀ op, (proceed op).toOperationBase = op.toOperationBase ∧
      (proceed op).directoryDepth = op.directoryDepth ∧
      (proceed op).direction = op.direction ∧
      (proceed op).position = op.position ∧ (proceed op).posState = op.posState)
    {done : FindNextOp × Effects}
    (hdone : continueSearchAndRun answers fuel op proceed = some done) :
    op.RunKeeps (AtEndBy answers) done := by
  have hkeeps : op.Keeps (answers op).visibleItems (op.continueSearch (answers op)) :=
    continueSearch_keeps
  unfold continueSearchAndRun at hdone
  dsimp only at hdone
  split at hdone
  · rename_i hfinish
    rw [hdone] at hfinish
    exact finishOpIfPossible_keeps hkeeps hfinish
  · rename_i hcont
    have hruns := runAsFarAsPossible_keeps fuel hdone
    obtain ⟨hbase, hdepth, hdirection, hposition, hposState⟩ :=
      hproceed (op.continueSearch (answers op)).2.1
    refine RunKeeps.after hkeeps hcont (hruns.of_same hbase hdepth hdirection ?_ hposState)
    rw [hposition]

theorem hintedFn_keeps (fuel : Nat) {done : FindNextOp × Effects}
    (hdone : op.hintedFn answers fuel = some done) : op.RunKeeps (AtEndBy answers) done := by
  unfold hintedFn at hdone
  split_ifs at hdone
  · exact (runAsFarAsPossible_keeps fuel hdone).of_same rfl rfl rfl rfl rfl
  · obtain rfl := Option.some.inj hdone
    exact ⟨rfl, rfl, rfl, nofun, nofun, Or.inl rfl, Or.inl⟩

theorem continueRunning_keeps (fuel : Nat) {done : FindNextOp × Effects}
    (hdone : op.continueRunning answers fuel = some done) : op.RunKeeps (AtEndBy answers) done := by
  have hstays : some (op, ({} : Effects)) = some done → op.RunKeeps (AtEndBy answers) done := by
    intro heq
    obtain rfl := Option.some.inj heq
    exact ⟨rfl, rfl, rfl, nofun, nofun, Or.inl rfl, Or.inl⟩
  unfold continueRunning at hdone
  split at hdone
  · unfold doContinue at hdone
    split at hdone
    · exact runAsFarAsPossible_keeps fuel hdone
    · refine continueSearchAndRun_keeps fuel ?_ hdone
      exact fun _ => ⟨rfl, rfl, rfl, rfl, rfl⟩
  · obtain rfl := Option.some.inj hdone
    exact finish_keeps false
  · exact hstays hdone
  · exact hstays hdone
  · exact hstays hdone
  · exact hstays hdone

end RunKeeps

end FindNextOp

end Drcpd.Crawler

/-
  Crawler/Progress.lean --- what an operation waits for when a search stops.

  A search stops when the operation finishes, or to be continued later.  In the second
  case something must be on its way: a list that is being entered, or a function
  passed with a hint.  Some answers of the traversal list make the search stop without
  anything on its way; `ListAnswers.KeepsGoing` leaves them out.
-/
import Drcpd.Crawler.FindNextOp

set_option autoImplicit false

namespace Drcpd.Crawler

open Drcpd.Lists

/-- No answer stops the search while nothing is on its way: neither hints nor items are
refused, and if items are said to be on their way, then the function passed with the hint
will be called. -/
structure ListAnswers.KeepsGoing (a : ListAnswers) : Prop where
  hint : a.hint.result ≠ .canceled ∧ a.hint.result ≠ .busy
  hint_started : a.hint.result = .started → a.hint.startedFetch = true
  item : a.item.1 ≠ .canceled ∧ a.item.1 ≠ .busy
  item_started : a.item.1 = .started → a.hint.startedFetch = true
  enter : a.enter ≠ .canceled ∧ a.enter ≠ .busy

namespace FindNextOp

/-- What a part of a search does to an operation, if the given number of functions have
been passed with hints. -/
structure Searches (op : FindNextOp) (hinted : Nat) (r : Continue × FindNextOp × Requests) :
    Prop where
  base : r.2.1.toOperationBase = op.toOperationBase
  waiting : r.2.1.isWaitingForItemHint = true →
    op.isWaitingForItemHint = true ∨ 0 < hinted
  later : r.1 = .later →
    op.isWaitingForItemHint = true ∨ r.2.2.query.isSome = true ∨ 0 < hinted

/-- What a whole search does: the operation has finished, or it waits for something. -/
structure Runs (op : FindNextOp) (r : FindNextOp × Effects) : Prop where
  outcome :
    (∃ isSuccessful,
      r.1.toOperationBase = (op.toOperationBase.operationFinished isSuccessful).2 ∧
      r.2.notification = some (op.toOperationBase.operationFinished isSuccessful).1) ∨
    (r.1.toOperationBase = op.toOperationBase ∧ r.2.notification = none ∧
      (op.isWaitingForItemHint = true ∨ r.2.query.isSome = true ∨ 0 < r.2.hinted))
  waiting : r.1.isWaitingForItemHint = true →
    op.isWaitingForItemHint = true ∨ 0 < r.2.hinted

/-! ## The parts of a search -/

section Search

variable {op : FindNextOp} {a : ListAnswers}

theorem enterList_searches (callerId : CallerId) (listId : ListId) (line hinted : Nat)
    {enter : OpResult} (h : enter ≠ .canceled ∧ enter ≠ .busy) :
    op.Searches hinted (op.enterList callerId listId line enter) := by
  cases enter with
  | started => exact ⟨rfl, Or.inl, fun _ => Or.inr (Or.inl rfl)⟩
  | succeeded => exact ⟨rfl, Or.inl, nofun⟩
  | failed => exact ⟨rfl, Or.inl, nofun⟩
  | canceled => exact absurd rfl h.1
  | busy => exact absurd rfl h.2

/-- The rest of the operation does not matter. -/
theorem Searches.of_same {op' : FindNextOp} {hinted : Nat}
    {r : Continue × FindNextOp × Requests} (h : op'.Searches hinted r)
    (hbase : op'.toOperationBase = op.toOperationBase)
    (hwaiting : op'.isWaitingForItemHint = op.isWaitingForItemHint) :
    op.Searches hinted r := by
  refine ⟨h.base.trans hbase, ?_, ?_⟩
  · rw [← hwaiting]
    exact h.waiting
  · rw [← hwaiting]
    exact h.later

theorem continueSearch_searches (h : a.KeepsGoing) (hinted : Nat) :
    op.Searches hinted (op.continueSearch a) := by
  unfold continueSearch
  dsimp only
  split_ifs
  · exact ⟨rfl, Or.inl, nofun⟩
  · exact ⟨rfl, Or.inl, nofun⟩
  · exact ⟨rfl, Or.inl, nofun⟩
  · split
    · exact ⟨rfl, Or.inl, nofun⟩
    · split_ifs
      · exact (enterList_searches _ _ _ hinted h.enter).of_same rfl rfl
      · exact ⟨rfl, Or.inl, nofun⟩

theorem useItem_searches (h : a.KeepsGoing) (isDirectory : Bool) (hinted : Nat) :
    op.Searches hinted (op.useItem a isDirectory) := by
  unfold useItem
  split_ifs
  · exact ⟨rfl, Or.inl, nofun⟩
  · exact ⟨rfl, Or.inl, nofun⟩
  · exact continueSearch_searches h hinted
  · exact enterList_searches _ _ _ hinted h.enter
  · exact ⟨rfl, Or.inl, nofun⟩
  · exact continueSearch_searches h hinted

/-- Where the item under the cursor is on its way, the function passed with the hint is
counted. -/
theorem accessItem_searches (h : a.KeepsGoing) :
    op.Searches a.hint.startedFetch.toNat (op.accessItem a) := by
  have hpos : a.hint.startedFetch = true → 0 < a.hint.startedFetch.toNat := by
    intro hstarted
    rw [hstarted]
    exact Nat.one_pos
  unfold accessItem
  cases hhint : a.hint.result with
  | started =>
    have hfetch := hpos (h.hint_started hhint)
    exact ⟨rfl, fun _ => Or.inr hfetch, fun _ => Or.inr (Or.inr hfetch)⟩
  | busy => exact absurd hhint h.hint.2
  | canceled => exact absurd hhint h.hint.1
  | failed => exact ⟨rfl, Or.inl, nofun⟩
  | succeeded =>
    dsimp only
    rcases hitem : a.item with ⟨result, item⟩
    have hresult : a.item.1 = result := by rw [hitem]
    cases result with
    | started =>
      have hfetch := hpos (h.item_started hresult)
      exact ⟨rfl, Or.inl, fun _ => Or.inr (Or.inr hfetch)⟩
    | busy => exact absurd hresult h.item.2
    | canceled => exact absurd hresult h.item.1
    | failed => exact ⟨rfl, Or.inl, nofun⟩
    | succeeded =>
      cases item with
      | none => exact ⟨rfl, Or.inl, nofun⟩
      | some isDirectory => exact (useItem_searches h isDirectory _).of_same rfl rfl

theorem finishWithCurrentItemOrContinue_searches (h : a.KeepsGoing) :
    op.Searches (op.finishWithCurrentItemOrContinue a).2.2.hinted
      (op.finishWithCurrentItemOrContinue a) := by
  unfold finishWithCurrentItemOrContinue
  split_ifs with hwaiting
  · exact ⟨rfl, Or.inl, fun _ => Or.inl hwaiting⟩
  · exact (continueSearch_searches h _).of_same rfl rfl
  · have haccess : op.Searches _ (op.accessItem a) := accessItem_searches h
    exact ⟨haccess.base, haccess.waiting, haccess.later⟩

end Search

/-! ## Whole searches -/

section Run

variable {op : FindNextOp} {answers : FindNextOp → ListAnswers}

theorem Runs.of_same {op' : FindNextOp} {r : FindNextOp × Effects} (h : op'.Runs r)
    (hbase : op'.toOperationBase = op.toOperationBase)
    (hwaiting : op'.isWaitingForItemHint = op.isWaitingForItemHint) : op.Runs r := by
  constructor
  · rw [← hbase, ← hwaiting]
    exact h.outcome
  · rw [← hwaiting]
    exact h.waiting

theorem finish_runs (isSuccessful : Bool) : op.Runs (op.finish isSuccessful) :=
  ⟨Or.inl ⟨isSuccessful, rfl, rfl⟩, Or.inl⟩

theorem finishOpIfPossible_runs {r : Continue × FindNextOp × Requests}
    (h : op.Searches r.2.2.hinted r) {done : FindNextOp × Effects}
    (hdone : finishOpIfPossible r = some done) : op.Runs done := by
  obtain ⟨cont, op', requests⟩ := r
  have hfinish : ∀ isSuccessful, op.Runs
      ((op'.finish isSuccessful).1,
        { (op'.finish isSuccessful).2 with toRequests := requests }) := by
    intro isSuccessful
    refine ⟨Or.inl ⟨isSuccessful, ?_, ?_⟩, h.waiting⟩
    · rw [← h.base]
      rfl
    · rw [← h.base]
      rfl
  cases cont with
  | notWithError =>
    obtain rfl := Option.some.inj hdone
    exact hfinish false
  | notWithSuccess =>
    obtain rfl := Option.some.inj hdone
    exact hfinish true
  | later =>
    obtain rfl := Option.some.inj hdone
    exact ⟨Or.inr ⟨h.base, rfl, h.later rfl⟩, h.waiting⟩
  | withThisItem => exact absurd hdone nofun

/-- The loop goes on with what the part of a search has left. -/
theorem runAsFarAsPossible_runs (h : ∀ op, (answers op).KeepsGoing) (fuel : Nat)
    {done : FindNextOp × Effects}
    (hdone : runAsFarAsPossible answers fuel op = some done) : op.Runs done := by
  induction fuel generalizing op done with
  | zero => exact absurd hdone nofun
  | succ fuel ih =>
    have hsearch : op.Searches _ (op.finishWithCurrentItemOrContinue (answers op)) :=
      finishWithCurrentItemOrContinue_searches (h op)
    unfold runAsFarAsPossible at hdone
    dsimp only at hdone
    split at hdone
    · rename_i hfinish
      rw [hdone] at hfinish
      exact finishOpIfPossible_runs hsearch hfinish
    · obtain ⟨run, hrun, rfl⟩ := Option.map_eq_some_iff.mp hdone
      have hruns := ih hrun
      refine ⟨?_, fun hwaiting => ?_⟩
      · rcases hruns.outcome with ⟨isSuccessful, hbase, hnotified⟩ | ⟨hbase, hnotified, hleft⟩
        · rw [hsearch.base] at hbase hnotified
          exact Or.inl ⟨isSuccessful, hbase, hnotified⟩
        · refine Or.inr ⟨hbase.trans hsearch.base, hnotified, ?_⟩
          rcases hleft with hwaiting | hquery | hpos
          · exact (hsearch.waiting hwaiting).imp_right
              fun hpos => Or.inr (Nat.add_pos_left hpos _)
          · exact Or.inr (Or.inl hquery)
          · exact Or.inr (Or.inr (Nat.add_pos_right _ hpos))
      · rcases hruns.waiting hwaiting with hwaiting | hpos
        · exact (hsearch.waiting hwaiting).imp_right fun hpos => Nat.add_pos_left hpos _
        · exact Or.inr (Nat.add_pos_right _ hpos)

theorem continueSearchAndRun_runs (h : ∀ op, (answers op).KeepsGoing) (fuel : Nat)
    {proceed : FindNextOp → FindNextOp}
    (hbase : ∀ op, (proceed op).toOperationBase = op.toOperationBase)
    (hwaiting : ∀ op, (proceed op).isWaitingForItemHint = op.isWaitingForItemHint)
    {done : FindNextOp × Effects}
    (hdone : continueSearchAndRun answers fuel op proceed = some done) : op.Runs done := by
  have hsearch : ∀ hinted, op.Searches hinted (op.continueSearch (answers op)) :=
    continueSearch_searches (h op)
  unfold continueSearchAndRun at hdone
  dsimp only at hdone
  split at hdone
  · rename_i hfinish
    rw [hdone] at hfinish
    exact finishOpIfPossible_runs (hsearch _) hfinish
  · have hruns := runAsFarAsPossible_runs h fuel hdone
    have hstill : (op.continueSearch (answers op)).2.1.isWaitingForItemHint = true →
        op.isWaitingForItemHint = true := by
      intro hwaits
      exact ((hsearch 0).waiting hwaits).resolve_right (Nat.lt_irrefl 0)
    constructor
    · have houtcome := hruns.outcome
      rw [hbase, hwaiting, (hsearch 0).base] at houtcome
      exact houtcome.imp_right fun ⟨hsame, hnotified, hleft⟩ =>
        ⟨hsame, hnotified, hleft.imp_left hstill⟩
    · intro hwaits
      have hwaits := hruns.waiting hwaits
      rw [hwaiting] at hwaits
      exact hwaits.imp_left hstill

/-! ## What continues an operation -/

theorem enteredFirstList_runs (h : ∀ op, (answers op).KeepsGoing) (fuel depth : Nat)
    (lines : Option Nat) {done : FindNextOp × Effects}
    (hdone : op.enteredFirstList answers fuel depth lines = some done) : op.Runs done := by
  cases lines with
  | none =>
    obtain rfl := Option.some.inj hdone
    exact finish_runs false
  | some lines =>
    unfold enteredFirstList at hdone
    dsimp only at hdone
    split_ifs at hdone
    · obtain rfl := Option.some.inj hdone
      exact (finish_runs true).of_same rfl rfl
    · exact (runAsFarAsPossible_runs h fuel hdone).of_same rfl rfl

theorem enteredList_runs (h : ∀ op, (answers op).KeepsGoing) (fuel : Nat)
    (callerId : CallerId) (lines : Option Nat) {done : FindNextOp × Effects}
    (hdone : op.enteredList answers fuel callerId lines = some done) : op.Runs done := by
  have hfinish : some (op.finish false) = some done → op.Runs done := by
    intro heq
    obtain rfl := Option.some.inj heq
    exact finish_runs false
  cases callerId with
  | crawlerResetPosition => exact enteredFirstList_runs h fuel _ lines hdone
  | crawlerFirstEntry => exact enteredFirstList_runs h fuel _ lines hdone
  | crawlerDescend =>
    cases lines with
    | none =>
      exact continueSearchAndRun_runs h fuel (fun _ => rfl) (fun _ => rfl) hdone
    | some lines =>
      unfold enteredList at hdone
      dsimp only at hdone
      split_ifs at hdone
      · exact (continueSearchAndRun_runs h fuel (fun _ => rfl) (fun _ => rfl) hdone).of_same
          rfl rfl
      · exact (runAsFarAsPossible_runs h fuel hdone).of_same rfl rfl
  | crawlerAscend =>
    cases lines with
    | none => exact hfinish hdone
    | some lines =>
      unfold enteredList at hdone
      dsimp only at hdone
      split_ifs at hdone
      · obtain rfl := Option.some.inj hdone
        exact (finish_runs false).of_same rfl rfl
      · exact (runAsFarAsPossible_runs h fuel hdone).of_same rfl rfl
  | _ => exact hfinish hdone

/-- A result `CANCELED` is not looked at. -/
theorem enterListEvent_runs (h : ∀ op, (answers op).KeepsGoing) (fuel : Nat)
    {result : OpResult} (hresult : result = .succeeded ∨ result = .failed)
    (callerId : CallerId) (lines : Nat) {done : FindNextOp × Effects}
    (hdone : op.enterListEvent answers fuel result callerId lines = some done) :
    op.Runs done := by
  rcases hresult with rfl | rfl
  · exact (enteredList_runs h fuel callerId (some lines) hdone).of_same rfl rfl
  · exact enteredList_runs h fuel callerId none hdone

/-- When the function passed with a hint is called, items are not waited for any more. -/
theorem hintedFn_runs (h : ∀ op, (answers op).KeepsGoing) (fuel : Nat)
    (hactive : op.state = .running) {done : FindNextOp × Effects}
    (hdone : op.hintedFn answers fuel = some done) :
    Runs { op with isWaitingForItemHint := false } done := by
  have hop : op.isOpActive = true := decide_eq_true hactive
  rw [hintedFn, if_pos hop] at hdone
  exact runAsFarAsPossible_runs h fuel hdone

theorem doContinue_runs (h : ∀ op, (answers op).KeepsGoing) (fuel : Nat)
    {done : FindNextOp × Effects} (hdone : op.doContinue answers fuel = some done) :
    op.Runs done := by
  unfold doContinue at hdone
  cases hmode : op.findMode with
  | findFirst =>
    rw [hmode] at hdone
    exact runAsFarAsPossible_runs h fuel hdone
  | findNext =>
    rw [hmode] at hdone
    dsimp only at hdone
    refine continueSearchAndRun_runs h fuel ?_ ?_ hdone
    · intro op
      rfl
    · intro op
      rfl

/-- An operation is started by yielding or by entering a list. -/
theorem doStart_cases (op : FindNextOp) (hactive : op.state = .running)
    (hcallback : op.hasOpDoneNotificationCallback = true) (listId : ListId) (enter : OpResult) :
    op.doStart listId enter = some { notification := some (.sent .yielding) } ∨
    (∃ query, op.doStart listId enter = some { query := some query }) ∨
    op.doStart listId enter = none := by
  have hyield : op.operationYield = .sent .yielding := by
    simp [OperationBase.operationYield, OperationBase.notifyDone, hactive, hcallback]
  unfold doStart
  split_ifs
  · exact Or.inl (by rw [hyield])
  · cases enter with
    | started => exact Or.inr (Or.inl ⟨_, rfl⟩)
    | _ => exact Or.inr (Or.inr rfl)

end Run

end FindNextOp

end Drcpd.Crawler

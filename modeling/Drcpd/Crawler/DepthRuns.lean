/-
  Crawler/DepthRuns.lean --- the depth counted by an operation, over all its runs.

  A run is made of what may happen to one operation: it is started and continued, lists
  it has asked for are entered or not, functions passed with hints are called, and it may
  be cancelled.  The answers of the traversal list are open.  Lists that have been entered
  are counted, and the depth is compared with the count.
-/
import Drcpd.Foundation.Run
import Drcpd.Crawler.Depth

set_option autoImplicit false

namespace Drcpd.Crawler

open Drcpd.Lists
open Drcpd.Foundation

/-- An operation and what it has asked for last.  `startDepth` is the depth of the position
it was made with; directories entered and left are counted. -/
structure DepthRun where
  op : FindNextOp
  startDepth : Nat
  query : Option EnterListParameters := none
  hinted : Nat := 0
  hasYielded : Bool := false
  isSearching : Bool := false
  descends : Nat := 0
  ascends : Nat := 0
  deriving DecidableEq, Repr

/-- The operation has finished, one way or another. -/
def OpState.HasEnded (state : OpState) : Prop :=
  state ≠ .notStarted ∧ state ≠ .running ∧ state ≠ .canceling

namespace DepthRun

/-- What happens to an operation. -/
inductive Event where
  | start (listId : ListId) (enter : OpResult)
  | continueRunning (answers : FindNextOp → ListAnswers) (fuel : Nat)
  | enterListResult (answers : FindNextOp → ListAnswers) (fuel : Nat) (result : OpResult)
      (lines : Nat)
  | hintDone (answers : FindNextOp → ListAnswers) (fuel : Nat)
  | cancel

/-- An operation that is about to be made. -/
def ofPosition (recursiveMode : RecursiveMode) (direction : Direction) (position : Cursor)
    (findMode : FindMode) : DepthRun where
  op := FindNextOp.make recursiveMode direction position findMode
  startDepth := position.directoryDepth

/-- What is left by a function of the operation.  Entering a list replaces what is being
entered. -/
def after (s : DepthRun) (done : FindNextOp × Effects) : DepthRun :=
  { s with
    op := done.1
    query := done.2.query.or s.query
    hinted := s.hinted + done.2.hinted
    hasYielded := s.hasYielded || decide (done.2.notification = some (.sent .yielding)) }

/-- A list has been entered. -/
def count (s : DepthRun) (callerId : CallerId) : OpResult → DepthRun
  | .succeeded =>
      { s with
        isSearching := true
        descends := if callerId = .crawlerDescend then s.descends + 1 else s.descends
        ascends := if callerId = .crawlerAscend then s.ascends + 1 else s.ascends }
  | .started | .failed | .canceled | .busy => s

/-- One event; a finished operation does not learn of lists being entered. -/
def step (s : DepthRun) : Event → Option DepthRun
  | .start listId enter => some (s.after (s.op.start listId enter).2)
  | .continueRunning answers fuel =>
      if s.hasYielded then
        (s.op.continueRunning answers fuel).map fun done =>
          { s with hasYielded := false, isSearching := s.isSearching || s.op.isOpActive }.after
            done
      else none
  | .enterListResult answers fuel result lines =>
      match s.query with
      | none => none
      | some query =>
          if s.op.state = .running ∨ s.op.state = .canceling then
            (s.op.enterListEvent answers fuel result query.callerId lines).map fun done =>
              ({ s with query := none }.count query.callerId result).after done
          else none
  | .hintDone answers fuel =>
      if 0 < s.hinted then (s.op.hintedFn answers fuel).map { s with hinted := s.hinted - 1 }.after
      else none
  | .cancel =>
      some { s with op := { s.op with toOperationBase := s.op.toOperationBase.cancel } }

/-! ## What is to be shown -/

/-- What is claimed of the depth. -/
structure DepthSound (s : DepthRun) : Prop where
  counted : s.isSearching = true →
    s.op.directoryDepth + s.ascends = max 1 s.startDepth + s.descends
  positive : s.isSearching = true → 1 ≤ s.op.directoryDepth
  bounded : s.op.directoryDepth ≤ maxDirectoryDepth
  stored : s.op.position.directoryDepth = s.op.directoryDepth
  reached : s.op.posState.IsReached → s.op.directoryDepth = 1

/-- The assertion on the depth in `enter_list_event`. -/
def AssertsDepth (s : DepthRun) : Event → Prop
  | .enterListResult _ _ result _ => (result = .succeeded ∨ result = .failed) →
      ∀ query, s.query = some query → query.callerId = .crawlerFirstEntry →
        s.op.directoryDepth = 0
  | .start .. | .continueRunning .. | .hintDone .. | .cancel => True

/-- The operation has come to the end of a list, or its first list is empty. -/
def AtEnd (s : DepthRun) (op : FindNextOp) : Event → Prop
  | .continueRunning answers _ | .hintDone answers _ => FindNextOp.AtEndBy answers op
  | .enterListResult answers _ _ lines =>
      (s.isSearching = false ∧ lines = 0) ∨ FindNextOp.AtEndBy answers op
  | .start .. | .cancel => False

/-- What every step does. -/
structure StepSound (s : DepthRun) (e : Event) (s' : DepthRun) : Prop where
  asserts : s.AssertsDepth e
  sound : s'.DepthSound
  ends : s'.op.posState.IsReached → s.op.posState.IsReached ∨ s.AtEnd s'.op e

/-- An operation that enters its list is made with depth 0, and one that goes on in the
list it is in is made with depth 1 or more. -/
def StartsRight (s : DepthRun) : Event → Prop
  | .continueRunning .. => s.op.isOpActive = true → 1 ≤ s.startDepth
  | .enterListResult _ _ result _ => (result = .succeeded ∨ result = .failed) →
      s.isSearching = false → s.startDepth = 0
  | .start .. | .hintDone .. | .cancel => True

/-- What is known between two events. -/
structure Invariant (s : DepthRun) : Prop extends s.DepthSound where
  direction : s.op.direction ≠ .none
  start_depth : s.isSearching = false → s.op.directoryDepth = s.startDepth
  no_entries : s.isSearching = false → s.descends = 0 ∧ s.ascends = 0
  first_entry : s.isSearching = false →
    s.op.enteringListCallerId = .crawlerFirstEntry ∧ s.hinted = 0 ∧
      ∀ query, s.query = some query → query.callerId = .crawlerFirstEntry
  fresh : s.op.state = .notStarted → s.query = none ∧ s.hasYielded = false
  yielded : s.hasYielded = true → s.isSearching = false ∧ s.query = none
  started : s.isSearching = true → s.op.state ≠ .notStarted
  query_fits : s.isSearching = true →
    ∀ query, s.query = some query → query.FitsDepth s.op.directoryDepth
  /-- The end of a list is reported by an operation that has finished. -/
  finished : s.op.posState.IsReached → s.op.state.HasEnded

theorem unknown_not_reached : ¬ PositionalState.IsReached .unknown := by
  rintro (h | h)
  · exact absurd h nofun
  · exact absurd h nofun

theorem init_invariant (recursiveMode : RecursiveMode) {direction : Direction}
    (hdirection : direction ≠ .none) (position : Cursor) (findMode : FindMode)
    (hdepth : position.directoryDepth ≤ maxDirectoryDepth) :
    (ofPosition recursiveMode direction position findMode).Invariant where
  counted := nofun
  positive := nofun
  bounded := hdepth
  stored := rfl
  reached := fun h => absurd h unknown_not_reached
  direction := hdirection
  start_depth := fun _ => rfl
  no_entries := fun _ => ⟨rfl, rfl⟩
  first_entry := fun _ => ⟨if_neg hdirection, rfl, nofun⟩
  fresh := fun _ => ⟨rfl, rfl⟩
  yielded := nofun
  started := nofun
  query_fits := nofun
  finished := fun h => absurd h unknown_not_reached

/-! ## What each function does -/

section Steps

variable {s : DepthRun}

theorem operationFinished_ended {base : OperationBase} (h : base.state ≠ .notStarted)
    (isSuccessful : Bool) : (base.operationFinished isSuccessful).2.state.HasEnded := by
  unfold OperationBase.operationFinished OpState.HasEnded
  cases hstate : base.state with
  | notStarted => exact absurd hstate h
  | running =>
    cases isSuccessful with
    | false => exact ⟨nofun, nofun, nofun⟩
    | true => exact ⟨nofun, nofun, nofun⟩
  | canceling => exact ⟨nofun, nofun, nofun⟩
  | canceled => exact ⟨nofun, nofun, nofun⟩
  | done =>
    dsimp only
    rw [hstate]
    exact ⟨nofun, nofun, nofun⟩
  | failed =>
    dsimp only
    rw [hstate]
    exact ⟨nofun, nofun, nofun⟩

theorem cancel_ended {base : OperationBase} (h : base.state.HasEnded) :
    base.cancel.state.HasEnded := by
  rw [OperationBase.cancel_of_ended]
  · exact h
  · obtain ⟨hnot, hrunning, hcanceling⟩ := h
    cases hstate : base.state with
    | notStarted => exact absurd hstate hnot
    | running => exact absurd hstate hrunning
    | canceling => exact absurd hstate hcanceling
    | done => exact Or.inl rfl
    | failed => exact Or.inr (Or.inl rfl)
    | canceled => exact Or.inr (Or.inr rfl)

/-- The operation neither looks at items nor enters lists. -/
theorem Invariant.of_base (h : s.Invariant) {s' : DepthRun} (base : OperationBase)
    (hop : s'.op = { s.op with toOperationBase := base })
    (hdepth : s'.startDepth = s.startDepth) (hsearching : s'.isSearching = s.isSearching)
    (hcounts : s'.descends = s.descends ∧ s'.ascends = s.ascends)
    (hhinted : s.isSearching = false → s'.hinted = s.hinted)
    (hfresh : base.state = .notStarted → s'.query = none ∧ s'.hasYielded = false)
    (hyielded : s'.hasYielded = true → s.isSearching = false ∧ s'.query = none)
    (hquery : ∀ query, s'.query = some query → s.query = some query ∨
      (s.isSearching = false ∧ query.callerId = .crawlerFirstEntry))
    (hstarted : s.isSearching = true → base.state ≠ .notStarted)
    (hended : s.op.posState.IsReached → base.state.HasEnded) : s'.Invariant := by
  obtain ⟨op, startDepth, query, hinted, hasYielded, isSearching, descends, ascends⟩ := s'
  obtain rfl : op = { s.op with toOperationBase := base } := hop
  obtain rfl : startDepth = s.startDepth := hdepth
  obtain rfl : isSearching = s.isSearching := hsearching
  obtain ⟨rfl, rfl⟩ : descends = s.descends ∧ ascends = s.ascends := hcounts
  exact
    { counted := h.counted
      positive := h.positive
      bounded := h.bounded
      stored := h.stored
      reached := h.reached
      direction := h.direction
      start_depth := h.start_depth
      no_entries := h.no_entries
      first_entry := by
        intro hnot
        obtain ⟨hentering, hzero, hfirst⟩ := h.first_entry hnot
        refine ⟨hentering, (hhinted hnot).trans hzero, fun query hq => ?_⟩
        exact (hquery query hq).elim (hfirst query) And.right
      fresh := hfresh
      yielded := hyielded
      started := hstarted
      query_fits := by
        intro hsearches query hq
        rcases hquery query hq with hold | ⟨hnot, _⟩
        · exact h.query_fits hsearches query hold
        · exact absurd (hsearches.symm.trans hnot) nofun
      finished := hended }

/-- A search started while the operation is searching, with the count as it should be. -/
theorem Invariant.search {op : FindNextOp} {atEnd : FindNextOp → Prop}
    {done : FindNextOp × Effects} (hkeeps : op.RunKeeps atEnd done)
    (hsearching : s.isSearching = true) (hyielded : s.hasYielded = false)
    (hcounted : op.directoryDepth + s.ascends = max 1 s.startDepth + s.descends)
    (hpositive : 1 ≤ op.directoryDepth) (hbounded : op.directoryDepth ≤ maxDirectoryDepth)
    (hstored : op.position.directoryDepth = op.directoryDepth)
    (hdirection : op.direction ≠ .none) (hstarted : op.state ≠ .notStarted)
    (hquery : ∀ query, s.query = some query → query.FitsDepth op.directoryDepth)
    (hreached : op.posState.IsReached → op.directoryDepth = 1 ∧ op.state.HasEnded) :
    (s.after done).Invariant := by
  have hdepth : (s.after done).op.directoryDepth = op.directoryDepth := hkeeps.depth
  have hnot : ¬ (s.after done).isSearching = false := by
    intro hfalse
    exact absurd (hsearching.symm.trans hfalse) nofun
  have hstate : done.1.state = op.state ∨ done.1.state.HasEnded := by
    rcases hkeeps.base with hsame | ⟨isSuccessful, hsame⟩
    · exact Or.inl (congrArg OperationBase.state hsame)
    · rw [hsame]
      exact Or.inr (operationFinished_ended hstarted isSuccessful)
  exact
    { counted := fun _ => hdepth ▸ hcounted
      positive := fun _ => hdepth ▸ hpositive
      bounded := hdepth ▸ hbounded
      stored := hkeeps.position_depth.trans (hstored.trans hdepth.symm)
      reached := by
        intro h
        rw [hdepth]
        rcases hkeeps.reached h with hbefore | ⟨_, hle, _⟩
        · exact (hreached hbefore).1
        · exact Nat.le_antisymm hle hpositive
      direction := by
        have hsame : (s.after done).op.direction = op.direction := hkeeps.direction
        rw [hsame]
        exact hdirection
      start_depth := fun h => absurd h hnot
      no_entries := fun h => absurd h hnot
      first_entry := fun h => absurd h hnot
      fresh := by
        intro h
        rcases hstate with hsame | hended
        · exact absurd (hsame.symm.trans h) hstarted
        · exact absurd h hended.1
      yielded := by
        intro h
        have hyields : (s.hasYielded ||
            decide (done.2.notification = some (.sent .yielding))) = true := h
        rw [hyielded, Bool.false_or] at hyields
        exact absurd (of_decide_eq_true hyields) hkeeps.notYielding
      started := by
        intro _
        rcases hstate with hsame | hended
        · exact fun h => hstarted (hsame.symm.trans h)
        · exact hended.1
      query_fits := by
        intro _ query hq
        rw [hdepth]
        rcases Option.or_eq_some_iff.mp hq with hnew | ⟨_, hold⟩
        · exact hkeeps.query query hnew
        · exact hquery query hold
      finished := by
        intro h
        rcases hkeeps.reached h with hbefore | ⟨⟨isSuccessful, hbase⟩, _, _⟩
        · rcases hstate with hsame | hended
          · have hsame : (s.after done).op.state = op.state := hsame
            rw [hsame]
            exact (hreached hbefore).2
          · exact hended
        · have hended := operationFinished_ended hstarted isSuccessful
          rw [← hbase] at hended
          exact hended }

theorem Invariant.not_reached (h : s.Invariant)
    (hactive : s.op.state = .running ∨ s.op.state = .canceling) :
    ¬ s.op.posState.IsReached := by
  intro hreached
  obtain ⟨_, hrunning, hcanceling⟩ := h.finished hreached
  exact hactive.elim hrunning hcanceling

theorem Invariant.not_yielded (h : s.Invariant) (hsearching : s.isSearching = true) :
    s.hasYielded = false := by
  cases hyields : s.hasYielded with
  | false => rfl
  | true => exact absurd (hsearching.symm.trans (h.yielded hyields).1) nofun

/-- `start` either starts the operation, by yielding or by entering its list, or has no
effect but on its state. -/
theorem start_cases (op : FindNextOp) (listId : ListId) (enter : OpResult) :
    ∃ base : OperationBase,
      (op.start listId enter).2.1 = { op with toOperationBase := base } ∧
      base.state ≠ .notStarted ∧
      (op.start listId enter).2.2.hinted = 0 ∧
      (op.state ≠ .notStarted → base.state = op.state ∧ (op.start listId enter).2.2 = {}) ∧
      ((op.start listId enter).2.2.notification = some (.sent .yielding) →
        (op.start listId enter).2.2.query = none) ∧
      ∀ query, (op.start listId enter).2.2.query = some query →
        query.callerId = op.enteringListCallerId := by
  unfold FindNextOp.start
  rcases Decidable.em (op.state = .notStarted) with hnot | hstarted
  · rw [OperationBase.beginStart_of_notStarted hnot]
    dsimp only
    unfold FindNextOp.doStart
    split_ifs
    · exact ⟨_, rfl, nofun, rfl, fun h => absurd hnot h, fun _ => rfl, nofun⟩
    · cases enter with
      | started =>
        refine ⟨_, rfl, nofun, rfl, fun h => absurd hnot h, nofun, fun query hquery => ?_⟩
        rw [← Option.some.inj hquery]
      | _ => exact ⟨_, rfl, nofun, rfl, fun h => absurd hnot h, nofun, nofun⟩
  · rw [OperationBase.beginStart_of_started hstarted]
    exact ⟨_, rfl, hstarted, rfl, fun _ => ⟨rfl, rfl⟩, nofun, nofun⟩

theorem Invariant.start (h : s.Invariant) (listId : ListId) (enter : OpResult) :
    (s.after (s.op.start listId enter).2).Invariant := by
  obtain ⟨base, hop, hbase, hhinted, hstarted, hyields, hquery⟩ :=
    start_cases s.op listId enter
  refine h.of_base base hop rfl rfl ⟨rfl, rfl⟩ (fun _ => ?_) (fun h => absurd h hbase) ?_ ?_
    (fun _ => hbase) ?_
  · exact congrArg (s.hinted + ·) hhinted
  · intro hyielded
    rcases Decidable.em (s.op.state = .notStarted) with hnot | hwas
    · obtain ⟨hnone, hnever⟩ := h.fresh hnot
      unfold after at hyielded ⊢
      dsimp only at hyielded ⊢
      rw [hnever, Bool.false_or] at hyielded
      rw [hyields (of_decide_eq_true hyielded), hnone]
      refine ⟨?_, rfl⟩
      cases hsearches : s.isSearching with
      | false => rfl
      | true => exact absurd hnot (h.started hsearches)
    · unfold after at hyielded ⊢
      rw [(hstarted hwas).2] at hyielded ⊢
      have hbefore : s.hasYielded = true := (Bool.or_false _).symm.trans hyielded
      exact h.yielded hbefore
  · intro query hq
    rcases Option.or_eq_some_iff.mp hq with hnew | ⟨_, hold⟩
    · cases hsearches : s.isSearching with
      | false =>
        exact Or.inr ⟨rfl, (hquery query hnew).trans (h.first_entry hsearches).1⟩
      | true =>
        rw [(hstarted (h.started hsearches)).2] at hnew
        exact absurd hnew nofun
    · exact Or.inl hold
  · intro hreached
    have hended := h.finished hreached
    rw [(hstarted hended.1).1]
    exact hended

/-- An operation that has yielded is continued: it looks at its first item, or it has
been cancelled. -/
theorem Invariant.continueRunning (h : s.Invariant) (hyielded : s.hasYielded = true)
    (hright : s.op.isOpActive = true → 1 ≤ s.startDepth)
    {answers : FindNextOp → ListAnswers} {fuel : Nat} {done : FindNextOp × Effects}
    (hdone : s.op.continueRunning answers fuel = some done) :
    (after { s with hasYielded := false, isSearching := s.isSearching || s.op.isOpActive }
      done).Invariant := by
  obtain ⟨hnot, hnoquery⟩ := h.yielded hyielded
  have hnew : s.op.state ≠ .notStarted := by
    intro hnew
    rw [(h.fresh hnew).2] at hyielded
    exact absurd hyielded nofun
  cases hactive : s.op.isOpActive with
  | true =>
    have hdepth := h.start_depth hnot
    have hpositive := hright hactive
    obtain ⟨hdescends, hascends⟩ := h.no_entries hnot
    refine Invariant.search (FindNextOp.continueRunning_keeps fuel hdone) ?_ rfl ?_ ?_
      h.bounded h.stored h.direction hnew ?_ ?_
    · exact Bool.or_true _
    · dsimp only
      rw [hdepth, hdescends, hascends, Nat.max_eq_right hpositive]
    · rw [hdepth]
      exact hpositive
    · rw [hnoquery]
      exact nofun
    · exact fun hreached => ⟨h.reached hreached, h.finished hreached⟩
  | false =>
    have hbase : ∃ base : OperationBase, done = ({ s.op with toOperationBase := base }, done.2) ∧
        done.2.query = none ∧ done.2.hinted = 0 ∧
        done.2.notification ≠ some (.sent .yielding) ∧
        (base.state = s.op.state ∨ base.state.HasEnded) := by
      unfold FindNextOp.continueRunning at hdone
      split at hdone
      · rename_i hrunning
        exact absurd hrunning (of_decide_eq_false hactive)
      · obtain rfl := Option.some.inj hdone
        exact ⟨_, rfl, rfl, rfl,
          fun heq => FindNextOp.operationFinished_notification _ _ (Option.some.inj heq),
          Or.inr (operationFinished_ended hnew false)⟩
      all_goals
        obtain rfl := Option.some.inj hdone
        exact ⟨_, rfl, rfl, rfl, nofun, Or.inl rfl⟩
    obtain ⟨base, hop, hquery, hhinted, hnotified, hstate⟩ := hbase
    refine h.of_base base (congrArg Prod.fst hop) rfl (Bool.or_false _) ⟨rfl, rfl⟩
      (fun _ => congrArg (s.hinted + ·) hhinted) ?_ ?_ ?_ ?_ ?_
    · intro hfresh
      rcases hstate with hsame | hended
      · exact absurd (hsame.symm.trans hfresh) hnew
      · exact absurd hfresh hended.1
    · intro hyields
      have hyields : (false || decide (done.2.notification = some (.sent .yielding))) = true :=
        hyields
      exact absurd (of_decide_eq_true ((Bool.false_or _).symm.trans hyields)) hnotified
    · intro query hq
      have hq : done.2.query.or s.query = some query := hq
      rw [hquery] at hq
      exact Or.inl hq
    · exact fun hsearches => absurd (hsearches.symm.trans hnot) nofun
    · intro hreached
      rcases hstate with hsame | hended
      · rw [hsame]
        exact h.finished hreached
      · exact hended

theorem Invariant.hintDone (h : s.Invariant) (hhinted : 0 < s.hinted)
    {answers : FindNextOp → ListAnswers} {fuel : Nat} {done : FindNextOp × Effects}
    (hdone : s.op.hintedFn answers fuel = some done) :
    (after { s with hinted := s.hinted - 1 } done).Invariant := by
  have hsearching : s.isSearching = true := by
    cases hsearches : s.isSearching with
    | true => rfl
    | false => exact absurd (h.first_entry hsearches).2.1 (Nat.ne_of_gt hhinted)
  exact Invariant.search (FindNextOp.hintedFn_keeps fuel hdone) hsearching
    (h.not_yielded hsearching)
    (h.counted hsearching) (h.positive hsearching) h.bounded h.stored h.direction
    (h.started hsearching) (h.query_fits hsearching)
    fun hreached => ⟨h.reached hreached, h.finished hreached⟩

theorem Invariant.cancel (h : s.Invariant) :
    ({ s with op := { s.op with toOperationBase := s.op.toOperationBase.cancel } } :
      DepthRun).Invariant := by
  have hnew := (OperationBase.cancel_state s.op.toOperationBase).1
  exact h.of_base _ rfl rfl rfl ⟨rfl, rfl⟩ (fun _ => rfl) (fun hfresh => absurd hfresh hnew)
    h.yielded (fun _ => Or.inl) (fun _ => hnew)
    fun hreached => cancel_ended (h.finished hreached)

/-! ## A list has been entered, or not -/

/-- The first list has been entered. -/
theorem Invariant.enteredFirstList (h : s.Invariant) (hnot : s.isSearching = false)
    (hright : s.startDepth = 0) (hstarted : s.op.state ≠ .notStarted)
    (hyielded : s.hasYielded = false)
    {answers : FindNextOp → ListAnswers} {fuel lines : Nat} {done : FindNextOp × Effects}
    (hdone : (s.op.updateNavigation .crawlerFirstEntry lines).enteredFirstList answers fuel 1
      (some lines) = some done) :
    (after (count { s with query := none } .crawlerFirstEntry .succeeded) done).Invariant ∧
      (done.1.posState.IsReached →
        s.op.posState.IsReached ∨ lines = 0 ∨ FindNextOp.AtEndBy answers done.1) := by
  obtain ⟨hdescends, hascends⟩ := h.no_entries hnot
  -- The operation in the list it has just entered.
  have hsearch : ∀ (op : FindNextOp) (atEnd : FindNextOp → Prop), op.RunKeeps atEnd done →
      op.directoryDepth = 1 → op.position.directoryDepth = 1 → op.direction ≠ .none →
      op.state ≠ .notStarted → (op.posState.IsReached → op.state.HasEnded) →
      (after (count { s with query := none } .crawlerFirstEntry .succeeded) done).Invariant := by
    intro op atEnd hkeeps hdepth hposition hdirection hstate hended
    refine Invariant.search hkeeps rfl hyielded ?_ (Nat.le_of_eq hdepth.symm) ?_
      (hposition.trans hdepth.symm) hdirection hstate nofun fun hreached =>
        ⟨hdepth, hended hreached⟩
    · have hcounts : op.directoryDepth + s.ascends = max 1 s.startDepth + s.descends := by
        rw [hdepth, hdescends, hascends, hright]
        rfl
      exact hcounts
    · rw [hdepth]
      exact Nat.le_of_ble_eq_true rfl
  unfold FindNextOp.enteredFirstList at hdone
  dsimp only at hdone
  split_ifs at hdone with hempty
  · obtain rfl := Option.some.inj hdone
    refine ⟨?_, fun _ => Or.inr (Or.inl hempty)⟩
    let op : FindNextOp :=
      { s.op.updateNavigation .crawlerFirstEntry lines with
        directoryDepth := 1
        position :=
          (s.op.updateNavigation .crawlerFirstEntry lines).position.syncListIdWithRequest 1 }
    have hkeeps : op.RunKeeps (fun _ => True) (FindNextOp.finish { op with posState := op.endState }
        true) :=
      { depth := rfl
        direction := rfl
        position_depth := rfl
        query := nofun
        notYielding := fun heq =>
          FindNextOp.operationFinished_notification _ _ (Option.some.inj heq)
        base := Or.inr ⟨true, rfl⟩
        reached := fun _ => Or.inr ⟨⟨true, rfl⟩, Nat.le_refl 1, trivial⟩ }
    exact hsearch op _ hkeeps rfl rfl h.direction hstarted fun hreached => h.finished hreached
  · have hkeeps := FindNextOp.runAsFarAsPossible_keeps fuel hdone
    refine ⟨hsearch _ _ hkeeps rfl rfl h.direction hstarted fun hreached => h.finished hreached, ?_⟩
    intro hreached
    rcases hkeeps.reached hreached with hbefore | ⟨_, _, hend⟩
    · exact Or.inl hbefore
    · exact Or.inr (Or.inr hend)

/-- A directory has been entered, or the parent of a list. -/
theorem Invariant.enteredList (h : s.Invariant) (hsearching : s.isSearching = true)
    (hactive : s.op.state = .running ∨ s.op.state = .canceling)
    {query : EnterListParameters} (hquery : s.query = some query)
    {answers : FindNextOp → ListAnswers} {fuel lines : Nat} {done : FindNextOp × Effects}
    (hdone : (s.op.updateNavigation query.callerId lines).enteredList answers fuel
      query.callerId (some lines) = some done) :
    (after (count { s with query := none } query.callerId .succeeded) done).Invariant ∧
      (done.1.posState.IsReached →
        s.op.posState.IsReached ∨ FindNextOp.AtEndBy answers done.1) := by
  have hcounted := h.counted hsearching
  have hpositive := h.positive hsearching
  have hnever : ¬ s.op.posState.IsReached := h.not_reached hactive
  have hyielded := h.not_yielded hsearching
  obtain ⟨callerId, listId, line⟩ := query
  -- The operation in the list it has just entered, one level deeper or higher.
  have hsearch : ∀ (op : FindNextOp), op.RunKeeps (FindNextOp.AtEndBy answers) done →
      op.posState = s.op.posState → op.toOperationBase = s.op.toOperationBase →
      op.direction = s.op.direction → op.position.directoryDepth = op.directoryDepth →
      1 ≤ op.directoryDepth → op.directoryDepth ≤ maxDirectoryDepth →
      op.directoryDepth + (count { s with query := none } callerId .succeeded).ascends =
        max 1 s.startDepth + (count { s with query := none } callerId .succeeded).descends →
      (after (count { s with query := none } callerId .succeeded) done).Invariant ∧
        (done.1.posState.IsReached →
          s.op.posState.IsReached ∨ FindNextOp.AtEndBy answers done.1) := by
    intro op hkeeps hposState hbase hdirection hposition hpositive hbounded hcounts
    constructor
    · refine Invariant.search hkeeps rfl hyielded hcounts hpositive hbounded hposition ?_ ?_
        nofun ?_
      · rw [hdirection]
        exact h.direction
      · rw [hbase]
        exact h.started hsearching
      · rw [hposState]
        exact fun hreached => absurd hreached hnever
    · intro hreached
      rcases hkeeps.reached hreached with hbefore | ⟨_, _, hend⟩
      · rw [hposState] at hbefore
        exact Or.inl hbefore
      · exact Or.inr hend
  have hid : ∀ op : FindNextOp, (id op).toOperationBase = op.toOperationBase ∧
      (id op).directoryDepth = op.directoryDepth ∧ (id op).direction = op.direction ∧
      (id op).position = op.position ∧ (id op).posState = op.posState :=
    fun _ => ⟨rfl, rfl, rfl, rfl, rfl⟩
  unfold FindNextOp.enteredList at hdone
  dsimp only at hdone
  rcases h.query_fits hsearching _ hquery with ⟨hdescend, hlimit⟩ | ⟨hascend, htwo⟩
  · obtain rfl : callerId = .crawlerDescend := hdescend
    have hcounts : s.op.directoryDepth + 1 + s.ascends =
        max 1 s.startDepth + (s.descends + 1) := by omega
    dsimp only at hdone
    split_ifs at hdone
    · exact hsearch _ (FindNextOp.continueSearchAndRun_keeps fuel hid hdone) rfl rfl rfl rfl
        (Nat.le_add_left 1 _) hlimit hcounts
    · exact hsearch _ (FindNextOp.runAsFarAsPossible_keeps fuel hdone) rfl rfl rfl rfl
        (Nat.le_add_left 1 _) hlimit hcounts
  · obtain rfl : callerId = .crawlerAscend := hascend
    have htwo : 2 ≤ s.op.directoryDepth := htwo
    have hcounts : s.op.directoryDepth - 1 + (s.ascends + 1) =
        max 1 s.startDepth + s.descends := by omega
    have hless : s.op.directoryDepth - 1 ≤ maxDirectoryDepth :=
      Nat.le_trans (Nat.sub_le _ 1) h.bounded
    dsimp only at hdone
    split_ifs at hdone
    · obtain rfl := Option.some.inj hdone
      exact hsearch _ (FindNextOp.finish_keeps false) rfl rfl rfl rfl
        (Nat.le_sub_of_add_le htwo) hless hcounts
    · exact hsearch _ (FindNextOp.runAsFarAsPossible_keeps fuel hdone) rfl rfl rfl rfl
        (Nat.le_sub_of_add_le htwo) hless hcounts

/-- A list could not be entered. -/
theorem Invariant.notEntered (h : s.Invariant)
    (hactive : s.op.state = .running ∨ s.op.state = .canceling)
    {query : EnterListParameters} (hquery : s.query = some query)
    {answers : FindNextOp → ListAnswers} {fuel : Nat} {done : FindNextOp × Effects}
    (hdone : s.op.enteredList answers fuel query.callerId none = some done) :
    (after { s with query := none } done).Invariant ∧
      (done.1.posState.IsReached → FindNextOp.AtEndBy answers done.1) := by
  have hnever : ¬ s.op.posState.IsReached := h.not_reached hactive
  have hstarted : s.op.state ≠ .notStarted := by
    rcases hactive with hstate | hstate <;> rw [hstate] <;> exact nofun
  cases hsearches : s.isSearching with
  | false =>
    have hfirst := (h.first_entry hsearches).2.2 query hquery
    rw [hfirst] at hdone
    obtain rfl := Option.some.inj hdone
    have hended := operationFinished_ended hstarted false
    refine ⟨h.of_base _ rfl rfl hsearches.symm ⟨rfl, rfl⟩ (fun _ => rfl)
      (fun hfresh => absurd hfresh hended.1) ?_ nofun (fun _ => hended.1) fun _ => hended,
      fun hreached => absurd hreached hnever⟩
    intro hyields
    have hyielded : s.hasYielded = false := by
      cases hyields : s.hasYielded with
      | false => rfl
      | true => exact absurd (hquery.symm.trans (h.yielded hyields).2) nofun
    have hyields : (s.hasYielded ||
        decide ((s.op.finish false).2.notification = some (.sent .yielding))) = true := hyields
    rw [hyielded, Bool.false_or] at hyields
    exact absurd (Option.some.inj (of_decide_eq_true hyields))
      (FindNextOp.operationFinished_notification _ _)
  | true =>
    have hkeeps : s.op.RunKeeps (FindNextOp.AtEndBy answers) done := by
      rcases h.query_fits hsearches query hquery with ⟨hdescend, _⟩ | ⟨hascend, _⟩
      · rw [hdescend] at hdone
        exact FindNextOp.continueSearchAndRun_keeps fuel (fun _ => ⟨rfl, rfl, rfl, rfl, rfl⟩) hdone
      · rw [hascend] at hdone
        obtain rfl := Option.some.inj hdone
        exact FindNextOp.finish_keeps false
    refine ⟨Invariant.search hkeeps rfl (h.not_yielded hsearches) (h.counted hsearches)
      (h.positive hsearches) h.bounded h.stored h.direction hstarted nofun
      fun hreached => absurd hreached hnever, fun hreached => ?_⟩
    exact ((hkeeps.reached hreached).resolve_left hnever).2.2

/-! ## Runs -/

/-- The result of entering a list. -/
theorem Invariant.enterListResult (h : s.Invariant) {answers : FindNextOp → ListAnswers}
    {fuel : Nat} {result : OpResult} {lines : Nat} {s' : DepthRun}
    (hstep : s.step (.enterListResult answers fuel result lines) = some s')
    (hright : s.StartsRight (.enterListResult answers fuel result lines)) :
    s'.Invariant ∧ s.StepSound (.enterListResult answers fuel result lines) s' := by
  unfold DepthRun.step at hstep
  dsimp only at hstep
  split at hstep
  · exact absurd hstep nofun
  rename_i query hquery
  split_ifs at hstep with hactive
  obtain ⟨done, hdone, rfl⟩ := Option.map_eq_some_iff.mp hstep
  have hstarted : s.op.state ≠ .notStarted := by
    rcases hactive with hstate | hstate <;> rw [hstate] <;> exact nofun
  have hasserts : s.AssertsDepth (.enterListResult answers fuel result lines) := by
    intro hresult query' hquery' hfirst
    obtain rfl : query' = query := Option.some.inj (hquery'.symm.trans hquery)
    cases hsearches : s.isSearching with
    | false => exact (h.start_depth hsearches).trans (hright hresult hsearches)
    | true =>
      rcases h.query_fits hsearches _ hquery with ⟨hdescend, _⟩ | ⟨hascend, _⟩
      · exact absurd (hfirst.symm.trans hdescend) nofun
      · exact absurd (hfirst.symm.trans hascend) nofun
  -- A result that is not looked at.
  have hignored : some (s.op, ({} : Effects)) = some done →
      (after { s with query := none } done).Invariant ∧
        s.StepSound (.enterListResult answers fuel result lines)
          (after { s with query := none } done) := by
    intro heq
    obtain rfl := Option.some.inj heq
    have hnext : (after { s with query := none } (s.op, {})).Invariant := by
      refine h.of_base s.op.toOperationBase rfl rfl rfl ⟨rfl, rfl⟩ (fun _ => rfl)
        (fun hfresh => absurd hfresh hstarted) ?_ nofun (fun _ => hstarted) h.finished
      intro hyields
      have hyields : s.hasYielded = true := (Bool.or_false _).symm.trans hyields
      exact ⟨(h.yielded hyields).1, rfl⟩
    exact ⟨hnext, hasserts, hnext.toDepthSound, Or.inl⟩
  cases result with
  | succeeded =>
    cases hsearches : s.isSearching with
    | false =>
      have hfirst := (h.first_entry hsearches).2.2 query hquery
      have hyielded : s.hasYielded = false := by
        cases hyields : s.hasYielded with
        | false => rfl
        | true => exact absurd (hquery.symm.trans (h.yielded hyields).2) nofun
      have hzero := hright (Or.inl rfl) hsearches
      rw [hfirst] at hdone ⊢
      obtain ⟨hnext, hend⟩ := h.enteredFirstList hsearches hzero hstarted hyielded hdone
      refine ⟨hnext, hasserts, hnext.toDepthSound, fun hreached => ?_⟩
      exact (hend hreached).imp_right fun hend =>
        hend.imp_left fun hempty => ⟨hsearches, hempty⟩
    | true =>
      obtain ⟨hnext, hend⟩ := h.enteredList hsearches hactive hquery hdone
      exact ⟨hnext, hasserts, hnext.toDepthSound, fun hreached =>
        (hend hreached).imp_right Or.inr⟩
  | failed =>
    obtain ⟨hnext, hend⟩ := h.notEntered hactive hquery hdone
    exact ⟨hnext, hasserts, hnext.toDepthSound, fun hreached =>
      Or.inr (Or.inr (hend hreached))⟩
  | started => exact hignored hdone
  | canceled => exact hignored hdone
  | busy => exact hignored hdone

/-- The step lemma. -/
theorem Invariant.step (h : s.Invariant) {e : Event} {s' : DepthRun} (hstep : s.step e = some s')
    (hright : s.StartsRight e) : s'.Invariant ∧ s.StepSound e s' := by
  cases e with
  | start listId enter =>
    obtain rfl := Option.some.inj hstep
    have hnext := h.start listId enter
    refine ⟨hnext, trivial, hnext.toDepthSound, fun hreached => Or.inl ?_⟩
    obtain ⟨base, hop, _⟩ := start_cases s.op listId enter
    have hsame : (s.op.start listId enter).2.1.posState = s.op.posState := by
      rw [hop]
    rw [← hsame]
    exact hreached
  | continueRunning answers fuel =>
    unfold DepthRun.step at hstep
    dsimp only at hstep
    split_ifs at hstep with hyielded
    obtain ⟨done, hdone, rfl⟩ := Option.map_eq_some_iff.mp hstep
    have hnext := h.continueRunning hyielded hright hdone
    refine ⟨hnext, trivial, hnext.toDepthSound, fun hreached => ?_⟩
    have hkeeps := FindNextOp.continueRunning_keeps fuel hdone
    exact (hkeeps.reached hreached).imp_right fun hend => hend.2.2
  | enterListResult answers fuel result lines => exact h.enterListResult hstep hright
  | hintDone answers fuel =>
    unfold DepthRun.step at hstep
    dsimp only at hstep
    split_ifs at hstep with hhinted
    obtain ⟨done, hdone, rfl⟩ := Option.map_eq_some_iff.mp hstep
    have hnext := h.hintDone hhinted hdone
    refine ⟨hnext, trivial, hnext.toDepthSound, fun hreached => ?_⟩
    exact ((FindNextOp.hintedFn_keeps fuel hdone).reached hreached).imp_right
      fun hend => hend.2.2
  | cancel =>
    obtain rfl := Option.some.inj hstep
    exact ⟨h.cancel, trivial, h.cancel.toDepthSound, Or.inl⟩

/-- A step that does all that is claimed finds the operation started right. -/
theorem Invariant.startsRight (h : s.Invariant) {e : Event} {s' : DepthRun}
    (hstep : s.step e = some s') (hsound : s.StepSound e s') : s.StartsRight e := by
  cases e with
  | start listId enter => trivial
  | continueRunning answers fuel =>
    intro hactive
    unfold DepthRun.step at hstep
    dsimp only at hstep
    split_ifs at hstep with hyielded
    obtain ⟨done, hdone, rfl⟩ := Option.map_eq_some_iff.mp hstep
    have hnot := (h.yielded hyielded).1
    obtain ⟨hdescends, hascends⟩ := h.no_entries hnot
    have hsearching : (s.isSearching || s.op.isOpActive) = true := by
      rw [hactive, Bool.or_true]
    have hcounted : done.1.directoryDepth + s.ascends = max 1 s.startDepth + s.descends :=
      hsound.sound.counted hsearching
    rw [(FindNextOp.continueRunning_keeps fuel hdone).depth, h.start_depth hnot, hdescends,
      hascends] at hcounted
    omega
  | enterListResult answers fuel result lines =>
    intro hresult hnot
    unfold DepthRun.step at hstep
    dsimp only at hstep
    split at hstep
    · exact absurd hstep nofun
    rename_i query hquery
    have hfirst := (h.first_entry hnot).2.2 query hquery
    rw [← h.start_depth hnot]
    exact hsound.asserts hresult query hquery hfirst
  | hintDone answers fuel => trivial
  | cancel => trivial

end Steps

/-- In a run of an operation that goes forward or backward, every step does all that is
claimed of the depth exactly if the operation is started right: with depth 0 if it enters
its list, and with depth 1 or more if it goes on in the list it is in. -/
theorem depth_run_sound_iff (recursiveMode : RecursiveMode) (direction : Direction)
    (hdirection : direction ≠ .none) (position : Cursor) (findMode : FindMode)
    (hdepth : position.directoryDepth ≤ maxDirectoryDepth) (es : List Event) :
    AlongRun step (fun s e => ∀ s', s.step e = some s' → s.StepSound e s')
        (ofPosition recursiveMode direction position findMode) es ↔
      AlongRun step (fun s e => ∀ s', s.step e = some s' → s.StartsRight e)
        (ofPosition recursiveMode direction position findMode) es := by
  apply alongRun_iff (I := Invariant)
  · intro s e s' hs hright hstep
    exact (hs.step hstep (hright s' hstep)).1
  · intro s e hs
    constructor
    · intro hsound s' hstep
      exact hs.startsRight hstep (hsound s' hstep)
    · intro hright s' hstep
      exact (hs.step hstep (hright s' hstep)).2
  · exact init_invariant recursiveMode hdirection position findMode hdepth

/-- A list with items, which are fetched when they are looked at. -/
def slowList : FindNextOp → ListAnswers := fun _ =>
  { visibleItems := 2
    hint := ⟨.started, true⟩
    item := (.started, none)
    child := ({}, true)
    parent := none
    enter := .failed }

/-- Playback of a list is started afresh, and the list is entered. -/
theorem depth_run_sound_fresh :
    AlongRun step (fun s e => ∀ s', s.step e = some s' → s.StepSound e s')
      (ofPosition .depthFirst .forward { requestedListId := ⟨1⟩ } .findFirst)
      [.start {} .started, .enterListResult slowList 1 .succeeded 2] := by
  apply (depth_run_sound_iff .depthFirst .forward nofun _ .findFirst (Nat.zero_le _) _).mpr
  refine ⟨fun _ _ => trivial, fun s hs => ⟨fun _ _ _ _ => ?_, fun _ _ => trivial⟩⟩
  obtain rfl := Option.some.inj hs
  rfl

/-- Playback is started afresh in the list the traversal list is in already: the first item
is looked at with depth 0. -/
theorem depth_not_counted_if_entered :
    ¬ ∀ (recursiveMode : RecursiveMode) (direction : Direction) (position : Cursor)
      (findMode : FindMode) (es : List Event),
      direction ≠ .none → position.directoryDepth ≤ maxDirectoryDepth →
      AlongRun step (fun s e => ∀ s', s.step e = some s' → s.StepSound e s')
        (ofPosition recursiveMode direction position findMode) es := by
  intro h
  have hrun := h .depthFirst .forward { requestedListId := ⟨1⟩ } .findFirst
    [.start ⟨1⟩ .started, .continueRunning slowList 1] nofun (Nat.zero_le _)
  have hsound := (hrun.2 _ rfl).1 _ rfl
  exact absurd (hsound.sound.counted rfl) nofun

end DepthRun

end Drcpd.Crawler

/-
  Crawler/WalkRuns.lean --- operations make the search of `Walk.lean`.

  Whatever the order in which items are found in the cache and are fetched, an operation
  ends where `scan` and `climb` say.  `LoopEnds` and `NextEnds` state it for an operation
  that is about to look at the item under the cursor, and for one that is about to go on
  behind it.
-/
import Drcpd.Crawler.Walk
import Drcpd.Foundation.Fuel

set_option autoImplicit false

namespace Drcpd.Crawler

open Drcpd.Lists
open Drcpd.Foundation

/-! ## Moving the cursor -/

section Cursor

variable {direction : Direction} {position : Cursor} {size x : Nat} {xs : List Nat}

theorem checkSelection_of_pos (h : 0 < size) : position.checkSelection size = position := by
  unfold Cursor.checkSelection
  rw [if_neg (Nat.ne_of_gt h)]

theorem lineNumber_of_linesAfter (h : ¬(size ≤ position.cursor ∨ intMax < position.cursor)) :
    position.lineNumber size = some position.cursor := by
  obtain ⟨hsize, hint⟩ := not_or.mp h
  exact if_pos ⟨Nat.lt_of_not_le hsize, Nat.le_of_not_lt hint⟩

theorem lineNumber_none (h : size ≤ position.cursor ∨ intMax < position.cursor) :
    (position.checkSelection size).lineNumber size = none := by
  unfold Cursor.lineNumber Cursor.checkSelection
  apply if_neg
  rintro ⟨hsize, hint⟩
  split_ifs at hsize hint with hempty
  · exact absurd hsize (by omega)
  · omega

theorem linesAfter_of_empty {line : Nat} (h : size = 0) :
    linesAfter direction size line = [] := by
  subst h
  exact if_pos (Or.inl (Nat.zero_le line))

/-- The cursor stays where there are no lines left. -/
theorem advance_of_nil (hdirection : direction ≠ .none)
    (h : linesAfter direction size position.cursor = []) :
    position.advance direction size = (false, position.checkSelection size) := by
  unfold linesAfter at h
  split_ifs at h with hend
  · have hnone := lineNumber_none hend
    cases direction with
    | none => exact absurd rfl hdirection
    | forward => simp [Cursor.advance, Cursor.down, hnone]
    | backward => simp [Cursor.advance, Cursor.up, hnone]
  · have hline := lineNumber_of_linesAfter hend
    obtain ⟨hsize, hint⟩ := not_or.mp hend
    have hsame : position.checkSelection size = position := checkSelection_of_pos (by omega)
    cases direction with
    | none => exact absurd rfl hdirection
    | forward =>
      have hlast : size ≤ position.cursor + 1 := by
        rw [List.range'_eq_nil_iff] at h
        omega
      simp [Cursor.advance, Cursor.down, hsame, hline, hlast]
    | backward =>
      have hfirst : position.cursor = 0 := by simpa using h
      have hline : position.lineNumber size = some 0 := by rw [hline, hfirst]
      simp [Cursor.advance, Cursor.up, hsame, hline]

/-- The cursor moves to the first of the lines that are left. -/
theorem advance_of_cons (h : linesAfter direction size position.cursor = x :: xs) :
    position.advance direction size = (true, { position with cursor := x }) ∧
      x < size ∧ linesAfter direction size x = xs := by
  unfold linesAfter at h
  split_ifs at h with hend
  have hline := lineNumber_of_linesAfter hend
  obtain ⟨hsize, hint⟩ := not_or.mp hend
  have hsame : position.checkSelection size = position := checkSelection_of_pos (by omega)
  cases direction with
  | none => exact absurd h nofun
  | forward =>
    obtain ⟨rfl, hlen, hxs⟩ := List.range'_eq_cons_iff.mp h
    have hmore : ¬ size ≤ position.cursor + 1 := by omega
    refine ⟨?_, by omega, ?_⟩
    · simp [Cursor.advance, Cursor.down, hsame, hline, hmore]
    · unfold linesAfter
      split_ifs with hlast
      · rw [hxs, eq_comm, List.range'_eq_nil_iff]
        omega
      · rw [hxs]
        congr 1
  | backward =>
    rcases hcursor : position.cursor with _ | previous
    · rw [hcursor] at h
      exact absurd h nofun
    · rw [hcursor, List.range_succ, List.reverse_append] at h
      obtain ⟨rfl, rfl⟩ := List.cons.inj h
      have hline : position.lineNumber size = some (previous + 1) := by rw [hline, hcursor]
      refine ⟨?_, by omega, ?_⟩
      · simp [Cursor.advance, Cursor.up, hsame, hline]
      · unfold linesAfter
        rw [if_neg (by omega)]
        rfl

/-- The lines behind the next line are those that are left behind it. -/
theorem linesAfter_of_cons {line : Nat} (h : linesAfter direction size line = x :: xs) :
    x < size ∧ linesAfter direction size x = xs := by
  have hposition : linesAfter direction size ({ cursor := line } : Cursor).cursor = x :: xs := h
  exact (advance_of_cons hposition).2

end Cursor

/-! ## An operation in the middle of its search -/

/-- The operation runs, with its cursor on a line of a list at some depth.  Its position
shows this list if it has moved to another list, and `shown` if it has not. -/
structure FindNextOp.Here (shown : ListId) (direction : Direction) (l : ListId)
    (hasMoved hasPassed : Bool) (line depth : Nat) (op : FindNextOp) : Prop where
  state : op.state = .running
  callback : op.hasOpDoneNotificationCallback = true
  waiting : op.isWaitingForItemHint = false
  mode : op.recursiveMode = .depthFirst
  posState : op.posState = .unknown
  list : op.position.listId = if hasMoved then l else shown
  cursor : op.position.cursor = line
  cursor_depth : op.position.directoryDepth = depth
  depth : op.directoryDepth = depth
  direction : op.direction = direction
  passed : op.hasSkippedFirst = hasPassed
  entering : op.enteringListCallerId = .crawlerAscend → hasPassed = true

/-- What becomes of an operation whose search comes to this ending. -/
structure Ending.Describes (shown : ListId) (direction : Direction) (e : Ending)
    (r : FindNextOp × ListId) : Prop where
  state : r.1.state = if e.kind = .failed then .failed else .done
  posState : r.1.posState =
    match e.kind with
    | .found => .somewhereInList
    | .reached => r.1.endState
    | .failed => .unknown
  direction : r.1.direction = direction
  list : r.1.position.listId = if e.hasMoved then e.list else shown
  cursor : r.1.position.cursor = e.line
  cursor_depth : r.1.position.directoryDepth = e.depth
  left : r.2 = e.list

namespace Tree

variable (t : Tree)

/-- What follows a function of an operation ends. -/
def FollowEnds (access : Nat → Nat → Access) (l : ListId) (P : FindNextOp × ListId → Prop)
    (done : FindNextOp × Effects) : Prop :=
  Ends (fun fuel => follow (t.drive fuel access) l done) P

/-- An operation that is about to look at the item under its cursor ends. -/
def LoopEnds (l : ListId) (op : FindNextOp) (P : FindNextOp × ListId → Prop) : Prop :=
  ∀ (now : Nat → Access) (access : Nat → Nat → Access),
    Ends (fun fuel => op.runAsFarAsPossible (t.answers l now) fuel) (t.FollowEnds access l P)

/-- The same, if the item is in the cache. -/
def LookEnds (l : ListId) (op : FindNextOp) (P : FindNextOp × ListId → Prop) : Prop :=
  ∀ (now : Nat → Access) (access : Nat → Nat → Access), now op.position.cursor = .cached →
    Ends (fun fuel => op.runAsFarAsPossible (t.answers l now) fuel) (t.FollowEnds access l P)

/-- An operation that is about to go on behind the item under its cursor ends. -/
def NextEnds (l : ListId) (op : FindNextOp) (proceed : FindNextOp → FindNextOp)
    (P : FindNextOp × ListId → Prop) : Prop :=
  ∀ (now : Nat → Access) (access : Nat → Nat → Access),
    Ends (fun fuel => op.continueSearchAndRun (t.answers l now) fuel proceed)
      (t.FollowEnds access l P)

/-! ## Going on behind an item -/

section Next

variable {t : Tree} {shown l : ListId} {direction : Direction} {hasMoved hasPassed : Bool}
  {line depth : Nat} {op : FindNextOp} {proceed : FindNextOp → FindNextOp}
  {P : FindNextOp × ListId → Prop}

/-- The operation after it has finished. -/
def finished (op : FindNextOp) (isSuccessful : Bool) : FindNextOp :=
  { op with
    state := if isSuccessful then .done else .failed
    hasOpDoneNotificationCallback := false }

/-- A running operation that finishes has ended. -/
theorem FollowEnds.of_finish (access : Nat → Nat → Access) (op : FindNextOp)
    (hstate : op.state = .running) (hcallback : op.hasOpDoneNotificationCallback = true)
    (isSuccessful : Bool) (requests : Requests) (hP : P (finished op isSuccessful, l)) :
    t.FollowEnds access l P
      ((op.finish isSuccessful).1,
        { (op.finish isSuccessful).2 with toRequests := requests }) := by
  refine .of_some (fun fuel => ?_) hP
  unfold FindNextOp.finish
  rw [OperationBase.operationFinished_of_running hstate hcallback]
  rfl

theorem NextEnds.of_finish (op' : FindNextOp) (hstate : op'.state = .running)
    (hcallback : op'.hasOpDoneNotificationCallback = true) (isSuccessful : Bool)
    (hsearch : ∀ now, op.continueSearch (t.answers l now op) =
      (if isSuccessful then .notWithSuccess else .notWithError, op', {}))
    (hP : P (finished op' isSuccessful, l)) : t.NextEnds l op proceed P := by
  intro now access
  refine .of_some (fun fuel => ?_)
    (FollowEnds.of_finish access op' hstate hcallback isSuccessful {} hP)
  unfold FindNextOp.continueSearchAndRun
  rw [hsearch now]
  cases isSuccessful <;> rfl

/-- The search moves to the next line. -/
theorem NextEnds.of_cons (h : op.Here shown direction l hasMoved hasPassed line depth)
    {x : Nat} {xs : List Nat} (hlines : linesAfter direction (t.size l) line = x :: xs)
    (hloop : t.LoopEnds l (proceed { op with position := { op.position with cursor := x } }) P) :
    t.NextEnds l op proceed P := by
  intro now access
  refine (hloop now access).congr fun fuel => ?_
  rw [← h.cursor] at hlines
  obtain ⟨hmoved, -, -⟩ := advance_of_cons hlines
  have hsearch : op.continueSearch (t.answers l now op) =
      (.withThisItem, { op with position := { op.position with cursor := x } }, {}) := by
    unfold FindNextOp.continueSearch
    dsimp only
    rw [h.direction]
    unfold Tree.answers
    dsimp only
    rw [hmoved]
    rfl
  unfold FindNextOp.continueSearchAndRun
  rw [hsearch]
  rfl

/-- The position where there are no lines left. -/
theorem continueSearch_of_nil (hdirection : direction ≠ .none)
    (h : op.Here shown direction l hasMoved hasPassed line depth) (now : Nat → Access)
    (hlines : linesAfter direction (t.size l) line = []) :
    op.position.advance op.direction (t.answers l now op).visibleItems =
      (false, op.position.checkSelection (t.size l)) := by
  rw [← h.cursor] at hlines
  rw [h.direction]
  exact advance_of_nil hdirection hlines

theorem checkSelection_cursor (position : Cursor) :
    (position.checkSelection (t.size l)).cursor = t.lastLine l position.cursor := by
  unfold Cursor.checkSelection Tree.lastLine
  split_ifs <;> rfl

theorem checkSelection_same (position : Cursor) (size : Nat) :
    (position.checkSelection size).listId = position.listId ∧
      (position.checkSelection size).directoryDepth = position.directoryDepth := by
  unfold Cursor.checkSelection
  split_ifs <;> exact ⟨rfl, rfl⟩

/-- The search ends behind the last line of a list at the top. -/
theorem NextEnds.of_top (hdirection : direction ≠ .none)
    (h : op.Here shown direction l hasMoved hasPassed line depth) (hdepth : depth ≤ 1)
    (hlines : linesAfter direction (t.size l) line = []) :
    t.NextEnds l op proceed
      (Ending.Describes shown direction ⟨.reached, l, t.lastLine l line, depth, hasMoved⟩) := by
  have hdirection' : op.direction ≠ .none := by
    rw [h.direction]
    exact hdirection
  have hdepth' : op.directoryDepth ≤ 1 := by
    rw [h.depth]
    exact hdepth
  have hsame := checkSelection_same op.position (t.size l)
  refine NextEnds.of_finish
    { op with position := op.position.checkSelection (t.size l), posState := op.endState }
    h.state h.callback true ?_ ?_
  · intro now
    unfold FindNextOp.continueSearch
    rw [continueSearch_of_nil hdirection h now hlines]
    dsimp only
    rw [if_neg Bool.false_ne_true, if_neg hdirection', if_pos hdepth']
    rfl
  · refine ⟨rfl, rfl, h.direction, ?_, ?_, ?_, rfl⟩
    · exact hsame.1.trans h.list
    · exact (checkSelection_cursor op.position).trans (by rw [h.cursor])
    · exact hsame.2.trans h.cursor_depth

/-- There is no way back from a list without a parent. -/
theorem NextEnds.of_orphan (hdirection : direction ≠ .none)
    (h : op.Here shown direction l hasMoved hasPassed line depth) (hdepth : 1 < depth)
    (hparent : t.parent l = none) (hlines : linesAfter direction (t.size l) line = []) :
    t.NextEnds l op proceed
      (Ending.Describes shown direction ⟨.failed, l, t.lastLine l line, depth, hasMoved⟩) := by
  have hdirection' : op.direction ≠ .none := by
    rw [h.direction]
    exact hdirection
  have hdepth' : ¬ op.directoryDepth ≤ 1 := by
    rw [h.depth]
    exact Nat.not_le.mpr hdepth
  have hsame := checkSelection_same op.position (t.size l)
  refine NextEnds.of_finish { op with position := op.position.checkSelection (t.size l) }
    h.state h.callback false ?_ ?_
  · intro now
    unfold FindNextOp.continueSearch
    rw [continueSearch_of_nil hdirection h now hlines]
    dsimp only
    rw [if_neg Bool.false_ne_true, if_neg hdirection', if_neg hdepth']
    unfold Tree.answers
    dsimp only
    rw [hparent]
    rfl
  · refine ⟨rfl, h.posState, h.direction, ?_, ?_, ?_, rfl⟩
    · exact hsame.1.trans h.list
    · exact (checkSelection_cursor op.position).trans (by rw [h.cursor])
    · exact hsame.2.trans h.cursor_depth

end Next

/-! ## Looking at an item -/

section Loop

variable {t : Tree} {shown l : ListId} {direction : Direction} {hasMoved hasPassed : Bool}
  {line depth : Nat} {op : FindNextOp} {P : FindNextOp × ListId → Prop}

theorem continueSearch_hinted (op : FindNextOp) (a : ListAnswers) :
    (op.continueSearch a).2.2.hinted = 0 := by
  have henter : ∀ (op : FindNextOp) callerId listId line,
      (op.enterList callerId listId line a.enter).2.2.hinted = 0 := by
    intro op callerId listId line
    unfold FindNextOp.enterList
    cases a.enter <;> rfl
  unfold FindNextOp.continueSearch
  dsimp only
  split_ifs
  · rfl
  · rfl
  · rfl
  · split
    · rfl
    · split_ifs
      · exact henter _ _ _ _
      · rfl

/-- A round of the loop that goes on behind the item under the cursor. -/
theorem ends_of_next {now : Nat → Access} {Q : FindNextOp × Effects → Prop} (op' : FindNextOp)
    (hround : op.finishWithCurrentItemOrContinue (t.answers l now op) =
      op'.continueSearch (t.answers l now op'))
    (hnext : Ends (fun fuel => op'.continueSearchAndRun (t.answers l now) fuel id) Q) :
    Ends (fun fuel => op.runAsFarAsPossible (t.answers l now) fuel) Q := by
  refine hnext.succ fun fuel => ?_
  have hhinted := continueSearch_hinted op' (t.answers l now op')
  unfold FindNextOp.runAsFarAsPossible FindNextOp.continueSearchAndRun
  dsimp only
  rw [hround, hhinted]
  split
  · rfl
  · simp

/-- The first item is skipped. -/
theorem LoopEnds.of_first (hwaiting : op.isWaitingForItemHint = false)
    (hfirst : op.isFirstToSkip (t.size l) = true)
    (hnext : t.NextEnds l
      { op with hasSkippedFirst := decide (op.enteringListCallerId = .crawlerAscend) } id P) :
    t.LoopEnds l op P := by
  intro now access
  refine ends_of_next _ ?_ (hnext now access)
  unfold FindNextOp.finishWithCurrentItemOrContinue
  rw [if_neg (by rw [hwaiting]; exact Bool.false_ne_true)]
  exact if_pos hfirst

/-- What the operation waits for comes. -/
theorem FollowEnds.of_event {access : Nat → Nat → Access} {done : FindNextOp × Effects}
    (l' : ListId) (op' : FindNextOp) (pending : Pending)
    (hfollow : ∀ drive, follow drive l done = drive l' pending op')
    (hevent : Ends (fun fuel => t.event (access 0) fuel l' op' pending)
      (t.FollowEnds (fun n => access (n + 1)) l' P)) : t.FollowEnds access l P done := by
  have hends : Ends (fun fuel => (t.event (access 0) fuel l' op' pending).bind
      (follow (t.drive fuel fun n => access (n + 1)) l')) P := hevent.bind fun _ h => h
  refine hends.succ fun fuel => ?_
  rw [hfollow]
  rfl

theorem hintedFn_of_active (op : FindNextOp) (hstate : op.state = .running)
    (answers : FindNextOp → ListAnswers) (fuel : Nat) :
    op.hintedFn answers fuel =
      FindNextOp.runAsFarAsPossible answers fuel { op with isWaitingForItemHint := false } := by
  have hactive : op.isOpActive = true := decide_eq_true hstate
  exact if_pos hactive

/-- The function passed with a hint is called. -/
theorem FollowEnds.of_hinted (access : Nat → Nat → Access) (hstate : op.state = .running)
    (isWaiting : Bool) (hwaiting : op.isWaitingForItemHint = false) (hlook : t.LookEnds l op P) :
    t.FollowEnds access l P ({ op with isWaitingForItemHint := isWaiting }, { hinted := 1 }) := by
  refine FollowEnds.of_event l { op with isWaitingForItemHint := isWaiting } .hinted ?_ ?_
  · intro drive
    rfl
  · have hsame : { op with isWaitingForItemHint := false } = op := by
      rw [← hwaiting]
    refine (hlook (fetched (access 0) op.position.cursor) _ (if_pos rfl)).congr fun fuel => ?_
    have hhinted := hintedFn_of_active { op with isWaitingForItemHint := isWaiting } hstate
      (t.answers l (fetched (access 0) op.position.cursor)) fuel
    rw [hsame] at hhinted
    exact hhinted

theorem finishWithCurrentItemOrContinue_of_look (hwaiting : op.isWaitingForItemHint = false)
    (hfirst : op.isFirstToSkip (t.size l) = false) (now : Nat → Access) :
    op.finishWithCurrentItemOrContinue (t.answers l now op) =
      ((op.accessItem (t.answers l now op)).1, (op.accessItem (t.answers l now op)).2.1,
        { (op.accessItem (t.answers l now op)).2.2 with
          hinted := (t.answers l now op).hint.startedFetch.toNat }) := by
  have hfirst : ¬ op.isFirstToSkip (t.answers l now op).visibleItems = true := by
    rw [Bool.not_eq_true]
    exact hfirst
  unfold FindNextOp.finishWithCurrentItemOrContinue
  rw [if_neg (by rw [hwaiting]; exact Bool.false_ne_true), if_neg hfirst]

/-- A round that ends the loop. -/
theorem runAsFarAsPossible_of_round {now : Nat → Access} {done : FindNextOp × Effects}
    (hround : FindNextOp.finishOpIfPossible
      (op.finishWithCurrentItemOrContinue (t.answers l now op)) = some done) (fuel : Nat) :
    op.runAsFarAsPossible (t.answers l now) (fuel + 1) = some done := by
  unfold FindNextOp.runAsFarAsPossible
  dsimp only
  rw [hround]

/-- Items that are fetched are looked at later. -/
theorem LoopEnds.of_look (hstate : op.state = .running)
    (hwaiting : op.isWaitingForItemHint = false)
    (hfirst : op.isFirstToSkip (t.size l) = false) (hcursor : op.position.cursor < t.size l)
    (hlook : t.LookEnds l op P) : t.LoopEnds l op P := by
  intro now access
  have hround := finishWithCurrentItemOrContinue_of_look hwaiting hfirst now
  cases hnow : now op.position.cursor with
  | cached => exact hlook now access hnow
  | hintStarted =>
    have hitem : op.accessItem (t.answers l now op) =
        (.later, { op with isWaitingForItemHint := true }, {}) := by
      unfold FindNextOp.accessItem Tree.answers
      dsimp only
      rw [hnow]
    refine Ends.succ (Ends.of_some (fun _ => rfl)
      (FollowEnds.of_hinted access hstate true hwaiting hlook)) fun fuel => ?_
    apply runAsFarAsPossible_of_round
    rw [hround, hitem]
    unfold Tree.answers
    dsimp only
    rw [hnow]
    rfl
  | itemStarted =>
    have hitem : op.accessItem (t.answers l now op) = (.later, op, {}) := by
      unfold FindNextOp.accessItem Tree.answers
      dsimp only
      rw [hnow]
      dsimp only
      rw [checkSelection_of_pos (Nat.zero_lt_of_lt hcursor)]
    have hsame : { op with isWaitingForItemHint := false } = op := by
      rw [← hwaiting]
    have hfollow := FollowEnds.of_hinted access hstate false hwaiting hlook
    rw [hsame] at hfollow
    refine Ends.succ (Ends.of_some (fun _ => rfl) hfollow) fun fuel => ?_
    apply runAsFarAsPossible_of_round
    rw [hround, hitem]
    unfold Tree.answers
    dsimp only
    rw [hnow]
    rfl

/-- An item in the cache is used at once. -/
theorem finishWithCurrentItemOrContinue_of_cached (hwaiting : op.isWaitingForItemHint = false)
    (hfirst : op.isFirstToSkip (t.size l) = false) {now : Nat → Access}
    (hnow : now op.position.cursor = .cached) {isDirectory : Bool}
    (hitem : (t.answers l now op).item = (.succeeded, some isDirectory))
    (hcursor : op.position.cursor < t.size l) :
    op.finishWithCurrentItemOrContinue (t.answers l now op) =
      ((op.useItem (t.answers l now op) isDirectory).1,
        (op.useItem (t.answers l now op) isDirectory).2.1,
        { (op.useItem (t.answers l now op) isDirectory).2.2 with hinted := 0 }) := by
  have haccess : op.accessItem (t.answers l now op) =
      op.useItem (t.answers l now op) isDirectory := by
    have hhint : (t.answers l now op).hint = ⟨.succeeded, false⟩ := by
      unfold Tree.answers
      dsimp only
      rw [hnow]
    unfold FindNextOp.accessItem
    rw [hhint]
    dsimp only
    rw [hitem]
    dsimp only
    have hsame : op.position.checkSelection (t.answers l now op).visibleItems = op.position :=
      checkSelection_of_pos (Nat.zero_lt_of_lt hcursor)
    rw [hsame]
  have hfetch : (t.answers l now op).hint.startedFetch.toNat = 0 := by
    unfold Tree.answers
    dsimp only
    rw [hnow]
    rfl
  rw [finishWithCurrentItemOrContinue_of_look hwaiting hfirst, haccess, hfetch]

/-- The item is found. -/
theorem LookEnds.of_file (h : op.Here shown direction l hasMoved hasPassed line depth)
    (hfirst : op.isFirstToSkip (t.size l) = false) (hline : line < t.size l)
    (hentry : t.entry l line = some .file) :
    t.LookEnds l op (Ending.Describes shown direction ⟨.found, l, line, depth, hasMoved⟩) := by
  intro now access hnow
  have hitem : (t.answers l now op).item = (.succeeded, some false) := by
    unfold Tree.answers
    dsimp only
    rw [hnow, h.cursor, hentry]
  have hround := finishWithCurrentItemOrContinue_of_cached h.waiting hfirst hnow hitem
    (by rw [h.cursor]; exact hline)
  refine Ends.succ (Ends.of_some (fun _ => rfl)
    (FollowEnds.of_finish access { op with posState := .somewhereInList } h.state h.callback true
      {} ?_)) fun fuel => ?_
  · exact ⟨rfl, rfl, h.direction, h.list, h.cursor, h.cursor_depth, rfl⟩
  · apply runAsFarAsPossible_of_round
    rw [hround]
    rfl

/-- A directory is skipped because it is too deep. -/
theorem LookEnds.of_limit (hdirection : direction ≠ .none)
    (h : op.Here shown direction l hasMoved hasPassed line depth)
    (hfirst : op.isFirstToSkip (t.size l) = false) (hline : line < t.size l) {child : ListId}
    (hentry : t.entry l line = some (.directory child)) (hdepth : maxDirectoryDepth ≤ depth)
    (hnext : t.NextEnds l op id P) : t.LookEnds l op P := by
  intro now access hnow
  have hitem : (t.answers l now op).item = (.succeeded, some true) := by
    unfold Tree.answers
    dsimp only
    rw [hnow, h.cursor, hentry]
  have huse : op.useItem (t.answers l now op) true = op.continueSearch (t.answers l now op) := by
    have hskip : op.checkSkipDirectory = true := by
      unfold FindNextOp.checkSkipDirectory
      rw [h.mode, h.depth]
      exact decide_eq_true hdepth
    unfold FindNextOp.useItem
    rw [if_neg (by decide), if_neg (by rw [h.direction]; exact hdirection), if_pos hskip]
  refine ends_of_next op ?_ (hnext now access)
  rw [finishWithCurrentItemOrContinue_of_cached h.waiting hfirst hnow hitem
    (by rw [h.cursor]; exact hline), huse, ← continueSearch_hinted op (t.answers l now op)]

theorem updateNavigation_eq (c : Cursor) (direction : Direction) (line size : Nat) :
    c.updateNavigation direction line size =
      { c with cursor := enteredLine direction size line } := by
  unfold Cursor.updateNavigation Cursor.setCursorByLineNumber enteredLine
  cases direction <;> simp <;> split_ifs <;> omega

/-! ## Entering lists -/

/-- The operation while it is entering a list. -/
def entering (op : FindNextOp) (callerId : CallerId) (l : ListId) (line : Nat) : FindNextOp :=
  { op with
    enteringListCallerId := callerId
    position := { op.position with requestedListId := l, requestedLine := line } }

/-- The operation when it has entered the list, with its cursor on the given line. -/
def entered (op : FindNextOp) (callerId : CallerId) (l : ListId) (line cursor depth : Nat) :
    FindNextOp :=
  { op with
    enteringListCallerId := callerId
    directoryDepth := depth
    hasSkippedFirst := false
    position :=
      { listId := l
        cursor := cursor
        directoryDepth := depth
        requestedListId := l
        requestedLine := line } }

/-- The list has been entered. -/
theorem FollowEnds.of_entering (access : Nat → Nat → Access) (callerId : CallerId)
    (child : ListId) (line : Nat)
    (hevent : ∀ (now : Nat → Access) (access : Nat → Nat → Access),
      Ends (fun fuel => (entering op callerId child line).enterListEvent (t.answers child now) fuel
        .succeeded callerId (t.size child)) (t.FollowEnds access child P)) :
    t.FollowEnds access l P
      (entering op callerId child line, { query := some ⟨callerId, child, line⟩ }) :=
  FollowEnds.of_event child (entering op callerId child line)
    (.entering ⟨callerId, child, line⟩) (fun _ => rfl) (hevent _ _)

theorem enterListEvent_descend (op : FindNextOp) (answers : FindNextOp → ListAnswers)
    (fuel size : Nat) (child : ListId) (line : Nat) :
    (entering op .crawlerDescend child line).enterListEvent answers fuel .succeeded
        .crawlerDescend size =
      if size = 0 then
        FindNextOp.continueSearchAndRun answers fuel
          (entered op .crawlerDescend child line (enteredLine op.direction size line)
            (op.directoryDepth + 1)) id
      else
        FindNextOp.runAsFarAsPossible answers fuel
          (entered op .crawlerDescend child line (enteredLine op.direction size line)
            (op.directoryDepth + 1)) := by
  unfold FindNextOp.enterListEvent FindNextOp.updateNavigation
  dsimp only
  rw [updateNavigation_eq]
  rfl

theorem enterListEvent_ascend (op : FindNextOp) (answers : FindNextOp → ListAnswers)
    (fuel size : Nat) (parent : ListId) (line : Nat) (hsize : 0 < size) :
    (entering op .crawlerAscend parent line).enterListEvent answers fuel .succeeded
        .crawlerAscend size =
      FindNextOp.runAsFarAsPossible answers fuel
        (entered op .crawlerAscend parent line (enteredLine .forward size line)
          (op.directoryDepth - 1)) := by
  unfold FindNextOp.enterListEvent FindNextOp.updateNavigation
  dsimp only
  rw [updateNavigation_eq]
  exact if_neg (Nat.ne_of_gt hsize)

theorem enteredLine_zero {size : Nat} (hsize : size = 0) :
    enteredLine direction size line = 0 := by
  subst hsize
  unfold enteredLine
  rw [if_pos (Nat.zero_le line)]
  split_ifs <;> rfl

/-- A directory is entered. -/
theorem LookEnds.of_directory (hdirection : direction ≠ .none)
    (h : op.Here shown direction l hasMoved hasPassed line depth)
    (hfirst : op.isFirstToSkip (t.size l) = false) (hline : line < t.size l) {child : ListId}
    (hentry : t.entry l line = some (.directory child)) (hdepth : depth < maxDirectoryDepth)
    (hempty : t.size child = 0 → ∀ op' : FindNextOp,
      op'.Here shown direction child true false 0 (depth + 1) → t.NextEnds child op' id P)
    (hloop : 0 < t.size child → ∀ op' : FindNextOp,
      op'.Here shown direction child true false (enteredLine direction (t.size child) 0)
        (depth + 1) → t.LoopEnds child op' P) :
    t.LookEnds l op P := by
  intro now access hnow
  have hitem : (t.answers l now op).item = (.succeeded, some true) := by
    unfold Tree.answers
    dsimp only
    rw [hnow, h.cursor, hentry]
  have hchild : (t.answers l now op).child = (child, false) := by
    unfold Tree.answers
    dsimp only
    rw [h.cursor, hentry]
  have huse : op.useItem (t.answers l now op) true =
      op.enterList .crawlerDescend child 0 .started := by
    have hskip : ¬ op.checkSkipDirectory = true := by
      unfold FindNextOp.checkSkipDirectory
      rw [h.mode, h.depth]
      simpa using hdepth
    unfold FindNextOp.useItem
    rw [if_neg (by decide), if_neg (by rw [h.direction]; exact hdirection), if_neg hskip, hchild]
    exact if_pos (t.child l line child hentry).1
  have hround := finishWithCurrentItemOrContinue_of_cached h.waiting hfirst hnow hitem
    (by rw [h.cursor]; exact hline)
  have hfollow : t.FollowEnds access l P
      (entering op .crawlerDescend child 0, { query := some ⟨.crawlerDescend, child, 0⟩ }) := by
    apply FollowEnds.of_entering
    intro now access
    have hhere : (entered op .crawlerDescend child 0
        (enteredLine op.direction (t.size child) 0) (op.directoryDepth + 1)).Here shown direction
        child true false (enteredLine direction (t.size child) 0) (depth + 1) :=
      ⟨h.state, h.callback, h.waiting, h.mode, h.posState, rfl, by rw [h.direction]; rfl,
        congrArg (· + 1) h.depth, congrArg (· + 1) h.depth, h.direction, rfl, nofun⟩
    rcases Nat.eq_zero_or_pos (t.size child) with hsize | hsize
    · rw [enteredLine_zero hsize] at hhere
      refine (hempty hsize _ hhere now access).congr fun fuel => ?_
      rw [enterListEvent_descend, if_pos hsize]
    · refine (hloop hsize _ hhere now access).congr fun fuel => ?_
      rw [enterListEvent_descend, if_neg (Nat.ne_of_gt hsize)]
  refine Ends.succ (Ends.of_some (fun _ => rfl) hfollow) fun fuel => ?_
  apply runAsFarAsPossible_of_round
  rw [hround, huse]
  rfl

/-- The search goes on behind the directory whose list has no lines left. -/
theorem NextEnds.of_parent {proceed : FindNextOp → FindNextOp} (hdirection : direction ≠ .none)
    (h : op.Here shown direction l hasMoved hasPassed line depth) (hdepth : 1 < depth)
    (hlines : linesAfter direction (t.size l) line = []) {parent : ListId} {parentLine : Nat}
    (hparent : t.parent l = some (parent, parentLine))
    (hentry : t.entry parent parentLine = some (.directory l))
    (hnext : ∀ op' : FindNextOp,
      op'.Here shown direction parent true true parentLine (depth - 1) →
        t.NextEnds parent op' id P) :
    t.NextEnds l op proceed P := by
  intro now access
  have hline : parentLine < t.size parent := (List.getElem?_eq_some_iff.mp hentry).1
  have hvalid : parent.isValid = true := by
    apply t.list_valid
    exact List.ne_nil_of_length_pos (Nat.zero_lt_of_lt hline)
  have hdirection' : op.direction ≠ .none := by
    rw [h.direction]
    exact hdirection
  have hdepth' : ¬ op.directoryDepth ≤ 1 := by
    rw [h.depth]
    exact Nat.not_le.mpr hdepth
  have hloop : t.LoopEnds parent
      (entered op .crawlerAscend parent parentLine (enteredLine .forward (t.size parent) parentLine)
        (op.directoryDepth - 1)) P := by
    have hcursor : enteredLine .forward (t.size parent) parentLine = parentLine := by
      unfold enteredLine
      rw [if_neg (Nat.not_le.mpr hline)]
      exact if_neg nofun
    refine LoopEnds.of_first ?_ ?_ ?_
    · exact h.waiting
    · unfold FindNextOp.isFirstToSkip
      cases hop : op.direction with
      | none => exact absurd hop hdirection'
      | forward => simp [entered, hop]
      | backward => simp [entered, hop]
    · apply hnext
      exact ⟨h.state, h.callback, h.waiting, h.mode, h.posState, rfl, hcursor,
        congrArg (· - 1) h.depth, congrArg (· - 1) h.depth, h.direction, rfl, fun _ => rfl⟩
  have hsearch : op.continueSearch (t.answers l now op) =
      (.later, entering { op with position := op.position.checkSelection (t.size l) }
        .crawlerAscend parent parentLine,
        { query := some ⟨.crawlerAscend, parent, parentLine⟩ }) := by
    unfold FindNextOp.continueSearch
    rw [continueSearch_of_nil hdirection h now hlines]
    dsimp only
    rw [if_neg Bool.false_ne_true, if_neg hdirection', if_neg hdepth']
    unfold Tree.answers
    dsimp only
    rw [hparent]
    exact if_pos hvalid
  refine Ends.of_some (a := (entering
    { op with position := op.position.checkSelection (t.size l) } .crawlerAscend parent parentLine,
    { query := some ⟨.crawlerAscend, parent, parentLine⟩ })) (fun fuel => ?_) ?_
  · unfold FindNextOp.continueSearchAndRun
    rw [hsearch]
    rfl
  · apply FollowEnds.of_entering
    intro now access
    refine (hloop now access).congr fun fuel => ?_
    rw [enterListEvent_ascend _ _ _ _ _ _ (Nat.zero_lt_of_lt hline)]
    rfl

end Loop

/-! ## Searching -/

section Scan

variable {t : Tree} {shown l : ListId} {direction : Direction} {hasMoved hasPassed : Bool}
  {line depth : Nat} {op : FindNextOp}

/-- Behind the last line of a list the operation ends as `rest` says. -/
def RestEnds (t : Tree) (shown : ListId) (direction : Direction) (l : ListId) (depth : Nat)
    (rest : Rest) : Prop :=
  ∀ (hasMoved hasPassed : Bool) (line : Nat) (op : FindNextOp)
    (proceed : FindNextOp → FindNextOp),
    op.Here shown direction l hasMoved hasPassed line depth →
    linesAfter direction (t.size l) line = [] →
      t.NextEnds l op proceed (Ending.Describes shown direction (rest hasMoved line))

/-- The first line is skipped where a list has been entered backward at its beginning. -/
theorem isFirstToSkip_iff (hdirection : direction ≠ .none)
    (h : op.Here shown direction l hasMoved hasPassed line depth) (hline : line < t.size l) :
    op.isFirstToSkip (t.size l) = true ↔
      direction = .backward ∧ line = 0 ∧ hasPassed = false := by
  unfold FindNextOp.isFirstToSkip
  rw [checkSelection_of_pos (Nat.zero_lt_of_lt hline), h.passed, h.direction, h.cursor]
  cases hasPassed with
  | true => simp
  | false =>
    have hentering : op.enteringListCallerId ≠ .crawlerAscend := fun hascend =>
      Bool.false_ne_true (h.entering hascend)
    cases direction with
    | none => exact absurd rfl hdirection
    | forward => simp [hentering, hline]
    | backward => simp [hentering]

theorem enteredLine_lt {size : Nat} (hsize : 0 < size) :
    enteredLine direction size line < size := by
  unfold enteredLine
  split_ifs <;> omega

theorem isFirstToSkip_of_empty (hdirection : op.direction ≠ .none)
    (hpassed : op.hasSkippedFirst = false) {size : Nat} (hsize : size = 0) :
    op.isFirstToSkip size = true := by
  subst hsize
  unfold FindNextOp.isFirstToSkip Cursor.checkSelection
  rw [hpassed]
  cases hop : op.direction with
  | none => exact absurd hop hdirection
  | forward => simp
  | backward => simp

/-- The operation ends as `scan` says, from any line of the list. -/
def ListEnds (t : Tree) (shown : ListId) (direction : Direction) (l : ListId) (depth : Nat) :
    Prop :=
  ∀ (rest : Rest), RestEnds t shown direction l depth rest →
    ∀ (xs : List Nat) (x : Nat) (hasMoved hasPassed : Bool) (op : FindNextOp) (c : Nat),
      op.Here shown direction l hasMoved hasPassed x depth → x < t.size l →
      linesAfter direction (t.size l) x = xs →
      t.LoopEnds l op (Ending.Describes shown direction
        (t.scan direction l depth (x :: xs) rest hasMoved hasPassed c))

/-- Behind the list of a directory the operation goes on in its parent. -/
theorem RestEnds.behind (hdirection : direction ≠ .none) {child : ListId} {xs : List Nat}
    {rest : Rest} (hentry : t.entry l line = some (.directory child))
    (hnext : ∀ op : FindNextOp, op.Here shown direction l true true line depth →
      t.NextEnds l op id (Ending.Describes shown direction
        (t.scan direction l depth xs rest true true line))) :
    RestEnds t shown direction child (depth + 1)
      (behind t direction l depth line xs rest child) := by
  intro hasMoved hasPassed childLine op proceed h hlines
  unfold Tree.behind
  rcases Nat.eq_zero_or_pos depth with hdepth | hdepth
  · rw [if_pos hdepth]
    refine NextEnds.of_top hdirection h ?_ hlines
    rw [hdepth]
  · rw [if_neg (Nat.ne_of_gt hdepth)]
    exact NextEnds.of_parent hdirection h (Nat.succ_lt_succ hdepth) hlines
      (t.child l line child hentry).2.1 hentry hnext

/-- The operation looks at one line; what is behind it and below it is known. -/
theorem look_ends (hdirection : direction ≠ .none) {xs : List Nat} {rest : Rest}
    (hnext : ∀ (hasMoved hasPassed : Bool) (op : FindNextOp),
      op.Here shown direction l hasMoved hasPassed line depth →
        t.NextEnds l op id (Ending.Describes shown direction
          (t.scan direction l depth xs rest hasMoved hasPassed line)))
    (hchild : ∀ child, t.entry l line = some (.directory child) →
      ListEnds t shown direction child (depth + 1))
    (h : op.Here shown direction l hasMoved hasPassed line depth) (hline : line < t.size l)
    (c : Nat) :
    t.LoopEnds l op (Ending.Describes shown direction
      (t.scan direction l depth (line :: xs) rest hasMoved hasPassed c)) := by
  have hskip := isFirstToSkip_iff hdirection h hline
  rcases Decidable.em (direction = .backward ∧ line = 0 ∧ hasPassed = false) with hfirst | hfirst
  · rw [scan_cons_first hfirst]
    apply LoopEnds.of_first h.waiting (hskip.mpr hfirst)
    have hentering : decide (op.enteringListCallerId = .crawlerAscend) = false := by
      apply decide_eq_false
      intro hascend
      rw [hfirst.2.2] at h
      exact Bool.false_ne_true (h.entering hascend)
    apply hnext
    exact ⟨h.state, h.callback, h.waiting, h.mode, h.posState, h.list, h.cursor, h.cursor_depth,
      h.depth, h.direction, hentering.trans hfirst.2.2.symm, h.entering⟩
  · have hnot : op.isFirstToSkip (t.size l) = false := by
      rw [← Bool.not_eq_true]
      exact fun hskips => hfirst (hskip.mp hskips)
    have hcursor : op.position.cursor < t.size l := by
      rw [h.cursor]
      exact hline
    apply LoopEnds.of_look h.state h.waiting hnot hcursor
    cases hentry : t.entry l line with
    | none => exact absurd (List.getElem?_eq_none_iff.mp hentry) (Nat.not_le.mpr hline)
    | some entry =>
      cases entry with
      | file =>
        rw [scan_cons_file hfirst hentry]
        exact LookEnds.of_file h hnot hline hentry
      | directory child =>
        rcases Nat.lt_or_ge depth maxDirectoryDepth with hdepth | hdepth
        · rw [scan_cons_directory hfirst hentry hdepth]
          have hrest : RestEnds t shown direction child (depth + 1)
              (behind t direction l depth line xs rest child) :=
            RestEnds.behind hdirection hentry (hnext true true)
          apply LookEnds.of_directory hdirection h hnot hline hentry hdepth
          · intro hsize op' h'
            rw [linesFrom, if_pos hsize, scan_nil]
            exact hrest true false 0 op' id h' (linesAfter_of_empty hsize)
          · intro hsize op' h'
            rw [linesFrom, if_neg (Nat.ne_of_gt hsize)]
            exact hchild child hentry _ hrest _ _ true false op' 0 h' (enteredLine_lt hsize) rfl
        · rw [scan_cons_limit hfirst hentry hdepth]
          exact LookEnds.of_limit hdirection h hnot hline hentry hdepth (hnext _ _ op h)

/-- By induction on the number of lists nested below, and on the lines that are left. -/
theorem listEnds (hdirection : direction ≠ .none) (l : ListId) (depth : Nat) :
    ListEnds t shown direction l depth := by
  induction hheight : t.height l using Nat.strong_induction_on generalizing l depth with
  | _ height ih =>
    intro rest hrest xs
    have hchild : ∀ line child, t.entry l line = some (.directory child) →
        ListEnds t shown direction child (depth + 1) := by
      intro line child hentry
      have hless := (t.child l line child hentry).2.2
      rw [hheight] at hless
      exact ih _ hless child (depth + 1) rfl
    induction xs with
    | nil =>
      intro x hasMoved hasPassed op c h hline hlines
      refine look_ends hdirection ?_ (hchild x) h hline c
      intro hasMoved hasPassed op h
      rw [scan_nil]
      exact hrest _ _ _ _ _ h hlines
    | cons y ys ihxs =>
      intro x hasMoved hasPassed op c h hline hlines
      refine look_ends hdirection ?_ (hchild x) h hline c
      intro hasMoved hasPassed op h
      obtain ⟨hy, hys⟩ := linesAfter_of_cons hlines
      refine NextEnds.of_cons h hlines (ihxs y hasMoved hasPassed _ x ?_ hy hys)
      exact ⟨h.state, h.callback, h.waiting, h.mode, h.posState, h.list, rfl, h.cursor_depth,
        h.depth, h.direction, h.passed, h.entering⟩

/-- The search goes on behind a line of a list. -/
theorem scan_ends (hdirection : direction ≠ .none) {rest : Rest}
    (hrest : RestEnds t shown direction l depth rest)
    (h : op.Here shown direction l hasMoved hasPassed line depth)
    {proceed : FindNextOp → FindNextOp} {b : Bool}
    (hproceed : ∀ x, (proceed { op with position := { op.position with cursor := x } }).Here
      shown direction l hasMoved b x depth) :
    t.NextEnds l op proceed (Ending.Describes shown direction
      (t.scan direction l depth (linesAfter direction (t.size l) line) rest hasMoved b line)) := by
  cases hlines : linesAfter direction (t.size l) line with
  | nil =>
    rw [scan_nil]
    exact hrest _ _ _ _ _ h hlines
  | cons x xs =>
    obtain ⟨hx, hxs⟩ := linesAfter_of_cons hlines
    exact NextEnds.of_cons h hlines
      (listEnds hdirection l depth rest hrest xs x hasMoved b _ line (hproceed x) hx hxs)

/-- Only the cursor is moved. -/
theorem Here.move (h : op.Here shown direction l hasMoved hasPassed line depth) (x : Nat) :
    FindNextOp.Here shown direction l hasMoved hasPassed x depth
      { op with position := { op.position with cursor := x } } :=
  ⟨h.state, h.callback, h.waiting, h.mode, h.posState, h.list, rfl, h.cursor_depth, h.depth,
    h.direction, h.passed, h.entering⟩

/-- Behind the last line of a list the operation goes on in its parents. -/
theorem climb_ends (hdirection : direction ≠ .none) (depth : Nat) (l : ListId) :
    RestEnds t shown direction l depth (t.climb direction depth l) := by
  induction depth generalizing l with
  | zero =>
    intro hasMoved hasPassed line op proceed h hlines
    exact NextEnds.of_top hdirection h (Nat.zero_le 1) hlines
  | succ depth ih =>
    intro hasMoved hasPassed line op proceed h hlines
    cases depth with
    | zero => exact NextEnds.of_top hdirection h (Nat.le_refl 1) hlines
    | succ depth =>
      unfold climb
      cases hparent : t.parent l with
      | none =>
        exact NextEnds.of_orphan hdirection h (Nat.succ_lt_succ (Nat.succ_pos depth)) hparent hlines
      | some link =>
        obtain ⟨parent, parentLine⟩ := link
        refine NextEnds.of_parent hdirection h (Nat.succ_lt_succ (Nat.succ_pos depth)) hlines
          hparent (t.parent_entry l parent parentLine hparent) ?_
        intro op' h'
        exact scan_ends hdirection (ih parent) h' (Here.move h')

end Scan

/-! ## Whole operations -/

section RunOp

variable {t : Tree} {direction : Direction} {l : ListId}

/-- The operation after `start` has called `do_start`. -/
def started (op : FindNextOp) : FindNextOp :=
  { op with state := .running, hasOpDoneNotificationCallback := true }

theorem start_of_doStart {op : FindNextOp} (hnew : op.state = .notStarted) {enter : OpResult}
    {effects : Effects} (hstart : (started op).doStart l enter = some effects) :
    op.start l enter = (true, started op, effects) := by
  unfold started at hstart
  unfold FindNextOp.start
  rw [OperationBase.beginStart_of_notStarted hnew]
  dsimp only
  rw [hstart]
  rfl

/-- An operation that yields when it is started is continued. -/
theorem runOp_of_yield {op : FindNextOp} (hnew : op.state = .notStarted)
    (hyield : op.position.requestedListId = l ∨ op.findMode = .findNext)
    (access : Nat → Nat → Access) {P : FindNextOp × ListId → Prop}
    (hcontinue : ∀ (now : Nat → Access) (access : Nat → Nat → Access),
      Ends (fun fuel => (started op).doContinue (t.answers l now) fuel) (t.FollowEnds access l P)) :
    Ends (fun fuel => t.runOp fuel access l op) P := by
  have hfollow : t.FollowEnds access l P
      (started op, { notification := some (.sent .yielding) }) :=
    FollowEnds.of_event l (started op) .yielded (fun _ => rfl) (hcontinue _ _)
  have hstart : (started op).doStart l .started =
      some { notification := some (.sent .yielding) } := if_pos hyield
  refine hfollow.congr fun fuel => ?_
  unfold Tree.runOp
  rw [start_of_doStart hnew hstart]

/-- An operation that enters a list when it is started. -/
theorem runOp_of_enter {op : FindNextOp} (hnew : op.state = .notStarted)
    (hyield : ¬(op.position.requestedListId = l ∨ op.findMode = .findNext))
    (access : Nat → Nat → Access) {P : FindNextOp × ListId → Prop}
    (henter : ∀ (now : Nat → Access) (access : Nat → Nat → Access),
      Ends (fun fuel => (started op).enterListEvent
          (t.answers op.position.requestedListId now) fuel .succeeded op.enteringListCallerId
          (t.size op.position.requestedListId))
        (t.FollowEnds access op.position.requestedListId P)) :
    Ends (fun fuel => t.runOp fuel access l op) P := by
  have hfollow : t.FollowEnds access l P
      (started op,
        { query := some
            ⟨op.enteringListCallerId, op.position.requestedListId, op.position.requestedLine⟩ }) :=
    FollowEnds.of_event op.position.requestedListId (started op) (.entering _) (fun _ => rfl)
      (henter _ _)
  have hstart : (started op).doStart l .started =
      some
        { query := some
            ⟨op.enteringListCallerId, op.position.requestedListId,
              op.position.requestedLine⟩ } := if_neg hyield
  refine hfollow.congr fun fuel => ?_
  unfold Tree.runOp
  rw [start_of_doStart hnew hstart]

/-- An operation that is to find the next item ends as the search says. -/
theorem findNext_ends (hdirection : direction ≠ .none) (position : Cursor)
    (access : Nat → Nat → Access) :
    Ends
      (fun fuel => t.runOp fuel access l
        (FindNextOp.make .depthFirst direction position .findNext))
      (Ending.Describes position.listId direction
        (t.findNext direction l position.cursor position.directoryDepth)) := by
  refine runOp_of_yield rfl (Or.inr rfl) access fun now access => ?_
  have hhere : (started (FindNextOp.make .depthFirst direction position .findNext)).Here
      position.listId direction l false false position.cursor position.directoryDepth := by
    refine ⟨rfl, rfl, rfl, rfl, rfl, rfl, rfl, rfl, rfl, rfl, rfl, ?_⟩
    intro hascend
    unfold started FindNextOp.make at hascend
    dsimp only at hascend
    rw [if_neg hdirection] at hascend
    exact absurd hascend nofun
  have hends : t.NextEnds l (started (FindNextOp.make .depthFirst direction position .findNext))
      (fun op => { op with hasSkippedFirst := true })
      (Ending.Describes position.listId direction
        (t.findNext direction l position.cursor position.directoryDepth)) := by
    apply scan_ends hdirection (climb_ends hdirection position.directoryDepth l) hhere
    intro x
    exact ⟨rfl, rfl, rfl, rfl, rfl, rfl, rfl, rfl, rfl, rfl, rfl, fun _ => rfl⟩
  exact hends now access

/-- The first list ends as `scan` says, from the line it is entered at. -/
theorem first_ends (hdirection : direction ≠ .none) {shown : ListId} {hasMoved : Bool}
    {line depth : Nat} {op : FindNextOp}
    (h : op.Here shown direction l hasMoved false line depth) (hline : line < t.size l) :
    t.LoopEnds l op (Ending.Describes shown direction
      (t.scan direction l depth (linesFrom direction (t.size l) line)
        (t.climb direction depth l) hasMoved false line)) := by
  rw [linesFrom, if_neg (Nat.ne_of_gt (Nat.zero_lt_of_lt hline))]
  exact listEnds hdirection l depth _ (climb_ends hdirection depth l) _ _ _ _ _ _ h hline rfl

/-- The operation when it has entered its first list. -/
def enteredFirst (op : FindNextOp) (size : Nat) : FindNextOp :=
  { op with
    directoryDepth := 1
    position :=
      { op.position with
        listId := op.position.requestedListId
        cursor := enteredLine op.direction size op.position.requestedLine
        directoryDepth := 1 } }

theorem enterListEvent_first (op : FindNextOp) (answers : FindNextOp → ListAnswers)
    (fuel size : Nat) :
    op.enterListEvent answers fuel .succeeded .crawlerFirstEntry size =
      if size = 0 then
        some (FindNextOp.finish { enteredFirst op size with posState := op.endState } true)
      else FindNextOp.runAsFarAsPossible answers fuel (enteredFirst op size) := by
  unfold FindNextOp.enterListEvent FindNextOp.updateNavigation
  dsimp only
  rw [updateNavigation_eq]
  rfl

/-- An operation that is to find the first item ends as the search says. -/
theorem findFirst_ends (hdirection : direction ≠ .none) (l : ListId) (line : Nat)
    (access : Nat → Nat → Access) :
    Ends (fun fuel => t.runOp fuel access l (t.firstOp direction l line))
      (Ending.Describes t.root direction (t.findFirst direction l line)) := by
  have hentering : (t.firstOp direction l line).enteringListCallerId = .crawlerFirstEntry :=
    if_neg hdirection
  have hnever : (t.firstOp direction l line).enteringListCallerId ≠ .crawlerAscend := by
    rw [hentering]
    exact nofun
  unfold findFirst
  rcases Decidable.em (t.root = l) with hroot | hroot
  · rw [if_pos hroot]
    subst hroot
    refine runOp_of_yield rfl (Or.inl rfl) access fun now access => ?_
    have hhere : (started (t.firstOp direction t.root line)).Here t.root direction t.root false
        false (if t.size t.root ≤ line then 0 else line) 0 :=
      ⟨rfl, rfl, rfl, rfl, rfl, rfl, rfl, rfl, rfl, rfl, rfl, fun h => absurd h hnever⟩
    have hends : t.LoopEnds t.root (started (t.firstOp direction t.root line))
        (Ending.Describes t.root direction
          (t.scan direction t.root 0
            (linesFrom direction (t.size t.root) (if t.size t.root ≤ line then 0 else line))
            (t.climb direction 0 t.root) false false
            (if t.size t.root ≤ line then 0 else line))) := by
      rcases Nat.eq_zero_or_pos (t.size t.root) with hsize | hsize
      · refine LoopEnds.of_first rfl (isFirstToSkip_of_empty hdirection rfl hsize) ?_
        rw [linesFrom, if_pos hsize, scan_nil]
        exact climb_ends hdirection 0 t.root false _ _ _ _
          ⟨rfl, rfl, rfl, rfl, rfl, rfl, rfl, rfl, rfl, rfl, rfl, fun h => absurd h hnever⟩
          (linesAfter_of_empty hsize)
      · apply first_ends hdirection hhere
        split_ifs with hline
        · exact hsize
        · exact Nat.lt_of_not_le hline
    exact hends now access
  · rw [if_neg hroot]
    refine runOp_of_enter rfl (not_or.mpr ⟨hroot, FindMode.noConfusion⟩) access
      fun now access => ?_
    rw [hentering]
    have hhere : (enteredFirst (started (t.firstOp direction l line)) (t.size t.root)).Here t.root
        direction t.root true false (enteredLine direction (t.size t.root) line) 1 :=
      ⟨rfl, rfl, rfl, rfl, rfl, rfl, rfl, rfl, rfl, rfl, rfl, fun h => absurd h hnever⟩
    rcases Nat.eq_zero_or_pos (t.size t.root) with hsize | hsize
    · refine Ends.of_some (fun fuel => ?_) (FollowEnds.of_finish access
        { enteredFirst (started (t.firstOp direction l line)) (t.size t.root) with
          posState := (t.firstOp direction l line).endState } rfl rfl true {} ?_)
      · exact (enterListEvent_first _ _ _ _).trans (if_pos hsize)
      · dsimp only
        rw [linesFrom, if_pos hsize, scan_nil]
        refine ⟨rfl, rfl, rfl, rfl, ?_, rfl, rfl⟩
        unfold climb lastLine
        rw [if_pos hsize]
        exact enteredLine_zero hsize
    · refine (first_ends hdirection hhere (enteredLine_lt hsize) now access).congr fun fuel => ?_
      exact (enterListEvent_first _ _ _ _).trans (if_neg (Nat.ne_of_gt hsize))

end RunOp

end Tree

end Drcpd.Crawler

/-
  Crawler/StartLists.lean --- the same operation, started in different lists.

  An operation that is to find the next item does not enter the list of its position: it
  goes on in the list the traversal list is in.  `findNext_independent_iff` compares what
  becomes of it where this is one list and where it is another one.
-/
import Drcpd.Crawler.TraversalRuns

set_option autoImplicit false

namespace Drcpd.Crawler

open Drcpd.Lists
open Drcpd.Foundation

/-- What is left of an operation when it has finished: its result, and its position. -/
structure Outcome where
  state : OpState
  posState : PositionalState
  listId : ListId
  line : Nat
  directoryDepth : Nat
  deriving DecidableEq, Repr

def FindNextOp.outcome (op : FindNextOp) : Outcome where
  state := op.state
  posState := op.posState
  listId := op.position.listId
  line := op.position.cursor
  directoryDepth := op.position.directoryDepth

/-- What a search that comes to this ending leaves, where the position of the operation was
in the list `shown`. -/
def Ending.outcome (direction : Direction) (shown : ListId) (e : Ending) : Outcome where
  state := if e.kind = .failed then .failed else .done
  posState :=
    match e.kind with
    | .found => .somewhereInList
    | .reached => direction.endState
    | .failed => .unknown
  listId := if e.hasMoved then e.list else shown
  line := e.line
  directoryDepth := e.depth

namespace Tree

variable {t : Tree} {direction : Direction}

/-- The operation that is to find the next item behind a position. -/
def findNextOutcome (t : Tree) (direction : Direction) (position : Cursor)
    (access : Nat → Nat → Access) (l : ListId) (fuel : Nat) : Option Outcome :=
  (t.runOp fuel access l (FindNextOp.make .depthFirst direction position .findNext)).map
    fun (op, _) => op.outcome

theorem findNextOutcome_ends (hdirection : direction ≠ .none) (position : Cursor)
    (access : Nat → Nat → Access) (l : ListId) :
    Ends (t.findNextOutcome direction position access l)
      (· = (t.findNext direction l position.cursor position.directoryDepth).outcome direction
        position.listId) := by
  refine (t.findNext_ends (l := l) hdirection position access).map fun r hr => ?_
  obtain ⟨op, l'⟩ := r
  have hposState := hr.posState
  rw [endState_of_direction hr.direction] at hposState
  exact (Outcome.mk.injEq ..).mpr
    ⟨hr.state, hposState, hr.list, hr.cursor, hr.cursor_depth⟩

/-- Both operations finish, and leave the same. -/
def SameOutcome (t : Tree) (direction : Direction) (position : Cursor)
    (access access' : Nat → Nat → Access) (l l' : ListId) : Prop :=
  ∃ outcome, Ends (t.findNextOutcome direction position access l) (· = outcome) ∧
    Ends (t.findNextOutcome direction position access' l') (· = outcome)

theorem sameOutcome_iff (hdirection : direction ≠ .none) (position : Cursor)
    (access access' : Nat → Nat → Access) (l l' : ListId) :
    t.SameOutcome direction position access access' l l' ↔
      (t.findNext direction l position.cursor position.directoryDepth).outcome direction
          position.listId =
        (t.findNext direction l' position.cursor position.directoryDepth).outcome direction
          position.listId := by
  have hends := findNextOutcome_ends (t := t) hdirection position access l
  have hends' := findNextOutcome_ends (t := t) hdirection position access' l'
  constructor
  · rintro ⟨outcome, hl, hl'⟩
    exact (hends.iff_of_ends.mp hl).trans (hends'.iff_of_ends.mp hl').symm
  · intro h
    exact ⟨_, hends, h ▸ hends'⟩

/-! ## A search that fails -/

/-- A search among lines of a list does not fail, if it does not fail behind them. -/
theorem scan_succeeds {rest : Rest} {l : ListId} {depth : Nat} (lines : List Nat)
    (hrest : ∀ hasMoved line, (rest hasMoved line).kind ≠ .failed)
    (hlines : ∀ line ∈ lines, line < t.size l) (hasMoved hasPassed : Bool) (c : Nat) :
    (t.scan direction l depth lines rest hasMoved hasPassed c).kind ≠ .failed := by
  induction hheight : t.height l using Nat.strong_induction_on
    generalizing l depth lines rest hasMoved hasPassed c with
  | _ height ih =>
    induction lines generalizing hasMoved hasPassed c with
    | nil =>
      rw [scan_nil]
      exact hrest hasMoved c
    | cons x xs ihxs =>
      have hxs := ihxs fun line hline => hlines line (List.mem_cons_of_mem x hline)
      rcases Decidable.em (direction = .backward ∧ x = 0 ∧ hasPassed = false) with hfirst | hfirst
      · rw [scan_cons_first hfirst]
        exact hxs _ _ _
      · cases hentry : t.entry l x with
        | none =>
          have hx := hlines x List.mem_cons_self
          exact absurd (List.getElem?_eq_none_iff.mp hentry) (Nat.not_le.mpr hx)
        | some entry =>
          cases entry with
          | file =>
            rw [scan_cons_file hfirst hentry]
            exact nofun
          | directory child =>
            rcases Nat.lt_or_ge depth maxDirectoryDepth with hdepth | hdepth
            · rw [scan_cons_directory hfirst hentry hdepth]
              have hless := (t.child _ _ _ hentry).2.2
              rw [hheight] at hless
              refine ih _ hless _ ?_ ?_ _ _ _ rfl
              · intro hasMoved line
                unfold behind
                split_ifs
                · exact nofun
                · exact hxs _ _ _
              · intro line hline
                have hentered : enteredLine direction (t.size child) 0 < t.size child ∨
                    enteredLine direction (t.size child) 0 = 0 :=
                  (Nat.eq_zero_or_pos (t.size child)).symm.imp (fun h => enteredLine_lt h)
                    fun h => enteredLine_zero h
                have hlines : (linesFrom direction (t.size child)
                    (enteredLine direction (t.size child) 0)).Sublist
                      (t.linesInDirection direction child) := linesFrom_sublist hentered
                exact (mem_linesInDirection child line).mp (hlines.subset hline)
            · rw [scan_cons_limit hfirst hentry hdepth]
              exact hxs _ _ _

/-- Behind the first line of a directory of the root, the search goes on in the root. -/
theorem findNext_succeeds {x : Nat} {child : ListId}
    (hentry : t.entry t.root x = some (.directory child)) :
    (t.findNext .backward child 0 2).kind ≠ .failed := by
  have hnone : linesAfter .backward (t.size child) 0 = [] := by
    unfold linesAfter
    split_ifs <;> rfl
  unfold findNext
  rw [hnone, scan_nil]
  unfold climb
  rw [(t.child _ _ _ hentry).2.1]
  have hroot : ∀ hasMoved line, (t.climb .backward 1 t.root hasMoved line).kind ≠ .failed := by
    intro hasMoved line hfailed
    unfold climb at hfailed
    cases hfailed
  refine scan_succeeds _ hroot ?_ _ _ _
  intro line hline
  have hx := lt_size hentry
  unfold linesAfter at hline
  split_ifs at hline with hend
  · exact absurd hline List.not_mem_nil
  · exact Nat.lt_trans (List.mem_range.mp (List.mem_reverse.mp hline)) hx

/-- In the root itself it cannot go back to a parent. -/
theorem findNext_fails (t : Tree) : (t.findNext .backward t.root 0 2).kind = .failed := by
  have hnone : linesAfter .backward (t.size t.root) 0 = [] := by
    unfold linesAfter
    split_ifs <;> rfl
  unfold findNext
  rw [hnone, scan_nil]
  unfold climb
  rw [t.parent_root]

/-! ## Trees in which it does not matter where an operation is started -/

/-- A list of the tree. -/
def HasList (t : Tree) (l : ListId) : Prop := t.Below t.root l

/-- A position in the tree; in an empty list there is line 0 only. -/
structure HasPosition (t : Tree) (position : Cursor) : Prop where
  depth : t.AtDepth 1 position.listId position.directoryDepth
  line : position.cursor < t.size position.listId ∨ position.cursor = 0

/-- The root holds no directories. -/
def HasNoSubdirectory (t : Tree) : Prop :=
  ∀ line child, t.entry t.root line ≠ some (.directory child)

theorem hasList_iff (h : t.HasNoSubdirectory) (l : ListId) : t.HasList l ↔ l = t.root := by
  unfold HasList
  rw [below_iff]
  constructor
  · rintro (hroot | ⟨line, child, hentry, _⟩)
    · exact hroot
    · exact absurd hentry (h line child)
  · exact Or.inl

/-- Two lists the search behind a position fails in, and does not fail in. -/
theorem not_sameOutcome {x : Nat} {child : ListId}
    (hentry : t.entry t.root x = some (.directory child)) (access access' : Nat → Nat → Access) :
    ¬ t.SameOutcome .backward { listId := child, cursor := 0, directoryDepth := 2 } access
      access' t.root child := by
  have hdirection : Direction.backward ≠ .none := nofun
  rw [sameOutcome_iff hdirection]
  intro hsame
  have hstate := congrArg Outcome.state hsame
  unfold Ending.outcome at hstate
  dsimp only at hstate
  rw [if_pos t.findNext_fails, if_neg (findNext_succeeds hentry)] at hstate
  exact absurd hstate nofun

/-- An operation that is to find the next item comes to the same end in two lists exactly
if the search behind its position does; and it always does exactly if there is only one
list it can be started in. -/
theorem findNext_independent_iff (t : Tree) :
    (∀ direction, direction ≠ .none → ∀ position access access' l l',
      t.SameOutcome direction position access access' l l' ↔
        (t.findNext direction l position.cursor position.directoryDepth).outcome direction
            position.listId =
          (t.findNext direction l' position.cursor position.directoryDepth).outcome direction
            position.listId) ∧
    ((∀ direction, direction ≠ .none → ∀ position, t.HasPosition position →
      ∀ access access' l l', t.HasList l → t.HasList l' →
        t.SameOutcome direction position access access' l l') ↔
      t.HasNoSubdirectory) := by
  refine ⟨fun direction hdirection => sameOutcome_iff hdirection, ?_, ?_⟩
  · intro h line child hentry
    refine not_sameOutcome hentry (fun _ _ => .cached) (fun _ _ => .cached) ?_
    refine h .backward nofun _ ⟨AtDepth.root.child hentry, Or.inr rfl⟩ _ _ _ _ .refl ?_
    exact Below.refl.child hentry
  · intro h direction hdirection position _ access access' l l' hl hl'
    obtain rfl := (hasList_iff h l).mp hl
    obtain rfl := (hasList_iff h l').mp hl'
    exact (sameOutcome_iff hdirection position access access' _ _).mpr rfl

/-- With a directory in the root it does matter: in the root, the operation goes on behind
a line of the root, whatever list its position is in. -/
theorem findNext_depends_on_list :
    ¬ ∀ (t : Tree) (direction : Direction) (position : Cursor)
      (access access' : Nat → Nat → Access) (l l' : ListId),
      direction ≠ .none → t.HasPosition position → t.HasList l → t.HasList l' →
      t.SameOutcome direction position access access' l l' := by
  intro h
  have hentry : subdirectoryTree.entry subdirectoryTree.root 0 = some (.directory ⟨2⟩) := rfl
  refine not_sameOutcome hentry (fun _ _ => .cached) (fun _ _ => .cached) ?_
  have hdirection : Direction.backward ≠ .none := nofun
  apply h _ _ _ _ _ _ _ hdirection ⟨AtDepth.root.child hentry, Or.inr rfl⟩ .refl
  exact Below.refl.child hentry

end Tree

end Drcpd.Crawler

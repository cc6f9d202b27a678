/-
  Crawler/TraversalRuns.lean --- operations that are run one after the other.

  Each operation starts from where the last one has found an item.  `findAll_ends` says
  what is found altogether; `traversal_complete_iff` says when these are all items of the
  tree.  `findNext_independent_iff` compares an operation that is started in one list with
  the same operation started in another one.
-/
import Drcpd.Crawler.Traversal

set_option autoImplicit false

namespace Drcpd.Crawler

open Drcpd.Lists
open Drcpd.Foundation

/-- Where the last operation stops. -/
def Direction.endState (direction : Direction) : PositionalState :=
  if direction = .backward then .reachedStartOfList else .reachedEndOfList

namespace Tree

variable {t : Tree} {direction : Direction}

section Chain

variable {lines : ListId → List Nat} {top : Nat} {shown l : ListId}

theorem endState_of_direction {op : FindNextOp} (h : op.direction = direction) :
    op.endState = direction.endState := by
  unfold FindNextOp.endState Direction.endState
  rw [h]
  cases direction with
  | none => rfl
  | forward => rfl
  | backward => rfl

/-- What `findAll` does with an operation that has finished. -/
def findRest (t : Tree) (fuel : Nat) (access : Nat → Nat → Nat → Access) :
    FindNextOp × ListId → Option (List (ListId × Nat) × PositionalState)
  | (op, l) =>
      if op.posState = .somewhereInList then
        (t.findAll fuel access l (nextOp op)).map fun (places, posState) =>
          ((op.position.listId, op.position.cursor) :: places, posState)
      else some ([], op.posState)

theorem findAll_succ (fuel : Nat) (access : Nat → Nat → Nat → Access) (l : ListId)
    (op : FindNextOp) :
    t.findAll (fuel + 1) access l op =
      (t.runOp fuel (access 0) l op).bind (t.findRest fuel fun n => access (n + 1)) := rfl

/-- By induction on the items that are still to be found: each operation finds the first
of them, and the next operation starts from there. -/
theorem findRest_ends (henters : EntersAll t direction lines)
    (hdepth : top + t.height t.root ≤ maxDirectoryDepth + 1) (htop : top ≤ 1)
    (hdirection : direction ≠ .none) (files : List (ListId × Nat)) {e : Ending}
    (hfinds : t.Finds direction lines top shown files e) {r : FindNextOp × ListId}
    (hends : e.Describes shown direction r) (access : Nat → Nat → Nat → Access) :
    Ends (fun fuel => t.findRest fuel access r) (· = (files, direction.endState)) := by
  induction files generalizing shown e r access with
  | nil =>
    obtain ⟨op, l⟩ := r
    have hkind : e.kind = .reached := by
      cases hkind : e.kind with
      | found => exact absurd (hfinds.found hkind).1 nofun
      | reached => rfl
      | failed => exact absurd hkind hfinds.succeeds
    have hstate : op.posState = direction.endState := by
      have hposState := hends.posState
      rw [hkind] at hposState
      exact hposState.trans (endState_of_direction hends.direction)
    refine Ends.of_some (a := ([], op.posState)) (fun fuel => ?_) (by rw [hstate])
    have hend : op.posState ≠ .somewhereInList := by
      rw [hstate]
      unfold Direction.endState
      split_ifs <;> exact nofun
    exact if_neg hend
  | cons place files ih =>
    obtain ⟨op, l⟩ := r
    have hkind : e.kind = .found := by
      cases hkind : e.kind with
      | found => rfl
      | reached => exact absurd (hfinds.reached hkind) nofun
      | failed => exact absurd hkind hfinds.succeeds
    obtain ⟨hfiles, hat⟩ := hfinds.found hkind
    obtain ⟨rfl, rfl⟩ := List.cons.inj hfiles
    have hstate : op.posState = .somewhereInList := by
      have hposState := hends.posState
      rw [hkind] at hposState
      exact hposState
    have hlist : op.position.listId = e.list := by
      rw [hends.list]
      cases hmoved : e.hasMoved with
      | false => exact (hfinds.moved hmoved).symm
      | true => rfl
    have hplace : (op.position.listId, op.position.cursor) = (e.list, e.line) := by
      rw [hlist, hends.cursor]
    -- The next operation starts where this one has found its item.
    have hnext : Ends (fun fuel => t.findAll fuel access l (nextOp op))
        (· = (t.filesAfter direction lines e.depth e.list e.line, direction.endState)) := by
      have hrun := t.findNext_ends (l := l) hdirection op.position.syncRequestWithPos (access 0)
      have hl : l = e.list := hends.left
      have hcursor : op.position.syncRequestWithPos.cursor = e.line := hends.cursor
      have hcursorDepth : op.position.syncRequestWithPos.directoryDepth = e.depth :=
        hends.cursor_depth
      have hshown : op.position.syncRequestWithPos.listId = e.list := hlist
      rw [hcursor, hcursorDepth, hshown, hl] at hrun
      have hnextFinds := findNext_finds henters hdepth htop hat e.line
      have hop : nextOp op =
          FindNextOp.make .depthFirst direction op.position.syncRequestWithPos .findNext := by
        unfold nextOp
        rw [hends.direction]
      rw [hop, hl]
      exact (hrun.bind fun r hr => ih hnextFinds hr _).succ fun fuel => findAll_succ _ _ _ _
    refine (hnext.map (h := fun found => ((e.list, e.line) :: found.1, found.2)) ?_).congr
      fun fuel => ?_
    · rintro _ rfl
      rfl
    · unfold findRest
      dsimp only
      rw [if_pos hstate, hplace]

/-- What is found by operations that are run one after the other, where the first one is
started at a line of the root while the traversal list is in the list `l`. -/
theorem findAll_ends (hdepth : t.height t.root ≤ maxDirectoryDepth)
    (hdirection : direction ≠ .none) (l : ListId) (line : Nat)
    (access : Nat → Nat → Nat → Access) :
    Ends (fun fuel => t.findAll fuel access l (t.firstOp direction l line))
      (· = (t.filesBelow (t.searchedLines direction l line) t.root, direction.endState)) := by
  have htop : t.topDepth l ≤ 1 := by
    unfold topDepth
    split_ifs
    · exact Nat.zero_le 1
    · exact Nat.le_refl 1
  have hrun := findFirst_ends hdirection l line (access 0) (t := t)
  exact (hrun.bind fun r hr =>
    findRest_ends (searchedLines_entersAll l line) (by omega) htop hdirection _
      (findFirst_finds hdepth l line) hr _).succ fun fuel => findAll_succ _ _ _ _

/-- Operations that are run one after the other find all items in the order of the
direction, and stop at the end of the tree, exactly if no item is missed. -/
theorem traversal_complete_iff (t : Tree) (hdepth : t.height t.root ≤ maxDirectoryDepth)
    (direction : Direction) (hdirection : direction ≠ .none) (l : ListId) (line : Nat)
    (access : Nat → Nat → Nat → Access) :
    Ends (fun fuel => t.findAll fuel access l (t.firstOp direction l line))
        (· = (if direction = .backward then t.files.reverse else t.files,
          direction.endState)) ↔
      t.NothingMissed direction l line := by
  rw [(findAll_ends hdepth hdirection l line access).iff_of_ends,
    ← filesBelow_searchedLines_iff, Prod.mk.injEq]
  exact and_iff_left rfl

end Chain

end Tree

/-! ## A tree with a subdirectory -/

/-- A directory that holds an item, and an item behind it. -/
def subdirectoryTree : Tree where
  root := ⟨1⟩
  entries l := if l = ⟨1⟩ then [.directory ⟨2⟩, .file] else if l = ⟨2⟩ then [.file] else []
  parent l := if l = ⟨2⟩ then some (⟨1⟩, 0) else none
  height l := if l = ⟨1⟩ then 2 else 1
  root_valid := rfl
  parent_root := rfl
  height_pos l := by split_ifs <;> decide
  list_valid l h := by
    split_ifs at h with hroot hchild
    · rw [hroot]
      rfl
    · rw [hchild]
      rfl
    · exact absurd rfl h
  child l line listId h := by
    split_ifs at h with hroot hchild
    · rcases line with _ | _ | line
      · obtain rfl : (⟨2⟩ : ListId) = listId := by simpa using h
        rw [hroot]
        exact ⟨rfl, rfl, by decide⟩
      · exact absurd h (by simp)
      · exact absurd h (by simp)
    · rcases line with _ | line
      · exact absurd h (by simp)
      · exact absurd h (by simp)
    · exact absurd h (by simp)
  parent_entry listId l line h := by
    split_ifs at h with hchild
    obtain ⟨rfl, rfl⟩ : (⟨1⟩ : ListId) = l ∧ 0 = line := by simpa using h
    rw [hchild]
    rfl

/-- Nothing is missed going forward, while the traversal list is in no list yet. -/
theorem traversal_complete_of_fresh :
    Ends
      (fun fuel => subdirectoryTree.findAll fuel (fun _ _ _ => .cached) {}
        (subdirectoryTree.firstOp .forward {} 0))
      (· = (subdirectoryTree.files, .reachedEndOfList)) := by
  apply (Tree.traversal_complete_iff subdirectoryTree (by decide) .forward (by decide) {} 0 _).mpr
  intro l _ line hline hnot
  have hlines : line ∈ subdirectoryTree.searchedLines .forward {} 0 l := by
    unfold Tree.size subdirectoryTree at hline
    dsimp only at hline
    split_ifs at hline with hroot hchild
    · rw [hroot]
      have hline : line = 0 ∨ line = 1 := by
        rw [List.length_cons, List.length_singleton] at hline
        omega
      rcases hline with rfl | rfl <;> decide
    · rw [hchild]
      obtain rfl : line = 0 := by
        rw [List.length_singleton] at hline
        omega
      decide
    · exact absurd hline (Nat.not_lt_zero line)
  exact absurd hlines hnot

/-- While the traversal list is in the root already, the search stops behind the first
directory: the item behind it is missed. -/
theorem traversal_incomplete_if_entered :
    ¬ ∀ (t : Tree) (direction : Direction) (l : ListId) (access : Nat → Nat → Nat → Tree.Access),
      t.height t.root ≤ maxDirectoryDepth → direction ≠ .none →
      Ends
        (fun fuel => t.findAll fuel access l
          (t.firstOp direction l (if direction = .backward then t.size t.root - 1 else 0)))
        (· = (if direction = .backward then t.files.reverse else t.files,
          direction.endState)) := by
  intro h
  have hends := h subdirectoryTree .forward ⟨1⟩ (fun _ _ _ => .cached) (by decide) (by decide)
  rw [(Tree.findAll_ends (by decide) (by decide) _ _ _).iff_of_ends, Prod.mk.injEq] at hends
  have hmissed := (Tree.filesBelow_searchedLines_iff _ _).mp hends.1 ⟨1⟩ .refl 1 (by decide)
    (by decide)
  unfold Tree.filesAt at hmissed
  exact absurd hmissed nofun

end Drcpd.Crawler

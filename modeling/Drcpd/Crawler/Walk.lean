/-
  Crawler/Walk.lean --- the search an operation makes in a tree.

  The search goes from line to line of a list, through the list of each directory it
  comes to, and back to the parent of a list when there are no lines left.  `Ending` is
  what it comes to: the search for the next item is a function of the tree, the list the
  traversal list is in, a line of it, and the depth counted by the operation.
-/
import Drcpd.Crawler.Tree

set_option autoImplicit false

namespace Drcpd.Crawler

open Drcpd.Lists

/-- The lines `advance` moves to one after the other, from a line of a list with the given
number of items. -/
def linesAfter (direction : Direction) (size line : Nat) : List Nat :=
  if size ≤ line ∨ intMax < line then []
  else
    match direction with
    | .forward => List.range' (line + 1) (min size (intMax + 2) - (line + 1))
    | .backward => (List.range line).reverse
    | .none => []

/-- A line, and those `advance` moves to. -/
def linesFrom (direction : Direction) (size line : Nat) : List Nat :=
  if size = 0 then [] else line :: linesAfter direction size line

/-- The line of a list that has just been entered, where the given line was requested. -/
def enteredLine (direction : Direction) (size line : Nat) : Nat :=
  if size ≤ line then (if direction = .backward then 0 else size - 1)
  else if direction = .backward then size - 1 - line
  else line

/-- How a search ends. -/
inductive EndKind where
  | found
  | reached
  | failed
  deriving DecidableEq, Repr

/-- Where a search ends, and whether another list has been entered on the way. -/
structure Ending where
  kind : EndKind
  list : ListId
  line : Nat
  depth : Nat
  hasMoved : Bool
  deriving DecidableEq, Repr

/-- What a search comes to behind a list, by whether another list has been entered, and
by its last line. -/
abbrev Rest : Type := Bool → Nat → Ending

namespace Tree

variable (t : Tree) (direction : Direction)

/-- Where the search stops in a list without lines left. -/
def lastLine (l : ListId) (line : Nat) : Nat := if t.size l = 0 then 0 else line

/-- The search among lines of a list, and what it goes on with behind them, by whether
another list has been entered, whether the line this list was entered at has been passed,
and the line in front.  Going backward, the first line of a list is not looked at if it is
where the list was entered. -/
def scan (l : ListId) (depth : Nat) : List Nat → Rest → Bool → Bool → Nat → Ending
  | [], rest => fun hasMoved _ line => rest hasMoved line
  | line :: lines, rest => fun hasMoved hasPassed _ =>
      if direction = .backward ∧ line = 0 ∧ hasPassed = false then
        scan l depth lines rest hasMoved hasPassed line
      else
        match h : t.entry l line with
        | none => ⟨.failed, l, line, depth, hasMoved⟩
        | some .file => ⟨.found, l, line, depth, hasMoved⟩
        | some (.directory id) =>
            if maxDirectoryDepth ≤ depth then scan l depth lines rest hasMoved hasPassed line
            else
              scan id (depth + 1)
                (linesFrom direction (t.size id) (enteredLine direction (t.size id) 0))
                (fun hasMoved line' =>
                  if depth = 0 then ⟨.reached, id, t.lastLine id line', depth + 1, hasMoved⟩
                  else scan l depth lines rest true true line)
                true false 0
termination_by lines => (t.height l, lines.length)
decreasing_by
  all_goals first
    | exact Prod.Lex.left _ _ (t.child l line _ h).2.2
    | exact Prod.Lex.right _ (Nat.lt_succ_self _)

section Scan

variable {t direction} {l : ListId} {depth line : Nat} {lines : List Nat} {rest : Rest}
  {hasMoved hasPassed : Bool} {c : Nat}

@[simp] theorem scan_nil :
    t.scan direction l depth [] rest hasMoved hasPassed line = rest hasMoved line := by
  rw [scan]

theorem scan_cons_first (h : direction = .backward ∧ line = 0 ∧ hasPassed = false) :
    t.scan direction l depth (line :: lines) rest hasMoved hasPassed c =
      t.scan direction l depth lines rest hasMoved hasPassed line := by
  rw [scan]
  dsimp only
  rw [if_pos h]

theorem scan_cons_file (h : ¬(direction = .backward ∧ line = 0 ∧ hasPassed = false))
    (hentry : t.entry l line = some .file) :
    t.scan direction l depth (line :: lines) rest hasMoved hasPassed c =
      ⟨.found, l, line, depth, hasMoved⟩ := by
  rw [scan]
  dsimp only
  rw [if_neg h]
  split
  · rename_i hnone
    exact absurd (hentry.symm.trans hnone) nofun
  · rfl
  · rename_i hdirectory
    exact absurd (hentry.symm.trans hdirectory) nofun

/-- Too deep a directory is skipped. -/
theorem scan_cons_limit (h : ¬(direction = .backward ∧ line = 0 ∧ hasPassed = false))
    {id : ListId} (hentry : t.entry l line = some (.directory id))
    (hdepth : maxDirectoryDepth ≤ depth) :
    t.scan direction l depth (line :: lines) rest hasMoved hasPassed c =
      t.scan direction l depth lines rest hasMoved hasPassed line := by
  rw [scan]
  dsimp only
  rw [if_neg h]
  split
  · rename_i hnone
    exact absurd (hentry.symm.trans hnone) nofun
  · rename_i hfile
    exact absurd (hentry.symm.trans hfile) nofun
  · rw [if_pos hdepth]

/-- What the search goes on with behind the list of a directory. -/
def behind (t : Tree) (direction : Direction) (l : ListId) (depth line : Nat) (lines : List Nat)
    (rest : Rest) (id : ListId) : Rest := fun hasMoved line' =>
  if depth = 0 then ⟨.reached, id, t.lastLine id line', depth + 1, hasMoved⟩
  else t.scan direction l depth lines rest true true line

theorem scan_cons_directory (h : ¬(direction = .backward ∧ line = 0 ∧ hasPassed = false))
    {id : ListId} (hentry : t.entry l line = some (.directory id))
    (hdepth : depth < maxDirectoryDepth) :
    t.scan direction l depth (line :: lines) rest hasMoved hasPassed c =
      t.scan direction id (depth + 1)
        (linesFrom direction (t.size id) (enteredLine direction (t.size id) 0))
        (behind t direction l depth line lines rest id) true false 0 := by
  rw [scan]
  dsimp only
  rw [if_neg h]
  split
  · rename_i hnone
    exact absurd (hentry.symm.trans hnone) nofun
  · rename_i hfile
    exact absurd (hentry.symm.trans hfile) nofun
  · rename_i id' hdirectory
    obtain rfl : id = id' := by simpa using hentry.symm.trans hdirectory
    rw [if_neg (Nat.not_le.mpr hdepth)]
    rfl

end Scan

/-- What the search goes on with behind a list: the lines behind it in its parent, if it
is not at the top. -/
def climb : Nat → ListId → Rest
  | depth + 2, l => fun hasMoved line =>
      match t.parent l with
      | none => ⟨.failed, l, t.lastLine l line, depth + 2, hasMoved⟩
      | some (parent, parentLine) =>
          t.scan direction parent (depth + 1)
            (linesAfter direction (t.size parent) parentLine) (climb (depth + 1) parent)
            true true parentLine
  | depth, l => fun hasMoved line =>
      ⟨.reached, l, t.lastLine l line, depth, hasMoved⟩

/-- The search for the next item, behind a line of the list the traversal list is in. -/
def findNext (l : ListId) (line depth : Nat) : Ending :=
  t.scan direction l depth (linesAfter direction (t.size l) line) (t.climb direction depth l)
    false true line

/-- The search for the first item, while the traversal list is in the given list: the root
is entered, unless this is the list. -/
def findFirst (l : ListId) (line : Nat) : Ending :=
  let lines := fun start => linesFrom direction (t.size t.root) start
  if t.root = l then
    let start := if t.size t.root ≤ line then 0 else line
    t.scan direction t.root 0 (lines start) (t.climb direction 0 t.root) false false start
  else
    let start := enteredLine direction (t.size t.root) line
    t.scan direction t.root 1 (lines start) (t.climb direction 1 t.root) true false start

end Tree

end Drcpd.Crawler

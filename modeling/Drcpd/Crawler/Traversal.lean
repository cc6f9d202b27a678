/-
  Crawler/Traversal.lean --- the items found by operations that are run one after the other.

  `filesBelow` collects the items of a list and of the lists nested in it in depth-first
  order, where only some lines of each list are looked at.  If these are all lines, then
  they are all items of the tree; `searchedLines` are those a traversal looks at.
-/
import Drcpd.Crawler.WalkRuns
import Drcpd.Foundation.Sublist

set_option autoImplicit false

namespace Drcpd.Crawler

open Drcpd.Lists
open Drcpd.Foundation

namespace Tree

variable (t : Tree) (direction : Direction)

/-! ## Items in depth-first order -/

/-- The items of a list and below it, where these lines of each list are looked at. -/
def filesBelow (lines : ListId → List Nat) (l : ListId) : List (ListId × Nat) :=
  (lines l).flatMap fun line =>
    match _hentry : t.entry l line with
    | none => []
    | some .file => [(l, line)]
    | some (.directory child) => filesBelow lines child
termination_by t.height l
decreasing_by exact (t.child l line _ _hentry).2.2

/-- The items at one line of a list and below it. -/
def filesAt (lines : ListId → List Nat) (l : ListId) (line : Nat) : List (ListId × Nat) :=
  match t.entry l line with
  | none => []
  | some .file => [(l, line)]
  | some (.directory child) => t.filesBelow lines child

theorem filesBelow_eq (lines : ListId → List Nat) (l : ListId) :
    t.filesBelow lines l = (lines l).flatMap (t.filesAt lines l) := by
  rw [filesBelow]
  congr 1
  funext line
  unfold filesAt
  split <;> rename_i hentry <;> rw [hentry]

/-- All lines of a list. -/
def allLines (l : ListId) : List Nat := List.range (t.size l)

/-- All items of the tree in depth-first order. -/
def files : List (ListId × Nat) := t.filesBelow t.allLines t.root

/-! ## The lines that are looked at -/

/-- The lines of a list that are looked at when it is entered at the given line. -/
def entryLines (direction : Direction) (size line : Nat) : List Nat :=
  if direction = .backward ∧ line = 0 then [] else linesFrom direction size line

/-- The lines up to the first directory. -/
def upToDirectory (l : ListId) : List Nat → List Nat
  | [] => []
  | line :: lines =>
      match t.entry l line with
      | some (.directory _) => [line]
      | some .file | none => line :: upToDirectory l lines

/-- The lines a traversal looks at, where it is started at a line of the root while the
traversal list is in the list `l`. -/
def searchedLines (l : ListId) (line : Nat) (l' : ListId) : List Nat :=
  if l' = t.root then
    if t.root = l then
      t.upToDirectory t.root
        (entryLines direction (t.size t.root) (if t.size t.root ≤ line then 0 else line))
    else
      entryLines direction (t.size t.root) (enteredLine direction (t.size t.root) line)
  else entryLines direction (t.size l') (enteredLine direction (t.size l') 0)

/-- A list that is, or is nested in, another one. -/
inductive Below (l : ListId) : ListId → Prop where
  | refl : Below l l
  | child {l' : ListId} {line : Nat} {id : ListId} (h : Below l l')
      (hentry : t.entry l' line = some (.directory id)) : Below l id

/-- No item is at or below a line the traversal does not look at. -/
def NothingMissed (l : ListId) (line : Nat) : Prop :=
  ∀ l', t.Below t.root l' → ∀ line' < t.size l',
    line' ∉ t.searchedLines direction l line l' → t.filesAt t.allLines l' line' = []

/-! ## What is still to be found -/

/-- The lines behind a line of a list; where the depth is not counted, only those up to the
first directory are looked at. -/
def linesBehind (l : ListId) (depth : Nat) (lines : List Nat) : List Nat :=
  if depth = 0 then t.upToDirectory l lines else lines

/-- The items behind the list that is at the given depth. -/
def filesBehind (lines : ListId → List Nat) : Nat → ListId → List (ListId × Nat)
  | depth + 2, l =>
      match t.parent l with
      | none => []
      | some (parent, parentLine) =>
          (linesAfter direction (t.size parent) parentLine).flatMap (t.filesAt lines parent) ++
            filesBehind lines (depth + 1) parent
  | _, _ => []

/-- The items behind a line of a list. -/
def filesAfter (lines : ListId → List Nat) (depth : Nat) (l : ListId) (line : Nat) :
    List (ListId × Nat) :=
  (t.linesBehind l depth (linesAfter direction (t.size l) line)).flatMap (t.filesAt lines l) ++
    t.filesBehind direction lines depth l

/-- A list at the given depth, where the root is at depth `top`. -/
inductive AtDepth (top : Nat) : ListId → Nat → Prop where
  | root : AtDepth top t.root top
  | child {l : ListId} {depth line : Nat} {id : ListId} (h : AtDepth top l depth)
      (hentry : t.entry l line = some (.directory id)) : AtDepth top id (depth + 1)

/-! ## What a search comes to -/

/-- A search comes to the first of the items, and the others are behind it; or it stops
because there is none.  It shows its list if it has not moved from the list `shown`. -/
structure Finds (t : Tree) (direction : Direction) (lines : ListId → List Nat) (top : Nat)
    (shown : ListId) (files : List (ListId × Nat)) (e : Ending) : Prop where
  succeeds : e.kind ≠ .failed
  reached : e.kind = .reached → files = []
  found : e.kind = .found →
    files = (e.list, e.line) :: t.filesAfter direction lines e.depth e.list e.line ∧
      t.AtDepth top e.list e.depth
  moved : e.hasMoved = false → e.list = shown

section Finds

variable {t direction} {lines : ListId → List Nat} {top depth : Nat} {shown l : ListId}

/-- A search with nothing to come to reaches the end. -/
theorem Finds.of_reached {e : Ending} (hkind : e.kind = .reached)
    (hshown : e.hasMoved = false → e.list = shown) : t.Finds direction lines top shown [] e where
  succeeds hfailed := by
    rw [hkind] at hfailed
    cases hfailed
  reached _ := rfl
  found hfound := by
    rw [hkind] at hfound
    cases hfound
  moved := hshown

theorem AtDepth.height_le (h : t.AtDepth top l depth) :
    depth + t.height l ≤ top + t.height t.root := by
  induction h with
  | root => exact Nat.le_refl _
  | child h hentry ih =>
    have hless := (t.child _ _ _ hentry).2.2
    omega

theorem child_ne_root {line : Nat} {child : ListId}
    (hentry : t.entry l line = some (.directory child)) : child ≠ t.root := by
  intro hroot
  have hparent := (t.child _ _ _ hentry).2.1
  rw [hroot, t.parent_root] at hparent
  exact absurd hparent nofun

/-- Behind a list the search comes to what is behind it. -/
def RestFinds (t : Tree) (direction : Direction) (lines : ListId → List Nat) (top : Nat)
    (shown : ListId) (depth : Nat) (l : ListId) (rest : Rest) : Prop :=
  ∀ hasMoved line, (hasMoved = false → l = shown) →
    t.Finds direction lines top shown (t.filesBehind direction lines depth l)
      (rest hasMoved line)

/-- From each line of a list the search comes to what is from there on. -/
def ListFinds (t : Tree) (direction : Direction) (lines : ListId → List Nat) (top : Nat)
    (shown : ListId) (depth : Nat) (l : ListId) : Prop :=
  ∀ rest, RestFinds t direction lines top shown depth l rest →
    ∀ (xs : List Nat) (x c : Nat) (hasMoved hasPassed : Bool),
      x < t.size l → linesAfter direction (t.size l) x = xs →
      ¬(direction = .backward ∧ x = 0 ∧ hasPassed = false) →
      (hasMoved = false → l = shown) →
      t.Finds direction lines top shown
        ((t.linesBehind l depth (x :: xs)).flatMap (t.filesAt lines l) ++
          t.filesBehind direction lines depth l)
        (t.scan direction l depth (x :: xs) rest hasMoved hasPassed c)

theorem linesBehind_of_file {x : Nat} (hentry : t.entry l x = some .file) (xs : List Nat) :
    t.linesBehind l depth (x :: xs) = x :: t.linesBehind l depth xs := by
  unfold linesBehind
  split_ifs
  · rw [upToDirectory, hentry]
  · rfl

theorem linesBehind_of_directory {x : Nat} {child : ListId}
    (hentry : t.entry l x = some (.directory child)) (xs : List Nat) :
    t.linesBehind l depth (x :: xs) = x :: if depth = 0 then [] else xs := by
  unfold linesBehind
  split_ifs
  · rw [upToDirectory, hentry]
  · rfl

/-- What is behind the list of a directory is what is behind its line in the parent. -/
theorem filesBehind_child {x : Nat} {child : ListId}
    (hentry : t.entry l x = some (.directory child)) :
    t.filesBehind direction lines (depth + 1) child =
      ((if depth = 0 then [] else linesAfter direction (t.size l) x).flatMap
        (t.filesAt lines l)) ++
        if depth = 0 then [] else t.filesBehind direction lines depth l := by
  cases depth with
  | zero => rfl
  | succ depth =>
    rw [filesBehind, (t.child _ _ _ hentry).2.1]
    rfl

/-- Each list but the root is searched from where it is entered. -/
def EntersAll (t : Tree) (direction : Direction) (lines : ListId → List Nat) : Prop :=
  ∀ l, l ≠ t.root → lines l =
    entryLines direction (t.size l) (enteredLine direction (t.size l) 0)

/-- The list of a directory is searched. -/
theorem child_finds (henters : EntersAll t direction lines) {x : Nat} {child : ListId}
    (hentry : t.entry l x = some (.directory child))
    (hchild : ListFinds t direction lines top shown (depth + 1) child) {rest : Rest}
    (hrest : RestFinds t direction lines top shown (depth + 1) child rest) :
    t.Finds direction lines top shown
      (t.filesBelow lines child ++ t.filesBehind direction lines (depth + 1) child)
      (t.scan direction child (depth + 1)
        (linesFrom direction (t.size child) (enteredLine direction (t.size child) 0))
        rest true false 0) := by
  rw [filesBelow_eq, henters child (child_ne_root hentry)]
  have hempty : t.Finds direction lines top shown
      ([] ++ t.filesBehind direction lines (depth + 1) child) (rest true 0) :=
    hrest true 0 nofun
  rcases Nat.eq_zero_or_pos (t.size child) with hsize | hsize
  · have hnone : linesFrom direction (t.size child) (enteredLine direction (t.size child) 0) = [] :=
      if_pos hsize
    have hentered : entryLines direction (t.size child) (enteredLine direction (t.size child) 0)
        = [] := by
      unfold entryLines
      rw [hnone, ite_self]
    rw [hnone, hentered, scan_nil]
    exact hempty
  · have hlines : linesFrom direction (t.size child) (enteredLine direction (t.size child) 0) =
        enteredLine direction (t.size child) 0 ::
          linesAfter direction (t.size child) (enteredLine direction (t.size child) 0) :=
      if_neg (Nat.ne_of_gt hsize)
    unfold entryLines
    split_ifs with hfirst
    · have hnone : linesAfter direction (t.size child) 0 = [] := by
        rw [hfirst.1]
        unfold linesAfter
        split_ifs <;> rfl
      rw [hlines, hfirst.2, hnone, scan_cons_first ⟨hfirst.1, rfl, rfl⟩, scan_nil]
      exact hempty
    · rw [hlines]
      exact hchild rest hrest _ _ 0 true false (enteredLine_lt hsize) rfl
        (fun h => hfirst ⟨h.1, h.2.1⟩) nofun

/-- The search looks at one line; what is behind it and below it is known. -/
theorem look_finds (henters : EntersAll t direction lines) (hat : t.AtDepth top l depth)
    (hdepth : top + t.height t.root ≤ maxDirectoryDepth + 1) {rest : Rest}
    {xs : List Nat} {x c : Nat} {hasMoved hasPassed : Bool}
    (hxs : linesAfter direction (t.size l) x = xs) (hx : x < t.size l)
    (hnext : depth ≠ 0 → t.Finds direction lines top shown
      (xs.flatMap (t.filesAt lines l) ++ t.filesBehind direction lines depth l)
      (t.scan direction l depth xs rest true true x))
    (hchild : ∀ child, t.entry l x = some (.directory child) →
      ListFinds t direction lines top shown (depth + 1) child)
    (hfirst : ¬(direction = .backward ∧ x = 0 ∧ hasPassed = false))
    (hshown : hasMoved = false → l = shown) :
    t.Finds direction lines top shown
      ((t.linesBehind l depth (x :: xs)).flatMap (t.filesAt lines l) ++
        t.filesBehind direction lines depth l)
      (t.scan direction l depth (x :: xs) rest hasMoved hasPassed c) := by
  cases hentry : t.entry l x with
  | none => exact absurd (List.getElem?_eq_none_iff.mp hentry) (Nat.not_le.mpr hx)
  | some entry =>
    cases entry with
    | file =>
      rw [scan_cons_file hfirst hentry, linesBehind_of_file hentry, List.flatMap_cons]
      refine ⟨nofun, nofun, fun _ => ⟨?_, hat⟩, hshown⟩
      unfold filesAfter
      rw [hxs]
      unfold filesAt
      rw [hentry]
      rfl
    | directory child =>
      have hlimit : depth < maxDirectoryDepth := by
        have hheight := hat.height_le
        have hless := (t.child _ _ _ hentry).2.2
        have hpos := t.height_pos child
        omega
      have hfiles : t.filesAt lines l x = t.filesBelow lines child := by
        unfold filesAt
        rw [hentry]
      rw [scan_cons_directory hfirst hentry hlimit, linesBehind_of_directory hentry,
        List.flatMap_cons, hfiles, List.append_assoc]
      have hbehind : RestFinds t direction lines top shown (depth + 1) child
          (behind t direction l depth x xs rest child) := by
        intro hasMoved line hchildShown
        unfold behind
        rw [filesBehind_child hentry, hxs]
        split_ifs with hzero
        · exact .of_reached rfl hchildShown
        · exact hnext hzero
      have hfinds := child_finds henters hentry (hchild child hentry) hbehind
      have htop : (if depth = 0 then [] else t.filesBehind direction lines depth l) =
          t.filesBehind direction lines depth l := by
        split_ifs with hzero
        · rw [hzero]
          rfl
        · rfl
      rw [filesBehind_child hentry, hxs, htop] at hfinds
      exact hfinds

/-- By induction on the number of lists nested below, and on the lines that are left. -/
theorem listFinds (henters : EntersAll t direction lines)
    (hdepth : top + t.height t.root ≤ maxDirectoryDepth + 1) (hat : t.AtDepth top l depth) :
    ListFinds t direction lines top shown depth l := by
  induction hheight : t.height l using Nat.strong_induction_on generalizing l depth with
  | _ height ih =>
    intro rest hrest xs
    have hchild : ∀ x child, t.entry l x = some (.directory child) →
        ListFinds t direction lines top shown (depth + 1) child := by
      intro x child hentry
      have hless := (t.child _ _ _ hentry).2.2
      rw [hheight] at hless
      exact ih _ hless (hat.child hentry) rfl
    have hbehind : ∀ ys, depth ≠ 0 → t.linesBehind l depth ys = ys := fun ys hne => if_neg hne
    induction xs with
    | nil =>
      intro x c hasMoved hasPassed hx hxs hfirst hshown
      refine look_finds henters hat hdepth hxs hx ?_ (hchild x) hfirst hshown
      intro _
      rw [scan_nil]
      exact hrest true x nofun
    | cons y ys ihxs =>
      intro x c hasMoved hasPassed hx hxs hfirst hshown
      refine look_finds henters hat hdepth hxs hx ?_ (hchild x) hfirst hshown
      intro hne
      obtain ⟨hy, hys⟩ := linesAfter_of_cons hxs
      have hfinds := ihxs y x true true hy hys (fun h => nomatch h.2.2) nofun
      rw [hbehind _ hne] at hfinds
      exact hfinds

/-- Behind a line the search comes to what is behind it. -/
theorem scan_finds (henters : EntersAll t direction lines)
    (hdepth : top + t.height t.root ≤ maxDirectoryDepth + 1) (hat : t.AtDepth top l depth)
    {rest : Rest} (hrest : RestFinds t direction lines top shown depth l rest) (line : Nat)
    {hasMoved : Bool} (hshown : hasMoved = false → l = shown) :
    t.Finds direction lines top shown (t.filesAfter direction lines depth l line)
      (t.scan direction l depth (linesAfter direction (t.size l) line) rest hasMoved true
        line) := by
  unfold filesAfter
  cases hlines : linesAfter direction (t.size l) line with
  | nil =>
    have hnone : t.linesBehind l depth [] = [] := by
      unfold linesBehind
      split_ifs <;> rfl
    rw [scan_nil, hnone]
    exact hrest hasMoved line hshown
  | cons x xs =>
    obtain ⟨hx, hxs⟩ := linesAfter_of_cons hlines
    exact listFinds henters hdepth hat rest hrest xs x line hasMoved true hx hxs
      (fun h => nomatch h.2.2) hshown

/-- Behind a list the search comes to what is behind it in its parents. -/
theorem restFinds_climb (henters : EntersAll t direction lines)
    (hdepth : top + t.height t.root ≤ maxDirectoryDepth + 1) (htop : top ≤ 1)
    (hat : t.AtDepth top l depth) :
    RestFinds t direction lines top shown depth l (t.climb direction depth l) := by
  induction hat with
  | root =>
    intro hasMoved line hshown
    rcases Nat.le_one_iff_eq_zero_or_eq_one.mp htop with rfl | rfl
    · exact .of_reached rfl hshown
    · exact .of_reached rfl hshown
  | @child l depth line child hat hentry ih =>
    intro hasMoved childLine hshown
    cases depth with
    | zero => exact .of_reached rfl hshown
    | succ depth =>
      rw [filesBehind_child hentry]
      unfold climb
      rw [(t.child _ _ _ hentry).2.1]
      exact scan_finds henters hdepth hat ih line fun hmoved => by cases hmoved

/-- An operation that is to find the next item finds what is behind its position. -/
theorem findNext_finds (henters : EntersAll t direction lines)
    (hdepth : top + t.height t.root ≤ maxDirectoryDepth + 1) (htop : top ≤ 1)
    (hat : t.AtDepth top l depth) (line : Nat) :
    t.Finds direction lines top l (t.filesAfter direction lines depth l line)
      (t.findNext direction l line depth) :=
  scan_finds henters hdepth hat (restFinds_climb henters hdepth htop hat) line fun _ => rfl

/-- A list is searched from the line it is entered at. -/
theorem entry_finds (henters : EntersAll t direction lines)
    (hdepth : top + t.height t.root ≤ maxDirectoryDepth + 1) (hat : t.AtDepth top l depth)
    {rest : Rest} (hrest : RestFinds t direction lines top shown depth l rest) {line : Nat}
    (hline : line < t.size l ∨ line = 0) {hasMoved : Bool}
    (hshown : hasMoved = false → l = shown) :
    t.Finds direction lines top shown
      ((t.linesBehind l depth (entryLines direction (t.size l) line)).flatMap
          (t.filesAt lines l) ++ t.filesBehind direction lines depth l)
      (t.scan direction l depth (linesFrom direction (t.size l) line) rest hasMoved false
        line) := by
  have hnil : t.linesBehind l depth [] = [] := by
    unfold linesBehind
    split_ifs <;> rfl
  unfold entryLines
  rcases Nat.eq_zero_or_pos (t.size l) with hsize | hsize
  · have hnone : linesFrom direction (t.size l) line = [] := if_pos hsize
    rw [hnone, ite_self, hnil, scan_nil]
    exact hrest hasMoved line hshown
  · have hlines : linesFrom direction (t.size l) line =
        line :: linesAfter direction (t.size l) line := if_neg (Nat.ne_of_gt hsize)
    have hline : line < t.size l := by omega
    rw [hlines]
    split_ifs with hfirst
    · have hnone : linesAfter direction (t.size l) 0 = [] := by
        rw [hfirst.1]
        unfold linesAfter
        split_ifs <;> rfl
      rw [hnil, hfirst.2, hnone, scan_cons_first ⟨hfirst.1, rfl, rfl⟩, scan_nil]
      exact hrest hasMoved 0 hshown
    · exact listFinds henters hdepth hat rest hrest _ _ _ hasMoved false hline rfl
        (fun h => hfirst ⟨h.1, h.2.1⟩) hshown

theorem searchedLines_entersAll (l : ListId) (line : Nat) :
    EntersAll t direction (t.searchedLines direction l line) := fun _ hne => if_neg hne

/-- Where the traversal list is in the root already, the root is not counted. -/
def topDepth (t : Tree) (l : ListId) : Nat := if t.root = l then 0 else 1

/-- The first operation finds the first item that is searched. -/
theorem findFirst_finds (hdepth : t.height t.root ≤ maxDirectoryDepth) (l : ListId)
    (line : Nat) :
    t.Finds direction (t.searchedLines direction l line) (t.topDepth l) t.root
      (t.filesBelow (t.searchedLines direction l line) t.root)
      (t.findFirst direction l line) := by
  have henters : EntersAll t direction (t.searchedLines direction l line) :=
    searchedLines_entersAll l line
  rw [filesBelow_eq]
  unfold findFirst topDepth
  dsimp only
  rcases Decidable.em (t.root = l) with hroot | hroot
  · rw [if_pos hroot, if_pos hroot]
    have hlines : t.searchedLines direction l line t.root = t.linesBehind t.root 0
        (entryLines direction (t.size t.root) (if t.size t.root ≤ line then 0 else line)) := by
      unfold searchedLines
      rw [if_pos rfl, if_pos hroot]
      rfl
    have hstart : (if t.size t.root ≤ line then 0 else line) < t.size t.root ∨
        (if t.size t.root ≤ line then 0 else line) = 0 := by
      split_ifs with hline
      · exact Or.inr rfl
      · exact Or.inl (Nat.lt_of_not_le hline)
    have hrest : RestFinds t direction (t.searchedLines direction l line) 0 t.root 0 t.root
        (t.climb direction 0 t.root) :=
      restFinds_climb henters (by omega) (Nat.zero_le 1) .root
    have hfinds := entry_finds henters (by omega) .root hrest hstart fun _ : false = false => rfl
    have hbehind : t.filesBehind direction (t.searchedLines direction l line) 0 t.root = [] := rfl
    rw [hbehind, List.append_nil, ← hlines] at hfinds
    exact hfinds
  · rw [if_neg hroot, if_neg hroot]
    have hlines : t.searchedLines direction l line t.root = t.linesBehind t.root 1
        (entryLines direction (t.size t.root) (enteredLine direction (t.size t.root) line)) := by
      unfold searchedLines
      rw [if_pos rfl, if_neg hroot]
      rfl
    have hstart : enteredLine direction (t.size t.root) line < t.size t.root ∨
        enteredLine direction (t.size t.root) line = 0 :=
      (Nat.eq_zero_or_pos (t.size t.root)).symm.imp (fun h => enteredLine_lt h)
        fun h => enteredLine_zero h
    have hrest : RestFinds t direction (t.searchedLines direction l line) 1 t.root 1 t.root
        (t.climb direction 1 t.root) :=
      restFinds_climb henters (by omega) (Nat.le_refl 1) .root
    have hfinds := entry_finds henters (by omega) .root hrest hstart
      fun h : true = false => nomatch h
    have hbehind : t.filesBehind direction (t.searchedLines direction l line) 1 t.root = [] := rfl
    rw [hbehind, List.append_nil, ← hlines] at hfinds
    exact hfinds

end Finds

/-! ## What is missed -/

section Missed

variable {t direction} {lines lines' : ListId → List Nat} {l : ListId}

theorem filesBelow_sublist (h : ∀ l, (lines l).Sublist (lines' l)) (l : ListId) :
    (t.filesBelow lines l).Sublist (t.filesBelow lines' l) := by
  induction hheight : t.height l using Nat.strong_induction_on generalizing l with
  | _ height ih =>
    rw [filesBelow_eq, filesBelow_eq]
    apply flatMap_sublist (h l)
    intro line _
    unfold filesAt
    cases hentry : t.entry l line with
    | none => exact List.Sublist.refl _
    | some entry =>
      cases entry with
      | file => exact List.Sublist.refl _
      | directory child =>
        have hless := (t.child _ _ _ hentry).2.2
        rw [hheight] at hless
        exact ih _ hless child rfl

theorem filesAt_sublist (h : ∀ l, (lines l).Sublist (lines' l)) (l : ListId) (line : Nat) :
    (t.filesAt lines l line).Sublist (t.filesAt lines' l line) := by
  unfold filesAt
  cases t.entry l line with
  | none => exact List.Sublist.refl _
  | some entry =>
    cases entry with
    | file => exact List.Sublist.refl _
    | directory child => exact filesBelow_sublist h child

/-- Where there is no item below a list, there is none below the lists nested in it. -/
theorem filesBelow_eq_nil_of_below {l' : ListId} (hbelow : t.Below l l')
    (hlines : ∀ l line, line < t.size l → line ∈ lines l) (h : t.filesBelow lines l = []) :
    t.filesBelow lines l' = [] := by
  induction hbelow with
  | refl => exact h
  | @child l' line child hbelow hentry ih =>
    rw [filesBelow_eq, List.flatMap_eq_nil_iff] at ih
    have hline : line < t.size l' := (List.getElem?_eq_some_iff.mp hentry).1
    have hat := ih line (hlines l' line hline)
    unfold filesAt at hat
    rw [hentry] at hat
    exact hat

/-- A list nested in another one is in the list of one of its directories. -/
theorem below_iff {l' : ListId} : t.Below l l' ↔
    l' = l ∨ ∃ line child, t.entry l line = some (.directory child) ∧ t.Below child l' := by
  constructor
  · intro h
    induction h with
    | refl => exact Or.inl rfl
    | @child l' line child _ hentry ih =>
      rcases ih with rfl | ⟨first, firstChild, hfirst, hbelow⟩
      · exact Or.inr ⟨line, child, hentry, .refl⟩
      · exact Or.inr ⟨first, firstChild, hfirst, hbelow.child hentry⟩
  · rintro (rfl | ⟨line, child, hentry, hbelow⟩)
    · exact .refl
    · induction hbelow with
      | refl => exact Below.refl.child hentry
      | child _ hnested ih => exact ih.child hnested

/-- No item is missed below a list exactly if there is none at or below the lines that
are not looked at. -/
theorem filesBelow_eq_iff (h : ∀ l, (lines l).Sublist (lines' l))
    (hnodup : ∀ l, (lines' l).Nodup) (hall : ∀ l line, line ∈ lines' l ↔ line < t.size l)
    (l : ListId) :
    t.filesBelow lines l = t.filesBelow lines' l ↔
      ∀ l', t.Below l l' → ∀ line < t.size l', line ∉ lines l' → t.filesAt lines' l' line = [] := by
  induction hheight : t.height l using Nat.strong_induction_on generalizing l with
  | _ height ih =>
    have hchild : ∀ line child, t.entry l line = some (.directory child) →
        (t.filesBelow lines child = t.filesBelow lines' child ↔
          ∀ l', t.Below child l' → ∀ line < t.size l', line ∉ lines l' →
            t.filesAt lines' l' line = []) := by
      intro line child hentry
      have hless := (t.child _ _ _ hentry).2.2
      rw [hheight] at hless
      exact ih _ hless child rfl
    have hat : ∀ line child lines, t.entry l line = some (.directory child) →
        t.filesAt lines l line = t.filesBelow lines child := by
      intro line child lines hentry
      unfold filesAt
      rw [hentry]
    rw [filesBelow_eq, filesBelow_eq, flatMap_eq_iff_of_sublist (h l) (hnodup l)
      fun line _ => filesAt_sublist h l line]
    constructor
    · rintro ⟨hvisited, hothers⟩ l' hbelow line hline hnot
      rcases below_iff.mp hbelow with rfl | ⟨first, child, hentry, hbelow⟩
      · exact hothers line ((hall _ _).mpr hline) hnot
      · rcases Decidable.em (first ∈ lines l) with hmem | hmem
        · have hsame := hvisited first hmem
          rw [hat _ _ _ hentry, hat _ _ _ hentry] at hsame
          exact (hchild _ _ hentry).mp hsame l' hbelow line hline hnot
        · have hfirst : first < t.size l := (List.getElem?_eq_some_iff.mp hentry).1
          have hnone := hothers first ((hall _ _).mpr hfirst) hmem
          rw [hat _ _ _ hentry] at hnone
          have hbelow := filesBelow_eq_nil_of_below hbelow (fun l line => (hall l line).mpr) hnone
          rw [filesBelow_eq, List.flatMap_eq_nil_iff] at hbelow
          exact hbelow line ((hall _ _).mpr hline)
    · intro hmissed
      refine ⟨fun line _ => ?_, fun line hline hnot => ?_⟩
      · cases hentry : t.entry l line with
        | none =>
          unfold filesAt
          rw [hentry]
        | some entry =>
          cases entry with
          | file =>
            unfold filesAt
            rw [hentry]
          | directory child =>
            rw [hat _ _ _ hentry, hat _ _ _ hentry, hchild _ _ hentry]
            intro l' hbelow
            exact hmissed l' (below_iff.mpr (Or.inr ⟨line, child, hentry, hbelow⟩))
      · exact hmissed l .refl line ((hall _ _).mp hline) hnot

/-! ## All items, each once -/

theorem lt_size {line : Nat} {entry : Entry} (hentry : t.entry l line = some entry) :
    line < t.size l :=
  (List.getElem?_eq_some_iff.mp hentry).1

theorem mem_filesBelow_iff {place : ListId × Nat} : place ∈ t.filesBelow t.allLines l ↔
    t.Below l place.1 ∧ t.entry place.1 place.2 = some .file := by
  induction hheight : t.height l using Nat.strong_induction_on generalizing l with
  | _ height ih =>
    rw [filesBelow_eq, List.mem_flatMap]
    constructor
    · rintro ⟨line, _, hmem⟩
      unfold filesAt at hmem
      cases hentry : t.entry l line with
      | none =>
        rw [hentry] at hmem
        exact absurd hmem List.not_mem_nil
      | some entry =>
        rw [hentry] at hmem
        cases entry with
        | file =>
          obtain rfl := List.mem_singleton.mp hmem
          exact ⟨.refl, hentry⟩
        | directory child =>
          have hless := (t.child _ _ _ hentry).2.2
          rw [hheight] at hless
          obtain ⟨hbelow, hfile⟩ := (ih _ hless rfl).mp hmem
          exact ⟨below_iff.mpr (Or.inr ⟨line, child, hentry, hbelow⟩), hfile⟩
    · rintro ⟨hbelow, hfile⟩
      rcases below_iff.mp hbelow with hsame | ⟨line, child, hentry, hbelow⟩
      · obtain ⟨l', line⟩ := place
        obtain rfl : l' = l := hsame
        refine ⟨line, List.mem_range.mpr (lt_size hfile), ?_⟩
        unfold filesAt
        rw [hfile]
        exact List.mem_singleton.mpr rfl
      · refine ⟨line, List.mem_range.mpr (lt_size hentry), ?_⟩
        have hless := (t.child _ _ _ hentry).2.2
        rw [hheight] at hless
        unfold filesAt
        rw [hentry]
        exact (ih _ hless rfl).mpr ⟨hbelow, hfile⟩

/-- A list is not nested in one of its own directories. -/
theorem not_below_of_height_le {l' : ListId} (h : t.height l < t.height l') :
    ¬ t.Below l l' := by
  intro hbelow
  have hle : t.height l' ≤ t.height l := by
    clear h
    induction hbelow with
    | refl => exact Nat.le_refl _
    | child _ hentry ih => exact Nat.le_trans (Nat.le_of_lt (t.child _ _ _ hentry).2.2) ih
  omega

/-- A list is nested in one directory of a list at most. -/
theorem line_unique {line line' : Nat} {child child' l' : ListId}
    (hentry : t.entry l line = some (.directory child))
    (hentry' : t.entry l line' = some (.directory child'))
    (hbelow : t.Below child l') (hbelow' : t.Below child' l') : line = line' := by
  have hparent := t.child _ _ _ hentry
  have hparent' := t.child _ _ _ hentry'
  induction hbelow with
  | refl =>
    cases hbelow' with
    | refl => exact congrArg Prod.snd (Option.some.inj (hparent.2.1.symm.trans hparent'.2.1))
    | child hbelow' hnested =>
      obtain ⟨rfl, _⟩ := Prod.mk.inj
        (Option.some.inj (hparent.2.1.symm.trans (t.child _ _ _ hnested).2.1))
      exact absurd hbelow' (not_below_of_height_le hparent'.2.2)
  | child hbelow hnested ih =>
    cases hbelow' with
    | refl =>
      obtain ⟨rfl, _⟩ := Prod.mk.inj
        (Option.some.inj (hparent'.2.1.symm.trans (t.child _ _ _ hnested).2.1))
      exact absurd hbelow (not_below_of_height_le hparent.2.2)
    | child hbelow' hnested' =>
      obtain ⟨rfl, _⟩ := Prod.mk.inj
        (Option.some.inj ((t.child _ _ _ hnested).2.1.symm.trans (t.child _ _ _ hnested').2.1))
      exact ih hbelow'

theorem mem_filesAt {place : ListId × Nat} {line : Nat}
    (h : place ∈ t.filesAt t.allLines l line) : place = (l, line) ∨
      ∃ child, t.entry l line = some (.directory child) ∧ t.Below child place.1 := by
  unfold filesAt at h
  cases hentry : t.entry l line with
  | none =>
    rw [hentry] at h
    exact absurd h List.not_mem_nil
  | some entry =>
    rw [hentry] at h
    cases entry with
    | file => exact Or.inl (List.mem_singleton.mp h)
    | directory child => exact Or.inr ⟨child, rfl, (mem_filesBelow_iff.mp h).1⟩

theorem filesBelow_nodup : (t.filesBelow t.allLines l).Nodup := by
  induction hheight : t.height l using Nat.strong_induction_on generalizing l with
  | _ height ih =>
    rw [filesBelow_eq, List.nodup_flatMap]
    constructor
    · intro line _
      unfold filesAt
      cases hentry : t.entry l line with
      | none => exact List.nodup_nil
      | some entry =>
        cases entry with
        | file => exact List.nodup_singleton _
        | directory child =>
          have hless := (t.child _ _ _ hentry).2.2
          rw [hheight] at hless
          exact ih _ hless rfl
    · refine List.nodup_range.imp ?_
      intro line line' hne place hmem hmem'
      apply hne
      rcases mem_filesAt hmem with rfl | ⟨child, hentry, hbelow⟩ <;>
        rcases mem_filesAt hmem' with hplace | ⟨child', hentry', hbelow'⟩
      · exact congrArg Prod.snd hplace
      · exact absurd hbelow' (not_below_of_height_le (t.child _ _ _ hentry').2.2)
      · rw [hplace] at hbelow
        exact absurd hbelow (not_below_of_height_le (t.child _ _ _ hentry).2.2)
      · exact line_unique hentry hentry' hbelow hbelow'

/-- The items in depth-first order are all that are not directories, each once. -/
theorem files_exact (t : Tree) : t.files.Nodup ∧ ∀ l line,
    (l, line) ∈ t.files ↔ t.Below t.root l ∧ t.entry l line = some .file :=
  ⟨filesBelow_nodup, fun _ _ => mem_filesBelow_iff⟩

/-! ## Both directions -/

/-- All lines of a list in the order of the direction. -/
def linesInDirection (t : Tree) (direction : Direction) (l : ListId) : List Nat :=
  if direction = .backward then (t.allLines l).reverse else t.allLines l

theorem filesBelow_backward (l : ListId) :
    t.filesBelow (t.linesInDirection .backward) l = (t.filesBelow t.allLines l).reverse := by
  induction hheight : t.height l using Nat.strong_induction_on generalizing l with
  | _ height ih =>
    have hat : ∀ line, t.filesAt (t.linesInDirection .backward) l line =
        (t.filesAt t.allLines l line).reverse := by
      intro line
      unfold filesAt
      cases hentry : t.entry l line with
      | none => rfl
      | some entry =>
        cases entry with
        | file => rfl
        | directory child =>
          have hless := (t.child _ _ _ hentry).2.2
          rw [hheight] at hless
          exact ih _ hless child rfl
    have hlines : t.linesInDirection .backward l = (t.allLines l).reverse := if_pos rfl
    rw [filesBelow_eq, filesBelow_eq, List.reverse_flatMap, hlines]
    congr 1
    funext line
    exact hat line

theorem filesBelow_linesInDirection (l : ListId) :
    t.filesBelow (t.linesInDirection direction) l =
      if direction = .backward then (t.filesBelow t.allLines l).reverse
      else t.filesBelow t.allLines l := by
  split_ifs with hbackward
  · rw [hbackward, filesBelow_backward]
  · have hlines : t.linesInDirection direction = t.allLines := by
      funext l
      exact if_neg hbackward
    rw [hlines]

theorem filesAt_eq_nil_iff (l : ListId) (line : Nat) :
    t.filesAt (t.linesInDirection direction) l line = [] ↔
      t.filesAt t.allLines l line = [] := by
  unfold filesAt
  cases t.entry l line with
  | none => exact Iff.rfl
  | some entry =>
    cases entry with
    | file => exact Iff.rfl
    | directory child =>
      dsimp only
      rw [filesBelow_linesInDirection]
      split_ifs
      · exact List.reverse_eq_nil_iff
      · exact Iff.rfl

theorem mem_linesInDirection (l : ListId) (line : Nat) :
    line ∈ t.linesInDirection direction l ↔ line < t.size l := by
  unfold linesInDirection allLines
  split_ifs
  · rw [List.mem_reverse, List.mem_range]
  · exact List.mem_range

theorem linesInDirection_nodup (l : ListId) : (t.linesInDirection direction l).Nodup := by
  unfold linesInDirection allLines
  split_ifs
  · exact List.nodup_reverse.mpr List.nodup_range
  · exact List.nodup_range

theorem upToDirectory_sublist (l : ListId) (xs : List Nat) :
    (t.upToDirectory l xs).Sublist xs := by
  induction xs with
  | nil => exact List.Sublist.refl _
  | cons x xs ih =>
    unfold upToDirectory
    split
    · exact (List.nil_sublist xs).cons_cons x
    · exact ih.cons_cons x
    · exact ih.cons_cons x

theorem range'_sublist_range {start count size : Nat} (h : start + count ≤ size) :
    (List.range' start count).Sublist (List.range size) := by
  have hsplit : List.range (start + count) = List.range' 0 start ++ List.range' start count := by
    have happend := List.range'_append_1 (s := 0) (m := start) (n := count)
    rw [Nat.zero_add] at happend
    rw [happend, List.range_eq_range']
  have hright := List.sublist_append_right (List.range' 0 start) (List.range' start count)
  rw [← hsplit] at hright
  exact hright.trans (List.range_sublist.mpr h)

/-- The lines from a line of a list on are some of its lines. -/
theorem linesFrom_sublist {line : Nat} (hline : line < t.size l ∨ line = 0) :
    (linesFrom direction (t.size l) line).Sublist (t.linesInDirection direction l) := by
  unfold linesFrom
  split_ifs with hsize
  · exact List.nil_sublist _
  have hline : line < t.size l := by omega
  have hsingle : [line].Sublist (t.linesInDirection direction l) :=
    List.singleton_sublist.mpr ((mem_linesInDirection l line).mpr hline)
  unfold linesAfter
  split_ifs with hend
  · exact hsingle
  cases direction with
  | none => exact hsingle
  | forward =>
    have hrange : line :: List.range' (line + 1) (min (t.size l) (intMax + 2) - (line + 1)) =
        List.range' line (min (t.size l) (intMax + 2) - (line + 1) + 1) :=
      (List.range'_succ (s := line)).symm
    dsimp only
    rw [hrange]
    exact range'_sublist_range (by omega)
  | backward =>
    have hall : t.linesInDirection .backward l = (List.range (t.size l)).reverse := rfl
    have hcons : line :: (List.range line).reverse = (List.range (line + 1)).reverse := by
      rw [List.range_succ, List.reverse_append]
      rfl
    dsimp only
    rw [hcons, hall]
    exact (List.range_sublist.mpr hline).reverse

theorem entryLines_sublist {line : Nat} (hline : line < t.size l ∨ line = 0) :
    (entryLines direction (t.size l) line).Sublist (t.linesInDirection direction l) := by
  unfold entryLines
  split_ifs
  · exact List.nil_sublist _
  · exact linesFrom_sublist hline

theorem searchedLines_sublist (l : ListId) (line : Nat) (l' : ListId) :
    (t.searchedLines direction l line l').Sublist (t.linesInDirection direction l') := by
  have hentered : ∀ line', enteredLine direction (t.size l') line' < t.size l' ∨
      enteredLine direction (t.size l') line' = 0 := fun line' =>
    (Nat.eq_zero_or_pos (t.size l')).symm.imp (fun h => enteredLine_lt h)
      fun h => enteredLine_zero h
  unfold searchedLines
  split_ifs with hroot hlist hsize
  · rw [hroot]
    exact (upToDirectory_sublist _ _).trans (entryLines_sublist (Or.inr rfl))
  · rw [hroot]
    exact (upToDirectory_sublist _ _).trans
      (entryLines_sublist (Or.inl (Nat.lt_of_not_le hsize)))
  · subst hroot
    exact entryLines_sublist (hentered line)
  · exact entryLines_sublist (hentered 0)

/-- All items are found, in the order of the direction, exactly if none is missed. -/
theorem filesBelow_searchedLines_iff (l : ListId) (line : Nat) :
    t.filesBelow (t.searchedLines direction l line) t.root =
        (if direction = .backward then t.files.reverse else t.files) ↔
      t.NothingMissed direction l line := by
  have hsublist : ∀ l', (t.searchedLines direction l line l').Sublist
      (t.linesInDirection direction l') := searchedLines_sublist l line
  have hiff := filesBelow_eq_iff hsublist linesInDirection_nodup mem_linesInDirection t.root
  rw [filesBelow_linesInDirection] at hiff
  unfold files NothingMissed
  rw [hiff]
  constructor
  · intro h l' hbelow line' hline hnot
    exact (filesAt_eq_nil_iff l' line').mp (h l' hbelow line' hline hnot)
  · intro h l' hbelow line' hline hnot
    exact (filesAt_eq_nil_iff l' line').mpr (h l' hbelow line' hline hnot)

end Missed

end Tree

end Drcpd.Crawler

/-
  Crawler/Tree.lean --- finding items in a directory tree, one after the other.

  A `Tree` is what the list broker knows.  All of its lists can be entered.  While an
  operation looks at an item, the item is either in the cache, or it is fetched and the
  function passed with the hint is called when it is there; which of these happens is
  open at every look (`Access`).

  `drive` runs an operation from event to event until it has finished, and `findAll`
  runs operations until one of them does not find an item any more.  Both take fuel.
-/
import Drcpd.Crawler.FindNextOp

set_option autoImplicit false

namespace Drcpd.Crawler

open Drcpd.Lists

/-! ## Directory trees -/

/-- An item of a list: a directory, with the ID of its list, or anything else. -/
inductive Entry where
  | file
  | directory (listId : ListId)
  deriving DecidableEq, Repr

/-- A finite directory tree.  Each list but the root belongs to exactly one line; the
number of lists nested at and below a list is `height` at most. -/
structure Tree where
  root : ListId
  entries : ListId → List Entry
  parent : ListId → Option (ListId × Nat)
  height : ListId → Nat
  root_valid : root.isValid = true
  parent_root : parent root = none
  height_pos : ∀ l, 0 < height l
  list_valid : ∀ l, entries l ≠ [] → l.isValid = true
  child : ∀ l line id, (entries l)[line]? = some (.directory id) →
    id.isValid = true ∧ parent id = some (l, line) ∧ height id < height l
  parent_entry : ∀ id l line, parent id = some (l, line) →
    (entries l)[line]? = some (.directory id)

namespace Tree

variable (t : Tree)

/-- The number of items in a list. -/
def size (l : ListId) : Nat := (t.entries l).length

/-- What a line of a list holds. -/
def entry (l : ListId) (line : Nat) : Option Entry := (t.entries l)[line]?

/-! ## What the list broker answers -/

/-- How the item under the cursor is found when it is looked at: in the cache, or only
after the function passed with the hint has been called, where the hint or the item is
said to be on its way. -/
inductive Access where
  | cached
  | hintStarted
  | itemStarted
  deriving DecidableEq, Repr

/-- The answers while the traversal list is in a list of the tree. -/
def answers (l : ListId) (access : Nat → Access) (op : FindNextOp) : ListAnswers :=
  let line := op.position.cursor
  let item :=
    match t.entry l line with
    | some .file => (OpResult.succeeded, some false)
    | some (.directory _) => (.succeeded, some true)
    | none => (.failed, none)
  { visibleItems := t.size l
    hint :=
      match access line with
      | .cached => ⟨.succeeded, false⟩
      | .hintStarted => ⟨.started, true⟩
      | .itemStarted => ⟨.succeeded, true⟩
    item :=
      match access line with
      | .cached | .hintStarted => item
      | .itemStarted => (.started, none)
    child :=
      match t.entry l line with
      | some (.directory id) => (id, false)
      | some .file | none => ({}, true)
    parent := t.parent l
    enter := .started }

/-! ## Running operations -/

/-- What an operation waits for. -/
inductive Pending where
  | yielded
  | entering (query : EnterListParameters)
  | hinted
  deriving DecidableEq, Repr

/-- The items are found as before, but for one that has been fetched. -/
def fetched (access : Nat → Access) (line : Nat) : Nat → Access := fun line' =>
  if line' = line then .cached else access line'

/-- What the operation waits for comes, while the traversal list is in the given list.
The item a hint was for is in the cache now. -/
def event (access : Nat → Access) (fuel : Nat) (l : ListId) (op : FindNextOp) :
    Pending → Option (FindNextOp × Effects)
  | .yielded => op.continueRunning (t.answers l access) fuel
  | .entering query =>
      op.enterListEvent (t.answers l access) fuel .succeeded query.callerId (t.size l)
  | .hinted =>
      op.hintedFn (t.answers l (fetched access op.position.cursor)) fuel

/-- What follows a function of an operation: it has finished, or goes on when what it
waits for comes.  A list is entered when its query is answered. -/
def follow (drive : ListId → Pending → FindNextOp → Option (FindNextOp × ListId)) (l : ListId) :
    FindNextOp × Effects → Option (FindNextOp × ListId)
  | (op, effects) =>
      match effects.notification, effects.query with
      | some (.sent .finished), _ => some (op, l)
      | some (.sent .yielding), _ => drive l .yielded op
      | some .emptyFunction, _ | some .bug, _ => none
      | none, some query => drive query.listId (.entering query) op
      | none, none => if 0 < effects.hinted then drive l .hinted op else none

/-- An operation runs until it has finished; the list the traversal list is in then is
returned with it.  `access` is given for each event, and in it for each line. -/
def drive : Nat → (Nat → Nat → Access) → ListId → Pending → FindNextOp →
    Option (FindNextOp × ListId)
  | 0, _, _, _, _ => none
  | fuel + 1, access, l, pending, op =>
      (t.event (access 0) fuel l op pending).bind
        (follow (drive fuel fun n => access (n + 1)) l)

/-- An operation is started while the traversal list is in the given list, and runs until
it has finished. -/
def runOp (fuel : Nat) (access : Nat → Nat → Access) (l : ListId) (op : FindNextOp) :
    Option (FindNextOp × ListId) :=
  match op.start l .started with
  | (true, started) => follow (t.drive fuel access) l started
  | (false, _) => none

/-- The operation that is to find the next item, from where the last one was found. -/
def nextOp (op : FindNextOp) : FindNextOp :=
  FindNextOp.make .depthFirst op.direction op.position.syncRequestWithPos .findNext

/-- Operations are run as long as they find an item.  The result are the places of the
items, and where the last operation has stopped. -/
def findAll : Nat → (Nat → Nat → Nat → Access) → ListId → FindNextOp →
    Option (List (ListId × Nat) × PositionalState)
  | 0, _, _, _ => none
  | fuel + 1, access, l, op =>
      (t.runOp fuel (access 0) l op).bind fun (op, l) =>
        if op.posState = .somewhereInList then
          (findAll fuel (fun n => access (n + 1)) l (nextOp op)).map fun (places, posState) =>
            ((op.position.listId, op.position.cursor) :: places, posState)
        else some ([], op.posState)

/-- The first operation of a traversal, while the traversal list is in the given list. -/
def firstOp (direction : Direction) (l : ListId) (line : Nat) : FindNextOp :=
  FindNextOp.make .depthFirst direction (Cursor.make t.root line 0 (t.size l)) .findFirst

end Tree

end Drcpd.Crawler

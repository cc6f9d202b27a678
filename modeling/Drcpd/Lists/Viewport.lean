/-
  Lists/Viewport.lean --- the cached window of a list (`dbuslist_viewport.cc`,
  `ramlist.cc`).

  A viewport has a view segment, a cached segment and the cached items.  The items
  are a `RamList`, a vector of item pointers which may be null.

  `none` is undefined behaviour: an index or a shift count beyond the vector.
-/
import Drcpd.Lists.Segment

set_option autoImplicit false

namespace Drcpd.Lists

/-- `List::RamList`, without the name. -/
abbrev RamList (Item : Type) : Type := List (Option Item)

namespace RamList

variable {Item : Type}

/-- `get_item`. -/
def getItem (items : RamList Item) (line : Nat) : Option Item := (items[line]?).join

/-- `append`. -/
def append (items : RamList Item) (item : Item) : RamList Item := items ++ [some item]

/-- `replace`. -/
def replace (items : RamList Item) (line : Nat) (item : Item) : Option (RamList Item) :=
  if line < items.length then some (items.set line (some item)) else none

/-- `shift_up`: the first items are dropped and null pointers left at the end. -/
def shiftUp (items : RamList Item) (count : Nat) : Option (RamList Item) :=
  if count = 0 then some items
  else if items.length < count then none
  else some (items.drop count ++ List.replicate count none)

/-- `shift_down`: the last items are dropped and null pointers left at the start. -/
def shiftDown (items : RamList Item) (count : Nat) : Option (RamList Item) :=
  if count = 0 then some items
  else if items.length < count then none
  else some (List.replicate count none ++ items.take (items.length - count))

/-- The loop of the cache updates that replaces items from an index on. -/
def replaceFrom (items : RamList Item) (line : Nat) : List Item → Option (RamList Item)
  | [] => some items
  | item :: rest =>
      match items.replace line item with
      | none => none
      | some items => replaceFrom items (line + 1) rest

/-- The loop of the cache updates that appends items. -/
def appendAll (items : RamList Item) : List Item → RamList Item
  | [] => items
  | item :: rest => appendAll (items.append item) rest

end RamList

/-- `List::DBusListViewport`. -/
structure Viewport (Item : Type) where
  viewSegment : Segment := {}
  itemsSegment : Segment := {}
  items : RamList Item := []
  cacheSize : UInt32

namespace Viewport

variable {Item : Type}

/-- `item_at`: the item, if there is one in the cache, and whether it is visible. -/
def itemAt (vp : Viewport Item) (line : Nat) : Option Item × Bool :=
  (if vp.itemsSegment.containsLine line then vp.items.getItem (line - vp.itemsSegment.line)
    else none,
    vp.viewSegment.containsLine line)

/-- `compute_overlap`. -/
def computeOverlap (vp : Viewport Item) (segment : Segment) : CacheSegmentState :=
  let i := segment.intersection vp.itemsSegment
  if i.2 = 0 then .empty
  else
    match i.1 with
    | .disjoint => .empty
    | .equal | .includedInOther => .cached
    | .topRemains => .cachedTopEmptyBottom
    | .bottomRemains => .cachedBottomEmptyTop
    | .centerRemains => .cachedCenter

/-- The segment `set_view` chooses. -/
def clippedView (line count totalNumberOfLines : Nat) : Segment :=
  let line := if uintMax - count < line then uintMax - count else line
  if addUInt line count ≤ totalNumberOfLines then ⟨line, count⟩
  else if count ≤ totalNumberOfLines then ⟨totalNumberOfLines - count, count⟩
  else ⟨0, totalNumberOfLines⟩

/-- `set_view`. -/
def setView (vp : Viewport Item) (line count totalNumberOfLines : Nat) :
    CacheSegmentState × Viewport Item :=
  let view := clippedView line count totalNumberOfLines
  (vp.computeOverlap view, { vp with viewSegment := view })

/-- `get_missing_segment`. -/
def getMissingSegment (vp : Viewport Item) : Segment :=
  match vp.viewSegment.intersection vp.itemsSegment with
  | (.disjoint, _) | (.centerRemains, _) => vp.viewSegment
  | (.equal, _) | (.includedInOther, _) => ⟨vp.viewSegment.line, 0⟩
  | (.topRemains, isize) =>
      ⟨addUInt vp.viewSegment.line isize, vp.viewSegment.count - isize⟩
  | (.bottomRemains, isize) => ⟨vp.viewSegment.line, vp.viewSegment.count - isize⟩

/-- `prepare_update`: the index of the gap, and the items with the gap made.  An
intersection larger than the number of items wraps around to a shift count beyond
the vector. -/
def prepareUpdate (vp : Viewport Item) : Option (Nat × RamList Item) :=
  match vp.viewSegment.intersection vp.itemsSegment with
  | (.disjoint, _) | (.centerRemains, _) => some (0, [])
  | (.equal, _) | (.includedInOther, _) => some (0, vp.items)
  | (.topRemains, isize) =>
      if vp.items.length < isize then none
      else (vp.items.shiftUp (vp.items.length - isize)).map (isize, ·)
  | (.bottomRemains, isize) =>
      if vp.items.length < isize then none
      else (vp.items.shiftDown (vp.items.length - isize)).map (0, ·)

/-- `update_cache_region_simple` and `update_cache_region_with_meta_data` with the
items `new_item_fn` makes of the rows. -/
def updateCacheRegion (vp : Viewport Item) (cacheListIndex : Nat) (rows : List Item) :
    Option (Viewport Item) :=
  match rows with
  | [] => some vp
  | _ :: _ =>
      if vp.items = [] then
        some { vp with items := vp.items.appendAll rows, itemsSegment := vp.viewSegment }
      else
        (vp.items.replaceFrom cacheListIndex rows).map fun items =>
          { vp with items := items, itemsSegment := vp.viewSegment }

/-- `update_viewport_cache`. -/
def updateCache (vp : Viewport Item) (rows : List Item) : Option (Viewport Item) :=
  match vp.prepareUpdate with
  | none => none
  | some (beginningOfGap, items) =>
      { vp with items := items }.updateCacheRegion beginningOfGap rows

/-- `clear_for_line`. -/
def clearForLine (vp : Viewport Item) (line : Nat) : Viewport Item :=
  { vp with items := [], itemsSegment := ⟨line, 0⟩ }

end Viewport

end Drcpd.Lists

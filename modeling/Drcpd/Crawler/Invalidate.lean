/-
  Crawler/Invalidate.lean --- the positions of a directory crawler (`directory_crawler.cc`).

  Beside its operations a crawler holds the reference point, the bookmarks, and the cache
  enforcer; its traversal list is in some list.  When a list has been removed or replaced, the
  file browser tells the crawler, and playing is stopped if the crawler says so.  The player
  control keeps the handle then, so that the crawler stays active.

  Operations that get the URIs of an item are kept apart from those that find items.  The
  crawler is looked at from its activation to its deactivation.
-/
import Drcpd.Crawler.ListIds

set_option autoImplicit false

namespace Drcpd.Crawler

open Drcpd.Lists

/-- `Crawler::Bookmark`. -/
inductive Bookmark where
  | pinned
  | aboutToPlay
  | currentlyPlaying
  | prefetchCursor
  | skipCursor
  deriving DecidableEq, Repr

/-- `Cursor::list_invalidate`. -/
def Cursor.listInvalidate (c : Cursor) (listId replacementId : ListId) : Bool × Cursor :=
  let c := if c.requestedListId = listId then { c with requestedListId := replacementId } else c
  if c.listId = listId then (true, { c with listId := replacementId }) else (false, c)

/-- `CacheEnforcer`, and `is_stopped`. -/
structure CacheEnforcer where
  listId : ListId
  isStopped : Bool := false
  deriving DecidableEq, Repr

/-- `GetURIsOp`, whether it is in `ops_`, and whether its timer is pending. -/
structure GetUrisOp where
  position : Cursor
  wasRun : Bool := false
  isContained : Bool := false
  isDelayed : Bool := false
  isCanceled : Bool := false

/-- What the player control holds of the crawler: the find operation of the skipper, the
operations for prefetching, and the handle. -/
structure PlayerControl where
  findNextOp : Option OpId := none
  prefetchNextItemOp : Option OpId := none
  prefetchUrisOp : Option OpId := none
  hasCrawlerHandle : Bool := true

/-- `DirectoryCrawler`, with the lists that have been invalidated so far. -/
structure DirectoryCrawler where
  isActive : Bool := true
  referencePoint : Option Cursor := none
  bookmarks : Bookmark → Option Cursor := fun _ => none
  iface : Iface
  uris : OpId → GetUrisOp
  cacheEnforcer : Option CacheEnforcer := none
  /-- The list the traversal list is in. -/
  traversalListId : ListId := {}
  gone : List ListId := []

/-- What happens to an active crawler. -/
inductive DirectoryCrawlerEvent where
  | setReferencePoint (cursor : Cursor)
  | bookmark (bm : Bookmark) (cursor : Cursor)
  | moveBookmark (dest src : Bookmark)
  | clearBookmark (bm : Bookmark)
  | operation (e : CrawlerEvent)
  | runUris (op : OpId) (isDelayed : Bool)
  | timerUris (op : OpId)
  | cancelUris (op : OpId)
  | completedUris (op : OpId)
  | enforcerStopped
  /-- `list_invalidate` of the file browser; the player control, if it is the active controller
  for the audio source of the view. -/
  | listInvalidate (listId replacementId : ListId) (control : Option PlayerControl)
  | deactivate

/-- The traversal list is in the given list. -/
def CrawlerEvent.inList (listId : ListId) : CrawlerEvent → CrawlerEvent
  | .run op isDelayed _ enter => .run op isDelayed listId enter
  | .timer op _ enter => .timer op listId enter
  | e => e

/-- The list that is entered. -/
def CrawlerEvent.entered : CrawlerEvent → Option ListId
  | .enterListResult _ query _ .succeeded _ _ _ => some query.listId
  | _ => none

namespace DirectoryCrawler

/-- The cache enforcer in `list_invalidate`. -/
def invalidatedEnforcer (c : DirectoryCrawler) (listId replacementId : ListId) :
    Option CacheEnforcer :=
  match c.cacheEnforcer with
  | none => none
  | some enforcer =>
      if enforcer.listId = listId then
        if !enforcer.isStopped && replacementId.isValid then some { listId := replacementId }
        else none
      else some enforcer

/-- `list_invalidate`. -/
def listInvalidate (c : DirectoryCrawler) (listId replacementId : ListId) :
    Bool × DirectoryCrawler :=
  match c.referencePoint with
  | none => (false, c)
  | some cursor =>
      let invalidated := cursor.listInvalidate listId replacementId
      (if invalidated.1 then !replacementId.isValid else decide (c.traversalListId = listId),
        { c with
          cacheEnforcer := c.invalidatedEnforcer listId replacementId
          referencePoint := some invalidated.2 })

/-- `deactivate`. -/
def deactivate (c : DirectoryCrawler) : DirectoryCrawler :=
  { c with
    isActive := false
    referencePoint := none
    bookmarks := fun _ => none
    iface := c.iface.deactivate
    uris := fun op => { c.uris op with isContained := false, isCanceled := true }
    cacheEnforcer := none }

/-- Change one operation that gets URIs. -/
def setUris (c : DirectoryCrawler) (op : OpId) (r : GetUrisOp) : DirectoryCrawler :=
  { c with uris := Function.update c.uris op r }

/-- `cancel`, if there is an operation. -/
def cancelOp (c : DirectoryCrawler) : Option OpId → DirectoryCrawler
  | none => c
  | some op => { c with iface := c.iface.setOp op (c.iface.ops op).cancel }

/-- The same for an operation that gets URIs. -/
def cancelUrisOp (c : DirectoryCrawler) : Option OpId → DirectoryCrawler
  | none => c
  | some op => c.setUris op { c.uris op with isCanceled := true }

/-- `stop_playing` of the play view, which is `unplug(false)` of the player control: skipping and
prefetching end. -/
def stopPlaying (c : DirectoryCrawler) (control : PlayerControl) : DirectoryCrawler :=
  let c := (c.cancelOp control.findNextOp).cancelOp control.prefetchNextItemOp
  let c := c.cancelUrisOp control.prefetchUrisOp
  { c with
    bookmarks :=
      if control.hasCrawlerHandle then Function.update c.bookmarks .prefetchCursor none
      else c.bookmarks }

/-- What `list_invalidate` of the file browser does to its crawler: playing is stopped if the
crawler says so and it is the one that plays. -/
def viewListInvalidate (c : DirectoryCrawler) (listId replacementId : ListId)
    (control : Option PlayerControl) : DirectoryCrawler :=
  let invalidated := c.listInvalidate listId replacementId
  let stopped :=
    if invalidated.1 then control.elim invalidated.2 invalidated.2.stopPlaying
    else invalidated.2
  { stopped with gone := listId :: c.gone }

/-- `set_reference_point`, and the call of `set_cursor`. -/
def setReferencePoint (c : DirectoryCrawler) (cursor : Cursor) : DirectoryCrawler :=
  { c with
    referencePoint := some cursor
    bookmarks := Function.update c.bookmarks .pinned (some cursor)
    cacheEnforcer := some { listId := cursor.listId } }

/-- `bookmark_move`. -/
def bookmarkMove (c : DirectoryCrawler) (dest src : Bookmark) : DirectoryCrawler :=
  if dest = src then c
  else
    { c with
      bookmarks :=
        Function.update (Function.update c.bookmarks dest (c.bookmarks src)) src none }

/-- The lists named by get-URIs requests in a step. -/
def urisRequests (c : DirectoryCrawler) : DirectoryCrawlerEvent → List ListId
  | .runUris op isDelayed => if isDelayed then [] else [(c.uris op).position.listId]
  | .timerUris op => if (c.uris op).isCanceled then [] else [(c.uris op).position.listId]
  | .setReferencePoint _ | .bookmark _ _ | .moveBookmark _ _ | .clearBookmark _ | .operation _
  | .cancelUris _ | .completedUris _ | .enforcerStopped | .listInvalidate _ _ _
  | .deactivate => []

/-- One step of an active crawler.  Each operation is run once, and a notification names a
list. -/
def step (c : DirectoryCrawler) (e : DirectoryCrawlerEvent) : Option DirectoryCrawler :=
  if !c.isActive then none
  else
    match e with
    | .setReferencePoint cursor => some (c.setReferencePoint cursor)
    | .bookmark bm cursor =>
        some { c with bookmarks := Function.update c.bookmarks bm (some cursor) }
    | .moveBookmark dest src => some (c.bookmarkMove dest src)
    | .clearBookmark bm => some { c with bookmarks := Function.update c.bookmarks bm none }
    | .operation e =>
        if e matches .deactivate then none
        else
          (c.iface.step (e.inList c.traversalListId)).map fun iface =>
            { c with iface := iface, traversalListId := e.entered.getD c.traversalListId }
    | .runUris op isDelayed =>
        if (c.uris op).wasRun then none
        else
          some
            (c.setUris op
              { c.uris op with wasRun := true, isContained := true, isDelayed := isDelayed })
    | .timerUris op =>
        if (c.uris op).isDelayed then some (c.setUris op { c.uris op with isDelayed := false })
        else none
    | .cancelUris op => some (c.setUris op { c.uris op with isCanceled := true })
    | .completedUris op => some (c.setUris op { c.uris op with isContained := false })
    | .enforcerStopped =>
        some
          { c with cacheEnforcer := c.cacheEnforcer.map fun e => { e with isStopped := true } }
    | .listInvalidate listId replacementId control =>
        if listId.isValid then some (c.viewListInvalidate listId replacementId control) else none
    | .deactivate => some c.deactivate

end DirectoryCrawler

end Drcpd.Crawler

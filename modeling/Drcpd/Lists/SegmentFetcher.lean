/-
  Lists/SegmentFetcher.lean --- fetching a segment of a list in the background
  (`DBusListSegmentFetcher`, `GetRangeCallBase`).

  A fetcher makes one get-range call for one viewport.  The call and the cookie
  manager report to the fetcher in up to three steps: the notification for the
  cookie, the fetch for the cookie, and the done function, which is deferred to the
  main context.  A call answered without a cookie starts with the third.

  The fetcher also keeps what the cookie manager holds for it.  The two kinds of
  get-range calls, with and without meta data, differ in their D-Bus methods only.
-/
import Drcpd.IdTypes
import Drcpd.Lists.Segment
import Drcpd.Rnf.Call

set_option autoImplicit false

namespace Drcpd.Lists

open Drcpd.Rnf

/-- A `DBusListViewport` object. -/
abbrev ViewportId : Type := Nat

/-- `AsyncListIface::OpResult`. -/
inductive OpResult where
  | started
  | succeeded
  | failed
  | canceled
  | busy
  deriving DecidableEq, Repr

/-- `GetRangeCallBase::LoadingState`. -/
inductive LoadingState where
  | inactive
  | outOfRange
  | loading
  | done
  | failedOrAborted
  deriving DecidableEq, Repr

/-- `DBusRNF::GetRangeCallBase`; its results are the items made of the rows. -/
structure GetRangeCall (Item E : Type) where
  listId : ListId
  loadingSegment : Segment
  call : Call (List Item) E := {}

/-- `DBusListSegmentFetcher`.  `list_viewport_` is null once `isViewportTaken`. -/
structure SegmentFetcher (Item E : Type) where
  listViewport : ViewportId := 0
  isViewportTaken : Bool := false
  getRangeQuery : Option (GetRangeCall Item E) := none
  isDoneNotificationDeferred : Bool := false
  /-- The cookie the cookie manager holds a notification function for. -/
  pendingNotification : Option UInt32 := none
  /-- The cookie manager holds a fetch function. -/
  pendingFetch : Bool := false

variable {Item E : Type}

/-- The rows the list broker has for a segment of a list. -/
def rows (content : ListId → Nat → Item) (listId : ListId) (segment : Segment) : List Item :=
  (List.range segment.count).map fun i => content listId (segment.line + i)

namespace GetRangeCall

/-- `is_already_loading`, for a line. -/
def isAlreadyLoading (c : GetRangeCall Item E) (line : Nat) : LoadingState :=
  if c.loadingSegment.containsLine line then
    match c.call.state with
    | .initialized | .waitForNotification | .readyToFetch => .loading
    | .aborting | .abortedByListBroker | .failed => .failedOrAborted
    | .resultFetched | .aboutToDestroy => .done
  else .outOfRange

/-- The answer to the request, with the rows of the segment as the result. -/
def requestAnswer (content : ListId → Nat → Item) (c : GetRangeCall Item E) :
    RequestAnswer Unit E → RequestAnswer (List Item) E
  | .cookie cookie => .cookie cookie
  | .unmanaged cookie e => .unmanaged cookie e
  | .fastPath _ => .fastPath (rows content c.listId c.loadingSegment)
  | .fastPathThrows _ => .fastPathThrows (rows content c.listId c.loadingSegment)
  | .failed e => .failed e

end GetRangeCall

namespace SegmentFetcher

/-- A completion is still to come. -/
def isDue (f : SegmentFetcher Item E) : Bool := f.pendingFetch || f.isDoneNotificationDeferred

/-- `is_filling_viewport`. -/
def isFillingViewport (f : SegmentFetcher Item E) (vp : ViewportId) : Bool :=
  !f.isViewportTaken && decide (f.listViewport = vp)

/-- `is_line_loading`. -/
def isLineLoading (f : SegmentFetcher Item E) (line : Nat) : LoadingState × LoadingState :=
  match f.getRangeQuery with
  | none => (.inactive, .inactive)
  | some query =>
      let result := query.isAlreadyLoading line
      (if f.isDoneNotificationDeferred then .loading else result, result)

/-- `cancel_op`, without its result. -/
def cancelOp (f : SegmentFetcher Item E) (answer : AbortAnswer) : SegmentFetcher Item E :=
  match f.getRangeQuery with
  | none => f
  | some query =>
      { f with getRangeQuery := some { query with call := (query.call.abortRequest answer).2 } }

/-- `prepare`. -/
def prepare (vp : ViewportId) (listId : ListId) (missing : Segment) : SegmentFetcher Item E :=
  { listViewport := vp
    getRangeQuery := some { listId := listId, loadingSegment := missing } }

/-- What the cookie manager and the main context hold after `request`. -/
def registerRequest (f : SegmentFetcher Item E) : RequestAnswer Unit E → SegmentFetcher Item E
  | .cookie cookie => { f with pendingNotification := some cookie, pendingFetch := true }
  | .fastPath _ => { f with isDoneNotificationDeferred := true }
  | .unmanaged _ _ | .fastPathThrows _ | .failed _ => f

/-- `load_segment_in_background`. -/
def loadSegmentInBackground (content : ListId → Nat → Item) (f : SegmentFetcher Item E)
    (answer : RequestAnswer Unit E) : OpResult × SegmentFetcher Item E :=
  match f.getRangeQuery with
  | none => (.failed, f)
  | some query =>
      match query.call.request (query.requestAnswer content answer) with
      | (state, call) =>
          let f := { f.registerRequest answer with
            getRangeQuery := some { query with call := call } }
          match state with
          | some .waitForNotification => (.started, f)
          | some .resultFetched => (.succeeded, f)
          | some .aborting | some .abortedByListBroker => (.canceled, f)
          | some .initialized | some .readyToFetch | some .failed | some .aboutToDestroy
          | none => (.failed, { f with getRangeQuery := none })

/-- The notification for the cookie: the result is available, or there is an error. -/
def notify (f : SegmentFetcher Item E) (available : Bool) : Option (SegmentFetcher Item E) :=
  match f.pendingNotification, f.getRangeQuery with
  | some cookie, some query =>
      let call :=
        if available then query.call.resultAvailableNotification cookie
        else query.call.abortedNotification cookie
      some
        { f with
          pendingNotification := none
          getRangeQuery := some { query with call := call } }
  | _, _ => none

/-- The fetch for the cookie (`fetch_and_notify_unlocked`), which comes after the
notification.  In a bad state it throws before it gets to notify the fetcher. -/
def fetchAndNotify (content : ListId → Nat → Item) (f : SegmentFetcher Item E)
    (answer : Except E Unit) : Option (SegmentFetcher Item E) :=
  match f.pendingFetch, f.pendingNotification, f.getRangeQuery with
  | true, none, some query =>
      let fetched := query.call.fetchUnlocked
        (answer.map fun _ => rows content query.listId query.loadingSegment)
      some
        { f with
          pendingFetch := false
          isDoneNotificationDeferred :=
            f.isDoneNotificationDeferred || fetched.1.result.isSome
          getRangeQuery := some { query with call := fetched.2 } }
  | _, _, _ => none

/-- The deferred function up to `take_rnf_call_and_viewport`, which empties the
fetcher. -/
def take (f : SegmentFetcher Item E) :
    Option (GetRangeCall Item E × SegmentFetcher Item E) :=
  if f.isDoneNotificationDeferred then
    f.getRangeQuery.map fun query =>
      (query,
        { f with
          isDoneNotificationDeferred := false
          getRangeQuery := none
          isViewportTaken := true })
  else none

end SegmentFetcher

end Drcpd.Lists

/-
  Lists/EnterListSync.lean --- entering a list synchronously (`dbuslist.cc`).

  `enter_list` cancels what is pending, and asks the list broker for the size of the
  list.  It is compared here with `enter_list_async` and the completion of the query it
  makes: these leave the list entered, its size known, and the viewports empty.

  `enter_list` does not set `list_id_`, and it does not clear the viewports.  So the two
  agree only where there is nothing to enter.
-/
import Drcpd.Foundation.Run
import Drcpd.Lists.Completion

set_option autoImplicit false

namespace Drcpd.Lists

open Drcpd.Foundation Drcpd.DBus Drcpd.Rnf

variable {Item E : Type}

namespace DBusList

/-- `enter_list`; `size` is how `query_list_size_sync` ends, if it is called. -/
def enterList (s : DBusList Item E) (listId : ListId) (answers : FetcherId → AbortAnswer)
    (size : Except E UInt32) : Option (Except E Unit × DBusList Item E) :=
  if listId = s.listId then some (.ok (), s)
  else
    match s.cancelAllAsyncCalls answers with
    | none => none
    | some s =>
        match size with
        | .error e => some (.error e, s)
        | .ok n => some (.ok (), { s with numberOfItems := n.toNat })

end DBusList

/-- The steps of a list that is entered in both ways. -/
inductive SyncListEvent (E : Type) where
  | async (e : DBusListEvent E)
  | enterList (listId : ListId) (answers : FetcherId → AbortAnswer) (size : Except E UInt32)

namespace DBusList

/-- One step. -/
def syncStep (content : ListId → Nat → Item) (s : DBusList Item E) :
    SyncListEvent E → Option (DBusList Item E)
  | .async e => s.step content e
  | .enterList listId answers size => (s.enterList listId answers size).map fun r => r.2

/-! ## What `enter_list` does -/

section Sync

variable {s t : DBusList Item E} {listId : ListId} {answers : FetcherId → AbortAnswer}

/-- However it ends, `enter_list` keeps the list ID and the viewports. -/
theorem enterList_frame (h : RootsDead s.enterListData) {size : Except E UInt32}
    {r : Except E Unit} (hs : s.enterList listId answers size = some (r, t)) :
    RootsDead t.enterListData ∧ t.listId = s.listId ∧ t.viewports = s.viewports := by
  unfold enterList at hs
  split at hs
  · obtain ⟨-, rfl⟩ := Prod.mk.inj (Option.some.inj hs)
    exact ⟨h, rfl, rfl⟩
  · split at hs
    · cases hs
    · rename_i u hu
      obtain ⟨hroots, hlist, -, hviewports⟩ := cancelAllAsyncCalls_frame h hu
      cases size with
      | error e =>
        obtain ⟨-, rfl⟩ := Prod.mk.inj (Option.some.inj hs)
        exact ⟨hroots, hlist, hviewports⟩
      | ok n =>
        obtain ⟨-, rfl⟩ := Prod.mk.inj (Option.some.inj hs)
        exact ⟨hroots, hlist, hviewports⟩

/-- Entering the current list once more does nothing. -/
theorem enterList_of_current (hlist : listId = s.listId) {size : Except E UInt32}
    {r : Except E Unit} (hs : s.enterList listId answers size = some (r, t)) : t = s := by
  unfold enterList at hs
  rw [if_pos hlist] at hs
  exact (Prod.mk.inj (Option.some.inj hs)).2.symm

end Sync

/-! ## What the completion of `enter_list_async` does -/

section Async

variable {s started done : DBusList Item E} {listId : ListId} {line : UInt32}
  {vp : Option ViewportId} {q : QueryId}

/-- The query that `enter_list_async` has made, in a list of which only the queries have
changed. -/
theorem enterListAsync_query (h : RootsDead s.enterListData)
    (hs : s.enterListAsync vp listId line = some started)
    (hq : started.enterListData.query = some q) :
    OnlyQueries s started ∧
      started.enterListData.queries q =
        { listId := listId, line := line, associatedViewport := vp, hasCall := true
          call := ({} : AsyncCall UInt32 E).invoke, captured := q, outstanding := true } := by
  refine ⟨(enterListAsync_onlyQueries h hs).2, ?_⟩
  unfold enterListAsync at hs
  split at hs
  · cases hs
  · rename_i u hu
    obtain rfl := Option.some.inj hs
    obtain rfl := Option.some.inj hq
    simp [notifyWatcher, EnterListData.runQuery]

/-- The list after a new query has been completed with a size. -/
def enteredBy (s : DBusList Item E) (q : QueryId) (size : UInt32) : DBusList Item E :=
  let x := s.enterListData.queries q
  let call : AsyncCall UInt32 E :=
    { x.call with
      callState := .done, promise := some (.ok size), futureTaken := true
      returnValue := some size, haveReportedResult := true }
  (({ s with enterListData := { s.enterListData with query := none } }.setQuery q
    { x with call := call, outstanding := false }).enteredList q).notifyWatcher .succeeded q

/-- The range check of a new query succeeds. -/
theorem checkRangeReady_of_new {size : UInt32} (hq : s.enterListData.query = some q)
    (hnew : s.enterListData.queries q =
      { listId := listId, line := line, associatedViewport := vp, hasCall := true
        call := ({} : AsyncCall UInt32 E).invoke, captured := q, outstanding := true }) :
    s.checkRangeReady q (.ok size) = some (s.enteredBy q size) := by
  simp [checkRangeReady, hnew, AsyncCall.invoke, AsyncCall.readyLocked, AsyncCall.putResult,
    AsyncCall.report, onResultAvailable, resultAvailable, setQuery, hq,
    enterListAsyncHandleDone, synchronize, AsyncCall.waitForResult, dropCallUnlessSuccess,
    concludeDone, enteredBy, EnterListData.setQuery, AsyncCall.success, AsyncResult.isSuccess]

/-- What the completion of a new query leaves: the list of the query, its size, and
empty viewports. -/
theorem enterListAsync_completed (h : RootsDead s.enterListData) {size : UInt32}
    (hs : s.enterListAsync none listId line = some started)
    (hq : started.enterListData.query = some q)
    (hdone : started.checkRangeReady q (.ok size) = some done) :
    done.listId = listId ∧ done.numberOfItems = size.toNat ∧
      done.viewports = s.clearViewports.viewports := by
  obtain ⟨honly, hnew⟩ := enterListAsync_query h hs hq
  obtain rfl := Option.some.inj ((checkRangeReady_of_new hq hnew).symm.trans hdone)
  unfold OnlyQueries at honly
  have hregistered : started.viewportsAndFetchers = s.viewportsAndFetchers :=
    congrArg (fun x => x.viewportsAndFetchers) honly
  have hviewports : started.viewports = s.viewports :=
    congrArg (fun x => x.viewports) honly
  refine ⟨?_, ?_, ?_⟩
  · simp [enteredBy, enteredList, setQuery, notifyWatcher, hnew]
  · simp [enteredBy, enteredList, setQuery, notifyWatcher]
  · simp [enteredBy, enteredList, setQuery, notifyWatcher, hnew, clearViewports, hregistered,
      hviewports]

end Async

/-! ## Runs -/

theorem rootsDead_syncStep {content : ListId → Nat → Item} {s s' : DBusList Item E}
    {e : SyncListEvent E} (h : RootsDead s.enterListData)
    (hstep : s.syncStep content e = some s') : RootsDead s'.enterListData := by
  cases e with
  | async e => exact rootsDead_step h hstep
  | enterList listId answers size =>
    obtain ⟨⟨r, t⟩, hr, rfl⟩ := Option.map_eq_some_iff.mp hstep
    exact (enterList_frame h hr).1

/-! ## Comparing the two -/

/-- Two ways of entering a list have left the same list, the same size and the same items
in all viewports. -/
structure EnteredAlike (t t' : DBusList Item E) : Prop where
  listId : t.listId = t'.listId
  numberOfItems : t.numberOfItems = t'.numberOfItems
  items : ∀ vp line, ((t.viewports vp).itemAt line).1 = ((t'.viewports vp).itemAt line).1

/-- The list is the current one, with this size, and none of its items is cached. -/
structure NothingToEnter (s : DBusList Item E) (listId : ListId) (size : UInt32) : Prop where
  listId : listId = s.listId
  numberOfItems : s.numberOfItems = size.toNat
  noItems : ∀ vp, (s.viewportsAndFetchers vp).isSome →
    ∀ line, ((s.viewports vp).itemAt line).1 = none

theorem clearForLine_itemAt (v : Viewport Item) (first line : Nat) :
    ((v.clearForLine first).itemAt line).1 = none := by
  simp [Viewport.clearForLine, Viewport.itemAt, RamList.getItem]

/-- The viewports show what they show after they have been cleared exactly if they show
nothing. -/
theorem clearViewports_items_iff (s : DBusList Item E) :
    (∀ vp line, ((s.viewports vp).itemAt line).1 =
        ((s.clearViewports.viewports vp).itemAt line).1) ↔
      ∀ vp, (s.viewportsAndFetchers vp).isSome →
        ∀ line, ((s.viewports vp).itemAt line).1 = none := by
  have hcleared : ∀ vp, (s.viewportsAndFetchers vp).isSome →
      s.clearViewports.viewports vp = (s.viewports vp).clearForLine 0 :=
    fun vp hvp => if_pos hvp
  have hkept : ∀ vp, ¬(s.viewportsAndFetchers vp).isSome →
      s.clearViewports.viewports vp = s.viewports vp := fun vp hvp => if_neg hvp
  constructor
  · intro h vp hvp line
    rw [h vp line, hcleared vp hvp, clearForLine_itemAt]
  · intro h vp line
    rcases Decidable.em ((s.viewportsAndFetchers vp).isSome = true) with hvp | hvp
    · rw [hcleared vp hvp, clearForLine_itemAt, h vp hvp]
    · rw [hkept vp hvp]

/-- In every state a list can be in, `enter_list` does what the completion of
`enter_list_async` does if and only if there is nothing to enter: the list is entered
already, its size has not changed, and none of its items is cached. -/
theorem enter_list_like_async_iff (content : ListId → Nat → Item)
    (cacheSizes : ViewportId → UInt32) (events : List (SyncListEvent E))
    {s t started done : DBusList Item E} {listId : ListId}
    {answers : FetcherId → AbortAnswer} {size : UInt32} {q : QueryId}
    (hrun : runFrom (syncStep content) (init cacheSizes) events = some s)
    (hsync : s.enterList listId answers (.ok size) = some (.ok (), t))
    (hstarted : s.enterListAsync none listId 0 = some started)
    (hquery : started.enterListData.query = some q)
    (hdone : started.checkRangeReady q (.ok size) = some done) :
    EnteredAlike t done ↔ s.NothingToEnter listId size := by
  have hroots : RootsDead s.enterListData :=
    invariant_of_run (I := fun s => RootsDead s.enterListData)
      (fun _ _ _ h hstep => rootsDead_syncStep h hstep) events RootsDead.init hrun
  obtain ⟨-, hlist, hviewports⟩ := enterList_frame hroots hsync
  obtain ⟨hlist', hsize', hviewports'⟩ := enterListAsync_completed hroots hstarted hquery hdone
  constructor
  · intro h
    -- the list ID is the old one after the synchronous call
    have hcurrent : listId = s.listId := by
      rw [← hlist', ← h.listId, hlist]
    obtain rfl := enterList_of_current hcurrent hsync
    refine ⟨hcurrent, h.numberOfItems.trans hsize', ?_⟩
    apply (clearViewports_items_iff t).mp
    rw [← hviewports']
    exact h.items
  · intro h
    obtain rfl := enterList_of_current h.listId hsync
    refine ⟨?_, h.numberOfItems.trans hsize'.symm, ?_⟩
    · rw [hlist', h.listId]
    · rw [hviewports']
      exact (clearViewports_items_iff t).mpr h.noItems

/-- A list is entered, some of its items are got, and it is entered again, so that its viewport
is empty. -/
def enteredAgain : List (SyncListEvent Unit) :=
  [.async (.enterListAsync none ⟨1⟩ 0), .async (.checkRangeReady 0 (.ok 5)),
    .async (.getItemAsyncSetHint 0 1 3 (.fastPath ()) .success), .async (.rangeDone 0),
    .async (.enterListAsync none ⟨1⟩ 0), .async (.checkRangeReady 1 (.ok 5))]

theorem enter_list_like_async_again :
    ∃ s t started done : DBusList Nat Unit,
      runFrom (syncStep fun _ line => line) (init fun _ => 8) enteredAgain = some s ∧
      (s.viewportsAndFetchers 0).isSome ∧
      s.enterList ⟨1⟩ (fun _ => .success) (.ok 5) = some (.ok (), t) ∧
      s.enterListAsync none ⟨1⟩ 0 = some started ∧
      started.enterListData.query = some 2 ∧
      started.checkRangeReady 2 (.ok 5) = some done ∧ EnteredAlike t done := by
  obtain ⟨s, hrun, hlist, hsize, hregistered, hempty⟩ : ∃ s : DBusList Nat Unit,
      runFrom (syncStep fun _ line => line) (init fun _ => 8) enteredAgain = some s ∧
      s.listId = ⟨1⟩ ∧ s.numberOfItems = 5 ∧ (s.viewportsAndFetchers 0).isSome ∧
      ∀ vp, (s.viewportsAndFetchers vp).isSome →
        ∃ v : Viewport Nat, s.viewports vp = v.clearForLine 0 :=
    ⟨_, rfl, rfl, rfl, rfl, fun _ hvp => ⟨_, if_pos hvp⟩⟩
  obtain ⟨started, hstarted, hquery, done, hdone⟩ : ∃ started : DBusList Nat Unit,
      s.enterListAsync none ⟨1⟩ 0 = some started ∧ started.enterListData.query = some 2 ∧
        ∃ done, started.checkRangeReady 2 (.ok 5) = some done := by
    obtain rfl := Option.some.inj hrun
    exact ⟨_, rfl, rfl, _, rfl⟩
  have hsync : s.enterList ⟨1⟩ (fun _ => .success) (.ok 5) = some (.ok (), s) := by
    rw [enterList, hlist, if_pos rfl]
  refine ⟨s, s, started, done, hrun, hregistered, hsync, hstarted, hquery, hdone, ?_⟩
  refine (enter_list_like_async_iff _ _ _ hrun hsync hstarted hquery hdone).mpr
    ⟨hlist.symm, hsize, fun vp hvp line => ?_⟩
  obtain ⟨v, hv⟩ := hempty vp hvp
  rw [hv, clearForLine_itemAt]

/-- A list is entered for the first time: its size is known afterwards, but not the list
it is the size of. -/
theorem enter_list_leaves_list_id :
    ¬∀ (events : List (SyncListEvent Unit)) (s t started done : DBusList Nat Unit)
        (listId : ListId) (answers : FetcherId → AbortAnswer) (size : UInt32) (q : QueryId),
      runFrom (syncStep fun _ line => line) (init fun _ => 8) events = some s →
      s.enterList listId answers (.ok size) = some (.ok (), t) →
      s.enterListAsync none listId 0 = some started →
      started.enterListData.query = some q →
      started.checkRangeReady q (.ok size) = some done → EnteredAlike t done := by
  intro h
  have halike := h [] _ _ _ _ ⟨1⟩ (fun _ => .success) 5 0 rfl rfl rfl rfl rfl
  have hlist := halike.listId
  cases hlist

end DBusList

end Drcpd.Lists

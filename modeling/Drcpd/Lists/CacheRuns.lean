/-
  Lists/CacheRuns.lean --- what the viewports of a list show, over all runs.

  The items cached for a viewport must be those of the current list in their lines.
  A fetch may complete after its viewport was moved, or after another list was
  entered: its rows are put where the view is then, whatever they are.  The same goes
  for rows kept from the cache when the vector of items does not fit the view.  Steps
  that do this are left out, and so are steps that change the list under a viewport
  which keeps its rows.
-/
import Drcpd.Foundation.Run
import Drcpd.Lists.Completion
import Drcpd.Lists.ViewportCache

set_option autoImplicit false

namespace Drcpd.Lists

open Drcpd.Foundation Drcpd.DBus Drcpd.Rnf

variable {Item E : Type}

/-! ## Results -/

/-- If there is a result, then the rows of the segment. -/
def GetRangeCall.HasRows (content : ListId → Nat → Item) (c : GetRangeCall Item E) : Prop :=
  ∀ result, c.call.promise = some (.ok result) → result = rows content c.listId c.loadingSegment

theorem promise_of_getResult {R : Type} {c c' : Call R E} {result : R}
    (h : c.getResultUnlocked = some (.ok result, c')) : c.promise = some (.ok result) := by
  unfold Call.getResultUnlocked Call.readFuture at h
  split at h
  all_goals try cases h
  all_goals
    split_ifs at h
    · cases h
    · split at h
      · cases h
      · rename_i hpromise
        obtain ⟨hresult, -⟩ := Prod.mk.inj (Option.some.inj h)
        rw [hpromise, Except.ok.inj hresult]
      · cases h
    · cases h

namespace SegmentFetcher

/-- The query of the fetcher has no result but the rows of its segment. -/
def HasRows (content : ListId → Nat → Item) (f : SegmentFetcher Item E) : Prop :=
  ∀ query, f.getRangeQuery = some query → query.HasRows content

variable {content : ListId → Nat → Item} {f f' : SegmentFetcher Item E}

theorem HasRows.cancelOp (h : f.HasRows content) (answer : AbortAnswer) :
    (f.cancelOp answer).HasRows content := by
  unfold SegmentFetcher.cancelOp
  cases hquery : f.getRangeQuery with
  | none =>
    intro query hq
    exact h query hq
  | some query =>
    intro query' hquery' result hresult
    obtain rfl := Option.some.inj hquery'
    apply h query hquery result
    rwa [← Call.abortRequest_promise query.call answer]

theorem HasRows.notify (h : f.HasRows content) {available : Bool}
    (hf : f.notify available = some f') : f'.HasRows content := by
  unfold SegmentFetcher.notify at hf
  split at hf
  · rename_i cookie query hcookie hquery
    obtain rfl := Option.some.inj hf
    intro query' hquery' result hresult
    obtain rfl := Option.some.inj hquery'
    apply h query hquery result
    cases available with
    | true => exact (Call.notification_promise query.call cookie .readyToFetch).symm.trans hresult
    | false =>
      exact (Call.notification_promise query.call cookie .abortedByListBroker).symm.trans hresult
  · cases hf

theorem HasRows.fetchAndNotify (h : f.HasRows content) {answer : Except E Unit}
    (hf : f.fetchAndNotify content answer = some f') : f'.HasRows content := by
  unfold SegmentFetcher.fetchAndNotify at hf
  split at hf
  · rename_i query hpending hcookie hquery
    obtain rfl := Option.some.inj hf
    intro query' hquery' result hresult
    obtain rfl := Option.some.inj hquery'
    have hkept := h query hquery result
    dsimp only at hresult ⊢
    unfold Call.fetchUnlocked at hresult
    split at hresult
    · split at hresult
      · rename_i hanswer _
        obtain rfl := Except.ok.inj (Option.some.inj hresult)
        cases answer with
        | ok u => exact (Except.ok.inj hanswer).symm
        | error e => cases hanswer
      · exact hkept hresult
      · change query.call.promise.or _ = some _ at hresult
        cases hp : query.call.promise with
        | none =>
          rw [hp] at hresult
          cases hresult
        | some x =>
          rw [hp] at hresult hkept
          exact hkept hresult
    all_goals exact hkept hresult
  · cases hf

theorem HasRows.take (h : f.HasRows content) {query : GetRangeCall Item E}
    (hf : f.take = some (query, f')) : query.HasRows content ∧ f'.HasRows content := by
  unfold SegmentFetcher.take at hf
  split_ifs at hf
  obtain ⟨query', hquery, hf⟩ := Option.map_eq_some_iff.mp hf
  obtain ⟨rfl, rfl⟩ := Prod.mk.inj hf
  exact ⟨h _ hquery, nofun⟩

theorem hasRows_prepare (vp : ViewportId) (listId : ListId) (missing : Segment)
    (answer : RequestAnswer Unit E) :
    ((prepare vp listId missing).loadSegmentInBackground content answer).2.HasRows content := by
  intro query hquery result hresult
  cases answer with
  | cookie cookie =>
    obtain rfl := Option.some.inj hquery
    cases hresult
  | fastPath u =>
    obtain rfl := Option.some.inj hquery
    exact (Except.ok.inj (Option.some.inj hresult)).symm
  | unmanaged cookie e => cases hquery
  | fastPathThrows u => cases hquery
  | failed e => cases hquery

end SegmentFetcher

/-! ## The invariant -/

namespace DBusList

/-- What holds of the caches and the fetches between two steps. -/
structure Coherent (content : ListId → Nat → Item) (s : DBusList Item E) : Prop where
  size : s.numberOfItems ≤ uintMax
  shows : ∀ vp, (s.viewports vp).Shows (content s.listId)
  hasRows : ∀ f, (s.fetchers f).HasRows content

namespace Coherent

variable {content : ListId → Nat → Item} {s : DBusList Item E}

theorem init (cacheSizes : ViewportId → UInt32) :
    (init cacheSizes : DBusList Item E).Coherent content where
  size := Nat.zero_le _
  shows _ := ⟨by exact Nat.two_pow_pos 32, by exact Nat.two_pow_pos 32, nofun⟩
  hasRows _ := nofun

theorem of_onlyQueries {s' : DBusList Item E} (h : s.Coherent content)
    (honly : OnlyQueries s s') : s'.Coherent content := by
  unfold OnlyQueries at honly
  rw [honly]
  exact ⟨h.size, h.shows, h.hasRows⟩

theorem setViewport (h : s.Coherent content) (vp : ViewportId) {v : Viewport Item}
    (hv : v.Shows (content s.listId)) : (s.setViewport vp v).Coherent content where
  size := h.size
  shows vp' := by
    change (Function.update s.viewports vp v vp').Shows _
    rw [Function.update_apply]
    split_ifs
    · exact hv
    · exact h.shows vp'
  hasRows := h.hasRows

theorem setFetcher (h : s.Coherent content) (f : FetcherId) {x : SegmentFetcher Item E}
    (hx : x.HasRows content) : (s.setFetcher f x).Coherent content where
  size := h.size
  shows := h.shows
  hasRows f' := by
    change (Function.update s.fetchers f x f').HasRows content
    rw [Function.update_apply]
    split_ifs
    · exact hx
    · exact h.hasRows f'

theorem setEntry (h : s.Coherent content) (vp : ViewportId)
    (entry : Option (Option FetcherId)) : (s.setEntry vp entry).Coherent content :=
  ⟨h.size, h.shows, h.hasRows⟩

theorem callHinted (h : s.Coherent content) (f : FetcherId) (result : OpResult) :
    (s.callHinted f result).Coherent content :=
  ⟨h.size, h.shows, h.hasRows⟩

theorem cancelFetchers (h : s.Coherent content) (answers : FetcherId → AbortAnswer) :
    (s.cancelFetchers answers).Coherent content where
  size := h.size
  shows := h.shows
  hasRows f := by
    unfold DBusList.cancelFetchers
    dsimp only
    split_ifs
    · exact (h.hasRows f).cancelOp (answers f)
    · exact h.hasRows f

/-! ### Getting items -/

theorem announceViewport (h : s.Coherent content) (vp : ViewportId) {line : Nat}
    (hline : line < 2 ^ 32) (answer : AbortAnswer) :
    (s.announceViewport vp line answer).2.Coherent content := by
  unfold DBusList.announceViewport
  split
  · exact (h.setViewport vp ((h.shows vp).clearForLine _ hline)).setEntry vp _
  · exact h
  · split_ifs
    · exact h
    · exact (h.setFetcher _ ((h.hasRows _).cancelOp answer)).setEntry vp _

theorem cancelAndDetach (h : s.Coherent content) (vp : ViewportId) (answer : AbortAnswer) :
    (s.cancelAndDetach vp answer).Coherent content := by
  unfold DBusList.cancelAndDetach
  split
  · exact (h.setFetcher _ ((h.hasRows _).cancelOp answer)).setEntry vp none
  · exact h.setEntry vp none
  · exact h.setEntry vp none

theorem startFetcher (h : s.Coherent content) (vp : ViewportId)
    (answer : RequestAnswer Unit E) : (s.startFetcher content vp answer).2.Coherent content :=
  (h.setFetcher s.nextHint (SegmentFetcher.hasRows_prepare vp s.listId _ answer)).setEntry vp _

theorem setViewAndFetch (h : s.Coherent content) (vp : ViewportId) (line : Nat) {count : Nat}
    (hcount : count ≤ uintMax) (answer : RequestAnswer Unit E) :
    (s.setViewAndFetch content vp line count answer).2.Coherent content := by
  have hview := h.setViewport vp ((h.shows vp).setView line hcount h.size)
  unfold DBusList.setViewAndFetch
  dsimp only
  split
  all_goals first | exact hview.startFetcher vp answer | exact hview

theorem getItemAsyncSetHint (h : s.Coherent content) (vp : ViewportId) {line count : Nat}
    (hline : line < 2 ^ 32) (hcount : count ≤ uintMax) (request : RequestAnswer Unit E)
    (abort : AbortAnswer) :
    (s.getItemAsyncSetHint content vp line count request abort).2.Coherent content := by
  have hannounce := h.announceViewport vp hline abort
  unfold DBusList.getItemAsyncSetHint
  split_ifs
  · exact h
  · exact h
  · exact h
  · exact h
  · split
    · rename_i t ht
      rw [ht] at hannounce
      split
      all_goals first
        | exact hannounce.setViewAndFetch vp line hcount request
        | exact hannounce
        | exact (hannounce.cancelAndDetach vp abort).setViewAndFetch vp line hcount request
    all_goals
      rename_i t ht
      rw [ht] at hannounce
      exact hannounce.setViewAndFetch vp line hcount request

theorem getItemAsync (h : s.Coherent content) (vp : ViewportId) {line : Nat}
    (hline : line < 2 ^ 32) (abort : AbortAnswer) :
    (s.getItemAsync vp line abort).2.Coherent content := by
  have hannounce := h.announceViewport vp hline abort
  unfold DBusList.getItemAsync
  split_ifs
  · exact h
  · exact h
  · exact h
  · dsimp only
    split_ifs
    · exact hannounce
    · split <;> exact hannounce

theorem addReferrer (h : s.Coherent content) (vp : ViewportId) :
    (s.addReferrer vp).Coherent content := by
  unfold DBusList.addReferrer
  split_ifs
  · exact h
  · exact h.setEntry vp _

/-- `get_item` where the items kept from the cache fit the view. -/
theorem getItem (h : s.Coherent content) (vp : ViewportId) (line : Nat)
    (answer : Except E Unit)
    (hfits : ∀ u, answer = .ok u → line < s.numberOfItems →
      ((s.viewports vp).itemAt line).1 = none →
      ((s.viewports vp).setView line (s.viewports vp).cacheSize.toNat s.numberOfItems).2.Fits) :
    ∃ r, s.getItem content vp line answer = some r ∧ r.2.Coherent content := by
  have hadd := h.addReferrer vp
  have hsame : (s.addReferrer vp).viewports = s.viewports ∧
      (s.addReferrer vp).numberOfItems = s.numberOfItems ∧
      (s.addReferrer vp).listId = s.listId := by
    unfold DBusList.addReferrer
    split_ifs <;> exact ⟨rfl, rfl, rfl⟩
  obtain ⟨hviewports, hnumber, hlist⟩ := hsame
  have hcount : (s.viewports vp).cacheSize.toNat ≤ uintMax :=
    Nat.le_sub_one_of_lt (UInt32.toNat_lt _)
  have hview := (h.shows vp).setView line hcount h.size
  have hset : ∀ v, v.Shows (content s.listId) →
      ((s.addReferrer vp).setViewport vp v).Coherent content := by
    intro v hv
    apply hadd.setViewport
    rw [hlist]
    exact hv
  unfold DBusList.getItem
  dsimp only
  rw [hviewports, hnumber, hlist]
  split_ifs with hline
  · exact ⟨_, rfl, hadd⟩
  · split
    · exact ⟨_, rfl, hadd⟩
    · rename_i hitem
      cases answer with
      | error e => exact ⟨_, rfl, hset _ hview⟩
      | ok u =>
        obtain ⟨v, hv, hshows⟩ :=
          hview.updateCache (hfits u rfl (Nat.lt_of_not_le hline) hitem)
        have hrows : rows content s.listId ((s.viewports vp).setView line
            (s.viewports vp).cacheSize.toNat s.numberOfItems).2.getMissingSegment =
            Viewport.segmentRows (content s.listId) _ := rfl
        dsimp only
        rw [hrows, hv]
        exact ⟨_, rfl, hset v hshows⟩

/-- The completion of a fetch whose rows are those that are missing, where the items
kept from the cache fit the view. -/
theorem rangeDone (h : s.Coherent content) {f : FetcherId} {query : GetRangeCall Item E}
    {x : SegmentFetcher Item E} (htake : (s.fetchers f).take = some (query, x))
    (hentry : s.viewportsAndFetchers (s.fetchers f).listViewport = some (some f))
    {result : List Item} {c : Call (List Item) E}
    (hresult : query.call.getResultUnlocked = some (.ok result, c))
    (hlist : query.listId = s.listId)
    (hmissing : query.loadingSegment =
      (s.viewports (s.fetchers f).listViewport).getMissingSegment)
    (hfits : (s.viewports (s.fetchers f).listViewport).Fits) :
    ∃ s', s.getItemResultAvailableNotification f = some s' ∧ s'.Coherent content := by
  obtain ⟨hrows, hx⟩ := (h.hasRows f).take htake
  obtain ⟨v, hv, hshows⟩ := (h.shows (s.fetchers f).listViewport).updateCache hfits
  have hresult' : result = Viewport.segmentRows (content s.listId)
      (s.viewports (s.fetchers f).listViewport).getMissingSegment := by
    rw [hrows result (promise_of_getResult hresult), hlist, hmissing]
    rfl
  have hs := ((h.setFetcher f hx).setEntry (s.fetchers f).listViewport (some none))
  refine ⟨_, ?_, (hs.setViewport (s.fetchers f).listViewport hshows).callHinted f .succeeded⟩
  unfold getItemResultAvailableNotification
  rw [htake]
  dsimp only
  have hentry' : (s.setFetcher f x).viewportsAndFetchers (s.fetchers f).listViewport =
      some (some f) := hentry
  have hupdate : (((s.setFetcher f x).setEntry (s.fetchers f).listViewport
      (some none)).viewports (s.fetchers f).listViewport).updateCache result = some v := by
    rw [hresult']
    exact hv
  rw [hentry']
  simp only [ne_eq, not_true, if_false]
  rw [hresult]
  dsimp only
  rw [hupdate]

/-- Every other completion of a fetch leaves the caches as they are. -/
theorem rangeDone_of_other (h : s.Coherent content) {f : FetcherId} {s' : DBusList Item E}
    (hother : ∀ query x result c, (s.fetchers f).take = some (query, x) →
      query.call.getResultUnlocked = some (.ok result, c) →
      s.viewportsAndFetchers (s.fetchers f).listViewport ≠ some (some f))
    (hs : s.getItemResultAvailableNotification f = some s') : s'.Coherent content := by
  unfold getItemResultAvailableNotification at hs
  cases htake : (s.fetchers f).take with
  | none =>
    rw [htake] at hs
    cases hs
  | some taken =>
    obtain ⟨query, x⟩ := taken
    have hx := ((h.hasRows f).take htake).2
    have hset := h.setFetcher f hx
    rw [htake] at hs
    dsimp only at hs
    split at hs
    · cases hs
    · rename_i entry hentry
      split_ifs at hs with hne
      · exact Option.some.inj hs ▸ hset.callHinted f _
      · split at hs
        · cases hs
        · rename_i result c hresult
          have hentry' : s.viewportsAndFetchers (s.fetchers f).listViewport = some entry := hentry
          rw [not_not.mp hne] at hentry'
          exact absurd hentry' (hother query x result c htake hresult)
        all_goals exact Option.some.inj hs ▸ (hset.setEntry _ _).callHinted f _

/-! ### Changing the list -/

end Coherent

/-- Every viewport that has cached items is registered. -/
def CachedRegistered (s : DBusList Item E) : Prop :=
  ∀ vp, (s.viewports vp).itemsSegment.count ≠ 0 → (s.viewportsAndFetchers vp).isSome = true

/-- All viewports show rows of the given list. -/
def ShowsList (content : ListId → Nat → Item) (s : DBusList Item E) (listId : ListId) : Prop :=
  ∀ vp line item, ((s.viewports vp).itemAt line).1 = some item → item = content listId line

section Changing

variable {content : ListId → Nat → Item} {s s' : DBusList Item E}

/-- Clearing the registered viewports leaves no cached items. -/
theorem Coherent.cleared (h : s.Coherent content) (hregistered : s.CachedRegistered)
    {line : ViewportId → Nat} (hline : ∀ vp, line vp < 2 ^ 32) (listId : ListId)
    (vp : ViewportId) {v : Viewport Item}
    (hv : v = if (s.viewportsAndFetchers vp).isSome = true then
      (s.viewports vp).clearForLine (line vp) else s.viewports vp) :
    v.Shows (content listId) ∧ v.itemsSegment.count = 0 := by
  split_ifs at hv with hvp
  · rw [hv]
    exact ⟨(h.shows vp).clearForLine _ (hline vp), rfl⟩
  · have hempty : (s.viewports vp).itemsSegment.count = 0 := by
      by_contra hne
      exact hvp (hregistered vp hne)
    rw [hv]
    exact ⟨(h.shows vp).of_empty hempty _, hempty⟩

theorem coherent_keptByEntering :
    KeptByEntering (fun s : DBusList Item E => s.Coherent content ∧ s.CachedRegistered) where
  data s d h := ⟨h.1.of_onlyQueries (OnlyQueries.of_data s d), h.2⟩
  entered s q h := by
    have hline : ∀ vp, (if (s.enterListData.queries q).associatedViewport = some vp then
        (s.enterListData.queries q).line.toNat else 0) < 2 ^ 32 := by
      intro vp
      split_ifs
      · exact UInt32.toNat_lt _
      · exact Nat.two_pow_pos 32
    have hcleared := h.1.cleared h.2 hline (s.enterListData.queries q).listId
    refine ⟨⟨?_, fun vp => (hcleared vp rfl).1, h.1.hasRows⟩, ?_⟩
    · exact Nat.le_sub_one_of_lt (UInt32.toNat_lt _)
    · intro vp hne
      exact absurd (hcleared vp rfl).2 hne

theorem shows_of_showsList (h : s.Coherent content) {listId : ListId}
    (hlist : s.ShowsList content listId) (vp : ViewportId) :
    (s.viewports vp).Shows (content listId) where
  viewRange := (h.shows vp).viewRange
  itemsRange := (h.shows vp).itemsRange
  shown i item hi hitem := by
    apply hlist vp
    have hline : (s.viewports vp).itemsSegment.containsLine
        ((s.viewports vp).itemsSegment.line + i) = true := by
      unfold Segment.containsLine
      rw [Segment.beyond_of_inRange (h.shows vp).itemsRange, decide_eq_true_iff]
      omega
    unfold Viewport.itemAt
    rw [if_pos hline, Nat.add_sub_cancel_left]
    exact Option.join_eq_some_iff.mpr hitem

/-- An invalidated list is replaced by one with the same rows, or all viewports are
cleared. -/
theorem Coherent.listInvalidate (h : s.Coherent content) (listId replacementId : ListId)
    (answers : FetcherId → AbortAnswer)
    (hvalid : s.listId = listId → replacementId.isValid = true →
      s.ShowsList content replacementId)
    (hinvalid : s.listId = listId → replacementId.isValid = false → s.CachedRegistered) :
    (s.listInvalidate listId replacementId answers).Coherent content := by
  unfold DBusList.listInvalidate
  dsimp only
  refine Coherent.of_onlyQueries ?_ (OnlyQueries.of_data _ _)
  split_ifs with hlist hreplaced
  · have hshows := shows_of_showsList h (hvalid hlist hreplaced)
    have hs : Coherent content { s with listId := replacementId } :=
      ⟨h.size, hshows, h.hasRows⟩
    exact hs.cancelFetchers answers
  · have hregistered := hinvalid hlist (Bool.not_eq_true _ ▸ hreplaced)
    have hcleared := h.cleared hregistered (fun _ => Nat.two_pow_pos 32) replacementId
    exact ⟨h.size, fun vp => (hcleared vp rfl).1, h.hasRows⟩
  · exact h

end Changing

/-! ## Steps -/

/-- A fetch is done with a result, and its viewport still waits for it. -/
structure FetchSucceeds (s : DBusList Item E) (f : FetcherId)
    (query : GetRangeCall Item E) : Prop where
  taken : ∃ x, (s.fetchers f).take = some (query, x)
  entry : s.viewportsAndFetchers (s.fetchers f).listViewport = some (some f)
  result : ∃ result c, query.call.getResultUnlocked = some (.ok result, c)

/-- What is expected of every step. -/
structure CacheStepSound (content : ListId → Nat → Item) (s : DBusList Item E)
    (e : DBusListEvent E) : Prop where
  /-- Every cached item is the one the current list has in its line. -/
  shown : ∀ s', s.step content e = some s' → s'.ShowsList content s'.listId
  /-- The cache takes the rows that have been fetched. -/
  stored : ∀ f query, e = .rangeDone f → s.FetchSucceeds f query →
    (s.step content e).isSome = true
  got : ∀ vp line answer, e = .getItem vp line answer → (s.step content e).isSome = true

/-- Rows are stored only where they belong: those of a completed fetch are the ones that
are missing in the view of the current list, and the items kept with them, or with the
rows `get_item` gets, fit the view.  When the list changes, each viewport with cached
items is registered, or its items are those of the new list. -/
def KeepsCache (content : ListId → Nat → Item) (s : DBusList Item E) :
    DBusListEvent E → Prop
  | .rangeDone f =>
      ∀ query, s.FetchSucceeds f query →
        query.listId = s.listId ∧
          query.loadingSegment =
            (s.viewports (s.fetchers f).listViewport).getMissingSegment ∧
          (s.viewports (s.fetchers f).listViewport).Fits
  | .getItem vp line answer =>
      ∀ u, answer = .ok u → line.toNat < s.numberOfItems →
        ((s.viewports vp).itemAt line.toNat).1 = none →
        ((s.viewports vp).setView line.toNat (s.viewports vp).cacheSize.toNat
          s.numberOfItems).2.Fits
  | .checkRangeReady k answer => s.EntersList k answer → s.CachedRegistered
  | .listInvalidate listId replacementId _ =>
      s.listId = listId →
        if replacementId.isValid then s.ShowsList content replacementId
        else s.CachedRegistered
  | .enterListAsync .. | .cancelAllAsyncCalls .. | .getItemAsyncSetHint .. | .getItemAsync ..
  | .detachViewport .. | .rangeNotified .. | .rangeFetched .. => True

/-- What holds between two steps. -/
structure CacheInvariant (content : ListId → Nat → Item) (s : DBusList Item E) : Prop where
  coherent : s.Coherent content
  roots : RootsDead s.enterListData

section Steps

variable {content : ListId → Nat → Item} {s s' : DBusList Item E} {e : DBusListEvent E}

/-- One step keeps the invariant, if it stores rows only where they belong. -/
theorem cacheInvariant_step (h : s.CacheInvariant content) (hkeeps : s.KeepsCache content e)
    (hstep : s.step content e = some s') : s'.CacheInvariant content := by
  refine ⟨?_, rootsDead_step h.roots hstep⟩
  cases e with
  | enterListAsync vp listId line =>
    exact h.coherent.of_onlyQueries (enterListAsync_onlyQueries h.roots hstep).2
  | checkRangeReady k answer =>
    have honly := (checkRangeReady_onlyQueries h.roots hstep).2
    rcases Classical.em (s.EntersList k answer) with henters | hnot
    · exact (checkRangeReady_preserves coherent_keptByEntering hstep
        ⟨h.coherent, hkeeps henters⟩).1
    · exact h.coherent.of_onlyQueries (honly hnot)
  | listInvalidate listId replacementId answers =>
    obtain rfl := Option.some.inj hstep
    refine h.coherent.listInvalidate _ _ _ ?_ ?_
    · intro hlist hvalid
      have hk := hkeeps hlist
      rwa [if_pos hvalid] at hk
    · intro hlist hinvalid
      have hk := hkeeps hlist
      rwa [hinvalid] at hk
  | cancelAllAsyncCalls answers =>
    obtain ⟨t, ht, rfl⟩ := Option.map_eq_some_iff.mp hstep
    have honly := (cancelEnterListQuery_onlyQueries h.roots ht).2
    exact (h.coherent.of_onlyQueries honly).cancelFetchers answers
  | getItemAsyncSetHint vp line count request abort =>
    have hs := h.coherent.getItemAsyncSetHint vp (UInt32.toNat_lt line)
      (Nat.le_sub_one_of_lt (UInt32.toNat_lt count)) request abort
    rw [← Option.some.inj hstep]
    exact ⟨hs.size, hs.shows, hs.hasRows⟩
  | getItemAsync vp line abort =>
    exact Option.some.inj hstep ▸ h.coherent.getItemAsync vp (UInt32.toNat_lt line) abort
  | getItem vp line answer =>
    obtain ⟨r, hr, hcoherent⟩ := h.coherent.getItem vp line.toNat answer hkeeps
    change (s.getItem content vp line.toNat answer).map _ = some s' at hstep
    rw [hr] at hstep
    exact Option.some.inj hstep ▸ hcoherent
  | detachViewport vp =>
    exact Option.some.inj hstep ▸ h.coherent.setEntry vp none
  | rangeNotified f available =>
    obtain ⟨x, hx, rfl⟩ := Option.map_eq_some_iff.mp hstep
    exact h.coherent.setFetcher f ((h.coherent.hasRows f).notify hx)
  | rangeFetched f answer =>
    obtain ⟨x, hx, rfl⟩ := Option.map_eq_some_iff.mp hstep
    exact h.coherent.setFetcher f ((h.coherent.hasRows f).fetchAndNotify hx)
  | rangeDone f =>
    rcases Classical.em (∃ query, s.FetchSucceeds f query) with ⟨query, hquery⟩ | hnone
    · obtain ⟨hlist, hmissing, hfits⟩ := hkeeps query hquery
      obtain ⟨x, htake⟩ := hquery.taken
      obtain ⟨result, c, hresult⟩ := hquery.result
      obtain ⟨t, ht, hcoherent⟩ := h.coherent.rangeDone htake hquery.entry hresult hlist
        hmissing hfits
      obtain rfl := Option.some.inj (ht.symm.trans hstep)
      exact hcoherent
    · refine h.coherent.rangeDone_of_other ?_ hstep
      intro query x result c htake hresult hentry
      exact hnone ⟨query, ⟨x, htake⟩, hentry, result, c, hresult⟩

theorem cacheStepSound (h : s.CacheInvariant content) (hkeeps : s.KeepsCache content e) :
    s.CacheStepSound content e := by
  constructor
  · intro s' hs' vp line item hitem
    exact ((cacheInvariant_step h hkeeps hs').coherent.shows vp).itemAt hitem
  · intro f query he hquery
    subst he
    obtain ⟨hlist, hmissing, hfits⟩ := hkeeps query hquery
    obtain ⟨x, htake⟩ := hquery.taken
    obtain ⟨result, c, hresult⟩ := hquery.result
    obtain ⟨t, ht, -⟩ := h.coherent.rangeDone htake hquery.entry hresult hlist hmissing hfits
    exact Option.isSome_iff_exists.mpr ⟨t, ht⟩
  · intro vp line answer he
    subst he
    obtain ⟨r, hr, -⟩ := h.coherent.getItem vp line.toNat answer hkeeps
    change ((s.getItem content vp line.toNat answer).map _).isSome = true
    rw [hr]
    rfl

end Steps

/-! ## All runs -/

/-- In a run of a list in which rows are stored only where they belong, the viewports
show the current list after every step. -/
theorem cached_items_run_sound (content : ListId → Nat → Item)
    (cacheSizes : ViewportId → UInt32) (events : List (DBusListEvent E))
    (hkeeps : AlongRun (step content) (KeepsCache content) (init cacheSizes) events) :
    AlongRun (step content) (CacheStepSound content) (init cacheSizes) events :=
  AlongRun.imp (I := CacheInvariant content)
    (fun _ _ _ h hk hstep => cacheInvariant_step h hk hstep)
    (fun _ _ h hk => cacheStepSound h hk) events ⟨Coherent.init cacheSizes, RootsDead.init⟩
    hkeeps

/-- A hint that is answered in time. -/
theorem cached_items_run_sound_hint :
    AlongRun (step fun _ line => line) (CacheStepSound (E := Unit) fun _ line => line)
      (init fun _ => 5)
      [.enterListAsync none ⟨1⟩ 0, .checkRangeReady 0 (.ok 10),
        .getItemAsyncSetHint 0 3 5 (.fastPath ()) .success, .rangeDone 0] := by
  apply cached_items_run_sound
  refine ⟨trivial, fun s hs => ?_⟩
  obtain rfl := Option.some.inj hs
  refine ⟨fun _ vp hne => absurd rfl hne, fun s hs => ?_⟩
  obtain rfl := Option.some.inj hs
  refine ⟨trivial, fun s hs => ?_⟩
  obtain rfl := Option.some.inj hs
  refine ⟨fun query hquery => ?_, fun _ _ => trivial⟩
  obtain ⟨x, hx⟩ := hquery.taken
  obtain ⟨rfl, -⟩ := Prod.mk.inj (Option.some.inj hx)
  exact ⟨rfl, rfl, trivial⟩

/-- The view goes back to rows that are cached while the rows after them are being
fetched; these are stored in the view. -/
theorem rows_stored_in_moved_view :
    ¬AlongRun (step fun _ line => line) (CacheStepSound (E := Unit) fun _ line => line)
      (init fun _ => 5)
      [.enterListAsync none ⟨1⟩ 0, .checkRangeReady 0 (.ok 10),
        .getItemAsyncSetHint 0 0 5 (.fastPath ()) .success, .rangeDone 0,
        .getItemAsyncSetHint 0 5 5 (.cookie ⟨7, by decide⟩) .success,
        .getItemAsyncSetHint 0 0 5 (.fastPath ()) .success, .rangeNotified 1 true,
        .rangeFetched 1 (.ok ()), .rangeDone 1] := by
  intro h
  have hsound := ((((((((h.2 _ rfl).2 _ rfl).2 _ rfl).2 _ rfl).2 _ rfl).2 _ rfl).2 _ rfl).2 _
    rfl).1
  have hitem := hsound.shown _ rfl 0 0 5 rfl
  cases hitem

end DBusList

end Drcpd.Lists

/-
  Crawler/InvalidateRuns.lean --- the positions of a crawler after a list has been invalidated.

  The reference point and the cache enforcer are told about the list; the bookmarks, the
  operations and the traversal list are not.
-/
import Drcpd.Foundation.Run
import Drcpd.Crawler.Invalidate

set_option autoImplicit false

namespace Drcpd.Crawler

open Drcpd.Lists
open Foundation (AlongRun runFrom)

variable {gone : List ListId}

/-! ## Cursors -/

namespace Cursor

/-- The cursor with one list in place of another. -/
def replace (listId replacementId : ListId) (c : Cursor) : Cursor :=
  { c with
    listId := if c.listId = listId then replacementId else c.listId
    requestedListId :=
      if c.requestedListId = listId then replacementId else c.requestedListId }

theorem listInvalidate_snd (c : Cursor) (listId replacementId : ListId) :
    (c.listInvalidate listId replacementId).2 = c.replace listId replacementId := by
  unfold listInvalidate replace
  by_cases hrequested : c.requestedListId = listId
  · by_cases hlist : c.listId = listId <;> simp [hrequested, hlist]
  · by_cases hlist : c.listId = listId <;> simp [hrequested, hlist]

theorem listInvalidate_fst (c : Cursor) (listId replacementId : ListId) :
    (c.listInvalidate listId replacementId).1 = decide (c.listId = listId) := by
  unfold listInvalidate
  by_cases hrequested : c.requestedListId = listId
  · by_cases hlist : c.listId = listId <;> simp [hrequested, hlist]
  · by_cases hlist : c.listId = listId <;> simp [hrequested, hlist]

theorem replace_of_avoids {c : Cursor} {listId : ListId} (h : c.Avoids [listId])
    (replacementId : ListId) : c.replace listId replacementId = c := by
  unfold replace
  rw [if_neg (List.mem_singleton.not.mp h.listId),
    if_neg (List.mem_singleton.not.mp h.requestedListId)]

theorem Avoids.cons {c : Cursor} {listId : ListId} (h : c.Avoids gone)
    (hlist : c.Avoids [listId]) : c.Avoids (listId :: gone) where
  listId :=
    List.not_mem_cons_of_ne_of_not_mem (List.mem_singleton.not.mp hlist.listId) h.listId
  requestedListId :=
    List.not_mem_cons_of_ne_of_not_mem (List.mem_singleton.not.mp hlist.requestedListId)
      h.requestedListId

theorem Avoids.replace {c : Cursor} {listId replacementId : ListId} (h : c.Avoids gone)
    (hreplacement : replacementId ∉ listId :: gone) :
    (c.replace listId replacementId).Avoids (listId :: gone) := by
  have hone : ∀ l : ListId, l ∉ gone →
      (if l = listId then replacementId else l) ∉ listId :: gone := by
    intro l hl
    split
    · exact hreplacement
    · next hne => exact List.not_mem_cons_of_ne_of_not_mem hne hl
  exact ⟨hone _ h.listId, hone _ h.requestedListId⟩

/-- The replaced list is gone from the cursor, unless it replaces itself. -/
theorem replace_avoids_iff (c : Cursor) (listId replacementId : ListId) :
    (c.replace listId replacementId).Avoids [listId] ↔
      (¬c.Avoids [listId] → replacementId ≠ listId) := by
  constructor
  · rintro h hrefers rfl
    refine hrefers ?_
    have hone : ∀ l : ListId, (if l = replacementId then replacementId else l) = l := by
      intro l
      split
      · next hl => exact hl.symm
      · rfl
    have hsame : c.replace replacementId replacementId = c := by
      unfold replace
      rw [hone, hone]
    rwa [hsame] at h
  · intro h
    by_cases hc : c.Avoids [listId]
    · rw [replace_of_avoids hc]
      exact hc
    · have hne := h hc
      have hone : ∀ l : ListId, (if l = listId then replacementId else l) ∉ [listId] := by
        intro l
        split
        · exact List.mem_singleton.not.mpr hne
        · next hl => exact List.mem_singleton.not.mpr hl
      exact ⟨hone _, hone _⟩

end Cursor

namespace DirectoryCrawler

/-! ## What is expected -/

/-- No position held by the crawler refers to one of the lists. -/
structure PositionsAvoid (gone : List ListId) (c : DirectoryCrawler) : Prop where
  referencePoint : ∀ cursor, c.referencePoint = some cursor → cursor.Avoids gone
  bookmarks : ∀ bm cursor, c.bookmarks bm = some cursor → cursor.Avoids gone
  ops : ∀ op, (c.iface.ops op).isContained = true → (c.iface.ops op).op.position.Avoids gone
  uris : ∀ op, (c.uris op).isContained = true → (c.uris op).position.Avoids gone
  cacheEnforcer : ∀ enforcer, c.cacheEnforcer = some enforcer → enforcer.listId ∉ gone

/-- What referred to the list refers to its replacement.  The prefetch cursor is dropped where
playing is stopped, and a cache enforcer which has stopped is not restarted. -/
structure Replaced (listId replacementId : ListId) (c c' : DirectoryCrawler) : Prop where
  referencePoint : c'.referencePoint = c.referencePoint.map (·.replace listId replacementId)
  bookmarks : ∀ bm, c'.bookmarks bm = (c.bookmarks bm).map (·.replace listId replacementId) ∨
    (bm = .prefetchCursor ∧ c'.bookmarks bm = none)
  ops : ∀ op, (c.iface.ops op).isContained = true →
    (c'.iface.ops op).isContained = true ∧ (c'.iface.ops op).op.position =
      (c.iface.ops op).op.position.replace listId replacementId
  uris : ∀ op, (c.uris op).isContained = true →
    (c'.uris op).isContained = true ∧
      (c'.uris op).position = (c.uris op).position.replace listId replacementId
  cacheEnforcer : ∀ enforcer, c.cacheEnforcer = some enforcer → enforcer.isStopped = false →
    c'.cacheEnforcer =
      some (if enforcer.listId = listId then { listId := replacementId } else enforcer)

/-- What is expected of a crawler that is told about a list. -/
structure Invalidates (listId replacementId : ListId) (c c' : DirectoryCrawler) : Prop where
  positions : c'.PositionsAvoid [listId]
  replaced : replacementId.isValid = true → Replaced listId replacementId c c'

/-- The list of the reference point is removed, or the list which is traversed is removed or
replaced. -/
def MustStop (c : DirectoryCrawler) (listId replacementId : ListId) : Prop :=
  ∃ cursor, c.referencePoint = some cursor ∧
    if cursor.listId = listId then replacementId.isValid = false else c.traversalListId = listId

/-- Playing is stopped by a player control which has the handle, so that the prefetch cursor is
dropped. -/
def DropsPrefetchCursor (c : DirectoryCrawler) (listId replacementId : ListId)
    (control : Option PlayerControl) : Prop :=
  c.MustStop listId replacementId ∧ ∃ held, control = some held ∧ held.hasCrawlerHandle = true

/-- Only the reference point and the cache enforcer refer to the list, and the prefetch cursor if
it is dropped. -/
structure InvalidateFits (c : DirectoryCrawler) (listId replacementId : ListId)
    (control : Option PlayerControl) : Prop where
  referencePoint : ∀ cursor, c.referencePoint = some cursor → ¬cursor.Avoids [listId] →
    replacementId ≠ listId
  bookmarks : ∀ bm cursor, c.bookmarks bm = some cursor →
    ¬(bm = .prefetchCursor ∧ c.DropsPrefetchCursor listId replacementId control) →
      cursor.Avoids [listId]
  ops : ∀ op, (c.iface.ops op).isContained = true →
    (c.iface.ops op).op.position.Avoids [listId]
  uris : ∀ op, (c.uris op).isContained = true → (c.uris op).position.Avoids [listId]
  cacheEnforcer : ∀ enforcer, c.cacheEnforcer = some enforcer → enforcer.listId = listId →
    c.referencePoint ≠ none ∧ (enforcer.isStopped = true ∨ replacementId ≠ listId)

/-! ## The notification -/

variable {c c' : DirectoryCrawler} {listId replacementId : ListId} {control : Option PlayerControl}

theorem listInvalidate_stops_iff :
    (c.listInvalidate listId replacementId).1 = true ↔ c.MustStop listId replacementId := by
  unfold listInvalidate MustStop
  cases hreference : c.referencePoint with
  | none => simp
  | some cursor =>
    simp only [Option.some.injEq, exists_eq_left', Cursor.listInvalidate_fst]
    by_cases hlist : cursor.listId = listId
    · simp [hlist]
    · simp [hlist]

/-- The operations are where they have been; they may have been cancelled. -/
structure SameOps (c c' : DirectoryCrawler) : Prop where
  ops : ∀ op, (c'.iface.ops op).isContained = (c.iface.ops op).isContained ∧
    (c'.iface.ops op).op.position = (c.iface.ops op).op.position
  uris : ∀ op, (c'.uris op).isContained = (c.uris op).isContained ∧
    (c'.uris op).isDelayed = (c.uris op).isDelayed ∧
      (c'.uris op).position = (c.uris op).position
  avoids : ∀ gone, c.iface.Avoids gone → c'.iface.Avoids gone

theorem SameOps.refl (c : DirectoryCrawler) : SameOps c c :=
  ⟨fun _ => ⟨rfl, rfl⟩, fun _ => ⟨rfl, rfl, rfl⟩, fun _ h => h⟩

theorem SameOps.trans {c₁ c₂ c₃ : DirectoryCrawler} (h : SameOps c₁ c₂) (h' : SameOps c₂ c₃) :
    SameOps c₁ c₃ where
  ops op := ⟨(h'.ops op).1.trans (h.ops op).1, (h'.ops op).2.trans (h.ops op).2⟩
  uris op :=
    ⟨(h'.uris op).1.trans (h.uris op).1, (h'.uris op).2.1.trans (h.uris op).2.1,
      (h'.uris op).2.2.trans (h.uris op).2.2⟩
  avoids gone hgone := h'.avoids gone (h.avoids gone hgone)

theorem sameOps_cancelOp (c : DirectoryCrawler) (op : Option OpId) : SameOps c (c.cancelOp op) := by
  cases op with
  | none => exact .refl c
  | some op =>
    refine ⟨fun other => ?_, fun _ => ⟨rfl, rfl, rfl⟩, fun gone h => ?_⟩
    · have hops : ((c.cancelOp (some op)).iface.ops other) =
          if other = op then (c.iface.ops op).cancel else c.iface.ops other :=
        Function.update_apply _ _ _ _
      rw [hops]
      split
      · next heq =>
        subst heq
        exact ⟨rfl, rfl⟩
      · exact ⟨rfl, rfl⟩
    · exact h.setOp op (h op).cancel

theorem sameOps_cancelUrisOp (c : DirectoryCrawler) (op : Option OpId) :
    SameOps c (c.cancelUrisOp op) := by
  cases op with
  | none => exact .refl c
  | some op =>
    refine ⟨fun _ => ⟨rfl, rfl⟩, fun other => ?_, fun _ h => h⟩
    have huris : ((c.cancelUrisOp (some op)).uris other) =
        if other = op then { c.uris op with isCanceled := true } else c.uris other :=
      Function.update_apply _ _ _ _
    rw [huris]
    split
    · next heq =>
      subst heq
      exact ⟨rfl, rfl, rfl⟩
    · exact ⟨rfl, rfl, rfl⟩

/-- What `stop_playing` leaves as it is. -/
structure OnlyStops (c c' : DirectoryCrawler) : Prop extends SameOps c c' where
  isActive : c'.isActive = c.isActive
  referencePoint : c'.referencePoint = c.referencePoint
  cacheEnforcer : c'.cacheEnforcer = c.cacheEnforcer
  traversalListId : c'.traversalListId = c.traversalListId

theorem onlyStops_stopPlaying (c : DirectoryCrawler) (control : PlayerControl) :
    OnlyStops c (c.stopPlaying control) := by
  have hskipper := sameOps_cancelOp c control.findNextOp
  have hfind := hskipper.trans (sameOps_cancelOp _ control.prefetchNextItemOp)
  have huris := hfind.trans (sameOps_cancelUrisOp _ control.prefetchUrisOp)
  obtain ⟨findNextOp, prefetchNextItemOp, prefetchUrisOp, hasCrawlerHandle⟩ := control
  refine ⟨⟨huris.ops, huris.uris, huris.avoids⟩, ?_, ?_, ?_, ?_⟩
  all_goals cases findNextOp <;> cases prefetchNextItemOp <;> cases prefetchUrisOp <;> rfl

theorem stopPlaying_bookmarks (c : DirectoryCrawler) (control : PlayerControl) :
    (c.stopPlaying control).bookmarks =
      if control.hasCrawlerHandle then Function.update c.bookmarks .prefetchCursor none
      else c.bookmarks := by
  obtain ⟨findNextOp, prefetchNextItemOp, prefetchUrisOp, hasCrawlerHandle⟩ := control
  cases findNextOp <;> cases prefetchNextItemOp <;> cases prefetchUrisOp <;> rfl

/-- `list_invalidate` leaves all but the reference point and the cache enforcer alone. -/
theorem listInvalidate_same (c : DirectoryCrawler) (listId replacementId : ListId) :
    (c.listInvalidate listId replacementId).2 =
      { c with
        referencePoint := c.referencePoint.map (·.replace listId replacementId)
        cacheEnforcer :=
          if c.referencePoint = none then c.cacheEnforcer
          else c.invalidatedEnforcer listId replacementId } := by
  unfold listInvalidate
  cases hreference : c.referencePoint with
  | none =>
    dsimp only
    rw [if_pos rfl, Option.map_none, ← hreference]
  | some cursor =>
    dsimp only
    rw [if_neg (Option.some_ne_none cursor), Option.map_some, Cursor.listInvalidate_snd]

theorem invalidatedEnforcer_of_ne {enforcer : CacheEnforcer}
    (henforcer : c.cacheEnforcer = some enforcer) (hne : enforcer.listId ≠ listId) :
    c.invalidatedEnforcer listId replacementId = some enforcer := by
  unfold invalidatedEnforcer
  rw [henforcer]
  exact if_neg hne

theorem invalidatedEnforcer_of_eq {enforcer : CacheEnforcer}
    (henforcer : c.cacheEnforcer = some enforcer) (heq : enforcer.listId = listId) :
    c.invalidatedEnforcer listId replacementId =
      if !enforcer.isStopped && replacementId.isValid then some { listId := replacementId }
      else none := by
  unfold invalidatedEnforcer
  rw [henforcer]
  exact if_pos heq

/-- The cache enforcer afterwards is the one from before, or keeps the replacement. -/
theorem invalidatedEnforcer_cases {enforcer : CacheEnforcer}
    (h : c.invalidatedEnforcer listId replacementId = some enforcer) :
    (c.cacheEnforcer = some enforcer ∧ enforcer.listId ≠ listId) ∨
      (enforcer = { listId := replacementId } ∧
        ∃ before, c.cacheEnforcer = some before ∧ before.listId = listId ∧
          before.isStopped = false) := by
  cases hbefore : c.cacheEnforcer with
  | none =>
    unfold invalidatedEnforcer at h
    rw [hbefore] at h
    cases h
  | some before =>
    by_cases hlist : before.listId = listId
    · rw [invalidatedEnforcer_of_eq hbefore hlist] at h
      obtain ⟨hrestart, heq⟩ := Option.ite_none_right_eq_some.mp h
      obtain ⟨hrunning, -⟩ := Bool.and_eq_true_iff.mp hrestart
      exact Or.inr ⟨(Option.some.inj heq).symm, before, rfl, hlist,
        Bool.not_eq_true' _ ▸ hrunning⟩
    · rw [invalidatedEnforcer_of_ne hbefore hlist] at h
      cases h
      exact Or.inl ⟨rfl, hlist⟩

/-- What the notification leaves as it is. -/
structure Notified (listId replacementId : ListId) (c c' : DirectoryCrawler) : Prop
    extends SameOps c c' where
  isActive : c'.isActive = c.isActive
  referencePoint : c'.referencePoint = c.referencePoint.map (·.replace listId replacementId)
  cacheEnforcer : c'.cacheEnforcer =
    if c.referencePoint = none then c.cacheEnforcer
    else c.invalidatedEnforcer listId replacementId
  traversalListId : c'.traversalListId = c.traversalListId
  gone : c'.gone = listId :: c.gone

theorem notified (c : DirectoryCrawler) (listId replacementId : ListId)
    (control : Option PlayerControl) :
    Notified listId replacementId c (c.viewListInvalidate listId replacementId control) := by
  have hsame := listInvalidate_same c listId replacementId
  have hgoes : Notified listId replacementId c
      { (c.listInvalidate listId replacementId).2 with gone := listId :: c.gone } := by
    rw [hsame]
    exact ⟨⟨fun _ => ⟨rfl, rfl⟩, fun _ => ⟨rfl, rfl, rfl⟩, fun _ h => h⟩, rfl, rfl, rfl, rfl, rfl⟩
  unfold viewListInvalidate
  cases control with
  | none =>
    dsimp only [Option.elim]
    rw [ite_self]
    exact hgoes
  | some held =>
    dsimp only [Option.elim]
    split
    · have hstops := onlyStops_stopPlaying (c.listInvalidate listId replacementId).2 held
      have htold : SameOps c (c.listInvalidate listId replacementId).2 :=
        ⟨hgoes.ops, hgoes.uris, hgoes.avoids⟩
      have hops := htold.trans hstops.toSameOps
      exact ⟨⟨hops.ops, hops.uris, hops.avoids⟩, hstops.isActive.trans hgoes.isActive,
        hstops.referencePoint.trans hgoes.referencePoint,
        hstops.cacheEnforcer.trans hgoes.cacheEnforcer,
        hstops.traversalListId.trans hgoes.traversalListId, rfl⟩
    · exact hgoes

/-- The bookmarks stay, but for the prefetch cursor. -/
theorem viewListInvalidate_bookmarks (c : DirectoryCrawler) (listId replacementId : ListId)
    (control : Option PlayerControl) (bm : Bookmark) :
    (bm = .prefetchCursor ∧ c.DropsPrefetchCursor listId replacementId control ∧
        (c.viewListInvalidate listId replacementId control).bookmarks bm = none) ∨
      (¬(bm = .prefetchCursor ∧ c.DropsPrefetchCursor listId replacementId control) ∧
        (c.viewListInvalidate listId replacementId control).bookmarks bm = c.bookmarks bm) := by
  have hsame : (c.listInvalidate listId replacementId).2.bookmarks = c.bookmarks := by
    rw [listInvalidate_same]
  unfold viewListInvalidate DropsPrefetchCursor
  dsimp only
  rw [← listInvalidate_stops_iff]
  by_cases hstops : (c.listInvalidate listId replacementId).1 = true
  · rw [if_pos hstops]
    cases control with
    | none => exact .inr ⟨by simp, congrFun hsame bm⟩
    | some held =>
      dsimp only [Option.elim]
      rw [stopPlaying_bookmarks, hsame]
      by_cases hhandle : held.hasCrawlerHandle = true
      · rw [if_pos hhandle]
        by_cases hbm : bm = .prefetchCursor
        · subst hbm
          exact .inl ⟨rfl, ⟨hstops, held, rfl, hhandle⟩, Function.update_self _ _ _⟩
        · exact .inr ⟨fun h => hbm h.1, Function.update_of_ne hbm _ _⟩
      · rw [if_neg hhandle]
        exact .inr ⟨by simp [hhandle], rfl⟩
  · rw [if_neg hstops]
    exact .inr ⟨fun h => hstops h.2.1, congrFun hsame bm⟩

/-- The crawler is right exactly if only the reference point and the cache enforcer refer to the
list. -/
theorem viewListInvalidate_avoids_iff (hvalid : listId.isValid = true) :
    (c.viewListInvalidate listId replacementId control).PositionsAvoid [listId] ↔
      c.InvalidateFits listId replacementId control := by
  have hnotified := notified c listId replacementId control
  have hbookmarks := viewListInvalidate_bookmarks c listId replacementId control
  constructor
  · intro h
    refine ⟨fun cursor hcursor => ?_, fun bm cursor hcursor hkept => ?_,
      fun op hcontained => ?_, fun op hcontained => ?_, fun enforcer henforcer heq => ?_⟩
    · refine (cursor.replace_avoids_iff listId replacementId).mp (h.referencePoint _ ?_)
      rw [hnotified.referencePoint, hcursor]
      rfl
    · rcases hbookmarks bm with ⟨hbm, hdrops, -⟩ | ⟨-, hstays⟩
      · exact absurd ⟨hbm, hdrops⟩ hkept
      · exact h.bookmarks bm cursor (hstays.trans hcursor)
    · obtain ⟨hin, hposition⟩ := hnotified.ops op
      exact hposition ▸ h.ops op (hin.trans hcontained)
    · obtain ⟨hin, -, hposition⟩ := hnotified.uris op
      exact hposition ▸ h.uris op (hin.trans hcontained)
    · have hafter := h.cacheEnforcer
      rw [hnotified.cacheEnforcer] at hafter
      by_cases hnone : c.referencePoint = none
      · rw [if_pos hnone] at hafter
        exact absurd heq (List.mem_singleton.not.mp (hafter enforcer henforcer))
      · refine ⟨hnone, ?_⟩
        rw [if_neg hnone, invalidatedEnforcer_of_eq henforcer heq] at hafter
        cases hstopped : enforcer.isStopped with
        | true => exact Or.inl rfl
        | false =>
          right
          rintro rfl
          rw [hstopped, hvalid] at hafter
          exact absurd rfl (List.mem_singleton.not.mp (hafter _ rfl))
  · intro h
    refine ⟨fun cursor hcursor => ?_, fun bm cursor hcursor => ?_, fun op hcontained => ?_,
      fun op hcontained => ?_, fun enforcer henforcer => ?_⟩
    · rw [hnotified.referencePoint] at hcursor
      obtain ⟨before, hbefore, rfl⟩ := Option.map_eq_some_iff.mp hcursor
      exact (before.replace_avoids_iff listId replacementId).mpr (h.referencePoint before hbefore)
    · rcases hbookmarks bm with ⟨-, -, hdropped⟩ | ⟨hkept, hstays⟩
      · cases hdropped.symm.trans hcursor
      · exact h.bookmarks bm cursor (hstays.symm.trans hcursor) hkept
    · obtain ⟨hin, hposition⟩ := hnotified.ops op
      exact hposition ▸ h.ops op (hin.symm.trans hcontained)
    · obtain ⟨hin, -, hposition⟩ := hnotified.uris op
      exact hposition ▸ h.uris op (hin.symm.trans hcontained)
    · rw [hnotified.cacheEnforcer] at henforcer
      rw [List.mem_singleton]
      by_cases hnone : c.referencePoint = none
      · rw [if_pos hnone] at henforcer
        exact fun heq => (h.cacheEnforcer enforcer henforcer heq).1 hnone
      · rw [if_neg hnone] at henforcer
        rcases invalidatedEnforcer_cases henforcer with
          ⟨-, hne⟩ | ⟨rfl, before, hbefore, heq, hrunning⟩
        · exact hne
        · refine (h.cacheEnforcer before hbefore heq).2.resolve_left fun hstopped => ?_
          exact Bool.false_ne_true (hrunning.symm.trans hstopped)

theorem InvalidateFits.replaced (h : c.InvalidateFits listId replacementId control)
    (hvalid : replacementId.isValid = true) :
    Replaced listId replacementId c (c.viewListInvalidate listId replacementId control) := by
  have hnotified := notified c listId replacementId control
  refine ⟨hnotified.referencePoint, fun bm => ?_, fun op hcontained => ?_,
    fun op hcontained => ?_, fun enforcer henforcer hrunning => ?_⟩
  · rcases viewListInvalidate_bookmarks c listId replacementId control bm with
      ⟨hbm, -, hdropped⟩ | ⟨hkept, hstays⟩
    · exact Or.inr ⟨hbm, hdropped⟩
    · left
      rw [hstays]
      cases hbookmark : c.bookmarks bm with
      | none => rfl
      | some cursor =>
        rw [Option.map_some, Cursor.replace_of_avoids (h.bookmarks bm cursor hbookmark hkept)]
  · obtain ⟨hin, hposition⟩ := hnotified.ops op
    rw [Cursor.replace_of_avoids (h.ops op hcontained)]
    exact ⟨hin.trans hcontained, hposition⟩
  · obtain ⟨hin, -, hposition⟩ := hnotified.uris op
    rw [Cursor.replace_of_avoids (h.uris op hcontained)]
    exact ⟨hin.trans hcontained, hposition⟩
  · rw [hnotified.cacheEnforcer]
    by_cases heq : enforcer.listId = listId
    · rw [if_neg (h.cacheEnforcer enforcer henforcer heq).1,
        invalidatedEnforcer_of_eq henforcer heq, if_pos heq, hrunning, hvalid]
      rfl
    · rw [if_neg heq, invalidatedEnforcer_of_ne henforcer heq, henforcer]
      exact ite_self _

/-- The crawler does what is expected exactly if only the reference point and the cache enforcer
refer to the list. -/
theorem invalidates_iff (hvalid : listId.isValid = true) :
    Invalidates listId replacementId c (c.viewListInvalidate listId replacementId control) ↔
      c.InvalidateFits listId replacementId control := by
  constructor
  · exact fun h => (viewListInvalidate_avoids_iff hvalid).mp h.positions
  · exact fun h => ⟨(viewListInvalidate_avoids_iff hvalid).mpr h, h.replaced⟩

/-! ## The time after the notification -/

/-- What is expected of a step: the crawler is right about a list it is told about, and no
request names a list which has been invalidated.  A request for the parent of a list names the
list the traversal list is in. -/
structure StepSound (c : DirectoryCrawler) (e : DirectoryCrawlerEvent) (c' : DirectoryCrawler) :
    Prop where
  invalidates : ∀ listId replacementId control,
    e = .listInvalidate listId replacementId control → Invalidates listId replacementId c c'
  positions : c'.isActive = true → c'.PositionsAvoid c'.gone
  enterList : c'.isActive = true →
    ∀ op, ∀ query ∈ (c'.iface.ops op).queries, query.listId ∉ c'.gone
  parentLink : c'.isActive = true → c'.traversalListId ∉ c'.gone
  uris : ∀ named ∈ c.urisRequests e, named ∉ c.gone

/-- The condition on a notification. -/
def FitsNotification (c : DirectoryCrawler) : DirectoryCrawlerEvent → Prop
  | .listInvalidate listId replacementId control =>
      c.isActive = true → listId.isValid = true →
        c.InvalidateFits listId replacementId control
  | .setReferencePoint _ | .bookmark _ _ | .moveBookmark _ _ | .clearBookmark _ | .operation _
  | .runUris _ _ | .timerUris _ | .cancelUris _ | .completedUris _ | .enforcerStopped
  | .deactivate => True

/-- The traversal list, the timers and the lists to be entered have nothing to do with the list
either, and nobody tells the crawler of a list which has been invalidated. -/
def Fits (c : DirectoryCrawler) : DirectoryCrawlerEvent → Prop
  | .listInvalidate listId replacementId control =>
      c.InvalidateFits listId replacementId control ∧ replacementId ∉ listId :: c.gone ∧
        c.traversalListId ≠ listId ∧ c.iface.Avoids [listId] ∧
        ∀ op, (c.uris op).isDelayed = true → (c.uris op).position.Avoids [listId]
  | .setReferencePoint cursor | .bookmark _ cursor => cursor.Avoids c.gone
  | .operation e => e.Avoids c.gone c.iface
  | .runUris op _ => (c.uris op).position.Avoids c.gone
  | .moveBookmark _ _ | .clearBookmark _ | .timerUris _ | .cancelUris _ | .completedUris _
  | .enforcerStopped | .deactivate => True

/-- Nothing in the crawler refers to a list which has been invalidated. -/
structure Clean (c : DirectoryCrawler) : Prop where
  positions : c.PositionsAvoid c.gone
  iface : c.iface.Avoids c.gone
  delayed : ∀ op, (c.uris op).isDelayed = true → (c.uris op).position.Avoids c.gone
  traversalListId : c.traversalListId ∉ c.gone

theorem clean_of_nothing_gone (c : DirectoryCrawler) : Clean { c with gone := [] } := by
  have hcursor : ∀ cursor : Cursor, cursor.Avoids [] := fun _ =>
    ⟨List.not_mem_nil, List.not_mem_nil⟩
  exact
    { positions := ⟨fun _ _ => hcursor _, fun _ _ _ => hcursor _, fun _ _ => hcursor _,
        fun _ _ => hcursor _, fun _ _ => List.not_mem_nil⟩
      iface := fun _ => ⟨fun _ => hcursor _, fun _ _ => List.not_mem_nil⟩
      delayed := fun _ _ => hcursor _
      traversalListId := List.not_mem_nil }

theorem Clean.bookmarks (h : c.Clean) {bookmarks : Bookmark → Option Cursor}
    (hbookmarks : ∀ bm cursor, bookmarks bm = some cursor → cursor.Avoids c.gone) :
    Clean { c with bookmarks := bookmarks } :=
  ⟨⟨h.positions.referencePoint, hbookmarks, h.positions.ops, h.positions.uris,
    h.positions.cacheEnforcer⟩, h.iface, h.delayed, h.traversalListId⟩

/-- A bookmark is set, moved or cleared. -/
theorem Clean.update_bookmark (h : c.Clean) (bm : Bookmark) (cursor : Option Cursor)
    (hcursor : ∀ position, cursor = some position → position.Avoids c.gone) :
    Clean { c with bookmarks := Function.update c.bookmarks bm cursor } := by
  refine h.bookmarks fun other position hposition => ?_
  by_cases heq : other = bm
  · subst heq
    rw [Function.update_self] at hposition
    exact hcursor position hposition
  · rw [Function.update_of_ne heq] at hposition
    exact h.positions.bookmarks other position hposition

theorem Clean.setUris (h : c.Clean) (op : OpId) {r : GetUrisOp}
    (hr : r.isContained = true ∨ r.isDelayed = true → r.position.Avoids c.gone) :
    (c.setUris op r).Clean := by
  have hother : ∀ other, (c.setUris op r).uris other = if other = op then r else c.uris other :=
    fun other => Function.update_apply _ _ _ _
  refine ⟨⟨h.positions.referencePoint, h.positions.bookmarks, h.positions.ops,
    fun other hcontained => ?_, h.positions.cacheEnforcer⟩, h.iface, fun other hdelayed => ?_,
    h.traversalListId⟩
  · rw [hother] at hcontained ⊢
    split at hcontained
    · next heq =>
      rw [if_pos heq]
      exact hr (Or.inl hcontained)
    · next hne =>
      rw [if_neg hne]
      exact h.positions.uris other hcontained
  · rw [hother] at hdelayed ⊢
    split at hdelayed
    · next heq =>
      rw [if_pos heq]
      exact hr (Or.inr hdelayed)
    · next hne =>
      rw [if_neg hne]
      exact h.delayed other hdelayed

/-- The list which is entered has been asked for. -/
theorem Clean.operation (h : c.Clean) {e : CrawlerEvent} (he : e.Avoids c.gone c.iface)
    {iface : Iface} (hiface : c.iface.step (e.inList c.traversalListId) = some iface) :
    Clean { c with iface := iface, traversalListId := e.entered.getD c.traversalListId } := by
  have hsame : (e.inList c.traversalListId).Avoids c.gone c.iface := by
    cases e <;> exact he
  have hafter := h.iface.step hsame hiface
  refine ⟨⟨h.positions.referencePoint, h.positions.bookmarks, fun op hcontained => ?_,
    h.positions.uris, h.positions.cacheEnforcer⟩, hafter, h.delayed, ?_⟩
  · exact (hafter op).position (Or.inl hcontained)
  · dsimp only
    cases hentered : e.entered with
    | none => exact h.traversalListId
    | some listId =>
      unfold CrawlerEvent.entered at hentered
      split at hentered
      · next owner query _ _ _ _ =>
        cases hentered
        obtain ⟨hguard, -⟩ := Option.ite_none_left_eq_some.mp hiface
        exact (h.iface owner).queries query (not_not.mp (not_or.mp hguard).1)
      · cases hentered

theorem Clean.listInvalidate (h : c.Clean) (hfits : c.InvalidateFits listId replacementId control)
    (hreplacement : replacementId ∉ listId :: c.gone) (htraversal : c.traversalListId ≠ listId)
    (hiface : c.iface.Avoids [listId])
    (hdelayed : ∀ op, (c.uris op).isDelayed = true → (c.uris op).position.Avoids [listId]) :
    (c.viewListInvalidate listId replacementId control).Clean := by
  have hnotified := notified c listId replacementId control
  have hops : c.iface.Avoids (listId :: c.gone) := fun op =>
    ⟨fun hlive => ((h.iface op).position hlive).cons ((hiface op).position hlive),
      fun query hquery => List.not_mem_cons_of_ne_of_not_mem
        (List.mem_singleton.not.mp ((hiface op).queries query hquery))
        ((h.iface op).queries query hquery)⟩
  refine ⟨?_, ?_, fun op hop => ?_, ?_⟩
  · rw [hnotified.gone]
    refine ⟨fun cursor hcursor => ?_, fun bm cursor hcursor => ?_, fun op hcontained => ?_,
      fun op hcontained => ?_, fun enforcer henforcer => ?_⟩
    · rw [hnotified.referencePoint] at hcursor
      obtain ⟨before, hbefore, rfl⟩ := Option.map_eq_some_iff.mp hcursor
      exact (h.positions.referencePoint before hbefore).replace hreplacement
    · rcases viewListInvalidate_bookmarks c listId replacementId control bm with
        ⟨-, -, hdropped⟩ | ⟨hkept, hstays⟩
      · cases hdropped.symm.trans hcursor
      · have hbefore := hstays.symm.trans hcursor
        exact (h.positions.bookmarks bm cursor hbefore).cons
          (hfits.bookmarks bm cursor hbefore hkept)
    · obtain ⟨hin, hposition⟩ := hnotified.ops op
      have hbefore := hin.symm.trans hcontained
      exact hposition ▸ (h.positions.ops op hbefore).cons (hfits.ops op hbefore)
    · obtain ⟨hin, -, hposition⟩ := hnotified.uris op
      have hbefore := hin.symm.trans hcontained
      exact hposition ▸ (h.positions.uris op hbefore).cons (hfits.uris op hbefore)
    · rw [hnotified.cacheEnforcer] at henforcer
      by_cases hnone : c.referencePoint = none
      · rw [if_pos hnone] at henforcer
        refine List.not_mem_cons_of_ne_of_not_mem (fun heq => ?_)
          (h.positions.cacheEnforcer enforcer henforcer)
        exact (hfits.cacheEnforcer enforcer henforcer heq).1 hnone
      · rw [if_neg hnone] at henforcer
        rcases invalidatedEnforcer_cases henforcer with ⟨hbefore, hne⟩ | ⟨rfl, -⟩
        · exact List.not_mem_cons_of_ne_of_not_mem hne
            (h.positions.cacheEnforcer enforcer hbefore)
        · exact hreplacement
  · rw [hnotified.gone]
    exact hnotified.avoids _ hops
  · obtain ⟨-, hin, hposition⟩ := hnotified.uris op
    have hbefore := hin.symm.trans hop
    rw [hnotified.gone, hposition]
    exact (h.delayed op hbefore).cons (hdelayed op hbefore)
  · rw [hnotified.gone, hnotified.traversalListId]
    exact List.not_mem_cons_of_ne_of_not_mem htraversal h.traversalListId

theorem Clean.step (h : c.Clean) {e : DirectoryCrawlerEvent} (hfits : c.Fits e)
    (hstep : c.step e = some c') (hactive : c'.isActive = true) : c'.Clean := by
  obtain ⟨-, hmade⟩ := Option.ite_none_left_eq_some.mp hstep
  cases e with
  | setReferencePoint cursor =>
    cases hmade
    have hpinned := h.update_bookmark .pinned (some cursor) fun position heq => by
      cases heq
      exact hfits
    refine ⟨⟨fun position heq => ?_, hpinned.positions.bookmarks, h.positions.ops,
      h.positions.uris, fun enforcer heq => ?_⟩, h.iface, h.delayed, h.traversalListId⟩
    · cases heq
      exact hfits
    · cases heq
      exact hfits.listId
  | bookmark bm cursor =>
    cases hmade
    refine h.update_bookmark bm (some cursor) fun position heq => ?_
    cases heq
    exact hfits
  | moveBookmark dest src =>
    cases hmade
    unfold bookmarkMove
    split
    · exact h
    · have hmoved := h.update_bookmark dest (c.bookmarks src) fun position heq =>
        h.positions.bookmarks src position heq
      exact hmoved.update_bookmark src none nofun
  | clearBookmark bm =>
    cases hmade
    exact h.update_bookmark bm none nofun
  | operation e =>
    obtain ⟨-, hmade⟩ := Option.ite_none_left_eq_some.mp hmade
    obtain ⟨iface, hiface, rfl⟩ := Option.map_eq_some_iff.mp hmade
    exact h.operation hfits hiface
  | runUris op isDelayed =>
    obtain ⟨-, hmade⟩ := Option.ite_none_left_eq_some.mp hmade
    cases hmade
    exact h.setUris op fun _ => hfits
  | timerUris op =>
    obtain ⟨hdelayed, hmade⟩ := Option.ite_none_right_eq_some.mp hmade
    cases hmade
    exact h.setUris op fun _ => h.delayed op hdelayed
  | cancelUris op =>
    cases hmade
    exact h.setUris op fun hlive => hlive.elim (h.positions.uris op) (h.delayed op)
  | completedUris op =>
    cases hmade
    exact h.setUris op fun hlive => hlive.elim nofun (h.delayed op)
  | enforcerStopped =>
    cases hmade
    refine ⟨⟨h.positions.referencePoint, h.positions.bookmarks, h.positions.ops,
      h.positions.uris, fun enforcer henforcer => ?_⟩, h.iface, h.delayed, h.traversalListId⟩
    obtain ⟨before, hbefore, rfl⟩ := Option.map_eq_some_iff.mp henforcer
    exact h.positions.cacheEnforcer before hbefore
  | listInvalidate listId replacementId control =>
    obtain ⟨-, hmade⟩ := Option.ite_none_right_eq_some.mp hmade
    cases hmade
    obtain ⟨hfits, hreplacement, htraversal, hiface, hdelayed⟩ := hfits
    exact h.listInvalidate hfits hreplacement htraversal hiface hdelayed
  | deactivate =>
    cases hmade
    cases hactive

theorem Clean.stepSound (h : c.Clean) {e : DirectoryCrawlerEvent} (hfits : c.Fits e)
    (hstep : c.step e = some c') : StepSound c e c' where
  invalidates := by
    rintro listId replacementId control rfl
    obtain ⟨-, hmade⟩ := Option.ite_none_left_eq_some.mp hstep
    obtain ⟨hvalid, hmade⟩ := Option.ite_none_right_eq_some.mp hmade
    cases hmade
    exact (invalidates_iff hvalid).mpr hfits.1
  positions := fun hactive => (h.step hfits hstep hactive).positions
  enterList := fun hactive op => ((h.step hfits hstep hactive).iface op).queries
  parentLink := fun hactive => (h.step hfits hstep hactive).traversalListId
  uris := by
    obtain ⟨-, hmade⟩ := Option.ite_none_left_eq_some.mp hstep
    unfold urisRequests
    cases e with
    | runUris op isDelayed =>
      dsimp only
      split
      · exact nofun
      · exact List.forall_mem_singleton.mpr (Cursor.Avoids.listId hfits)
    | timerUris op =>
      obtain ⟨hdelayed, -⟩ := Option.ite_none_right_eq_some.mp hmade
      dsimp only
      split
      · exact nofun
      · exact List.forall_mem_singleton.mpr (h.delayed op hdelayed).listId
    | _ => exact nofun

/-! ## Whole runs -/

/-- At each notification, the crawler is right exactly if only the reference point and the cache
enforcer refer to the list, or the prefetch cursor when it is dropped.  If the traversal list and
the lists to be entered have nothing to do with it either, and nobody tells the crawler of the list
again, then no request names it any more. -/
theorem list_invalidate_run (c : DirectoryCrawler) (es : List DirectoryCrawlerEvent) :
    (AlongRun step
        (fun c e => ∀ c', c.step e = some c' → ∀ listId replacementId control,
          e = .listInvalidate listId replacementId control →
            Invalidates listId replacementId c c') c es ↔
      AlongRun step FitsNotification c es) ∧
    (AlongRun step Fits { c with gone := [] } es →
      AlongRun step (fun c e => ∀ c', c.step e = some c' → StepSound c e c')
        { c with gone := [] } es) := by
  constructor
  · refine Foundation.alongRun_iff (I := fun _ => True) (fun _ _ _ _ _ _ => trivial) ?_ es trivial
    intro c e _
    constructor
    · intro h
      cases e with
      | listInvalidate listId replacementId control =>
        intro hactive hvalid
        refine (invalidates_iff hvalid).mp (h _ ?_ listId replacementId control rfl)
        unfold step
        rw [hactive]
        exact if_pos hvalid
      | _ => trivial
    · rintro hfits c' hstep listId replacementId control rfl
      obtain ⟨hactive, hmade⟩ := Option.ite_none_left_eq_some.mp hstep
      obtain ⟨hvalid, hmade⟩ := Option.ite_none_right_eq_some.mp hmade
      cases hmade
      exact (invalidates_iff hvalid).mpr (hfits (by simpa using hactive) hvalid)
  · intro h
    refine AlongRun.imp (I := fun c => c.isActive = true → c.Clean) ?_ ?_ es
      (fun _ => clean_of_nothing_gone c) h
    · intro c e c' hclean hfits hstep hactive
      obtain ⟨hbefore, -⟩ := Option.ite_none_left_eq_some.mp hstep
      exact (hclean (by simpa using hbefore)).step hfits hstep hactive
    · intro c e hclean hfits c' hstep
      obtain ⟨hbefore, -⟩ := Option.ite_none_left_eq_some.mp hstep
      exact (hclean (by simpa using hbefore)).stepSound hfits hstep

/-- A crawler that was activated for a list. -/
def activatedIn (listId : ListId) : DirectoryCrawler :=
  setReferencePoint
    { iface :=
        { ops := fun _ =>
            { op := FindNextOp.make .depthFirst .forward {} .findFirst .none true } }
      uris := fun _ => { position := {} } }
    { listId := listId, requestedListId := listId }

/-- A cursor in a list avoids the others. -/
theorem avoids_of_notMem {listId : ListId} (h : listId ∉ gone) :
    Cursor.Avoids gone { listId := listId, requestedListId := listId } := ⟨h, h⟩

/-- The next item is looked for in the list, while other lists are replaced and removed. -/
theorem list_invalidate_run_other_lists :
    AlongRun step (fun c e => ∀ c', c.step e = some c' → StepSound c e c')
      { activatedIn ⟨5⟩ with gone := [] }
      [.bookmark .prefetchCursor { listId := ⟨5⟩, requestedListId := ⟨5⟩ },
        .listInvalidate ⟨4⟩ ⟨6⟩ (some {}), .clearBookmark .prefetchCursor,
        .listInvalidate ⟨6⟩ {} (some {})] := by
  apply (list_invalidate_run (activatedIn ⟨5⟩)
    [.bookmark .prefetchCursor { listId := ⟨5⟩, requestedListId := ⟨5⟩ },
      .listInvalidate ⟨4⟩ ⟨6⟩ (some {}), .clearBookmark .prefetchCursor,
      .listInvalidate ⟨6⟩ {} (some {})]).2
  refine .cons_of_step (avoids_of_notMem (by decide)) rfl ?_
  refine .cons_of_step ⟨⟨?_, ?_, nofun, nofun, ?_⟩, by decide, by decide, fun op => ?_, nofun⟩
    rfl ?_
  · intro cursor _ _
    decide
  · intro bm cursor hcursor _
    cases bm <;> cases hcursor
    · exact avoids_of_notMem (by decide)
    · exact avoids_of_notMem (by decide)
  · intro enforcer henforcer heq
    cases henforcer
    cases heq
  · exact ⟨fun _ => avoids_of_notMem (by decide), nofun⟩
  refine .cons_of_step trivial rfl ?_
  refine .cons_of_step ⟨⟨?_, ?_, nofun, nofun, ?_⟩, by decide, by decide, fun op => ?_, nofun⟩ rfl
    trivial
  · intro cursor _ _
    decide
  · intro bm cursor hcursor _
    cases bm <;> cases hcursor
    exact avoids_of_notMem (by decide)
  · intro enforcer henforcer heq
    cases henforcer
    cases heq
  · exact ⟨fun _ => avoids_of_notMem (by decide), nofun⟩

/-- The pinned bookmark still refers to the list which has been replaced. -/
theorem bookmarks_not_updated :
    ¬ ∀ (c : DirectoryCrawler) (es : List DirectoryCrawlerEvent),
      AlongRun step
        (fun c e => ∀ c', c.step e = some c' → ∀ listId replacementId control,
          e = .listInvalidate listId replacementId control →
            Invalidates listId replacementId c c') c es := by
  intro h
  have hinvalidated := (h (activatedIn ⟨5⟩) [.listInvalidate ⟨5⟩ ⟨6⟩ none]).1 _ rfl _ _ _ rfl
  refine (hinvalidated.positions.bookmarks .pinned _ rfl).listId ?_
  exact List.mem_singleton.mpr rfl

end DirectoryCrawler

end Drcpd.Crawler

/-
  Crawler/Activation.lean --- taking a crawler, and failing to (`Iface::activate` and
  `activate_without_reference_point` in `playlist_crawler.cc`).

  A crawler is taken by making a handle.  This fails if there is a handle already, or if the new
  one cannot be allocated.  With a cursor, the bookmark and the cache enforcer are set before
  that.

  The life of a crawler is made of what happens while it is active, and of the attempts to
  activate it, at any time.
-/
import Drcpd.Foundation.Run
import Drcpd.Crawler.CacheEnforcer
import Drcpd.Crawler.InvalidateRuns

set_option autoImplicit false

namespace Drcpd.Crawler

open Foundation (runFrom)

/-- What happens in the life of a crawler.  `handleFails` says that the handle cannot be
allocated. -/
inductive LifeEvent where
  | active (e : DirectoryCrawlerEvent)
  | activate (cursor : Cursor) (handleFails : Bool)
  | activateWithoutReferencePoint (handleFails : Bool)
  /-- The enforcer stops while the crawler is not active. -/
  | enforcerStopped

namespace DirectoryCrawler

/-- The end of both functions: making the handle, with the handlers for exceptions.  The first
result says that the function throws. -/
def makeHandle (c : DirectoryCrawler) (referencePoint : Option Cursor) (handleFails : Bool) :
    Bool × DirectoryCrawler :=
  if c.isActive then (true, c)
  else if handleFails then (true, { c with isActive := false, referencePoint := none })
  else (false, { c with isActive := true, referencePoint := referencePoint })

/-- `activate`. -/
def activate (c : DirectoryCrawler) (cursor : Cursor) (handleFails : Bool) :
    Bool × DirectoryCrawler :=
  makeHandle
    { c with
      bookmarks := Function.update c.bookmarks .pinned (some cursor)
      cacheEnforcer := some { listId := cursor.listId } }
    (some cursor) handleFails

/-- `activate_without_reference_point`. -/
def activateWithoutReferencePoint (c : DirectoryCrawler) (handleFails : Bool) :
    Bool × DirectoryCrawler :=
  c.makeHandle none handleFails

/-- The list the cache enforcer keeps in cache. -/
def keptInCache (c : DirectoryCrawler) : Option ListId :=
  (c.cacheEnforcer.filter fun enforcer => !enforcer.isStopped).map CacheEnforcer.listId

/-- The holder of a handle sees no difference. -/
structure Unaffected (c c' : DirectoryCrawler) : Prop where
  bookmarks : c'.bookmarks = c.bookmarks
  referencePoint : c'.referencePoint = c.referencePoint
  isActive : c'.isActive = c.isActive
  keptInCache : c'.keptInCache = c.keptInCache

/-- What is expected: if the function throws, then nothing has happened. -/
def RollsBack (c : DirectoryCrawler) (done : Bool × DirectoryCrawler) : Prop :=
  done.1 = true → c.Unaffected done.2

/-- One step in the life of a crawler. -/
def lifeStep (c : DirectoryCrawler) : LifeEvent → Option DirectoryCrawler
  | .active e => c.step e
  | .activate cursor handleFails => some (c.activate cursor handleFails).2
  | .activateWithoutReferencePoint handleFails =>
      some (c.activateWithoutReferencePoint handleFails).2
  | .enforcerStopped =>
      some { c with cacheEnforcer := c.cacheEnforcer.map fun e => { e with isStopped := true } }

/-- A crawler that has just been made. -/
def made (iface : Iface) (uris : OpId → GetUrisOp) : DirectoryCrawler :=
  { isActive := false, iface := iface, uris := uris }

variable {c c' : DirectoryCrawler}

/-! ## Inactive crawlers -/

/-- A crawler that is not active has no reference point. -/
def Released (c : DirectoryCrawler) : Prop := c.isActive = false → c.referencePoint = none

/-- Whatever keeps a crawler active keeps it so. -/
theorem released_of_active (h : c.isActive = true) : c.Released :=
  fun hinactive => absurd (h.symm.trans hinactive) nofun

theorem bookmarkMove_isActive (c : DirectoryCrawler) (dest src : Bookmark) :
    (c.bookmarkMove dest src).isActive = c.isActive := by
  unfold bookmarkMove
  split_ifs
  · rfl
  · rfl

/-- An active crawler loses its reference point when it is deactivated. -/
theorem released_step {e : DirectoryCrawlerEvent} (hstep : c.step e = some c') : c'.Released := by
  obtain ⟨hbefore, hmade⟩ := Option.ite_none_left_eq_some.mp hstep
  have hactive : c.isActive = true := by simpa using hbefore
  cases e with
  | moveBookmark dest src =>
    refine Option.some.inj hmade ▸ released_of_active ?_
    exact (bookmarkMove_isActive c dest src).trans hactive
  | operation e =>
    obtain ⟨-, hmade⟩ := Option.ite_none_left_eq_some.mp hmade
    obtain ⟨iface, -, rfl⟩ := Option.map_eq_some_iff.mp hmade
    exact released_of_active hactive
  | runUris op isDelayed =>
    obtain ⟨-, hmade⟩ := Option.ite_none_left_eq_some.mp hmade
    exact Option.some.inj hmade ▸ released_of_active hactive
  | timerUris op =>
    obtain ⟨-, hmade⟩ := Option.ite_none_right_eq_some.mp hmade
    exact Option.some.inj hmade ▸ released_of_active hactive
  | listInvalidate listId replacementId control =>
    obtain ⟨-, hmade⟩ := Option.ite_none_right_eq_some.mp hmade
    obtain rfl := Option.some.inj hmade
    exact released_of_active ((notified c listId replacementId control).isActive.trans hactive)
  | deactivate => exact Option.some.inj hmade ▸ fun _ => rfl
  | _ => exact Option.some.inj hmade ▸ released_of_active hactive

theorem Released.makeHandle (h : c.Released) (referencePoint : Option Cursor)
    (handleFails : Bool) : (c.makeHandle referencePoint handleFails).2.Released := by
  unfold DirectoryCrawler.makeHandle
  split_ifs
  · exact h
  · exact fun _ => rfl
  · exact released_of_active rfl

theorem Released.lifeStep (h : c.Released) {e : LifeEvent} (hstep : c.lifeStep e = some c') :
    c'.Released := by
  cases e with
  | active e => exact released_step hstep
  | activate cursor handleFails =>
    obtain rfl := Option.some.inj hstep
    exact Released.makeHandle (c := { c with
      bookmarks := Function.update c.bookmarks .pinned (some cursor)
      cacheEnforcer := some { listId := cursor.listId } }) h (some cursor) handleFails
  | activateWithoutReferencePoint handleFails =>
    exact Option.some.inj hstep ▸ h.makeHandle none handleFails
  | enforcerStopped => exact Option.some.inj hstep ▸ h

/-- In the whole life of a crawler. -/
theorem released_of_run {iface : Iface} {uris : OpId → GetUrisOp} (es : List LifeEvent)
    (hrun : runFrom lifeStep (made iface uris) es = some c) : c.Released :=
  Foundation.invariant_of_run (fun _ _ _ h hstep => h.lifeStep hstep) es (fun _ => rfl) hrun

/-! ## The enforcer at work -/

/-- Of what its enforcer does, a crawler sees nothing, or that it has stopped. -/
theorem enforcer_seen {before after : CacheEnforcer} (h : c.cacheEnforcer = some before)
    (hseen : after = before ∨ after = { before with isStopped := true }) :
    ∃ es, runFrom lifeStep c es = some { c with cacheEnforcer := some after } := by
  rcases hseen with rfl | rfl
  · refine ⟨[], ?_⟩
    rw [← h]
    rfl
  · refine ⟨[.enforcerStopped], ?_⟩
    simp [runFrom, DirectoryCrawler.lifeStep, h]

/-- An enforcer at work is an enforcer in the life of its crawler, and while it keeps its list in
cache, it waits for its timer or for an answer. -/
theorem enforcer_of_run (listId : ListId) (hasProxy : Bool) (es : List Refreshing.Event)
    {e : Refreshing} (hrun : runFrom Refreshing.step (.start listId hasProxy) es = some e)
    (h : c.cacheEnforcer = some { listId := listId }) :
    ∃ life after, runFrom lifeStep c life = some after ∧ after.cacheEnforcer = some e.seen ∧
      (after.keptInCache ≠ none → e.timer.isSome = true ∨ e.isCalling = true) := by
  have hstart : (Refreshing.start listId hasProxy).seen = { listId := listId } ∨
      (Refreshing.start listId hasProxy).seen = { listId := listId, isStopped := true } := by
    cases hasProxy with
    | false => exact .inr rfl
    | true => exact .inl rfl
  have hseen : ∃ life, runFrom lifeStep c life = some { c with cacheEnforcer := some e.seen } := by
    refine Foundation.invariant_of_run
      (I := fun e => ∃ life, runFrom lifeStep c life = some { c with cacheEnforcer := some e.seen })
      (fun e event e' hlife hstep => ?_) es (enforcer_seen h hstart) hrun
    obtain ⟨life, hlife⟩ := hlife
    obtain ⟨more, hmore⟩ := enforcer_seen (c := { c with cacheEnforcer := some e.seen }) rfl
      (Refreshing.seen_of_step hstep)
    exact ⟨life ++ more, Foundation.runFrom_append.mpr ⟨_, hlife, hmore⟩⟩
  obtain ⟨life, hlife⟩ := hseen
  refine ⟨life, _, hlife, rfl, fun hkept => ?_⟩
  have hwaits := Refreshing.waits_of_run listId hasProxy es hrun
  cases hstate : e.state with
  | created => exact absurd hstate hwaits.used
  | started =>
    cases hcalling : e.isCalling with
    | true => exact .inr rfl
    | false =>
      left
      rw [hwaits.one hstate, hcalling]
      rfl
  | stopped => simp [keptInCache, Refreshing.seen, hstate] at hkept

/-! ## Failing activations -/

/-- Making the handle fails without a trace. -/
theorem Released.rollsBack_makeHandle (h : c.Released) (referencePoint : Option Cursor)
    (handleFails : Bool) : c.RollsBack (c.makeHandle referencePoint handleFails) := by
  unfold RollsBack DirectoryCrawler.makeHandle
  split_ifs with hactive
  · exact fun _ => ⟨rfl, rfl, rfl, rfl⟩
  · have hinactive : c.isActive = false := by simpa using hactive
    exact fun _ => ⟨rfl, (h hinactive).symm, hinactive.symm, rfl⟩
  · exact nofun

/-- The condition: the activation succeeds, or sets what has been set before. -/
def ActivateFits (c : DirectoryCrawler) (cursor : Cursor) (handleFails : Bool) : Prop :=
  c.isActive = false ∧ handleFails = false ∨
    c.bookmarks .pinned = some cursor ∧ c.keptInCache = some cursor.listId

theorem Released.rollsBack_activate_iff (h : c.Released) (cursor : Cursor) (handleFails : Bool) :
    c.RollsBack (c.activate cursor handleFails) ↔ c.ActivateFits cursor handleFails := by
  have hthrows : (c.activate cursor handleFails).1 = true ↔
      ¬(c.isActive = false ∧ handleFails = false) := by
    unfold activate DirectoryCrawler.makeHandle
    cases c.isActive <;> cases handleFails <;> simp
  have hset : ∀ bookmarks, bookmarks = Function.update c.bookmarks .pinned (some cursor) →
      (bookmarks = c.bookmarks ↔ c.bookmarks .pinned = some cursor) := by
    rintro bookmarks rfl
    rw [Function.update_eq_self_iff, eq_comm]
  have hbookmarks : (c.activate cursor handleFails).2.bookmarks =
      Function.update c.bookmarks .pinned (some cursor) := by
    unfold activate DirectoryCrawler.makeHandle
    split_ifs <;> rfl
  have hkept : (c.activate cursor handleFails).2.keptInCache = some cursor.listId := by
    unfold activate DirectoryCrawler.makeHandle
    split_ifs <;> rfl
  -- the set of what remains is that of making the handle
  have hrest : (c.activate cursor handleFails).1 = true →
      (c.activate cursor handleFails).2.referencePoint = c.referencePoint ∧
        (c.activate cursor handleFails).2.isActive = c.isActive := by
    intro hthrow
    have hback := Released.rollsBack_makeHandle (c := { c with
      bookmarks := Function.update c.bookmarks .pinned (some cursor)
      cacheEnforcer := some { listId := cursor.listId } }) h (some cursor) handleFails hthrow
    exact ⟨hback.referencePoint, hback.isActive⟩
  unfold RollsBack ActivateFits
  rw [hthrows, ← or_iff_not_imp_left]
  refine or_congr_right' fun hnot => ?_
  obtain ⟨hreference, hactive⟩ := hrest (hthrows.mpr hnot)
  constructor
  · intro hsame
    exact ⟨(hset _ hbookmarks).mp hsame.bookmarks, hsame.keptInCache.symm.trans hkept⟩
  · rintro ⟨hpinned, hlist⟩
    exact ⟨(hset _ hbookmarks).mpr hpinned, hreference, hactive, hkept.trans hlist.symm⟩

/-- In every state of a crawler: a failing `activate_without_reference_point` changes nothing, and
`activate` changes nothing if it fails exactly if it does not fail, or its cursor is pinned and
its list kept in cache already. -/
theorem activation_rolls_back_iff (iface : Iface) (uris : OpId → GetUrisOp) (es : List LifeEvent)
    (c : DirectoryCrawler) (hrun : runFrom lifeStep (made iface uris) es = some c) :
    (∀ handleFails, c.RollsBack (c.activateWithoutReferencePoint handleFails)) ∧
      ∀ cursor handleFails, c.RollsBack (c.activate cursor handleFails) ↔
        c.ActivateFits cursor handleFails :=
  ⟨(released_of_run es hrun).rollsBack_makeHandle none,
    (released_of_run es hrun).rollsBack_activate_iff⟩

/-- A crawler without operations. -/
def unused : DirectoryCrawler :=
  made { ops := fun _ => { op := FindNextOp.make .depthFirst .forward {} .findFirst .none true } }
    fun _ => { position := {} }

/-- A cursor in the first line of a list. -/
def atTopOf (listId : ListId) : Cursor := { listId := listId, requestedListId := listId }

/-- The same cursor is passed to a crawler again. -/
theorem activation_rolls_back_same_cursor :
    RollsBack (unused.activate (atTopOf ⟨5⟩) false).2
      ((unused.activate (atTopOf ⟨5⟩) false).2.activate (atTopOf ⟨5⟩) false) :=
  ((activation_rolls_back_iff _ _ [.activate (atTopOf ⟨5⟩) false] _ rfl).2
    (atTopOf ⟨5⟩) false).mpr (.inr ⟨rfl, rfl⟩)

/-- The list of the holder is not kept in cache any more. -/
theorem list_lost_by_refused_activation :
    ¬∀ (iface : Iface) (uris : OpId → GetUrisOp) (es : List LifeEvent) (c : DirectoryCrawler),
      runFrom lifeStep (made iface uris) es = some c →
        (∀ cursor handleFails, c.RollsBack (c.activate cursor handleFails)) ∧
          ∀ handleFails, c.RollsBack (c.activateWithoutReferencePoint handleFails) := by
  intro h
  have hback := (h unused.iface unused.uris [.activate (atTopOf ⟨5⟩) false] _ rfl).1
    (atTopOf ⟨6⟩) false rfl
  have hkept := hback.keptInCache
  revert hkept
  decide

end DirectoryCrawler

end Drcpd.Crawler

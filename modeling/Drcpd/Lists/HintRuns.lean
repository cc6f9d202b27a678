/-
  Lists/HintRuns.lean --- hints and their completions in any order.

  A hint starts a fetch or it does not.  The function passed with a hint that starts
  one is called when the fetch is done, and a fetch that is not done yet is due: the
  cookie manager holds its fetch function, or its done function has been deferred.

  Two kinds of steps are left out: a hint for a line that is being fetched already,
  which returns `STARTED` and drops its function; and a step that removes the entry of
  a viewport for which a fetch is due.
-/
import Drcpd.Foundation.Run
import Drcpd.Lists.EnterList
import Drcpd.Lists.ItemAccess

set_option autoImplicit false

namespace Drcpd.Lists

open Drcpd.Foundation Drcpd.DBus Drcpd.Rnf

variable {Item E : Type}

/-! ## Fetchers -/

/-- A requested call whose fetch function the cookie manager holds, beside the
notification function for the cookie `pending`.  Where the call waits for its
notification, the notification will find its cookie. -/
structure LiveCall (c : Call (List Item) E) (pending : Option UInt32) : Prop where
  requested : c.state ≠ .initialized
  alive : c.state ≠ .aboutToDestroy
  waiting : c.state = .waitForNotification →
    ∃ cookie, pending = some cookie ∧ cookie ≠ 0 ∧
      (c.cookie = cookie ∨ (c.cookie = 0 ∧ c.clearedCookie = cookie))

namespace LiveCall

variable {c : Call (List Item) E} {pending : Option UInt32}

theorem abortRequest (h : LiveCall c pending) (answer : AbortAnswer) :
    LiveCall (c.abortRequest answer).2 pending := by
  rcases c.abortRequest_cases answer with ⟨hnot, hstate⟩ | hcleared | hstate | hstate
  · refine ⟨hstate ▸ h.requested, hstate ▸ h.alive, fun hwait => ?_⟩
    exact absurd (hstate ▸ hwait) hnot
  · obtain ⟨hstate, hne, hcookie, hclearedCookie⟩ := hcleared
    refine ⟨hstate ▸ h.requested, hstate ▸ h.alive, fun hwait => ?_⟩
    obtain ⟨cookie, hpending, hcookie0, hor⟩ := h.waiting (hstate ▸ hwait)
    have hsame : c.cookie = cookie := hor.resolve_right fun hz => hne hz.1
    exact ⟨cookie, hpending, hcookie0, Or.inr ⟨hcookie, hclearedCookie.trans hsame⟩⟩
  · constructor <;> simp [hstate]
  · constructor <;> simp [hstate]

/-- After the notification for its cookie a call does not wait any more. -/
theorem notification {cookie : UInt32} (h : LiveCall c (some cookie)) {newState : CallState}
    (hnew : newState = .readyToFetch ∨ newState = .abortedByListBroker) :
    LiveCall (c.notification cookie newState) none := by
  have hnew' : newState ≠ .initialized ∧ newState ≠ .aboutToDestroy ∧
      newState ≠ .waitForNotification := by
    rcases hnew with rfl | rfl <;> simp
  have hwait : c.state = .waitForNotification →
      cookie ≠ 0 ∧ ¬(cookie ≠ c.cookie ∧ cookie ≠ c.clearedCookie) := by
    intro hstate
    obtain ⟨cookie', hpending, hne, hcookie⟩ := h.waiting hstate
    obtain rfl := Option.some.inj hpending
    refine ⟨hne, fun hboth => ?_⟩
    rcases hcookie with hcookie | ⟨-, hcookie⟩
    · exact hboth.1 hcookie.symm
    · exact hboth.2 hcookie.symm
  have hrequested := h.requested
  have halive := h.alive
  unfold Call.notification
  split_ifs with hzero hother
  · exact ⟨hrequested, halive, fun hstate => absurd hzero (hwait hstate).1⟩
  · exact ⟨hrequested, halive, fun hstate => absurd hother (hwait hstate).2⟩
  · cases hstate : c.state with
    | initialized => exact absurd hstate hrequested
    | aboutToDestroy => exact absurd hstate halive
    | waitForNotification =>
      exact ⟨hnew'.1, hnew'.2.1, fun h => absurd h hnew'.2.2⟩
    | aborting => exact ⟨hnew'.1, hnew'.2.1, fun h => absurd h hnew'.2.2⟩
    | _ => constructor <;> simp [hstate]

/-- A notified call is fetched without an exception. -/
theorem fetchUnlocked (h : LiveCall c none) (answer : Except E (List Item)) :
    (c.fetchUnlocked answer).1.result.isSome = true := by
  have hrequested := h.requested
  have halive := h.alive
  have hwaiting : c.state ≠ .waitForNotification := by
    intro hstate
    obtain ⟨cookie, hpending, -⟩ := h.waiting hstate
    cases hpending
  unfold Call.fetchUnlocked
  split
  · split <;> rfl
  · rfl
  · rfl
  · rfl
  · rfl
  · rename_i hstate
    exact absurd hstate hrequested
  · rename_i hstate
    exact absurd hstate hwaiting
  · rename_i hstate
    exact absurd hstate halive

end LiveCall

namespace SegmentFetcher

/-- What holds of a fetcher between two steps. -/
structure Sound (f : SegmentFetcher Item E) : Prop where
  pending : f.pendingFetch = true → f.isDoneNotificationDeferred = false ∧
    ∃ query, f.getRangeQuery = some query ∧ LiveCall query.call f.pendingNotification
  deferred : f.isDoneNotificationDeferred = true → f.pendingFetch = false ∧
    ∃ query, f.getRangeQuery = some query
  notified : f.pendingNotification ≠ none → f.pendingFetch = true
  answered : ∀ query, f.getRangeQuery = some query → query.call.Answered

variable {f : SegmentFetcher Item E}

@[simp] theorem isDue_default : isDue ({} : SegmentFetcher Item E) = false := rfl

theorem sound_default : Sound ({} : SegmentFetcher Item E) := by
  constructor <;> simp

@[simp] theorem cancelOp_isDue (answer : AbortAnswer) : (f.cancelOp answer).isDue = f.isDue := by
  unfold cancelOp
  split <;> rfl

@[simp] theorem cancelOp_listViewport (answer : AbortAnswer) :
    (f.cancelOp answer).listViewport = f.listViewport := by
  unfold cancelOp
  split <;> rfl

@[simp] theorem cancelOp_default (answer : AbortAnswer) :
    ({} : SegmentFetcher Item E).cancelOp answer = {} := rfl

theorem Sound.cancelOp (h : f.Sound) (answer : AbortAnswer) : (f.cancelOp answer).Sound := by
  unfold SegmentFetcher.cancelOp
  cases hquery : f.getRangeQuery with
  | none => exact h
  | some query =>
    refine ⟨?_, ?_, h.notified, ?_⟩
    · intro hpending
      obtain ⟨hdeferred, query', hquery', hlive⟩ := h.pending hpending
      obtain rfl := Option.some.inj (hquery.symm.trans hquery')
      exact ⟨hdeferred, _, rfl, hlive.abortRequest answer⟩
    · intro hdeferred
      exact ⟨(h.deferred hdeferred).1, _, rfl⟩
    · intro query' hquery'
      obtain rfl := Option.some.inj hquery'
      exact (h.answered query hquery).abortRequest answer

theorem Sound.notify (h : f.Sound) {available : Bool} {f' : SegmentFetcher Item E}
    (hf : f.notify available = some f') :
    f'.Sound ∧ f'.isDue = f.isDue ∧ f'.listViewport = f.listViewport := by
  unfold SegmentFetcher.notify at hf
  split at hf
  · rename_i cookie query hcookie hquery
    obtain rfl := Option.some.inj hf
    have hpending : f.pendingFetch = true := h.notified (by rw [hcookie]; exact nofun)
    obtain ⟨hdeferred, query', hquery', hlive⟩ := h.pending hpending
    obtain rfl := Option.some.inj (hquery.symm.trans hquery')
    rw [hcookie] at hlive
    refine ⟨⟨?_, ?_, fun hn => absurd rfl hn, ?_⟩, rfl, rfl⟩
    · intro _
      refine ⟨hdeferred, _, rfl, ?_⟩
      cases available with
      | true => exact hlive.notification (Or.inl rfl)
      | false => exact hlive.notification (Or.inr rfl)
    · intro hdeferred'
      exact absurd (hdeferred'.symm.trans hdeferred) nofun
    · intro query' hquery'
      obtain rfl := Option.some.inj hquery'
      have hanswered := h.answered query hquery
      cases available with
      | true => exact hanswered.notification cookie (Or.inl rfl)
      | false => exact hanswered.notification cookie (Or.inr rfl)
  · cases hf

theorem Sound.fetchAndNotify (h : f.Sound) {content : ListId → Nat → Item}
    {answer : Except E Unit} {f' : SegmentFetcher Item E}
    (hf : f.fetchAndNotify content answer = some f') :
    f'.Sound ∧ f'.isDue = f.isDue ∧ f'.listViewport = f.listViewport := by
  unfold SegmentFetcher.fetchAndNotify at hf
  split at hf
  · rename_i query hpending hcookie hquery
    obtain rfl := Option.some.inj hf
    obtain ⟨hdeferred, query', hquery', hlive⟩ := h.pending hpending
    obtain rfl := Option.some.inj (hquery.symm.trans hquery')
    rw [hcookie] at hlive
    have hresult := hlive.fetchUnlocked
      (answer.map fun _ => rows content query.listId query.loadingSegment)
    refine ⟨⟨nofun, fun _ => ⟨rfl, _, rfl⟩, ?_, ?_⟩, ?_, rfl⟩
    · intro hn
      exact absurd hcookie hn
    · intro query' hquery'
      obtain rfl := Option.some.inj hquery'
      exact (h.answered query hquery).fetchUnlocked _
    · simp [isDue, hpending, hresult]
  · cases hf

theorem Sound.take (h : f.Sound) {query : GetRangeCall Item E} {f' : SegmentFetcher Item E}
    (hf : f.take = some (query, f')) :
    f'.Sound ∧ f.isDue = true ∧ f'.isDue = false ∧ f'.listViewport = f.listViewport := by
  unfold SegmentFetcher.take at hf
  split_ifs at hf with hdeferred
  obtain ⟨query', -, hf⟩ := Option.map_eq_some_iff.mp hf
  obtain ⟨rfl, rfl⟩ := Prod.mk.inj hf
  have hpending := (h.deferred hdeferred).1
  refine ⟨⟨?_, nofun, h.notified, nofun⟩, ?_, ?_, rfl⟩
  · intro hp
    exact absurd (hp.symm.trans hpending) nofun
  · simp [isDue, hdeferred]
  · simp [isDue, hpending]

/-- A new fetcher is due exactly if its request has been accepted or answered. -/
theorem loadSegmentInBackground_prepare (content : ListId → Nat → Item) (vp : ViewportId)
    (listId : ListId) (missing : Segment) (answer : RequestAnswer Unit E) :
    ((prepare vp listId missing).loadSegmentInBackground content answer).2.Sound ∧
      ((prepare vp listId missing).loadSegmentInBackground content answer).2.listViewport =
        vp ∧
      (((prepare vp listId missing).loadSegmentInBackground content answer).2.isDue = true ↔
        ((prepare vp listId missing).loadSegmentInBackground content answer).1 = .started ∨
        ((prepare vp listId missing).loadSegmentInBackground content answer).1 =
          .succeeded) := by
  cases answer with
  | cookie cookie =>
    refine ⟨⟨fun _ => ⟨rfl, _, rfl, ?_⟩, nofun, fun _ => rfl, ?_⟩, rfl, ?_⟩
    · refine ⟨nofun, nofun, fun _ => ⟨_, rfl, cookie.2, Or.inl rfl⟩⟩
    · intro query hquery
      obtain rfl := Option.some.inj hquery
      intro hstate
      rcases hstate with hstate | hstate <;> cases hstate
    · exact ⟨fun _ => Or.inl rfl, fun _ => rfl⟩
  | fastPath u =>
    refine ⟨⟨nofun, fun _ => ⟨rfl, _, rfl⟩, fun hn => absurd rfl hn, ?_⟩, rfl, ?_⟩
    · intro query hquery
      obtain rfl := Option.some.inj hquery
      exact fun _ => rfl
    · exact ⟨fun _ => Or.inr rfl, fun _ => rfl⟩
  | unmanaged cookie e =>
    refine ⟨⟨nofun, nofun, fun hn => absurd rfl hn, nofun⟩, rfl, ?_⟩
    exact ⟨nofun, fun h => by rcases h with h | h <;> cases h⟩
  | fastPathThrows u =>
    refine ⟨⟨nofun, nofun, fun hn => absurd rfl hn, nofun⟩, rfl, ?_⟩
    exact ⟨nofun, fun h => by rcases h with h | h <;> cases h⟩
  | failed e =>
    refine ⟨⟨nofun, nofun, fun hn => absurd rfl hn, nofun⟩, rfl, ?_⟩
    exact ⟨nofun, fun h => by rcases h with h | h <;> cases h⟩

end SegmentFetcher

/-! ## The invariant -/

namespace DBusList

/-- What holds of the fetchers: the viewport of a fetch that is due has its entry,
unless it is exempt. -/
structure FetchInvariant (s : DBusList Item E) (exempt : ViewportId → Prop) : Prop where
  sound : ∀ f, (s.fetchers f).Sound
  entry : ∀ f, (s.fetchers f).isDue = true →
    exempt (s.fetchers f).listViewport ∨
      (s.viewportsAndFetchers (s.fetchers f).listViewport).isSome = true
  fresh : ∀ f, s.nextHint ≤ f → s.fetchers f = {}

/-- What is expected of the function passed with a hint. -/
structure HintSound (s : DBusList Item E) (h : FetcherId) : Prop where
  /-- The function of a hint that returned `STARTED`, or was answered at once, has been
  called once, or is still to be called. -/
  exactly_once : ∀ c, s.hintCalls h = some c → c.startedFetch = true →
    (s.hinted h).length + (s.fetchers h).isDue.toNat = 1
  started : ∀ c, s.hintCalls h = some c → c.result = .started → c.startedFetch = true
  answered : ∀ c, s.hintCalls h = some c → c.startedFetch = true →
    c.result = .started ∨ c.result = .succeeded
  /-- That of another hint has not been called and will not be called. -/
  never : ∀ c, s.hintCalls h = some c → c.startedFetch = false →
    s.hinted h = [] ∧ (s.fetchers h).isDue = false
  /-- No function is called before its hint has returned. -/
  after_return : s.hintCalls h = none → s.hinted h = [] ∧ (s.fetchers h).isDue = false

/-- What holds between two steps. -/
structure HintInvariant (s : DBusList Item E) : Prop where
  fetch : s.FetchInvariant fun _ => False
  hints : ∀ h, s.HintSound h
  fresh : ∀ h, s.nextHint ≤ h → s.hintCalls h = none

/-- What is known of a hint depends on its call and on the fetcher with its number. -/
theorem HintSound.congr {s s' : DBusList Item E} {k : FetcherId} (h : s.HintSound k)
    (hcalls : s'.hintCalls k = s.hintCalls k) (hhinted : s'.hinted k = s.hinted k)
    (hdue : (s'.fetchers k).isDue = (s.fetchers k).isDue) : s'.HintSound k := by
  constructor
  · rw [hcalls, hhinted, hdue]
    exact h.exactly_once
  · rw [hcalls]
    exact h.started
  · rw [hcalls]
    exact h.answered
  · rw [hcalls, hhinted, hdue]
    exact h.never
  · rw [hcalls, hhinted, hdue]
    exact h.after_return

/-- The function of a hint is called by the fetch that was due. -/
theorem HintSound.called {s s' : DBusList Item E} {k : FetcherId} (h : s.HintSound k)
    (hdue : (s.fetchers k).isDue = true) (hcalls : s'.hintCalls k = s.hintCalls k)
    {result : OpResult} (hhinted : s'.hinted k = s.hinted k ++ [result])
    (hdue' : (s'.fetchers k).isDue = false) :
    s'.HintSound k := by
  have honce : ∀ c, s.hintCalls k = some c → c.startedFetch = true ∧ s.hinted k = [] := by
    intro c hc
    cases hstart : c.startedFetch with
    | false =>
      have hnever := (h.never c hc hstart).2
      exact absurd (hdue.symm.trans hnever) nofun
    | true =>
      have hlength := h.exactly_once c hc hstart
      rw [hdue] at hlength
      exact ⟨rfl, List.length_eq_zero_iff.mp (Nat.succ.inj hlength)⟩
  constructor
  · intro c hc _
    rw [hcalls] at hc
    rw [hhinted, (honce c hc).2, hdue']
    rfl
  · rw [hcalls]
    exact h.started
  · rw [hcalls]
    exact h.answered
  · intro c hc hstart
    rw [hcalls] at hc
    exact absurd ((honce c hc).1.symm.trans hstart) nofun
  · intro hnone
    rw [hcalls] at hnone
    exact absurd (hdue.symm.trans (h.after_return hnone).2) nofun

/-- A hint has returned whose function has not been called. -/
theorem HintSound.returned {s' : DBusList Item E} {k : FetcherId} {c : HintCall}
    (hcalls : s'.hintCalls k = some c) (hhinted : s'.hinted k = [])
    (hdue : (s'.fetchers k).isDue = c.startedFetch)
    (hresult : c.startedFetch = true ↔ c.result = .started ∨ c.result = .succeeded) :
    s'.HintSound k := by
  constructor
  · intro c' hc hstart
    obtain rfl := Option.some.inj (hcalls.symm.trans hc)
    rw [hhinted, hdue, hstart]
    rfl
  · intro c' hc hstart
    obtain rfl := Option.some.inj (hcalls.symm.trans hc)
    exact hresult.mpr (Or.inl hstart)
  · intro c' hc hstart
    obtain rfl := Option.some.inj (hcalls.symm.trans hc)
    exact hresult.mp hstart
  · intro c' hc hstart
    obtain rfl := Option.some.inj (hcalls.symm.trans hc)
    exact ⟨hhinted, hdue.trans hstart⟩
  · intro hnone
    exact absurd (hcalls.symm.trans hnone) nofun

/-- The fetchers are as before, some of them cancelled. -/
structure SameFetchers (s s' : DBusList Item E) : Prop where
  nextHint : s'.nextHint = s.nextHint
  hintCalls : s'.hintCalls = s.hintCalls
  hinted : s'.hinted = s.hinted
  fetchers : ∀ f, s'.fetchers f = s.fetchers f ∨
    ∃ answer, s'.fetchers f = (s.fetchers f).cancelOp answer

namespace SameFetchers

variable {s s' : DBusList Item E}

theorem of_eq (hnext : s'.nextHint = s.nextHint) (hcalls : s'.hintCalls = s.hintCalls)
    (hhinted : s'.hinted = s.hinted) (hfetchers : s'.fetchers = s.fetchers) :
    SameFetchers s s' :=
  ⟨hnext, hcalls, hhinted, fun f => Or.inl (by rw [hfetchers])⟩

theorem isDue (h : SameFetchers s s') (f : FetcherId) :
    (s'.fetchers f).isDue = (s.fetchers f).isDue := by
  rcases h.fetchers f with hf | ⟨answer, hf⟩
  · rw [hf]
  · rw [hf, SegmentFetcher.cancelOp_isDue]

theorem listViewport (h : SameFetchers s s') (f : FetcherId) :
    (s'.fetchers f).listViewport = (s.fetchers f).listViewport := by
  rcases h.fetchers f with hf | ⟨answer, hf⟩
  · rw [hf]
  · rw [hf, SegmentFetcher.cancelOp_listViewport]

/-- The invariant of the fetchers depends on the entries that are left. -/
theorem fetchInvariant (h : SameFetchers s s') {exempt exempt' : ViewportId → Prop}
    (hs : s.FetchInvariant exempt)
    (hentry : ∀ vp, exempt vp ∨ (s.viewportsAndFetchers vp).isSome = true →
      exempt' vp ∨ (s'.viewportsAndFetchers vp).isSome = true) :
    s'.FetchInvariant exempt' := by
  constructor
  · intro f
    rcases h.fetchers f with hf | ⟨answer, hf⟩
    · rw [hf]
      exact hs.sound f
    · rw [hf]
      exact (hs.sound f).cancelOp answer
  · intro f hdue
    rw [h.isDue] at hdue
    rw [h.listViewport]
    exact hentry _ (hs.entry f hdue)
  · intro f hf
    rw [h.nextHint] at hf
    rcases h.fetchers f with hf' | ⟨answer, hf'⟩
    · rw [hf']
      exact hs.fresh f hf
    · rw [hf', hs.fresh f hf, SegmentFetcher.cancelOp_default]

theorem hintSound (h : SameFetchers s s') {k : FetcherId} (hs : s.HintSound k) :
    s'.HintSound k :=
  hs.congr (congrFun h.hintCalls k) (congrFun h.hinted k) (h.isDue k)

/-- A step that only cancels fetchers, and removes no entry that is needed. -/
theorem hintInvariant (h : SameFetchers s s') (hs : s.HintInvariant)
    (hentry : ∀ f, (s.fetchers f).isDue = true →
      (s.viewportsAndFetchers (s.fetchers f).listViewport).isSome = true →
      (s'.viewportsAndFetchers (s.fetchers f).listViewport).isSome = true) :
    s'.HintInvariant := by
  refine ⟨?_, fun k => h.hintSound (hs.hints k), ?_⟩
  · have hkept : s'.FetchInvariant fun _ => True :=
      h.fetchInvariant hs.fetch fun _ _ => Or.inl trivial
    refine ⟨hkept.sound, fun f hdue => Or.inr ?_, hkept.fresh⟩
    rw [h.isDue] at hdue
    rw [h.listViewport]
    exact hentry f hdue ((hs.fetch.entry f hdue).resolve_left id)
  · rw [h.nextHint, h.hintCalls]
    exact hs.fresh

end SameFetchers

theorem hintInvariant_init (cacheSizes : ViewportId → UInt32) :
    (init cacheSizes : DBusList Item E).HintInvariant where
  fetch :=
    { sound := fun _ => SegmentFetcher.sound_default
      entry := fun f hdue => by cases hdue
      fresh := fun _ _ => rfl }
  hints h :=
    { exactly_once := fun c hc => by cases hc
      started := fun c hc => by cases hc
      answered := fun c hc => by cases hc
      never := fun c hc => by cases hc
      after_return := fun _ => ⟨rfl, rfl⟩ }
  fresh _ _ := rfl

/-- Entering a list changes neither fetchers nor entries. -/
theorem hintInvariant_keptByEntering :
    KeptByEntering (HintInvariant : DBusList Item E → Prop) where
  data s _ h :=
    SameFetchers.hintInvariant (s := s) (.of_eq rfl rfl rfl rfl) h fun _ _ he => he
  entered s _ h :=
    SameFetchers.hintInvariant (s := s) (.of_eq rfl rfl rfl rfl) h fun _ _ he => he

/-! ## Steps that leave the fetches alone -/

section Kept

variable (s : DBusList Item E) (vp : ViewportId)

theorem announceViewport_sameFetchers (line : Nat) (answer : AbortAnswer) :
    SameFetchers s (s.announceViewport vp line answer).2 := by
  unfold announceViewport
  split
  · exact SameFetchers.of_eq rfl rfl rfl rfl
  · exact SameFetchers.of_eq rfl rfl rfl rfl
  · rename_i f _
    split_ifs
    · exact SameFetchers.of_eq rfl rfl rfl rfl
    · refine ⟨rfl, rfl, rfl, fun f' => ?_⟩
      by_cases hf : f' = f
      · right
        exact ⟨answer, by simp [setFetcher, setEntry, hf]⟩
      · left
        simp [setFetcher, setEntry, hf]

theorem announceViewport_entry (line : Nat) (answer : AbortAnswer) :
    ((s.announceViewport vp line answer).2.viewportsAndFetchers vp).isSome = true := by
  unfold announceViewport
  split
  · simp [setEntry]
  · rename_i h
    simp [h]
  · rename_i f h
    split_ifs
    · simp [h]
    · simp [setEntry]

theorem announceViewport_entries (line : Nat) (answer : AbortAnswer) {v : ViewportId}
    (h : (s.viewportsAndFetchers v).isSome = true) :
    ((s.announceViewport vp line answer).2.viewportsAndFetchers v).isSome = true := by
  by_cases hv : v = vp
  · rw [hv]
    exact s.announceViewport_entry vp line answer
  · unfold announceViewport
    split
    · simpa [setEntry, setViewport, hv] using h
    · exact h
    · split_ifs
      · exact h
      · simpa [setEntry, setFetcher, hv] using h

theorem cancelAndDetach_sameFetchers (answer : AbortAnswer) :
    SameFetchers s (s.cancelAndDetach vp answer) := by
  unfold cancelAndDetach
  split
  · rename_i f _
    refine ⟨rfl, rfl, rfl, fun f' => ?_⟩
    by_cases hf : f' = f
    · right
      exact ⟨answer, by simp [setFetcher, setEntry, detachViewport, hf]⟩
    · left
      simp [setFetcher, setEntry, detachViewport, hf]
  · exact SameFetchers.of_eq rfl rfl rfl rfl
  · exact SameFetchers.of_eq rfl rfl rfl rfl

theorem cancelAndDetach_entries (answer : AbortAnswer) {v : ViewportId} (hv : v ≠ vp)
    (h : (s.viewportsAndFetchers v).isSome = true) :
    ((s.cancelAndDetach vp answer).viewportsAndFetchers v).isSome = true := by
  unfold cancelAndDetach
  split <;> simpa [detachViewport, setEntry, setFetcher, hv] using h

theorem cancelFetchers_sameFetchers (answers : FetcherId → AbortAnswer) :
    SameFetchers s (s.cancelFetchers answers) := by
  refine ⟨rfl, rfl, rfl, fun f => ?_⟩
  unfold cancelFetchers
  dsimp only
  split_ifs
  · exact Or.inr ⟨answers f, rfl⟩
  · exact Or.inl rfl

end Kept

/-! ## Hints -/

/-- The hint passes the checks made before the viewport is announced. -/
def HintAccepted (s : DBusList Item E) (vp : ViewportId) (line count : Nat) : Prop :=
  s.listId.isValid = true ∧ s.enterListData.query = none ∧ line < s.numberOfItems ∧
    count ≠ 0 ∧ count ≤ (s.viewports vp).cacheSize.toNat

/-- A hint for a line its viewport is being filled with: it returns `STARTED`, and no
fetch is started for it. -/
def JoinsFetch (s : DBusList Item E) : DBusListEvent E → Prop
  | .getItemAsyncSetHint vp line count _ _ =>
      s.HintAccepted vp line.toNat count.toNat ∧
        s.isLineLoading vp line.toNat = (.loading, .loading)
  | _ => False

/-- The entry of a viewport is removed while a fetch for the viewport is due: by
`detach_viewport`, or by a hint that finds the fetch done, but not the line in it, and
then finds the view in the cache. -/
def DetachesDueViewport (s : DBusList Item E) : DBusListEvent E → Prop
  | .detachViewport vp =>
      ∃ f, (s.fetchers f).isDue = true ∧ (s.fetchers f).listViewport = vp
  | .getItemAsyncSetHint vp line count _ _ =>
      s.HintAccepted vp line.toNat count.toNat ∧
        (s.isLineLoading vp line.toNat).1 = .loading ∧
        (s.isLineLoading vp line.toNat).2 ≠ .loading ∧
        (s.isLineLoading vp line.toNat).2 ≠ .done ∧
        ((s.viewports vp).setView line.toNat count.toNat s.numberOfItems).1 = .cached
  | _ => False

section Hints

variable {s s₁ : DBusList Item E} {vp : ViewportId}

/-- The state after a hint. -/
def recorded (s s₁ : DBusList Item E) (c : HintCall) : DBusList Item E :=
  { s₁ with
    nextHint := s.nextHint + 1
    hintCalls := Function.update s.hintCalls s.nextHint (some c) }

theorem recorded_hintSound_of_ne (hs : s.HintInvariant) {c : HintCall} {k : FetcherId}
    (hk : k ≠ s.nextHint) (hhinted : s₁.hinted = s.hinted)
    (hdue : (s₁.fetchers k).isDue = (s.fetchers k).isDue) : (recorded s s₁ c).HintSound k := by
  have hcalls : (recorded s s₁ c).hintCalls k = s.hintCalls k :=
    Function.update_of_ne hk _ _
  exact (hs.hints k).congr hcalls (congrFun hhinted k) hdue

theorem recorded_hintCalls_fresh (hs : s.HintInvariant) (c : HintCall) (k : FetcherId)
    (hk : s.nextHint + 1 ≤ k) : (recorded s s₁ c).hintCalls k = none := by
  have hne : k ≠ s.nextHint := Nat.ne_of_gt hk
  exact (Function.update_of_ne hne _ _).trans (hs.fresh k (Nat.le_of_succ_le hk))

/-- The number of the next hint has not been used. -/
theorem nextHint_unused (hs : s.HintInvariant) :
    s.hinted s.nextHint = [] ∧ (s.fetchers s.nextHint).isDue = false :=
  (hs.hints s.nextHint).after_return (hs.fresh s.nextHint (Nat.le_refl _))

/-- A hint that starts no fetch. -/
theorem hintInvariant_of_noFetch (hs : s.HintInvariant) (h : SameFetchers s s₁)
    (hentry : ∀ v, (s.viewportsAndFetchers v).isSome = true →
      (s₁.viewportsAndFetchers v).isSome = true)
    {c : HintCall} (hfetch : c.startedFetch = false) (hresult : c.result ≠ .started) :
    (recorded s s₁ c).HintInvariant := by
  obtain ⟨hunused, hnotDue⟩ := nextHint_unused hs
  have hkept : s₁.FetchInvariant fun _ => False :=
    h.fetchInvariant hs.fetch fun v hv => Or.inr (hentry v (hv.resolve_left id))
  refine ⟨⟨hkept.sound, hkept.entry, ?_⟩, ?_, recorded_hintCalls_fresh hs c⟩
  · intro f hf
    apply hkept.fresh f
    rw [h.nextHint]
    exact Nat.le_of_succ_le hf
  · intro k
    by_cases hk : k = s.nextHint
    · have hcalls : (recorded s s₁ c).hintCalls k = some c := by
        rw [hk]
        exact Function.update_self _ _ _
      have hh : (recorded s s₁ c).hinted k = [] := by
        rw [hk]
        exact (congrFun h.hinted _).trans hunused
      have hd : ((recorded s s₁ c).fetchers k).isDue = false := by
        rw [hk]
        exact (h.isDue _).trans hnotDue
      constructor
      · intro c' hc' hstarted
        obtain rfl := Option.some.inj (hcalls.symm.trans hc')
        exact absurd (hfetch.symm.trans hstarted) nofun
      · intro c' hc' hstarted
        obtain rfl := Option.some.inj (hcalls.symm.trans hc')
        exact absurd hstarted hresult
      · intro c' hc' hstarted
        obtain rfl := Option.some.inj (hcalls.symm.trans hc')
        exact absurd (hfetch.symm.trans hstarted) nofun
      · exact fun _ _ _ => ⟨hh, hd⟩
      · exact fun _ => ⟨hh, hd⟩
    · exact recorded_hintSound_of_ne hs hk h.hinted (h.isDue k)

/-- A hint that starts a fetch, or tries to. -/
theorem hintInvariant_of_fetch (hs : s.HintInvariant) (h : SameFetchers s s₁)
    (hentry : ∀ v, v ≠ vp → (s.viewportsAndFetchers v).isSome = true →
      (s₁.viewportsAndFetchers v).isSome = true)
    (content : ListId → Nat → Item) (answer : RequestAnswer Unit E) :
    (recorded s (s₁.startFetcher content vp answer).2
      (s₁.startFetcher content vp answer).1).HintInvariant := by
  obtain ⟨hunused, hnotDue⟩ := nextHint_unused hs
  obtain ⟨hsound, hvp, hdue⟩ :=
    SegmentFetcher.loadSegmentInBackground_prepare (E := E) content vp s₁.listId
      (s₁.viewports vp).getMissingSegment answer
  let r := s₁.startFetcher content vp answer
  have hself : r.2.fetchers s.nextHint =
      ((SegmentFetcher.prepare vp s₁.listId
        (s₁.viewports vp).getMissingSegment).loadSegmentInBackground content answer).2 := by
    simp [r, startFetcher, setEntry, setFetcher, h.nextHint]
  have hother : ∀ f, f ≠ s.nextHint → r.2.fetchers f = s₁.fetchers f := by
    intro f hf
    simp [r, startFetcher, setEntry, setFetcher, h.nextHint, hf]
  have hentryVp : (r.2.viewportsAndFetchers vp).isSome = true := by
    simp [r, startFetcher, setEntry]
  have hentryOther : ∀ v, v ≠ vp → r.2.viewportsAndFetchers v = s₁.viewportsAndFetchers v := by
    intro v hv
    simp [r, startFetcher, setEntry, setFetcher, hv]
  have hstarted : r.1.startedFetch = (r.2.fetchers s.nextHint).isDue := by
    rw [hself, Bool.eq_iff_iff, hdue]
    exact decide_eq_true_iff
  have hresult : r.1.startedFetch = true ↔ r.1.result = .started ∨ r.1.result = .succeeded :=
    decide_eq_true_iff
  have hkept : s₁.FetchInvariant fun v => v = vp := by
    refine h.fetchInvariant hs.fetch fun v hv => ?_
    by_cases hv' : v = vp
    · exact Or.inl hv'
    · exact Or.inr (hentry v hv' (hv.resolve_left id))
  refine ⟨⟨?_, ?_, ?_⟩, ?_, recorded_hintCalls_fresh hs _⟩
  · intro f
    by_cases hf : f = s.nextHint
    · rw [hf]
      exact hself ▸ hsound
    · exact (hother f hf).symm ▸ hkept.sound f
  · intro f hf
    right
    change (r.2.viewportsAndFetchers (r.2.fetchers f).listViewport).isSome = true
    by_cases hnew : f = s.nextHint
    · rw [hnew, hself, hvp]
      exact hentryVp
    · change (r.2.fetchers f).isDue = true at hf
      rw [hother f hnew] at hf ⊢
      by_cases hv : (s₁.fetchers f).listViewport = vp
      · rw [hv]
        exact hentryVp
      · rw [hentryOther _ hv]
        exact (hkept.entry f hf).resolve_left hv
  · intro f hf
    have hne : f ≠ s.nextHint := Nat.ne_of_gt hf
    refine (hother f hne).trans (hkept.fresh f ?_)
    rw [h.nextHint]
    exact Nat.le_of_succ_le hf
  · intro k
    by_cases hk : k = s.nextHint
    · have hcalls : (recorded s r.2 r.1).hintCalls k = some r.1 := by
        rw [hk]
        exact Function.update_self _ _ _
      have hh : (recorded s r.2 r.1).hinted k = [] := by
        rw [hk]
        exact (congrFun h.hinted _).trans hunused
      have hd : ((recorded s r.2 r.1).fetchers k).isDue = r.1.startedFetch := by
        rw [hk]
        exact hstarted.symm
      exact .returned hcalls hh hd hresult
    · refine recorded_hintSound_of_ne hs hk h.hinted ?_
      rw [hother k hk]
      exact h.isDue k

/-- `set_view` reports no segment as loading. -/
theorem computeOverlap_cases (v : Viewport Item) (segment : Segment) :
    v.computeOverlap segment = .empty ∨ v.computeOverlap segment = .cached ∨
      v.computeOverlap segment = .cachedTopEmptyBottom ∨
      v.computeOverlap segment = .cachedBottomEmptyTop ∨
      v.computeOverlap segment = .cachedCenter := by
  unfold Viewport.computeOverlap
  dsimp only
  split_ifs
  · simp
  · split <;> simp

/-- The end of a hint: it starts a fetch unless the view is in the cache. -/
theorem setViewAndFetch_invariant (hs : s.HintInvariant) (h : SameFetchers s s₁)
    (hentry : ∀ v, v ≠ vp → (s.viewportsAndFetchers v).isSome = true →
      (s₁.viewportsAndFetchers v).isSome = true)
    (content : ListId → Nat → Item) (line count : Nat) (answer : RequestAnswer Unit E)
    (hcached : ((s₁.viewports vp).setView line count s₁.numberOfItems).1 = .cached →
      (s.viewportsAndFetchers vp).isSome = true →
      (s₁.viewportsAndFetchers vp).isSome = true) :
    (recorded s (s₁.setViewAndFetch content vp line count answer).2
      (s₁.setViewAndFetch content vp line count answer).1).HintInvariant := by
  let v := ((s₁.viewports vp).setView line count s₁.numberOfItems).2
  have hfetchers : SameFetchers s (s₁.setViewport vp v) :=
    ⟨h.nextHint, h.hintCalls, h.hinted, h.fetchers⟩
  have hfetch : (recorded s ((s₁.setViewport vp v).startFetcher content vp answer).2
      ((s₁.setViewport vp v).startFetcher content vp answer).1).HintInvariant :=
    hintInvariant_of_fetch hs hfetchers hentry content answer
  have hstate := computeOverlap_cases (s₁.viewports vp)
    (Viewport.clippedView line count s₁.numberOfItems)
  unfold setViewAndFetch
  dsimp only
  rcases hstate with hstate | hstate | hstate | hstate | hstate
  · simp only [Viewport.setView, hstate]
    exact hfetch
  · simp only [Viewport.setView, hstate]
    refine hintInvariant_of_noFetch hs hfetchers ?_ rfl nofun
    intro w hw
    by_cases hvp : w = vp
    · rw [hvp] at hw ⊢
      exact hcached hstate hw
    · exact hentry w hvp hw
  · simp only [Viewport.setView, hstate]
    exact hfetch
  · simp only [Viewport.setView, hstate]
    exact hfetch
  · simp only [Viewport.setView, hstate]
    exact hfetch

theorem announceViewport_of_fillerUpToDate {line : Nat} {answer : AbortAnswer}
    (h : s.announceViewport vp line answer = (.fillerUpToDate, s₁)) : s₁ = s := by
  unfold announceViewport at h
  split at h
  · cases h
  · cases h
  · split_ifs at h
    · exact (Prod.mk.inj h).2.symm
    · cases h

theorem cancelAndDetach_viewports (answer : AbortAnswer) :
    (s.cancelAndDetach vp answer).viewports = s.viewports := by
  unfold cancelAndDetach
  split <;> rfl

/-- A hint, unless it joins a fetch or leaves a fetch without the entry it needs. -/
theorem getItemAsyncSetHint_invariant (hs : s.HintInvariant) (content : ListId → Nat → Item)
    {line count : UInt32} {request : RequestAnswer Unit E} {abort : AbortAnswer}
    (hjoin : ¬s.JoinsFetch (.getItemAsyncSetHint vp line count request abort))
    (hdetach : ¬s.DetachesDueViewport (.getItemAsyncSetHint vp line count request abort)) :
    (recorded s
      (s.getItemAsyncSetHint content vp line.toNat count.toNat request abort).2
      (s.getItemAsyncSetHint content vp line.toNat count.toNat request abort).1).HintInvariant := by
  have hself : ∀ c : HintCall, c.startedFetch = false → c.result ≠ .started →
      (recorded s s c).HintInvariant := fun c hc hr =>
    hintInvariant_of_noFetch hs (.of_eq rfl rfl rfl rfl) (fun _ h => h) hc hr
  unfold getItemAsyncSetHint
  split_ifs with hvalid hquery hline hcount
  · exact hself _ rfl nofun
  · exact hself _ rfl nofun
  · exact hself _ rfl nofun
  · exact hself _ rfl nofun
  have haccepted : s.HintAccepted vp line.toNat count.toNat := by
    refine ⟨by simpa using hvalid, ?_, Nat.lt_of_not_le hline, ?_, ?_⟩
    · simpa using hquery
    · exact fun h => hcount (Or.inl h)
    · exact Nat.le_of_not_lt fun h => hcount (Or.inr h)
  split
  · rename_i s₁ hannounce
    obtain rfl := announceViewport_of_fillerUpToDate hannounce
    have hfetch : (recorded s₁
        (s₁.setViewAndFetch content vp line.toNat count.toNat request).2
        (s₁.setViewAndFetch content vp line.toNat count.toNat request).1).HintInvariant :=
      setViewAndFetch_invariant hs (.of_eq rfl rfl rfl rfl) (fun _ _ h => h) content _ _ _
        (fun _ h => h)
    have hrestart : (s₁.isLineLoading vp line.toNat).1 = .loading →
        (s₁.isLineLoading vp line.toNat).2 ≠ .loading →
        (s₁.isLineLoading vp line.toNat).2 ≠ .done →
        (recorded s₁
          ((s₁.cancelAndDetach vp abort).setViewAndFetch content vp line.toNat count.toNat
            request).2
          ((s₁.cancelAndDetach vp abort).setViewAndFetch content vp line.toNat count.toNat
            request).1).HintInvariant := by
      intro hloading hnotLoading hnotDone
      refine setViewAndFetch_invariant hs (s₁.cancelAndDetach_sameFetchers vp abort)
        (fun v hv h => s₁.cancelAndDetach_entries vp abort hv h) content _ _ _ ?_
      intro hcached _
      rw [cancelAndDetach_viewports, (s₁.cancelAndDetach_sameList vp abort).numberOfItems]
        at hcached
      exact absurd ⟨haccepted, hloading, hnotLoading, hnotDone, hcached⟩ hdetach
    split
    · exact hfetch
    · exact hfetch
    · rename_i hloading
      exact absurd ⟨haccepted, hloading⟩ hjoin
    · exact hself _ rfl nofun
    · rename_i hloading
      exact hrestart (by rw [hloading]) (by rw [hloading]; exact nofun)
        (by rw [hloading]; exact nofun)
    · rename_i hloading
      exact hrestart (by rw [hloading]) (by rw [hloading]; exact nofun)
        (by rw [hloading]; exact nofun)
    · rename_i hloading
      exact hrestart (by rw [hloading]) (by rw [hloading]; exact nofun)
        (by rw [hloading]; exact nofun)
    · exact hself _ rfl nofun
    · exact hself _ rfl nofun
  all_goals
    rename_i s₁ hannounce
    have hsame := s.announceViewport_sameFetchers vp line.toNat abort
    rw [hannounce] at hsame
    have hentries : ∀ v, (s.viewportsAndFetchers v).isSome = true →
        (s₁.viewportsAndFetchers v).isSome = true := by
      intro v hv
      have hv' := s.announceViewport_entries vp line.toNat abort hv
      rwa [hannounce] at hv'
    exact setViewAndFetch_invariant hs hsame (fun v _ h => hentries v h) content _ _ _
      (fun _ h => hentries vp h)

end Hints

/-! ## Completions -/

section Completions

variable {s s' : DBusList Item E} {f : FetcherId}

/-- A change to one fetcher by the cookie manager. -/
theorem updateFetcher_invariant (hs : s.HintInvariant)
    {update : SegmentFetcher Item E → Option (SegmentFetcher Item E)}
    (hupdate : ∀ x x', update x = some x' → x.Sound →
      x'.Sound ∧ x'.isDue = x.isDue ∧ x'.listViewport = x.listViewport)
    (hnew : update {} = none) (h : s.updateFetcher f update = some s') : s'.HintInvariant := by
  obtain ⟨x', hx', rfl⟩ := Option.map_eq_some_iff.mp h
  obtain ⟨hsound, hdue, hvp⟩ := hupdate _ _ hx' (hs.fetch.sound f)
  have hself : (s.setFetcher f x').fetchers f = x' := Function.update_self _ _ _
  have hother : ∀ j, j ≠ f → (s.setFetcher f x').fetchers j = s.fetchers j :=
    fun j hj => Function.update_of_ne hj _ _
  have hdueAll : ∀ j, ((s.setFetcher f x').fetchers j).isDue = (s.fetchers j).isDue := by
    intro j
    by_cases hj : j = f
    · rw [hj, hself, hdue]
    · rw [hother j hj]
  refine ⟨⟨?_, ?_, ?_⟩, ?_, hs.fresh⟩
  · intro j
    by_cases hj : j = f
    · rw [hj, hself]
      exact hsound
    · rw [hother j hj]
      exact hs.fetch.sound j
  · intro j hj
    rw [hdueAll] at hj
    have hentry := hs.fetch.entry j hj
    by_cases hjf : j = f
    · rw [hjf] at hentry ⊢
      rw [hself, hvp]
      exact hentry
    · rw [hother j hjf]
      exact hentry
  · intro j hj
    have hne : j ≠ f := by
      rintro rfl
      rw [hs.fetch.fresh j hj, hnew] at hx'
      cases hx'
    rw [hother j hne]
    exact hs.fetch.fresh j hj
  · intro k
    exact (hs.hints k).congr rfl rfl (hdueAll k)

/-- What the deferred function of a fetcher does to the fetches: it empties its fetcher
and calls the function of the hint, once. -/
theorem rangeDone_cases (h : s.getItemResultAvailableNotification f = some s') :
    ∃ query x result, (s.fetchers f).take = some (query, x) ∧
      s'.fetchers = Function.update s.fetchers f x ∧
      s'.hinted = Function.update s.hinted f (s.hinted f ++ [result]) ∧
      s'.hintCalls = s.hintCalls ∧ s'.nextHint = s.nextHint ∧
      ∀ v, (s.viewportsAndFetchers v).isSome = true →
        (s'.viewportsAndFetchers v).isSome = true := by
  unfold getItemResultAvailableNotification at h
  cases htake : (s.fetchers f).take with
  | none => simp [htake] at h
  | some taken =>
    obtain ⟨query, x⟩ := taken
    simp only [htake] at h
    have hkept : ∀ v w, (s.viewportsAndFetchers w).isSome = true →
        (Function.update s.viewportsAndFetchers v (some none) w).isSome = true := by
      intro v w hw
      by_cases hv : w = v
      · rw [hv, Function.update_self]
        rfl
      · rw [Function.update_of_ne hv]
        exact hw
    split at h
    · cases h
    · split_ifs at h
      · obtain rfl := Option.some.inj h
        exact ⟨query, x, _, rfl, rfl, rfl, rfl, rfl, fun _ hv => hv⟩
      · split at h
        · cases h
        · split at h
          · cases h
          · obtain rfl := Option.some.inj h
            exact ⟨query, x, _, rfl, rfl, rfl, rfl, rfl, hkept _⟩
        all_goals
          obtain rfl := Option.some.inj h
          exact ⟨query, x, _, rfl, rfl, rfl, rfl, rfl, hkept _⟩

/-- The function of a hint is called when its fetch is done. -/
theorem rangeDone_invariant (hs : s.HintInvariant)
    (h : s.getItemResultAvailableNotification f = some s') : s'.HintInvariant := by
  obtain ⟨query, x, result, htake, hfetchers, hhinted, hcalls, hnext, hentries⟩ :=
    rangeDone_cases h
  obtain ⟨hsound, hdue, hdue', hvp⟩ := (hs.fetch.sound f).take htake
  have hself : s'.fetchers f = x := by
    rw [hfetchers]
    exact Function.update_self _ _ _
  have hother : ∀ j, j ≠ f → s'.fetchers j = s.fetchers j := by
    intro j hj
    rw [hfetchers]
    exact Function.update_of_ne hj _ _
  refine ⟨⟨?_, ?_, ?_⟩, ?_, by rw [hnext, hcalls]; exact hs.fresh⟩
  · intro j
    by_cases hj : j = f
    · rw [hj, hself]
      exact hsound
    · rw [hother j hj]
      exact hs.fetch.sound j
  · intro j hj
    have hne : j ≠ f := by
      intro he
      rw [he, hself, hdue'] at hj
      cases hj
    rw [hother j hne] at hj ⊢
    exact Or.inr (hentries _ ((hs.fetch.entry j hj).resolve_left id))
  · intro j hj
    rw [hnext] at hj
    have hne : j ≠ f := by
      intro he
      have hdefault := hs.fetch.fresh j hj
      rw [he] at hdefault
      rw [hdefault] at hdue
      cases hdue
    rw [hother j hne]
    exact hs.fetch.fresh j hj
  · intro k
    have hk := hs.hints k
    by_cases hkf : k = f
    · rw [hkf] at hk ⊢
      exact hk.called hdue (congrFun hcalls f) (by rw [hhinted, Function.update_self])
        (hself ▸ hdue')
    · have hh : s'.hinted k = s.hinted k := by
        rw [hhinted]
        exact Function.update_of_ne hkf _ _
      exact hk.congr (congrFun hcalls k) hh (by rw [hother k hkf])

end Completions

/-! ## Steps -/

/-- What is expected of every step. -/
structure HintStepSound (content : ListId → Nat → Item) (s : DBusList Item E)
    (e : DBusListEvent E) : Prop where
  /-- Where a completion is handled, the entry of its viewport is there, and the result
  can be read. -/
  entry_there : ∀ f, e = .rangeDone f → (s.fetchers f).isDoneNotificationDeferred = true →
    (s.viewportsAndFetchers (s.fetchers f).listViewport).isSome = true
  result_there : ∀ f query, e = .rangeDone f → (s.fetchers f).getRangeQuery = some query →
    query.call.getResultUnlocked.isSome = true
  /-- The functions passed with the hints are called as they should be. -/
  hints : ∀ s', s.step content e = some s' → ∀ h, s'.HintSound h

/-- No hint joins a fetch, and no fetch is left without the entry it needs. -/
def KeepsFetches (s : DBusList Item E) (e : DBusListEvent E) : Prop :=
  ¬s.JoinsFetch e ∧ ¬s.DetachesDueViewport e

section Steps

variable {content : ListId → Nat → Item} {s s' : DBusList Item E} {e : DBusListEvent E}

theorem listInvalidate_invariant (hs : s.HintInvariant) (listId replacementId : ListId)
    (answers : FetcherId → AbortAnswer) :
    (s.listInvalidate listId replacementId answers).HintInvariant := by
  have hcancel : ∀ t : DBusList Item E, t.HintInvariant →
      (t.cancelFetchers answers).HintInvariant := fun t ht =>
    (t.cancelFetchers_sameFetchers answers).hintInvariant ht fun _ _ he => he
  unfold listInvalidate
  dsimp only
  apply hintInvariant_keptByEntering.data
  split_ifs
  · exact hcancel _
      (SameFetchers.hintInvariant (s := s) (.of_eq rfl rfl rfl rfl) hs fun _ _ he => he)
  · exact SameFetchers.hintInvariant (s := s) (.of_eq rfl rfl rfl rfl) hs fun _ _ he => he
  · exact hs

theorem getItemAsync_invariant (hs : s.HintInvariant) (vp : ViewportId) (line : Nat)
    (abort : AbortAnswer) : (s.getItemAsync vp line abort).2.HintInvariant := by
  have hannounce : (s.announceViewport vp line abort).2.HintInvariant :=
    (s.announceViewport_sameFetchers vp line abort).hintInvariant hs
      fun _ _ he => s.announceViewport_entries vp line abort he
  unfold getItemAsync
  split_ifs
  · exact hs
  · exact hs
  · exact hs
  · dsimp only
    split_ifs
    · exact hannounce
    · split <;> exact hannounce

theorem getItem_invariant (hs : s.HintInvariant) {vp : ViewportId} {line : Nat}
    {answer : Except E Unit} {r : Option Item × DBusList Item E}
    (h : s.getItem content vp line answer = some r) : r.2.HintInvariant := by
  have hadd : ∀ t : DBusList Item E, SameFetchers s t →
      t.viewportsAndFetchers = (s.addReferrer vp).viewportsAndFetchers →
      t.HintInvariant := by
    intro t ht hentries
    refine ht.hintInvariant hs fun f _ he => ?_
    rw [hentries]
    unfold addReferrer
    split_ifs
    · exact he
    · by_cases hv : (s.fetchers f).listViewport = vp
      · simp [setEntry, hv]
      · simpa [setEntry, hv] using he
  have hsame : SameFetchers s (s.addReferrer vp) := by
    unfold addReferrer
    split_ifs <;> exact SameFetchers.of_eq rfl rfl rfl rfl
  have hset : ∀ v, ((s.addReferrer vp).setViewport vp v).HintInvariant := fun v =>
    hadd _ ⟨hsame.nextHint, hsame.hintCalls, hsame.hinted, hsame.fetchers⟩ rfl
  unfold getItem at h
  dsimp only at h
  split_ifs at h
  · exact Option.some.inj h ▸ hadd _ hsame rfl
  · split at h
    · exact Option.some.inj h ▸ hadd _ hsame rfl
    · split at h
      · exact Option.some.inj h ▸ hset _
      · split at h
        · cases h
        · exact Option.some.inj h ▸ hset _

/-- One step keeps the invariant. -/
theorem hintInvariant_step (hs : s.HintInvariant) (hkeeps : s.KeepsFetches e)
    (hstep : s.step content e = some s') : s'.HintInvariant := by
  cases e with
  | enterListAsync vp listId line =>
    exact enterListAsync_preserves hintInvariant_keptByEntering hstep hs
  | checkRangeReady k answer =>
    exact checkRangeReady_preserves hintInvariant_keptByEntering hstep hs
  | listInvalidate listId replacementId answers =>
    exact Option.some.inj hstep ▸ listInvalidate_invariant hs listId replacementId answers
  | cancelAllAsyncCalls answers =>
    obtain ⟨t, ht, rfl⟩ := Option.map_eq_some_iff.mp hstep
    have ht' := cancelEnterListQuery_preserves hintInvariant_keptByEntering ht hs
    exact (t.cancelFetchers_sameFetchers answers).hintInvariant ht' fun _ _ he => he
  | getItemAsyncSetHint vp line count request abort =>
    have h := getItemAsyncSetHint_invariant hs content hkeeps.1 hkeeps.2
    rw [← Option.some.inj hstep]
    exact h
  | getItemAsync vp line abort =>
    exact Option.some.inj hstep ▸ getItemAsync_invariant hs vp line.toNat abort
  | getItem vp line answer =>
    obtain ⟨r, hr, rfl⟩ := Option.map_eq_some_iff.mp hstep
    exact getItem_invariant hs hr
  | detachViewport vp =>
    obtain rfl := Option.some.inj hstep
    refine SameFetchers.hintInvariant (s := s) (.of_eq rfl rfl rfl rfl) hs ?_
    intro f hdue he
    have hne : (s.fetchers f).listViewport ≠ vp := fun hvp => hkeeps.2 ⟨f, hdue, hvp⟩
    simpa [detachViewport, setEntry, hne] using he
  | rangeNotified f available =>
    exact updateFetcher_invariant hs (fun x x' hx hsound => hsound.notify hx) rfl hstep
  | rangeFetched f answer =>
    exact updateFetcher_invariant hs (fun x x' hx hsound => hsound.fetchAndNotify hx) rfl
      hstep
  | rangeDone f => exact rangeDone_invariant hs hstep

theorem hintStepSound (hs : s.HintInvariant) (hkeeps : s.KeepsFetches e) :
    s.HintStepSound content e := by
  constructor
  · intro f _ hdeferred
    have hdue : (s.fetchers f).isDue = true := by simp [SegmentFetcher.isDue, hdeferred]
    exact (hs.fetch.entry f hdue).resolve_left id
  · intro f query _ hquery
    exact ((hs.fetch.sound f).answered query hquery).getResultUnlocked
  · intro s' hstep h
    exact (hintInvariant_step hs hkeeps hstep).hints h

end Steps

/-! ## All runs -/

/-- In a run in which no hint joins a fetch and no fetch is left without the entry it
needs, every completion finds the entry of its viewport, and the function passed with
a hint is called exactly once, after the hint has returned, if the hint has started a
fetch, and never if it has not. -/
theorem hint_run_sound (content : ListId → Nat → Item) (cacheSizes : ViewportId → UInt32)
    (events : List (DBusListEvent E))
    (hkeeps : AlongRun (step content) KeepsFetches (init cacheSizes) events) :
    AlongRun (step content) (HintStepSound content) (init cacheSizes) events :=
  AlongRun.imp (fun _ _ _ hs hk hstep => hintInvariant_step hs hk hstep)
    (fun _ _ hs hk => hintStepSound hs hk) events (hintInvariant_init cacheSizes) hkeeps

/-- The events that enter list 1 with ten items and fetch five of them at once. -/
def fastPathEvents : List (DBusListEvent Unit) :=
  [.enterListAsync none ⟨1⟩ 0, .checkRangeReady 0 (.ok 10),
    .getItemAsyncSetHint 0 0 5 (.fastPath ()) .success, .rangeDone 0]

theorem hint_run_sound_fastPath :
    AlongRun (step fun _ line => line) (HintStepSound fun _ line => line)
      (init fun _ => 8) fastPathEvents := by
  apply hint_run_sound
  refine ⟨⟨id, id⟩, ?_⟩
  intro s₁ h₁
  obtain rfl := Option.some.inj h₁
  refine ⟨⟨id, id⟩, ?_⟩
  intro s₂ h₂
  obtain rfl := Option.some.inj h₂
  refine ⟨⟨?_, ?_⟩, ?_⟩
  · intro hjoin
    exact absurd hjoin.2 nofun
  · intro hdetach
    exact absurd hdetach.2.1 nofun
  · intro s₃ h₃
    obtain rfl := Option.some.inj h₃
    exact ⟨⟨id, id⟩, fun _ _ => trivial⟩

/-- A hint answered at once returns `SUCCEEDED`, and its function is called later. -/
theorem function_called_after_success :
    ∃ s, runFrom (step fun _ line => line) (init fun _ => 8) fastPathEvents = some s ∧
      (s.hintCalls 0).map HintCall.result = some .succeeded ∧ s.hinted 0 = [.succeeded] :=
  ⟨_, rfl, rfl, rfl⟩

end DBusList

end Drcpd.Lists

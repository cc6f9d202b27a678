/-
  Rnf/CookieCallRuns.lean --- which calls are told about their cookies.

  A cookie goes from the list broker through a signal, the D-Bus thread, an event and the main
  thread.  As long as the list broker mixes no two calls up, each call that waits is going to be
  notified, and each call is told once that it may be fetched.
-/
import Drcpd.Rnf.CookieCallSteps

set_option autoImplicit false

namespace Drcpd.Rnf

open Drcpd.Browser
open Drcpd.Foundation

variable {R E : Type}

namespace CookieCalls

variable {s s' : CookieCalls R E}

/-- The invariant, with the cookies where they are. -/
abbrev Sound (s : CookieCalls R E) : Prop := s.Inv s.unannounced s.announced

/-! ## The way of a cookie -/

/-- The cookies of a signal leave the list broker. -/
theorem answered_perm {outstanding cookies : List UInt32} (hout : outstanding.Nodup)
    (hnodup : cookies.Nodup) (hsub : ∀ cookie ∈ cookies, cookie ∈ outstanding) :
    (outstanding.filter (fun cookie => cookie ∉ cookies) ++ cookies).Perm outstanding := by
  have hfilter : (outstanding.filter fun cookie => cookie ∉ cookies).Nodup := hout.filter _
  refine (List.perm_ext_iff_of_nodup ?_ hout).mpr fun cookie => ?_
  · refine List.nodup_append.mpr ⟨hfilter, hnodup, fun cookie hmem other hother heq => ?_⟩
    rw [List.mem_filter, decide_eq_true_iff] at hmem
    exact hmem.2 (heq ▸ hother)
  · rw [List.mem_append, List.mem_filter, decide_eq_true_iff]
    constructor
    · rintro (⟨hmem, -⟩ | hmem)
      · exact hmem
      · exact hsub cookie hmem
    · intro hmem
      by_cases hin : cookie ∈ cookies
      · exact Or.inr hin
      · exact Or.inl ⟨hmem, hin⟩

theorem Sound.answer (h : s.Sound) {signal : Signal} (hstep : s.answer signal = some s') :
    s'.Sound := by
  obtain ⟨⟨hnodup, hsub⟩, hstep⟩ := Option.ite_none_right_eq_some.mp hstep
  cases hstep
  have hout : s.outstanding.Nodup := by
    have hall := h.nodup
    unfold unannounced at hall
    rw [List.append_assoc] at hall
    exact (List.nodup_append.mp hall).1
  have hperm := answered_perm hout hnodup fun cookie hmem =>
    of_decide_eq_true (List.all_eq_true.mp hsub cookie hmem)
  refine Inv.move h ?_ (List.Perm.refl _) (Or.inl rfl) rfl
  refine List.perm_iff_count.mpr fun cookie => ?_
  have hcount := hperm.count_eq cookie
  simp only [unannounced, underway, List.flatMap_append, List.flatMap_singleton,
    List.count_append] at hcount ⊢
  rw [← hcount]
  unfold cookiesOf
  omega

theorem Sound.receive (h : s.Sound) (hstep : s.receive = some s') : s'.Sound := by
  unfold CookieCalls.receive at hstep
  split at hstep
  case h_1 signal channel hthread hchannel =>
    cases hstep
    refine Inv.move h ?_ ?_ (Or.inr ⟨?_, rfl⟩) rfl
    · refine List.perm_iff_count.mpr fun cookie => ?_
      simp only [unannounced, underway, hthread, hchannel, List.flatMap_cons, List.count_append,
        Option.map_some, Option.map_none, Option.getD_some, Option.getD_none, List.count_nil]
      omega
    · unfold announced dbusDone
      rw [hthread]
      exact List.Perm.refl _
    · unfold dbusTaken
      rw [hthread]
      rfl
  all_goals cases hstep

theorem Sound.announce (h : s.Sound) (hstep : s.announce = some s') : s'.Sound := by
  unfold CookieCalls.announce at hstep
  split at hstep
  case h_1 done cookie failed rest hthread =>
    cases hstep
    have hperm : s.unannounced.Perm (cookie ::
        (s.outstanding ++ (s.channel.flatMap cookiesOf ++ cookiesOf rest))) := by
      refine List.perm_iff_count.mpr fun other => ?_
      simp only [unannounced, underway, hthread, Option.map_some, Option.getD_some, cookiesOf,
        List.map_cons, List.count_append, List.count_cons]
      omega
    have hnone : s.dbusTaken = none := by
      unfold dbusTaken
      rw [hthread]
      rfl
    refine ((h.perm hperm.symm (List.Perm.refl _)).announce hnone).perm (List.Perm.refl _) ?_
    refine List.perm_iff_count.mpr fun other => ?_
    simp only [announced, dbusDone, hthread, Option.map_some, Option.getD_some, cookiesOf,
      List.map_append, List.map_cons, List.map_nil, List.count_append, List.count_cons,
      List.count_nil]
    omega
  all_goals cases hstep

theorem Sound.notify (h : s.Sound) (hstep : s.notify = some s') : s'.Sound := by
  unfold CookieCalls.notify at hstep
  split at hstep
  case h_1 done rest taken hthread =>
    cases hstep
    have htaken : s.dbusTaken = some taken := by
      unfold dbusTaken
      rw [hthread]
      rfl
    obtain ⟨hrequested, hfetch, -⟩ := h.dbus taken htaken
    obtain ⟨newState, hnew, hcall⟩ : ∃ newState,
        (newState = CallState.readyToFetch ∨ newState = .abortedByListBroker) ∧
        (if taken.failed then (s.calls taken.call).abortedNotification taken.cookie
          else (s.calls taken.call).resultAvailableNotification taken.cookie) =
            (s.calls taken.call).notification taken.cookie newState := by
      cases taken.failed with
      | true => exact ⟨_, Or.inr rfl, rfl⟩
      | false => exact ⟨_, Or.inl rfl, rfl⟩
    have hends : ((s.calls taken.call).notification taken.cookie newState).state ≠
        .waitForNotification := by
      by_cases hwait : (s.calls taken.call).state = .waitForNotification
      · obtain ⟨cookie, hcookie, hexpects, -⟩ := h.waiting taken.call hwait
        cases hrequested.symm.trans hcookie
        rw [Call.notification_of_expects hwait hexpects (h.nonzero _ _ hrequested)]
        rcases hnew with rfl | rfl <;> exact CallState.noConfusion
      · rcases CallRun.notification_cases (s.calls taken.call) taken.cookie newState with
          hsame | ⟨-, hset⟩
        · rwa [hsame]
        · rw [hset]
          rcases hnew with rfl | rfl <;> exact CallState.noConfusion
    dsimp only
    rw [hcall]
    have hset : (s.setCall taken.call
        ((s.calls taken.call).notification taken.cookie newState)).Sound := by
      rcases CallRun.notification_cases (s.calls taken.call) taken.cookie newState with
        hsame | ⟨-, hset⟩
      · rw [hsame]
        exact h.setCall (Call.GoesOn.refl _) (fun _ => rfl) Or.inl
      · rw [hset] at hends ⊢
        refine h.replaceCall (fun hs => ?_) (fun hs => absurd hs hends)
          (fun _ => Or.inr ⟨taken.cookie, hrequested, hfetch⟩) (fun _ => rfl) (fun hs => ?_)
        · rcases hnew with rfl | rfl <;> cases hs
        · rcases hnew with rfl | rfl <;> cases hs
    have hnotified := Inv.notified hset hthread (by
      change (Function.update s.calls taken.call _ taken.call).state ≠ _
      rwa [Function.update_self])
    refine hnotified.perm ?_ ?_
    · unfold unannounced underway
      rw [show (s.setCall taken.call _).dbusThread = _ from hthread]
      exact List.Perm.refl _
    · unfold announced dbusDone
      rw [show (s.setCall taken.call _).dbusThread = _ from hthread]
      exact List.Perm.refl _
  all_goals cases hstep

theorem Sound.store (h : s.Sound) (hstep : s.store = some s') : s'.Sound := by
  unfold CookieCalls.store at hstep
  split at hstep
  case h_1 done hthread =>
    cases hstep
    refine Inv.move h ?_ ?_ (Or.inr ⟨?_, rfl⟩) rfl
    · unfold unannounced underway
      rw [hthread]
      exact List.Perm.refl _
    · refine List.perm_iff_count.mpr fun cookie => ?_
      simp only [announced, dbusDone, hthread, List.flatMap_append, List.flatMap_singleton,
        List.count_append, Option.map_some, Option.map_none, Option.getD_some, Option.getD_none,
        List.count_nil]
      omega
    · unfold dbusTaken
      rw [hthread]
      rfl
  all_goals cases hstep

theorem Sound.dispatch (h : s.Sound) (hstep : s.dispatch = some s') : s'.Sound := by
  unfold CookieCalls.dispatch at hstep
  split at hstep
  case h_1 signal events hthread hevents =>
    cases hstep
    refine Inv.move h (List.Perm.refl _) ?_ (Or.inl rfl) ?_
    · refine List.perm_iff_count.mpr fun cookie => ?_
      simp only [announced, dbusDone, hthread, hevents, List.flatMap_cons, List.count_append,
        Option.map_some, Option.map_none, Option.getD_some, Option.getD_none, List.count_nil]
      omega
    · unfold mainTaken
      rw [hthread]
      rfl
  all_goals cases hstep

theorem Sound.finish (h : s.Sound) (hstep : s.finish = some s') : s'.Sound := by
  unfold CookieCalls.finish at hstep
  split at hstep
  case h_1 done cookie failed rest hthread =>
    cases hstep
    have hperm : s.announced.Perm (cookie ::
        (s.dbusDone ++ (s.events.flatMap cookiesOf ++ cookiesOf rest))) := by
      refine List.perm_iff_count.mpr fun other => ?_
      simp only [announced, hthread, Option.map_some, Option.getD_some, cookiesOf,
        List.map_cons, List.count_append, List.count_cons]
      omega
    have hnone : s.mainTaken = none := by
      unfold mainTaken
      rw [hthread]
      rfl
    have hcons := h.perm (List.Perm.refl _) hperm.symm
    have hdone : cookie ∉ s.dbusDone := by
      have hnodup := (List.nodup_cons.mp (List.nodup_append.mp hcons.nodup).2.1).1
      exact fun hmem => hnodup (List.mem_append_left _ hmem)
    exact hcons.finish hnone hdone
  all_goals cases hstep

theorem Sound.fetchAndNotify (h : s.Sound) {answer : Except E R}
    (hstep : s.fetchAndNotify answer = some s') : s'.Sound := by
  unfold CookieCalls.fetchAndNotify at hstep
  split at hstep
  case h_1 done rest taken hthread =>
    have htaken : s.mainTaken = some taken := by
      unfold mainTaken
      rw [hthread]
      rfl
    obtain ⟨hrequested, -, -, hwait, halive⟩ := h.main taken htaken
    have hinit : (s.calls taken.call).state ≠ .initialized := by
      intro hs
      cases (h.initial _ hs).1.symm.trans hrequested
    have hresult := Call.fetchUnlocked_result answer hinit hwait halive
    obtain ⟨result, hresult⟩ := Option.isSome_iff_exists.mp hresult
    dsimp only at hstep
    rw [hresult] at hstep
    cases hstep
    have hends : ((s.calls taken.call).fetchUnlocked answer).2.state ≠ .readyToFetch := by
      rcases CallRun.fetchUnlocked_cases (s.calls taken.call) answer with
        ⟨hnot, -, hsame⟩ | ⟨-, -, -, hfinal, -⟩
      · rwa [hsame]
      · intro hs
        rw [hs] at hfinal
        revert hfinal
        decide
    have hfetched := Inv.fetched (h.fetch taken.call answer) hthread (by
      change (Function.update s.calls taken.call _ taken.call).state ≠ _
      rwa [Function.update_self])
    refine hfetched.perm (List.Perm.refl _) ?_
    unfold announced
    rw [hthread]
    exact List.Perm.refl _
  all_goals cases hstep

theorem Sound.dispatched (h : s.Sound) (hstep : s.dispatched = some s') : s'.Sound := by
  unfold CookieCalls.dispatched at hstep
  split at hstep
  case h_1 done hthread =>
    cases hstep
    refine Inv.move h (List.Perm.refl _) ?_ (Or.inl rfl) ?_
    · unfold announced
      rw [hthread]
      exact List.Perm.refl _
    · unfold mainTaken
      rw [hthread]
      rfl
  all_goals cases hstep

/-! ## The owners of the calls -/

section Owners

variable {call : Nat}

/-- A request leaves the cookies that are on their way alone. -/
theorem request_frame {answer : RequestAnswer R E} (hstep : s.request call answer = some s') :
    s'.underway = s.underway ∧ s'.announced = s.announced := by
  unfold CookieCalls.request at hstep
  split at hstep
  case h_1 =>
    cases hstep
    exact ⟨rfl, rfl⟩
  case h_2 =>
    split at hstep
    case h_2 => cases hstep
    all_goals
      cases hstep
      exact ⟨rfl, rfl⟩

theorem abortEnd_frame {cookie : UInt32} {answer : AbortAnswer} {isDropped : Bool}
    (hstep : s.abortEnd call cookie answer isDropped = some s') :
    s'.underway = s.underway ∧ s'.announced = s.announced := by
  obtain ⟨-, hstep⟩ := Option.ite_none_right_eq_some.mp hstep
  cases hstep
  dsimp only
  split
  · unfold CookieCalls.drop
    split <;> exact ⟨rfl, rfl⟩
  · exact ⟨rfl, rfl⟩

/-- The list broker mixes two calls up: it hands out a cookie whose functions are stored, or it
forgets about a cookie which another call is waiting for by now. -/
def Mixes (s : CookieCalls R E) : CookieCallEvent R E → Prop
  | .request call (.cookie cookie) =>
      (s.calls call).state = .initialized ∧
        (s.pending.fetchFunctions cookie.val).isSome = true
  | .abortEnd call cookie .success true =>
      (call, cookie) ∈ s.aborts ∧ cookie ∈ s.outstanding ∧ ∃ other, other ≠ call ∧
        (s.calls other).state = .waitForNotification ∧ s.requested other = some cookie
  | _ => False

theorem Sound.request (h : s.Sound) {answer : RequestAnswer R E}
    (hmixes : ¬s.Mixes (.request call answer)) (hstep : s.request call answer = some s') :
    s'.Sound := by
  obtain ⟨hunderway, hannounced⟩ := request_frame hstep
  unfold Sound unannounced
  rw [hunderway, hannounced]
  refine Inv.request h (fun cookie hcookie hinit => ?_) hstep
  subst hcookie
  cases hfetch : s.pending.fetchFunctions cookie.val with
  | none => rfl
  | some fn => exact absurd ⟨hinit, hfetch ▸ rfl⟩ hmixes

theorem Sound.abortEnd (h : s.Sound) {cookie : UInt32} {answer : AbortAnswer} {isDropped : Bool}
    (hmixes : ¬s.Mixes (.abortEnd call cookie answer isDropped))
    (hstep : s.abortEnd call cookie answer isDropped = some s') : s'.Sound := by
  obtain ⟨hunderway, hannounced⟩ := abortEnd_frame hstep
  unfold Sound unannounced
  rw [hunderway, hannounced]
  refine Inv.abortEnd h (fun hanswer hdropped hout other hother hwait hrequested => ?_) hstep
  subst hanswer hdropped
  exact hmixes ⟨(Option.ite_none_right_eq_some.mp hstep).1, hout, other, hother, hwait, hrequested⟩

theorem Sound.abortBegin (h : s.Sound) (call : Nat) : (s.abortBegin call).Sound := by
  have hinv := Inv.abortBegin h call
  unfold CookieCalls.abortBegin at hinv ⊢
  split at hinv <;> exact hinv

end Owners

/-- One event. -/
theorem Sound.step (h : s.Sound) {e : CookieCallEvent R E} (hmixes : ¬s.Mixes e)
    (hstep : s.step e = some s') : s'.Sound := by
  cases e with
  | request call answer => exact h.request hmixes hstep
  | answer signal => exact h.answer hstep
  | receive => exact h.receive hstep
  | announce => exact h.announce hstep
  | notify => exact h.notify hstep
  | store => exact h.store hstep
  | dispatch => exact h.dispatch hstep
  | finish => exact h.finish hstep
  | fetchAndNotify answer => exact h.fetchAndNotify hstep
  | dispatched => exact h.dispatched hstep
  | fetch call answer =>
    cases hstep
    exact h.fetch call answer
  | abortBegin call =>
    cases hstep
    exact h.abortBegin call
  | abortEnd call cookie answer isDropped => exact h.abortEnd hmixes hstep
  | getResult call =>
    obtain ⟨result, hresult, rfl⟩ := Option.map_eq_some_iff.mp hstep
    exact h.getResult hresult
  | destroy call answer =>
    have hinv := h.destroy hstep
    obtain ⟨-, hstep⟩ := Option.ite_none_left_eq_some.mp hstep
    cases hstep
    exact hinv

/-! ## Runs -/

/-- Each call that is waiting after the event is going to be notified. -/
def KeepsWaiting (s : CookieCalls R E) (e : CookieCallEvent R E) : Prop :=
  ∀ s', s.step e = some s' → ∀ call, (s'.calls call).state = .waitForNotification →
    s'.WillBeTold s'.unannounced call

/-- A call that gets a cookie whose functions are stored is never notified. -/
theorem Sound.not_keepsWaiting_request (h : s.Sound) {call : Nat} {cookie : Cookie}
    (hinit : (s.calls call).state = .initialized)
    (hfetch : (s.pending.fetchFunctions cookie.val).isSome = true) :
    ¬s.KeepsWaiting (.request call (.cookie cookie)) := by
  intro hkeeps
  obtain ⟨fn, hfn⟩ := Option.isSome_iff_exists.mp hfetch
  have hstep : s.step (.request call (.cookie cookie)) = some ((s.setCall call
      { s.calls call with
        cookie := cookie.val, detached := true, state := .waitForNotification
      }).setPendingCookie call cookie.val) := by
    change s.request call (.cookie cookie) = _
    unfold CookieCalls.request Call.request
    rw [if_neg (not_not.mpr hinit)]
  have hwait := hkeeps _ hstep call (by
    change (Function.update s.calls call _ call).state = _
    rw [Function.update_self])
  obtain ⟨value, hrequested, -, hstored, -⟩ := hwait
  change Function.update s.requested call (some cookie.val) call = some value at hrequested
  rw [Function.update_self, Option.some.injEq] at hrequested
  subst hrequested
  change (emplace s.pending.fetchFunctions cookie.val ⟨call⟩).2 cookie.val = some ⟨call⟩ at hstored
  rw [emplace_of_some hfetch] at hstored
  cases hfn.symm.trans hstored
  cases (h.initial call hinit).1.symm.trans (h.owner cookie.val _ hfn).1

/-- A call whose cookie the list broker forgets about is never notified. -/
theorem Sound.not_keepsWaiting_abortEnd (h : s.Sound) {call other : Nat} {cookie : UInt32}
    (habort : (call, cookie) ∈ s.aborts) (hout : cookie ∈ s.outstanding) (hother : other ≠ call)
    (hwait : (s.calls other).state = .waitForNotification)
    (hrequested : s.requested other = some cookie) :
    ¬s.KeepsWaiting (.abortEnd call cookie .success true) := by
  intro hkeeps
  have hstep : s.step (.abortEnd call cookie .success true) = some
      { s.setCall call ((s.calls call).abortEnd .success).2 with
        aborts := s.aborts.erase (call, cookie)
        outstanding := s.outstanding.filter (· ≠ cookie)
        dropped := cookie :: s.dropped } := by
    change s.abortEnd call cookie .success true = _
    unfold CookieCalls.abortEnd
    rw [if_pos habort]
    dsimp only
    rw [if_pos ⟨rfl, rfl⟩]
    exact congrArg some (if_pos hout)
  have htold := hkeeps _ hstep other (by
    change (Function.update s.calls call _ other).state = _
    rwa [Function.update_of_ne hother])
  obtain ⟨value, hvalue, -, -, hnotify⟩ := htold
  cases hrequested.symm.trans hvalue
  have hnodup := h.nodup
  unfold unannounced at hnodup
  rw [List.append_assoc, List.nodup_append] at hnodup
  have hrest : cookie ∉ s.underway ++ s.announced :=
    fun hmem => hnodup.2.2 cookie hout cookie hmem rfl
  rcases hnotify with ⟨hmem, -⟩ | ⟨failed, htaken⟩
  · rcases List.mem_append.mp hmem with hmem | hmem
    · rw [List.mem_filter, decide_eq_true_iff] at hmem
      exact hmem.2 rfl
    · exact hrest (List.mem_append_left _ hmem)
  · exact hrest (List.mem_append_right _ (List.mem_append_left _ (h.dbus _ htaken).2.2))

theorem Sound.keepsWaiting_iff (h : s.Sound) (e : CookieCallEvent R E) :
    s.KeepsWaiting e ↔ ¬s.Mixes e := by
  constructor
  · intro hkeeps hmixes
    unfold Mixes at hmixes
    split at hmixes
    · exact h.not_keepsWaiting_request hmixes.1 hmixes.2 hkeeps
    · obtain ⟨habort, hout, other, hother, hwait, hrequested⟩ := hmixes
      exact h.not_keepsWaiting_abortEnd habort hout hother hwait hrequested hkeeps
    · exact hmixes
  · intro hmixes s' hstep call hwait
    exact (h.step hmixes hstep).waiting call hwait

theorem sound_start : Sound ({} : CookieCalls R E) := inv_start

/-- In every run, each call that waits is going to be notified unless, and as long as, the list
broker mixes no two calls up. -/
theorem waiting_calls_are_told_iff (events : List (CookieCallEvent R E)) :
    AlongRun step KeepsWaiting {} events ↔ AlongRun step (fun s e => ¬s.Mixes e) {} events :=
  alongRun_iff (I := Sound) (fun _ _ _ hs hmixes hstep => hs.step hmixes hstep)
    (fun _ e hs => hs.keepsWaiting_iff e) events sound_start

/-- All signals have been sent and dealt with. -/
def AtRest (s : CookieCalls R E) : Prop :=
  s.outstanding = [] ∧ s.channel = [] ∧ s.dbusThread = none ∧ s.events = [] ∧
    s.mainThread = none

/-- What has become of the calls. -/
structure ToldOnce (s : CookieCalls R E) : Prop where
  good : s.badState = false
  once : s.told.Nodup
  /-- A call that has been told does not wait, nor is it told again. -/
  ended : ∀ call ∈ s.told, (s.calls call).state ≠ .waitForNotification ∧
    ∀ taken, s.dbusTaken = some taken ∨ s.mainTaken = some taken → taken.call ≠ call
  /-- Functions are called as long as their call exists. -/
  alive : ∀ taken, s.dbusTaken = some taken ∨ s.mainTaken = some taken →
    (s.calls taken.call).state ≠ .aboutToDestroy
  /-- At rest, there is nothing left to be told except what the list broker has forgotten. -/
  rest : s.AtRest → ∀ call, (s.calls call).state ≠ .waitForNotification ∧
    ∀ cookie, s.requested call = some cookie → call ∈ s.told ∨ cookie ∈ s.dropped

theorem Sound.toldOnce (h : s.Sound) : s.ToldOnce where
  good := h.good
  once := h.told_once
  ended := by
    intro call htold
    have hstored := h.told call htold
    refine ⟨fun hwait => ?_, fun taken htaken heq => ?_⟩
    · obtain ⟨cookie, hrequested, -, hfetch, -⟩ := h.waiting call hwait
      exact hstored cookie hrequested hfetch
    · subst heq
      rcases htaken with htaken | htaken
      · obtain ⟨hrequested, hfetch, -⟩ := h.dbus taken htaken
        exact hstored _ hrequested hfetch
      · exact (h.main taken htaken).2.2.1 htold
  alive := by
    rintro taken (htaken | htaken)
    · exact (h.owner _ _ (h.dbus taken htaken).2.1).2
    · exact (h.main taken htaken).2.2.2.2
  rest := by
    rintro ⟨hout, hchannel, hdbus, hevents, hmain⟩ call
    have hnone : s.unannounced = [] ∧ s.announced = [] := by
      simp [unannounced, underway, announced, dbusDone, hout, hchannel, hdbus, hevents, hmain]
    have hgone : ∀ cookie, (s.pending.fetchFunctions cookie).isSome = true →
        cookie ∈ s.dropped := by
      intro cookie hstored
      refine ((h.fetch_iff cookie).mp hstored).resolve_left ?_
      rw [hnone.1, hnone.2]
      exact List.not_mem_nil
    have hdbusTaken : s.dbusTaken = none := by
      unfold dbusTaken
      rw [hdbus]
      rfl
    have hmainTaken : s.mainTaken = none := by
      unfold mainTaken
      rw [hmain]
      rfl
    constructor
    · intro hwait
      obtain ⟨cookie, -, -, -, hnotify⟩ := h.waiting call hwait
      rcases hnotify with ⟨hmem, -⟩ | ⟨failed, htaken⟩
      · rw [hnone.1] at hmem
        exact List.not_mem_nil hmem
      · cases hdbusTaken.symm.trans htaken
    · intro cookie hrequested
      rcases h.accounted call cookie hrequested with hfetch | ⟨failed, htaken⟩ | htold
      · exact Or.inr (hgone cookie (hfetch ▸ rfl))
      · cases hmainTaken.symm.trans htaken
      · exact Or.inl htold

/-- Whatever the order in which both threads get on, each call is told at most once, and at
rest all of them have been told, or their cookies have been forgotten. -/
theorem calls_told_once {events : List (CookieCallEvent R E)} {t : CookieCalls R E}
    (hmixes : AlongRun step (fun s e => ¬s.Mixes e) {} events)
    (hrun : runFrom step {} events = some t) : t.ToldOnce :=
  have hsound : Sound t := invariant_of_alongRun (I := Sound)
    (fun _ _ _ hs hmixes hstep => hs.step hmixes hstep) events sound_start hmixes hrun
  hsound.toldOnce

/-- The first call is being aborted while the second one is answered. -/
def abortedMeanwhile : List (CookieCallEvent Nat Nat) :=
  [.request 0 (.cookie ⟨5, by decide⟩), .request 1 (.cookie ⟨7, by decide⟩), .abortBegin 0,
    .answer [(7, false)], .receive, .announce, .notify, .store, .dispatch, .finish,
    .abortEnd 0 5 .success true, .fetchAndNotify (.ok 3), .dispatched]

theorem calls_told_once_abortedMeanwhile : ∃ t : CookieCalls Nat Nat,
    runFrom step {} abortedMeanwhile = some t ∧ t.AtRest ∧ t.told = [1] ∧ t.dropped = [5] ∧
      t.ToldOnce := by
  have hmixes : AlongRun step (fun s e => ¬s.Mixes e) ({} : CookieCalls Nat Nat)
      abortedMeanwhile := by
    refine .cons_of_step (fun h => Bool.false_ne_true h.2) rfl ?_
    refine .cons_of_step (fun h => Bool.false_ne_true h.2) rfl ?_
    refine .cons_of_step id rfl <| .cons_of_step id rfl <| .cons_of_step id rfl <|
      .cons_of_step id rfl <| .cons_of_step id rfl <| .cons_of_step id rfl <|
      .cons_of_step id rfl <| .cons_of_step id rfl ?_
    refine .cons_of_step ?_ rfl <| .cons_of_step id rfl <| .cons_of_step id rfl trivial
    rintro ⟨-, -, other, hother, -, hrequested⟩
    change Function.update (Function.update (fun _ => none) 0 (some 5)) 1 (some 7) other =
      some (5 : UInt32) at hrequested
    by_cases hone : other = 1
    · subst hone
      rw [Function.update_self] at hrequested
      cases hrequested
    · rw [Function.update_of_ne hone, Function.update_of_ne hother] at hrequested
      cases hrequested
  exact ⟨_, rfl, ⟨rfl, rfl, rfl, rfl, rfl⟩, rfl, rfl, calls_told_once hmixes rfl⟩

/-- A cookie that the list broker has forgotten about is handed out again: the call that gets it
is never told. -/
example : (runFrom step ({} : CookieCalls Nat Nat)
    [.request 0 (.cookie ⟨5, by decide⟩), .abortBegin 0, .abortEnd 0 5 .success true,
      .request 1 (.cookie ⟨5, by decide⟩), .answer [(5, false)], .receive, .announce, .notify,
      .store, .dispatch, .finish, .fetchAndNotify (.ok 3), .dispatched]).map
    (fun s => ((s.calls 1).state, s.told)) = some (.waitForNotification, [0]) := rfl

end CookieCalls

end Drcpd.Rnf

/-
  Rnf/CallRuns.lean --- runs of one request/notify/fetch call.

  The steps of any number of threads on one call, in any order.  The answer of the
  abort-cookie function arrives in a step of its own, so other steps may come
  between the two halves of `abort_request`.

  Beside the call, a run remembers the cookie `do_request` returned, the cookies
  `do_fetch` was called with, whether an `abort_request` has returned true, and how
  many calls of `abort_request` are waiting for the abort-cookie function.
-/
import Drcpd.Foundation.Run
import Drcpd.Rnf.Call

set_option autoImplicit false

namespace Drcpd.Rnf

open Drcpd.Foundation

variable {R E : Type}

/-- The steps of a run. -/
inductive CallEvent (R E : Type) where
  | request (answer : RequestAnswer R E)
  | abortBegin
  | abortEnd (answer : AbortAnswer)
  | resultAvailable (cookie : UInt32)
  | aborted (cookie : UInt32)
  | fetch (answer : Except E R)
  | getResult

/-- The state of a run. -/
structure CallRun (R E : Type) where
  call : Call R E := {}
  requested : Option UInt32 := none
  fetched : List UInt32 := []
  abortReturnedTrue : Bool := false
  unlocked : Nat := 0

namespace CallRun

/-- The cookie of an answer to `do_request`. -/
def answeredCookie : RequestAnswer R E → Option UInt32
  | .cookie cookie | .unmanaged cookie _ => some cookie
  | .fastPath _ | .fastPathThrows _ | .failed _ => none

/-- One step. -/
def step (r : CallRun R E) : CallEvent R E → Option (CallRun R E)
  | .request answer =>
      match r.call.request answer with
      | (none, _) => some r
      | (some _, c) => some { r with call := c, requested := answeredCookie answer }
  | .abortBegin =>
      match r.call.abortBegin with
      | (.returned result, c) =>
          some { r with call := c, abortReturnedTrue := r.abortReturnedTrue || result }
      | (.unlocked _, c) => some { r with call := c, unlocked := r.unlocked + 1 }
  | .abortEnd answer =>
      if r.unlocked = 0 then none
      else
        let e := r.call.abortEnd answer
        some
          { r with
            call := e.2
            abortReturnedTrue := r.abortReturnedTrue || e.1
            unlocked := r.unlocked - 1 }
  | .resultAvailable cookie =>
      some { r with call := r.call.resultAvailableNotification cookie }
  | .aborted cookie => some { r with call := r.call.abortedNotification cookie }
  | .fetch answer =>
      let f := r.call.fetchUnlocked answer
      some { r with call := f.2, fetched := r.fetched ++ f.1.fetched.toList }
  | .getResult =>
      match r.call.getResultUnlocked with
      | none => none
      | some (_, c) => some { r with call := c }

/-- What is expected of every step. -/
structure StepSound (r : CallRun R E) (e : CallEvent R E) : Prop where
  /-- `do_fetch` is called at most once. -/
  fetched_once : ∀ r', r.step e = some r' → r'.fetched.length ≤ 1
  /-- It is called with the non-zero cookie `do_request` returned. -/
  fetched_cookie : ∀ r', r.step e = some r' →
    ∀ cookie ∈ r'.fetched, cookie ≠ 0 ∧ r'.requested = some cookie
  /-- After an `abort_request` that returned true no `get_result` returns a value. -/
  no_result : ∀ result c, e = .getResult → r.abortReturnedTrue = true →
    r.call.getResultUnlocked ≠ some (.ok result, c)
  /-- A final state is not left for one that is not final. -/
  final_kept : ∀ r', r.step e = some r' → r.call.state.IsFinal → r'.call.state.IsFinal

/-- The two kinds of steps that break these rules: a fetch without a cookie, and the
late success of the abort-cookie function for a call that has ended meanwhile. -/
def BreaksRules (r : CallRun R E) : CallEvent R E → Prop
  | .fetch _ => r.call.state = .readyToFetch ∧ r.call.cookie = 0
  | .abortEnd .success => r.unlocked ≠ 0 ∧ r.call.state.IsFinal
  | _ => False

/-- What is known of a call between two steps. -/
structure Invariant (r : CallRun R E) : Prop where
  alive : r.call.state ≠ .aboutToDestroy
  /-- A current cookie is the one `do_request` returned. -/
  cookie_requested : r.call.cookie ≠ 0 → r.requested = some r.call.cookie
  /-- While the abort-cookie function runs, and after it, there is no cookie. -/
  unlocked_cookie : r.unlocked ≠ 0 → r.call.cookie = 0
  aborting_cookie : r.call.state = .aborting → r.call.cookie = 0
  /-- A call that may still be fetched has not been fetched. -/
  not_fetched : ¬r.call.state.IsFinal → r.fetched = []
  fetched_once : r.fetched.length ≤ 1
  fetched_cookie : ∀ cookie ∈ r.fetched, cookie ≠ 0 ∧ r.requested = some cookie
  initial : r.call.state = .initialized →
    r.call.cookie = 0 ∧ r.abortReturnedTrue = false ∧ r.unlocked = 0
  /-- An abort that has succeeded shows in the state. -/
  aborted_state : r.abortReturnedTrue = true →
    r.call.state = .aborting ∨ r.call.state = .abortedByListBroker ∨
    (r.call.state = .readyToFetch ∧ r.call.cookie = 0) ∨ r.call.wasAbortedAfterDone = true

theorem invariant_init : (({} : CallRun R E)).Invariant := by
  constructor <;> simp

/-! ## One step -/

theorem Invariant.request {r r' : CallRun R E} (hr : r.Invariant) {answer : RequestAnswer R E}
    (hstep : r.step (.request answer) = some r') :
    r'.Invariant ∧ (r.call.state.IsFinal → r'.call.state.IsFinal) := by
  by_cases hs : r.call.state = .initialized
  · have hfetched : r.fetched = [] := hr.not_fetched (by simp [hs, CallState.IsFinal])
    obtain ⟨hcookie, habort, hunlocked⟩ := hr.initial hs
    refine ⟨?_, by simp [hs, CallState.IsFinal]⟩
    simp only [step, Call.request, hs, ne_eq, not_true_eq_false, if_false] at hstep
    cases hstep
    cases answer with
    | cookie cookie =>
        constructor <;> simp [hfetched, habort, hunlocked, answeredCookie, CallState.IsFinal]
    | unmanaged cookie e =>
        constructor <;>
          simp [hfetched, habort, hunlocked, answeredCookie, CallState.IsFinal,
            Call.setState, Call.setException]
    | fastPath result =>
        constructor <;>
          simp [hfetched, habort, hunlocked, hcookie, answeredCookie, CallState.IsFinal]
    | fastPathThrows result =>
        constructor <;>
          simp [hfetched, habort, hunlocked, hcookie, answeredCookie, CallState.IsFinal]
    | failed e =>
        constructor <;>
          simp [hfetched, habort, hunlocked, hcookie, answeredCookie, CallState.IsFinal,
            Call.setState, Call.setException]
  · simp only [step, Call.request, ne_eq, hs, not_false_eq_true, if_true,
      Option.some.injEq] at hstep
    subst hstep
    exact ⟨hr, id⟩

/-- What `abort_request` does under its first lock. -/
theorem abortBegin_cases (c : Call R E) (halive : c.state ≠ .aboutToDestroy) :
    (¬c.state.IsFinal ∧ c.state ≠ .aborting ∧ c.cookie = 0 ∧
      c.abortBegin = (.returned true, c.clearCookie.setState .abortedByListBroker)) ∨
    (¬c.state.IsFinal ∧ c.state ≠ .aborting ∧ c.cookie ≠ 0 ∧
      c.abortBegin = (.unlocked c.cookie, c.clearCookie)) ∨
    ((c.state = .resultFetched ∨ c.state = .failed) ∧
      c.abortBegin = (.returned !c.wasAbortedAfterDone, { c with wasAbortedAfterDone := true })) ∨
    ((c.state = .aborting ∨ c.state = .abortedByListBroker) ∧
      c.abortBegin = (.returned false, c)) := by
  obtain ⟨state, aborted, detached, cookie, cleared, promise, valid⟩ := c
  unfold Call.abortBegin CallState.IsFinal Call.clearCookie
  cases state with
  | initialized => by_cases hcookie : cookie = 0 <;> simp [hcookie]
  | waitForNotification => by_cases hcookie : cookie = 0 <;> simp [hcookie]
  | readyToFetch => by_cases hcookie : cookie = 0 <;> simp [hcookie]
  | resultFetched => cases aborted <;> simp
  | failed => cases aborted <;> simp
  | aborting => simp
  | abortedByListBroker => simp
  | aboutToDestroy => exact absurd rfl halive

theorem Invariant.abortBegin {r r' : CallRun R E} (hr : r.Invariant)
    (hstep : r.step .abortBegin = some r') :
    r'.Invariant ∧ (r.call.state.IsFinal → r'.call.state.IsFinal) := by
  rcases abortBegin_cases r.call hr.alive with ⟨hopen, hnot, hcookie, heq⟩ |
    ⟨hopen, hnot, hcookie, heq⟩ | ⟨hdone, heq⟩ | ⟨hover, heq⟩
  · simp only [step, heq] at hstep
    cases hstep
    refine ⟨?_, fun hfinal => absurd hfinal hopen⟩
    exact
      { alive := by simp [Call.setState]
        cookie_requested := by simp [Call.setState, Call.clearCookie]
        unlocked_cookie := by simp [Call.setState, Call.clearCookie]
        aborting_cookie := by simp [Call.setState]
        not_fetched := by simp [Call.setState, CallState.IsFinal]
        fetched_once := hr.fetched_once
        fetched_cookie := hr.fetched_cookie
        initial := by simp [Call.setState]
        aborted_state := by simp [Call.setState] }
  · simp only [step, heq] at hstep
    cases hstep
    refine ⟨?_, fun hfinal => absurd hfinal hopen⟩
    exact
      { alive := hr.alive
        cookie_requested := by simp [Call.clearCookie]
        unlocked_cookie := by simp [Call.clearCookie]
        aborting_cookie := by simp [Call.clearCookie]
        not_fetched := hr.not_fetched
        fetched_once := hr.fetched_once
        fetched_cookie := hr.fetched_cookie
        initial := fun hinit => absurd (hr.initial hinit).1 hcookie
        aborted_state := fun habort => by
          rcases hr.aborted_state habort with h | h | h | h
          · exact .inl h
          · exact .inr (.inl h)
          · exact absurd h.2 hcookie
          · exact .inr (.inr (.inr h)) }
  · simp only [step, heq] at hstep
    cases hstep
    refine ⟨?_, id⟩
    have hfinal : r.call.state.IsFinal := hdone.imp id .inr
    exact
      { alive := hr.alive
        cookie_requested := hr.cookie_requested
        unlocked_cookie := hr.unlocked_cookie
        aborting_cookie := hr.aborting_cookie
        not_fetched := fun hopen => absurd hfinal hopen
        fetched_once := hr.fetched_once
        fetched_cookie := hr.fetched_cookie
        initial := fun hinit => by
          simp [CallState.IsFinal, show r.call.state = _ from hinit] at hfinal
        aborted_state := fun _ => by simp }
  · simp only [step, heq, Bool.or_false] at hstep
    cases hstep
    exact ⟨hr, id⟩

theorem Invariant.abortEnd {r r' : CallRun R E} (hr : r.Invariant) {answer : AbortAnswer}
    (hrules : ¬r.BreaksRules (.abortEnd answer)) (hstep : r.step (.abortEnd answer) = some r') :
    r'.Invariant ∧ (r.call.state.IsFinal → r'.call.state.IsFinal) := by
  have hunlocked : r.unlocked ≠ 0 := by
    intro hzero
    simp [step, hzero] at hstep
  have hcookie := hr.unlocked_cookie hunlocked
  have hunchanged : ∀ r'' : CallRun R E, r'' = { r with unlocked := r.unlocked - 1 } →
      r''.Invariant ∧ (r.call.state.IsFinal → r''.call.state.IsFinal) := by
    rintro r'' rfl
    refine ⟨{ hr with
      unlocked_cookie := fun _ => hcookie
      initial := fun hinit => ?_ }, id⟩
    exact absurd (hr.initial hinit).2.2 hunlocked
  cases answer with
  | success =>
      have hopen : ¬r.call.state.IsFinal := fun hfinal => hrules ⟨hunlocked, hfinal⟩
      simp only [step, hunlocked, if_false, Call.abortEnd] at hstep
      cases hstep
      refine ⟨?_, fun hfinal => absurd hfinal hopen⟩
      exact
        { alive := by simp [Call.setState]
          cookie_requested := fun h => absurd hcookie h
          unlocked_cookie := fun _ => hcookie
          aborting_cookie := fun _ => hcookie
          not_fetched := fun _ => hr.not_fetched hopen
          fetched_once := hr.fetched_once
          fetched_cookie := hr.fetched_cookie
          initial := by simp [Call.setState]
          aborted_state := by simp [Call.setState] }
  | failure =>
      simp only [step, hunlocked, if_false, Call.abortEnd, Bool.or_false] at hstep
      exact hunchanged r' (Option.some.inj hstep).symm
  | exception =>
      simp only [step, hunlocked, if_false, Call.abortEnd, Bool.or_false] at hstep
      exact hunchanged r' (Option.some.inj hstep).symm

/-- A notification is ignored, or taken by a call that waits for it. -/
theorem notification_cases (c : Call R E) (cookie : UInt32) (newState : CallState) :
    c.notification cookie newState = c ∨
    ((c.state = .waitForNotification ∨ c.state = .aborting) ∧
      c.notification cookie newState = c.setState newState) := by
  unfold Call.notification
  split
  · exact .inl rfl
  · split
    · exact .inl rfl
    · cases c.state <;> simp

/-- Both notifications. -/
theorem Invariant.notification {r : CallRun R E} (hr : r.Invariant) (cookie : UInt32)
    {newState : CallState}
    (hnew : newState = .readyToFetch ∨ newState = .abortedByListBroker) :
    { r with call := r.call.notification cookie newState }.Invariant ∧
      (r.call.state.IsFinal → (r.call.notification cookie newState).state.IsFinal) := by
  rcases notification_cases r.call cookie newState with heq | ⟨hwait, heq⟩
  · rw [heq]
    exact ⟨hr, id⟩
  · rw [heq]
    have hopen : ¬r.call.state.IsFinal := by
      rcases hwait with hwait | hwait <;> simp [hwait, CallState.IsFinal]
    have hne : newState ≠ .aboutToDestroy ∧ newState ≠ .initialized ∧ newState ≠ .aborting := by
      rcases hnew with rfl | rfl <;> simp
    refine ⟨?_, fun hfinal => absurd hfinal hopen⟩
    exact
      { alive := hne.1
        cookie_requested := hr.cookie_requested
        unlocked_cookie := hr.unlocked_cookie
        aborting_cookie := fun h => absurd h hne.2.2
        not_fetched := fun _ => hr.not_fetched hopen
        fetched_once := hr.fetched_once
        fetched_cookie := hr.fetched_cookie
        initial := fun h => absurd h hne.2.1
        aborted_state := fun habort => by
          rcases hr.aborted_state habort with h | h | h | h
          · rcases hnew with rfl | rfl
            · exact .inr (.inr (.inl ⟨rfl, hr.aborting_cookie h⟩))
            · exact .inr (.inl rfl)
          · rcases hwait with hwait | hwait <;> simp [hwait] at h
          · rcases hwait with hwait | hwait <;> simp [hwait] at h
          · exact .inr (.inr (.inr h)) }

/-- `fetch` does nothing, or uses up the cookie and ends the call. -/
theorem fetchUnlocked_cases (c : Call R E) (answer : Except E R) :
    (c.state ≠ .readyToFetch ∧ (c.fetchUnlocked answer).1.fetched = none ∧
      (c.fetchUnlocked answer).2 = c) ∨
    (c.state = .readyToFetch ∧ (c.fetchUnlocked answer).1.fetched = some c.cookie ∧
      (c.fetchUnlocked answer).2.cookie = 0 ∧ (c.fetchUnlocked answer).2.state.IsFinal ∧
      (c.fetchUnlocked answer).2.wasAbortedAfterDone = c.wasAbortedAfterDone) := by
  unfold Call.fetchUnlocked
  cases hs : c.state with
  | readyToFetch =>
      refine .inr ⟨rfl, ?_⟩
      dsimp only
      split <;> simp [Call.setState, Call.clearCookie, Call.setException, CallState.IsFinal]
  | initialized => exact .inl (by simp)
  | waitForNotification => exact .inl (by simp)
  | resultFetched => exact .inl (by simp)
  | aborting => exact .inl (by simp)
  | abortedByListBroker => exact .inl (by simp)
  | failed => exact .inl (by simp)
  | aboutToDestroy => exact .inl (by simp)

theorem Invariant.fetch {r r' : CallRun R E} (hr : r.Invariant) {answer : Except E R}
    (hrules : ¬r.BreaksRules (.fetch answer)) (hstep : r.step (.fetch answer) = some r') :
    r'.Invariant ∧ (r.call.state.IsFinal → r'.call.state.IsFinal) := by
  simp only [step, Option.some.injEq] at hstep
  subst hstep
  rcases fetchUnlocked_cases r.call answer with ⟨-, hnone, hsame⟩ |
    ⟨hready, hsome, hzero, hfinal, hflag⟩
  · simp only [hnone, hsame, Option.toList_none, List.append_nil]
    exact ⟨hr, id⟩
  · have hcookie : r.call.cookie ≠ 0 := fun h => hrules ⟨hready, h⟩
    have hfetched : r.fetched = [] := hr.not_fetched (by simp [hready, CallState.IsFinal])
    simp only [hsome, hfetched, Option.toList_some, List.nil_append]
    refine ⟨?_, fun _ => hfinal⟩
    have hopen : ∀ s : CallState, (r.call.fetchUnlocked answer).2.state = s → s.IsFinal := by
      rintro s rfl
      exact hfinal
    exact
      { alive := fun h => by simpa [CallState.IsFinal] using hopen _ h
        cookie_requested := fun h => absurd hzero h
        unlocked_cookie := fun _ => hzero
        aborting_cookie := fun _ => hzero
        not_fetched := fun h => absurd hfinal h
        fetched_once := by simp
        fetched_cookie := by simpa using ⟨hcookie, hr.cookie_requested hcookie⟩
        initial := fun h => by simpa [CallState.IsFinal] using hopen _ h
        aborted_state := fun habort => by
          rcases hr.aborted_state habort with h | h | h | h
          · simp [hready] at h
          · simp [hready] at h
          · exact absurd h.2 hcookie
          · exact .inr (.inr (.inr (hflag.trans h))) }

/-- `get_result` changes the future and, where it hands out an error, the state. -/
theorem getResultUnlocked_cases {c c' : Call R E} {result : Except (GetError E) R}
    (h : c.getResultUnlocked = some (result, c')) :
    c' = c ∨ c' = { c with futureValid := false } ∨
    ((c.state = .resultFetched ∨ c.state = .failed) ∧
      c' = { c with futureValid := false, state := .failed }) := by
  by_cases hdone : c.state = .resultFetched ∨ c.state = .failed
  · have hread : c.getResultUnlocked = c.readFuture := by
      unfold Call.getResultUnlocked
      rcases hdone with hs | hs <;> simp only [hs]
    rw [hread] at h
    unfold Call.readFuture at h
    split at h
    · cases h
      exact .inl rfl
    · split at h
      · split at h
        · cases h
        · cases h
          exact .inr (.inl rfl)
        · cases h
          exact .inr (.inr ⟨hdone, rfl⟩)
      · cases h
        exact .inl rfl
  · have hsame : c.getResultUnlocked = some (.error .badState, c) ∨
        c.getResultUnlocked = some (.error .aborted, c) := by
      unfold Call.getResultUnlocked
      cases hs : c.state <;> simp_all
    rcases hsame with heq | heq
    · rw [heq] at h
      cases h
      exact .inl rfl
    · rw [heq] at h
      cases h
      exact .inl rfl

theorem Invariant.getResult {r r' : CallRun R E} (hr : r.Invariant)
    (hstep : r.step .getResult = some r') :
    r'.Invariant ∧ (r.call.state.IsFinal → r'.call.state.IsFinal) := by
  cases hget : r.call.getResultUnlocked with
  | none => simp [step, hget] at hstep
  | some p =>
      obtain ⟨result, c⟩ := p
      simp only [step, hget, Option.some.injEq] at hstep
      subst hstep
      rcases getResultUnlocked_cases hget with rfl | rfl | ⟨hdone, rfl⟩
      · exact ⟨hr, id⟩
      · exact ⟨{ hr with }, id⟩
      · refine ⟨?_, fun _ => .inr (.inr rfl)⟩
        exact
          { hr with
            alive := by simp
            aborting_cookie := by simp
            not_fetched := by simp [CallState.IsFinal]
            initial := by simp
            aborted_state := fun habort => by
              rcases hr.aborted_state habort with h | h | h | h
              · simp [h] at hdone
              · simp [h] at hdone
              · simp [h.1] at hdone
              · exact .inr (.inr (.inr h)) }

/-- The step lemma: a step that breaks no rule keeps the invariant and leaves no final
state. -/
theorem Invariant.step {r r' : CallRun R E} (hr : r.Invariant) {e : CallEvent R E}
    (hrules : ¬r.BreaksRules e) (hstep : r.step e = some r') :
    r'.Invariant ∧ (r.call.state.IsFinal → r'.call.state.IsFinal) := by
  cases e with
  | request answer => exact hr.request hstep
  | abortBegin => exact hr.abortBegin hstep
  | abortEnd answer => exact hr.abortEnd hrules hstep
  | resultAvailable cookie =>
      cases hstep
      exact hr.notification cookie (.inl rfl)
  | aborted cookie =>
      cases hstep
      exact hr.notification cookie (.inr rfl)
  | fetch answer => exact hr.fetch hrules hstep
  | getResult => exact hr.getResult hstep

/-- An aborted call hands out no value. -/
theorem Invariant.no_result {r : CallRun R E} (hr : r.Invariant)
    (habort : r.abortReturnedTrue = true) (result : R) (c : Call R E) :
    r.call.getResultUnlocked ≠ some (.ok result, c) := by
  unfold Call.getResultUnlocked
  rcases hr.aborted_state habort with h | h | h | h
  · simp [h]
  · simp [h]
  · simp [h.1]
  · cases r.call.state <;> simp [Call.readFuture, h]

/-- A step is sound exactly if it breaks no rule. -/
theorem stepSound_iff {r : CallRun R E} (hr : r.Invariant) (e : CallEvent R E) :
    r.StepSound e ↔ ¬r.BreaksRules e := by
  constructor
  · intro hsound hbreaks
    cases e with
    | fetch answer =>
        rcases fetchUnlocked_cases r.call answer with ⟨hnot, -⟩ | ⟨-, hsome, -⟩
        · exact hnot hbreaks.1
        · have hzero := hsound.fetched_cookie _ rfl 0 (by simp [hsome, hbreaks.2])
          exact hzero.1 rfl
    | abortEnd answer =>
        cases answer with
        | success =>
            have hfinal := hsound.final_kept
              { r with
                call := r.call.setState .aborting
                abortReturnedTrue := r.abortReturnedTrue || true
                unlocked := r.unlocked - 1 }
              (by simp [step, hbreaks.1, Call.abortEnd]) hbreaks.2
            simp [Call.setState, CallState.IsFinal] at hfinal
        | failure => exact hbreaks
        | exception => exact hbreaks
    | _ => exact hbreaks
  · intro hrules
    exact
      { fetched_once := fun r' hstep => (hr.step hrules hstep).1.fetched_once
        fetched_cookie := fun r' hstep => (hr.step hrules hstep).1.fetched_cookie
        no_result := fun result c _ habort => hr.no_result habort result c
        final_kept := fun r' hstep => (hr.step hrules hstep).2 }

/-! ## All runs -/

/-- In a run of one call, every step keeps to the rules if and only if no fetch finds
the call ready without a cookie, and no success of the abort-cookie function arrives
after the call has ended. -/
theorem call_run_sound_iff (events : List (CallEvent R E)) :
    AlongRun step StepSound ({} : CallRun R E) events ↔
      AlongRun step (fun r e => ¬r.BreaksRules e) ({} : CallRun R E) events :=
  alongRun_iff (fun _ _ _ hr hrules hstep => (hr.step hrules hstep).1)
    (fun _ e hr => stepSound_iff hr e) events invariant_init

/-- The list broker refuses to abort, reports the result after all, and the call
fetches it with cookie 0. -/
theorem fetch_after_refused_abort :
    ¬AlongRun step StepSound ({} : CallRun Unit Unit)
      [.request (.cookie ⟨5, by decide⟩), .abortBegin, .abortEnd .failure,
        .resultAvailable 5, .fetch (.ok ())] := by
  intro h
  have hsound := ((((h.2 _ rfl).2 _ rfl).2 _ rfl).2 _ rfl).1
  exact (hsound.fetched_cookie _ rfl 0 (by decide)).1 rfl

end CallRun

end Drcpd.Rnf

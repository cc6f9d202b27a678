/-
  Crawler/CacheEnforcer.lean --- how a list is kept in the cache of the list broker
  (`cacheenforcer.cc`).

  An enforcer asks the list broker to keep a list in its cache.  The answer is the time after
  which the list expires, and the enforcer asks again when a timer has run out.  It is seen here
  with that timer and with the call it waits for; the crawler, which owns it, sees only the list
  and whether it has stopped.

  `computeEnforcerRefreshSeconds` works with 64-bit numbers, so its product is reduced.
-/
import Drcpd.Foundation.Run
import Drcpd.Crawler.Invalidate

set_option autoImplicit false

namespace Drcpd.Crawler

open Foundation (runFrom)

/-! ## The interval of the timer -/

/-- `plausible_maximum_seconds`. -/
def plausibleMaximumSeconds : Nat := 30 * 60

/-- `maximum_difference_to_timeout_ms`. -/
def maximumDifferenceToTimeoutMs : Nat := 42 * 1000

/-- `compute_enforcer_refresh_seconds`. -/
def computeEnforcerRefreshSeconds (timeoutMs : Nat) : Nat :=
  let tMs := timeoutMs * 80 % 2 ^ 64 / 100
  let tSeconds := tMs / 1000
  let conclude := fun tSeconds => if tSeconds = 0 then 1 else plausibleMaximumSeconds
  if 0 < tSeconds ∧ tSeconds ≤ plausibleMaximumSeconds then
    if timeoutMs ≤ tMs + maximumDifferenceToTimeoutMs then tSeconds
    else conclude ((timeoutMs - maximumDifferenceToTimeoutMs) / 1000)
  else conclude tSeconds

/-- A list that expires after the given time is refreshed before, with a plausible interval. -/
structure RefreshedInTime (timeoutMs seconds : Nat) : Prop where
  positive : 1 ≤ seconds
  withinMaximum : seconds ≤ plausibleMaximumSeconds
  inTime : 1000 * seconds < timeoutMs

section Interval

variable {timeoutMs : Nat} (hmin : 1250 ≤ timeoutMs) (hmax : timeoutMs * 80 < 2 ^ 64)

include hmin hmax

/-- Four fifths of short times, and the maximum in place of everything else. -/
theorem computeEnforcerRefreshSeconds_eq :
    computeEnforcerRefreshSeconds timeoutMs =
      if timeoutMs ≤ 210000 then timeoutMs * 80 / 100 / 1000 else plausibleMaximumSeconds := by
  unfold computeEnforcerRefreshSeconds plausibleMaximumSeconds maximumDifferenceToTimeoutMs
  rw [Nat.mod_eq_of_lt hmax]
  have hpositive : 0 < timeoutMs * 80 / 100 / 1000 := by omega
  dsimp only
  by_cases hshort : timeoutMs ≤ 210000
  · rw [if_pos hshort, if_pos ⟨hpositive, by omega⟩, if_pos (by omega)]
  · have hlonger : ¬timeoutMs ≤ timeoutMs * 80 / 100 + 42 * 1000 := by omega
    rw [if_neg hshort, if_neg hlonger, if_neg (Nat.ne_of_gt hpositive),
      if_neg (show ¬(timeoutMs - 42 * 1000) / 1000 = 0 by omega), ite_self]

theorem refreshedInTime_iff :
    RefreshedInTime timeoutMs (computeEnforcerRefreshSeconds timeoutMs) ↔
      timeoutMs ≤ 210000 ∨ 1800000 < timeoutMs := by
  rw [computeEnforcerRefreshSeconds_eq hmin hmax]
  split_ifs with hshort
  · refine iff_of_true ⟨?_, ?_, ?_⟩ (.inl hshort)
    · omega
    · unfold plausibleMaximumSeconds
      omega
    · omega
  · unfold plausibleMaximumSeconds
    constructor
    · intro h
      have htime := h.inTime
      omega
    · intro h
      have hlong : 1800000 < timeoutMs := h.resolve_left hshort
      exact ⟨by decide, by decide, by omega⟩

end Interval

/-! ## The enforcer -/

/-- `CacheEnforcer::State`. -/
inductive EnforcerState where
  | created
  | started
  | stopped
  deriving DecidableEq, Repr

/-- `CacheEnforcer`.  `timer` is the interval of the timer that is running, and `isCalling` says
that a call of `force_in_cache` has not been answered. -/
structure Refreshing where
  listId : ListId
  state : EnforcerState := .created
  timer : Option Nat := none
  isCalling : Bool := false
  /-- Whether there is a `pointer_to_self_`. -/
  ownsItself : Bool := false
  deriving DecidableEq, Repr

namespace Refreshing

/-- `process_timer`. -/
def processTimer (e : Refreshing) (hasProxy : Bool) : Refreshing :=
  let e := { e with timer := none }
  match e.state with
  | .created | .started =>
      if hasProxy then { e with state := .started, isCalling := true }
      else { e with state := .stopped, ownsItself := false }
  | .stopped => { e with ownsItself := false }

/-- `process_dbus`; there is no answer if the call has failed. -/
def processDbus (e : Refreshing) (answer : Option Nat) : Refreshing :=
  let listExpiryMs := answer.getD 0
  let e := { e with isCalling := false }
  let e := if listExpiryMs = 0 then { e with state := .stopped } else e
  match e.state with
  | .created => e
  | .started => { e with timer := some (computeEnforcerRefreshSeconds listExpiryMs) }
  | .stopped => { e with ownsItself := false }

/-- `start`, of a new enforcer. -/
def start (listId : ListId) (hasProxy : Bool) : Refreshing :=
  processTimer { listId := listId } hasProxy

/-- `stop`. -/
def stop (e : Refreshing) : Refreshing :=
  match e.state with
  | .created | .stopped => { e with state := .stopped }
  | .started => { e with state := .stopped, ownsItself := true }

/-- What the crawler sees of its enforcer. -/
def seen (e : Refreshing) : CacheEnforcer where
  listId := e.listId
  isStopped := decide (e.state = .stopped)

/-- What happens to an enforcer. -/
inductive Event where
  | timer (hasProxy : Bool)
  | answer (listExpiryMs : Option Nat)
  | stop
  deriving DecidableEq, Repr

/-- One step. -/
def step (e : Refreshing) : Event → Option Refreshing
  | .timer hasProxy => if e.timer.isSome then some (e.processTimer hasProxy) else none
  | .answer listExpiryMs => if e.isCalling then some (e.processDbus listExpiryMs) else none
  | .stop => some e.stop

/-- An enforcer which has started waits for either the timer or an answer, and what is called
back has not been destroyed. -/
structure Waits (e : Refreshing) : Prop where
  used : e.state ≠ .created
  one : e.state = .started → e.timer.isSome = !e.isCalling
  never : e.isCalling = true → e.timer = none
  alive : e.timer.isSome = true ∨ e.isCalling = true → e.state = .started ∨ e.ownsItself = true

theorem waits_start (listId : ListId) (hasProxy : Bool) : (start listId hasProxy).Waits := by
  cases hasProxy with
  | false => exact ⟨nofun, nofun, nofun, nofun⟩
  | true => exact ⟨nofun, fun _ => rfl, fun _ => rfl, fun _ => .inl rfl⟩

theorem Waits.processTimer {e : Refreshing} (h : e.Waits) (htimer : e.timer.isSome = true)
    (hasProxy : Bool) : (e.processTimer hasProxy).Waits := by
  have hcalling : e.isCalling = false := by
    cases hcalling : e.isCalling with
    | false => rfl
    | true => simp [h.never hcalling] at htimer
  unfold Refreshing.processTimer
  cases hstate : e.state with
  | created => exact absurd hstate h.used
  | started =>
    cases hasProxy with
    | false => exact ⟨nofun, nofun, fun _ => rfl, by simp [hcalling]⟩
    | true => exact ⟨nofun, fun _ => rfl, fun _ => rfl, fun _ => .inl rfl⟩
  | stopped => exact ⟨nofun, nofun, fun _ => rfl, by simp [hcalling]⟩

theorem Waits.processDbus {e : Refreshing} (h : e.Waits) (hcalling : e.isCalling = true)
    (answer : Option Nat) : (e.processDbus answer).Waits := by
  have htimer := h.never hcalling
  unfold Refreshing.processDbus
  dsimp only
  split_ifs with hnothing
  · exact ⟨nofun, nofun, nofun, by simp [htimer]⟩
  · cases hstate : e.state with
    | created => exact absurd hstate h.used
    | started => exact ⟨nofun, fun _ => rfl, nofun, fun _ => .inl rfl⟩
    | stopped => exact ⟨nofun, nofun, nofun, by simp [htimer]⟩

theorem Waits.stop {e : Refreshing} (h : e.Waits) : e.stop.Waits := by
  unfold Refreshing.stop
  cases hstate : e.state with
  | created => exact absurd hstate h.used
  | started => exact ⟨nofun, nofun, h.never, fun _ => .inr rfl⟩
  | stopped =>
    refine ⟨nofun, nofun, h.never, fun hpending => .inr ?_⟩
    exact (h.alive hpending).resolve_left fun hstarted => nomatch hstate.symm.trans hstarted

theorem Waits.step {e e' : Refreshing} (h : e.Waits) {event : Event}
    (hstep : e.step event = some e') : e'.Waits := by
  cases event with
  | timer hasProxy =>
    obtain ⟨htimer, hmade⟩ := Option.ite_none_right_eq_some.mp hstep
    exact Option.some.inj hmade ▸ h.processTimer htimer hasProxy
  | answer listExpiryMs =>
    obtain ⟨hcalling, hmade⟩ := Option.ite_none_right_eq_some.mp hstep
    exact Option.some.inj hmade ▸ h.processDbus hcalling listExpiryMs
  | stop => exact Option.some.inj hstep ▸ h.stop

/-- All that the crawler sees of a step is that the enforcer may have stopped. -/
theorem seen_of_step {e e' : Refreshing} {event : Event} (hstep : e.step event = some e') :
    e'.seen = e.seen ∨ e'.seen = { e.seen with isStopped := true } := by
  cases event with
  | timer hasProxy =>
    obtain ⟨-, hmade⟩ := Option.ite_none_right_eq_some.mp hstep
    obtain rfl := Option.some.inj hmade
    unfold processTimer seen
    cases hstate : e.state <;> cases hasProxy <;> simp
  | answer listExpiryMs =>
    obtain ⟨-, hmade⟩ := Option.ite_none_right_eq_some.mp hstep
    obtain rfl := Option.some.inj hmade
    unfold processDbus seen
    dsimp only
    split_ifs
    · exact Or.inr rfl
    · cases hstate : e.state <;> simp
  | stop =>
    obtain rfl := Option.some.inj hstep
    unfold Refreshing.stop seen
    cases hstate : e.state <;> simp

/-- In all runs, an enforcer that has started waits, and nothing is called back in vain. -/
theorem waits_of_run (listId : ListId) (hasProxy : Bool) (es : List Event) {e : Refreshing}
    (hrun : runFrom step (start listId hasProxy) es = some e) : e.Waits :=
  Foundation.invariant_of_run (fun _ _ _ h hstep => h.step hstep) es
    (waits_start listId hasProxy) hrun

/-- The timer set for an answer. -/
theorem processDbus_timer {e : Refreshing} (h : e.state = .started) {listExpiryMs : Nat}
    (hpositive : 0 < listExpiryMs) :
    (e.processDbus (some listExpiryMs)).timer =
      some (computeEnforcerRefreshSeconds listExpiryMs) := by
  unfold processDbus
  simp only [Option.getD_some, Nat.ne_of_gt hpositive, if_false, h]

/-- For every expiry time of at least 1.25 seconds: the interval is plausible and ends before the
list expires, and so does every timer set by an enforcer that is told of this time, exactly if the
time is no longer than 3.5 minutes, or longer than half an hour. -/
theorem list_refreshed_in_time_iff (listExpiryMs : Nat) (hmin : 1250 ≤ listExpiryMs)
    (hmax : listExpiryMs * 80 < 2 ^ 64) :
    (RefreshedInTime listExpiryMs (computeEnforcerRefreshSeconds listExpiryMs) ∧
      ∀ (listId : ListId) (hasProxy : Bool) (es : List Event) (e : Refreshing),
        runFrom step (start listId hasProxy) es = some e → e.isCalling = true →
          e.state = .started →
            ∃ seconds, (e.processDbus (some listExpiryMs)).timer = some seconds ∧
              RefreshedInTime listExpiryMs seconds) ↔
    listExpiryMs ≤ 210000 ∨ 1800000 < listExpiryMs := by
  rw [← refreshedInTime_iff hmin hmax]
  refine and_iff_left_of_imp fun h listId hasProxy es e _ _ hstate => ⟨_, ?_, h⟩
  exact processDbus_timer hstate (by omega)

/-- A list that expires after a minute is refreshed after 48 seconds. -/
theorem list_refreshed_after_48_seconds :
    RefreshedInTime 60000 (computeEnforcerRefreshSeconds 60000) ∧
      computeEnforcerRefreshSeconds 60000 = 48 :=
  ⟨((list_refreshed_in_time_iff 60000 (by decide) (by decide)).mpr (.inl (by decide))).1, rfl⟩

/-- A list that expires after five minutes is refreshed after half an hour. -/
theorem list_refreshed_too_late :
    ¬∀ listExpiryMs, 1250 ≤ listExpiryMs → listExpiryMs * 80 < 2 ^ 64 →
      1 ≤ computeEnforcerRefreshSeconds listExpiryMs ∧
        computeEnforcerRefreshSeconds listExpiryMs ≤ 1800 ∧
          1000 * computeEnforcerRefreshSeconds listExpiryMs < listExpiryMs := by
  intro h
  have htime := (h 300000 (by decide) (by decide)).2.2
  revert htime
  decide

end Refreshing

end Drcpd.Crawler

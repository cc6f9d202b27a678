/-
  Timeout/Timer.lean --- a timer and its event source (`timeout.hh`, `timeout.cc`).

  The event sources attached to the main loop for a timer are part of the state.  The main
  loop calls `expired` for one of them; the callback of the timer, which is called from
  there, may stop and start the timer before it returns.  Event sources are numbered in the
  order in which they are attached, and attaching one never fails.

  `timer_knows_sources_iff` says when the timer knows all event sources that are attached.
-/
import Drcpd.Foundation.Run
import Mathlib.Data.List.Basic

set_option autoImplicit false

namespace Drcpd.Timeout

open Drcpd.Foundation

/-- `std::chrono::milliseconds::min`. -/
def millisecondsMin : Int := -9223372036854775808

/-- `minimum_timeout`, in milliseconds. -/
def minimumTimeout : Int := 50

/-- `Timer`, with the sources attached to the main loop, and the one whose callback is
being called. -/
structure Timer (C : Type) where
  timeoutEventSourceId : Option Nat := none
  timeout : Int := 0
  callback : Option C := none
  attached : List Nat := []
  firing : Option Nat := none
  nextSource : Nat := 0
  deriving DecidableEq, Repr

namespace Timer

variable {C : Type}

/-- `start`. -/
def start (t : Timer C) (timeout : Int) (callback : C) : Bool × Timer C :=
  if t.timeoutEventSourceId.isSome then (false, t)
  else
    (true,
      { t with
        timeoutEventSourceId := some t.nextSource
        timeout := if timeout < minimumTimeout then minimumTimeout else timeout
        callback := some callback
        attached := t.attached ++ [t.nextSource]
        nextSource := t.nextSource + 1 })

/-- `stop`. -/
def stop (t : Timer C) : Timer C :=
  match t.timeoutEventSourceId with
  | none => t
  | some id => { t with attached := t.attached.erase id, timeoutEventSourceId := none }

/-- `keep_or_restart`.  The callback is handed to `start` by reference to where it is
stored; without one, the program would be aborted there. -/
def keepOrRestart (t : Timer C) (timeout : Int) : Bool × Timer C :=
  if timeout = t.timeout ∨ timeout = 0 then (true, t)
  else
    let t := { t with timeoutEventSourceId := none }
    if timeout ≠ millisecondsMin then
      match t.callback with
      | none => (false, t)
      | some callback => (false, (t.start timeout callback).2)
    else (false, t)

/-- `expired`, up to the call of the callback, if it is called. -/
def expired (t : Timer C) (id : Nat) : Timer C :=
  match t.timeoutEventSourceId, t.callback with
  | none, _ => { t with attached := t.attached.erase id }
  | some _, none => { t with attached := t.attached.erase id, timeoutEventSourceId := none }
  | some _, some _ => { t with firing := some id }

/-- `expired`, when the callback has returned a timeout. -/
def returned (t : Timer C) (id : Nat) (timeout : Int) : Timer C :=
  let t := { t with firing := none }
  match t.keepOrRestart timeout with
  | (true, t) => t
  | (false, t) => { t with attached := t.attached.erase id }

/-- What happens to a timer. -/
inductive Event (C : Type) where
  | start (timeout : Int) (callback : C)
  | stop
  /-- The main loop dispatches an event source. -/
  | dispatch (id : Nat)
  /-- The callback returns. -/
  | returned (timeout : Int)
  deriving DecidableEq, Repr

/-- One event.  No source is dispatched while a callback is running. -/
def step (t : Timer C) : Event C → Option (Timer C)
  | .start timeout callback => some (t.start timeout callback).2
  | .stop => some t.stop
  | .dispatch id =>
      if t.firing = none ∧ id ∈ t.attached then some (t.expired id) else none
  | .returned timeout => t.firing.map fun id => t.returned id timeout

/-! ## The sources a timer knows -/

/-- The timer knows all sources that are attached: those it would stop. -/
def KnowsSources (t : Timer C) : Prop := t.attached = t.timeoutEventSourceId.toList

/-- A callback which has started its timer anew returns another timeout. -/
def Forgets (t : Timer C) : Event C → Prop
  | .returned timeout =>
      t.timeoutEventSourceId.isSome = true ∧ t.timeoutEventSourceId ≠ t.firing ∧
        timeout ≠ t.timeout ∧ timeout ≠ 0
  | .start _ _ | .stop | .dispatch _ => False

/-- What is known of a timer that knows its sources. -/
structure Known (t : Timer C) : Prop where
  knows : t.KnowsSources
  callback : t.timeoutEventSourceId.isSome = true → t.callback.isSome = true
  numbered : ∀ id ∈ t.attached, id < t.nextSource
  firing : ∀ id, t.firing = some id → id < t.nextSource

theorem known_init : ({} : Timer C).Known where
  knows := rfl
  callback := fun h => absurd h nofun
  numbered := fun _ h => absurd h List.not_mem_nil
  firing := fun _ h => absurd h nofun

variable {t : Timer C}

theorem start_of_isSome (h : t.timeoutEventSourceId.isSome = true) (timeout : Int)
    (callback : C) : t.start timeout callback = (false, t) :=
  if_pos h

theorem start_of_none (h : t.timeoutEventSourceId = none) (timeout : Int) (callback : C) :
    t.start timeout callback =
      (true,
        { t with
          timeoutEventSourceId := some t.nextSource
          timeout := if timeout < minimumTimeout then minimumTimeout else timeout
          callback := some callback
          attached := t.attached ++ [t.nextSource]
          nextSource := t.nextSource + 1 }) := by
  unfold start
  rw [h]
  rfl

theorem Known.start (h : t.Known) (timeout : Int) (callback : C) :
    (t.start timeout callback).2.Known := by
  cases hid : t.timeoutEventSourceId with
  | some id =>
    rw [start_of_isSome (by rw [hid]; rfl)]
    exact h
  | none =>
    have hknows : t.attached = [] := by
      have hknows := h.knows
      unfold KnowsSources at hknows
      rw [hid] at hknows
      exact hknows
    rw [start_of_none hid]
    exact
      { knows := by
          unfold KnowsSources
          dsimp only
          rw [hknows]
          rfl
        callback := fun _ => rfl
        numbered := by
          intro id hmem
          rw [hknows, List.nil_append, List.mem_singleton] at hmem
          exact hmem ▸ Nat.lt_succ_self _
        firing := fun id hid => Nat.lt_succ_of_lt (h.firing id hid) }

theorem Known.stop (h : t.Known) : t.stop.Known := by
  unfold Timer.stop
  cases hid : t.timeoutEventSourceId with
  | none => exact h
  | some id =>
    have hknows := h.knows
    unfold KnowsSources at hknows
    rw [hid] at hknows
    exact
      { knows := by
          unfold KnowsSources
          dsimp only
          rw [hknows]
          exact List.erase_cons_head ..
        callback := fun hsome => absurd hsome nofun
        numbered := fun id' hmem => h.numbered id' (List.mem_of_mem_erase hmem)
        firing := h.firing }

/-- Dispatching calls the callback, and nothing else. -/
theorem Known.expired (h : t.Known) {id : Nat} (hmem : id ∈ t.attached) :
    t.timeoutEventSourceId = some id ∧ t.expired id = { t with firing := some id } ∧
      (t.expired id).Known := by
  have hid : t.timeoutEventSourceId = some id := by
    rw [h.knows] at hmem
    exact Option.mem_toList.mp hmem
  obtain ⟨callback, hcallback⟩ := Option.isSome_iff_exists.mp (h.callback (by rw [hid]; rfl))
  have hexpired : t.expired id = { t with firing := some id } := by
    unfold Timer.expired
    rw [hid, hcallback]
  refine ⟨hid, hexpired, ?_⟩
  rw [hexpired]
  exact
    { knows := h.knows
      callback := h.callback
      numbered := h.numbered
      firing := fun id' heq => Option.some.inj heq ▸ h.numbered id hmem }

/-- The timer is started anew, or not at all, when the callback has returned. -/
theorem returned_of_ne {id : Nat} {timeout : Int} (hne : timeout ≠ t.timeout)
    (hzero : timeout ≠ 0) :
    t.returned id timeout =
      if timeout = millisecondsMin ∨ t.callback = none then
        { t with
          firing := none, timeoutEventSourceId := none, attached := t.attached.erase id }
      else
        { t with
          firing := none
          timeoutEventSourceId := some t.nextSource
          timeout := if timeout < minimumTimeout then minimumTimeout else timeout
          attached := (t.attached ++ [t.nextSource]).erase id
          nextSource := t.nextSource + 1 } := by
  unfold returned keepOrRestart
  dsimp only
  rw [if_neg (fun h => h.elim hne hzero)]
  cases hcallback : t.callback with
  | none =>
    rw [if_pos (Or.inr rfl)]
    split_ifs <;> rfl
  | some callback =>
    rcases Decidable.em (timeout = millisecondsMin) with hmin | hmin
    · rw [if_pos (Or.inl hmin), if_neg (not_not.mpr hmin)]
    · have hboth : ¬(timeout = millisecondsMin ∨ some callback = none) :=
        not_or.mpr ⟨hmin, nofun⟩
      rw [if_neg hboth, if_pos hmin]
      rfl

theorem returned_of_eq {id : Nat} {timeout : Int} (h : timeout = t.timeout ∨ timeout = 0) :
    t.returned id timeout = { t with firing := none } := by
  unfold returned keepOrRestart
  dsimp only
  rw [if_pos h]

/-- A callback that has stopped its timer, and returns that it is to be stopped. -/
theorem returned_of_none (h : t.timeoutEventSourceId = none) (id : Nat) :
    (t.returned id millisecondsMin).firing = none ∧
      (t.returned id millisecondsMin).timeoutEventSourceId = none := by
  rcases Decidable.em (millisecondsMin = t.timeout ∨ millisecondsMin = 0) with heq | hne
  · rw [returned_of_eq heq]
    exact ⟨rfl, h⟩
  · obtain ⟨hne, hzero⟩ := not_or.mp hne
    rw [returned_of_ne hne hzero, if_pos (Or.inl rfl)]
    exact ⟨rfl, rfl⟩

/-- A callback that has not started its timer anew leaves the timer in order. -/
theorem Known.returned (h : t.Known) {id : Nat} (hfiring : t.firing = some id) {timeout : Int}
    (hkeeps : ¬t.Forgets (.returned timeout)) : (t.returned id timeout).Known := by
  rcases Decidable.em (timeout = t.timeout ∨ timeout = 0) with heq | hne
  · rw [returned_of_eq heq]
    exact ⟨h.knows, h.callback, h.numbered, fun _ hid => absurd hid nofun⟩
  · obtain ⟨hne, hzero⟩ := not_or.mp hne
    have hlt := h.firing id hfiring
    -- The source that has been dispatched is the only one, or it has been stopped.
    have hattached : t.attached = [] ∨ t.attached = [id] := by
      cases hid : t.timeoutEventSourceId with
      | none =>
        left
        rw [h.knows, hid]
        rfl
      | some id' =>
        right
        have hsame : t.timeoutEventSourceId = t.firing := by
          by_contra hother
          exact hkeeps ⟨by rw [hid]; rfl, hother, hne, hzero⟩
        rw [h.knows, hsame, hfiring]
        rfl
    have herase : t.attached.erase id = [] ∧
        (t.attached ++ [t.nextSource]).erase id = [t.nextSource] := by
      rcases hattached with hnil | hone
      · rw [hnil]
        refine ⟨rfl, List.erase_of_not_mem fun hmem => ?_⟩
        exact Nat.ne_of_lt hlt (List.mem_singleton.mp hmem)
      · rw [hone]
        exact ⟨List.erase_cons_head .., List.erase_cons_head ..⟩
    rw [returned_of_ne hne hzero]
    rcases Decidable.em (timeout = millisecondsMin ∨ t.callback = none) with hno | hno
    · rw [if_pos hno]
      exact
        { knows := herase.1
          callback := fun hsome => absurd hsome nofun
          numbered := fun id' hmem => absurd (herase.1 ▸ hmem) List.not_mem_nil
          firing := fun _ hid => absurd hid nofun }
    · rw [if_neg hno]
      exact
        { knows := herase.2
          callback := fun _ => Option.isSome_iff_ne_none.mpr fun hnone => hno (Or.inr hnone)
          numbered := fun id' hmem => by
            rw [herase.2, List.mem_singleton] at hmem
            exact hmem ▸ Nat.lt_succ_self _
          firing := fun _ hid => absurd hid nofun }

/-- A callback that has started its timer anew leaves a source behind. -/
theorem Known.forgets (h : t.Known) {id : Nat} (hfiring : t.firing = some id) {timeout : Int}
    (hforgets : t.Forgets (.returned timeout)) : ¬(t.returned id timeout).KnowsSources := by
  obtain ⟨hsome, hother, hne, hzero⟩ := hforgets
  obtain ⟨id', hid⟩ := Option.isSome_iff_exists.mp hsome
  have hattached : t.attached = [id'] := by
    rw [h.knows, hid]
    rfl
  have hne' : id' ≠ id := fun heq => hother (by rw [hid, hfiring, heq])
  have hlt : id' < t.nextSource := h.numbered id' (hattached ▸ List.mem_cons_self)
  unfold KnowsSources
  rw [returned_of_ne hne hzero]
  rcases Decidable.em (timeout = millisecondsMin ∨ t.callback = none) with hno | hno
  · rw [if_pos hno]
    dsimp only
    rw [hattached, List.erase_of_not_mem fun hmem => hne' (List.mem_singleton.mp hmem).symm]
    exact List.cons_ne_nil _ _
  · rw [if_neg hno]
    dsimp only
    rw [hattached, List.erase_of_not_mem]
    · exact fun hsame => Nat.ne_of_lt hlt (List.cons.inj hsame).1
    · intro hmem
      rcases List.mem_cons.mp hmem with heq | hmem
      · exact hne' heq.symm
      · exact Nat.ne_of_lt (h.firing id hfiring) (List.mem_singleton.mp hmem)

/-- The step lemma. -/
theorem Known.step (h : t.Known) {e : Event C} {t' : Timer C} (hkeeps : ¬t.Forgets e)
    (hstep : t.step e = some t') : t'.Known := by
  cases e with
  | start timeout callback =>
    obtain rfl := Option.some.inj hstep
    exact h.start timeout callback
  | stop =>
    obtain rfl := Option.some.inj hstep
    exact h.stop
  | dispatch id =>
    unfold Timer.step at hstep
    dsimp only at hstep
    split_ifs at hstep with hdispatch
    obtain rfl := Option.some.inj hstep
    exact (h.expired hdispatch.2).2.2
  | returned timeout =>
    obtain ⟨id, hfiring, rfl⟩ := Option.map_eq_some_iff.mp hstep
    exact h.returned hfiring hkeeps

/-- In every run of a timer, its callbacks stopping and starting it as they like: the timer
knows all sources that are attached to the main loop, exactly if no callback that has
started the timer anew returns another timeout.  A source the timer does not know can
neither be stopped nor does it keep the timeout it has been started for. -/
theorem timer_knows_sources_iff (es : List (Event C)) (t : Timer C)
    (hrun : runFrom step {} es = some t) :
    AlongRun step (fun t e => ∀ t', t.step e = some t' → t'.KnowsSources) ({} : Timer C) es ↔
      AlongRun step (fun t e => ¬t.Forgets e) {} es := by
  refine alongRun_iff_of_run (I := Known) ?_ ?_ es known_init hrun
  · intro t e t' h hkeeps hstep
    exact h.step hkeeps hstep
  · intro t e t' h hstep
    constructor
    · intro hknows hforgets
      cases e with
      | start timeout callback => exact hforgets
      | stop => exact hforgets
      | dispatch id => exact hforgets
      | returned timeout =>
        obtain ⟨id, hfiring, rfl⟩ := Option.map_eq_some_iff.mp hstep
        exact h.forgets hfiring hforgets (hknows _ hstep)
    · intro hkeeps t'' hstep'
      rw [← Option.some.inj (hstep.symm.trans hstep')]
      exact (h.step hkeeps hstep).knows

/-- A callback that stops its timer and has it started again with the timeout it returns. -/
theorem timer_knows_sources_iff_restarted :
    ∃ t : Timer Unit, runFrom step {} [.start 15000 (), .dispatch 0, .stop, .returned 20000] =
        some t ∧ t.attached = [1] ∧
      AlongRun step (fun t e => ∀ t', t.step e = some t' → t'.KnowsSources) ({} : Timer Unit)
        [.start 15000 (), .dispatch 0, .stop, .returned 20000] := by
  refine ⟨_, rfl, rfl, (timer_knows_sources_iff _ _ rfl).mpr ?_⟩
  refine AlongRun.cons_of_step id rfl (AlongRun.cons_of_step id rfl
    (AlongRun.cons_of_step id rfl (AlongRun.cons_of_step ?_ rfl trivial)))
  exact fun hforgets => Bool.false_ne_true hforgets.1

end Timer

end Drcpd.Timeout

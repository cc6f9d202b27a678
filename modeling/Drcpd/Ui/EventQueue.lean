/-
  Ui/EventQueue.lean --- the queue of UI events (`UI::EventQueue`) between the threads that
  store events and the main thread, which dispatches them in
  `ViewManager::Manager::process_pending_events`.

  The critical sections of `post` and `take` are one step each, as they hold the lock of the
  queue.  The trigger is called in a step of its own, after any number of steps of the other
  threads.
-/
import Drcpd.Foundation.Run
import Mathlib.Data.List.Basic

set_option autoImplicit false

namespace Drcpd.Ui

open Foundation (runFrom runFrom_nil runFrom_cons_eq_some invariant_of_run)

/-! ## Events -/

/-- `UI::EventTypeID`. -/
inductive EventTypeId
  | inputEvent
  | broadcastEvent
  | viewManagerEvent
  deriving DecidableEq, Repr

/-- `UI::EVENT_ID_MASK` and `UI::EVENT_TYPE_SHIFT`. -/
def eventIdMask : Nat := 0x0000ffff
def eventTypeShift : Nat := 16

/-- `UI::get_event_type_id`, for the values that the enumeration has. -/
def getEventTypeId (eventId : Nat) : Option EventTypeId :=
  match eventId >>> eventTypeShift with
  | 1 => some .inputEvent
  | 2 => some .broadcastEvent
  | 3 => some .viewManagerEvent
  | _ => none

/-- `UI::to_event_type`. -/
def toEventType (eventId : Nat) : Nat := eventId &&& eventIdMask

/-- The specializations of `UI::Events::BaseEvent`. -/
inductive BaseEvent (π : Type)
  | viewInput (eventId : Nat) (parameters : π)
  | broadcast (eventId : Nat) (parameters : π)
  | viewMan (eventId : Nat) (parameters : π)
  deriving DecidableEq, Repr

variable {π τ : Type}

/-- The event that `ViewManager::Manager::store_event` makes. -/
def makeEvent (eventId : Nat) (parameters : π) : Option (BaseEvent π) :=
  (getEventTypeId eventId).map fun
    | .inputEvent => .viewInput (toEventType eventId) parameters
    | .broadcastEvent => .broadcast (toEventType eventId) parameters
    | .viewManagerEvent => .viewMan (toEventType eventId) parameters

/-! ## The queue -/

/-- `UI::EventQueue`. -/
structure EventQueue (π : Type) where
  queue : List (BaseEvent π)
  deriving DecidableEq, Repr

namespace EventQueue

/-- The critical section of `post`.  It also tells whether to trigger the processing. -/
def post (q : EventQueue π) (event : BaseEvent π) : Bool × EventQueue π :=
  let needTrigger := q.queue.isEmpty
  (needTrigger, { queue := q.queue ++ [event] })

/-- `take`. -/
def take (q : EventQueue π) : Option (BaseEvent π) × EventQueue π :=
  match q.queue with
  | [] => (none, q)
  | event :: queue => (some event, { queue := queue })

end EventQueue

/-! ## The threads -/

/-- Where the main thread is in `process_pending_events`. -/
inductive Consumer
  /-- It does something else. -/
  | outside
  /-- It is about to call `take`. -/
  | taking
  /-- It is inside `dispatch_event`. -/
  | dispatching
  deriving DecidableEq, Repr

/-- The number of steps to the end of the loop if the queue is empty. -/
def Consumer.work : Consumer → Nat
  | .outside => 0
  | .taking => 1
  | .dispatching => 2

/-- The threads and the queue. -/
structure System (π τ : Type) where
  events : EventQueue π
  /-- The threads that are about to call the trigger function. -/
  triggering : List τ
  /-- How often `process_pending_events` is going to be called by the main loop. -/
  triggers : Nat
  consumer : Consumer
  /-- The events taken so far. -/
  taken : List (BaseEvent π)
  deriving DecidableEq, Repr

/-- The steps of the threads. -/
inductive Step (π τ : Type)
  /-- A thread calls `store_event` and leaves the critical section of `post`. -/
  | post (thread : τ) (eventId : Nat) (parameters : π)
  /-- A thread calls the trigger function, as the queue was empty. -/
  | trigger (thread : τ)
  /-- The main loop calls `process_pending_events`. -/
  | process
  /-- `process_pending_events` calls `take`, and returns where there is no event. -/
  | take
  /-- `dispatch_event` returns. -/
  | dispatched
  deriving DecidableEq, Repr

namespace Step

def isPost : Step π τ → Bool
  | .post .. => true
  | _ => false

/-- The event that the step puts into the queue. -/
def event? : Step π τ → Option (BaseEvent π)
  | .post _ eventId parameters => makeEvent eventId parameters
  | _ => none

/-- The events stored in a run, in the order of the critical sections of `post`. -/
def stored (es : List (Step π τ)) : List (BaseEvent π) := es.filterMap event?

end Step

namespace System

/-- The start of the program. -/
def start : System π τ :=
  { events := { queue := [] }, triggering := [], triggers := 0, consumer := .outside,
    taken := [] }

variable [DecidableEq τ]

/-- Whether a thread is in code that may call `store_event`. -/
def mayPost (main : τ) (s : System π τ) (thread : τ) : Bool :=
  thread ∉ s.triggering ∧ (thread = main → s.consumer ≠ .taking)

/-- One step, where `main` is the main thread. -/
def step (main : τ) (s : System π τ) : Step π τ → Option (System π τ)
  | .post thread eventId parameters =>
      match makeEvent eventId parameters with
      | none => none
      | some event =>
          if !s.mayPost main thread then none
          else
            let (needTrigger, events) := s.events.post event
            some { s with
              events := events
              triggering := if needTrigger then thread :: s.triggering else s.triggering }
  | .trigger thread =>
      if thread ∉ s.triggering then none
      else some { s with
        triggering := s.triggering.erase thread, triggers := s.triggers + 1 }
  | .process =>
      match s.triggers, s.consumer with
      | triggers + 1, .outside =>
          if main ∈ s.triggering then none
          else some { s with triggers := triggers, consumer := .taking }
      | _, _ => none
  | .take =>
      match s.consumer with
      | .taking =>
          match s.events.take with
          | (none, events) => some { s with events := events, consumer := .outside }
          | (some event, events) =>
              some { s with
                events := events, consumer := .dispatching, taken := s.taken ++ [event] }
      | _ => none
  | .dispatched =>
      match s.consumer with
      | .dispatching =>
          if main ∈ s.triggering then none else some { s with consumer := .taking }
      | _ => none

/-! ## The steps -/

/-- Everything that a step can be. -/
theorem step_cases {main : τ} {s s' : System π τ} {e : Step π τ} (h : s.step main e = some s') :
    (∃ thread eventId parameters event, e = .post thread eventId parameters ∧
      makeEvent eventId parameters = some event ∧
      s' = { s with
        events := { queue := s.events.queue ++ [event] }
        triggering :=
          if s.events.queue = [] then thread :: s.triggering else s.triggering }) ∨
    (∃ thread ∈ s.triggering, e = .trigger thread ∧
      s' = { s with triggering := s.triggering.erase thread, triggers := s.triggers + 1 }) ∨
    (∃ triggers, e = .process ∧ s.triggers = triggers + 1 ∧ s.consumer = .outside ∧
      s' = { s with triggers := triggers, consumer := .taking }) ∨
    (e = .take ∧ s.consumer = .taking ∧ s.events.queue = [] ∧
      s' = { s with consumer := .outside }) ∨
    (∃ event queue, e = .take ∧ s.consumer = .taking ∧ s.events.queue = event :: queue ∧
      s' = { s with
        events := { queue := queue }, consumer := .dispatching,
        taken := s.taken ++ [event] }) ∨
    (e = .dispatched ∧ s.consumer = .dispatching ∧ s' = { s with consumer := .taking }) := by
  cases e with
  | post thread eventId parameters =>
      simp only [step] at h
      cases hevent : makeEvent eventId parameters with
      | none => simp [hevent] at h
      | some event =>
          simp only [hevent] at h
          split at h
          · simp at h
          · refine .inl ⟨thread, eventId, parameters, event, rfl, hevent, ?_⟩
            simpa [EventQueue.post] using h.symm
  | trigger thread =>
      simp only [step] at h
      split at h
      · simp at h
      · rename_i hmem
        exact .inr (.inl ⟨thread, not_not.mp hmem, rfl, by simpa using h.symm⟩)
  | process =>
      simp only [step] at h
      split at h
      · rename_i triggers htriggers hconsumer
        split at h
        · simp at h
        · exact .inr (.inr (.inl ⟨triggers, rfl, htriggers, hconsumer, by simpa using h.symm⟩))
      · simp at h
  | take =>
      simp only [step] at h
      split at h
      · rename_i hconsumer
        cases hqueue : s.events.queue with
        | nil =>
            refine .inr (.inr (.inr (.inl ⟨rfl, hconsumer, rfl, ?_⟩)))
            simpa [EventQueue.take, hqueue] using h.symm
        | cons event queue =>
            refine .inr (.inr (.inr (.inr (.inl ⟨event, queue, rfl, hconsumer, rfl, ?_⟩))))
            simpa [EventQueue.take, hqueue] using h.symm
      · simp at h
  | dispatched =>
      simp only [step] at h
      split at h
      · rename_i hconsumer
        split at h
        · simp at h
        · refine .inr (.inr (.inr (.inr (.inr ⟨rfl, hconsumer, ?_⟩))))
          simpa using h.symm
      · simp at h

/-! ## No wake-up is lost -/

/-- The queue is empty, or somebody is going to look into it. -/
def Woken (s : System π τ) : Prop :=
  s.events.queue ≠ [] → 0 < s.triggers ∨ s.triggering ≠ [] ∨ s.consumer ≠ .outside

theorem step_woken {main : τ} {s s' : System π τ} {e : Step π τ} (hs : s.Woken)
    (h : s.step main e = some s') : s'.Woken := by
  intro hqueue
  obtain ⟨thread, _, _, event, -, -, rfl⟩ | ⟨thread, -, -, rfl⟩ | ⟨triggers, -, -, -, rfl⟩ |
    ⟨-, -, hempty, rfl⟩ | ⟨event, queue, -, -, -, rfl⟩ | ⟨-, -, rfl⟩ := step_cases h
  · by_cases hempty : s.events.queue = []
    · simp [hempty]
    · simpa [hempty] using hs hempty
  · simp
  · simp
  · exact absurd hempty hqueue
  · simp
  · simp

theorem woken_of_run {main : τ} (es : List (Step π τ)) {s : System π τ}
    (hrun : runFrom (step main) start es = some s) : s.Woken :=
  invariant_of_run (fun _ _ _ hs h => step_woken hs h) es (fun h => absurd rfl h) hrun

/-! ## The order of the events -/

/-- The events taken followed by those in the queue. -/
def history (s : System π τ) : List (BaseEvent π) := s.taken ++ s.events.queue

theorem step_history {main : τ} {s s' : System π τ} {e : Step π τ}
    (h : s.step main e = some s') : s'.history = s.history ++ e.event?.toList := by
  obtain ⟨thread, eventId, parameters, event, rfl, hevent, rfl⟩ | ⟨thread, -, rfl, rfl⟩ |
    ⟨triggers, rfl, -, -, rfl⟩ | ⟨rfl, -, -, rfl⟩ | ⟨event, queue, rfl, -, hqueue, rfl⟩ |
    ⟨rfl, -, rfl⟩ := step_cases h
  · simp [history, Step.event?, hevent]
  · simp [history, Step.event?]
  · simp [history, Step.event?]
  · simp [history, Step.event?]
  · simp [history, Step.event?, hqueue]
  · simp [history, Step.event?]

theorem run_history {main : τ} (es : List (Step π τ)) {s t : System π τ}
    (hrun : runFrom (step main) s es = some t) : t.history = s.history ++ Step.stored es := by
  induction es generalizing s with
  | nil =>
      rw [runFrom_nil, Option.some.injEq] at hrun
      simp [Step.stored, hrun]
  | cons e es ih =>
      obtain ⟨s', hstep, hrest⟩ := runFrom_cons_eq_some.mp hrun
      rw [ih hrest, step_history hstep]
      cases hevent : e.event? <;> simp [Step.stored, hevent]

/-! ## Every event is taken -/

/-- The number of steps, other than those that store further events, after which the event
stored as number `n` has been taken. -/
def stepsUntilTaken (s : System π τ) (n : Nat) : Nat :=
  3 * s.triggering.length + 2 * s.triggers + s.consumer.work + 2 * (n + 1 - s.taken.length)

/-- A step that stores an event does not move the events in the queue, and all the other steps
bring them closer to the main thread. -/
theorem step_stepsUntilTaken {main : τ} {s s' : System π τ} {e : Step π τ} {n : Nat}
    (hn : s.taken.length ≤ n) (hstored : n < s.history.length)
    (h : s.step main e = some s') :
    s'.stepsUntilTaken n + (if e.isPost then 0 else 1) = s.stepsUntilTaken n := by
  have hqueue : s.events.queue ≠ [] := by
    intro hempty
    simp [history, hempty] at hstored
    omega
  obtain ⟨thread, eventId, parameters, event, rfl, -, rfl⟩ | ⟨thread, hmem, rfl, rfl⟩ |
    ⟨triggers, rfl, htriggers, hconsumer, rfl⟩ | ⟨rfl, -, hempty, rfl⟩ |
    ⟨event, queue, rfl, hconsumer, -, rfl⟩ | ⟨rfl, hconsumer, rfl⟩ := step_cases h
  · simp [stepsUntilTaken, Step.isPost, hqueue]
  · have hlength := List.length_erase_of_mem hmem
    have hpos := List.length_pos_of_mem hmem
    simp only [stepsUntilTaken, Step.isPost, hlength]
    simp
    omega
  · simp [stepsUntilTaken, Step.isPost, htriggers, hconsumer, Consumer.work]
    omega
  · exact absurd hempty hqueue
  · simp [stepsUntilTaken, Step.isPost, hconsumer, Consumer.work]
    omega
  · simp [stepsUntilTaken, Step.isPost, hconsumer, Consumer.work]
    omega

theorem step_taken {main : τ} {s s' : System π τ} {e : Step π τ}
    (h : s.step main e = some s') : s.taken <+: s'.taken := by
  obtain ⟨_, _, _, _, -, -, rfl⟩ | ⟨_, -, -, rfl⟩ | ⟨_, -, -, -, rfl⟩ | ⟨-, -, -, rfl⟩ |
    ⟨event, _, -, -, -, rfl⟩ | ⟨-, -, rfl⟩ := step_cases h
  all_goals simp

theorem run_taken {main : τ} (es : List (Step π τ)) {s t : System π τ}
    (hrun : runFrom (step main) s es = some t) : s.taken <+: t.taken :=
  invariant_of_run (I := fun u => s.taken <+: u.taken)
    (fun _ _ _ hs h => hs.trans (step_taken h)) es (List.prefix_refl _) hrun

theorem run_stepsUntilTaken {main : τ} (es : List (Step π τ)) {s t : System π τ} {n : Nat}
    (hstored : n < s.history.length) (hrun : runFrom (step main) s es = some t)
    (hwork : s.stepsUntilTaken n ≤ es.countP (fun e => !e.isPost)) : n < t.taken.length := by
  induction es generalizing s with
  | nil =>
      rw [runFrom_nil, Option.some.injEq] at hrun
      subst hrun
      simp only [List.countP_nil, stepsUntilTaken] at hwork
      omega
  | cons e es ih =>
      obtain ⟨s', hstep, hrest⟩ := runFrom_cons_eq_some.mp hrun
      by_cases hn : s.taken.length ≤ n
      · have hstored' : n < s'.history.length := by
          rw [step_history hstep, List.length_append]
          omega
        refine ih hstored' hrest ?_
        have hless := step_stepsUntilTaken hn hstored hstep
        rw [List.countP_cons] at hwork
        cases hpost : e.isPost <;> simp [hpost] at hless hwork <;> omega
      · exact Nat.lt_of_lt_of_le (Nat.lt_of_not_le hn) (run_taken _ hrun).length_le

/-- As long as there are events in the queue, something other than storing events can happen. -/
theorem exists_step_of_woken (main : τ) {s : System π τ} (hs : s.Woken)
    (hqueue : s.events.queue ≠ []) :
    ∃ e : Step π τ, e.isPost = false ∧ (s.step main e).isSome := by
  cases htriggering : s.triggering with
  | cons thread triggering =>
      exact ⟨.trigger thread, rfl, by simp [step, htriggering]⟩
  | nil =>
      cases hconsumer : s.consumer with
      | taking =>
          refine ⟨.take, rfl, ?_⟩
          cases hevents : s.events.queue <;> simp [step, hconsumer, EventQueue.take, hevents]
      | dispatching => exact ⟨.dispatched, rfl, by simp [step, hconsumer, htriggering]⟩
      | outside =>
          have hpos : 0 < s.triggers := by
            simpa [htriggering, hconsumer] using hs hqueue
          obtain ⟨triggers, htriggers⟩ := Nat.exists_eq_succ_of_ne_zero (Nat.ne_of_gt hpos)
          exact ⟨.process, rfl, by simp [step, htriggers, hconsumer, htriggering]⟩

/-- Thread 1 stores an event and has not called the trigger function when the main thread, thread
0, stores another. -/
def twoThreads : List (Step Nat Nat) :=
  [.post 1 0x10001 5, .post 0 0x20002 6, .trigger 1, .process, .take]

end System

end Drcpd.Ui

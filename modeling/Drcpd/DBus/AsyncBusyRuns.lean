/-
  DBus/AsyncBusyRuns.lean --- all calls of a busy source, and its counter.

  `ready` is run by the callback of GLib, and by `wait_for_result` where it finds that the
  call has been cancelled.  `CallRun.Effect` says what each step does to a call; everything
  else follows from that.
-/
import Drcpd.Foundation.Run
import Drcpd.Foundation.Total
import Drcpd.DBus.AsyncBusy

set_option autoImplicit false

namespace Drcpd.DBus

open Foundation (AlongRun runFrom total)
open Busy (Source GlobalBusyState Request maxCount)

variable {R E : Type}

/-! ## What the parts of a call do -/

namespace AsyncCall

variable {c : AsyncCall R E}

theorem finishWait_directly (hcancelled : c.isCancelled = true) :
    c.finishWait = (.readyDirectly, { c with callState := .cancelingDirectly }) :=
  if_pos hcancelled

/-- Where the call has not been cancelled, its result is not reported. -/
theorem finishWait_quietly (hactive : c.isActive = true) (hcancelled : c.isCancelled = false) :
    c.finishWait.1 ≠ .readyDirectly ∧ c.finishWait.2.isActive = true ∧
      c.finishWait.2.haveReportedResult = c.haveReportedResult := by
  obtain ⟨state, cancelled, restart, promise, taken, value, reported⟩ := c
  cases hcancelled
  cases state with
  | initialized => cases hactive
  | _ =>
    rcases promise with _ | (error | result)
    all_goals exact ⟨nofun, rfl, rfl⟩

theorem beginWait_directly (hfuture : c.getsFuture = true) (hcancelled : c.isCancelled = true) :
    c.beginWait =
      (some .readyDirectly, { c with futureTaken := true, callState := .cancelingDirectly }) := by
  obtain ⟨state, cancelled, restart, promise, taken, value, reported⟩ := c
  cases hcancelled
  cases taken with
  | true => cases state <;> cases hfuture
  | false => cases state <;> first | rfl | cases hfuture

theorem beginWait_quietly (hactive : c.isActive = true)
    (hfits : ¬(c.getsFuture = true ∧ c.isCancelled = true)) :
    c.beginWait.1 ≠ some .readyDirectly ∧ c.beginWait.2.isActive = true ∧
      c.beginWait.2.haveReportedResult = c.haveReportedResult := by
  obtain ⟨state, cancelled, restart, promise, taken, value, reported⟩ := c
  cases taken with
  | true => cases state <;> exact ⟨nofun, hactive, rfl⟩
  | false =>
    cases cancelled with
    | true => cases state <;> first | exact absurd ⟨rfl, rfl⟩ hfits | exact ⟨nofun, rfl, rfl⟩
    | false =>
      cases state with
      | initialized => cases hactive
      | _ => rcases promise with _ | (error | result) <;> exact ⟨nofun, rfl, rfl⟩

theorem cancel_same (c : AsyncCall R E) (willBeRestarted : Bool) :
    (c.cancel willBeRestarted).2.isCancelled = true ∧
      (c.cancel willBeRestarted).2.isActive = c.isActive ∧
      (c.cancel willBeRestarted).2.getsFuture = c.getsFuture ∧
      (c.cancel willBeRestarted).2.haveReportedResult = c.haveReportedResult := by
  unfold cancel
  split
  · next hcancelled => exact ⟨hcancelled, rfl, rfl, rfl⟩
  · exact ⟨rfl, rfl, rfl, rfl⟩

theorem markCanceled_isActive (c : AsyncCall R E) : c.markCanceled.isActive = true := by
  unfold markCanceled isActive
  dsimp only
  cases c.isCanceledForRestart <;> rfl

theorem putResult_isActive (c : AsyncCall R E) (answer : Except E R) :
    (c.putResult answer).isActive = true := by
  unfold putResult
  cases answer with
  | ok value => cases c.promise <;> rfl
  | error e => rfl

theorem putResult_reported (c : AsyncCall R E) (answer : Except E R) :
    (c.putResult answer).haveReportedResult = c.haveReportedResult := by
  unfold putResult
  cases answer with
  | ok value => cases c.promise <;> rfl
  | error e => rfl

/-- The result of `ready_locked` on call `c`: what has been reported is not reported again. -/
structure Reports (c : AsyncCall R E) (result : Bool × AsyncCall R E) : Prop where
  first : result.1 = !c.haveReportedResult
  reported : result.2.haveReportedResult = true
  active : result.2.isActive = true

theorem readyDirectly_reports (c : AsyncCall R E) : c.Reports c.readyDirectly :=
  ⟨rfl, rfl, c.markCanceled_isActive⟩

theorem readyLocked_reports (c : AsyncCall R E) (answer : Except E R) :
    c.Reports (c.readyLocked answer) := by
  unfold readyLocked
  split
  · exact ⟨rfl, rfl, c.markCanceled_isActive⟩
  · exact ⟨congrArg not (c.putResult_reported answer), rfl, c.putResult_isActive answer⟩

end AsyncCall

/-! ## What a step does to a call -/

namespace CallEvent

/-- What a step of a call asks of the busy state. -/
def busyRequest (src : Source) : CallEvent R E → Option Request
  | .invoke => some (.set src)
  | .clear => some (.clear src)
  | .cancel _ | .beginWait | .endWait _ | .cancelAndDelete | .ready _ => none

end CallEvent

namespace CallRun

variable {c c' : CallRun R E}

/-- Nothing is reported. -/
structure Quiet (c c' : CallRun R E) : Prop where
  active : c'.call.isActive = true
  reported : c'.call.haveReportedResult = c.call.haveReportedResult
  calledBack : c'.calledBack = c.calledBack
  reports : c'.reports = c.reports
  toClear : c'.toClear = c.toClear
  clears : c'.clears = c.clears

/-- `ready` has been run: the result is reported if it has not been reported before, and
`Busy::clear` is going to be called in any case. -/
structure Readied (c c' : CallRun R E) : Prop where
  active : c'.call.isActive = true
  reported : c'.call.haveReportedResult = true
  reports : c'.reports = c.reports + (!c.call.haveReportedResult).toNat
  toClear : c'.toClear = c.toClear + 1
  clears : c'.clears = c.clears

/-- All that a step can do. -/
inductive Effect (c c' : CallRun R E) : CallEvent R E → Prop where
  | invoked (inactive : c.call.isActive = false)
      (made : c' = { c with call := c.call.invoke }) : Effect c c' .invoke
  | unchanged {e : CallEvent R E} (fits : c.Fits e) (active : c.call.isActive = true)
      (request : ∀ src, e.busyRequest src = none) (quiet : Quiet c c') : Effect c c' e
  | reportedDirectly {e : CallEvent R E} (unfit : ¬c.Fits e) (active : c.call.isActive = true)
      (calledBack : c'.calledBack = c.calledBack) (readied : Readied c c') : Effect c c' e
  | readied {answer : Except E R} (active : c.call.isActive = true)
      (waits : c.calledBack = false) (calledBack : c'.calledBack = true)
      (readied : Readied c c') : Effect c c' (.ready answer)
  | cleared (pending : 0 < c.toClear)
      (made : c' = { c with toClear := c.toClear - 1, clears := c.clears + 1 }) :
      Effect c c' .clear

variable {d : CallRun R E}

theorem Readied.of_reports {call : AsyncCall R E} {result : Bool × AsyncCall R E}
    (h : call.Reports result) (hreported : call.haveReportedResult = c.call.haveReportedResult)
    (hreports : d.reports = c.reports) (htoClear : d.toClear = c.toClear)
    (hclears : d.clears = c.clears) : Readied c (d.readied result) where
  active := h.active
  reported := h.reported
  reports := by
    unfold readied
    dsimp only
    rw [hreports, h.first, hreported]
  toClear := congrArg (· + 1) htoClear
  clears := hclears

/-- `wait_for_result` comes to its end without reporting anything. -/
theorem Quiet.of_waited {result : WaitOutcome × AsyncCall R E}
    (hd : Quiet c { d with call := c.call }) (houtcome : result.1 ≠ .readyDirectly)
    (hactive : result.2.isActive = true)
    (hreported : result.2.haveReportedResult = c.call.haveReportedResult) :
    Quiet c (d.waited result) := by
  unfold waited
  split
  · next hdirectly => exact absurd hdirectly houtcome
  all_goals exact ⟨hactive, hreported, hd.calledBack, hd.reports, hd.toClear, hd.clears⟩

theorem beginWait_quietly (hactive : c.call.isActive = true)
    (hfits : ¬(c.call.getsFuture = true ∧ c.call.isCancelled = true)) :
    Quiet c c.beginWait := by
  obtain ⟨houtcome, hactive', hreported⟩ := AsyncCall.beginWait_quietly hactive hfits
  unfold beginWait
  split
  · next call heq =>
    rw [heq] at hactive' hreported
    exact ⟨hactive', hreported, rfl, rfl, rfl, rfl⟩
  · next outcome call heq =>
    rw [heq] at houtcome hactive' hreported
    refine Quiet.of_waited ⟨hactive, rfl, rfl, rfl, rfl, rfl⟩ (fun h => houtcome ?_) hactive'
      hreported
    exact congrArg some h

theorem beginWait_directly (hfuture : c.call.getsFuture = true)
    (hcancelled : c.call.isCancelled = true) :
    Readied c c.beginWait ∧ c.beginWait.calledBack = c.calledBack := by
  unfold beginWait
  rw [AsyncCall.beginWait_directly hfuture hcancelled]
  exact ⟨Readied.of_reports (AsyncCall.readyDirectly_reports _) rfl rfl rfl rfl, rfl⟩

/-- Every step has one of the effects. -/
theorem step_effect {e : CallEvent R E} (hstep : c.step e = some c') : Effect c c' e := by
  cases e with
  | invoke =>
    obtain ⟨hinactive, hmade⟩ := Option.ite_none_left_eq_some.mp hstep
    cases hmade
    exact .invoked (Bool.eq_false_iff.mpr hinactive) rfl
  | cancel willBeRestarted =>
    obtain ⟨hactive, hmade⟩ := Option.ite_none_right_eq_some.mp hstep
    cases hmade
    obtain ⟨-, hsame, -, hreported⟩ := c.call.cancel_same willBeRestarted
    exact .unchanged trivial hactive (fun _ => rfl)
      ⟨hsame.trans hactive, hreported, rfl, rfl, rfl, rfl⟩
  | beginWait =>
    obtain ⟨hactive, hmade⟩ := Option.ite_none_right_eq_some.mp hstep
    cases hmade
    by_cases hfits : c.call.getsFuture = true ∧ c.call.isCancelled = true
    · obtain ⟨hreadied, hback⟩ := beginWait_directly hfits.1 hfits.2
      exact .reportedDirectly (fun h => h hfits) hactive hback hreadied
    · exact .unchanged hfits hactive (fun _ => rfl) (beginWait_quietly hactive hfits)
  | endWait mayContinue =>
    obtain ⟨hguard, hmade⟩ := Option.ite_none_right_eq_some.mp hstep
    obtain ⟨hactive, -⟩ := Bool.and_eq_true_iff.mp hguard
    by_cases hpromise : c.call.promise.isSome = true
    · rw [if_pos hpromise] at hmade
      cases hmade
      by_cases hcancelled : c.call.isCancelled = true
      · rw [AsyncCall.finishWait_directly hcancelled]
        refine .reportedDirectly (fun h => ?_) hactive rfl
          (Readied.of_reports (AsyncCall.readyDirectly_reports _) rfl rfl rfl rfl)
        exact absurd (h.1.symm.trans hcancelled) Bool.false_ne_true
      · have hnot : c.call.isCancelled = false := Bool.eq_false_iff.mpr hcancelled
        obtain ⟨houtcome, hactive', hreported⟩ := AsyncCall.finishWait_quietly hactive hnot
        exact .unchanged ⟨hnot, hpromise⟩ hactive (fun _ => rfl)
          (Quiet.of_waited ⟨hactive, rfl, rfl, rfl, rfl, rfl⟩ houtcome hactive' hreported)
    · rw [if_neg hpromise] at hmade
      obtain ⟨-, hmade⟩ := Option.ite_none_left_eq_some.mp hmade
      cases hmade
      rw [AsyncCall.finishWait_directly rfl]
      exact .reportedDirectly (fun h => hpromise h.2) hactive rfl
        (Readied.of_reports (AsyncCall.readyDirectly_reports _) rfl rfl rfl rfl)
  | cancelAndDelete =>
    obtain ⟨hactive, hmade⟩ := Option.ite_none_right_eq_some.mp hstep
    cases hmade
    obtain ⟨hcancelled, hsame, hfuture, hreported⟩ := c.call.cancel_same false
    by_cases hfits : c.call.getsFuture = false
    · refine .unchanged hfits hactive (fun _ => rfl) ?_
      have hquiet := beginWait_quietly (c := { c with call := (c.call.cancel false).2 })
        (hsame.trans hactive) (fun h => ?_)
      · exact ⟨hquiet.active, hquiet.reported.trans hreported, hquiet.calledBack,
          hquiet.reports, hquiet.toClear, hquiet.clears⟩
      · exact absurd (hfits.symm.trans (hfuture.symm.trans h.1)) Bool.false_ne_true
    · obtain ⟨hreadied, hback⟩ :=
        beginWait_directly (c := { c with call := (c.call.cancel false).2 })
          (hfuture.trans (Bool.not_eq_false _ ▸ hfits)) hcancelled
      refine .reportedDirectly hfits hactive hback ?_
      exact ⟨hreadied.active, hreadied.reported, hreported ▸ hreadied.reports,
        hreadied.toClear, hreadied.clears⟩
  | ready answer =>
    obtain ⟨hguard, hmade⟩ := Option.ite_none_right_eq_some.mp hstep
    cases hmade
    obtain ⟨hactive, hwaits⟩ := Bool.and_eq_true_iff.mp hguard
    exact .readied hactive (Bool.not_eq_true' _ ▸ hwaits) rfl
      (Readied.of_reports (c.call.readyLocked_reports answer) rfl rfl rfl rfl)
  | clear =>
    obtain ⟨hpending, hmade⟩ := Option.ite_none_right_eq_some.mp hstep
    cases hmade
    exact .cleared hpending rfl

/-! ## The invariant of a call -/

/-- `ready` has been run by the callback of GLib only. -/
structure Inv (c : CallRun R E) : Prop where
  reported : c.call.haveReportedResult = c.calledBack
  reports : c.reports = c.calledBack.toNat
  cleared : c.clears + c.toClear = c.calledBack.toNat
  inactive : c.call.isActive = false → c.calledBack = false

/-- What the busy state should count for a call. -/
def owed (c : CallRun R E) : Nat := c.unreported + c.toClear

theorem Inv.sound (h : c.Inv) : c.Sound where
  once := h.reports ▸ Bool.toNat_le _
  cleared := h.cleared.trans h.reports.symm
  complete := fun hback => by rw [h.reports, hback]; rfl

theorem Inv.effect (h : c.Inv) {e : CallEvent R E} (hfits : c.Fits e) (heffect : Effect c c' e) :
    c'.Inv := by
  cases heffect with
  | invoked inactive made =>
    subst made
    have hback := h.inactive inactive
    exact ⟨hback.symm, h.reports, h.cleared, fun _ => hback⟩
  | unchanged fits active request quiet =>
    have hsame := quiet.calledBack
    refine ⟨quiet.reported.trans (h.reported.trans hsame.symm), ?_, ?_, fun hinactive => ?_⟩
    · rw [quiet.reports, hsame, h.reports]
    · rw [quiet.clears, quiet.toClear, hsame, h.cleared]
    · exact absurd (hinactive.symm.trans quiet.active) Bool.false_ne_true
  | reportedDirectly unfit active calledBack readied => exact absurd hfits unfit
  | readied active waits calledBack readied =>
    have hcleared := h.cleared
    rw [waits] at hcleared
    refine ⟨readied.reported.trans calledBack.symm, ?_, ?_, fun hinactive => ?_⟩
    · rw [readied.reports, h.reported, h.reports, waits, calledBack]
      rfl
    · rw [readied.clears, readied.toClear, calledBack, ← Nat.add_assoc, hcleared]
      rfl
    · exact absurd (hinactive.symm.trans readied.active) Bool.false_ne_true
  | cleared pending made =>
    subst made
    refine ⟨h.reported, h.reports, ?_, h.inactive⟩
    have hcleared := h.cleared
    dsimp only
    omega

/-- What is owed changes with the requests. -/
theorem Inv.owed_effect (h : c.Inv) {e : CallEvent R E} (hfits : c.Fits e)
    (heffect : Effect c c' e) (src : Source) :
    match e.busyRequest src with
    | none => c'.owed = c.owed
    | some (.set _) => c'.owed = c.owed + 1
    | some _ => c'.owed + 1 = c.owed := by
  cases heffect with
  | invoked inactive made =>
    subst made
    have hreports := h.reports
    rw [h.inactive inactive] at hreports
    have hbefore : c.unreported = 0 :=
      if_neg fun hactive => absurd (inactive.symm.trans hactive.1) Bool.false_ne_true
    have hafter : unreported { c with call := c.call.invoke } = 1 := if_pos ⟨rfl, hreports⟩
    show unreported _ + c.toClear = c.unreported + c.toClear + 1
    rw [hbefore, hafter]
    omega
  | unchanged fits active request quiet =>
    rw [request src]
    have hsame : c'.unreported = c.unreported := by
      unfold unreported
      rw [quiet.active, active, quiet.reports]
    show c'.unreported + c'.toClear = c.unreported + c.toClear
    rw [hsame, quiet.toClear]
  | reportedDirectly unfit active calledBack readied => exact absurd hfits unfit
  | readied active waits calledBack readied =>
    have hreports := h.reports
    rw [waits] at hreports
    have hbefore : c.unreported = 1 := if_pos ⟨active, hreports⟩
    have hafter : c'.unreported = 0 := by
      refine if_neg fun hunreported => ?_
      have hcount := readied.reports
      rw [hunreported.2, h.reported, waits] at hcount
      exact absurd hcount (Nat.succ_ne_zero _).symm
    show c'.unreported + c'.toClear = c.unreported + c.toClear
    rw [hbefore, hafter, readied.toClear]
    omega
  | cleared pending made =>
    subst made
    show c.unreported + (c.toClear - 1) + 1 = c.unreported + c.toClear
    omega

/-! ## What goes wrong otherwise -/

/-- `ready` has been run from `wait_for_result`. -/
structure ReadyTwice (c : CallRun R E) : Prop where
  active : c.call.isActive = true
  once : 1 ≤ c.clears + c.toClear
  twice : c.calledBack = true → 2 ≤ c.clears + c.toClear

theorem ReadyTwice.effect (h : c.ReadyTwice) {e : CallEvent R E} (heffect : Effect c c' e) :
    c'.ReadyTwice := by
  have honce := h.once
  cases heffect with
  | invoked inactive made => exact absurd (inactive.symm.trans h.active) Bool.false_ne_true
  | unchanged fits active request quiet =>
    have hsame : c'.clears + c'.toClear = c.clears + c.toClear := by
      rw [quiet.clears, quiet.toClear]
    exact ⟨quiet.active, hsame ▸ honce, fun hback => hsame ▸ h.twice (quiet.calledBack ▸ hback)⟩
  | reportedDirectly unfit active calledBack readied =>
    have hmore := readied.clears
    have hmore' := readied.toClear
    exact ⟨readied.active, by omega, fun _ => by omega⟩
  | readied active waits calledBack readied =>
    have hmore := readied.clears
    have hmore' := readied.toClear
    exact ⟨readied.active, by omega, fun _ => by omega⟩
  | cleared pending made =>
    subst made
    refine ⟨h.active, ?_, fun hback => ?_⟩
    · dsimp only
      omega
    · have htwice := h.twice hback
      dsimp only
      omega

/-- A result reported by `wait_for_result` makes `Busy::clear` be called once more than it
should be, now or when GLib calls back. -/
theorem Inv.readyTwice (h : c.Inv) {e : CallEvent R E} (hunfit : ¬c.Fits e)
    (heffect : Effect c c' e) : c'.ReadyTwice := by
  cases heffect with
  | invoked inactive made => exact absurd trivial hunfit
  | unchanged fits active request quiet => exact absurd fits hunfit
  | reportedDirectly unfit active calledBack readied =>
    have hmore := readied.clears
    have hmore' := readied.toClear
    refine ⟨readied.active, by omega, fun hback => ?_⟩
    have hcleared := h.cleared
    rw [calledBack.symm.trans hback] at hcleared
    have honce : c.clears + c.toClear = 1 := hcleared
    omega
  | readied active waits calledBack readied => exact absurd trivial hunfit
  | cleared pending made => exact absurd trivial hunfit

end CallRun

/-! ## All calls of a source -/

/-- The busy state and the calls of the source. -/
structure AsyncRun (R E : Type) where
  global : GlobalBusyState := {}
  calls : List (CallRun R E) := []

/-- A call is created, something happens to a call, or another component changes the busy
state. -/
inductive AsyncEvent (R E : Type) where
  | create
  | call (i : Nat) (e : CallEvent R E)
  | other (q : Request)

namespace AsyncRun

/-- The request of a step, if there is one. -/
def applyRequest (s : GlobalBusyState) : Option Request → GlobalBusyState
  | none => s
  | some q => (s.request q).2

/-- One step.  The source is used by the calls only. -/
def step (src : Source) (r : AsyncRun R E) : AsyncEvent R E → Option (AsyncRun R E)
  | .create => some { r with calls := r.calls ++ [{}] }
  | .call i e =>
      match r.calls[i]? with
      | none => none
      | some c =>
          match c.step e with
          | none => none
          | some c' =>
              some
                { global := applyRequest r.global (e.busyRequest src)
                  calls := r.calls.set i c' }
  | .other q =>
      if q = .set src ∨ q = .clear src then none
      else some { r with global := (r.global.request q).2 }

/-- Each result is reported once, `Busy::clear` is called once for it, and the counter of the
source counts the calls that have not been reported, and those for which `Busy::clear` is
just about to be called. -/
structure Sound (src : Source) (r : AsyncRun R E) : Prop where
  calls : ∀ c ∈ r.calls, c.Sound
  counter : r.global.busyCounts src.index =
    total CallRun.unreported r.calls + total CallRun.toClear r.calls

/-- No wait comes to report a result, and the counter does not overflow. -/
def Fits (src : Source) (r : AsyncRun R E) : AsyncEvent R E → Prop
  | .call i e => ∀ c, r.calls[i]? = some c →
      c.Fits e ∧ (e = .invoke → r.global.busyCounts src.index < maxCount)
  | .create | .other _ => True

/-- GLib has called back for every call that has been made. -/
def Complete (r : AsyncRun R E) : Prop :=
  ∀ c ∈ r.calls, c.call.isActive = true → c.calledBack = true

/-- The invariant. -/
structure Inv (src : Source) (r : AsyncRun R E) : Prop where
  calls : ∀ c ∈ r.calls, c.Inv
  counter : r.global.busyCounts src.index = total CallRun.owed r.calls

variable {src : Source} {r r' t : AsyncRun R E} {e : AsyncEvent R E}

theorem Inv.sound (h : r.Inv src) : r.Sound src where
  calls := fun c hc => (h.calls c hc).sound
  counter := h.counter.trans (Foundation.total_add _ _ _)

theorem init_inv : ({} : AsyncRun R E).Inv src where
  calls := fun _ hc => absurd hc List.not_mem_nil
  counter := rfl

/-- What a step does to a call is an effect. -/
theorem step_call {i : Nat} {e : CallEvent R E} (hstep : r.step src (.call i e) = some r') :
    ∃ c c', r.calls[i]? = some c ∧ CallRun.Effect c c' e ∧
      r' = { global := applyRequest r.global (e.busyRequest src), calls := r.calls.set i c' } := by
  unfold step at hstep
  dsimp only at hstep
  split at hstep
  · cases hstep
  · next c hc =>
    split at hstep
    · cases hstep
    · next c' hc' =>
      cases hstep
      exact ⟨c, c', hc, CallRun.step_effect hc', rfl⟩

theorem Inv.step (h : r.Inv src) (hfits : r.Fits src e) (hstep : r.step src e = some r') :
    r'.Inv src := by
  cases e with
  | create =>
    cases hstep
    refine ⟨fun c hc => ?_, ?_⟩
    · rcases List.mem_append.mp hc with hold | hnew
      · exact h.calls c hold
      · rw [List.mem_singleton.mp hnew]
        exact ⟨rfl, rfl, rfl, fun _ => rfl⟩
    · dsimp only
      rw [Foundation.total_concat, h.counter]
      rfl
  | call i e =>
    obtain ⟨c, c', hc, heffect, rfl⟩ := step_call hstep
    obtain ⟨hfits, hroom⟩ := hfits c hc
    have hinv := h.calls c (List.mem_of_getElem? hc)
    refine ⟨Foundation.all_set h.calls i (hinv.effect hfits heffect), ?_⟩
    have howed := hinv.owed_effect hfits heffect src
    have htotal := Foundation.total_set CallRun.owed c' hc
    have hcounter := h.counter
    dsimp only
    cases e with
    | invoke =>
      have hset := r.global.request_set_busyCounts src
      rw [if_pos (hroom rfl)] at hset
      exact hset.trans (by simp only [CallEvent.busyRequest] at howed; omega)
    | clear =>
      have hclear := r.global.request_clear_busyCounts src
      exact hclear.trans (by simp only [CallEvent.busyRequest] at howed; omega)
    | _ =>
      refine hcounter.trans ?_
      simp only [CallEvent.busyRequest] at howed
      omega
  | other q =>
    obtain ⟨hother, hmade⟩ := Option.ite_none_left_eq_some.mp hstep
    cases hmade
    obtain ⟨hset, hclear⟩ := not_or.mp hother
    exact ⟨h.calls, (r.global.request_busyCounts_other hset hclear).trans h.counter⟩

/-! ## Whole runs -/

/-- A call whose result has been reported by a wait stays one. -/
theorem readyTwice_run {i : Nat} (es : List (AsyncEvent R E))
    (h : ∃ c, r.calls[i]? = some c ∧ c.ReadyTwice) (hrun : runFrom (step src) r es = some t) :
    ∃ c, t.calls[i]? = some c ∧ c.ReadyTwice := by
  refine Foundation.invariant_of_run (I := fun r => ∃ c, r.calls[i]? = some c ∧ c.ReadyTwice)
    (fun s e s' hs hstep => ?_) es h hrun
  obtain ⟨c, hc, htwice⟩ := hs
  cases e with
  | create =>
    cases hstep
    exact ⟨c, List.getElem?_append_left (List.getElem?_eq_some_iff.mp hc).1 ▸ hc, htwice⟩
  | call j e =>
    obtain ⟨d, d', hd, heffect, rfl⟩ := step_call hstep
    dsimp only
    by_cases hij : j = i
    · subst hij
      cases hd.symm.trans hc
      refine ⟨d', ?_, htwice.effect heffect⟩
      rw [List.getElem?_set_self (List.getElem?_eq_some_iff.mp hd).1]
    · refine ⟨c, ?_, htwice⟩
      rw [List.getElem?_set_ne hij, hc]
  | other q =>
    obtain ⟨-, hmade⟩ := Option.ite_none_left_eq_some.mp hstep
    cases hmade
    exact ⟨c, hc, htwice⟩

/-- A run in which every call is called back in the end and all is well meets the conditions. -/
theorem fits_of_sound (es : List (AsyncEvent R E)) (h : r.Inv src)
    (hsound : AlongRun (step src) (fun r e => ∀ r', r.step src e = some r' → r'.Sound src) r es)
    (hrun : runFrom (step src) r es = some t) (hcomplete : t.Complete) :
    AlongRun (step src) (Fits src) r es := by
  induction es generalizing r with
  | nil => trivial
  | cons e es ih =>
    obtain ⟨r₁, hstep, hrest⟩ := Foundation.runFrom_cons_eq_some.mp hrun
    have hsound₁ := hsound.1 r₁ hstep
    have hend : t.Sound src :=
      Foundation.invariant_of_alongRun (fun _ _ s' _ hs hs' => hs s' hs') es hsound₁
        (hsound.2 r₁ hstep) hrest
    have hfits : r.Fits src e := by
      cases e with
      | create => trivial
      | other q => trivial
      | call i e =>
        obtain ⟨c, c', hc, heffect, rfl⟩ := step_call hstep
        have hinv := h.calls c (List.mem_of_getElem? hc)
        intro d hd
        cases hd.symm.trans hc
        have hfits : c.Fits e := by
          by_contra hunfit
          have htwice := hinv.readyTwice hunfit heffect
          obtain ⟨d, hd, hdtwice⟩ := readyTwice_run es ⟨c', by
            dsimp only
            rw [List.getElem?_set_self (List.getElem?_eq_some_iff.mp hc).1], htwice⟩ hrest
          have hmem := List.mem_of_getElem? hd
          have hcleared := (hend.calls d hmem).cleared
          have honce := (hend.calls d hmem).once
          have htwo := hdtwice.twice (hcomplete d hmem hdtwice.active)
          omega
        refine ⟨hfits, fun hinvoke => ?_⟩
        subst hinvoke
        by_contra hfull
        have hset := r.global.request_set_busyCounts src
        rw [if_neg hfull] at hset
        have howed : c'.owed = c.owed + 1 := hinv.owed_effect hfits heffect src
        have htotal := Foundation.total_set CallRun.owed c' hc
        have hcounter := hsound₁.counter.trans (Foundation.total_add _ _ _).symm
        have hbefore := h.counter
        have hsame : r.global.busyCounts src.index = total CallRun.owed (r.calls.set i c') :=
          hset.symm.trans hcounter
        omega
    exact ⟨hfits, fun r₂ hstep₂ => by
      cases hstep.symm.trans hstep₂
      exact ih (h.step hfits hstep) (hsound.2 r₁ hstep) hrest⟩

/-- If no wait comes to report a result, all results are reported once, with one call of
`Busy::clear` each, and the counter is right.  If all calls are called back in the end, then
this is needed, too. -/
theorem async_run_sound (src : Source) (es : List (AsyncEvent R E)) :
    (AlongRun (step src) (Fits src) {} es →
      AlongRun (step src) (fun r e => ∀ r', r.step src e = some r' → r'.Sound src) {} es) ∧
    ∀ t, runFrom (step src) {} es = some t → t.Complete →
      AlongRun (step src) (fun r e => ∀ r', r.step src e = some r' → r'.Sound src) {} es →
      AlongRun (step src) (Fits src) {} es := by
  constructor
  · refine AlongRun.imp (I := Inv src) (fun r e r' hr hfits hstep => hr.step hfits hstep) ?_ es
      init_inv
    exact fun r e hr hfits r' hstep => (hr.step hfits hstep).sound
  · exact fun t hrun hcomplete hsound => fits_of_sound es init_inv hsound hrun hcomplete

/-- The result is there before it is waited for, and the call is deleted afterwards. -/
theorem async_run_sound_waited :
    AlongRun (step .gettingParentLink)
      (fun r e => ∀ r', r.step .gettingParentLink e = some r' → r'.Sound .gettingParentLink)
      ({} : AsyncRun Unit Unit)
      [.create, .call 0 .invoke, .call 0 (.ready (.ok ())), .call 0 .clear, .call 0 .beginWait,
        .call 0 .cancelAndDelete] := by
  refine (async_run_sound .gettingParentLink _).1 ⟨trivial, fun r₁ h₁ => ?_⟩
  cases h₁
  refine ⟨fun c _ => ⟨trivial, fun _ => Nat.succ_pos _⟩, fun r₂ h₂ => ?_⟩
  cases h₂
  refine ⟨fun c _ => ⟨trivial, nofun⟩, fun r₃ h₃ => ?_⟩
  cases h₃
  refine ⟨fun c _ => ⟨trivial, nofun⟩, fun r₄ h₄ => ?_⟩
  cases h₄
  refine ⟨fun c hc => ⟨?_, nofun⟩, fun r₅ h₅ => ?_⟩
  · cases hc
    exact fun hcancelled => absurd hcancelled.2 Bool.false_ne_true
  · cases h₅
    refine ⟨fun c hc => ⟨?_, nofun⟩, fun _ _ => trivial⟩
    cases hc
    rfl

/-- A call is cancelled and deleted while another one of the same source goes on: GLib calls
back later, and then nobody is busy any more. -/
theorem deleted_call_cleared_twice :
    ¬∀ es : List (AsyncEvent Unit Unit),
      AlongRun (step .gettingParentLink)
        (fun r e => ∀ r', r.step .gettingParentLink e = some r' → r'.Sound .gettingParentLink)
        {} es := by
  intro hall
  have h := hall [.create, .create, .call 0 .invoke, .call 1 .invoke, .call 0 .cancelAndDelete,
    .call 0 .clear, .call 0 (.ready (.error ())), .call 0 .clear]
  have hlast :=
    ((((((((h.2 _ rfl).2 _ rfl).2 _ rfl).2 _ rfl).2 _ rfl).2 _ rfl).2 _ rfl).1 _ rfl).counter
  revert hlast
  decide

end AsyncRun

end Drcpd.DBus

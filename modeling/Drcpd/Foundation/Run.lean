/-
  Foundation/Run.lean --- runs of an event-driven component.

  A component is given by its state type and a step function
  `step : σ → ε → Option σ`: `none` says that the event is not possible in that
  state (or, where a model says so, that the source has no defined behaviour
  there).  All answers of the environment are part of the event, so a run is
  nothing but a list of events.

  Two notions are used by every model below:

      runFrom step s es    : the state after the events `es`, if all are possible
      AlongRun step P s es : `P` holds of every (state, event) pair the run visits

  `AlongRun` states both the conditions on the steps of a run and the properties
  of its steps.  `alongRun_iff` is the rule that turns an exact characterisation
  of one step into an exact characterisation of all runs.

  Nothing here names a definition of any particular component.
-/
import Mathlib.Data.Option.Basic

set_option autoImplicit false

namespace Drcpd.Foundation

variable {σ ε : Type*}

/-- The state after the events of a run, if every one of them is possible. -/
def runFrom (step : σ → ε → Option σ) : σ → List ε → Option σ
  | s, [] => some s
  | s, e :: es =>
      match step s e with
      | none => none
      | some s' => runFrom step s' es

/-- `P` holds of every event of the run in the state the event finds. -/
def AlongRun (step : σ → ε → Option σ) (P : σ → ε → Prop) : σ → List ε → Prop
  | _, [] => True
  | s, e :: es => P s e ∧ ∀ s', step s e = some s' → AlongRun step P s' es

section Runs

variable {step : σ → ε → Option σ}

@[simp] theorem runFrom_nil (s : σ) : runFrom step s [] = some s := rfl

theorem runFrom_cons_eq_some {s t : σ} {e : ε} {es : List ε} :
    runFrom step s (e :: es) = some t ↔
      ∃ s', step s e = some s' ∧ runFrom step s' es = some t := by
  cases h : step s e with
  | none => simp [runFrom, h]
  | some s' => simp [runFrom, h]

/-- A run in two parts. -/
theorem runFrom_append {s t : σ} {es es' : List ε} :
    runFrom step s (es ++ es') = some t ↔
      ∃ s', runFrom step s es = some s' ∧ runFrom step s' es' = some t := by
  induction es generalizing s with
  | nil => simp
  | cons e es ih =>
    simp only [List.cons_append, runFrom_cons_eq_some]
    constructor
    · rintro ⟨s₁, hs₁, hrest⟩
      obtain ⟨s', hs', ht⟩ := ih.mp hrest
      exact ⟨s', ⟨s₁, hs₁, hs'⟩, ht⟩
    · rintro ⟨s', ⟨s₁, hs₁, hs'⟩, ht⟩
      exact ⟨s₁, hs₁, ih.mpr ⟨s', hs', ht⟩⟩

@[simp] theorem alongRun_nil (P : σ → ε → Prop) (s : σ) : AlongRun step P s [] := trivial

theorem alongRun_cons {P : σ → ε → Prop} {s : σ} {e : ε} {es : List ε} :
    AlongRun step P s (e :: es) ↔
      P s e ∧ ∀ s', step s e = some s' → AlongRun step P s' es := Iff.rfl

/-- One step more at the start of a run. -/
theorem AlongRun.cons_of_step {P : σ → ε → Prop} {s s' : σ} {e : ε} {es : List ε} (hP : P s e)
    (hstep : step s e = some s') (hrest : AlongRun step P s' es) :
    AlongRun step P s (e :: es) := by
  refine ⟨hP, fun t ht => ?_⟩
  cases hstep.symm.trans ht
  exact hrest

/-- Two conditions are met along a run together. -/
theorem AlongRun.and {P Q : σ → ε → Prop} :
    ∀ (es : List ε) {s : σ}, AlongRun step P s es → AlongRun step Q s es →
      AlongRun step (fun s e => P s e ∧ Q s e) s es := by
  intro es
  induction es with
  | nil => intro s _ _; trivial
  | cons e es ih =>
    intro s hP hQ
    exact ⟨⟨hP.1, hQ.1⟩, fun s' hs => ih (hP.2 s' hs) (hQ.2 s' hs)⟩

/-! ## The invariant rule -/

/-- What holds at the start and is preserved by every step that meets the
condition `G` holds at the end of every run whose steps all meet it. -/
theorem invariant_of_alongRun {I : σ → Prop} {G : σ → ε → Prop}
    (hstep : ∀ s e s', I s → G s e → step s e = some s' → I s') :
    ∀ (es : List ε) {s t : σ}, I s → AlongRun step G s es →
      runFrom step s es = some t → I t := by
  intro es
  induction es with
  | nil =>
    intro s t hI _ hrun
    rw [runFrom_nil, Option.some.injEq] at hrun
    exact hrun ▸ hI
  | cons e es ih =>
    intro s t hI hG hrun
    obtain ⟨s', hs, hrest⟩ := runFrom_cons_eq_some.mp hrun
    exact ih (hstep s e s' hI hG.1 hs) (hG.2 s' hs) hrest

/-- The invariant rule without a condition on the steps. -/
theorem invariant_of_run {I : σ → Prop}
    (hstep : ∀ s e s', I s → step s e = some s' → I s')
    (es : List ε) {s t : σ} (hI : I s) (hrun : runFrom step s es = some t) : I t := by
  induction es generalizing s with
  | nil =>
    rw [runFrom_nil, Option.some.injEq] at hrun
    exact hrun ▸ hI
  | cons e es ih =>
    obtain ⟨s', hs, hrest⟩ := runFrom_cons_eq_some.mp hrun
    exact ih (hstep s e s' hI hs) hrest

/-! ## Conditions along a run -/

/-- A property of the steps follows from the conditions on them along a run, when
it follows at each single step from an invariant the conditions preserve. -/
theorem AlongRun.imp {I : σ → Prop} {G P : σ → ε → Prop}
    (hstep : ∀ s e s', I s → G s e → step s e = some s' → I s')
    (hP : ∀ s e, I s → G s e → P s e) :
    ∀ (es : List ε) {s : σ}, I s → AlongRun step G s es → AlongRun step P s es := by
  intro es
  induction es with
  | nil => intro s _ _; trivial
  | cons e es ih =>
    intro s hI hG
    refine ⟨hP s e hI hG.1, fun s' hs => ?_⟩
    exact ih (hstep s e s' hI hG.1 hs) (hG.2 s' hs)

/-- What an invariant implies at each single step holds at every step of a run. -/
theorem alongRun_of_invariant {I : σ → Prop} {P : σ → ε → Prop}
    (hstep : ∀ s e s', I s → step s e = some s' → I s') (hP : ∀ s e, I s → P s e) :
    ∀ (es : List ε) {s : σ}, I s → AlongRun step P s es := by
  intro es
  induction es with
  | nil => intro s _; trivial
  | cons e es ih =>
    intro s hI
    exact ⟨hP s e hI, fun s' hs => ih (hstep s e s' hI hs)⟩

/-- The rule for exact conditions: where, under an invariant, one step has the
property `P` exactly if it meets the condition `G`, a run has the property at
every step exactly if it meets the condition at every step. -/
theorem alongRun_iff {I : σ → Prop} {G P : σ → ε → Prop}
    (hstep : ∀ s e s', I s → G s e → step s e = some s' → I s')
    (hP : ∀ s e, I s → (P s e ↔ G s e)) (es : List ε) {s : σ} (hI : I s) :
    AlongRun step P s es ↔ AlongRun step G s es := by
  constructor
  · intro h
    exact AlongRun.imp (fun s e s' hI hp => hstep s e s' hI ((hP s e hI).mp hp))
      (fun s e hI hp => (hP s e hI).mp hp) es hI h
  · intro h
    exact AlongRun.imp hstep (fun s e hI hg => (hP s e hI).mpr hg) es hI h

/-- The rule for exact conditions on the steps of a run that has been possible. -/
theorem alongRun_iff_of_run {I : σ → Prop} {G P : σ → ε → Prop}
    (hstep : ∀ s e s', I s → G s e → step s e = some s' → I s')
    (hP : ∀ s e s', I s → step s e = some s' → (P s e ↔ G s e)) (es : List ε) {s t : σ}
    (hI : I s) (hrun : runFrom step s es = some t) :
    AlongRun step P s es ↔ AlongRun step G s es := by
  induction es generalizing s with
  | nil => exact Iff.rfl
  | cons e es ih =>
    obtain ⟨s', hs, hrest⟩ := runFrom_cons_eq_some.mp hrun
    have hiff := hP s e s' hI hs
    constructor
    · intro h
      have hG := hiff.mp h.1
      exact AlongRun.cons_of_step hG hs
        ((ih (hstep s e s' hI hG hs) hrest).mp (h.2 s' hs))
    · intro h
      exact AlongRun.cons_of_step (hiff.mpr h.1) hs
        ((ih (hstep s e s' hI h.1 hs) hrest).mpr (h.2 s' hs))

/-- What each step adds to an account is what the events of the run add to it. -/
theorem account_of_run {α : Type*} {I : σ → Prop} (account : σ → List α) (entry : ε → List α)
    (hI : ∀ s e s', I s → step s e = some s' → I s')
    (hstep : ∀ s e s', I s → step s e = some s' → account s' = account s ++ entry e)
    (es : List ε) {s t : σ} (h : I s) (hrun : runFrom step s es = some t) :
    account t = account s ++ es.flatMap entry := by
  induction es generalizing s with
  | nil =>
    rw [runFrom_nil, Option.some.injEq] at hrun
    rw [hrun, List.flatMap_nil, List.append_nil]
  | cons e es ih =>
    obtain ⟨s', hs, hrest⟩ := runFrom_cons_eq_some.mp hrun
    rw [ih (hI s e s' h hs) hrest, hstep s e s' h hs, List.flatMap_cons, List.append_assoc]

/-- A condition on the events alone. -/
theorem alongRun_of_forall_mem {P : ε → Prop} :
    ∀ {es : List ε}, (∀ e ∈ es, P e) → ∀ s : σ, AlongRun step (fun _ e => P e) s es := by
  intro es
  induction es with
  | nil => intro _ s; trivial
  | cons e es ih =>
    intro h s
    refine ⟨h e List.mem_cons_self, fun s' _ => ?_⟩
    exact ih (fun e' he' => h e' (List.mem_cons_of_mem e he')) s'

end Runs

end Drcpd.Foundation

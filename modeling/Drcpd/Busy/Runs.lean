/-
  Busy/Runs.lean --- the busy state as several threads see it.

  A call that finds the busy state changed gives up the lock, reads the last notified state
  without it, and calls the callback with what it has read.  All threads may come in between
  each two of these steps.  The calls that have not come to their end are kept in the order
  in which they have given up the lock, each with the value it has read.
-/
import Mathlib.Data.List.Chain
import Drcpd.Foundation.Run
import Drcpd.Busy.State

set_option autoImplicit false

namespace Drcpd.Busy

open Foundation (AlongRun runFrom)
open GlobalBusyState (HasRoom)

/-- The busy state, what has been requested so far, the calls that have yet to call the
callback, and the values passed to the callback. -/
structure BusyRun where
  global : GlobalBusyState := {}
  demand : Demand := {}
  pending : List (Option Bool) := []
  delivered : List Bool := []

/-- A call up to the release of the lock, and the rest of the call in two steps. -/
inductive BusyEvent where
  | request (r : Request)
  | readValue (i : Nat)
  | callback (i : Nat)
  deriving DecidableEq, Repr

namespace BusyRun

/-- `Busy::init`. -/
def init : BusyRun :=
  let set := GlobalBusyState.setCallback {}
  let cleared := set.2.clear (BitVec.allOnes 32)
  { global := cleared.2
    pending := if cleared.1 then [none] else []
    delivered := if set.1 then [set.2.lastNotifiedBusyState] else [] }

/-- One step. -/
def step (r : BusyRun) : BusyEvent → Option BusyRun
  | .request q =>
      let result := r.global.request q
      some
        { r with
          global := result.2
          demand := r.demand.request q
          pending := if result.1 then r.pending ++ [none] else r.pending }
  | .readValue i =>
      match r.pending[i]? with
      | some none =>
          some { r with pending := r.pending.set i (some r.global.lastNotifiedBusyState) }
      | some (some _) | none => none
  | .callback i =>
      match r.pending[i]? with
      | some (some value) =>
          some { r with pending := r.pending.eraseIdx i, delivered := r.delivered ++ [value] }
      | some none | none => none

/-- We are busy if somebody is busy, the callback is told about changes only, and once all
calls have returned it knows about the last one. -/
structure Sound (r : BusyRun) : Prop where
  busy : r.global.isBusy = true ↔ r.demand.IsBusy
  alternates : r.delivered.IsChain (· ≠ ·)
  last : r.pending = [] → r.delivered.getLast? = some r.global.isBusy

/-- No counter overflows, the state changes only when all calls before have read the value
they pass to the callback, and they call the callback in the order of the changes. -/
def Fits (r : BusyRun) : BusyEvent → Prop
  | .request q => HasRoom r.demand q ∧
      (¬((r.demand.request q).IsBusy ↔ r.demand.IsBusy) → none ∉ r.pending)
  | .readValue _ => True
  | .callback i => i = 0

/-! ## The invariant -/

/-- All calls have read their values, but maybe the last one, which is going to read the last
notified state. -/
structure Inv (r : BusyRun) : Prop where
  refines : r.global.Refines r.demand
  notified : r.global.lastNotifiedBusyState = r.global.isBusy
  values : ∃ read : List Bool, (r.delivered ++ read).IsChain (· ≠ ·) ∧
    (r.pending = read.map some ∧
        (r.delivered ++ read).getLast? = some r.global.isBusy ∨
      r.pending = read.map some ++ [none] ∧
        (r.delivered ++ read).getLast? = some (!r.global.isBusy))

variable {r r' : BusyRun}

theorem Inv.sound (h : r.Inv) : r.Sound := by
  obtain ⟨read, hchain, hpending⟩ := h.values
  refine ⟨h.refines.isBusy_iff, (List.isChain_append.mp hchain).1, fun hnone => ?_⟩
  rcases hpending with ⟨hread, hlast⟩ | ⟨hread, -⟩
  · rw [hnone] at hread
    have hempty : read = [] := List.map_eq_nil_iff.mp hread.symm
    rw [hempty, List.append_nil] at hlast
    exact hlast
  · rw [hnone] at hread
    exact absurd hread.symm (List.append_ne_nil_of_right_ne_nil _ (List.cons_ne_nil _ _))

theorem Inv.request (h : r.Inv) {q : Request} (hfits : r.Fits (.request q))
    (hstep : r.step (.request q) = some r') : r'.Inv := by
  obtain ⟨hroom, hread⟩ := hfits
  have hrefines := h.refines.request hroom
  obtain ⟨hcalled, hnotified⟩ := r.global.request_notified q
  cases hstep
  refine ⟨hrefines, hnotified, ?_⟩
  obtain ⟨read, hchain, hpending⟩ := h.values
  dsimp only
  rw [hcalled, h.notified]
  by_cases hchanged : r.global.isBusy = (r.global.request q).2.isBusy
  · rw [decide_eq_false (not_not.mpr hchanged), if_neg Bool.false_ne_true, ← hchanged]
    exact ⟨read, hchain, hpending⟩
  · rw [decide_eq_true hchanged, if_pos rfl]
    have hdemand : ¬((r.demand.request q).IsBusy ↔ r.demand.IsBusy) := by
      rw [← hrefines.isBusy_iff, ← h.refines.isBusy_iff]
      exact fun hiff => hchanged (Bool.eq_iff_iff.mpr hiff.symm)
    have hflip : r.global.isBusy = !(r.global.request q).2.isBusy := Bool.eq_not.mpr hchanged
    refine ⟨read, hchain, .inr ?_⟩
    rcases hpending with ⟨hread', hlast⟩ | ⟨hunread, -⟩
    · rw [hread', ← hflip]
      exact ⟨rfl, hlast⟩
    · refine absurd ?_ (hread hdemand)
      rw [hunread]
      exact List.mem_append_right _ (List.mem_singleton_self _)

/-- Where a value is read, it is the one of the last change. -/
theorem Inv.readValue (h : r.Inv) {i : Nat} (hstep : r.step (.readValue i) = some r') :
    r'.Inv := by
  unfold BusyRun.step at hstep
  dsimp only at hstep
  split at hstep
  · next hunread =>
    cases hstep
    refine ⟨h.refines, h.notified, ?_⟩
    obtain ⟨read, hchain, ⟨hpending, -⟩ | ⟨hpending, hlast⟩⟩ := h.values
    · rw [hpending, List.getElem?_map] at hunread
      obtain ⟨value, -, hvalue⟩ := Option.map_eq_some_iff.mp hunread
      cases hvalue
    · have hi : i = (read.map some).length := by
        rw [hpending] at hunread
        rcases Nat.lt_trichotomy i (read.map some).length with hlt | heq | hgt
        · rw [List.getElem?_append_left hlt, List.getElem?_map] at hunread
          obtain ⟨value, -, hvalue⟩ := Option.map_eq_some_iff.mp hunread
          cases hvalue
        · exact heq
        · have hend : (read.map some ++ [none]).length ≤ i := by
            rw [List.length_append]
            exact hgt
          rw [List.getElem?_eq_none hend] at hunread
          cases hunread
      refine ⟨read ++ [r.global.isBusy], ?_, .inl ⟨?_, ?_⟩⟩
      · rw [← List.append_assoc, List.isChain_append]
        refine ⟨hchain, List.isChain_singleton _, fun x hx y hy => ?_⟩
        rw [hlast] at hx
        cases hx
        cases hy
        exact Bool.not_ne_self _
      · dsimp only
        rw [hpending, hi, h.notified, List.set_append_right _ _ (Nat.le_refl _), Nat.sub_self,
          List.map_append]
        rfl
      · rw [← List.append_assoc, List.getLast?_concat]
  · cases hstep
  · cases hstep

/-- The callback is called for the first change that it has not been told about. -/
theorem Inv.callback (h : r.Inv) (hstep : r.step (.callback 0) = some r') : r'.Inv := by
  unfold BusyRun.step at hstep
  dsimp only at hstep
  split at hstep
  · next value hvalue =>
    cases hstep
    refine ⟨h.refines, h.notified, ?_⟩
    obtain ⟨read, hchain, hpending⟩ := h.values
    cases read with
    | nil =>
      rcases hpending with ⟨hpending, -⟩ | ⟨hpending, -⟩
      · rw [hpending] at hvalue
        cases hvalue
      · rw [hpending] at hvalue
        cases hvalue
    | cons first rest =>
      have hfirst : first = value := by
        rcases hpending with ⟨hpending, -⟩ | ⟨hpending, -⟩
        · rw [hpending] at hvalue
          cases hvalue
          rfl
        · rw [hpending] at hvalue
          cases hvalue
          rfl
      subst hfirst
      have hmove : r.delivered ++ [first] ++ rest = r.delivered ++ first :: rest := by
        rw [List.append_assoc]
        rfl
      refine ⟨rest, ?_, ?_⟩
      · rw [hmove]
        exact hchain
      · rw [hmove]
        refine hpending.imp (fun hread => ⟨?_, hread.2⟩) fun hread => ⟨?_, hread.2⟩
        · dsimp only
          rw [hread.1]
          rfl
        · dsimp only
          rw [hread.1]
          rfl
  · cases hstep
  · cases hstep

theorem Inv.step {e : BusyEvent} (h : r.Inv) (hfits : r.Fits e) (hstep : r.step e = some r') :
    r'.Inv := by
  cases e with
  | request q => exact h.request hfits hstep
  | readValue i => exact h.readValue hstep
  | callback i =>
    have hfirst : i = 0 := hfits
    subst hfirst
    exact h.callback hstep

/-! ## Whole runs -/

/-- Nothing can be cleared where nothing is set. -/
theorem clear_initial (mask : BitVec 32) :
    GlobalBusyState.clear {} mask = (false, ({} : GlobalBusyState)) := by
  have hloop : ∀ l : List (Fin 32),
      l.foldl (GlobalBusyState.countDown mask) {} = ({} : GlobalBusyState) := by
    intro l
    induction l with
    | nil => rfl
    | cons i l ih =>
      have hbody : GlobalBusyState.countDown mask {} i = ({} : GlobalBusyState) := by
        unfold GlobalBusyState.countDown
        split
        · dsimp only
          rw [Nat.zero_sub, if_pos rfl, BitVec.zero_and, Function.update_eq_self]
        · rfl
      rw [List.foldl_cons, hbody, ih]
  unfold GlobalBusyState.clear
  rw [hloop]
  rfl

/-- The callback is told that we are not busy when it is set. -/
theorem init_eq : init = { delivered := [false] } := by
  have hset : GlobalBusyState.setCallback {} = (true, ({} : GlobalBusyState)) := rfl
  unfold init
  dsimp only
  rw [hset, clear_initial]
  rfl

theorem init_inv : init.Inv := by
  have hrefines : GlobalBusyState.Refines {} {} := by
    refine ⟨fun _ => rfl, fun src => ?_, fun src => ?_, fun i hi => ?_⟩
    · exact BitVec.getLsbD_zero
    · exact BitVec.getLsbD_zero
    · rw [show ({} : GlobalBusyState).busyFlags.getLsbD i = false from BitVec.getLsbD_zero] at hi
      cases hi
  rw [init_eq]
  exact ⟨hrefines, rfl, [], List.isChain_singleton _, .inl ⟨rfl, rfl⟩⟩

/-- In a run whose steps fit, we are busy exactly if somebody is, the values passed to the
callback alternate, and the last one is right when all calls have returned. -/
theorem busy_run_sound (es : List BusyEvent) (h : AlongRun step Fits init es) :
    AlongRun step (fun r e => ∀ r', r.step e = some r' → r'.Sound) init es := by
  refine AlongRun.imp (I := Inv) (fun r e r' hr hfits hstep => hr.step hfits hstep) ?_ es
    init_inv h
  exact fun r e hr hfits r' hstep => (hr.step hfits hstep).sound

/-- A source is set, and cleared again when the callback has been told about it. -/
theorem busy_run_sound_cleared :
    AlongRun step (fun r e => ∀ r', r.step e = some r' → r'.Sound) init
      [.request (.set .gettingListId), .readValue 0, .callback 0,
        .request (.clear .gettingListId), .readValue 0, .callback 0] := by
  refine busy_run_sound _ ⟨⟨Nat.succ_pos _, fun _ => List.not_mem_nil⟩, fun r₁ h₁ => ?_⟩
  refine ⟨trivial, fun r₂ h₂ => ⟨rfl, fun r₃ h₃ => ?_⟩⟩
  have hread : r₃.pending = [] := by
    cases h₁
    cases h₂
    cases h₃
    decide
  refine ⟨⟨trivial, fun _ => ?_⟩, fun r₄ _ => ⟨trivial, fun r₅ _ => ⟨rfl, fun _ _ => trivial⟩⟩⟩
  rw [hread]
  exact List.not_mem_nil

/-- Two threads pass each other: the busy state has changed back before the first thread
reads the value for its callback. -/
theorem changes_read_late :
    ¬∀ es, AlongRun step (fun r e => ∀ r', r.step e = some r' → r'.Sound) init es := by
  intro hall
  have h := hall [.request (.set .gettingListId), .request (.clear .gettingListId),
    .readValue 0, .readValue 1, .callback 0, .callback 0]
  have hlast := ((((((h.2 _ rfl).2 _ rfl).2 _ rfl).2 _ rfl).2 _ rfl).1 _ rfl).alternates
  revert hlast
  decide

end BusyRun

end Drcpd.Busy

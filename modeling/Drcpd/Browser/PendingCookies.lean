/-
  Browser/PendingCookies.lean --- data cookies and the functions stored for them.

  A notify function and a fetch function are stored for each cookie, in two maps.  The functions
  are known by the number of the `add` they were passed to.  A function is called after it has been
  taken from its map and the lock has been released: what it does itself comes next in a run.
-/
import Mathlib.Logic.Function.Basic
import Drcpd.Foundation.Run

set_option autoImplicit false

namespace Drcpd.Browser

open Foundation (AlongRun)

/-! ## The maps -/

/-- A notify function, which may be null. -/
structure NotifyFn where
  add : Nat
  isNull : Bool := false
  deriving DecidableEq, Repr

/-- A fetch function. -/
structure FetchFn where
  add : Nat
  deriving DecidableEq, Repr

/-- `std::unordered_map::emplace`, and whether it stores the value. -/
def emplace {α : Type} (m : UInt32 → Option α) (cookie : UInt32) (x : α) :
    Bool × (UInt32 → Option α) :=
  if (m cookie).isSome then (false, m) else (true, Function.update m cookie (some x))

/-- `PendingCookies`. -/
structure PendingCookies where
  notificationFunctions : UInt32 → Option NotifyFn := fun _ => none
  fetchFunctions : UInt32 → Option FetchFn := fun _ => none

namespace PendingCookies

/-- `add`, for a cookie that is not 0. -/
def add (p : PendingCookies) (cookie : UInt32) (notifyFn : NotifyFn) (fetchFn : FetchFn) :
    Bool × PendingCookies :=
  let stored := emplace p.fetchFunctions cookie fetchFn
  (stored.1,
    { notificationFunctions := (emplace p.notificationFunctions cookie notifyFn).2
      fetchFunctions := stored.2 })

/-- `available`; the function to be called, if there is one. -/
def available (p : PendingCookies) (cookie : UInt32) : Option NotifyFn × PendingCookies :=
  match p.notificationFunctions cookie with
  | none => (none, p)
  | some fn =>
      (if fn.isNull then none else some fn,
        { p with
          notificationFunctions := Function.update p.notificationFunctions cookie none })

/-- `finish`; the function to be called, if there is one. -/
def finish (p : PendingCookies) (cookie : UInt32) : Option FetchFn × PendingCookies :=
  match p.fetchFunctions cookie with
  | none => (none, p)
  | some fn =>
      (some fn, { p with fetchFunctions := Function.update p.fetchFunctions cookie none })

end PendingCookies

section Emplace

variable {α : Type} {m : UInt32 → Option α} {cookie : UInt32}

theorem emplace_of_some (h : (m cookie).isSome = true) (x : α) :
    emplace m cookie x = (false, m) := if_pos h

theorem emplace_of_none (h : m cookie = none) (x : α) :
    emplace m cookie x = (true, Function.update m cookie (some x)) :=
  if_neg (by rw [h]; nofun)

end Emplace

/-! ## Runs -/

/-- The calls of the functions of `PendingCookies`. -/
inductive CookieEvent where
  | add (cookie : UInt32) (isNull : Bool)
  | available (cookie : UInt32)
  | finish (cookie : UInt32)
  deriving DecidableEq, Repr

/-- The cookies, with what has happened so far. -/
structure CookieRun where
  cookies : PendingCookies := {}
  /-- The number of calls of `add`. -/
  adds : Nat := 0
  /-- The last `add` that has returned true for a cookie. -/
  lastAdd : UInt32 → Option Nat := fun _ => none
  /-- The `add`s whose functions have been called. -/
  notified : List Nat := []
  fetched : List Nat := []

namespace CookieRun

/-- The functions passed to the next call of `add`. -/
def nextFns (r : CookieRun) (isNull : Bool) : NotifyFn × FetchFn :=
  ({ add := r.adds, isNull := isNull }, { add := r.adds })

/-- One call. -/
def step (r : CookieRun) : CookieEvent → Option CookieRun
  | .add cookie isNull =>
      if cookie = 0 then none
      else
        let added := r.cookies.add cookie (r.nextFns isNull).1 (r.nextFns isNull).2
        some { r with
          cookies := added.2
          adds := r.adds + 1
          lastAdd := if added.1 then Function.update r.lastAdd cookie (some r.adds) else r.lastAdd }
  | .available cookie =>
      let taken := r.cookies.available cookie
      some { r with
        cookies := taken.2
        notified := r.notified ++ (taken.1.map NotifyFn.add).toList }
  | .finish cookie =>
      let taken := r.cookies.finish cookie
      some { r with
        cookies := taken.2
        fetched := r.fetched ++ (taken.1.map FetchFn.add).toList }

/-- What is expected of a call.  An `add` stores both functions or none; a function that is called
has not been called before, and it comes from the last `add` that has returned true. -/
def StepSound (r : CookieRun) : CookieEvent → Prop
  | .add cookie isNull =>
      let added := r.cookies.add cookie (r.nextFns isNull).1 (r.nextFns isNull).2
      cookie ≠ 0 →
        added.2 =
          if added.1 then
            { notificationFunctions :=
                Function.update r.cookies.notificationFunctions cookie (r.nextFns isNull).1
              fetchFunctions :=
                Function.update r.cookies.fetchFunctions cookie (r.nextFns isNull).2 }
          else r.cookies
  | .available cookie =>
      ∀ fn, (r.cookies.available cookie).1 = some fn →
        fn.add ∉ r.notified ∧ r.lastAdd cookie = some fn.add
  | .finish cookie =>
      ∀ fn, (r.cookies.finish cookie).1 = some fn →
        fn.add ∉ r.fetched ∧ r.lastAdd cookie = some fn.add

/-- The condition on a call: when a cookie is added, there are both functions for it or none. -/
def Fits (r : CookieRun) : CookieEvent → Prop
  | .add cookie _ =>
      cookie ≠ 0 →
        ((r.cookies.notificationFunctions cookie).isSome = true ↔
          (r.cookies.fetchFunctions cookie).isSome = true)
  | .available _ | .finish _ => True

/-- The functions that are stored and those that have been called. -/
structure Inv (r : CookieRun) : Prop where
  notify : ∀ cookie fn, r.cookies.notificationFunctions cookie = some fn →
    r.lastAdd cookie = some fn.add ∧ fn.add ∉ r.notified
  fetch : ∀ cookie fn, r.cookies.fetchFunctions cookie = some fn →
    r.lastAdd cookie = some fn.add ∧ fn.add ∉ r.fetched
  lastAdd : ∀ cookie add, r.lastAdd cookie = some add → add < r.adds
  distinct : ∀ cookie cookie' add, r.lastAdd cookie = some add → r.lastAdd cookie' = some add →
    cookie = cookie'
  notified : ∀ add ∈ r.notified, add < r.adds
  fetched : ∀ add ∈ r.fetched, add < r.adds

variable {r r' : CookieRun}

theorem init_inv : Inv {} := ⟨nofun, nofun, nofun, nofun, nofun, nofun⟩

/-- If there is none of the functions for a cookie, then both are stored. -/
theorem add_of_none {p : PendingCookies} {cookie : UInt32}
    (hnotify : p.notificationFunctions cookie = none) (hfetch : p.fetchFunctions cookie = none)
    (notifyFn : NotifyFn) (fetchFn : FetchFn) :
    p.add cookie notifyFn fetchFn =
      (true,
        { notificationFunctions := Function.update p.notificationFunctions cookie notifyFn
          fetchFunctions := Function.update p.fetchFunctions cookie fetchFn }) := by
  simp [PendingCookies.add, emplace_of_none hnotify, emplace_of_none hfetch]

theorem add_of_some {p : PendingCookies} {cookie : UInt32}
    (hnotify : (p.notificationFunctions cookie).isSome = true)
    (hfetch : (p.fetchFunctions cookie).isSome = true) (notifyFn : NotifyFn) (fetchFn : FetchFn) :
    p.add cookie notifyFn fetchFn = (false, p) := by
  simp [PendingCookies.add, emplace_of_some hnotify, emplace_of_some hfetch]

theorem Inv.stepSound_add_iff (h : r.Inv) (cookie : UInt32) (isNull : Bool) :
    r.StepSound (.add cookie isNull) ↔ r.Fits (.add cookie isNull) := by
  unfold StepSound Fits
  refine forall_congr' fun _ => ?_
  cases hnotify : r.cookies.notificationFunctions cookie with
  | none =>
    cases hfetch : r.cookies.fetchFunctions cookie with
    | none => simp [add_of_none hnotify hfetch]
    | some fetchFn =>
      -- The notify function is stored, but the fetch function is not.
      refine iff_of_false (fun heq => ?_) (by simp)
      have hsome : (r.cookies.fetchFunctions cookie).isSome = true := by rw [hfetch]; rfl
      rw [PendingCookies.add, emplace_of_some hsome, emplace_of_none hnotify] at heq
      have hmaps := congrFun (congrArg PendingCookies.notificationFunctions heq) cookie
      simp [hnotify] at hmaps
  | some notifyFn =>
    have hsome : (r.cookies.notificationFunctions cookie).isSome = true := by rw [hnotify]; rfl
    cases hfetch : r.cookies.fetchFunctions cookie with
    | none =>
      -- The notify function of an earlier call stays.
      refine iff_of_false (fun heq => ?_) (by simp)
      rw [PendingCookies.add, emplace_of_none hfetch, emplace_of_some hsome] at heq
      have hmaps := congrFun (congrArg PendingCookies.notificationFunctions heq) cookie
      simp only [if_true, Function.update_self, hnotify, Option.some.injEq] at hmaps
      have hadd := h.lastAdd cookie notifyFn.add (h.notify cookie notifyFn hnotify).1
      rw [hmaps] at hadd
      exact absurd hadd (Nat.lt_irrefl _)
    | some fetchFn =>
      have hsome' : (r.cookies.fetchFunctions cookie).isSome = true := by rw [hfetch]; rfl
      simp [add_of_some hsome hsome']

theorem Inv.stepSound_iff (h : r.Inv) (e : CookieEvent) : r.StepSound e ↔ r.Fits e := by
  cases e with
  | add cookie isNull => exact h.stepSound_add_iff cookie isNull
  | available cookie =>
    refine iff_of_true (fun fn hfn => ?_) trivial
    unfold PendingCookies.available at hfn
    cases hstored : r.cookies.notificationFunctions cookie with
    | none => simp [hstored] at hfn
    | some stored =>
      simp only [hstored, Option.ite_none_left_eq_some, Option.some.injEq] at hfn
      obtain ⟨-, rfl⟩ := hfn
      exact (h.notify cookie stored hstored).symm
  | finish cookie =>
    refine iff_of_true (fun fn hfn => ?_) trivial
    unfold PendingCookies.finish at hfn
    cases hstored : r.cookies.fetchFunctions cookie with
    | none => simp [hstored] at hfn
    | some stored =>
      simp only [hstored, Option.some.injEq] at hfn
      subst hfn
      exact (h.fetch cookie stored hstored).symm

/-- The functions of a new `add` are stored. -/
theorem Inv.stored (h : r.Inv) {cookie : UInt32} (isNull : Bool) :
    Inv { r with
      cookies :=
        { notificationFunctions :=
            Function.update r.cookies.notificationFunctions cookie (r.nextFns isNull).1
          fetchFunctions := Function.update r.cookies.fetchFunctions cookie (r.nextFns isNull).2 }
      adds := r.adds + 1
      lastAdd := Function.update r.lastAdd cookie (some r.adds) } := by
  have hlast : ∀ other add, Function.update r.lastAdd cookie (some r.adds) other = some add →
      (other = cookie ∧ add = r.adds) ∨ (other ≠ cookie ∧ r.lastAdd other = some add) := by
    intro other add hadd
    by_cases hother : other = cookie
    · subst hother
      rw [Function.update_self, Option.some.injEq] at hadd
      exact Or.inl ⟨rfl, hadd.symm⟩
    · rw [Function.update_of_ne hother] at hadd
      exact Or.inr ⟨hother, hadd⟩
  constructor
  · intro other fn hfn
    by_cases hother : other = cookie
    · subst hother
      simp only [Function.update_self, Option.some.injEq] at hfn ⊢
      subst hfn
      exact ⟨rfl, fun hmem => Nat.lt_irrefl _ (h.notified _ hmem)⟩
    · simp only [Function.update_of_ne hother] at hfn ⊢
      exact h.notify other fn hfn
  · intro other fn hfn
    by_cases hother : other = cookie
    · subst hother
      simp only [Function.update_self, Option.some.injEq] at hfn ⊢
      subst hfn
      exact ⟨rfl, fun hmem => Nat.lt_irrefl _ (h.fetched _ hmem)⟩
    · simp only [Function.update_of_ne hother] at hfn ⊢
      exact h.fetch other fn hfn
  · intro other add hadd
    rcases hlast other add hadd with ⟨-, rfl⟩ | ⟨-, hadd⟩
    · exact Nat.lt_succ_self _
    · exact Nat.lt_succ_of_lt (h.lastAdd other add hadd)
  · intro first second add hfirst hsecond
    rcases hlast first add hfirst with ⟨rfl, rfl⟩ | ⟨-, hfirst⟩
    · rcases hlast second _ hsecond with ⟨rfl, -⟩ | ⟨-, hsecond⟩
      · rfl
      · exact absurd (h.lastAdd second _ hsecond) (Nat.lt_irrefl _)
    · rcases hlast second add hsecond with ⟨-, rfl⟩ | ⟨-, hsecond⟩
      · exact absurd (h.lastAdd first _ hfirst) (Nat.lt_irrefl _)
      · exact h.distinct first second add hfirst hsecond
  · exact fun add hmem => Nat.lt_succ_of_lt (h.notified add hmem)
  · exact fun add hmem => Nat.lt_succ_of_lt (h.fetched add hmem)

/-- Nothing is stored by an `add`. -/
theorem Inv.not_stored (h : r.Inv) : Inv { r with adds := r.adds + 1 } where
  notify := h.notify
  fetch := h.fetch
  lastAdd := fun cookie add hadd => Nat.lt_succ_of_lt (h.lastAdd cookie add hadd)
  distinct := h.distinct
  notified := fun add hmem => Nat.lt_succ_of_lt (h.notified add hmem)
  fetched := fun add hmem => Nat.lt_succ_of_lt (h.fetched add hmem)

theorem Inv.add (h : r.Inv) {cookie : UInt32} {isNull : Bool} (hfits : r.Fits (.add cookie isNull))
    (hstep : r.step (.add cookie isNull) = some r') : r'.Inv := by
  obtain ⟨hcookie, hmade⟩ := Option.ite_none_left_eq_some.mp hstep
  have hboth := hfits hcookie
  cases hnotify : r.cookies.notificationFunctions cookie with
  | none =>
    have hfetch : r.cookies.fetchFunctions cookie = none := by simpa [hnotify] using hboth
    rw [add_of_none hnotify hfetch] at hmade
    cases hmade
    exact h.stored isNull
  | some fn =>
    have hfetch : (r.cookies.fetchFunctions cookie).isSome = true := by simpa [hnotify] using hboth
    rw [add_of_some (by rw [hnotify]; rfl) hfetch] at hmade
    cases hmade
    exact h.not_stored

theorem Inv.available (h : r.Inv) {cookie : UInt32}
    (hstep : r.step (.available cookie) = some r') : r'.Inv := by
  cases hstep
  unfold PendingCookies.available
  cases hstored : r.cookies.notificationFunctions cookie with
  | none =>
    exact ⟨by simpa using h.notify, h.fetch, h.lastAdd, h.distinct, by simpa using h.notified,
      h.fetched⟩
  | some stored =>
    have hcalled : ∀ add ∈ ((if stored.isNull then none else some stored).map NotifyFn.add).toList,
        add = stored.add := by
      intro add hmem
      split at hmem
      · simp at hmem
      · simpa using hmem
    obtain ⟨hlast, -⟩ := h.notify cookie stored hstored
    refine ⟨fun other fn hfn => ?_, h.fetch, h.lastAdd, h.distinct, fun add hmem => ?_, h.fetched⟩
    · dsimp only at hfn ⊢
      by_cases hother : other = cookie
      · subst hother
        simp at hfn
      · rw [Function.update_of_ne hother] at hfn
        obtain ⟨hfnLast, hnot⟩ := h.notify other fn hfn
        refine ⟨hfnLast, List.mem_append.not.mpr (not_or.mpr ⟨hnot, fun hmem => hother ?_⟩)⟩
        rw [hcalled _ hmem] at hfnLast
        exact h.distinct other cookie _ hfnLast hlast
    · rcases List.mem_append.mp hmem with hmem | hmem
      · exact h.notified add hmem
      · rw [hcalled add hmem]
        exact h.lastAdd cookie _ hlast

theorem Inv.finish (h : r.Inv) {cookie : UInt32} (hstep : r.step (.finish cookie) = some r') :
    r'.Inv := by
  cases hstep
  unfold PendingCookies.finish
  cases hstored : r.cookies.fetchFunctions cookie with
  | none => exact ⟨h.notify, by simpa using h.fetch, h.lastAdd, h.distinct, h.notified,
      by simpa using h.fetched⟩
  | some stored =>
    obtain ⟨hlast, -⟩ := h.fetch cookie stored hstored
    refine ⟨h.notify, fun other fn hfn => ?_, h.lastAdd, h.distinct, h.notified, fun add hmem => ?_⟩
    · dsimp only at hfn ⊢
      by_cases hother : other = cookie
      · subst hother
        simp at hfn
      · rw [Function.update_of_ne hother] at hfn
        obtain ⟨hfnLast, hnot⟩ := h.fetch other fn hfn
        refine ⟨hfnLast, List.mem_append.not.mpr (not_or.mpr ⟨hnot, fun hmem => hother ?_⟩)⟩
        rw [List.mem_singleton.mp hmem] at hfnLast
        exact h.distinct other cookie _ hfnLast hlast
    · rcases List.mem_append.mp hmem with hmem | hmem
      · exact h.fetched add hmem
      · rw [List.mem_singleton.mp hmem]
        exact h.lastAdd cookie _ hlast

theorem Inv.step (h : r.Inv) {e : CookieEvent} (hfits : r.Fits e) (hstep : r.step e = some r') :
    r'.Inv := by
  cases e with
  | add => exact h.add hfits hstep
  | available => exact h.available hstep
  | finish => exact h.finish hstep

/-- All calls of a run are as expected exactly if cookies are added only when both functions of
the last time have been taken, or none of them. -/
theorem cookie_run_sound_iff (es : List CookieEvent) :
    AlongRun step StepSound {} es ↔ AlongRun step Fits {} es := by
  apply Foundation.alongRun_iff (I := Inv)
  · exact fun r e r' h hfits hstep => h.step hfits hstep
  · exact fun r e h => h.stepSound_iff e
  · exact init_inv

/-- A cookie is finished before it has been announced, and then it is used again. -/
theorem stale_notify_function :
    ¬ ∀ es : List CookieEvent, AlongRun step StepSound {} es := by
  intro h
  have hrun := h [.add 1 false, .finish 1, .add 1 false]
  have hadded := ((hrun.2 _ rfl).2 _ rfl).1 (by decide)
  have hmaps := congrFun (congrArg PendingCookies.notificationFunctions hadded) 1
  revert hmaps
  decide

end CookieRun

end Drcpd.Browser

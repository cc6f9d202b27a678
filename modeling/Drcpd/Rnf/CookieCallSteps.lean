/-
  Rnf/CookieCallSteps.lean --- what one event does to the calls and their cookies.

  Each cookie that the list broker has handed out, and has not forgotten about, is in one
  place: it has not been answered, or it is in a signal or in an event, or one of the threads
  is about to come to it.  The functions of a call are stored as long as its cookie is there,
  the notify function up to the point where the cookie is announced.
-/
import Drcpd.Rnf.CookieCalls
import Drcpd.Rnf.CallRuns
import Mathlib.Data.List.Nodup
import Mathlib.Data.List.Perm.Basic

set_option autoImplicit false

namespace Drcpd.Rnf

open Drcpd.Browser

variable {R E : Type}

/-! ## One call -/

namespace Call

variable {c c' : Call R E} {cookie : UInt32}

/-- A notification for this cookie is taken. -/
def Expects (c : Call R E) (cookie : UInt32) : Prop :=
  c.cookie = cookie ∨ (c.cookie = 0 ∧ c.clearedCookie = cookie)

/-- The call does not begin to wait for a notification, or for being fetched. -/
structure GoesOn (c c' : Call R E) : Prop where
  initialized : c'.state = .initialized → c.state = .initialized
  waiting : c'.state = .waitForNotification →
    c.state = .waitForNotification ∧ ∀ cookie, c.Expects cookie → c'.Expects cookie
  ready : c'.state = .readyToFetch → c.state = .readyToFetch

theorem GoesOn.refl (c : Call R E) : c.GoesOn c := ⟨id, fun h => ⟨h, fun _ => id⟩, id⟩

/-- A call that is neither initialized nor waiting any more. -/
theorem GoesOn.of_state (h : c'.state ≠ .initialized) (hwait : c'.state ≠ .waitForNotification)
    (hready : c'.state ≠ .readyToFetch) : c.GoesOn c' :=
  ⟨fun hs => absurd hs h, fun hs => absurd hs hwait, fun hs => absurd hs hready⟩

theorem goesOn_fetchUnlocked (c : Call R E) (answer : Except E R) :
    c.GoesOn (c.fetchUnlocked answer).2 := by
  rcases CallRun.fetchUnlocked_cases c answer with ⟨-, -, hsame⟩ | ⟨-, -, -, hfinal, -⟩
  · rw [hsame]
    exact GoesOn.refl c
  · refine GoesOn.of_state ?_ ?_ ?_ <;> intro hs <;> rw [hs] at hfinal <;> revert hfinal <;> decide

theorem goesOn_abortBegin (c : Call R E) : c.GoesOn c.abortBegin.2 := by
  by_cases halive : c.state = .aboutToDestroy
  · have hsame : c.abortBegin.2 = c := by
      unfold abortBegin
      rw [halive]
    rw [hsame]
    exact GoesOn.refl c
  · rcases CallRun.abortBegin_cases c halive with
      ⟨-, -, -, heq⟩ | ⟨-, -, hcookie, heq⟩ | ⟨-, heq⟩ | ⟨-, heq⟩
    · rw [heq]
      exact GoesOn.of_state nofun nofun nofun
    · rw [heq]
      refine ⟨id, fun hs => ⟨hs, fun cookie hexpects => Or.inr ⟨rfl, ?_⟩⟩, id⟩
      exact hexpects.resolve_right fun hzero => hcookie hzero.1
    · rw [heq]
      exact ⟨id, fun hs => ⟨hs, fun _ => id⟩, id⟩
    · rw [heq]
      exact GoesOn.refl c

theorem goesOn_abortEnd (c : Call R E) (answer : AbortAnswer) : c.GoesOn (c.abortEnd answer).2 := by
  cases answer with
  | success => exact GoesOn.of_state nofun nofun nofun
  | failure => exact GoesOn.refl c
  | exception => exact GoesOn.refl c

theorem goesOn_getResultUnlocked {result : Except (GetError E) R}
    (h : c.getResultUnlocked = some (result, c')) : c.GoesOn c' := by
  rcases CallRun.getResultUnlocked_cases h with rfl | rfl | ⟨-, rfl⟩
  · exact GoesOn.refl c'
  · exact ⟨id, fun hs => ⟨hs, fun _ => id⟩, id⟩
  · exact GoesOn.of_state nofun nofun nofun

/-- `abort_request` begins with the cookie of the call, or it does not go on. -/
theorem abortBegin_keeps (c : Call R E) :
    (c.abortBegin.2.cookie ≠ 0 → c.abortBegin.2.cookie = c.cookie) ∧
      (c.abortBegin.2.state = .aboutToDestroy → c.state = .aboutToDestroy) ∧
      ∀ cookie, c.abortBegin.1 = .unlocked cookie → cookie = c.cookie ∧ cookie ≠ 0 := by
  by_cases halive : c.state = .aboutToDestroy
  · unfold abortBegin
    rw [halive]
    exact ⟨fun _ => rfl, fun _ => rfl, nofun⟩
  · rcases CallRun.abortBegin_cases c halive with
      ⟨-, -, -, heq⟩ | ⟨-, -, hcookie, heq⟩ | ⟨-, heq⟩ | ⟨-, heq⟩
    · rw [heq]
      exact ⟨fun hzero => absurd rfl hzero, nofun, nofun⟩
    · rw [heq]
      refine ⟨fun hzero => absurd rfl hzero, id, fun cookie hunlocked => ?_⟩
      cases hunlocked
      exact ⟨rfl, hcookie⟩
    · rw [heq]
      exact ⟨fun _ => rfl, id, nofun⟩
    · rw [heq]
      exact ⟨fun _ => rfl, id, nofun⟩

theorem abortEnd_keeps (c : Call R E) (answer : AbortAnswer) :
    (c.abortEnd answer).2.cookie = c.cookie ∧
      ((c.abortEnd answer).2.state = .aboutToDestroy → c.state = .aboutToDestroy) := by
  cases answer with
  | success => exact ⟨rfl, nofun⟩
  | failure => exact ⟨rfl, id⟩
  | exception => exact ⟨rfl, id⟩

theorem abortRequest_cookie (c : Call R E) (answer : AbortAnswer)
    (h : (c.abortRequest answer).2.cookie ≠ 0) : (c.abortRequest answer).2.cookie = c.cookie := by
  have hbegin := c.abortBegin_keeps.1
  unfold abortRequest at h ⊢
  split at h
  case h_1 heq =>
    rw [heq] at hbegin
    exact hbegin h
  case h_2 heq =>
    rw [heq] at hbegin
    rw [(abortEnd_keeps _ answer).1] at h ⊢
    exact hbegin h

theorem fetchUnlocked_keeps (c : Call R E) (answer : Except E R) :
    ((c.fetchUnlocked answer).2.cookie ≠ 0 → (c.fetchUnlocked answer).2.cookie = c.cookie) ∧
      ((c.fetchUnlocked answer).2.state = .aboutToDestroy → c.state = .aboutToDestroy) := by
  rcases CallRun.fetchUnlocked_cases c answer with ⟨-, -, hsame⟩ | ⟨-, -, hzero, hfinal, -⟩
  · rw [hsame]
    exact ⟨fun _ => rfl, id⟩
  · have hnot : ¬CallState.aboutToDestroy.IsFinal := by decide
    exact ⟨fun h => absurd hzero h, fun hs => absurd (hs ▸ hfinal) hnot⟩

theorem getResultUnlocked_keeps {result : Except (GetError E) R}
    (h : c.getResultUnlocked = some (result, c')) :
    c'.cookie = c.cookie ∧ (c'.state = .aboutToDestroy → c.state = .aboutToDestroy) := by
  rcases CallRun.getResultUnlocked_cases h with rfl | rfl | ⟨-, rfl⟩
  · exact ⟨rfl, id⟩
  · exact ⟨rfl, id⟩
  · exact ⟨rfl, nofun⟩

/-- A notification that is expected ends the waiting. -/
theorem notification_of_expects (hwait : c.state = .waitForNotification)
    (hexpects : c.Expects cookie) (hcookie : cookie ≠ 0) (newState : CallState) :
    c.notification cookie newState = c.setState newState := by
  have hknown : ¬(cookie ≠ c.cookie ∧ cookie ≠ c.clearedCookie) := by
    rintro ⟨hnot, hnot'⟩
    rcases hexpects with h | ⟨-, h⟩
    · exact hnot h.symm
    · exact hnot' h.symm
  unfold notification
  rw [if_neg hcookie, if_neg hknown, hwait]

/-- A call fetches unless it has not been notified, or does not exist any more. -/
theorem fetchUnlocked_result (answer : Except E R) (hinit : c.state ≠ .initialized)
    (hwait : c.state ≠ .waitForNotification) (halive : c.state ≠ .aboutToDestroy) :
    (c.fetchUnlocked answer).1.result.isSome = true := by
  unfold fetchUnlocked
  cases hs : c.state with
  | initialized => exact absurd hs hinit
  | waitForNotification => exact absurd hs hwait
  | aboutToDestroy => exact absurd hs halive
  | readyToFetch =>
    dsimp only
    split <;> rfl
  | resultFetched | aborting | abortedByListBroker | failed => rfl

end Call

/-! ## What holds between two events -/

namespace CookieCalls

variable {s s' : CookieCalls R E} {u a : List UInt32}

/-- The cookies in a signal. -/
def cookiesOf (signal : Signal) : List UInt32 := signal.map (·.1)

/-- The cookies that have been announced by the D-Bus thread, but not stored. -/
def dbusDone (s : CookieCalls R E) : List UInt32 :=
  (s.dbusThread.map fun telling => cookiesOf telling.done).getD []

/-- The function that the D-Bus thread is about to call. -/
def dbusTaken (s : CookieCalls R E) : Option Taken := s.dbusThread.bind (·.taken)

/-- The function that the main thread is about to call. -/
def mainTaken (s : CookieCalls R E) : Option Taken := s.mainThread.bind (·.taken)

/-- The cookies in signals that have not been announced. -/
def underway (s : CookieCalls R E) : List UInt32 :=
  s.channel.flatMap cookiesOf ++
    (s.dbusThread.map fun telling => cookiesOf telling.rest).getD []

/-- The cookies that have not been announced. -/
def unannounced (s : CookieCalls R E) : List UInt32 := s.outstanding ++ s.underway

/-- The cookies that have been announced, but not finished. -/
def announced (s : CookieCalls R E) : List UInt32 :=
  s.dbusDone ++ (s.events.flatMap cookiesOf ++
    (s.mainThread.map fun telling => cookiesOf telling.rest).getD [])

/-- The call is going to be notified: an answer for its cookie is due, or on its way, and its
notify function is stored or is about to be called. -/
def WillBeTold (s : CookieCalls R E) (u : List UInt32) (call : Nat) : Prop :=
  ∃ cookie, s.requested call = some cookie ∧ (s.calls call).Expects cookie ∧
    s.pending.fetchFunctions cookie = some ⟨call⟩ ∧
    ((cookie ∈ u ∧ s.pending.notificationFunctions cookie = some ⟨call, false⟩) ∨
      ∃ failed, s.dbusTaken = some ⟨cookie, failed, call⟩)

/-- What holds of the calls and their cookies, where `u` are the cookies that have not been
announced, and `a` those that have been announced. -/
structure Inv (s : CookieCalls R E) (u a : List UInt32) : Prop where
  nodup : (u ++ a).Nodup
  dropped : ∀ cookie ∈ s.dropped, cookie ∉ u ++ a
  fetch_iff : ∀ cookie, (s.pending.fetchFunctions cookie).isSome = true ↔
    cookie ∈ u ++ a ∨ cookie ∈ s.dropped
  notify_iff : ∀ cookie, (s.pending.notificationFunctions cookie).isSome = true ↔
    cookie ∈ u ∨ cookie ∈ s.dropped
  same : ∀ cookie fn, s.pending.notificationFunctions cookie = some fn →
    fn.isNull = false ∧ s.pending.fetchFunctions cookie = some ⟨fn.add⟩
  owner : ∀ cookie fn, s.pending.fetchFunctions cookie = some fn →
    s.requested fn.add = some cookie ∧ (s.calls fn.add).state ≠ .aboutToDestroy
  nonzero : ∀ call cookie, s.requested call = some cookie → cookie ≠ 0
  cookie : ∀ call, (s.calls call).cookie ≠ 0 → s.requested call = some (s.calls call).cookie
  aborts : ∀ p ∈ s.aborts, s.requested p.1 = some p.2
  initial : ∀ call, (s.calls call).state = .initialized →
    s.requested call = none ∧ call ∉ s.told
  waiting : ∀ call, (s.calls call).state = .waitForNotification → s.WillBeTold u call
  ready : ∀ call, (s.calls call).state = .readyToFetch → ∃ cookie,
    s.requested call = some cookie ∧ (s.pending.fetchFunctions cookie = some ⟨call⟩ ∨
      ∃ failed, s.mainTaken = some ⟨cookie, failed, call⟩)
  dbus : ∀ taken, s.dbusTaken = some taken → s.requested taken.call = some taken.cookie ∧
    s.pending.fetchFunctions taken.cookie = some ⟨taken.call⟩ ∧ taken.cookie ∈ s.dbusDone
  main : ∀ taken, s.mainTaken = some taken → s.requested taken.call = some taken.cookie ∧
    s.pending.fetchFunctions taken.cookie ≠ some ⟨taken.call⟩ ∧ taken.call ∉ s.told ∧
    (s.calls taken.call).state ≠ .waitForNotification ∧
    (s.calls taken.call).state ≠ .aboutToDestroy
  told_once : s.told.Nodup
  told : ∀ call ∈ s.told, ∀ cookie, s.requested call = some cookie →
    s.pending.fetchFunctions cookie ≠ some ⟨call⟩
  accounted : ∀ call cookie, s.requested call = some cookie →
    s.pending.fetchFunctions cookie = some ⟨call⟩ ∨
      (∃ failed, s.mainTaken = some ⟨cookie, failed, call⟩) ∨ call ∈ s.told
  good : s.badState = false

theorem inv_start : Inv ({} : CookieCalls R E) [] [] := by
  constructor <;> simp [dbusTaken, mainTaken]

theorem Inv.perm {u' a' : List UInt32} (h : s.Inv u a) (hu : u'.Perm u) (ha : a'.Perm a) :
    s.Inv u' a' := by
  have hall : (u' ++ a').Perm (u ++ a) := hu.append ha
  refine { h with
    nodup := hall.nodup_iff.mpr h.nodup
    dropped := fun cookie hdropped hmem => h.dropped cookie hdropped (hall.subset hmem)
    fetch_iff := fun cookie => (h.fetch_iff cookie).trans (or_congr_left hall.mem_iff.symm)
    notify_iff := fun cookie => (h.notify_iff cookie).trans (or_congr_left hu.mem_iff.symm)
    waiting := fun call hwait => ?_ }
  obtain ⟨cookie, hrequested, hexpects, hfetch, hnotify⟩ := h.waiting call hwait
  exact ⟨cookie, hrequested, hexpects, hfetch,
    hnotify.imp_left fun hstored => ⟨hu.mem_iff.mpr hstored.1, hstored.2⟩⟩

/-! ## What the owners of the calls do -/

section Owners

variable {call : Nat} {c : Call R E}

/-- A call may become ready to be fetched as long as its fetch function is stored. -/
theorem Inv.replaceCall (h : s.Inv u a)
    (hinit : c.state = .initialized → (s.calls call).state = .initialized)
    (hwaiting : c.state = .waitForNotification → (s.calls call).state = .waitForNotification ∧
      ∀ cookie, (s.calls call).Expects cookie → c.Expects cookie)
    (hready : c.state = .readyToFetch → (s.calls call).state = .readyToFetch ∨
      ∃ cookie, s.requested call = some cookie ∧ s.pending.fetchFunctions cookie = some ⟨call⟩)
    (hcookie : c.cookie ≠ 0 → c.cookie = (s.calls call).cookie)
    (halive : c.state = .aboutToDestroy → (s.calls call).state = .aboutToDestroy ∨
      (∀ cookie, s.pending.fetchFunctions cookie ≠ some ⟨call⟩) ∧
        ∀ taken, s.mainTaken = some taken → taken.call ≠ call) :
    (s.setCall call c).Inv u a := by
  have hcalls : ∀ other, (s.setCall call c).calls other = s.calls other ∨
      other = call ∧ (s.setCall call c).calls other = c := by
    intro other
    by_cases hother : other = call
    · subst hother
      exact Or.inr ⟨rfl, Function.update_self ..⟩
    · exact Or.inl (Function.update_of_ne hother ..)
  refine { h with
    owner := fun cookie fn hfn => ⟨(h.owner cookie fn hfn).1, fun hdead => ?_⟩
    cookie := fun other hzero => ?_
    initial := fun other hs => ?_
    waiting := fun other hs => ?_
    ready := fun other hs => ?_
    main := fun taken htaken => ?_ }
  · rcases hcalls fn.add with hsame | ⟨hcall, hsame⟩
    · exact (h.owner cookie fn hfn).2 (hsame ▸ hdead)
    · rcases halive (hsame ▸ hdead) with hdead' | hfree
      · exact (h.owner cookie fn hfn).2 (hcall ▸ hdead')
      · exact hfree.1 cookie (hcall ▸ hfn)
  · rcases hcalls other with hsame | ⟨hcall, hsame⟩
    · rw [hsame] at hzero ⊢
      exact h.cookie other hzero
    · rw [hsame] at hzero ⊢
      have heq := hcookie hzero
      subst hcall
      rw [heq]
      exact h.cookie other (heq ▸ hzero)
  · rcases hcalls other with hsame | ⟨hcall, hsame⟩
    · exact h.initial other (hsame ▸ hs)
    · exact h.initial other (hcall ▸ hinit (hsame ▸ hs))
  · rcases hcalls other with hsame | ⟨hcall, hsame⟩
    · obtain ⟨cookie, hrequested, hexpects, hrest⟩ := h.waiting other (hsame ▸ hs)
      exact ⟨cookie, hrequested, hsame ▸ hexpects, hrest⟩
    · have hwait := hwaiting (hsame ▸ hs)
      obtain ⟨cookie, hrequested, hexpects, hrest⟩ := h.waiting other (hcall ▸ hwait.1)
      refine ⟨cookie, hrequested, ?_, hrest⟩
      rw [hsame]
      exact hwait.2 cookie (hcall ▸ hexpects)
  · rcases hcalls other with hsame | ⟨hcall, hsame⟩
    · exact h.ready other (hsame ▸ hs)
    · subst hcall
      rcases hready (hsame ▸ hs) with hs | ⟨cookie, hrequested, hfetch⟩
      · exact h.ready other hs
      · exact ⟨cookie, hrequested, Or.inl hfetch⟩
  · obtain ⟨hrequested, hfetch, htold, hwait, hdead⟩ := h.main taken htaken
    refine ⟨hrequested, hfetch, htold, fun hs => ?_, fun hs => ?_⟩
    · rcases hcalls taken.call with hsame | ⟨hcall, hsame⟩
      · exact hwait (hsame ▸ hs)
      · exact hwait (hcall ▸ (hwaiting (hsame ▸ hs)).1)
    · rcases hcalls taken.call with hsame | ⟨hcall, hsame⟩
      · exact hdead (hsame ▸ hs)
      · rcases halive (hsame ▸ hs) with hdead' | hfree
        · exact hdead (hcall ▸ hdead')
        · exact hfree.2 taken htaken hcall

/-- A call that goes on leaves the cookies alone. -/
theorem Inv.setCall (h : s.Inv u a) (hgoes : (s.calls call).GoesOn c)
    (hcookie : c.cookie ≠ 0 → c.cookie = (s.calls call).cookie)
    (halive : c.state = .aboutToDestroy → (s.calls call).state = .aboutToDestroy ∨
      (∀ cookie, s.pending.fetchFunctions cookie ≠ some ⟨call⟩) ∧
        ∀ taken, s.mainTaken = some taken → taken.call ≠ call) :
    (s.setCall call c).Inv u a :=
  h.replaceCall hgoes.initialized hgoes.waiting (fun hs => Or.inl (hgoes.ready hs)) hcookie halive

theorem Inv.fetch (h : s.Inv u a) (call : Nat) (answer : Except E R) :
    (s.setCall call ((s.calls call).fetchUnlocked answer).2).Inv u a :=
  have hkeeps := (s.calls call).fetchUnlocked_keeps answer
  h.setCall ((s.calls call).goesOn_fetchUnlocked answer) hkeeps.1 fun hs => Or.inl (hkeeps.2 hs)

theorem Inv.getResult (h : s.Inv u a) {result : Except (GetError E) R}
    (hresult : (s.calls call).getResultUnlocked = some (result, c)) :
    (s.setCall call c).Inv u a :=
  have hkeeps := Call.getResultUnlocked_keeps hresult
  h.setCall (Call.goesOn_getResultUnlocked hresult) (fun _ => hkeeps.1)
    fun hs => Or.inl (hkeeps.2 hs)

theorem Inv.abortBegin (h : s.Inv u a) (call : Nat) : (s.abortBegin call).Inv u a := by
  have hkeeps := (s.calls call).abortBegin_keeps
  have hset : (s.setCall call (s.calls call).abortBegin.2).Inv u a :=
    h.setCall (s.calls call).goesOn_abortBegin hkeeps.1 fun hs => Or.inl (hkeeps.2.1 hs)
  unfold CookieCalls.abortBegin
  split
  case h_1 heq =>
    rw [heq] at hset
    exact hset
  case h_2 cookie c heq =>
    obtain ⟨hcookie, hzero⟩ := hkeeps.2.2 cookie (congrArg Prod.fst heq)
    rw [heq] at hset
    refine { hset with aborts := fun p hp => ?_ }
    rcases List.mem_cons.mp hp with rfl | hp
    · rw [hcookie] at hzero ⊢
      exact h.cookie call hzero
    · exact h.aborts p hp

theorem drop_of_not_mem {cookie : UInt32} (h : cookie ∉ s.outstanding) : s.drop cookie = s :=
  if_neg h

/-- The list broker forgets about a cookie that no call is waiting for. -/
theorem Inv.drop {v : List UInt32} (h : s.Inv (s.outstanding ++ v) a) {cookie : UInt32}
    (hmem : cookie ∈ s.outstanding)
    (hnot : ∀ call, (s.calls call).state = .waitForNotification →
      s.requested call ≠ some cookie) :
    (s.drop cookie).Inv ((s.drop cookie).outstanding ++ v) a := by
  have hfilter : ∀ other, other ∈ s.outstanding.filter (· ≠ cookie) ↔
      other ∈ s.outstanding ∧ other ≠ cookie := by
    intro other
    rw [List.mem_filter, decide_eq_true_iff]
  have hnodup := h.nodup
  rw [List.append_assoc, List.nodup_append] at hnodup
  have hgone : cookie ∉ v ++ a := fun hother => hnodup.2.2 cookie hmem cookie hother rfl
  have hout : ∀ other, other ∈ s.outstanding ↔
      other ∈ s.outstanding.filter (· ≠ cookie) ∨ other = cookie := by
    intro other
    rw [hfilter]
    by_cases hother : other = cookie
    · simp [hother, hmem]
    · simp [hother]
  unfold CookieCalls.drop
  rw [if_pos hmem]
  refine { h with
    nodup := ?_
    dropped := fun other hother => ?_
    fetch_iff := fun other => ?_
    notify_iff := fun other => ?_
    waiting := fun call hwait => ?_ }
  · exact h.nodup.sublist (((List.filter_sublist).append_right v).append_right a)
  · simp only [List.append_assoc, List.mem_append, hfilter]
    rintro (⟨hmem', hne⟩ | hrest)
    · rcases List.mem_cons.mp hother with rfl | hother
      · exact hne rfl
      · exact h.dropped other hother (by simp [hmem'])
    · rcases List.mem_cons.mp hother with rfl | hother
      · exact hgone (List.mem_append.mpr hrest)
      · exact h.dropped other hother (by simp [hrest])
  · rw [h.fetch_iff]
    simp only [List.mem_append, List.mem_cons, hout]
    tauto
  · rw [h.notify_iff]
    simp only [List.mem_append, List.mem_cons, hout]
    tauto
  · obtain ⟨other, hrequested, hexpects, hfetch, hnotify⟩ := h.waiting call hwait
    refine ⟨other, hrequested, hexpects, hfetch, hnotify.imp_left fun hstored => ⟨?_, hstored.2⟩⟩
    refine List.mem_append.mpr ((List.mem_append.mp hstored.1).imp_left fun hother => ?_)
    refine ((hout other).mp hother).resolve_right fun heq => ?_
    exact hnot call hwait (heq ▸ hrequested)

theorem isShared_of_stored (h : s.Inv u a) (hfree : s.isShared call = false) :
    (∀ cookie, s.pending.fetchFunctions cookie ≠ some ⟨call⟩) ∧
      ∀ taken, s.mainTaken = some taken → taken.call ≠ call := by
  unfold isShared at hfree
  rw [Bool.or_eq_false_iff, Bool.or_eq_false_iff] at hfree
  constructor
  · intro cookie hfetch
    have hstored := hfree.1.1
    rw [(h.owner cookie ⟨call⟩ hfetch).1] at hstored
    simp [hfetch] at hstored
  · rintro taken htaken rfl
    have hmain := hfree.2
    change s.mainTaken.any _ = false at hmain
    simp [htaken] at hmain

theorem Inv.destroy (h : s.Inv u a) {answer : AbortAnswer}
    (hstep : s.destroy call answer = some s') : s'.Inv u a := by
  unfold CookieCalls.destroy at hstep
  split at hstep
  · cases hstep
  case isFalse hfree =>
    cases hstep
    refine h.setCall (Call.GoesOn.of_state nofun nofun nofun) ?_ fun _ => Or.inr ?_
    · exact (s.calls call).abortRequest_cookie answer
    · exact isShared_of_stored h (Bool.not_eq_true _ ▸ hfree)

/-- `abort_request` ends; a cookie that the list broker forgets about is not one which another
call is waiting for by now. -/
theorem Inv.abortEnd {v : List UInt32} (h : s.Inv (s.outstanding ++ v) a) {cookie : UInt32}
    {answer : AbortAnswer} {isDropped : Bool}
    (hnot : answer = .success → isDropped = true → cookie ∈ s.outstanding → ∀ other,
      other ≠ call → (s.calls other).state = .waitForNotification →
        s.requested other ≠ some cookie)
    (hstep : s.abortEnd call cookie answer isDropped = some s') :
    s'.Inv (s'.outstanding ++ v) a := by
  obtain ⟨hmem, hstep⟩ := Option.ite_none_right_eq_some.mp hstep
  have hkeeps := (s.calls call).abortEnd_keeps answer
  have hset : (s.setCall call ((s.calls call).abortEnd answer).2).Inv (s.outstanding ++ v) a := by
    refine h.setCall ((s.calls call).goesOn_abortEnd answer) ?_ fun hs => Or.inl (hkeeps.2 hs)
    exact fun _ => hkeeps.1
  have hended : Inv { s.setCall call ((s.calls call).abortEnd answer).2 with
      aborts := s.aborts.erase (call, cookie) } (s.outstanding ++ v) a :=
    { hset with aborts := fun p hp => h.aborts p (List.mem_of_mem_erase hp) }
  cases hstep
  dsimp only
  split
  case isFalse => exact hended
  case isTrue hdropped =>
    by_cases hout : cookie ∈ s.outstanding
    · refine hended.drop hout fun other hwait => ?_
      by_cases hother : other = call
      · -- The call itself is being aborted by now.
        subst hother
        rw [hdropped.1] at hwait
        change (Function.update s.calls other _ other).state = _ at hwait
        rw [Function.update_self] at hwait
        cases hwait
      · refine hnot hdropped.1 hdropped.2 hout other hother ?_
        change (Function.update s.calls call _ other).state = _ at hwait
        rwa [Function.update_of_ne hother] at hwait
    · have hsame := drop_of_not_mem (s := { s.setCall call ((s.calls call).abortEnd answer).2 with
        aborts := s.aborts.erase (call, cookie) }) hout
      exact hsame.symm ▸ hended

/-- A call gets a cookie for which nothing is stored. -/
theorem Inv.setPendingCookie (h : s.Inv u a) (hinit : (s.calls call).state = .initialized)
    (hwait : c.state = .waitForNotification) {cookie : UInt32} (hcookie : c.cookie = cookie)
    (hzero : cookie ≠ 0) (hfresh : s.pending.fetchFunctions cookie = none) :
    ((s.setCall call c).setPendingCookie call cookie).Inv (cookie :: u) a := by
  obtain ⟨hnone, htold⟩ := h.initial call hinit
  have hnotify : s.pending.notificationFunctions cookie = none := by
    cases hstored : s.pending.notificationFunctions cookie with
    | none => rfl
    | some fn => cases hfresh.symm.trans (h.same cookie fn hstored).2
  have hout : ¬(cookie ∈ u ++ a ∨ cookie ∈ s.dropped) := by
    rw [← h.fetch_iff, hfresh]
    exact Bool.false_ne_true
  obtain ⟨hpipeline, hdropped⟩ := not_or.mp hout
  have hadd : (s.pending.add cookie { add := call } { add := call }).2 =
      { notificationFunctions :=
          Function.update s.pending.notificationFunctions cookie (some { add := call })
        fetchFunctions := Function.update s.pending.fetchFunctions cookie (some ⟨call⟩) } := by
    rw [CookieRun.add_of_none hnotify hfresh]
  have hcalls : ∀ other, other ≠ call → Function.update s.calls call c other = s.calls other :=
    fun other hne => Function.update_of_ne hne ..
  have hrequested : ∀ other, other ≠ call →
      Function.update s.requested call (some cookie) other = s.requested other :=
    fun other hne => Function.update_of_ne hne ..
  have hother : ∀ other value, s.requested other = some value → other ≠ call := by
    rintro other value hvalue rfl
    cases hnone.symm.trans hvalue
  have hkeeps : ∀ other fn, s.pending.fetchFunctions other = some fn →
      Function.update s.pending.fetchFunctions cookie (some ⟨call⟩) other = some fn := by
    intro other fn hfn
    rw [Function.update_of_ne, hfn]
    rintro rfl
    cases hfresh.symm.trans hfn
  have hnew : ∀ other fn,
      Function.update s.pending.fetchFunctions cookie (some (⟨call⟩ : FetchFn)) other = some fn →
        (other = cookie ∧ fn = ⟨call⟩) ∨ s.pending.fetchFunctions other = some fn := by
    intro other fn hfn
    by_cases heq : other = cookie
    · subst heq
      rw [Function.update_self, Option.some.injEq] at hfn
      exact Or.inl ⟨rfl, hfn.symm⟩
    · rw [Function.update_of_ne heq] at hfn
      exact Or.inr hfn
  unfold CookieCalls.setPendingCookie
  rw [show (s.setCall call c).pending = s.pending from rfl, hadd]
  exact
    { nodup := List.nodup_cons.mpr ⟨hpipeline, h.nodup⟩
      dropped := by
        intro other hmem hin
        rcases List.mem_cons.mp hin with rfl | hin
        · exact hdropped hmem
        · exact h.dropped other hmem hin
      fetch_iff := by
        intro other
        by_cases heq : other = cookie
        · simp [heq]
        · dsimp only
          rw [Function.update_of_ne heq, List.cons_append, List.mem_cons, or_iff_right heq]
          exact h.fetch_iff other
      notify_iff := by
        intro other
        by_cases heq : other = cookie
        · simp [heq]
        · dsimp only
          rw [Function.update_of_ne heq, List.mem_cons, or_iff_right heq]
          exact h.notify_iff other
      same := by
        intro other fn hfn
        dsimp only at hfn ⊢
        by_cases heq : other = cookie
        · subst heq
          rw [Function.update_self, Option.some.injEq] at hfn
          subst hfn
          exact ⟨rfl, Function.update_self ..⟩
        · rw [Function.update_of_ne heq] at hfn ⊢
          exact h.same other fn hfn
      owner := by
        intro other fn hfn
        rcases hnew other fn hfn with ⟨rfl, rfl⟩ | hfn
        · refine ⟨Function.update_self .., ?_⟩
          change (Function.update s.calls call c call).state ≠ _
          rw [Function.update_self, hwait]
          decide
        · obtain ⟨hrequest, halive⟩ := h.owner other fn hfn
          have hne := hother _ _ hrequest
          refine ⟨(hrequested _ hne).trans hrequest, ?_⟩
          change (Function.update s.calls call c fn.add).state ≠ _
          rwa [hcalls _ hne]
      nonzero := by
        intro other value hvalue
        dsimp only at hvalue
        by_cases heq : other = call
        · subst heq
          rw [Function.update_self, Option.some.injEq] at hvalue
          exact hvalue ▸ hzero
        · exact h.nonzero other value ((hrequested other heq).symm.trans hvalue)
      cookie := by
        intro other
        change (Function.update s.calls call c other).cookie ≠ 0 →
          Function.update s.requested call (some cookie) other =
            some (Function.update s.calls call c other).cookie
        intro hnot
        by_cases heq : other = call
        · subst heq
          rw [Function.update_self, Function.update_self, hcookie]
        · rw [hcalls other heq] at hnot ⊢
          rw [hrequested other heq]
          exact h.cookie other hnot
      aborts := by
        intro p hp
        have hrequest := h.aborts p hp
        exact (hrequested _ (hother _ _ hrequest)).trans hrequest
      initial := by
        intro other hs
        change (Function.update s.calls call c other).state = _ at hs
        by_cases heq : other = call
        · subst heq
          rw [Function.update_self, hwait] at hs
          cases hs
        · rw [hcalls other heq] at hs
          obtain ⟨hrequest, hnot⟩ := h.initial other hs
          exact ⟨(hrequested other heq).trans hrequest, hnot⟩
      waiting := by
        intro other hs
        change (Function.update s.calls call c other).state = _ at hs
        by_cases heq : other = call
        · subst heq
          refine ⟨cookie, Function.update_self .., ?_, Function.update_self ..,
            Or.inl ⟨List.mem_cons_self, Function.update_self ..⟩⟩
          change (Function.update s.calls other c other).Expects cookie
          rw [Function.update_self]
          exact Or.inl hcookie
        · rw [hcalls other heq] at hs
          obtain ⟨value, hrequest, hexpects, hfetch, hstored⟩ := h.waiting other hs
          refine ⟨value, (hrequested other heq).trans hrequest, ?_, hkeeps value _ hfetch, ?_⟩
          · change (Function.update s.calls call c other).Expects value
            rwa [hcalls other heq]
          · refine hstored.imp_left fun hstored => ⟨List.mem_cons_of_mem _ hstored.1, ?_⟩
            dsimp only
            rw [Function.update_of_ne, hstored.2]
            rintro rfl
            cases hfresh.symm.trans hfetch
      ready := by
        intro other hs
        change (Function.update s.calls call c other).state = _ at hs
        by_cases heq : other = call
        · subst heq
          rw [Function.update_self, hwait] at hs
          cases hs
        · rw [hcalls other heq] at hs
          obtain ⟨value, hrequest, hstored⟩ := h.ready other hs
          exact ⟨value, (hrequested other heq).trans hrequest, hstored.imp_left (hkeeps value _)⟩
      dbus := by
        intro taken htaken
        obtain ⟨hrequest, hfetch, hdone⟩ := h.dbus taken htaken
        exact ⟨(hrequested _ (hother _ _ hrequest)).trans hrequest, hkeeps _ _ hfetch, hdone⟩
      main := by
        intro taken htaken
        obtain ⟨hrequest, hfetch, hnot, hstate⟩ := h.main taken htaken
        have hne := hother _ _ hrequest
        refine ⟨(hrequested _ hne).trans hrequest, fun hfn => ?_, hnot, ?_⟩
        · rcases hnew _ _ hfn with ⟨-, heq⟩ | hfn
          · exact hne (congrArg FetchFn.add heq)
          · exact hfetch hfn
        · change (Function.update s.calls call c taken.call).state ≠ _ ∧
            (Function.update s.calls call c taken.call).state ≠ _
          rwa [hcalls _ hne]
      told_once := h.told_once
      told := by
        intro other hmem value hvalue hfn
        have hne : other ≠ call := fun heq => htold (heq ▸ hmem)
        rcases hnew _ _ hfn with ⟨-, heq⟩ | hfn
        · exact hne (congrArg FetchFn.add heq)
        · exact h.told other hmem value ((hrequested other hne).symm.trans hvalue) hfn
      accounted := by
        intro other value hvalue
        dsimp only at hvalue
        by_cases heq : other = call
        · subst heq
          rw [Function.update_self, Option.some.injEq] at hvalue
          subst hvalue
          exact Or.inl (Function.update_self ..)
        · have hrequest := (hrequested other heq).symm.trans hvalue
          exact (h.accounted other value hrequest).imp_left (hkeeps value _)
      good := h.good }

/-- A call whose functions are not stored is notified about its context data. -/
theorem Inv.tell (h : s.Inv u a) (hinit : (s.calls call).state ≠ .initialized)
    (hnot : call ∉ s.told)
    (hfetch : ∀ cookie, s.requested call = some cookie →
      s.pending.fetchFunctions cookie ≠ some ⟨call⟩)
    (hmain : ∀ taken, s.mainTaken = some taken → taken.call ≠ call) :
    Inv { s with told := s.told ++ [call] } u a := by
  have hmem : ∀ other, other ∈ s.told ++ [call] ↔ other ∈ s.told ∨ other = call := by
    intro other
    rw [List.mem_append, List.mem_singleton]
  refine { h with
    initial := fun other hs => ⟨(h.initial other hs).1, fun htold => ?_⟩
    main := fun taken htaken => ?_
    told_once := ?_
    told := fun other htold => ?_
    accounted := fun other cookie hrequested =>
      (h.accounted other cookie hrequested).imp_right fun hrest =>
        hrest.imp_right fun htold => (hmem other).mpr (Or.inl htold) }
  · rcases (hmem other).mp htold with htold | rfl
    · exact (h.initial other hs).2 htold
    · exact hinit hs
  · obtain ⟨hrequested, hfetch', htold, hstate⟩ := h.main taken htaken
    refine ⟨hrequested, hfetch', fun hin => ?_, hstate⟩
    exact ((hmem _).mp hin).elim htold (hmain taken htaken)
  · exact List.nodup_append.mpr ⟨h.told_once, List.nodup_singleton call,
      fun other hin one hone => fun heq => hnot ((List.mem_singleton.mp hone) ▸ heq ▸ hin)⟩
  · rcases (hmem other).mp htold with htold | rfl
    · exact h.told other htold
    · exact hfetch

/-- `request`, for a cookie for which nothing is stored. -/
theorem Inv.request {v : List UInt32} (h : s.Inv (s.outstanding ++ v) a)
    {answer : RequestAnswer R E}
    (hfresh : ∀ cookie, answer = .cookie cookie → (s.calls call).state = .initialized →
      s.pending.fetchFunctions cookie.val = none)
    (hstep : s.request call answer = some s') : s'.Inv (s'.outstanding ++ v) a := by
  unfold CookieCalls.request Call.request at hstep
  by_cases hs : (s.calls call).state = .initialized
  · rw [if_neg (not_not.mpr hs)] at hstep
    obtain ⟨hnone, htold⟩ := h.initial call hs
    cases answer with
    | cookie cookie =>
      cases hstep
      exact h.setPendingCookie hs rfl rfl cookie.property (hfresh cookie rfl hs)
    | unmanaged cookie e => cases hstep
    | fastPath result =>
      cases hstep
      have hset : (s.setCall call { s.calls call with
          promise := some (.ok result), state := .resultFetched }).Inv (s.outstanding ++ v) a :=
        h.setCall (Call.GoesOn.of_state nofun nofun nofun) (fun _ => rfl) nofun
      refine hset.tell ?_ htold (fun cookie hrequested => ?_) fun taken htaken heq => ?_
      · change (Function.update s.calls call _ call).state ≠ _
        rw [Function.update_self]
        exact CallState.noConfusion
      · cases hnone.symm.trans hrequested
      · cases hnone.symm.trans (heq ▸ (h.main taken htaken).1)
    | fastPathThrows result =>
      cases hstep
      exact h.setCall (Call.GoesOn.of_state nofun nofun nofun) (fun _ => rfl) nofun
    | failed e =>
      cases hstep
      exact h.setCall (Call.GoesOn.of_state nofun nofun nofun) (fun _ => rfl) nofun
  · rw [if_pos hs] at hstep
    cases hstep
    exact h

end Owners

/-! ## What the threads and the list broker do -/

section Threads

variable {outstanding : List UInt32} {channel events : List Signal}
  {dbusThread mainThread : Option Telling} {rest : Signal} {cookie : UInt32} {failed : Bool}
  {taken : Taken}

/-- Cookies go on, and no function is called. -/
theorem Inv.move {u' a' : List UInt32} (h : s.Inv u a) (hu : u'.Perm u) (ha : a'.Perm a)
    (hdbus : dbusThread = s.dbusThread ∨
      s.dbusTaken = none ∧ dbusThread.bind (·.taken) = none)
    (hmain : mainThread.bind (·.taken) = s.mainTaken) :
    Inv { s with outstanding, channel, dbusThread, events, mainThread } u' a' := by
  have h' := h.perm hu ha
  have hdbus' : dbusThread.bind (·.taken) = s.dbusTaken := by
    rcases hdbus with rfl | ⟨hnone, hnone'⟩
    · rfl
    · rw [hnone, hnone']
  refine { h' with
    waiting := fun call hwait => ?_
    ready := fun call hready => ?_
    dbus := fun taken htaken => ?_
    main := fun taken htaken => h.main taken (hmain ▸ htaken)
    accounted := fun call cookie hrequested => ?_ }
  · obtain ⟨cookie, hrequested, hexpects, hfetch, hnotify⟩ := h'.waiting call hwait
    exact ⟨cookie, hrequested, hexpects, hfetch, hnotify.imp_right fun htaken =>
      htaken.imp fun failed htaken => hdbus'.trans htaken⟩
  · obtain ⟨cookie, hrequested, hfetch⟩ := h.ready call hready
    exact ⟨cookie, hrequested, hfetch.imp_right fun htaken =>
      htaken.imp fun failed htaken => hmain.trans htaken⟩
  · have hcookie := h.dbus taken (hdbus' ▸ htaken)
    rcases hdbus with rfl | ⟨-, hnone⟩
    · exact hcookie
    · cases hnone.symm.trans htaken
  · exact (h.accounted call cookie hrequested).imp_right fun hrest =>
      hrest.imp_left fun htaken => htaken.imp fun failed htaken => hmain.trans htaken

/-- The notify function of a cookie is taken as the cookie is announced. -/
theorem Inv.announce {done : Signal} (h : s.Inv (cookie :: u) a) (hdbus : s.dbusTaken = none) :
    Inv { s with
      pending := (s.pending.available cookie).2
      dbusThread := some ⟨done ++ [(cookie, failed)], rest,
        (s.pending.available cookie).1.map fun fn => ⟨cookie, failed, fn.add⟩⟩ }
      u (cookie :: a) := by
  have hperm : (u ++ cookie :: a).Perm (cookie :: u ++ a) := List.perm_middle
  have hout : cookie ∉ u ++ a := (List.nodup_cons.mp h.nodup).1
  have hdropped : cookie ∉ s.dropped := fun hin => h.dropped cookie hin List.mem_cons_self
  obtain ⟨fn, hfn⟩ := Option.isSome_iff_exists.mp
    ((h.notify_iff cookie).mpr (Or.inl List.mem_cons_self))
  obtain ⟨hnull, hfetch⟩ := h.same cookie fn hfn
  have havailable : s.pending.available cookie = (some fn,
      { s.pending with notificationFunctions :=
          Function.update s.pending.notificationFunctions cookie none }) := by
    unfold PendingCookies.available
    rw [hfn]
    dsimp only
    rw [hnull]
    rfl
  rw [havailable]
  refine { h with
    nodup := hperm.nodup_iff.mpr h.nodup
    dropped := fun other hin hmem => h.dropped other hin (hperm.subset hmem)
    fetch_iff := fun other => (h.fetch_iff other).trans (or_congr_left hperm.mem_iff.symm)
    notify_iff := fun other => ?_
    same := fun other fn hother => ?_
    waiting := fun call hwait => ?_
    dbus := fun taken htaken => ?_ }
  · dsimp only
    by_cases heq : other = cookie
    · subst heq
      rw [Function.update_self]
      refine iff_of_false Bool.false_ne_true (not_or.mpr ⟨fun hin => ?_, hdropped⟩)
      exact hout (List.mem_append_left a hin)
    · rw [Function.update_of_ne heq, h.notify_iff, List.mem_cons, or_iff_right heq]
  · dsimp only at hother
    by_cases heq : other = cookie
    · subst heq
      rw [Function.update_self] at hother
      cases hother
    · rw [Function.update_of_ne heq] at hother
      exact h.same other fn hother
  · obtain ⟨value, hrequested, hexpects, hvalue, hnotify⟩ := h.waiting call hwait
    refine ⟨value, hrequested, hexpects, hvalue, ?_⟩
    rcases hnotify with ⟨hmem, hstored⟩ | ⟨failed, htaken⟩
    · by_cases heq : value = cookie
      · subst heq
        cases hfn.symm.trans hstored
        exact Or.inr ⟨failed, rfl⟩
      · refine Or.inl ⟨(List.mem_cons.mp hmem).resolve_left heq, ?_⟩
        dsimp only
        rwa [Function.update_of_ne heq]
    · cases hdbus.symm.trans htaken
  · cases htaken
    refine ⟨(h.owner cookie _ hfetch).1, hfetch, ?_⟩
    change cookie ∈ cookiesOf (done ++ [(cookie, failed)])
    simp [cookiesOf]

/-- The notify function has been called. -/
theorem Inv.notified {done : Signal} (h : s.Inv u a)
    (hdbus : s.dbusThread = some ⟨done, rest, some taken⟩)
    (hnot : (s.calls taken.call).state ≠ .waitForNotification) :
    Inv { s with dbusThread := some ⟨done, rest, none⟩ } u a := by
  refine { h with
    waiting := fun call hwait => ?_
    dbus := nofun }
  obtain ⟨cookie, hrequested, hexpects, hfetch, hnotify⟩ := h.waiting call hwait
  refine ⟨cookie, hrequested, hexpects, hfetch, Or.inl (hnotify.resolve_right ?_)⟩
  rintro ⟨failed, htaken⟩
  unfold dbusTaken at htaken
  rw [hdbus] at htaken
  cases htaken
  exact hnot hwait

/-- The fetch function of a cookie that has been announced is taken. -/
theorem Inv.finish {done : Signal} (h : s.Inv u (cookie :: a)) (hmain : s.mainTaken = none)
    (hdone : cookie ∉ s.dbusDone) :
    Inv { s with
      pending := (s.pending.finish cookie).2
      mainThread := some ⟨done, rest,
        (s.pending.finish cookie).1.map fun fn => ⟨cookie, failed, fn.add⟩⟩ } u a := by
  have hperm : (u ++ cookie :: a).Perm (cookie :: (u ++ a)) := List.perm_middle
  obtain ⟨hout, hnodup⟩ := List.nodup_cons.mp (hperm.nodup_iff.mp h.nodup)
  have hin : cookie ∈ u ++ cookie :: a := hperm.mem_iff.mpr List.mem_cons_self
  have hdropped : cookie ∉ s.dropped := fun hmem => h.dropped cookie hmem hin
  have hunannounced : cookie ∉ u := fun hmem => hout (List.mem_append_left a hmem)
  obtain ⟨fn, hfn⟩ := Option.isSome_iff_exists.mp ((h.fetch_iff cookie).mpr (Or.inl hin))
  obtain ⟨howner, halive⟩ := h.owner cookie fn hfn
  have hfinish : s.pending.finish cookie = (some fn,
      { s.pending with fetchFunctions :=
          Function.update s.pending.fetchFunctions cookie none }) := by
    unfold PendingCookies.finish
    rw [hfn]
  have hkept : ∀ other fn, Function.update s.pending.fetchFunctions cookie none other = some fn →
      s.pending.fetchFunctions other = some fn := by
    intro other fn hother
    by_cases heq : other = cookie
    · subst heq
      rw [Function.update_self] at hother
      cases hother
    · rwa [Function.update_of_ne heq] at hother
  have hstays : ∀ other fn, other ≠ cookie → s.pending.fetchFunctions other = some fn →
      Function.update s.pending.fetchFunctions cookie none other = some fn := by
    intro other fn hne hother
    rwa [Function.update_of_ne hne]
  have hwaits : ∀ call value, s.requested call = some value → s.WillBeTold u call →
      value ≠ cookie := by
    rintro call value hrequested ⟨value', hrequested', -, -, hnotify⟩ rfl
    cases hrequested.symm.trans hrequested'
    rcases hnotify with ⟨hmem, -⟩ | ⟨failed, htaken⟩
    · exact hunannounced hmem
    · exact hdone (h.dbus _ htaken).2.2
  rw [hfinish]
  refine { h with
    nodup := hnodup
    dropped := fun other hmem hother =>
      h.dropped other hmem (hperm.mem_iff.mpr (List.mem_cons_of_mem _ hother))
    fetch_iff := fun other => ?_
    same := fun other fn hother => ?_
    owner := fun other fn hother => h.owner other fn (hkept other fn hother)
    waiting := fun call hwait => ?_
    ready := fun call hready => ?_
    dbus := fun taken htaken => ?_
    main := fun taken htaken => ?_
    told := fun call htold value hrequested hother =>
      h.told call htold value hrequested (hkept value _ hother)
    accounted := fun call value hrequested => ?_ }
  · dsimp only
    by_cases heq : other = cookie
    · subst heq
      rw [Function.update_self]
      exact iff_of_false Bool.false_ne_true (not_or.mpr ⟨hout, hdropped⟩)
    · rw [Function.update_of_ne heq, h.fetch_iff, hperm.mem_iff, List.mem_cons, or_iff_right heq]
  · obtain ⟨hnull, hfetch⟩ := h.same other fn hother
    refine ⟨hnull, hstays other _ ?_ hfetch⟩
    rintro rfl
    exact ((h.notify_iff other).mp (Option.isSome_iff_exists.mpr ⟨fn, hother⟩)).elim
      hunannounced hdropped
  · have htold := h.waiting call hwait
    obtain ⟨value, hrequested, hexpects, hfetch, hnotify⟩ := htold
    have hne := hwaits call value hrequested ⟨value, hrequested, hexpects, hfetch, hnotify⟩
    exact ⟨value, hrequested, hexpects, hstays value _ hne hfetch, hnotify⟩
  · obtain ⟨value, hrequested, hfetch⟩ := h.ready call hready
    refine ⟨value, hrequested, ?_⟩
    rcases hfetch with hfetch | ⟨failed, htaken⟩
    · by_cases heq : value = cookie
      · subst heq
        cases hfn.symm.trans hfetch
        exact Or.inr ⟨failed, rfl⟩
      · exact Or.inl (hstays value _ heq hfetch)
    · cases hmain.symm.trans htaken
  · obtain ⟨hrequested, hfetch, hmem⟩ := h.dbus taken htaken
    refine ⟨hrequested, hstays _ _ ?_ hfetch, hmem⟩
    rintro rfl
    exact hdone hmem
  · cases htaken
    refine ⟨howner, ?_, fun htold => h.told _ htold cookie howner hfn, fun hwait => ?_, halive⟩
    · dsimp only
      rw [Function.update_self]
      exact nofun
    · exact hwaits fn.add cookie howner (h.waiting fn.add hwait) rfl
  · rcases h.accounted call value hrequested with hfetch | ⟨failed, htaken⟩ | htold
    · by_cases heq : value = cookie
      · subst heq
        cases hfn.symm.trans hfetch
        exact Or.inr (Or.inl ⟨failed, rfl⟩)
      · exact Or.inl (hstays value _ heq hfetch)
    · cases hmain.symm.trans htaken
    · exact Or.inr (Or.inr htold)

/-- The fetch function has been called, and the call is not ready any more. -/
theorem Inv.fetched {done : Signal} (h : s.Inv u a)
    (hmain : s.mainThread = some ⟨done, rest, some taken⟩)
    (hnot : (s.calls taken.call).state ≠ .readyToFetch) :
    Inv { s with mainThread := some ⟨done, rest, none⟩, told := s.told ++ [taken.call] } u a := by
  have htaken : s.mainTaken = some taken := by
    unfold mainTaken
    rw [hmain]
    rfl
  obtain ⟨hrequested, hfetch, htold, -, -⟩ := h.main taken htaken
  have hmem : ∀ other, other ∈ s.told ++ [taken.call] ↔ other ∈ s.told ∨ other = taken.call := by
    intro other
    rw [List.mem_append, List.mem_singleton]
  refine { h with
    initial := fun other hs => ⟨(h.initial other hs).1, fun hin => ?_⟩
    ready := fun other hready => ?_
    main := nofun
    told_once := ?_
    told := fun other hin cookie hcookie => ?_
    accounted := fun other cookie hcookie => ?_ }
  · rcases (hmem other).mp hin with hin | rfl
    · exact (h.initial other hs).2 hin
    · cases (h.initial _ hs).1.symm.trans hrequested
  · obtain ⟨cookie, hcookie, hstored⟩ := h.ready other hready
    refine ⟨cookie, hcookie, Or.inl (hstored.resolve_right ?_)⟩
    rintro ⟨failed, hother⟩
    cases htaken.symm.trans hother
    exact hnot hready
  · exact List.nodup_append.mpr ⟨h.told_once, List.nodup_singleton _,
      fun other hin one hone heq => htold ((List.mem_singleton.mp hone) ▸ heq ▸ hin)⟩
  · rcases (hmem other).mp hin with hin | rfl
    · exact h.told other hin cookie hcookie
    · cases hrequested.symm.trans hcookie
      exact hfetch
  · rcases h.accounted other cookie hcookie with hstored | ⟨failed, hother⟩ | hin
    · exact Or.inl hstored
    · cases htaken.symm.trans hother
      exact Or.inr (Or.inr ((hmem _).mpr (Or.inr rfl)))
    · exact Or.inr (Or.inr ((hmem other).mpr (Or.inl hin)))

end Threads

end CookieCalls

end Drcpd.Rnf

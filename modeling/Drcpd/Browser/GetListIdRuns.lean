/-
  Browser/GetListIdRuns.lean --- the busy source of the GetListID calls.

  `Clears` says what a function does to the calls and the counter, with the number of times
  it clears the busy source.  A function that clears nothing keeps the invariant, one that
  does so makes the counter too small.
-/
import Drcpd.Foundation.Run
import Drcpd.Foundation.Total
import Drcpd.Browser.GetListId

set_option autoImplicit false

namespace Drcpd.Browser

open Foundation (AlongRun runFrom total)
open Busy (GlobalBusyState Request Source maxCount)
open Rnf (AbortAnswer Call GetError RequestAnswer)

/-! ## What the counter should be -/

namespace GetListIdCall

/-- The busy source is cleared once, at the end of the life of a call that has set it. -/
def Matched (c : GetListIdCall) : Prop := c.clears = (c.busySourceSet && !c.alive).toNat

/-- A requested call which is still alive. -/
def pending (c : GetListIdCall) : Nat := (c.busySourceSet && c.alive).toNat

end GetListIdCall

namespace GetListIdCalls

/-- The counter of the busy source. -/
def counter (v : GetListIdCalls) : Nat := v.global.busyCounts Source.gettingListId.index

/-- The busy source is cleared once for each requested call, and the counter is the number of
requested calls that are alive. -/
structure Sound (v : GetListIdCalls) : Prop where
  matched : ∀ c ∈ v.calls, c.Matched
  counter : v.counter = total GetListIdCall.pending v.calls

/-- No child directory request is completed while its call is the current one, and the counter
does not overflow. -/
def Fits (v : GetListIdCalls) : GetListIdEvent → Prop
  | .start purpose answer _ => v.counter < maxCount ∧
      (purpose = .childDirectory → ∀ result, answer ≠ .fastPath result)
  | .fetchByCookie i answer _ => v.getListId = some i → ∀ c, v.calls[i]? = some c →
      c.purpose = .childDirectory → (c.call.fetchUnlocked answer).1.result = none
  | .cancelAndDeleteAll _ | .deleteAll | .notifyByCookie _ _ _ | .executeDeathRow | .destroy _
  | .other _ => True

/-- The invariant: the current call is alive and has been requested. -/
structure Inv (v : GetListIdCalls) : Prop where
  sound : v.Sound
  answered : ∀ c ∈ v.calls, c.call.Answered
  current : ∀ i, v.getListId = some i →
    ∃ c, v.calls[i]? = some c ∧ c.alive = true ∧ c.busySourceSet = true

/-! ## What the functions do -/

/-- The busy source is cleared `n` times, and the calls live on. -/
structure Clears (n : Nat) (v v' : GetListIdCalls) : Prop where
  counter : v'.counter = v.counter - n
  pending : total GetListIdCall.pending v'.calls = total GetListIdCall.pending v.calls
  matched : n = 0 → (∀ c ∈ v.calls, c.Matched) → ∀ c ∈ v'.calls, c.Matched
  answered : (∀ c ∈ v.calls, c.call.Answered) → ∀ c ∈ v'.calls, c.call.Answered
  current : ∀ i, v'.getListId = some i → v.getListId = some i
  lives : ∀ (i : Nat) (c : GetListIdCall), v.calls[i]? = some c →
    ∃ c', v'.calls[i]? = some c' ∧ c'.alive = c.alive ∧ c'.busySourceSet = c.busySourceSet

variable {v v' v'' : GetListIdCalls} {n n' : Nat}

theorem Clears.refl (v : GetListIdCalls) : Clears 0 v v where
  counter := rfl
  pending := rfl
  matched := fun _ h => h
  answered := fun h => h
  current := fun _ h => h
  lives := fun _ c hc => ⟨c, hc, rfl, rfl⟩

theorem Clears.trans (h : Clears n v v') (h' : Clears n' v' v'') : Clears (n + n') v v'' where
  counter := by rw [h'.counter, h.counter, Nat.sub_sub]
  pending := h'.pending.trans h.pending
  matched := fun hzero hall => by
    obtain ⟨hn, hn'⟩ := Nat.add_eq_zero_iff.mp hzero
    exact h'.matched hn' (h.matched hn hall)
  answered := fun hall => h'.answered (h.answered hall)
  current := fun i hi => h.current i (h'.current i hi)
  lives := fun i c hc => by
    obtain ⟨d, hd, halive, hset⟩ := h.lives i c hc
    obtain ⟨e, he, halive', hset'⟩ := h'.lives i d hd
    exact ⟨e, he, halive'.trans halive, hset'.trans hset⟩

/-- A change of a call that says nothing about its life. -/
theorem clears_modifyCall (v : GetListIdCalls) (i : Nat) {f : GetListIdCall → GetListIdCall}
    (hsame : ∀ c, (f c).alive = c.alive ∧ (f c).busySourceSet = c.busySourceSet ∧
      (f c).clears = c.clears)
    (hanswered : ∀ c, c.call.Answered → (f c).call.Answered) : Clears 0 v (v.modifyCall i f) where
  counter := rfl
  pending := Foundation.total_modify_same (fun c => by
    unfold GetListIdCall.pending
    rw [(hsame c).1, (hsame c).2.1]) _ _
  matched := fun _ hall => Foundation.all_modify (fun c hc => by
    unfold GetListIdCall.Matched at hc ⊢
    rw [(hsame c).1, (hsame c).2.1, (hsame c).2.2, hc]) hall i
  answered := fun hall => Foundation.all_modify hanswered hall i
  current := fun _ h => h
  lives := fun j c hc => by
    unfold modifyCall
    dsimp only
    rw [List.getElem?_modify, hc]
    split
    · exact ⟨f c, rfl, (hsame c).1, (hsame c).2.1⟩
    · exact ⟨c, rfl, rfl, rfl⟩

theorem clears_deleteGetListId (v : GetListIdCalls) : Clears 0 v v.deleteGetListId where
  counter := rfl
  pending := rfl
  matched := fun _ h => h
  answered := fun h => h
  current := nofun
  lives := fun _ c hc => ⟨c, hc, rfl, rfl⟩

theorem clears_clearBusy (v : GetListIdCalls) (i : Nat) : Clears 1 v (v.clearBusy i) where
  counter := v.global.request_clear_busyCounts .gettingListId
  pending := Foundation.total_modify_same
    (g := fun c : GetListIdCall => { c with clears := c.clears + 1 })
    (fun _ => rfl) _ _
  matched := nofun
  answered := fun hall => Foundation.all_modify
    (g := fun c : GetListIdCall => { c with clears := c.clears + 1 })
    (fun _ hc => hc) hall i
  current := fun _ h => h
  lives := fun j c hc => by
    unfold clearBusy modifyCall
    dsimp only
    rw [List.getElem?_modify, hc]
    split
    · exact ⟨_, rfl, rfl, rfl⟩
    · exact ⟨c, rfl, rfl, rfl⟩

theorem Inv.clears (h : v.Inv) (hclears : Clears 0 v v') : v'.Inv where
  sound :=
    { matched := hclears.matched rfl h.sound.matched
      counter := hclears.counter.trans (h.sound.counter.trans hclears.pending.symm) }
  answered := hclears.answered h.answered
  current := fun i hi => by
    obtain ⟨c, hc, halive, hset⟩ := h.current i (hclears.current i hi)
    obtain ⟨c', hc', halive', hset'⟩ := hclears.lives i c hc
    exact ⟨c', hc', halive'.trans halive, hset'.trans hset⟩

/-! ## The chained functions -/

theorem clears_gotRootListId (v : GetListIdCalls)
    (result : Except (GetError ListErrorCode) GetListIdResult)
    (enterThrows : Option ListErrorCode) : Clears 0 v (v.gotRootListId result enterThrows) := by
  unfold gotRootListId
  cases result with
  | ok result =>
    dsimp only
    split
    · exact Clears.refl v
    · exact clears_deleteGetListId v
  | error e => exact Clears.refl v

/-- The busy source is cleared whatever the result is. -/
theorem clears_gotChildListId (v : GetListIdCalls) (i : Nat) (c : GetListIdCall)
    (result : Except (GetError ListErrorCode) GetListIdResult)
    (enterThrows : Option ListErrorCode) :
    ∃ n, 1 ≤ n ∧ Clears n v (v.gotChildListId i c result enterThrows) := by
  have honce : Clears 1 v ((v.clearBusy i).deleteGetListId) :=
    (clears_clearBusy v i).trans (clears_deleteGetListId _)
  have htwice : Clears 2 v (((v.clearBusy i).clearBusy i).deleteGetListId) :=
    ((clears_clearBusy v i).trans (clears_clearBusy _ i)).trans (clears_deleteGetListId _)
  unfold gotChildListId sinkPointToChildError
  cases result with
  | ok result =>
    dsimp only
    split
    · exact ⟨1, Nat.le_refl 1, honce⟩
    · split
      · exact ⟨1, Nat.le_refl 1, honce⟩
      · cases enterThrows with
        | none => exact ⟨1, Nat.le_refl 1, honce⟩
        | some error => exact ⟨2, Nat.le_succ 1, htwice⟩
  | error e => exact ⟨1, Nat.le_refl 1, honce⟩

/-- The function chained to a call clears the busy source exactly if the call is the current
one and has been started for a child directory. -/
theorem clears_gotListId {i : Nat} {c : GetListIdCall} {enterThrows : Option ListErrorCode}
    (hanswered : c.call.Answered) (hgot : v.gotListId i c enterThrows = some v') :
    ∃ n, Clears n v v' ∧ (n = 0 ↔ ¬(v.getListId = some i ∧ c.purpose = .childDirectory)) := by
  unfold gotListId at hgot
  split at hgot
  · next hother =>
    cases hgot
    exact ⟨0, Clears.refl v, iff_of_true rfl fun h => hother h.1⟩
  · next hcurrent =>
    split at hgot
    · cases hgot
    · next result call hread =>
      have hcall : call.Answered := hanswered.readResult hread
      have hmodify : Clears 0 v (v.modifyCall i fun c => { c with call := call }) :=
        clears_modifyCall v i (fun _ => ⟨rfl, rfl, rfl⟩) fun _ _ => hcall
      dsimp only at hgot
      split at hgot
      · next hpurpose =>
        cases hgot
        refine ⟨0, hmodify.trans (clears_gotRootListId _ result enterThrows),
          iff_of_true rfl fun h => ?_⟩
        rw [hpurpose] at h
        cases h.2
      · next hpurpose =>
        cases hgot
        obtain ⟨n, hn, hclears⟩ := clears_gotChildListId
          (v.modifyCall i fun c => { c with call := call }) i c result enterThrows
        refine ⟨0 + n, hmodify.trans hclears, iff_of_false (by omega) (not_not.mpr ?_)⟩
        exact ⟨not_not.mp hcurrent, hpurpose⟩
      · next hpurpose =>
        cases hgot
        refine ⟨0, hmodify.trans (clears_deleteGetListId _), iff_of_true rfl fun h => ?_⟩
        rw [hpurpose] at h
        cases h.2

/-- A call that is done has a result to be read. -/
theorem gotListId_isSome {i : Nat} {c : GetListIdCall} (enterThrows : Option ListErrorCode)
    (hanswered : c.call.Answered) : (v.gotListId i c enterThrows).isSome = true := by
  unfold gotListId
  split
  · rfl
  · obtain ⟨read, hread⟩ := Option.isSome_iff_exists.mp hanswered.getResultUnlocked
    rw [hread]
    dsimp only
    split <;> rfl

/-! ## Starting a call -/

/-- The call that has been made. -/
def requested (purpose : Purpose) (answer : RequestAnswer GetListIdResult ListErrorCode) :
    GetListIdCall :=
  { purpose := purpose, call := (Call.request {} answer).2, busySourceSet := true }

theorem requested_answered (purpose : Purpose)
    (answer : RequestAnswer GetListIdResult ListErrorCode) :
    (requested purpose answer).call.Answered :=
  Call.Answered.request (c := {}) (fun hstate => by simp at hstate) answer

theorem request_calls (v : GetListIdCalls) (purpose : Purpose)
    (answer : RequestAnswer GetListIdResult ListErrorCode) :
    (v.request purpose answer).calls = v.calls ++ [requested purpose answer] := by
  unfold request setBusy modifyCall setCall
  dsimp only
  rw [Foundation.modify_concat, Foundation.modify_concat]
  rfl

theorem request_counter (v : GetListIdCalls) (purpose : Purpose)
    (answer : RequestAnswer GetListIdResult ListErrorCode) :
    (v.request purpose answer).counter =
      if v.counter < maxCount then v.counter + 1 else v.counter :=
  v.global.request_set_busyCounts .gettingListId

theorem request_pending (v : GetListIdCalls) (purpose : Purpose)
    (answer : RequestAnswer GetListIdResult ListErrorCode) :
    total GetListIdCall.pending (v.request purpose answer).calls =
      total GetListIdCall.pending v.calls + 1 := by
  rw [request_calls, Foundation.total_concat]
  rfl

theorem Inv.request (h : v.Inv) (hroom : v.counter < maxCount) (purpose : Purpose)
    (answer : RequestAnswer GetListIdResult ListErrorCode) : (v.request purpose answer).Inv where
  sound :=
    { matched := by
        rw [request_calls]
        refine List.forall_mem_append.mpr ⟨h.sound.matched, List.forall_mem_singleton.mpr rfl⟩
      counter := by
        rw [request_counter, request_pending, if_pos hroom, h.sound.counter] }
  answered := by
    rw [request_calls]
    exact List.forall_mem_append.mpr
      ⟨h.answered, List.forall_mem_singleton.mpr (requested_answered purpose answer)⟩
  current := fun i hi => by
    have hlast : i = v.calls.length := (Option.some.inj hi).symm
    refine ⟨requested purpose answer, ?_, rfl, rfl⟩
    rw [request_calls, hlast, List.getElem?_concat_length]

/-- A call that is over when `request` returns is deleted, which clears nothing. -/
theorem start_ends (v : GetListIdCalls) (purpose : Purpose)
    (answer : RequestAnswer GetListIdResult ListErrorCode) (enterThrows : Option ListErrorCode) :
    ∃ finish : GetListIdCalls → GetListIdCalls, (∀ w, Clears 0 w (finish w)) ∧
      (∀ result, answer = .fastPath result → v.start purpose answer enterThrows =
        ((v.request purpose answer).gotListId v.calls.length (requested purpose answer)
          enterThrows).map finish) ∧
      ((∀ result, answer ≠ .fastPath result) →
        v.start purpose answer enterThrows = some (finish (v.request purpose answer))) := by
  unfold start requested
  dsimp only
  cases (Call.request {} answer).2.state
  case' waitForNotification | resultFetched | aborting =>
    refine ⟨id, Clears.refl, ?_⟩
  case' initialized | readyToFetch | aboutToDestroy | abortedByListBroker | failed =>
    refine ⟨deleteGetListId, clears_deleteGetListId, ?_⟩
  all_goals
    constructor
    · rintro result rfl
      dsimp only
      cases gotListId _ _ _ _ <;> rfl
    · intro hother
      cases answer with
      | fastPath result => exact absurd rfl (hother result)
      | cookie cookie => rfl
      | unmanaged cookie e => rfl
      | fastPathThrows result => rfl
      | failed e => rfl

/-- Only a fast-path answer for a child directory is passed on to a function that clears the
busy source. -/
theorem clears_start {purpose : Purpose} {answer : RequestAnswer GetListIdResult ListErrorCode}
    {enterThrows : Option ListErrorCode} (hstart : v.start purpose answer enterThrows = some v') :
    ∃ n, Clears n (v.request purpose answer) v' ∧
      (n = 0 ↔ ¬(purpose = .childDirectory ∧ ∃ result, answer = .fastPath result)) := by
  obtain ⟨finish, hfinish, hfast, hslow⟩ := v.start_ends purpose answer enterThrows
  by_cases hanswer : ∃ result, answer = .fastPath result
  · obtain ⟨result, rfl⟩ := hanswer
    rw [hfast result rfl] at hstart
    obtain ⟨w, hgot, rfl⟩ := Option.map_eq_some_iff.mp hstart
    obtain ⟨n, hclears, hiff⟩ := clears_gotListId
      (requested_answered purpose (.fastPath result)) hgot
    refine ⟨n, hclears.trans (hfinish w), hiff.trans (not_congr ?_)⟩
    exact ⟨fun h => ⟨h.2, result, rfl⟩, fun h => ⟨rfl, h.1⟩⟩
  · rw [hslow (not_exists.mp hanswer)] at hstart
    cases hstart
    exact ⟨0, hfinish _, iff_of_true rfl fun h => hanswer h.2⟩

theorem start_isSome (v : GetListIdCalls) (purpose : Purpose)
    (answer : RequestAnswer GetListIdResult ListErrorCode) (enterThrows : Option ListErrorCode) :
    (v.start purpose answer enterThrows).isSome = true := by
  obtain ⟨finish, -, hfast, hslow⟩ := v.start_ends purpose answer enterThrows
  by_cases hanswer : ∃ result, answer = .fastPath result
  · obtain ⟨result, rfl⟩ := hanswer
    rw [hfast result rfl, Option.isSome_map]
    exact gotListId_isSome enterThrows (requested_answered purpose (.fastPath result))
  · rw [hslow (not_exists.mp hanswer)]
    rfl

/-! ## The end of a call -/

theorem destroy_calls {i : Nat} {c : GetListIdCall} (hc : v.calls[i]? = some c) :
    (v.destroy i c).calls =
      v.calls.set i
        { c with alive := false, clears := c.clears + c.busySourceSet.toNat } := by
  unfold destroy modifyCall clearBusy modifyCall
  cases hset : c.busySourceSet with
  | true =>
    have hlt := (List.getElem?_eq_some_iff.mp hc).1
    rw [if_pos rfl]
    dsimp only
    rw [Foundation.modify_eq_set _ hc,
      Foundation.modify_eq_set _ (List.getElem?_set_self hlt), List.set_set]
    dsimp only
    rw [hset]
    rfl
  | false =>
    rw [if_neg Bool.false_ne_true]
    dsimp only
    rw [Foundation.modify_eq_set _ hc, hset]
    rfl

theorem destroy_counter (v : GetListIdCalls) (i : Nat) (c : GetListIdCall) :
    (v.destroy i c).counter = v.counter - c.busySourceSet.toNat := by
  unfold destroy
  cases c.busySourceSet with
  | true => exact (clears_clearBusy v i).counter
  | false => rfl

theorem Inv.destroy (h : v.Inv) {i : Nat} {c : GetListIdCall} (hc : v.calls[i]? = some c)
    (halive : c.alive = true) (hother : v.getListId ≠ some i) : (v.destroy i c).Inv where
  sound :=
    { matched := by
        rw [destroy_calls hc]
        refine Foundation.all_set h.sound.matched i ?_
        have hmatched := h.sound.matched c (List.mem_of_getElem? hc)
        unfold GetListIdCall.Matched at hmatched ⊢
        dsimp only
        rw [hmatched, halive]
        cases c.busySourceSet <;> rfl
      counter := by
        have htotal := Foundation.total_set GetListIdCall.pending
          { c with alive := false, clears := c.clears + c.busySourceSet.toNat } hc
        have hbefore : c.pending = c.busySourceSet.toNat := by
          unfold GetListIdCall.pending
          rw [halive, Bool.and_true]
        have hafter : GetListIdCall.pending
            { c with alive := false, clears := c.clears + c.busySourceSet.toNat } = 0 := by
          unfold GetListIdCall.pending
          rw [Bool.and_false]
          rfl
        rw [hbefore, hafter] at htotal
        rw [destroy_counter, destroy_calls hc, h.sound.counter]
        omega }
  answered := by
    rw [destroy_calls hc]
    exact Foundation.all_set h.answered i (h.answered c (List.mem_of_getElem? hc))
  current := fun j hj => by
    have hcurrent : v.getListId = some j := by
      unfold GetListIdCalls.destroy at hj
      split at hj <;> exact hj
    have hne : i ≠ j := by
      rintro rfl
      exact hother hcurrent
    obtain ⟨d, hd, hdalive⟩ := h.current j hcurrent
    refine ⟨d, ?_, hdalive⟩
    rw [destroy_calls hc, List.getElem?_set_ne hne, hd]

/-! ## One step -/

theorem clears_fetchByCookie {i : Nat} {c : GetListIdCall}
    {answer : Except ListErrorCode GetListIdResult} {enterThrows : Option ListErrorCode}
    (hanswered : c.call.Answered) (hfetch : v.fetchByCookie i c answer enterThrows = some v') :
    ∃ n, Clears n v v' ∧ (n = 0 ↔ (v.getListId = some i → c.purpose = .childDirectory →
      (c.call.fetchUnlocked answer).1.result = none)) := by
  have hcall := hanswered.fetchUnlocked answer
  have hmodify : Clears 0 v (v.modifyCall i fun d =>
      { d with call := (c.call.fetchUnlocked answer).2 }) :=
    clears_modifyCall v i (fun _ => ⟨rfl, rfl, rfl⟩) fun _ _ => hcall
  unfold fetchByCookie at hfetch
  dsimp only at hfetch
  split at hfetch
  · next hnone =>
    cases hfetch
    exact ⟨0, hmodify, iff_of_true rfl fun _ _ => hnone⟩
  · next fetched hsome =>
    obtain ⟨n, hclears, hiff⟩ := clears_gotListId (c := { c with
      call := (c.call.fetchUnlocked answer).2 }) hcall hfetch
    refine ⟨0 + n, hmodify.trans hclears, ?_⟩
    rw [Nat.zero_add, hiff, hsome]
    refine ⟨fun hnot hcurrent hpurpose => absurd ⟨hcurrent, hpurpose⟩ hnot, fun h hboth => ?_⟩
    cases h hboth.1 hboth.2

theorem fetchByCookie_isSome {i : Nat} {c : GetListIdCall}
    (answer : Except ListErrorCode GetListIdResult) (enterThrows : Option ListErrorCode)
    (hanswered : c.call.Answered) :
    (v.fetchByCookie i c answer enterThrows).isSome = true := by
  unfold fetchByCookie
  dsimp only
  split
  · rfl
  · exact gotListId_isSome enterThrows (hanswered.fetchUnlocked answer)

theorem Inv.step {e : GetListIdEvent} (h : v.Inv) (hfits : v.Fits e)
    (hstep : v.step e = some v') : v'.Inv := by
  cases e with
  | start purpose answer enterThrows =>
    obtain ⟨hroom, hanswer⟩ := hfits
    obtain ⟨n, hclears, hiff⟩ := clears_start hstep
    have hzero : n = 0 := hiff.mpr fun hchild =>
      hchild.2.elim fun result hresult => hanswer hchild.1 result hresult
    subst hzero
    exact (h.request hroom purpose answer).clears hclears
  | cancelAndDeleteAll answer =>
    cases hstep
    unfold cancelAndDeleteAll
    split
    · exact h
    · next i _ =>
      have hmodify : Clears 0 v (v.modifyCall i fun c =>
          { c with call := (c.call.abortRequest answer).2 }) :=
        clears_modifyCall v i (fun _ => ⟨rfl, rfl, rfl⟩) fun c hc => hc.abortRequest answer
      exact h.clears (hmodify.trans (clears_deleteGetListId _))
  | deleteAll =>
    cases hstep
    exact h.clears (clears_deleteGetListId v)
  | notifyByCookie i cookie error =>
    unfold GetListIdCalls.step at hstep
    dsimp only at hstep
    split at hstep
    · obtain ⟨-, hmade⟩ := Option.ite_none_right_eq_some.mp hstep
      cases hmade
      refine h.clears (clears_modifyCall v i (fun _ => ⟨rfl, rfl, rfl⟩) fun c hc => ?_)
      unfold GetListIdCalls.notifyByCookie
      dsimp only
      split
      · exact hc.notification cookie (Or.inr rfl)
      · exact hc.notification cookie (Or.inl rfl)
    · cases hstep
  | fetchByCookie i answer enterThrows =>
    unfold GetListIdCalls.step at hstep
    dsimp only at hstep
    split at hstep
    · next c hc =>
      obtain ⟨-, hfetch⟩ := Option.ite_none_right_eq_some.mp hstep
      obtain ⟨n, hclears, hiff⟩ :=
        clears_fetchByCookie (h.answered c (List.mem_of_getElem? hc)) hfetch
      have hzero : n = 0 := hiff.mpr fun hcurrent hpurpose => hfits hcurrent c hc hpurpose
      subst hzero
      exact h.clears hclears
    · cases hstep
  | executeDeathRow =>
    cases hstep
    exact ⟨⟨h.sound.matched, h.sound.counter⟩, h.answered, h.current⟩
  | destroy i =>
    unfold GetListIdCalls.step at hstep
    dsimp only at hstep
    split at hstep
    · next c hc =>
      obtain ⟨hguard, hmade⟩ := Option.ite_none_right_eq_some.mp hstep
      cases hmade
      exact h.destroy hc hguard.1 hguard.2.1
    · cases hstep
  | other q =>
    obtain ⟨hother, hmade⟩ := Option.ite_none_left_eq_some.mp hstep
    cases hmade
    obtain ⟨hset, hclear⟩ := not_or.mp hother
    refine ⟨⟨h.sound.matched, ?_⟩, h.answered, h.current⟩
    exact (v.global.request_busyCounts_other hset hclear).trans h.sound.counter

/-- A step that does not fit makes the counter wrong. -/
theorem Inv.fits_of_sound {e : GetListIdEvent} (h : v.Inv)
    (hsound : ∀ v', v.step e = some v' → v'.Sound) : v.Fits e := by
  cases e with
  | start purpose answer enterThrows =>
    obtain ⟨v', hstart⟩ := Option.isSome_iff_exists.mp (v.start_isSome purpose answer enterThrows)
    obtain ⟨n, hclears, hiff⟩ := clears_start hstart
    have hafter := (hsound v' hstart).counter
    have hbefore := h.sound.counter
    rw [hclears.counter, hclears.pending, request_counter, request_pending] at hafter
    have hroom : v.counter < maxCount := by
      by_contra hfull
      rw [if_neg hfull] at hafter
      omega
    rw [if_pos hroom] at hafter
    have hzero : n = 0 := by omega
    exact ⟨hroom, fun hpurpose result hresult => hiff.mp hzero ⟨hpurpose, result, hresult⟩⟩
  | fetchByCookie i answer enterThrows =>
    intro hcurrent c hc hpurpose
    obtain ⟨d, hd, halive, hset⟩ := h.current i hcurrent
    cases hd.symm.trans hc
    have hmem := List.mem_of_getElem? hc
    obtain ⟨v', hfetch⟩ := Option.isSome_iff_exists.mp
      (fetchByCookie_isSome (v := v) (i := i) answer enterThrows (h.answered c hmem))
    have hstep : v.step (.fetchByCookie i answer enterThrows) = some v' := by
      unfold GetListIdCalls.step
      dsimp only
      rw [hc]
      dsimp only
      rw [halive, hset]
      exact hfetch
    obtain ⟨n, hclears, hiff⟩ := clears_fetchByCookie (h.answered c hmem) hfetch
    have hafter := (hsound v' hstep).counter
    have hbefore := h.sound.counter
    have hpending : c.pending = 1 := by
      unfold GetListIdCall.pending
      rw [halive, hset]
      rfl
    have hle := Foundation.le_total GetListIdCall.pending hc
    rw [hclears.counter, hclears.pending] at hafter
    exact hiff.mp (by omega) hcurrent hpurpose
  | cancelAndDeleteAll answer => trivial
  | deleteAll => trivial
  | notifyByCookie i cookie error => trivial
  | executeDeathRow => trivial
  | destroy i => trivial
  | other q => trivial

/-! ## Whole runs -/

theorem init_inv : ({} : GetListIdCalls).Inv where
  sound := ⟨fun _ hc => absurd hc List.not_mem_nil, rfl⟩
  answered := fun _ hc => absurd hc List.not_mem_nil
  current := nofun

/-- In a run, the busy source is cleared once for each requested call at the end of its life,
and the counter is the number of requested calls that are alive, exactly if no child directory
request is completed while its call is the current one, and the counter does not overflow. -/
theorem list_id_run_sound_iff (es : List GetListIdEvent) :
    AlongRun step (fun v e => ∀ v', v.step e = some v' → v'.Sound) {} es ↔
      AlongRun step Fits {} es := by
  refine Foundation.alongRun_iff (I := Inv) (fun v e v' h hfits hstep => h.step hfits hstep) ?_ es
    init_inv
  exact fun v e h => ⟨h.fits_of_sound, fun hfits v' hstep => (h.step hfits hstep).sound⟩

/-- A child directory is entered, and the list broker knows the list ID. -/
theorem child_directory_cleared_early :
    ¬∀ es, AlongRun step (fun v e => ∀ v', v.step e = some v' → v'.Sound) {} es := by
  intro hall
  have h := hall [.start .childDirectory (.fastPath ⟨.ok, ⟨1⟩⟩) none]
  have hlast := (h.1 _ rfl).counter
  revert hlast
  decide

end GetListIdCalls

end Drcpd.Browser

/-
  Busy/State.lean --- the global busy state (`busy.cc`).

  The functions here are the sections of the source which hold the lock.  Their result
  says whether the state-change callback is to be called; the lock has been released by
  then, and so the value passed to the callback is not one of their results.

  `Demand` is what the busy state is for: how often each source has been set without having
  been cleared again.  `Refines` connects the flags and counters with it.
-/
import Mathlib.Data.List.FinRange
import Mathlib.Logic.Function.Basic

set_option autoImplicit false

namespace Drcpd.Busy

/-! ## Busy sources -/

/-- `Busy::Source`. -/
inductive Source where
  | waitingForPlayer
  | fillingPlayerQueue
  | bufferingStream
  | gettingListId
  | gettingParentLink
  | gettingListContextRootLink
  | gettingItemUri
  | gettingItemStreamLinks
  | gettingListRange
  | checkingListRange
  | resumingPlayback
  | gettingLocationTrace
  | realizingLocationTrace
  deriving DecidableEq, Repr

/-- `Busy::DirectSource`. -/
inductive DirectSource where
  | waitingForApplianceAudio
  deriving DecidableEq, Repr

/-- The number of the enumerator. -/
def Source.index : Source → Fin 32
  | .waitingForPlayer => 0
  | .fillingPlayerQueue => 1
  | .bufferingStream => 2
  | .gettingListId => 3
  | .gettingParentLink => 4
  | .gettingListContextRootLink => 5
  | .gettingItemUri => 6
  | .gettingItemStreamLinks => 7
  | .gettingListRange => 8
  | .checkingListRange => 9
  | .resumingPlayback => 10
  | .gettingLocationTrace => 11
  | .realizingLocationTrace => 12

/-- The number of the enumerator, behind those of the other sources. -/
def DirectSource.index : DirectSource → Fin 32
  | .waitingForApplianceAudio => 0 + Source.realizingLocationTrace.index + 1

/-- `make_mask`. -/
def makeMask (index : Fin 32) : BitVec 32 := 1#32 <<< index.val

theorem Source.index_injective : Function.Injective Source.index := by
  intro a b h
  cases a <;> cases b <;> first | rfl | exact absurd h (by decide)

theorem DirectSource.index_injective : Function.Injective DirectSource.index := by
  rintro ⟨⟩ ⟨⟩ -
  rfl

theorem Source.index_ne (a : Source) (b : DirectSource) : a.index ≠ b.index := by
  cases a <;> cases b <;> decide

theorem getLsbD_makeMask (i j : Fin 32) : (makeMask i).getLsbD j = decide (j = i) := by
  revert i j
  decide

/-! ## The state -/

/-- The largest value of a counter. -/
def maxCount : Nat := 65535

/-- `GlobalBusyState`, with a callback. -/
structure GlobalBusyState where
  busyFlags : BitVec 32 := 0#32
  busyCounts : Fin 32 → Nat := fun _ => 0
  lastNotifiedBusyState : Bool := false

namespace GlobalBusyState

/-- `is_busy__uncached`. -/
def isBusy (s : GlobalBusyState) : Bool := decide (s.busyFlags ≠ 0#32)

/-- `notify_if_necessary`, up to the point where the lock is released. -/
def notifyIfNecessary (s : GlobalBusyState) : Bool × GlobalBusyState :=
  if s.lastNotifiedBusyState ≠ s.isBusy then
    (true, { s with lastNotifiedBusyState := !s.lastNotifiedBusyState })
  else (false, s)

/-- The loop body of `set`. -/
def countUp (mask : BitVec 32) (s : GlobalBusyState) (i : Fin 32) : GlobalBusyState :=
  if mask.getLsbD i && decide (s.busyCounts i < maxCount) then
    { s with busyCounts := Function.update s.busyCounts i (s.busyCounts i + 1) }
  else s

/-- `set`. -/
def set (s : GlobalBusyState) (mask : BitVec 32) : Bool × GlobalBusyState :=
  ((List.finRange 32).foldl (countUp mask)
    { s with busyFlags := s.busyFlags ||| mask }).notifyIfNecessary

/-- The loop body of `clear`. -/
def countDown (mask : BitVec 32) (s : GlobalBusyState) (i : Fin 32) : GlobalBusyState :=
  if mask.getLsbD i then
    { s with
      busyCounts := Function.update s.busyCounts i (s.busyCounts i - 1)
      busyFlags :=
        if s.busyCounts i - 1 = 0 then s.busyFlags &&& ~~~(1#32 <<< i.val) else s.busyFlags }
  else s

/-- `clear`. -/
def clear (s : GlobalBusyState) (mask : BitVec 32) : Bool × GlobalBusyState :=
  ((List.finRange 32).foldl (countDown mask) s).notifyIfNecessary

/-- `set_direct`. -/
def setDirect (s : GlobalBusyState) (mask : BitVec 32) : Bool × GlobalBusyState :=
  notifyIfNecessary { s with busyFlags := s.busyFlags ||| mask }

/-- `clear_direct`. -/
def clearDirect (s : GlobalBusyState) (mask : BitVec 32) : Bool × GlobalBusyState :=
  notifyIfNecessary { s with busyFlags := s.busyFlags &&& ~~~mask }

/-- `set_callback`. -/
def setCallback (s : GlobalBusyState) : Bool × GlobalBusyState :=
  notifyIfNecessary { s with lastNotifiedBusyState := !s.isBusy }

end GlobalBusyState

/-! ## Requests -/

/-- The calls other components make. -/
inductive Request where
  | set (src : Source)
  | clear (src : Source)
  | setDirect (src : DirectSource)
  | clearDirect (src : DirectSource)
  deriving DecidableEq, Repr

/-- `Busy::set` and `Busy::clear`. -/
def GlobalBusyState.request (s : GlobalBusyState) : Request → Bool × GlobalBusyState
  | .set src => s.set (makeMask src.index)
  | .clear src => s.clear (makeMask src.index)
  | .setDirect src => s.setDirect (makeMask src.index)
  | .clearDirect src => s.clearDirect (makeMask src.index)

/-- How often each source has been set and not been cleared yet. -/
structure Demand where
  counted : Source → Nat := fun _ => 0
  direct : DirectSource → Bool := fun _ => false

namespace Demand

/-- Somebody is busy. -/
def IsBusy (d : Demand) : Prop := (∃ src, 0 < d.counted src) ∨ ∃ src, d.direct src = true

/-- Clearing a source that has not been set is ignored. -/
def request (d : Demand) : Request → Demand
  | .set src => { d with counted := Function.update d.counted src (d.counted src + 1) }
  | .clear src => { d with counted := Function.update d.counted src (d.counted src - 1) }
  | .setDirect src => { d with direct := Function.update d.direct src true }
  | .clearDirect src => { d with direct := Function.update d.direct src false }

end Demand

/-! ## The flags and counters stand for the demand -/

/-- Where all but one element of a list are passed over by a loop. -/
theorem foldl_eq_of_single {α β : Type*} {f : β → α → β} {a : α}
    (hother : ∀ b, b ≠ a → ∀ s, f s b = s) :
    ∀ {l : List α}, l.Nodup → a ∈ l → ∀ s, l.foldl f s = f s a := by
  have hskip : ∀ {l : List α}, a ∉ l → ∀ s, l.foldl f s = s := by
    intro l
    induction l with
    | nil => intro _ s; rfl
    | cons b l ih =>
      intro hmem s
      obtain ⟨hne, hrest⟩ := not_or.mp (fun h => hmem (List.mem_cons.mpr h))
      rw [List.foldl_cons, hother b (Ne.symm hne), ih hrest]
  intro l
  induction l with
  | nil => intro _ hmem; cases hmem
  | cons b l ih =>
    intro hnodup hmem s
    obtain ⟨hfresh, hrest⟩ := List.nodup_cons.mp hnodup
    rw [List.foldl_cons]
    rcases List.mem_cons.mp hmem with rfl | hlater
    · rw [hskip hfresh]
    · have hne : b ≠ a := by
        rintro rfl
        exact hfresh hlater
      rw [hother b hne, ih hrest hlater]

namespace GlobalBusyState

/-- The state stands for the demand. -/
structure Refines (s : GlobalBusyState) (d : Demand) : Prop where
  counts : ∀ src : Source, s.busyCounts src.index = d.counted src
  counted : ∀ src : Source, s.busyFlags.getLsbD src.index = decide (0 < d.counted src)
  direct : ∀ src : DirectSource, s.busyFlags.getLsbD src.index = d.direct src
  /-- The other flags are never set. -/
  unused : ∀ i : Fin 32, s.busyFlags.getLsbD i = true →
    (∃ src : Source, i = src.index) ∨ ∃ src : DirectSource, i = src.index

variable {s : GlobalBusyState} {d : Demand}

theorem isBusy_iff (s : GlobalBusyState) :
    s.isBusy = true ↔ ∃ i : Fin 32, s.busyFlags.getLsbD i = true := by
  unfold isBusy
  rw [decide_eq_true_eq]
  constructor
  · intro hne
    by_contra hnone
    refine hne (BitVec.eq_of_getLsbD_eq fun i hi => ?_)
    rw [BitVec.getLsbD_zero]
    exact Bool.eq_false_iff.mpr fun hset => hnone ⟨⟨i, hi⟩, hset⟩
  · rintro ⟨i, hi⟩ hzero
    rw [hzero, BitVec.getLsbD_zero] at hi
    cases hi

theorem Refines.isBusy_iff (h : s.Refines d) : s.isBusy = true ↔ d.IsBusy := by
  rw [s.isBusy_iff]
  constructor
  · rintro ⟨i, hi⟩
    rcases h.unused i hi with ⟨src, rfl⟩ | ⟨src, rfl⟩
    · rw [h.counted, decide_eq_true_eq] at hi
      exact .inl ⟨src, hi⟩
    · rw [h.direct] at hi
      exact .inr ⟨src, hi⟩
  · rintro (⟨src, hsrc⟩ | ⟨src, hsrc⟩)
    · refine ⟨src.index, ?_⟩
      rw [h.counted, decide_eq_true_eq]
      exact hsrc
    · refine ⟨src.index, ?_⟩
      rw [h.direct]
      exact hsrc

/-! What is done for a single source. -/

theorem foldl_countUp (s : GlobalBusyState) (i : Fin 32) :
    (List.finRange 32).foldl (countUp (makeMask i)) s = countUp (makeMask i) s i := by
  refine foldl_eq_of_single (fun j hj t => ?_) (List.nodup_finRange 32) (List.mem_finRange i) s
  unfold countUp
  rw [getLsbD_makeMask, decide_eq_false hj]
  rfl

theorem foldl_countDown (s : GlobalBusyState) (i : Fin 32) :
    (List.finRange 32).foldl (countDown (makeMask i)) s = countDown (makeMask i) s i := by
  refine foldl_eq_of_single (fun j hj t => ?_) (List.nodup_finRange 32) (List.mem_finRange i) s
  unfold countDown
  rw [getLsbD_makeMask, decide_eq_false hj]
  rfl

theorem getLsbD_setFlag (flags : BitVec 32) (i j : Fin 32) :
    (flags ||| makeMask i).getLsbD j = (flags.getLsbD j || decide (j = i)) := by
  rw [BitVec.getLsbD_or, getLsbD_makeMask]

theorem getLsbD_clearFlag (flags : BitVec 32) (i j : Fin 32) :
    (flags &&& ~~~makeMask i).getLsbD j = (flags.getLsbD j && decide (j ≠ i)) := by
  rw [BitVec.getLsbD_and, BitVec.getLsbD_not, getLsbD_makeMask, decide_eq_true j.isLt,
    Bool.true_and, decide_not]

theorem notifyIfNecessary_same (s : GlobalBusyState) :
    s.notifyIfNecessary.2.busyFlags = s.busyFlags ∧
      s.notifyIfNecessary.2.busyCounts = s.busyCounts := by
  unfold notifyIfNecessary
  split <;> exact ⟨rfl, rfl⟩

/-- The callback is called if the state it was last called with is not up to date, and the
last notified state is up to date afterwards. -/
theorem notifyIfNecessary_notified (s : GlobalBusyState) :
    s.notifyIfNecessary.1 = decide (s.lastNotifiedBusyState ≠ s.isBusy) ∧
      s.notifyIfNecessary.2.lastNotifiedBusyState = s.isBusy ∧
      s.notifyIfNecessary.2.isBusy = s.isBusy := by
  unfold notifyIfNecessary
  split
  · next hne =>
    refine ⟨(decide_eq_true hne).symm, ?_, rfl⟩
    exact Bool.not_eq.mpr hne
  · next heq => exact ⟨(decide_eq_false heq).symm, not_not.mp heq, rfl⟩

theorem Refines.notifyIfNecessary (h : s.Refines d) : s.notifyIfNecessary.2.Refines d := by
  obtain ⟨hflags, hcounts⟩ := s.notifyIfNecessary_same
  exact ⟨hcounts ▸ h.counts, hflags ▸ h.counted, hflags ▸ h.direct, hflags ▸ h.unused⟩

/-! ## Each request has the effect it should have -/

/-- The counter and the flag of one counted source have changed. -/
theorem Refines.updateCounted (h : s.Refines d) {t : GlobalBusyState} {src : Source} {n : Nat}
    (hcounts : ∀ j, t.busyCounts j = if j = src.index then n else s.busyCounts j)
    (hflags : ∀ j : Fin 32, t.busyFlags.getLsbD j =
      if j = src.index then decide (0 < n) else s.busyFlags.getLsbD j) :
    t.Refines { d with counted := Function.update d.counted src n } where
  counts := by
    intro src'
    dsimp only
    rw [hcounts, Function.update_apply, h.counts, if_congr Source.index_injective.eq_iff rfl rfl]
  counted := by
    intro src'
    simp only [hflags, h.counted, Function.update_apply, Source.index_injective.eq_iff]
    split
    · rfl
    · rfl
  direct := by
    intro src'
    rw [hflags, if_neg (Ne.symm (src.index_ne src')), h.direct]
  unused := by
    intro i hi
    rw [hflags] at hi
    split at hi
    · next hindex => exact .inl ⟨src, hindex⟩
    · exact h.unused i hi

/-- The flag of one direct source has changed. -/
theorem Refines.updateDirect (h : s.Refines d) {t : GlobalBusyState} {src : DirectSource}
    {b : Bool} (hcounts : t.busyCounts = s.busyCounts)
    (hflags : ∀ j : Fin 32, t.busyFlags.getLsbD j =
      if j = src.index then b else s.busyFlags.getLsbD j) :
    t.Refines { d with direct := Function.update d.direct src b } where
  counts := by
    rw [hcounts]
    exact h.counts
  counted := by
    intro src'
    rw [hflags, if_neg (src'.index_ne src), h.counted]
  direct := by
    intro src'
    dsimp only
    rw [hflags, Function.update_apply, h.direct,
      if_congr DirectSource.index_injective.eq_iff rfl rfl]
  unused := by
    intro i hi
    rw [hflags] at hi
    split at hi
    · next hindex => exact .inr ⟨src, hindex⟩
    · exact h.unused i hi

/-- A counter that is full would not be counted up any more. -/
theorem Refines.set (h : s.Refines d) {src : Source} (hroom : d.counted src < maxCount) :
    (s.set (makeMask src.index)).2.Refines (d.request (.set src)) := by
  have hup : ((makeMask src.index).getLsbD src.index &&
      decide (s.busyCounts src.index < maxCount)) = true := by
    rw [getLsbD_makeMask, h.counts, decide_eq_true hroom, decide_eq_true_eq.mpr rfl]
    rfl
  unfold GlobalBusyState.set
  rw [foldl_countUp]
  unfold countUp
  rw [if_pos hup]
  refine (h.updateCounted (n := d.counted src + 1) (fun j => ?_) fun j => ?_).notifyIfNecessary
  · dsimp only
    rw [Function.update_apply, h.counts]
  · dsimp only
    rw [getLsbD_setFlag, decide_eq_true (Nat.succ_pos _)]
    split
    · next hj => rw [decide_eq_true hj, Bool.or_true]
    · next hj => rw [decide_eq_false hj, Bool.or_false]

theorem Refines.clear (h : s.Refines d) (src : Source) :
    (s.clear (makeMask src.index)).2.Refines (d.request (.clear src)) := by
  have hdown : (makeMask src.index).getLsbD src.index = true := by
    rw [getLsbD_makeMask, decide_eq_true_eq.mpr rfl]
  unfold GlobalBusyState.clear
  rw [foldl_countDown]
  unfold countDown
  rw [if_pos hdown]
  refine (h.updateCounted (n := d.counted src - 1) (fun j => ?_) fun j => ?_).notifyIfNecessary
  · dsimp only
    rw [Function.update_apply, h.counts]
  · dsimp only
    rw [h.counts]
    by_cases hlast : d.counted src - 1 = 0
    · rw [if_pos hlast, hlast]
      have hclear := getLsbD_clearFlag s.busyFlags src.index j
      unfold makeMask at hclear
      rw [hclear]
      split
      · next hj => rw [decide_eq_false (not_not.mpr hj), Bool.and_false]; rfl
      · next hj => rw [decide_eq_true hj, Bool.and_true]
    · have hmore : 0 < d.counted src - 1 := Nat.pos_of_ne_zero hlast
      rw [if_neg hlast, decide_eq_true hmore]
      split
      · next hj =>
        rw [hj, h.counted, decide_eq_true (Nat.lt_of_lt_of_le hmore (Nat.sub_le _ _))]
      · rfl

theorem Refines.setDirect (h : s.Refines d) (src : DirectSource) :
    (s.setDirect (makeMask src.index)).2.Refines (d.request (.setDirect src)) := by
  unfold GlobalBusyState.setDirect
  refine Refines.notifyIfNecessary (h.updateDirect (b := true) rfl fun j => ?_)
  rw [getLsbD_setFlag]
  split
  · next hj => rw [decide_eq_true hj, Bool.or_true]
  · next hj => rw [decide_eq_false hj, Bool.or_false]

theorem Refines.clearDirect (h : s.Refines d) (src : DirectSource) :
    (s.clearDirect (makeMask src.index)).2.Refines (d.request (.clearDirect src)) := by
  unfold GlobalBusyState.clearDirect
  refine Refines.notifyIfNecessary (h.updateDirect (b := false) rfl fun j => ?_)
  rw [getLsbD_clearFlag]
  split
  · next hj => rw [decide_eq_false (not_not.mpr hj), Bool.and_false]
  · next hj => rw [decide_eq_true hj, Bool.and_true]

/-- No counter has to be counted up beyond its largest value. -/
def HasRoom (d : Demand) : Request → Prop
  | .set src => d.counted src < maxCount
  | .clear _ | .setDirect _ | .clearDirect _ => True

theorem Refines.request (h : s.Refines d) {r : Request} (hroom : HasRoom d r) :
    (s.request r).2.Refines (d.request r) := by
  cases r with
  | set src => exact h.set hroom
  | clear src => exact h.clear src
  | setDirect src => exact h.setDirect src
  | clearDirect src => exact h.clearDirect src

/-! What a request does to the counter of a source. -/

theorem request_set_busyCounts (s : GlobalBusyState) (src : Source) :
    (s.request (.set src)).2.busyCounts src.index =
      if s.busyCounts src.index < maxCount then s.busyCounts src.index + 1
      else s.busyCounts src.index := by
  unfold GlobalBusyState.request GlobalBusyState.set
  dsimp only
  rw [(notifyIfNecessary_same _).2, foldl_countUp]
  unfold countUp
  rw [getLsbD_makeMask, decide_eq_true_eq.mpr rfl, Bool.true_and]
  by_cases hroom : s.busyCounts src.index < maxCount
  · rw [if_pos (decide_eq_true hroom), if_pos hroom]
    exact Function.update_self _ _ _
  · rw [if_neg (fun h => hroom (of_decide_eq_true h)), if_neg hroom]

theorem request_clear_busyCounts (s : GlobalBusyState) (src : Source) :
    (s.request (.clear src)).2.busyCounts src.index = s.busyCounts src.index - 1 := by
  unfold GlobalBusyState.request GlobalBusyState.clear
  dsimp only
  rw [(notifyIfNecessary_same _).2, foldl_countDown]
  unfold countDown
  rw [getLsbD_makeMask, if_pos (decide_eq_true rfl)]
  exact Function.update_self _ _ _

/-- The requests of others leave the counter of a source alone. -/
theorem request_busyCounts_other (s : GlobalBusyState) {src : Source} {q : Request}
    (hset : q ≠ .set src) (hclear : q ≠ .clear src) :
    (s.request q).2.busyCounts src.index = s.busyCounts src.index := by
  unfold GlobalBusyState.request GlobalBusyState.set GlobalBusyState.clear setDirect clearDirect
  cases q with
  | set other =>
    dsimp only
    have hne : src.index ≠ other.index := fun h =>
      hset (congrArg Request.set (Source.index_injective h).symm)
    rw [(notifyIfNecessary_same _).2, foldl_countUp]
    unfold countUp
    split
    · exact Function.update_of_ne hne _ _
    · rfl
  | clear other =>
    dsimp only
    have hne : src.index ≠ other.index := fun h =>
      hclear (congrArg Request.clear (Source.index_injective h).symm)
    rw [(notifyIfNecessary_same _).2, foldl_countDown]
    unfold countDown
    split
    · exact Function.update_of_ne hne _ _
    · rfl
  | setDirect other =>
    dsimp only
    rw [(notifyIfNecessary_same _).2]
  | clearDirect other =>
    dsimp only
    rw [(notifyIfNecessary_same _).2]

/-- Each request ends with `notify_if_necessary`. -/
theorem request_notified (s : GlobalBusyState) (r : Request) :
    (s.request r).1 = decide (s.lastNotifiedBusyState ≠ (s.request r).2.isBusy) ∧
      (s.request r).2.lastNotifiedBusyState = (s.request r).2.isBusy := by
  have hlast : ∀ t : GlobalBusyState, t.lastNotifiedBusyState = s.lastNotifiedBusyState →
      t.notifyIfNecessary.1 = decide (s.lastNotifiedBusyState ≠ t.notifyIfNecessary.2.isBusy) ∧
        t.notifyIfNecessary.2.lastNotifiedBusyState = t.notifyIfNecessary.2.isBusy := by
    intro t ht
    obtain ⟨hcalled, hnotified, hsame⟩ := t.notifyIfNecessary_notified
    rw [hsame, ← ht]
    exact ⟨hcalled, hnotified⟩
  cases r with
  | set src =>
    unfold GlobalBusyState.request GlobalBusyState.set
    refine hlast _ ?_
    rw [foldl_countUp]
    unfold countUp
    split <;> rfl
  | clear src =>
    unfold GlobalBusyState.request GlobalBusyState.clear
    refine hlast _ ?_
    rw [foldl_countDown]
    unfold countDown
    split <;> rfl
  | setDirect src => exact hlast _ rfl
  | clearDirect src => exact hlast _ rfl

end GlobalBusyState

end Drcpd.Busy

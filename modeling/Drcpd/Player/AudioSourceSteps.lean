/-
  Player/AudioSourceSteps.lean --- what one event does to the audio sources.

  What the player control keeps from one event to the next, but for the states of the audio
  sources and the messages, is the `Core`.  Each function either leaves it alone, or does one
  of a few things to it: an audio source is plugged or unplugged, an operation is saved, run,
  or canceled.  From these come the invariants of one event: plugging is `Sound`, what has
  been saved is `Fresh`, and what has been run is `Matched`.
-/
import Drcpd.Player.AudioSources
import Mathlib.Data.List.Nodup

set_option autoImplicit false

namespace Drcpd.Player.AudioSources

/-- What is left alone by messages, intentions, and changes of the audio sources. -/
structure Core (A : Type) where
  audioSource : Option A
  finishedNotification : Bool
  playerData : Bool
  crawlerHandle : Bool
  permissions : Option LocalPermissions
  findOp : Option (FindOp A)
  ran : List (FindOp A × A)
  canceled : List (FindOp A)
  nextOp : Nat
  misplugged : Bool
  failure : Option Failure

namespace Core

variable {A : Type} {c c' : Core A} {op : FindOp A}

/-- The operations that have been run, canceled, or saved for later. -/
def ops (c : Core A) : List (FindOp A) :=
  c.ran.map (·.1) ++ c.canceled ++ c.findOp.toList

/-- No operation is run, canceled, or saved twice. -/
def Numbered (c : Core A) : Prop :=
  (c.ops.map (·.number)).Nodup ∧ ∀ op ∈ c.ops, op.number < c.nextOp

/-- The operation has been requested, and nothing else has become of it. -/
def New (c : Core A) (op : FindOp A) : Prop :=
  op.number ∉ c.ops.map (·.number) ∧ op.number < c.nextOp

/-- Nothing is left of an audio source. -/
structure Clear (c : Core A) : Prop where
  audioSource : c.audioSource = none
  finishedNotification : c.finishedNotification = false
  playerData : c.playerData = false
  crawlerHandle : c.crawlerHandle = false
  permissions : c.permissions = none

/-- Nothing is left of an audio source when none is plugged, and no assertion of `plug` has
failed. -/
structure Sound (c : Core A) : Prop where
  unplugged : c.audioSource = none → c.Clear ∧ c.findOp = none
  plugged : c.audioSource ≠ none → c.finishedNotification = true ∧ c.playerData = true
  plugs : c.misplugged = false
  numbered : c.Numbered

/-- The operation that is saved has been requested for the audio source that is plugged. -/
def Fresh (c : Core A) : Prop :=
  ∀ op, c.findOp = some op → c.audioSource = some op.audioSource

/-- All operations have been run for the audio source that was plugged. -/
def Matched (c : Core A) : Prop := ∀ p ∈ c.ran, p.1.audioSource = p.2

/-- The audio source has been unplugged. -/
def unplug (c : Core A) : Core A :=
  { c with
    audioSource := none
    finishedNotification := false
    playerData := false
    crawlerHandle := false
    permissions := none }

/-- An audio source has been plugged, with the player data. -/
def plug (c : Core A) (a : A) : Core A :=
  { c with audioSource := some a, finishedNotification := true, playerData := true }

/-- The operation that has been saved is canceled. -/
def cancel (c : Core A) : Core A :=
  { c with canceled := c.canceled ++ c.findOp.toList, findOp := none }

theorem clear_unplug (c : Core A) : c.unplug.Clear := ⟨rfl, rfl, rfl, rfl, rfl⟩

/-- The program has come to its end. -/
theorem Sound.fail (h : c.Sound) (failure : Failure) :
    Sound { c with failure := some failure } where
  unplugged := by
    intro hnone
    have hclear := h.unplugged hnone
    exact ⟨⟨hnone, hclear.1.2, hclear.1.3, hclear.1.4, hclear.1.5⟩, hclear.2⟩
  plugged := h.plugged
  plugs := h.plugs
  numbered := h.numbered

/-! ## Operations -/

theorem Numbered.of_subperm (h : c.Numbered) (hops : c'.ops.Subperm c.ops)
    (hnext : c.nextOp ≤ c'.nextOp) : c'.Numbered := by
  obtain ⟨l, hperm, hsub⟩ := hops
  constructor
  · exact (hperm.map _).nodup_iff.mp (h.1.sublist (hsub.map _))
  · intro op hop
    exact Nat.lt_of_lt_of_le (h.2 op (hsub.subset (hperm.symm.subset hop))) hnext

theorem Numbered.of_new (h : c.Numbered) (hnew : c.New op) (hops : c'.ops.Subperm (op :: c.ops))
    (hnext : c'.nextOp = c.nextOp) : c'.Numbered := by
  obtain ⟨l, hperm, hsub⟩ := hops
  constructor
  · have hnodup : ((op :: c.ops).map (·.number)).Nodup := List.nodup_cons.mpr ⟨hnew.1, h.1⟩
    exact (hperm.map _).nodup_iff.mp (hnodup.sublist (hsub.map _))
  · intro op' hop
    rw [hnext]
    rcases List.mem_cons.mp (hsub.subset (hperm.symm.subset hop)) with rfl | hmem
    · exact hnew.2
    · exact h.2 op' hmem

/-- The operation which has been saved before is forgotten. -/
theorem Numbered.save (h : c.Numbered) {findOp : Option (FindOp A)}
    (hnew : ∀ op, findOp = some op → c.New op) : { c with findOp := findOp }.Numbered := by
  have hsub : (c.ran.map (·.1) ++ c.canceled).Sublist c.ops := List.sublist_append_left ..
  cases findOp with
  | none =>
    have hops : Core.ops { c with findOp := none } = c.ran.map (·.1) ++ c.canceled :=
      List.append_nil _
    exact h.of_subperm (hops ▸ hsub.subperm) (Nat.le_refl _)
  | some op =>
    refine h.of_new (hnew op rfl) ?_ rfl
    have hperm : (Core.ops { c with findOp := some op }).Perm
        (op :: (c.ran.map (·.1) ++ c.canceled)) := List.perm_append_comm
    exact hperm.subperm.trans (hsub.cons_cons op).subperm

theorem Numbered.run (h : c.Numbered) (hnew : c.New op) (a : A) :
    { c with ran := c.ran ++ [(op, a)] }.Numbered := by
  refine h.of_new hnew ?_ rfl
  have hops : Core.ops { c with ran := c.ran ++ [(op, a)] } =
      c.ran.map (·.1) ++ op :: (c.canceled ++ c.findOp.toList) := by
    simp only [ops, List.map_append, List.map_cons, List.map_nil, List.append_assoc,
      List.cons_append, List.nil_append]
  have hops' : c.ops = c.ran.map (·.1) ++ (c.canceled ++ c.findOp.toList) :=
    List.append_assoc ..
  rw [hops, hops']
  exact List.perm_middle.subperm

theorem ops_cancel (c : Core A) : c.cancel.ops = c.ops := by
  simp only [ops, cancel, Option.toList_none, List.append_nil, List.append_assoc]

/-- The operation that has been saved is new once it is taken. -/
theorem Numbered.new_of_saved (h : c.Numbered) (hop : c.findOp = some op) :
    Core.New { c with findOp := none } op := by
  have hops : c.ops = Core.ops { c with findOp := none } ++ [op] := by
    simp only [ops, hop, Option.toList_some, Option.toList_none, List.append_nil]
  have hnodup := h.1
  rw [hops, List.map_append, List.nodup_append] at hnodup
  constructor
  · exact fun hmem => hnodup.2.2 _ hmem _ List.mem_cons_self rfl
  · exact h.2 op (hops ▸ List.mem_append_right _ List.mem_cons_self)

end Core

namespace Sources

variable {A : Type} [DecidableEq A] (views : A → Option SourceView) {s s' : Sources A}

/-- What is kept. -/
def core (s : Sources A) : Core A :=
  ⟨s.audioSource, s.finishedNotification, s.playerData, s.crawlerHandle, s.permissions,
    s.audioSourceSelectedFindOp, s.ran, s.canceled, s.nextOp, s.misplugged, s.failure⟩

/-! ## What each function does -/

@[simp] theorem core_modify (s : Sources A) (a : A) (f : AudioSource → AudioSource) :
    (s.modify a f).core = s.core := rfl

omit [DecidableEq A] in
@[simp] theorem core_send (s : Sources A) (a : A) (command : Command) (force : Bool) :
    (s.send a command force).core = s.core := by
  unfold send
  split <;> rfl

omit [DecidableEq A] in
@[simp] theorem source_send (s : Sources A) (a : A) (command : Command) (force : Bool) :
    (s.send a command force).source = s.source := by
  unfold send
  split <;> rfl

omit [DecidableEq A] in
theorem requestByIntention_keeps (s : Sources A) (intention : UserIntention)
    (command : Command) :
    (s.requestByIntention intention command).core = s.core ∧
      (s.requestByIntention intention command).source = s.source := by
  have hset : (if s.playerData then { s with intention := intention } else s).core = s.core ∧
      (if s.playerData then { s with intention := intention } else s).source = s.source := by
    split <;> exact ⟨rfl, rfl⟩
  unfold requestByIntention
  split
  · exact ⟨rfl, rfl⟩
  · dsimp only
    split
    · exact ⟨rfl, rfl⟩
    · exact hset
    · exact ⟨(core_send ..).trans hset.1, (source_send ..).trans hset.2⟩

omit [DecidableEq A] in
theorem stopRequest_keeps (s : Sources A) :
    s.stopRequest.core = s.core ∧ s.stopRequest.source = s.source :=
  s.requestByIntention_keeps .stopping .stop

omit [DecidableEq A] in
theorem pauseRequest_keeps (s : Sources A) :
    s.pauseRequest.core = s.core ∧ s.pauseRequest.source = s.source := by
  unfold pauseRequest
  split
  · exact ⟨rfl, rfl⟩
  · exact s.requestByIntention_keeps .pausing .pause

omit [DecidableEq A] in
theorem enforceIntention_keeps (s : Sources A) (knownPlayerState : PlayerState) :
    (s.enforceIntention knownPlayerState).core = s.core ∧
      (s.enforceIntention knownPlayerState).source = s.source := by
  have hsend : ∀ a command, (s.send a command false).core = s.core ∧
      (s.send a command false).source = s.source :=
    fun a command => ⟨core_send .., source_send ..⟩
  unfold enforceIntention
  split
  · exact ⟨rfl, rfl⟩
  · split
    · exact ⟨rfl, rfl⟩
    · generalize (if s.withEnforcedIntentions then s.intention else .nothing) = intention
      cases intention <;> cases knownPlayerState <;> first
        | exact ⟨rfl, rfl⟩
        | exact hsend ..

omit [DecidableEq A] in
theorem nowPlaying_keeps (s : Sources A) (switchedStream : Bool) :
    (s.nowPlaying switchedStream).core = s.core ∧
      (s.nowPlaying switchedStream).source = s.source := by
  have hset : ∀ t : Sources A, t.core = s.core → t.source = s.source →
      (if t.playerData then t.enforceIntention .playing else t).core = s.core ∧
        (if t.playerData then t.enforceIntention .playing else t).source = s.source := by
    intro t hcore hsource
    have hkeeps := t.enforceIntention_keeps .playing
    split
    · exact ⟨hkeeps.1.trans hcore, hkeeps.2.trans hsource⟩
    · exact ⟨hcore, hsource⟩
  cases switchedStream with
  | false => exact hset s rfl rfl
  | true => exact hset { s with intention := .listening } rfl rfl

omit [DecidableEq A] in
theorem pauseNotification_keeps (s : Sources A) :
    s.pauseNotification.core = s.core ∧ s.pauseNotification.source = s.source := by
  unfold pauseNotification
  split
  · exact s.enforceIntention_keeps .paused
  · exact ⟨rfl, rfl⟩

omit [DecidableEq A] in
theorem core_unplug (s : Sources A) :
    (s.unplug true).core = s.core.unplug ∧ (s.unplug true).source = s.source := by
  unfold unplug
  split <;> exact ⟨rfl, rfl⟩

omit [DecidableEq A] in
theorem core_unplug_false (s : Sources A) :
    (s.unplug false).core = s.core ∧ (s.unplug false).source = s.source := by
  unfold unplug
  split <;> exact ⟨rfl, rfl⟩

theorem core_doDeselectAudioSource (s : Sources A) (a : A) (sendStop : Bool) :
    (s.doDeselectAudioSource a sendStop).core = s.core.cancel := by
  cases sendStop with
  | false => rfl
  | true => exact core_send ..

omit [DecidableEq A] in
theorem logAssert_true (s : Sources A) : s.logAssert true = s := rfl

omit [DecidableEq A] in
theorem source_logAssert (s : Sources A) (isTrue : Bool) :
    (s.logAssert isTrue).source = s.source := by
  unfold logAssert
  split <;> rfl

omit [DecidableEq A] in
theorem core_runFindOp (s : Sources A) (op : FindOp A) (a : A) :
    (s.runFindOp op a).core = { s.core with ran := s.ran ++ [(op, a)] } ∨
      (s.runFindOp op a).core = { s.core with failure := some .crawlerHandle } := by
  unfold runFindOp
  split
  · exact Or.inl rfl
  · exact Or.inr rfl

omit [DecidableEq A] in
theorem fresh_runFindOp (s : Sources A) (op : FindOp A) (a : A) :
    (s.runFindOp op a).core.Fresh ↔ s.core.Fresh := by
  rcases s.core_runFindOp op a with hrun | hrun
  · rw [hrun]
    exact Iff.rfl
  · rw [hrun]
    exact Iff.rfl

/-- Plugging does not fail where nothing is left of the audio source before. -/
theorem core_plug {a : A} (hclear : s.core.Clear) (withEnforcedIntentions : Bool)
    (externalPlayerId : Option String) :
    ((s.plugAudioSource views a withEnforcedIntentions externalPlayerId).plugData).core =
      s.core.plug a := by
  obtain ⟨haudio, hfinished, hdata, hhandle, hpermissions⟩ := hclear
  have hassert : (s.audioSource.isNone && !s.finishedNotification && !s.crawlerHandle &&
      s.permissions.isNone) = true := by
    simp only [show s.audioSource = none from haudio,
      show s.finishedNotification = false from hfinished,
      show s.crawlerHandle = false from hhandle, show s.permissions = none from hpermissions,
      Option.isNone_none, Bool.not_false, Bool.and_true]
  have hcore : (s.plugAudioSource views a withEnforcedIntentions externalPlayerId).core =
      { s.core with audioSource := some a, finishedNotification := true } := by
    unfold plugAudioSource
    rw [hassert, logAssert_true]
    dsimp only
    cases (s.source a).state <;> cases externalPlayerId <;> rfl
  generalize s.plugAudioSource views a withEnforcedIntentions externalPlayerId = t at hcore ⊢
  have hdata' : (!t.playerData && !t.crawlerHandle && t.permissions.isNone) = true := by
    rw [show t.playerData = s.playerData from congrArg Core.playerData hcore,
      show t.crawlerHandle = s.crawlerHandle from congrArg Core.crawlerHandle hcore,
      show t.permissions = s.permissions from congrArg Core.permissions hcore,
      show s.playerData = false from hdata, show s.crawlerHandle = false from hhandle,
      show s.permissions = none from hpermissions]
    rfl
  unfold plugData
  rw [hdata', logAssert_true]
  change { t.core with playerData := true } = _
  rw [hcore]
  rfl

/-- The audio source is requested, unless it is selected. -/
theorem source_plug (s : Sources A) (a : A) (withEnforcedIntentions : Bool) :
    ((s.plugAudioSource views a withEnforcedIntentions none).plugData).source =
      Function.update s.source a (s.source a).request := by
  change (Sources.logAssert _ _).source = _
  rw [source_logAssert]
  unfold plugAudioSource
  dsimp only
  split
  case h_1 hst | h_2 hst =>
    exact (congrArg₂ (fun f g => Function.update f a (AudioSource.request (g a)))
      (source_logAssert ..) (source_logAssert ..))
  case h_3 hst =>
    rw [source_logAssert] at hst
    have hrequest : (s.source a).request = s.source a := by
      unfold AudioSource.request
      rw [hst]
    rw [hrequest, Function.update_eq_self]
    exact source_logAssert ..

theorem core_takeControl (s : Sources A) (a : A) :
    (s.takeControl views a).core = s.core.unplug.plug a := by
  have hcore : (s.stopRequest.unplug true).core = s.core.unplug := by
    rw [(core_unplug _).1, (stopRequest_keeps s).1]
  unfold takeControl
  rw [core_plug views (hcore ▸ s.core.clear_unplug), hcore]

theorem source_takeControl (s : Sources A) (a : A) :
    (s.takeControl views a).source = Function.update s.source a (s.source a).request := by
  have hsource : (s.stopRequest.unplug true).source = s.source := by
    rw [(core_unplug _).2, (stopRequest_keeps s).2]
  unfold takeControl
  rw [source_plug, hsource]

/-! ## Play requests -/

/-- Play requests are not denied. -/
def MayPlay (s : Sources A) : Prop :=
  (s.permissions.map (·.canPlay)).getD true = true ∧ s.playerData = true

section PlayRequest

variable {findOp : Option (FindOp A)} {playerState : PlayerState} {a : A}

omit [DecidableEq A] in
theorem playRequest_of_not_mayPlay (h : ¬ s.MayPlay) : s.playRequest findOp playerState = s := by
  refine if_pos ?_
  rw [MayPlay, not_and_or, Bool.not_eq_true, Bool.not_eq_true] at h
  exact h

omit [DecidableEq A] in
theorem playRequest_of_mayPlay (h : s.MayPlay) (ha : s.audioSource = some a) :
    s.playRequest findOp playerState = s.playFrom a findOp playerState := by
  have hdenied : ¬ ((s.permissions.map (·.canPlay)).getD true = false ∨ s.playerData = false) := by
    rw [h.1, h.2]
    decide
  unfold playRequest
  rw [if_neg hdenied]
  simp only [ha]

omit [DecidableEq A] in
theorem playRequest_of_requested (h : s.MayPlay) (ha : s.audioSource = some a)
    (hst : (s.source a).state = .requested) :
    (s.playRequest findOp playerState).core = { s.core with findOp := findOp } := by
  rw [playRequest_of_mayPlay h ha, playFrom, hst]
  rfl

omit [DecidableEq A] in
theorem playRequest_of_selected (h : s.MayPlay) (ha : s.audioSource = some a)
    (hst : (s.source a).state = .selected) (op : FindOp A) :
    (s.playRequest (some op) playerState).core = (s.runFindOp op a).core := by
  rw [playRequest_of_mayPlay h ha, playFrom, hst]
  unfold runFindOp
  dsimp only
  split <;> rfl

omit [DecidableEq A] in
/-- An operation is kept for later, or run, if anything becomes of the request. -/
theorem playRequest_cases (s : Sources A) (findOp : Option (FindOp A))
    (playerState : PlayerState) :
    (s.playRequest findOp playerState).core = s.core ∨
      (s.playRequest findOp playerState).core = { s.core with findOp := findOp } ∨
      ∃ op a, findOp = some op ∧ s.audioSource = some a ∧
        (s.playRequest findOp playerState).core = (s.runFindOp op a).core := by
  rcases Classical.em s.MayPlay with hmay | hmay
  · cases ha : s.audioSource with
    | none =>
      refine Or.inl ?_
      unfold playRequest
      rw [ha]
      dsimp only
      split <;> rfl
    | some a =>
      cases hst : (s.source a).state with
      | deselected =>
        refine Or.inl ?_
        rw [playRequest_of_mayPlay hmay ha, playFrom, hst]
      | requested => exact Or.inr (Or.inl (playRequest_of_requested hmay ha hst))
      | selected =>
        cases findOp with
        | some op =>
          exact Or.inr (Or.inr ⟨op, a, rfl, rfl, playRequest_of_selected hmay ha hst op⟩)
        | none =>
          refine Or.inl ?_
          rw [playRequest_of_mayPlay hmay ha, playFrom, hst]
          cases playerState <;> first
            | rfl
            | exact core_send ..
  · exact Or.inl (congrArg core (playRequest_of_not_mayPlay hmay))

omit [DecidableEq A] in
theorem sound_playRequest (h : s.core.Sound) (hnew : ∀ op, findOp = some op → s.core.New op)
    (hplugged : findOp ≠ none → s.audioSource ≠ none) :
    (s.playRequest findOp playerState).core.Sound := by
  rcases playRequest_cases s findOp playerState with hcore | hcore | ⟨op, a, rfl, ha, hcore⟩
  · exact hcore ▸ h
  · rw [hcore]
    refine ⟨fun hnone => ?_, h.plugged, h.plugs, h.numbered.save hnew⟩
    have hclear := (h.unplugged hnone).1
    refine ⟨⟨hnone, hclear.2, hclear.3, hclear.4, hclear.5⟩, ?_⟩
    exact Classical.byContradiction fun hop => hplugged hop hnone
  · rw [hcore]
    rcases s.core_runFindOp op a with hrun | hrun
    · rw [hrun]
      exact ⟨fun hnone => (Option.some_ne_none a (ha.symm.trans hnone)).elim, h.plugged, h.plugs,
        h.numbered.run (hnew op rfl) a⟩
    · exact hrun ▸ h.fail _

omit [DecidableEq A] in
theorem fresh_playRequest (h : s.core.Fresh)
    (hop : ∀ op, findOp = some op → s.audioSource = some op.audioSource) :
    (s.playRequest findOp playerState).core.Fresh := by
  rcases playRequest_cases s findOp playerState with hcore | hcore | ⟨op, a, rfl, ha, hcore⟩
  · exact hcore ▸ h
  · exact hcore ▸ hop
  · exact hcore ▸ (s.fresh_runFindOp op a).mpr h

omit [DecidableEq A] in
theorem matched_playRequest (h : s.core.Matched)
    (hop : ∀ op, findOp = some op → s.audioSource = some op.audioSource) :
    (s.playRequest findOp playerState).core.Matched := by
  rcases playRequest_cases s findOp playerState with hcore | hcore | ⟨op, a, rfl, ha, hcore⟩
  · exact hcore ▸ h
  · exact hcore ▸ h
  · rw [hcore]
    rcases s.core_runFindOp op a with hrun | hrun
    · rw [hrun]
      intro p hp
      rcases List.mem_append.mp hp with hmem | hmem
      · exact h p hmem
      · cases List.mem_singleton.mp hmem
        exact Option.some.inj ((hop op rfl).symm.trans ha)
    · exact hrun ▸ h

end PlayRequest

/-! ## Notifications -/

/-- The audio source that is plugged has been selected. -/
def selectPlugged (views : A → Option SourceView) (s : Sources A) (a : A) : Sources A :=
  s.modify a fun src =>
    src.selectedNotification.setProxies (rejectProxies views a) true (some .streamplayer)

section Notifications

variable {a b : A} (isOnHold : Bool) (playerState : PlayerState)

/-- What has been saved is requested again, or else nothing is played. -/
theorem sourceSelectedNotification_plugged (ha : s.audioSource = some a) :
    ∃ t, s.sourceSelectedNotification views a isOnHold playerState = (true, t) ∧
      (t = Sources.playRequest { s.selectPlugged views a with audioSourceSelectedFindOp := none }
          s.audioSourceSelectedFindOp playerState ∨
        t = s.selectPlugged views a ∨ t = (s.selectPlugged views a).stopRequest ∨
          t = (s.selectPlugged views a).pauseRequest) := by
  unfold sourceSelectedNotification
  simp only [ha, if_true]
  split
  · exact ⟨_, rfl, Or.inr (Or.inl rfl)⟩
  · split
    case h_4 => exact ⟨_, rfl, Or.inl rfl⟩
    case h_5 => exact ⟨_, rfl, Or.inr (Or.inr (Or.inl rfl))⟩
    case h_6 => exact ⟨_, rfl, Or.inr (Or.inr (Or.inr rfl))⟩
    all_goals exact ⟨_, rfl, Or.inr (Or.inl rfl)⟩

/-- The operations are left alone where nothing is played. -/
theorem core_of_not_played {t : Sources A}
    (h : t = s.selectPlugged views a ∨ t = (s.selectPlugged views a).stopRequest ∨
      t = (s.selectPlugged views a).pauseRequest) : t.core = s.core := by
  rcases h with rfl | rfl | rfl
  · rfl
  · exact (stopRequest_keeps _).1
  · exact (pauseRequest_keeps _).1

theorem sourceSelectedNotification_other (hb : s.audioSource = some b) (hne : a ≠ b) :
    s.sourceSelectedNotification views a isOnHold playerState =
      (false, s.doDeselectAudioSource b true) := by
  unfold sourceSelectedNotification
  simp only [hb, if_neg hne]

theorem core_sourceSelectedNotification_of_none (ha : s.audioSource = some a)
    (hnone : s.audioSourceSelectedFindOp = none) :
    (s.sourceSelectedNotification views a isOnHold playerState).2.core = s.core := by
  obtain ⟨t, ht, hreq | hnot⟩ := sourceSelectedNotification_plugged views isOnHold
    playerState ha
  · have hcleared : { s.core with findOp := none } = s.core := by
      rw [← hnone]
      rfl
    rw [ht]
    change t.core = s.core
    rw [hreq, hnone]
    rcases playRequest_cases { s.selectPlugged views a with audioSourceSelectedFindOp := none }
      none playerState with h | h | ⟨op, b, h, -, -⟩
    · exact h.trans hcleared
    · exact h.trans hcleared
    · cases h
  · rw [ht]
    exact core_of_not_played views hnot

/-- Nothing has been saved for an audio source that is plugged as it is selected. -/
theorem core_plugSelected (hclear : s.core.Clear) (hop : s.core.findOp = none) :
    (s.plugSelected views a isOnHold playerState).core = s.core ∨
      (s.plugSelected views a isOnHold playerState).core = s.core.plug a := by
  unfold plugSelected
  split
  · exact Or.inl rfl
  · refine Or.inr ?_
    have hcore := core_plug views (a := a) (s := s.modify a AudioSource.selectNow)
      hclear true none
    rw [core_modify] at hcore
    exact (core_sourceSelectedNotification_of_none views isOnHold playerState
      (congrArg Core.audioSource hcore) ((congrArg Core.findOp hcore).trans hop)).trans hcore

end Notifications

end Sources

/-! ## Plugging is sound -/

namespace Core

variable {A : Type} {c : Core A}

theorem Sound.cancel (h : c.Sound) : c.cancel.Sound where
  unplugged := by
    intro hnone
    have hclear := (h.unplugged hnone).1
    exact ⟨⟨hnone, hclear.2, hclear.3, hclear.4, hclear.5⟩, rfl⟩
  plugged := h.plugged
  plugs := h.plugs
  numbered := h.numbered.of_subperm (c.ops_cancel ▸ List.Subperm.refl _) (Nat.le_refl _)

theorem Sound.unplug (h : c.Sound) (hop : c.findOp = none) : c.unplug.Sound where
  unplugged := fun _ => ⟨c.clear_unplug, hop⟩
  plugged := fun hne => (hne rfl).elim
  plugs := h.plugs
  numbered := h.numbered

theorem Sound.plug (h : c.Sound) (a : A) : (c.plug a).Sound where
  unplugged := fun hnone => (Option.some_ne_none a hnone).elim
  plugged := fun _ => ⟨rfl, rfl⟩
  plugs := h.plugs
  numbered := h.numbered

/-- The operation that has been saved is left alone as another audio source is plugged. -/
theorem Sound.takeOver (h : c.Sound) (a : A) : (c.unplug.plug a).Sound where
  unplugged := fun hnone => (Option.some_ne_none a hnone).elim
  plugged := fun _ => ⟨rfl, rfl⟩
  plugs := h.plugs
  numbered := h.numbered

/-- With another crawler, and no number that has been given to an operation. -/
theorem Sound.plugCrawler (h : c.Sound) (hplugged : c.audioSource ≠ none) (isActivated : Bool)
    (permissions : LocalPermissions) {nextOp : Nat} (hnext : c.nextOp ≤ nextOp) :
    Sound { c with
      crawlerHandle := isActivated, permissions := some permissions, nextOp := nextOp } where
  unplugged := fun hnone => (hplugged hnone).elim
  plugged := h.plugged
  plugs := h.plugs
  numbered := h.numbered.of_subperm (List.Subperm.refl _) hnext

theorem fresh_of_none (h : c.findOp = none) : c.Fresh := by
  intro op hop
  cases h.symm.trans hop

end Core

namespace Sources

variable {A : Type} [DecidableEq A] (views : A → Option SourceView) {s s' : Sources A}

/-- The state in which `prepare_for_playing` asks to play. -/
def prepared (views : A → Option SourceView) (s : Sources A) (a : A)
    (permissions : LocalPermissions) (isActivated : Bool) : Sources A :=
  let s' := if s.isActiveControllerFor a then s else s.takeControl views a
  { s'.plugCrawler permissions isActivated with nextOp := s.nextOp + 1 }

theorem isActiveControllerFor_iff {a : A} :
    s.isActiveControllerFor a = true ↔ s.playerData = true ∧ s.audioSource = some a := by
  unfold isActiveControllerFor
  rw [Bool.and_eq_true, decide_eq_true_iff]

theorem prepared_sound (h : s.core.Sound) (a : A) (permissions : LocalPermissions)
    (isActivated : Bool) :
    (s.prepared views a permissions isActivated).core.Sound ∧
      (s.prepared views a permissions isActivated).core.New ⟨a, s.nextOp⟩ ∧
      (s.prepared views a permissions isActivated).audioSource = some a := by
  have hnew : ∀ c : Core A, c.ops = s.core.ops → c.nextOp = s.nextOp + 1 →
      c.New ⟨a, s.nextOp⟩ := by
    intro c hops hnext
    constructor
    · rw [hops]
      intro hmem
      obtain ⟨op, hop, hnumber⟩ := List.mem_map.mp hmem
      exact Nat.lt_irrefl _ (hnumber ▸ h.numbered.2 op hop)
    · rw [hnext]
      exact Nat.lt_succ_self _
  unfold prepared
  rcases Decidable.em (s.isActiveControllerFor a = true) with hactive | hactive
  · have ha := (isActiveControllerFor_iff.mp hactive).2
    rw [if_pos hactive]
    exact ⟨h.plugCrawler (fun hnone => Option.some_ne_none a (ha.symm.trans hnone)) isActivated
      permissions (Nat.le_succ _), hnew _ rfl rfl, ha⟩
  · rw [if_neg hactive]
    have hcore := core_takeControl views s a
    have hsound := (h.takeOver a).plugCrawler (Option.some_ne_none a) isActivated permissions
      (Nat.le_succ s.nextOp)
    have hcore' : (Sources.core { (s.takeControl views a).plugCrawler permissions isActivated with
        nextOp := s.nextOp + 1 }) = { s.core.unplug.plug a with
          crawlerHandle := isActivated
          permissions := some permissions
          nextOp := s.nextOp + 1 } := by
      rw [← hcore]
      rfl
    exact ⟨hcore' ▸ hsound, hcore' ▸ hnew _ rfl rfl, congrArg Core.audioSource hcore⟩

theorem prepareForPlaying_eq (s : Sources A) (a : A) (permissions : LocalPermissions)
    (isActivated : Bool) (playerState : PlayerState) :
    s.prepareForPlaying views a permissions isActivated playerState =
      (s.prepared views a permissions isActivated).playRequest (some ⟨a, s.nextOp⟩)
        playerState := rfl

omit [DecidableEq A] in
/-- What has been saved is taken as the audio source is selected. -/
theorem sound_taken (h : s.core.Sound) :
    Core.Sound { s.core with findOp := none } ∧
      ∀ op, s.audioSourceSelectedFindOp = some op → Core.New { s.core with findOp := none } op := by
  refine ⟨⟨fun hnone => ?_, h.plugged, h.plugs, ?_⟩, fun op hop => ?_⟩
  · have hclear := (h.unplugged hnone).1
    exact ⟨⟨hnone, hclear.2, hclear.3, hclear.4, hclear.5⟩, rfl⟩
  · refine h.numbered.save ?_
    intro op hop
    cases hop
  · exact h.numbered.new_of_saved hop

theorem core_sourceDeselectedNotification_none (h : s.core.Sound) :
    (s.sourceDeselectedNotification none).2.core = s.core.cancel := by
  unfold sourceDeselectedNotification
  split
  case h_1 hnone =>
    have hop : s.audioSourceSelectedFindOp = none := (h.unplugged hnone).2
    simp only [Core.cancel, core, hop, Option.toList_none, List.append_nil]
  case h_2 => exact core_doDeselectAudioSource ..

theorem core_sourceDeselected (s : Sources A) (a : A) :
    (s.sourceDeselected views a).core = s.core ∨
      (s.sourceDeselected views a).core = s.core.cancel := by
  unfold sourceDeselected sourceDeselectedNotification
  cases s.audioSource with
  | none =>
    refine Or.inl ?_
    dsimp only
    split <;> rfl
  | some b =>
    rcases Decidable.em (a = b) with heq | heq
    · simp only [if_pos heq]
      exact Or.inr (core_doDeselectAudioSource ..)
    · refine Or.inl ?_
      simp only [if_neg heq]
      split <;> rfl

theorem core_changeAudioPath (h : s.core.Sound) (a : Option A) (playerId : String) :
    (s.changeAudioPath views a playerId).core = s.core.cancel.unplug ∨
      ∃ b permissions, a = some b ∧ (s.changeAudioPath views a playerId).core =
        { s.core.cancel.unplug.plug b with
          crawlerHandle := false, permissions := some permissions } := by
  have hcore : ((s.sourceDeselectedNotification none).2.unplug true).core =
      s.core.cancel.unplug := by
    rw [(core_unplug _).1, core_sourceDeselectedNotification_none h]
  unfold changeAudioPath
  cases a with
  | none => exact Or.inl hcore
  | some a =>
    dsimp only
    split
    · exact Or.inl hcore
    · split
      · exact Or.inl hcore
      case h_2 view _ _ permissions _ =>
        refine Or.inr ⟨a, permissions, rfl, ?_⟩
        generalize (s.sourceDeselectedNotification none).2.unplug true = t at hcore ⊢
        have hclear : (t.modify a AudioSource.selectNow).core.Clear := by
          rw [core_modify, hcore]
          exact Core.clear_unplug _
        have hplug := core_plug views (a := a) hclear
          (!view.noEnforcedUserIntentions) (some playerId)
        rw [core_modify, hcore] at hplug
        rw [← hplug]
        rfl

theorem sound_changeAudioPath (h : s.core.Sound) (a : Option A) (playerId : String) :
    (s.changeAudioPath views a playerId).core.Sound := by
  have hunplugged := h.cancel.unplug rfl
  rcases core_changeAudioPath views h a playerId with hcore | ⟨b, permissions, -, hcore⟩
  · exact hcore ▸ hunplugged
  · exact hcore ▸ (hunplugged.plug b).plugCrawler (Option.some_ne_none b) false permissions
      (Nat.le_refl _)

theorem core_audioPathChanged (s : Sources A) (isHalf : Bool) (a : Option A)
    (playerId : String) :
    (s.audioPathChanged views isHalf a playerId).core = s.core ∨
      (s.audioPathChanged views isHalf a playerId).core =
        { s.core with failure := some .beforeViewActivation } ∨
      (s.audioPathChanged views isHalf a playerId).core =
        (s.changeAudioPath views a playerId).core := by
  unfold audioPathChanged
  cases a with
  | none => exact Or.inr (Or.inr rfl)
  | some a =>
    dsimp only
    split
    · split
      · exact Or.inl rfl
      · split
        · exact Or.inr (Or.inl rfl)
        · exact Or.inl rfl
    · exact Or.inr (Or.inr rfl)

theorem sound_plugSelected (h : s.core.Sound) (hclear : s.core.Clear) (hop : s.core.findOp = none)
    (a : A) (isOnHold : Bool) (playerState : PlayerState) :
    (s.plugSelected views a isOnHold playerState).core.Sound := by
  rcases core_plugSelected views (a := a) isOnHold playerState hclear hop with hcore | hcore
  · exact hcore ▸ h
  · exact hcore ▸ h.plug a

/-- What `AUDIO_SOURCE_SELECTED` comes to. -/
theorem sourceSelected_cases (s : Sources A) (a : A) (isOnHold : Bool)
    (playerState : PlayerState) :
    (s.audioSource = none ∧ s.sourceSelected views a isOnHold playerState =
        s.plugSelected views a isOnHold playerState) ∨
      (s.audioSource = some a ∧ ∃ t, s.sourceSelected views a isOnHold playerState = t ∧
        (t = Sources.playRequest
            { s.selectPlugged views a with audioSourceSelectedFindOp := none }
            s.audioSourceSelectedFindOp playerState ∨
          t = s.selectPlugged views a ∨ t = (s.selectPlugged views a).stopRequest ∨
            t = (s.selectPlugged views a).pauseRequest)) ∨
      ∃ b, s.audioSource = some b ∧ a ≠ b ∧ s.sourceSelected views a isOnHold playerState =
        ((s.doDeselectAudioSource b true).unplug true).plugSelected views a isOnHold
          playerState := by
  unfold sourceSelected
  cases hplugged : s.audioSource with
  | none =>
    refine Or.inl ⟨rfl, ?_⟩
    simp only [Option.isSome_none, Bool.false_eq_true, if_false]
  | some b =>
    simp only [Option.isSome_some, if_true]
    rcases Decidable.em (a = b) with rfl | hne
    · obtain ⟨t, ht, hcases⟩ := sourceSelectedNotification_plugged views isOnHold
        playerState hplugged
      refine Or.inr (Or.inl ⟨rfl, t, ?_, hcases⟩)
      rw [ht]
    · refine Or.inr (Or.inr ⟨b, rfl, hne, ?_⟩)
      rw [sourceSelectedNotification_other views isOnHold playerState hplugged hne]

theorem sound_handle (h : s.core.Sound) (e : Event A) : (s.handle views e).core.Sound := by
  cases e with
  | prepareForPlaying a permissions isActivated playerState =>
    obtain ⟨hsound, hnew, ha⟩ := prepared_sound views h a permissions isActivated
    refine sound_playRequest hsound ?_ fun _ => ha ▸ Option.some_ne_none a
    intro op hop
    exact Option.some.inj hop ▸ hnew
  | stopPlaying a =>
    change (if s.isActiveControllerFor a then s.unplug false else s).core.Sound
    split
    · exact (core_unplug_false s).1 ▸ h
    · exact h
  | playerFinished => exact (core_unplug_false s).1 ▸ h
  | commandStart playerState =>
    cases playerState <;> first
      | exact s.pauseRequest_keeps.1 ▸ h
      | exact sound_playRequest h (fun op hop => (Option.some_ne_none op hop.symm).elim)
          (absurd rfl)
  | commandStop => exact s.stopRequest_keeps.1 ▸ h
  | commandPause => exact s.pauseRequest_keeps.1 ▸ h
  | nowPlaying switchedStream => exact (s.nowPlaying_keeps switchedStream).1 ▸ h
  | streamPaused => exact s.pauseNotification_keeps.1 ▸ h
  | setIntention intention =>
    change (if s.playerData then { s with intention := intention } else s).core.Sound
    split <;> exact h
  | sourceSelected a isOnHold playerState =>
    change (s.sourceSelected views a isOnHold playerState).core.Sound
    rcases sourceSelected_cases views s a isOnHold playerState with
      ⟨hnone, heq⟩ | ⟨ha, t, rfl, heq | hnot⟩ | ⟨b, hb, hne, heq⟩
    · rw [heq]
      have hclear := h.unplugged hnone
      exact sound_plugSelected views h hclear.1 hclear.2 a isOnHold playerState
    · rw [heq]
      have htaken := sound_taken h
      exact sound_playRequest htaken.1 htaken.2 fun _ => ha ▸ Option.some_ne_none a
    · exact core_of_not_played views hnot ▸ h
    · rw [heq]
      have hcore : ((s.doDeselectAudioSource b true).unplug true).core =
          s.core.cancel.unplug := by
        rw [(core_unplug _).1, core_doDeselectAudioSource]
      refine sound_plugSelected views ?_ ?_ ?_ a isOnHold playerState
      · exact hcore ▸ h.cancel.unplug rfl
      · exact hcore ▸ Core.clear_unplug _
      · exact congrArg Core.findOp hcore
  | sourceDeselected a =>
    rcases core_sourceDeselected views s a with hcore | hcore
    · exact (hcore ▸ h : (s.sourceDeselected views a).core.Sound)
    · exact (hcore ▸ h.cancel : (s.sourceDeselected views a).core.Sound)
  | audioPathChanged isHalf a playerId =>
    change (s.audioPathChanged views isHalf a playerId).core.Sound
    rcases core_audioPathChanged views s isHalf a playerId with hcore | hcore | hcore
    · exact hcore ▸ h
    · exact hcore ▸ h.fail _
    · exact hcore ▸ sound_changeAudioPath views h a playerId

/-! ## What is run for which audio source -/

/-- The operation that has been saved is stranded: the player is controlled for another audio
source, and the request to play it is denied or does not have to wait. -/
def Strands (s : Sources A) (e : Event A) : Prop :=
  ∃ a permissions isActivated playerState,
    e = .prepareForPlaying a permissions isActivated playerState ∧
      s.isActiveControllerFor a = false ∧ s.audioSourceSelectedFindOp ≠ none ∧
      (permissions.canPlay = false ∨ (s.source a).state = .selected)

omit [DecidableEq A] in
theorem matched_of_ran {t : Sources A} (h : s.core.Matched) (hran : t.ran = s.ran) :
    t.core.Matched := by
  intro p hp
  exact h p (hran ▸ (hp : p ∈ t.ran) : p ∈ s.ran)

/-- While another audio source is plugged, what has been saved is not for this one. -/
theorem fresh_iff_of_not_active {c : Core A} {a : A} (h : s.core.Sound) (hfresh : s.core.Fresh)
    (hinactive : s.isActiveControllerFor a = false)
    (hop : c.findOp = s.audioSourceSelectedFindOp) (ha : c.audioSource = some a) :
    c.Fresh ↔ s.audioSourceSelectedFindOp = none := by
  constructor
  · intro hfresh'
    cases hsaved : s.audioSourceSelectedFindOp with
    | none => rfl
    | some op =>
      have hplugged := hfresh op hsaved
      have hdata := (h.plugged (hplugged ▸ Option.some_ne_none _)).2
      have hsame : s.audioSource = some a :=
        hplugged.trans ((hfresh' op (hop.trans hsaved)).symm.trans ha)
      exact absurd (isActiveControllerFor_iff.mpr ⟨hdata, hsame⟩) (Bool.eq_false_iff.mp hinactive)
  · intro hnone
    exact Core.fresh_of_none (hop.trans hnone)

/-- The state of the audio source for which the player is going to be controlled. -/
theorem state_request (a : AudioSource) :
    (a.request.state = .selected ∧ a.state = .selected) ∨
      (a.request.state = .requested ∧ a.state ≠ .selected) := by
  unfold AudioSource.request
  cases hst : a.state with
  | deselected => exact Or.inr ⟨rfl, by decide⟩
  | requested => exact Or.inr ⟨hst, by decide⟩
  | selected => exact Or.inl ⟨hst, rfl⟩

theorem prepared_of_not_active {a : A} (hinactive : s.isActiveControllerFor a = false)
    (permissions : LocalPermissions) (isActivated : Bool) :
    (s.prepared views a permissions isActivated).audioSource = some a ∧
      (s.prepared views a permissions isActivated).core.findOp = s.audioSourceSelectedFindOp ∧
      (s.prepared views a permissions isActivated).playerData = true ∧
      (s.prepared views a permissions isActivated).permissions = some permissions ∧
      (s.prepared views a permissions isActivated).source a = (s.source a).request := by
  have hcore := core_takeControl views s a
  unfold prepared
  rw [hinactive]
  refine ⟨congrArg Core.audioSource hcore, congrArg Core.findOp hcore,
    congrArg Core.playerData hcore, rfl, ?_⟩
  exact (congrFun (source_takeControl views s a) a).trans (Function.update_self ..)

theorem fresh_prepareForPlaying (h : s.core.Sound) (hfresh : s.core.Fresh) (a : A)
    (permissions : LocalPermissions) (isActivated : Bool) (playerState : PlayerState) :
    (s.prepareForPlaying views a permissions isActivated playerState).core.Fresh ↔
      ¬ s.Strands (.prepareForPlaying a permissions isActivated playerState) := by
  have hstrands : s.Strands (.prepareForPlaying a permissions isActivated playerState) ↔
      s.isActiveControllerFor a = false ∧ s.audioSourceSelectedFindOp ≠ none ∧
        (permissions.canPlay = false ∨ (s.source a).state = .selected) := by
    constructor
    · rintro ⟨a, permissions, isActivated, playerState, he, hrest⟩
      cases he
      exact hrest
    · intro hrest
      exact ⟨a, permissions, isActivated, playerState, rfl, hrest⟩
  rw [hstrands, prepareForPlaying_eq]
  cases hactive : s.isActiveControllerFor a with
  | true =>
    have ha := (isActiveControllerFor_iff.mp hactive).2
    have hprepared : (s.prepared views a permissions isActivated).core.Fresh := by
      unfold prepared
      rw [if_pos hactive]
      exact hfresh
    have hplugged : (s.prepared views a permissions isActivated).audioSource = some a :=
      (prepared_sound views h a permissions isActivated).2.2
    refine iff_of_true (fresh_playRequest hprepared ?_) ?_
    · intro op hop
      exact Option.some.inj hop ▸ hplugged
    · exact fun hstrands => Bool.noConfusion hstrands.1
  | false =>
    obtain ⟨hplugged, hsaved, hdata, hpermissions, hsource⟩ :=
      prepared_of_not_active views hactive permissions isActivated
    generalize s.prepared views a permissions isActivated = t at *
    cases hcan : permissions.canPlay with
    | false =>
      have hdenied : ¬ t.MayPlay := by
        rw [MayPlay, hpermissions, Option.map_some, Option.getD_some, hcan]
        exact fun hmay => Bool.noConfusion hmay.1
      rw [playRequest_of_not_mayPlay hdenied,
        fresh_iff_of_not_active h hfresh hactive hsaved hplugged]
      simp only [true_and, true_or, and_true, not_not, ne_eq]
    | true =>
      have hmay : t.MayPlay := ⟨by rw [hpermissions]; exact hcan, hdata⟩
      rcases state_request (s.source a) with ⟨hst, hst'⟩ | ⟨hst, hst'⟩
      · rw [playRequest_of_selected hmay hplugged (hsource ▸ hst), hst', fresh_runFindOp]
        refine (fresh_iff_of_not_active h hfresh hactive hsaved hplugged).trans ?_
        simp only [true_and, or_true, and_true, not_not, ne_eq]
      · rw [playRequest_of_requested hmay hplugged (hsource ▸ hst)]
        refine iff_of_true ?_ ?_
        · intro op hop
          cases hop
          exact hplugged
        · exact fun hstrands => hstrands.2.2.elim Bool.noConfusion hst'

/-- No other event has a say in what is saved for which audio source. -/
theorem handle_of_not_prepare (h : s.core.Sound) (hfresh : s.core.Fresh) (hran : s.core.Matched)
    (e : Event A) (hother : ∀ a permissions isActivated playerState,
      e ≠ .prepareForPlaying a permissions isActivated playerState) :
    (s.handle views e).core.Fresh ∧ (s.handle views e).core.Matched := by
  have hsame : ∀ c : Core A, c = s.core → c.Fresh ∧ c.Matched := by
    rintro c rfl
    exact ⟨hfresh, hran⟩
  have hcancel : ∀ c : Core A, c.findOp = none → c.ran = s.ran → c.Fresh ∧ c.Matched := by
    intro c hnone hsame
    refine ⟨Core.fresh_of_none hnone, fun p hp => ?_⟩
    exact hran p (hsame ▸ hp : p ∈ s.ran)
  have hplugSelected : ∀ (t : Sources A) a isOnHold playerState, t.core.Clear →
      t.core.findOp = none → t.ran = s.ran →
      (t.plugSelected views a isOnHold playerState).core.Fresh ∧
        (t.plugSelected views a isOnHold playerState).core.Matched := by
    intro t a isOnHold playerState hclear hnone hsame
    rcases core_plugSelected views (a := a) isOnHold playerState hclear hnone with hcore | hcore
    · exact hcore ▸ hcancel _ hnone hsame
    · exact hcore ▸ hcancel _ hnone hsame
  cases e with
  | prepareForPlaying a permissions isActivated playerState => exact (hother _ _ _ _ rfl).elim
  | stopPlaying a =>
    change (if s.isActiveControllerFor a then s.unplug false else s).core.Fresh ∧
      (if s.isActiveControllerFor a then s.unplug false else s).core.Matched
    split
    · exact hsame _ (core_unplug_false s).1
    · exact hsame _ rfl
  | playerFinished => exact hsame _ (core_unplug_false s).1
  | commandStart playerState =>
    have hplay : (s.playRequest none playerState).core.Fresh ∧
        (s.playRequest none playerState).core.Matched :=
      ⟨fresh_playRequest hfresh fun op hop => (Option.some_ne_none op hop.symm).elim,
        matched_playRequest hran fun op hop => (Option.some_ne_none op hop.symm).elim⟩
    cases playerState <;> first
      | exact hsame _ s.pauseRequest_keeps.1
      | exact hplay
  | commandStop => exact hsame _ s.stopRequest_keeps.1
  | commandPause => exact hsame _ s.pauseRequest_keeps.1
  | nowPlaying switchedStream => exact hsame _ (s.nowPlaying_keeps switchedStream).1
  | streamPaused => exact hsame _ s.pauseNotification_keeps.1
  | setIntention intention =>
    refine hsame _ ?_
    change (if s.playerData then { s with intention := intention } else s).core = s.core
    split <;> rfl
  | sourceSelected a isOnHold playerState =>
    change (s.sourceSelected views a isOnHold playerState).core.Fresh ∧
      (s.sourceSelected views a isOnHold playerState).core.Matched
    rcases sourceSelected_cases views s a isOnHold playerState with
      ⟨hnone, heq⟩ | ⟨ha, t, rfl, heq | hnot⟩ | ⟨b, hb, hne, heq⟩
    · have hclear := h.unplugged hnone
      exact heq ▸ hplugSelected s a isOnHold playerState hclear.1 hclear.2 rfl
    · rw [heq]
      have hop : ∀ op, s.audioSourceSelectedFindOp = some op →
          (s.selectPlugged views a).audioSource = some op.audioSource := hfresh
      exact ⟨fresh_playRequest (Core.fresh_of_none rfl) hop, matched_playRequest hran hop⟩
    · exact hsame _ (core_of_not_played views hnot)
    · have hcore : ((s.doDeselectAudioSource b true).unplug true).core =
          s.core.cancel.unplug := by
        rw [(core_unplug _).1, core_doDeselectAudioSource]
      exact heq ▸ hplugSelected _ a isOnHold playerState (hcore ▸ Core.clear_unplug _)
        (congrArg Core.findOp hcore) (congrArg Core.ran hcore)
  | sourceDeselected a =>
    change (s.sourceDeselected views a).core.Fresh ∧ (s.sourceDeselected views a).core.Matched
    rcases core_sourceDeselected views s a with hcore | hcore
    · exact hsame _ hcore
    · exact hcore ▸ hcancel _ rfl rfl
  | audioPathChanged isHalf a playerId =>
    change (s.audioPathChanged views isHalf a playerId).core.Fresh ∧
      (s.audioPathChanged views isHalf a playerId).core.Matched
    rcases core_audioPathChanged views s isHalf a playerId with hcore | hcore | hcore
    · exact hsame _ hcore
    · exact hcore ▸ ⟨hfresh, hran⟩
    · rw [hcore]
      rcases core_changeAudioPath views h a playerId with
        hcore | ⟨b, permissions, -, hcore⟩
      · exact hcore ▸ hcancel _ rfl rfl
      · exact hcore ▸ hcancel _ rfl rfl

theorem fresh_handle (h : s.core.Sound) (hfresh : s.core.Fresh) (hran : s.core.Matched)
    (e : Event A) : (s.handle views e).core.Fresh ↔ ¬ s.Strands e := by
  by_cases hprepare : ∃ a permissions isActivated playerState,
      e = .prepareForPlaying a permissions isActivated playerState
  · obtain ⟨a, permissions, isActivated, playerState, rfl⟩ := hprepare
    exact fresh_prepareForPlaying views h hfresh a permissions isActivated playerState
  · refine iff_of_true (handle_of_not_prepare views h hfresh hran e ?_).1 ?_
    · exact fun a permissions isActivated playerState he => hprepare ⟨_, _, _, _, he⟩
    · rintro ⟨a, permissions, isActivated, playerState, he, -⟩
      exact hprepare ⟨_, _, _, _, he⟩

theorem matched_handle (h : s.core.Sound) (hfresh : s.core.Fresh) (hran : s.core.Matched)
    (e : Event A) : (s.handle views e).core.Matched := by
  by_cases hprepare : ∃ a permissions isActivated playerState,
      e = .prepareForPlaying a permissions isActivated playerState
  · obtain ⟨a, permissions, isActivated, playerState, rfl⟩ := hprepare
    have hplugged := (prepared_sound views h a permissions isActivated).2.2
    refine matched_playRequest (s := s.prepared views a permissions isActivated) ?_ ?_
    · refine matched_of_ran hran ?_
      unfold prepared
      split
      · rfl
      · exact congrArg Core.ran (core_takeControl views s a)
    · intro op hop
      exact Option.some.inj hop ▸ hplugged
  · refine (handle_of_not_prepare views h hfresh hran e ?_).2
    exact fun a permissions isActivated playerState he => hprepare ⟨_, _, _, _, he⟩

end Sources

end Drcpd.Player.AudioSources

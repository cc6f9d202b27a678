/-
  Player/AudioSources.lean --- selecting audio sources (`audiosource.hh`, `view_play.cc`,
  and what `player_control.cc` has to do with them).

  All audio sources that are registered with the play view are modelled, and which one of
  them is plugged into the player control.  The messages sent to the audio path manager and
  to the players are recorded, and so are the operations that are handed to a crawler and
  those that are canceled; each operation comes with the audio source it has been requested
  for.  What the audio path manager says may come at any time.

  The queue, the skipper, and what is prefetched are left out, and so are the commands sent
  for them: skip, seek and speed requests, and the notification that a stream has stopped.
  None of them is asked when an audio source is selected.

  A failed assertion is only logged, and the program goes on.  It ends where a null pointer or
  an empty function is used.
-/
import Drcpd.Foundation.Run
import Drcpd.Player.Control

set_option autoImplicit false

namespace Drcpd.Player.AudioSources

/-- The players that have a D-Bus proxy. -/
inductive PlaybackProxy where
  | streamplayer
  | roonplayer
  deriving DecidableEq, Repr

/-- The messages to a player. -/
inductive Command where
  | play
  | stop
  | pause
  deriving DecidableEq, Repr

/-- What is known of the view of an audio source: a `ViewExternalSource::Base`, with its
local permissions, or a file browser. -/
structure SourceView where
  external : Option LocalPermissions
  /-- `NO_ENFORCED_USER_INTENTIONS`. -/
  noEnforcedUserIntentions : Bool
  /-- `PLAYER_COMMANDS_BLOCKED`. -/
  playerCommandsBlocked : Bool
  deriving DecidableEq, Repr

/-- `AudioSource`. -/
structure AudioSource where
  state : AudioSourceState := .deselected
  urlfifoProxy : Bool := false
  playbackProxy : Option PlaybackProxy := none
  playbackProxyForForcedCommands : Option PlaybackProxy := none
  deriving DecidableEq, Repr

/-- An operation that finds the item to be played. -/
structure FindOp (A : Type) where
  audioSource : A
  number : Nat
  deriving DecidableEq, Repr

/-- What ends the program: the crawler handle used by `play_request`, or the function called by
`handle_audio_path_changed`. -/
inductive Failure where
  | crawlerHandle
  | beforeViewActivation
  deriving DecidableEq, Repr

namespace AudioSource

/-- `set_proxies`. -/
def setProxies (a : AudioSource) (rejectProxies urlfifoProxy : Bool)
    (playbackProxy : Option PlaybackProxy) : AudioSource :=
  let a := { a with playbackProxyForForcedCommands := playbackProxy }
  if rejectProxies then a
  else { a with urlfifoProxy := urlfifoProxy, playbackProxy := playbackProxy }

/-- `deselected_notification`. -/
def deselectedNotification : AudioSource := {}

/-- `request`. -/
def request (a : AudioSource) : AudioSource :=
  match a.state with
  | .deselected => { a with state := .requested }
  | .requested | .selected => a

/-- `selected_notification`. -/
def selectedNotification (a : AudioSource) : AudioSource :=
  match a.state with
  | .requested => { a with state := .selected }
  | .deselected | .selected => a

/-- `select_now`. -/
def selectNow (a : AudioSource) : AudioSource := { a with state := .selected }

/-- `get_playback_proxy`. -/
def getPlaybackProxy (a : AudioSource) (force : Bool) : Option PlaybackProxy :=
  if force then a.playbackProxyForForcedCommands else a.playbackProxy

/-- `set_audio_player_dbus_proxies`. -/
def setAudioPlayerDbusProxies (a : AudioSource) (rejectProxies : Bool) (audioPlayerId : String) :
    AudioSource :=
  if audioPlayerId = "strbo" then a.setProxies rejectProxies true (some .streamplayer)
  else if audioPlayerId = "roon" then a.setProxies rejectProxies false (some .roonplayer)
  else a.setProxies rejectProxies false none

end AudioSource

/-- The audio sources, `Player::Control`, and the intention of `Player::Data`; `requested`
and `commands` are the messages to the audio path manager and to the players. -/
structure Sources (A : Type) where
  source : A → AudioSource := fun _ => {}
  audioSource : Option A := none
  withEnforcedIntentions : Bool := false
  finishedNotification : Bool := false
  playerData : Bool := false
  crawlerHandle : Bool := false
  permissions : Option LocalPermissions := none
  audioSourceSelectedFindOp : Option (FindOp A) := none
  intention : UserIntention := .nothing
  requested : List A := []
  commands : List (Command × PlaybackProxy) := []
  ran : List (FindOp A × A) := []
  canceled : List (FindOp A) := []
  nextOp : Nat := 0
  /-- An assertion of `plug` has failed. -/
  misplugged : Bool := false
  failure : Option Failure := none

/-- What happens to the audio sources and the player control. -/
inductive Event (A : Type) where
  /-- `prepare_for_playing`; `isActivated` tells whether there is a crawler handle. -/
  | prepareForPlaying (audioSource : A) (permissions : LocalPermissions) (isActivated : Bool)
      (playerState : PlayerState)
  /-- `stop_playing`. -/
  | stopPlaying (audioSource : A)
  /-- `player_finished`, while the player is controlled. -/
  | playerFinished
  /-- `PLAYBACK_COMMAND_START`, `PLAYBACK_COMMAND_STOP`, and `PLAYBACK_COMMAND_PAUSE`. -/
  | commandStart (playerState : PlayerState)
  | commandStop
  | commandPause
  /-- `NOTIFY_NOW_PLAYING` and `NOTIFY_STREAM_PAUSED`. -/
  | nowPlaying (switchedStream : Bool)
  | streamPaused
  /-- The intention is changed for a skip request, or when it is done. -/
  | setIntention (intention : UserIntention)
  /-- `AUDIO_SOURCE_SELECTED`. -/
  | sourceSelected (audioSource : A) (isOnHold : Bool) (playerState : PlayerState)
  /-- `AUDIO_SOURCE_DESELECTED`. -/
  | sourceDeselected (audioSource : A)
  /-- `AUDIO_PATH_HALF_CHANGED`, or else `AUDIO_PATH_CHANGED`. -/
  | audioPathChanged (isHalf : Bool) (audioSource : Option A) (playerId : String)
  deriving DecidableEq, Repr

namespace Sources

variable {A : Type} [DecidableEq A] (views : A → Option SourceView)

/-- `reject_proxies_`, which is set when the audio source is registered. -/
def rejectProxies (a : A) : Bool :=
  match views a with
  | none => false
  | some view => view.playerCommandsBlocked

/-- An audio source changes. -/
def modify (s : Sources A) (a : A) (f : AudioSource → AudioSource) : Sources A :=
  { s with source := Function.update s.source a (f (s.source a)) }

/-- An assertion of `plug`. -/
def logAssert (s : Sources A) (isTrue : Bool) : Sources A :=
  if isTrue then s else { s with misplugged := true }

/-- `send_simple_playback_command`. -/
def send (s : Sources A) (a : A) (command : Command) (force : Bool) : Sources A :=
  match (s.source a).getPlaybackProxy force with
  | none => s
  | some proxy => { s with commands := s.commands ++ [(command, proxy)] }

/-- `is_active_controller_for_audio_source`. -/
def isActiveControllerFor (s : Sources A) (a : A) : Bool :=
  s.playerData && decide (s.audioSource = some a)

/-! ## Plugging -/

/-- `plug(audio_source, ...)`. -/
def plugAudioSource (s : Sources A) (a : A) (withEnforcedIntentions : Bool)
    (externalPlayerId : Option String) : Sources A :=
  let s := s.logAssert (s.audioSource.isNone && !s.finishedNotification && !s.crawlerHandle &&
    s.permissions.isNone)
  let s := { s with
    audioSource := some a
    withEnforcedIntentions := withEnforcedIntentions
    finishedNotification := true }
  let s :=
    match (s.source a).state with
    | .deselected | .requested =>
        { s.modify a AudioSource.request with requested := s.requested ++ [a] }
    | .selected => s
  match externalPlayerId with
  | none => s
  | some playerId => s.modify a fun src =>
      src.setAudioPlayerDbusProxies (rejectProxies views a) playerId

/-- `plug(player_data)`. -/
def plugData (s : Sources A) : Sources A :=
  { s.logAssert (!s.playerData && !s.crawlerHandle && s.permissions.isNone) with
    playerData := true }

/-- `plug(permissions)`. -/
def plugPermissions (s : Sources A) (permissions : LocalPermissions) : Sources A :=
  { s with crawlerHandle := false, permissions := some permissions }

/-- `plug(get_crawler_handle, permissions)`. -/
def plugCrawler (s : Sources A) (permissions : LocalPermissions) (isActivated : Bool) :
    Sources A :=
  { s.plugPermissions permissions with crawlerHandle := isActivated }

/-- `unplug`. -/
def unplug (s : Sources A) (isCompleteUnplug : Bool) : Sources A :=
  let s := if s.playerData then { s with intention := .nothing } else s
  if isCompleteUnplug then
    { s with
      audioSource := none
      withEnforcedIntentions := false
      finishedNotification := false
      playerData := false
      crawlerHandle := false
      permissions := none }
  else s

/-! ## Requests -/

/-- The operation is run by the crawler. -/
def runFindOp (s : Sources A) (op : FindOp A) (a : A) : Sources A :=
  if s.crawlerHandle then { s with ran := s.ran ++ [(op, a)] }
  else { s with failure := some .crawlerHandle }

/-- `play_request`, once it is permitted, with `a` plugged. -/
def playFrom (s : Sources A) (a : A) (findOp : Option (FindOp A)) (playerState : PlayerState) :
    Sources A :=
  match (s.source a).state with
  | .deselected => s
  | .requested => { s with intention := .listening, audioSourceSelectedFindOp := findOp }
  | .selected =>
      let s := { s with intention := .listening }
      match findOp with
      | some op => s.runFindOp op a
      | none =>
          match playerState with
          | .buffering | .playing => s
          | .stopped | .paused => s.send a .play false

/-- `play_request`. -/
def playRequest (s : Sources A) (findOp : Option (FindOp A)) (playerState : PlayerState) :
    Sources A :=
  if ((s.permissions.map (·.canPlay)).getD true) = false ∨ s.playerData = false then s
  else
    match s.audioSource with
    | none => s
    | some a => s.playFrom a findOp playerState

/-- `stop_request` and `pause_request`, once they are permitted. -/
def requestByIntention (s : Sources A) (intention : UserIntention) (command : Command) :
    Sources A :=
  match s.audioSource with
  | none => s
  | some a =>
      let withIntention := if s.playerData then { s with intention := intention } else s
      match (s.source a).state with
      | .deselected => s
      | .requested => withIntention
      | .selected => withIntention.send a command false

/-- `stop_request`. -/
def stopRequest (s : Sources A) : Sources A := s.requestByIntention .stopping .stop

/-- `pause_request`. -/
def pauseRequest (s : Sources A) : Sources A :=
  if ((s.permissions.map (·.canPause)).getD true) = false then s
  else s.requestByIntention .pausing .pause

/-- `enforce_intention`. -/
def enforceIntention (s : Sources A) (knownPlayerState : PlayerState) : Sources A :=
  match s.audioSource with
  | none => s
  | some a =>
      if (s.source a).state ≠ .selected then s
      else
        match (if s.withEnforcedIntentions then s.intention else .nothing) with
        | .nothing => s
        | .stopping =>
            match knownPlayerState with
            | .stopped => s
            | .buffering | .playing | .paused => s.send a .stop false
        | .pausing | .skippingPaused =>
            match knownPlayerState with
            | .paused => s
            | .stopped | .buffering | .playing => s.send a .pause false
        | .listening | .skippingLive =>
            match knownPlayerState with
            | .stopped | .paused => s.send a .play false
            | .buffering | .playing => s

/-! ## Notifications -/

/-- `NOTIFY_NOW_PLAYING`, with `play_notification`. -/
def nowPlaying (s : Sources A) (switchedStream : Bool) : Sources A :=
  let s := if switchedStream then { s with intention := .listening } else s
  if s.playerData then s.enforceIntention .playing else s

/-- `pause_notification`. -/
def pauseNotification (s : Sources A) : Sources A :=
  if s.playerData && s.audioSource.isSome then s.enforceIntention .paused else s

/-- `do_deselect_audio_source`. -/
def doDeselectAudioSource (s : Sources A) (a : A) (sendStop : Bool) : Sources A :=
  let s := { s with
    canceled := s.canceled ++ s.audioSourceSelectedFindOp.toList
    audioSourceSelectedFindOp := none }
  let s := if sendStop then s.send a .stop true else s
  s.modify a fun _ => AudioSource.deselectedNotification

/-- `source_selected_notification`. -/
def sourceSelectedNotification (s : Sources A) (a : A) (isOnHold : Bool)
    (playerState : PlayerState) : Bool × Sources A :=
  match s.audioSource with
  | none => (false, s)
  | some plugged =>
      if a = plugged then
        let s := s.modify a fun src =>
          src.selectedNotification.setProxies (rejectProxies views a) true (some .streamplayer)
        if isOnHold = true ∨ s.playerData = false then (true, s)
        else
          match s.intention with
          | .nothing | .skippingPaused | .skippingLive => (true, s)
          | .listening =>
              (true, { s with audioSourceSelectedFindOp := none }.playRequest
                s.audioSourceSelectedFindOp playerState)
          | .stopping => (true, s.stopRequest)
          | .pausing => (true, s.pauseRequest)
      else (false, s.doDeselectAudioSource plugged true)

/-- `source_deselected_notification`. -/
def sourceDeselectedNotification (s : Sources A) (a : Option A) : Bool × Sources A :=
  match s.audioSource with
  | none => (false, s)
  | some plugged =>
      match a with
      | none => (true, s.doDeselectAudioSource plugged false)
      | some a =>
          if a = plugged then (true, s.doDeselectAudioSource plugged true) else (false, s)

/-! ## The play view -/

/-- `prepare_for_playing`, where the player is not controlled for the audio source yet. -/
def takeControl (s : Sources A) (a : A) : Sources A :=
  ((s.stopRequest.unplug true).plugAudioSource views a true none).plugData

/-- `prepare_for_playing`. -/
def prepareForPlaying (s : Sources A) (a : A) (permissions : LocalPermissions)
    (isActivated : Bool) (playerState : PlayerState) : Sources A :=
  let s' := if s.isActiveControllerFor a then s else s.takeControl views a
  { s'.plugCrawler permissions isActivated with nextOp := s.nextOp + 1 }.playRequest
    (some ⟨a, s.nextOp⟩) playerState

/-- `AUDIO_SOURCE_SELECTED`, where the audio source is not plugged. -/
def plugSelected (s : Sources A) (a : A) (isOnHold : Bool) (playerState : PlayerState) :
    Sources A :=
  match views a with
  | none => s
  | some _ =>
      let s := ((s.modify a AudioSource.selectNow).plugAudioSource views a true none).plugData
      (s.sourceSelectedNotification views a isOnHold playerState).2

/-- `AUDIO_SOURCE_SELECTED`. -/
def sourceSelected (s : Sources A) (a : A) (isOnHold : Bool) (playerState : PlayerState) :
    Sources A :=
  if s.audioSource.isSome then
    match s.sourceSelectedNotification views a isOnHold playerState with
    | (true, s) => s
    | (false, s) => (s.unplug true).plugSelected views a isOnHold playerState
  else s.plugSelected views a isOnHold playerState

/-- `AUDIO_SOURCE_DESELECTED`. -/
def sourceDeselected (s : Sources A) (a : A) : Sources A :=
  match s.sourceDeselectedNotification (some a) with
  | (true, s) => s
  | (false, s) =>
      match views a with
      | none => s
      | some _ => s.modify a fun _ => AudioSource.deselectedNotification

/-- `handle_audio_path_changed`, where the player is not controlled for the audio source. -/
def changeAudioPath (s : Sources A) (a : Option A) (playerId : String) : Sources A :=
  let s := (s.sourceDeselectedNotification none).2.unplug true
  match a with
  | none => s
  | some a =>
      match views a with
      | none => s
      | some view =>
          match view.external with
          | none => s
          | some permissions =>
              let s := s.modify a AudioSource.selectNow
              let s := s.plugAudioSource views a (!view.noEnforcedUserIntentions) (some playerId)
              s.plugData.plugPermissions permissions

/-- `handle_audio_path_changed`. -/
def audioPathChanged (s : Sources A) (isHalf : Bool) (a : Option A) (playerId : String) :
    Sources A :=
  match a with
  | none => s.changeAudioPath views none playerId
  | some a =>
      if s.isActiveControllerFor a then
        match (views a).bind (·.external) with
        | none => s
        | some _ => if isHalf then { s with failure := some .beforeViewActivation } else s
      else s.changeAudioPath views (some a) playerId

/-- What comes of an event. -/
def handle (s : Sources A) : Event A → Sources A
  | .prepareForPlaying a permissions isActivated playerState =>
      s.prepareForPlaying views a permissions isActivated playerState
  | .stopPlaying a => if s.isActiveControllerFor a then s.unplug false else s
  | .playerFinished => s.unplug false
  | .commandStart playerState =>
      match playerState with
      | .buffering | .playing => s.pauseRequest
      | .stopped | .paused => s.playRequest none playerState
  | .commandStop => s.stopRequest
  | .commandPause => s.pauseRequest
  | .nowPlaying switchedStream => s.nowPlaying switchedStream
  | .streamPaused => s.pauseNotification
  | .setIntention intention => if s.playerData then { s with intention := intention } else s
  | .sourceSelected a isOnHold playerState => s.sourceSelected views a isOnHold playerState
  | .sourceDeselected a => s.sourceDeselected views a
  | .audioPathChanged isHalf a playerId => s.audioPathChanged views isHalf a playerId

/-- One event, unless the program has come to its end. -/
def step (s : Sources A) (e : Event A) : Option (Sources A) :=
  if s.failure = none then some (s.handle views e) else none

end Sources

end Drcpd.Player.AudioSources

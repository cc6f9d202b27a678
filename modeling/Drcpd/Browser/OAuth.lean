/-
  Browser/OAuth.lean --- logging in to a service from the Airable browser
  (`view_filebrowser_airable.hh`, `view_filebrowser_airable.cc`, `context_map.cc`).

  An OAuth request that is active is shown as a message with a code and a URL.  Navigation
  commands, and a timer, end it and reload the root list to see if the login has succeeded.
  The callback of the timer is one step together with `Timer::expired`.

  Where the browser is (`Place`), and whether its list may be accessed, is up to other
  functions.  `DBUS_LISTS_CONTEXT_GET` is a parameter.  Of the documents, it is modelled what
  kind they are of, and what is written for a login.
-/
import Drcpd.Timeout.Timer
import Drcpd.Ui.PlayXml

set_option autoImplicit false

namespace Drcpd.Browser

open Drcpd.Timeout (Timer)
open Drcpd.Ui (ViewId)

/-! ## List contexts -/

/-- `List::ContextInfo`, without permissions. -/
structure ContextInfo where
  stringId : String
  description : String
  flags : UInt32 := 0
  deriving DecidableEq, Repr

/-- `ContextMap::default_context_`. -/
def defaultContext : ContextInfo :=
  { stringId := "#INVALID#", description := "Invalid list context", flags := 0x80000000 }

/-- `ContextMap::INVALID_ID`. -/
def invalidContextId : UInt32 := 0xffffffff

/-- `ContextMap`. -/
abbrev ContextMap : Type := List ContextInfo

/-- `get_context_info_by_string_id`, the ID. -/
def ContextMap.getContextId (contexts : ContextMap) (id : String) : UInt32 :=
  match contexts.findIdx? (·.stringId == id) with
  | some i => UInt32.ofNat i
  | none => invalidContextId

/-- `ContextMap::operator[]`. -/
def ContextMap.info (contexts : ContextMap) (i : UInt32) : ContextInfo :=
  contexts.getD i.toNat defaultContext

/-! ## The request -/

/-- The callback functions passed to the timer; both of them do the same. -/
inductive ReloadCallback where
  | forOAuth
  | inBogusContext
  deriving DecidableEq, Repr

/-- `OAuthRequest`. -/
structure OAuthRequest where
  contextId : UInt32 := invalidContextId
  /-- `have_list_position_`, `list_id_` and `item_id_`. -/
  position : Option (UInt32 × UInt32) := none
  url : String := ""
  code : String := ""
  sentUiMessage : Bool := false
  seenAuthError : Bool := false
  reloadTimer : Timer ReloadCallback := {}
  deriving DecidableEq, Repr

namespace OAuthRequest

/-- `RETRY_SECONDS`, in milliseconds. -/
def retryTimeout : Int := 20000

/-- `is_active`. -/
def isActive (r : OAuthRequest) : Bool := r.contextId != invalidContextId

/-- `is_active` for a context. -/
def isActiveFor (r : OAuthRequest) (contextId : UInt32) : Bool := r.contextId == contextId

/-- `get_url`. -/
def getUrl (r : OAuthRequest) : String := if r.isActive then r.url else ""

/-- `get_code`. -/
def getCode (r : OAuthRequest) : String := if r.isActive then r.code else ""

/-- `activate`, with a position in a list or without one. -/
def activate (r : OAuthRequest) (contextId : UInt32) (position : Option (UInt32 × UInt32))
    (url code : String) (doReload : ReloadCallback) : OAuthRequest :=
  if r.isActive then r
  else
    { contextId, position, url, code
      sentUiMessage := false
      seenAuthError := false
      reloadTimer := (r.reloadTimer.start retryTimeout doReload).2 }

/-- `done`. -/
def done (r : OAuthRequest) : Bool × OAuthRequest :=
  if r.isActive then
    (true,
      { r with
        reloadTimer := r.reloadTimer.stop, contextId := invalidContextId, url := "", code := "" })
  else (false, r)

/-- `cancel`. -/
def cancel (r : OAuthRequest) : Bool × OAuthRequest :=
  if r.isActive then r.done else (false, r)

/-- `sent_oauth_message`. -/
def sentOAuthMessage (r : OAuthRequest) : OAuthRequest := { r with sentUiMessage := true }

/-- `seen_expected_authentication_error`. -/
def seenExpectedAuthenticationError (r : OAuthRequest) : Bool × OAuthRequest :=
  if r.isActive then (true, { r with seenAuthError := true }) else (false, r)

end OAuthRequest

/-! ## The view -/

/-- `UI::ViewEventID`. -/
inductive ViewEventId where
  | nop
  | playbackCommandStart
  | playbackCommandStop
  | playbackCommandPause
  | playbackPrevious
  | playbackNext
  | playbackFastWindSetSpeed
  | playbackSeekStreamPos
  | playbackModeRepeatToggle
  | playbackModeShuffleToggle
  | navSelectItem
  | navScrollLines
  | navScrollPages
  | navGoBackOneLevel
  | searchCommence
  | searchStoreParameters
  | storeStreamMetaData
  | notifyAirableServiceLoginStatusUpdate
  | notifyAirableServiceOauthRequest
  | notifyNowPlaying
  | notifyStreamStopped
  | notifyStreamPaused
  | notifyStreamUnpaused
  | notifyStreamPosition
  | notifyStreamDroppedEarly
  | notifySpeedChanged
  | notifyPlaybackModeChanged
  | audioSourceSelected
  | audioSourceDeselected
  | audioPathHalfChanged
  | audioPathChanged
  | strboUrlResolved
  | setDisplayContent
  | playbackTryResume
  deriving DecidableEq, Repr

namespace ViewEventId

/-- `patch_event_id_for_deezer`. -/
def patchForDeezer : ViewEventId → ViewEventId
  | playbackCommandStart | navSelectItem | navScrollLines | navScrollPages | searchCommence
  | searchStoreParameters | playbackTryResume | strboUrlResolved | setDisplayContent => nop
  | event => event

/-- The events for which an active request is ended. -/
def reloads : ViewEventId → Bool
  | navSelectItem | navGoBackOneLevel | navScrollLines | navScrollPages => true
  | _ => false

end ViewEventId

/-- `ScreenID::Error`. -/
inductive ScreenError where
  | invalid
  | oauthRequest
  | enterListPermissionDenied
  | enterListMediaIo
  | enterListNetIo
  | enterListProtocol
  | enterListAuthentication
  | enterContextAuthentication
  | systemErrorNetwork
  deriving DecidableEq, Repr

/-- `ListAccessPermission`. -/
inductive ListAccessPermission where
  | allowed
  | deniedLoading
  | deniedBlocked
  | deniedNoListId
  deriving DecidableEq, Repr

/-- The flags returned by `about_to_write_xml`. -/
structure WriteFlags where
  isLoading : Bool := false
  isUnavailable : Bool := false
  isEmptyRoot : Bool := false
  asMsgError : Bool := false
  isWaiting : Bool := false
  isLocked : Bool := false
  deriving DecidableEq, Repr

namespace WriteFlags

/-- `WRITE_FLAG_GROUP__AS_MSG_NO_GET_ITEM_HINT_NEEDED`. -/
def asMsgNoGetItemHintNeeded (bits : WriteFlags) : Bool :=
  bits.isLoading || bits.isUnavailable || bits.isWaiting || bits.isLocked

/-- `WRITE_FLAG_GROUP__AS_MSG_ANY`. -/
def asMsgAny (bits : WriteFlags) : Bool := bits.asMsgNoGetItemHintNeeded || bits.isEmptyRoot

/-- `get_dynamic_ids`. -/
def viewId (bits : WriteFlags) : ViewId :=
  if bits.asMsgError then .error else if bits.asMsgAny then .message else .browse

theorem viewId_eq_error_iff (bits : WriteFlags) :
    bits.viewId = .error ↔ bits.asMsgError = true := by
  unfold viewId
  split
  case isTrue h => exact iff_of_true rfl h
  case isFalse h =>
    refine iff_of_false ?_ h
    split <;> decide

end WriteFlags

/-- What `write_xml` writes. -/
inductive Body where
  /-- `<context>`, `line0` and `line1` of a login. -/
  | login (context code url : String)
  /-- `line0` is a description of the context, `line1` is for the flags. -/
  | status (context description : String) (bits : WriteFlags)
  /-- What `ViewFileBrowser::View::write_xml` writes. -/
  | list (bits : WriteFlags)
  deriving DecidableEq, Repr

/-- A document. -/
structure Document where
  viewId : ViewId
  body : Body
  deriving DecidableEq, Repr

/-- Where the browser is: `have_audio_source`, the context it is restricted to, and its list. -/
structure Place where
  haveAudioSource : Bool := true
  restrictedContext : UInt32 := invalidContextId
  currentListId : UInt32 := 0
  deriving DecidableEq, Repr

section Place

variable (contextGet : UInt32 → UInt32) (contexts : ContextMap)

/-- `determine_ctx_id`. -/
def Place.contextId (place : Place) : UInt32 :=
  let result := if place.haveAudioSource then place.restrictedContext else invalidContextId
  if result = invalidContextId ∧ place.currentListId ≠ 0 then contextGet place.currentListId
  else result

/-- `is_deezer`. -/
def isDeezer (contextId : UInt32) : Bool :=
  contexts.getContextId "deezer" != invalidContextId && contexts.getContextId "deezer" == contextId

/-- The event that `process_event` looks at. -/
def Place.patched (place : Place) (event : ViewEventId) : ViewEventId :=
  if isDeezer contexts (place.contextId contextGet) then event.patchForDeezer else event

/-- `ViewFileBrowser::View::about_to_write_xml`. -/
def writeFlags (access : ListAccessPermission) (isEmptyRoot : Bool) : WriteFlags :=
  { isLoading := access == .deniedLoading
    isWaiting := access == .deniedBlocked
    isUnavailable := access == .deniedNoListId
    isEmptyRoot := isEmptyRoot }

end Place

/-- What an event may lead to: an event passed on to `ViewFileBrowser::View`, a document, or
the answer of `is_error_allowed`. -/
structure Output where
  passedOn : Option ViewEventId := none
  document : Option Document := none
  isErrorAllowed : Option Bool := none
  deriving DecidableEq, Repr

/-- `AirableView`, as far as logins go; `reloads` counts the calls of `point_to_root_directory`
that are made because of a login. -/
structure AirableView where
  place : Place := {}
  oauthRequest : OAuthRequest := {}
  reloads : Nat := 0
  deriving DecidableEq, Repr

/-- What happens to the view. -/
inductive AirableEvent where
  /-- An event that does not come from Airable. -/
  | processEvent (event : ViewEventId)
  | processOAuthRequest (serviceId contextHint : String) (listId itemId : UInt32)
    (loginUrl loginCode : String)
  | isErrorAllowed (error : ScreenError)
  | defocus
  /-- `write_whole_xml`. -/
  | writeXml (access : ListAccessPermission) (isEmptyRoot : Bool)
  /-- The main loop dispatches an event source of the timer. -/
  | expired (id : Nat)
  /-- The browser goes somewhere else. -/
  | placeChanged (place : Place)
  deriving DecidableEq, Repr

namespace AirableView

variable (contextGet : UInt32 → UInt32) (contexts : ContextMap)

/-- `done` and `point_to_root_directory`. -/
def reload (v : AirableView) : AirableView :=
  { v with oauthRequest := v.oauthRequest.done.2, reloads := v.reloads + 1 }

/-- `process_event`. -/
def processEvent (v : AirableView) (event : ViewEventId) : AirableView × Output :=
  let event := v.place.patched contextGet contexts event
  if event.reloads && v.oauthRequest.isActiveFor (v.place.contextId contextGet) then
    (v.reload, {})
  else (v, { passedOn := some event })

/-- `process_oauth_request`. -/
def processOAuthRequest (v : AirableView) (serviceId contextHint : String)
    (listId itemId : UInt32) (loginUrl loginCode : String) : AirableView :=
  let contextId := contexts.getContextId serviceId
  { v with
    oauthRequest :=
      if contextHint = "" ∨ contextHint = "root" then
        v.oauthRequest.activate contextId (some (listId, itemId)) loginUrl loginCode .forOAuth
      else v.oauthRequest.activate contextId none loginUrl loginCode .inBogusContext }

/-- `is_error_allowed`. -/
def isErrorAllowed (v : AirableView) : ScreenError → Bool × AirableView
  | .oauthRequest | .systemErrorNetwork => (false, v)
  | .enterListAuthentication | .enterContextAuthentication =>
      let seen := v.oauthRequest.seenExpectedAuthenticationError
      (!seen.1, { v with oauthRequest := seen.2 })
  | .invalid | .enterListPermissionDenied | .enterListMediaIo | .enterListNetIo
  | .enterListProtocol => (true, v)

/-- `about_to_write_xml`. -/
def aboutToWriteXml (v : AirableView) (access : ListAccessPermission) (isEmptyRoot : Bool) :
    WriteFlags :=
  let contextId := v.place.contextId contextGet
  { writeFlags access isEmptyRoot with
    isLocked := isDeezer contexts contextId
    asMsgError := v.oauthRequest.isActiveFor contextId }

/-- `write_xml`. -/
def writeXml (v : AirableView) (bits : WriteFlags) : Body × AirableView :=
  if bits.asMsgNoGetItemHintNeeded then
    let contextId := v.place.contextId contextGet
    let ctx := contexts.info contextId
    if v.oauthRequest.isActiveFor contextId then
      (.login ctx.stringId v.oauthRequest.getCode v.oauthRequest.getUrl,
        { v with oauthRequest := v.oauthRequest.sentOAuthMessage })
    else (.status ctx.stringId ctx.description bits, v)
  else (.list bits, v)

/-- `write_whole_xml`. -/
def writeWholeXml (v : AirableView) (access : ListAccessPermission) (isEmptyRoot : Bool) :
    Document × AirableView :=
  let bits := v.aboutToWriteXml contextGet contexts access isEmptyRoot
  let written := v.writeXml contextGet contexts bits
  (⟨bits.viewId, written.1⟩, written.2)

/-- `Timer::expired`, with the callback function that has been passed to the timer. -/
def expired (v : AirableView) (id : Nat) : AirableView :=
  let timer := v.oauthRequest.reloadTimer.expired id
  let v := { v with oauthRequest.reloadTimer := timer }
  if timer.firing = some id then
    let v := v.reload
    { v with oauthRequest.reloadTimer := v.oauthRequest.reloadTimer.returned id 0 }
  else v

/-- One event. -/
def step (v : AirableView) : AirableEvent → Option (AirableView × Output)
  | .processEvent event =>
      if event = .notifyAirableServiceLoginStatusUpdate ∨
          event = .notifyAirableServiceOauthRequest then none
      else some (v.processEvent contextGet contexts event)
  | .processOAuthRequest serviceId contextHint listId itemId loginUrl loginCode =>
      some (v.processOAuthRequest contexts serviceId contextHint listId itemId loginUrl loginCode,
        {})
  | .isErrorAllowed error =>
      let allowed := v.isErrorAllowed error
      some (allowed.2, { isErrorAllowed := some allowed.1 })
  | .defocus => some ({ v with oauthRequest := v.oauthRequest.cancel.2 }, {})
  | .writeXml access isEmptyRoot =>
      let written := v.writeWholeXml contextGet contexts access isEmptyRoot
      some (written.2, { document := some written.1 })
  | .expired id =>
      if id ∈ v.oauthRequest.reloadTimer.attached then some (v.expired id, {}) else none
  | .placeChanged place => some ({ v with place := place }, {})

end AirableView

end Drcpd.Browser

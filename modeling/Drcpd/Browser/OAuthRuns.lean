/-
  Browser/OAuthRuns.lean --- what a login from the Airable browser is for.

  `LoginView` says it without timers and special values: there is a login in progress, or
  there is none.  The view behaves like it until a request comes in for a service it does not
  know, or until it takes the missing context of a place for the missing context of a request.
-/
import Drcpd.Browser.OAuth
import Drcpd.Foundation.Total

set_option autoImplicit false

namespace Drcpd.Browser

open Drcpd.Foundation
open Drcpd.Timeout (Timer)

/-! ## Logins -/

/-- A login in progress. -/
structure Login where
  contextId : UInt32
  url : String
  code : String
  deriving DecidableEq, Repr

/-- What the user gets to know about logins. -/
structure LoginView where
  place : Place := {}
  login : Option Login := none
  reloads : Nat := 0
  deriving DecidableEq, Repr

section Login

variable (contextGet : UInt32 → UInt32) (contexts : ContextMap)

namespace LoginView

/-- The login in progress, if it belongs to the place. -/
def shown (v : LoginView) : Option Login :=
  v.login.filter (·.contextId == v.place.contextId contextGet)

/-- The login ends, and the root list is loaded again. -/
def reload (v : LoginView) : LoginView := { v with login := none, reloads := v.reloads + 1 }

/-- A login begins, unless there is one already. -/
def logIn (v : LoginView) (contextId : UInt32) (url code : String) : LoginView :=
  if v.login = none ∧ contextId ≠ invalidContextId then
    { v with login := some ⟨contextId, url, code⟩ }
  else v

/-- The flags, where a login is an error. -/
def flags (v : LoginView) (access : ListAccessPermission) (isEmptyRoot : Bool) : WriteFlags :=
  { writeFlags access isEmptyRoot with
    isLocked := isDeezer contexts (v.place.contextId contextGet)
    asMsgError := (v.shown contextGet).isSome }

/-- A login is shown instead of what the list is waiting for. -/
def body (v : LoginView) (bits : WriteFlags) : Body :=
  let ctx := contexts.info (v.place.contextId contextGet)
  if bits.asMsgNoGetItemHintNeeded then
    match v.shown contextGet with
    | some login => .login ctx.stringId login.code login.url
    | none => .status ctx.stringId ctx.description bits
  else .list bits

/-- The document. -/
def document (v : LoginView) (access : ListAccessPermission) (isEmptyRoot : Bool) : Document :=
  let bits := v.flags contextGet contexts access isEmptyRoot
  ⟨bits.viewId, v.body contextGet contexts bits⟩

/-- One event. -/
def step (v : LoginView) : AirableEvent → LoginView × Output
  | .processEvent event =>
      let event := v.place.patched contextGet contexts event
      if event.reloads && (v.shown contextGet).isSome then (v.reload, {})
      else (v, { passedOn := some event })
  | .processOAuthRequest serviceId _ _ _ loginUrl loginCode =>
      (v.logIn (contexts.getContextId serviceId) loginUrl loginCode, {})
  | .isErrorAllowed error =>
      let isAllowed :=
        match error with
        | .oauthRequest | .systemErrorNetwork => false
        | .enterListAuthentication | .enterContextAuthentication => v.login.isNone
        | .invalid | .enterListPermissionDenied | .enterListMediaIo | .enterListNetIo
        | .enterListProtocol => true
      (v, { isErrorAllowed := some isAllowed })
  | .defocus => ({ v with login := none }, {})
  | .writeXml access isEmptyRoot =>
      (v, { document := some (v.document contextGet contexts access isEmptyRoot) })
  | .expired _ => (v.reload, {})
  | .placeChanged place => ({ v with place := place }, {})

end LoginView

end Login

/-! ## The request -/

namespace OAuthRequest

variable {r : OAuthRequest} {contextId : UInt32}

/-- The login that an active request stands for. -/
def login (r : OAuthRequest) : Option Login :=
  if r.isActive then some ⟨r.contextId, r.url, r.code⟩ else none

/-- The timer is running as long as the request is active, and it knows its event source. -/
structure Sound (r : OAuthRequest) : Prop where
  known : r.reloadTimer.Known
  firing : r.reloadTimer.firing = none
  running : r.reloadTimer.timeoutEventSourceId.isSome = r.isActive

theorem sound_start : Sound {} where
  known := Timer.known_init
  firing := rfl
  running := rfl

theorem login_of_active (h : r.isActive = true) :
    r.login = some ⟨r.contextId, r.url, r.code⟩ := if_pos h

theorem login_of_inactive (h : r.isActive = false) : r.login = none :=
  if_neg (Bool.eq_false_iff.mp h)

theorem contextId_of_inactive (h : r.isActive = false) : r.contextId = invalidContextId := by
  unfold isActive at h
  exact bne_eq_false_iff_eq.mp h

/-- A request belongs to a context, unless both of them are missing. -/
theorem isActiveFor_eq (h : r.isActive = false → contextId ≠ invalidContextId) :
    r.isActiveFor contextId = (r.login.filter (·.contextId == contextId)).isSome := by
  unfold isActiveFor
  cases hactive : r.isActive with
  | true =>
    rw [login_of_active hactive]
    cases hsame : r.contextId == contextId <;> simp [hsame]
  | false =>
    rw [login_of_inactive hactive, contextId_of_inactive hactive]
    exact beq_eq_false_iff_ne.mpr (h hactive).symm

theorem isActive_activate (hcontext : contextId ≠ invalidContextId)
    (position : Option (UInt32 × UInt32)) (url code : String) (doReload : ReloadCallback) :
    (r.activate contextId position url code doReload).isActive = true := by
  unfold activate
  split
  · assumption
  · exact bne_iff_ne.mpr hcontext

/-- A request for a context that is known. -/
theorem Sound.activate (h : r.Sound) (hcontext : r.isActive = false → contextId ≠ invalidContextId)
    (position : Option (UInt32 × UInt32)) (url code : String) (doReload : ReloadCallback) :
    (r.activate contextId position url code doReload).Sound ∧
      (r.activate contextId position url code doReload).login =
        if r.login = none then some ⟨contextId, url, code⟩ else r.login := by
  cases hactive : r.isActive with
  | true =>
    have hsame : r.activate contextId position url code doReload = r := if_pos hactive
    rw [hsame, login_of_active hactive]
    exact ⟨h, rfl⟩
  | false =>
    have hnew := isActive_activate (r := r) (hcontext hactive) position url code doReload
    have hstopped : r.reloadTimer.timeoutEventSourceId = none := by
      have hrunning := h.running
      rw [hactive] at hrunning
      exact Option.isNone_iff_eq_none.mp (Option.isSome_eq_false_iff.mp hrunning)
    have hstart := Timer.start_of_none hstopped retryTimeout doReload
    rw [login_of_active hnew, login_of_inactive hactive, if_pos rfl]
    refine ⟨⟨?_, ?_, ?_⟩, ?_⟩
    · unfold OAuthRequest.activate
      rw [if_neg (Bool.eq_false_iff.mp hactive)]
      exact h.known.start retryTimeout doReload
    · unfold OAuthRequest.activate
      rw [if_neg (Bool.eq_false_iff.mp hactive)]
      dsimp only
      rw [hstart]
      exact h.firing
    · rw [hnew]
      unfold OAuthRequest.activate
      rw [if_neg (Bool.eq_false_iff.mp hactive)]
      dsimp only
      rw [hstart]
      rfl
    · unfold OAuthRequest.activate
      rw [if_neg (Bool.eq_false_iff.mp hactive)]

/-- A request that is done leaves no login, and no timer. -/
theorem Sound.done (h : r.Sound) :
    r.done.2.Sound ∧ r.done.2.login = none ∧ r.done.2.reloadTimer = r.reloadTimer.stop := by
  unfold OAuthRequest.done
  split
  case isTrue hactive =>
    refine ⟨⟨h.known.stop, ?_, ?_⟩, rfl, rfl⟩
    · dsimp only
      unfold Timer.stop
      split
      · exact h.firing
      · exact h.firing
    · have hstopped : r.reloadTimer.stop.timeoutEventSourceId = none := by
        unfold Timer.stop
        split
        · assumption
        · rfl
      dsimp only
      rw [hstopped]
      rfl
  case isFalse hactive =>
    have hinactive := Bool.eq_false_iff.mpr hactive
    refine ⟨h, login_of_inactive hinactive, ?_⟩
    have hrunning := h.running
    rw [hinactive] at hrunning
    have hstopped := Option.isNone_iff_eq_none.mp (Option.isSome_eq_false_iff.mp hrunning)
    unfold Timer.stop
    rw [hstopped]

theorem Sound.cancel (h : r.Sound) : r.cancel.2.Sound ∧ r.cancel.2.login = none := by
  unfold OAuthRequest.cancel
  split
  case isTrue => exact ⟨h.done.1, h.done.2.1⟩
  case isFalse hactive => exact ⟨h, login_of_inactive (Bool.eq_false_iff.mpr hactive)⟩

end OAuthRequest

/-! ## The view -/

namespace AirableView

variable {contextGet : UInt32 → UInt32} {contexts : ContextMap} {v v' : AirableView}
  {o : Output}

/-- What the user gets to know. -/
def abstract (v : AirableView) : LoginView := ⟨v.place, v.oauthRequest.login, v.reloads⟩

/-- The view takes the missing context of a request for something else: a request for a service
that it does not know is taken, or its own missing context is taken for that of a request. -/
def Confuses (contextGet : UInt32 → UInt32) (contexts : ContextMap) (v : AirableView) :
    AirableEvent → Prop
  | .processOAuthRequest serviceId _ _ _ _ _ =>
      v.oauthRequest.isActive = false ∧ contexts.getContextId serviceId = invalidContextId
  | .processEvent event =>
      v.oauthRequest.isActive = false ∧ v.place.contextId contextGet = invalidContextId ∧
        event.reloads = true
  | .writeXml _ _ =>
      v.oauthRequest.isActive = false ∧ v.place.contextId contextGet = invalidContextId
  | .isErrorAllowed _ | .defocus | .expired _ | .placeChanged _ => False

/-- A place without a context is not one of Deezer's. -/
theorem isDeezer_invalid (contexts : ContextMap) : isDeezer contexts invalidContextId = false := by
  unfold isDeezer
  cases h : contexts.getContextId "deezer" != invalidContextId with
  | false => rfl
  | true => exact beq_eq_false_iff_ne.mpr (bne_iff_ne.mp h)

theorem shown_isSome (h : v.oauthRequest.isActive = false →
    v.place.contextId contextGet ≠ invalidContextId) :
    v.oauthRequest.isActiveFor (v.place.contextId contextGet) =
      (v.abstract.shown contextGet).isSome :=
  OAuthRequest.isActiveFor_eq h

/-- Reloading ends the login. -/
theorem reload_eq (h : v.oauthRequest.Sound) :
    v.reload.oauthRequest.Sound ∧ v.reload.abstract = v.abstract.reload := by
  obtain ⟨hsound, hlogin, -⟩ := h.done
  refine ⟨hsound, ?_⟩
  unfold abstract reload LoginView.reload
  dsimp only
  rw [hlogin]

theorem processEvent_eq (h : v.oauthRequest.Sound) {event : ViewEventId}
    (hknown : ¬v.Confuses contextGet contexts (.processEvent event)) :
    (v.processEvent contextGet contexts event).1.oauthRequest.Sound ∧
      v.abstract.step contextGet contexts (.processEvent event) =
        ((v.processEvent contextGet contexts event).1.abstract,
          (v.processEvent contextGet contexts event).2) := by
  have hiff : ((v.place.patched contextGet contexts event).reloads &&
      v.oauthRequest.isActiveFor (v.place.contextId contextGet)) =
      ((v.place.patched contextGet contexts event).reloads &&
        (v.abstract.shown contextGet).isSome) := by
    cases hreloads : (v.place.patched contextGet contexts event).reloads with
    | false => rfl
    | true =>
      rw [shown_isSome fun hactive hplace => hknown ⟨hactive, hplace, ?_⟩]
      unfold Place.patched at hreloads
      rwa [hplace, isDeezer_invalid, if_neg Bool.false_ne_true] at hreloads
  unfold AirableView.processEvent LoginView.step
  dsimp only
  rw [hiff]
  change _ ∧ (if ((v.place.patched contextGet contexts event).reloads &&
    (v.abstract.shown contextGet).isSome) = true then _ else _) = _
  split
  · obtain ⟨hsound, hreload⟩ := reload_eq h
    exact ⟨hsound, by rw [hreload]⟩
  · exact ⟨h, rfl⟩

theorem processOAuthRequest_eq (h : v.oauthRequest.Sound) {serviceId contextHint : String}
    {listId itemId : UInt32} {loginUrl loginCode : String}
    (hknown : ¬v.Confuses contextGet contexts
      (.processOAuthRequest serviceId contextHint listId itemId loginUrl loginCode)) :
    (v.processOAuthRequest contexts serviceId contextHint listId itemId loginUrl
        loginCode).oauthRequest.Sound ∧
      v.abstract.logIn (contexts.getContextId serviceId) loginUrl loginCode =
        (v.processOAuthRequest contexts serviceId contextHint listId itemId loginUrl
          loginCode).abstract := by
  have hcontext : v.oauthRequest.isActive = false →
      contexts.getContextId serviceId ≠ invalidContextId :=
    fun hactive hinvalid => hknown ⟨hactive, hinvalid⟩
  have hlogIn : v.abstract.logIn (contexts.getContextId serviceId) loginUrl loginCode =
      { v.abstract with
        login := if v.oauthRequest.login = none then
          some ⟨contexts.getContextId serviceId, loginUrl, loginCode⟩
          else v.oauthRequest.login } := by
    unfold LoginView.logIn
    cases hactive : v.oauthRequest.isActive with
    | true =>
      have hsome : v.oauthRequest.login ≠ none := by
        rw [OAuthRequest.login_of_active hactive]
        exact Option.some_ne_none _
      rw [if_neg (fun hnone => hsome hnone.1), if_neg hsome]
      rfl
    | false =>
      have hnone : v.oauthRequest.login = none := OAuthRequest.login_of_inactive hactive
      rw [if_pos ⟨hnone, hcontext hactive⟩, if_pos hnone]
  rw [hlogIn]
  unfold AirableView.processOAuthRequest
  dsimp only
  split
  · obtain ⟨hsound, hlogin⟩ := h.activate hcontext (some (listId, itemId)) loginUrl loginCode
      .forOAuth
    exact ⟨hsound, by rw [← hlogin]; rfl⟩
  · obtain ⟨hsound, hlogin⟩ := h.activate hcontext none loginUrl loginCode .inBogusContext
    exact ⟨hsound, by rw [← hlogin]; rfl⟩

theorem isErrorAllowed_eq (h : v.oauthRequest.Sound) (error : ScreenError) :
    (v.isErrorAllowed error).2.oauthRequest.Sound ∧
      v.abstract.step contextGet contexts (.isErrorAllowed error) =
        ((v.isErrorAllowed error).2.abstract,
          { isErrorAllowed := some (v.isErrorAllowed error).1 }) := by
  have hseen : v.oauthRequest.seenExpectedAuthenticationError.2.Sound ∧
      v.oauthRequest.seenExpectedAuthenticationError.2.login = v.oauthRequest.login ∧
      (!v.oauthRequest.seenExpectedAuthenticationError.1) = v.oauthRequest.login.isNone := by
    unfold OAuthRequest.seenExpectedAuthenticationError
    cases hactive : v.oauthRequest.isActive with
    | true =>
      rw [if_pos rfl, OAuthRequest.login_of_active hactive]
      exact ⟨⟨h.known, h.firing, h.running⟩, OAuthRequest.login_of_active hactive, rfl⟩
    | false =>
      rw [if_neg Bool.false_ne_true, OAuthRequest.login_of_inactive hactive]
      exact ⟨h, rfl, rfl⟩
  obtain ⟨hsound, hlogin, hnone⟩ := hseen
  have hexpected : v.abstract = ({ v with
      oauthRequest := v.oauthRequest.seenExpectedAuthenticationError.2 } :
      AirableView).abstract := by
    unfold abstract
    rw [hlogin]
  cases error with
  | enterListAuthentication =>
    refine ⟨hsound, Prod.ext hexpected ?_⟩
    change ({ isErrorAllowed := some v.oauthRequest.login.isNone } : Output) = _
    rw [← hnone]
    rfl
  | enterContextAuthentication =>
    refine ⟨hsound, Prod.ext hexpected ?_⟩
    change ({ isErrorAllowed := some v.oauthRequest.login.isNone } : Output) = _
    rw [← hnone]
    rfl
  | oauthRequest => exact ⟨h, rfl⟩
  | systemErrorNetwork => exact ⟨h, rfl⟩
  | invalid => exact ⟨h, rfl⟩
  | enterListPermissionDenied => exact ⟨h, rfl⟩
  | enterListMediaIo => exact ⟨h, rfl⟩
  | enterListNetIo => exact ⟨h, rfl⟩
  | enterListProtocol => exact ⟨h, rfl⟩

variable (contexts) in
theorem writeXml_eq (h : v.oauthRequest.Sound) (bits : WriteFlags)
    (hplace : v.oauthRequest.isActive = false →
      v.place.contextId contextGet ≠ invalidContextId) :
    (v.writeXml contextGet contexts bits).2.oauthRequest.Sound ∧
      (v.writeXml contextGet contexts bits).2.abstract = v.abstract ∧
      (v.writeXml contextGet contexts bits).1 = v.abstract.body contextGet contexts bits := by
  have hshown := shown_isSome hplace
  unfold AirableView.writeXml LoginView.body
  dsimp only
  cases hgroup : bits.asMsgNoGetItemHintNeeded with
  | false => exact ⟨h, rfl, rfl⟩
  | true =>
    cases hfor : v.oauthRequest.isActiveFor (v.place.contextId contextGet) with
    | false =>
      have hnone : v.abstract.shown contextGet = none := by
        rw [hfor] at hshown
        exact Option.isNone_iff_eq_none.mp (Option.isSome_eq_false_iff.mp hshown.symm)
      rw [hnone]
      exact ⟨h, rfl, rfl⟩
    | true =>
      have hactive : v.oauthRequest.isActive = true := by
        by_contra hinactive
        rw [Bool.not_eq_true] at hinactive
        have hcontext := OAuthRequest.contextId_of_inactive hinactive
        exact hplace hinactive ((beq_iff_eq.mp hfor).symm.trans hcontext)
      have hsome : v.abstract.shown contextGet =
          some ⟨v.oauthRequest.contextId, v.oauthRequest.url, v.oauthRequest.code⟩ := by
        unfold LoginView.shown
        change v.oauthRequest.login.filter _ = _
        rw [OAuthRequest.login_of_active hactive]
        exact Option.filter_some_pos hfor
      have hcode : v.oauthRequest.getCode = v.oauthRequest.code := if_pos hactive
      have hurl : v.oauthRequest.getUrl = v.oauthRequest.url := if_pos hactive
      rw [hsome, hcode, hurl]
      exact ⟨⟨h.known, h.firing, h.running⟩, rfl, rfl⟩

theorem writeWholeXml_eq (h : v.oauthRequest.Sound) {access : ListAccessPermission}
    {isEmptyRoot : Bool} (hknown : ¬v.Confuses contextGet contexts (.writeXml access isEmptyRoot)) :
    (v.writeWholeXml contextGet contexts access isEmptyRoot).2.oauthRequest.Sound ∧
      (v.writeWholeXml contextGet contexts access isEmptyRoot).2.abstract = v.abstract ∧
      (v.writeWholeXml contextGet contexts access isEmptyRoot).1 =
        v.abstract.document contextGet contexts access isEmptyRoot := by
  have hplace : v.oauthRequest.isActive = false →
      v.place.contextId contextGet ≠ invalidContextId :=
    fun hactive hinvalid => hknown ⟨hactive, hinvalid⟩
  have hbits : v.aboutToWriteXml contextGet contexts access isEmptyRoot =
      v.abstract.flags contextGet contexts access isEmptyRoot := by
    unfold aboutToWriteXml LoginView.flags
    rw [← shown_isSome hplace]
    rfl
  obtain ⟨hsound, habstract, hbody⟩ := writeXml_eq contexts h
    (v.abstract.flags contextGet contexts access isEmptyRoot) hplace
  unfold writeWholeXml LoginView.document
  rw [hbits]
  exact ⟨hsound, habstract, congrArg _ hbody⟩

/-- The timer is dispatched only while it is running, and it stops. -/
theorem expired_eq (h : v.oauthRequest.Sound) {id : Nat}
    (hmem : id ∈ v.oauthRequest.reloadTimer.attached) :
    (v.expired id).oauthRequest.Sound ∧ (v.expired id).abstract = v.abstract.reload := by
  obtain ⟨hid, hexpired, hknown⟩ := h.known.expired hmem
  have hactive : v.oauthRequest.isActive = true := by
    rw [← h.running, hid]
    rfl
  have hdone : ∀ r : OAuthRequest, r.isActive = true → r.done.2 =
      { r with
        reloadTimer := r.reloadTimer.stop, contextId := invalidContextId, url := "",
        code := "" } := by
    intro r hr
    unfold OAuthRequest.done
    rw [if_pos hr]
  have hstop : ∀ firing, ({ v.oauthRequest.reloadTimer with firing := firing } :
      Timer ReloadCallback).stop =
      { v.oauthRequest.reloadTimer with
        firing := firing
        attached := v.oauthRequest.reloadTimer.attached.erase id
        timeoutEventSourceId := none } := by
    intro firing
    unfold Timer.stop
    rw [hid]
  have hstopped := h.known.stop
  rw [show v.oauthRequest.reloadTimer.stop = _ from hstop v.oauthRequest.reloadTimer.firing]
    at hstopped
  have hreturned : ({ v.oauthRequest.reloadTimer with
      firing := some id } : Timer ReloadCallback).stop.returned id 0 = _ :=
    Timer.returned_of_eq (Or.inr rfl)
  unfold AirableView.expired
  dsimp only
  rw [hexpired, if_pos rfl]
  unfold AirableView.reload
  dsimp only
  rw [hdone { v.oauthRequest with reloadTimer := { v.oauthRequest.reloadTimer with
    firing := some id } } hactive]
  dsimp only
  rw [hreturned, hstop]
  refine ⟨⟨⟨hstopped.knows, hstopped.callback, hstopped.numbered, nofun⟩, rfl, rfl⟩, rfl⟩

/-- The step lemma. -/
theorem step_eq (h : v.oauthRequest.Sound) {e : AirableEvent}
    (hknown : ¬v.Confuses contextGet contexts e)
    (hstep : v.step contextGet contexts e = some (v', o)) :
    v'.oauthRequest.Sound ∧ v.abstract.step contextGet contexts e = (v'.abstract, o) := by
  cases e with
  | processEvent event =>
    obtain ⟨-, hstep⟩ := Option.ite_none_left_eq_some.mp hstep
    obtain ⟨rfl, rfl⟩ := Prod.mk.inj (Option.some.inj hstep)
    exact processEvent_eq h hknown
  | processOAuthRequest serviceId contextHint listId itemId loginUrl loginCode =>
    obtain ⟨rfl, rfl⟩ := Prod.mk.inj (Option.some.inj hstep)
    obtain ⟨hsound, hlogIn⟩ := processOAuthRequest_eq h hknown
    exact ⟨hsound, congrArg (·, _) hlogIn⟩
  | isErrorAllowed error =>
    obtain ⟨rfl, rfl⟩ := Prod.mk.inj (Option.some.inj hstep)
    exact isErrorAllowed_eq h error
  | defocus =>
    obtain ⟨rfl, rfl⟩ := Prod.mk.inj (Option.some.inj hstep)
    obtain ⟨hsound, hlogin⟩ := h.cancel
    refine ⟨hsound, Prod.ext ?_ rfl⟩
    unfold abstract
    rw [hlogin]
    rfl
  | writeXml access isEmptyRoot =>
    obtain ⟨rfl, rfl⟩ := Prod.mk.inj (Option.some.inj hstep)
    obtain ⟨hsound, habstract, hdocument⟩ := writeWholeXml_eq h hknown
    refine ⟨hsound, Prod.ext habstract.symm ?_⟩
    rw [hdocument]
    rfl
  | expired id =>
    obtain ⟨hmem, hstep⟩ := Option.ite_none_right_eq_some.mp hstep
    obtain ⟨rfl, rfl⟩ := Prod.mk.inj (Option.some.inj hstep)
    obtain ⟨hsound, habstract⟩ := expired_eq h hmem
    exact ⟨hsound, congrArg (·, _) habstract.symm⟩
  | placeChanged place =>
    obtain ⟨rfl, rfl⟩ := Prod.mk.inj (Option.some.inj hstep)
    exact ⟨h, rfl⟩

/-! ## Requests for services that are not known -/

/-- The timer is running without a request that could be done. -/
structure Trapped (v : AirableView) (id : Nat) : Prop where
  inactive : v.oauthRequest.isActive = false
  known : v.oauthRequest.reloadTimer.Known
  firing : v.oauthRequest.reloadTimer.firing = none
  running : v.oauthRequest.reloadTimer.timeoutEventSourceId = some id

/-- A request for a service that is not known starts the timer. -/
theorem trapped_of_unknown (h : v.oauthRequest.Sound) (hactive : v.oauthRequest.isActive = false)
    {serviceId : String} (hunknown : contexts.getContextId serviceId = invalidContextId)
    (contextHint : String) (listId itemId : UInt32) (loginUrl loginCode : String) :
    ∃ id, (v.processOAuthRequest contexts serviceId contextHint listId itemId loginUrl
      loginCode).Trapped id := by
  have hrunning := h.running
  rw [hactive] at hrunning
  have hstopped := Option.isNone_iff_eq_none.mp (Option.isSome_eq_false_iff.mp hrunning)
  have hactivate : ∀ position doReload, ({ v with
      oauthRequest := v.oauthRequest.activate invalidContextId position loginUrl loginCode
        doReload } : AirableView).Trapped v.oauthRequest.reloadTimer.nextSource := by
    intro position doReload
    have hstart := Timer.start_of_none hstopped OAuthRequest.retryTimeout doReload
    have hknown := h.known.start OAuthRequest.retryTimeout doReload
    have hfiring := h.firing
    unfold OAuthRequest.activate
    rw [if_neg (Bool.eq_false_iff.mp hactive)]
    refine ⟨bne_self_eq_false _, hknown, ?_, ?_⟩
    · dsimp only
      rwa [hstart]
    · dsimp only
      rw [hstart]
  unfold processOAuthRequest
  rw [hunknown]
  dsimp only
  split
  · exact ⟨_, hactivate _ _⟩
  · exact ⟨_, hactivate _ _⟩

theorem Trapped.done {id : Nat} (h : v.Trapped id) :
    v.oauthRequest.done = (false, v.oauthRequest) :=
  if_neg (Bool.eq_false_iff.mp h.inactive)

/-- What the event adds to the reloads, at least. -/
def firings : AirableEvent → Nat
  | .expired _ => 1
  | .processEvent _ | .processOAuthRequest _ _ _ _ _ _ | .isErrorAllowed _ | .defocus
  | .writeXml _ _ | .placeChanged _ => 0

/-- The event is not a request for a service that is known. -/
def IsUnknown (contexts : ContextMap) : AirableEvent → Prop
  | .processOAuthRequest serviceId _ _ _ _ _ => contexts.getContextId serviceId = invalidContextId
  | .processEvent _ | .isErrorAllowed _ | .defocus | .writeXml _ _ | .expired _
  | .placeChanged _ => True

/-- When the timer fires, it is done for nothing, and the timer goes on. -/
theorem Trapped.expired {id : Nat} (h : v.Trapped id) :
    v.expired id = { v with reloads := v.reloads + 1 } := by
  have hattached : id ∈ v.oauthRequest.reloadTimer.attached := by
    rw [h.known.knows, h.running]
    exact List.mem_cons_self
  obtain ⟨-, hexpired, -⟩ := h.known.expired hattached
  have hdone : ∀ timer : Timer ReloadCallback,
      ({ v.oauthRequest with reloadTimer := timer } : OAuthRequest).done.2 =
        { v.oauthRequest with reloadTimer := timer } := by
    intro timer
    unfold OAuthRequest.done
    exact congrArg Prod.snd (if_neg (Bool.eq_false_iff.mp h.inactive))
  have hreturned : ({ v.oauthRequest.reloadTimer with
      firing := some id } : Timer ReloadCallback).returned id 0 = _ :=
    Timer.returned_of_eq (Or.inr rfl)
  unfold AirableView.expired
  dsimp only
  rw [hexpired, if_pos rfl]
  unfold reload
  dsimp only
  rw [hdone]
  dsimp only
  rw [hreturned, ← h.firing]

/-- Nothing but a request for a service that is known ends it. -/
theorem Trapped.step {id : Nat} (h : v.Trapped id) {e : AirableEvent}
    (hunknown : IsUnknown contexts e) (hstep : v.step contextGet contexts e = some (v', o)) :
    v'.Trapped id ∧ v.reloads + firings e ≤ v'.reloads := by
  cases e with
  | processEvent event =>
    obtain ⟨-, hstep⟩ := Option.ite_none_left_eq_some.mp hstep
    obtain rfl : (v.processEvent contextGet contexts event).1 = v' :=
      congrArg Prod.fst (Option.some.inj hstep)
    unfold AirableView.processEvent
    dsimp only
    split
    · unfold reload
      rw [h.done]
      exact ⟨⟨h.inactive, h.known, h.firing, h.running⟩, Nat.le_succ _⟩
    · exact ⟨h, Nat.le_refl _⟩
  | processOAuthRequest serviceId contextHint listId itemId loginUrl loginCode =>
    obtain ⟨rfl, -⟩ := Prod.mk.inj (Option.some.inj hstep)
    have hactivate : ∀ position doReload, ({ v with
        oauthRequest := v.oauthRequest.activate invalidContextId position loginUrl loginCode
          doReload } : AirableView).Trapped id := by
      intro position doReload
      have hstart := Timer.start_of_isSome (t := v.oauthRequest.reloadTimer)
        (by rw [h.running]; rfl) OAuthRequest.retryTimeout doReload
      unfold OAuthRequest.activate
      rw [if_neg (Bool.eq_false_iff.mp h.inactive), hstart]
      exact ⟨bne_self_eq_false _, h.known, h.firing, h.running⟩
    unfold AirableView.processOAuthRequest
    rw [show contexts.getContextId serviceId = invalidContextId from hunknown]
    refine ⟨?_, Nat.le_refl _⟩
    dsimp only
    split
    · exact hactivate _ _
    · exact hactivate _ _
  | isErrorAllowed error =>
    obtain ⟨rfl, -⟩ := Prod.mk.inj (Option.some.inj hstep)
    have hseen : v.oauthRequest.seenExpectedAuthenticationError = (false, v.oauthRequest) :=
      if_neg (Bool.eq_false_iff.mp h.inactive)
    have hexpected : ({ v with
        oauthRequest := v.oauthRequest.seenExpectedAuthenticationError.2 } : AirableView) = v := by
      rw [hseen]
    have hsame : (v.isErrorAllowed error).2 = v := by
      cases error with
      | enterListAuthentication | enterContextAuthentication => exact hexpected
      | oauthRequest | systemErrorNetwork => rfl
      | invalid | enterListPermissionDenied | enterListMediaIo | enterListNetIo
      | enterListProtocol => rfl
    rw [hsame]
    exact ⟨h, Nat.le_refl _⟩
  | defocus =>
    obtain ⟨rfl, -⟩ := Prod.mk.inj (Option.some.inj hstep)
    have hcancel : v.oauthRequest.cancel = (false, v.oauthRequest) :=
      if_neg (Bool.eq_false_iff.mp h.inactive)
    rw [hcancel]
    exact ⟨h, Nat.le_refl _⟩
  | writeXml access isEmptyRoot =>
    obtain ⟨rfl, -⟩ := Prod.mk.inj (Option.some.inj hstep)
    unfold writeWholeXml AirableView.writeXml
    dsimp only
    split
    · split
      · exact ⟨⟨h.inactive, h.known, h.firing, h.running⟩, Nat.le_refl _⟩
      · exact ⟨h, Nat.le_refl _⟩
    · exact ⟨h, Nat.le_refl _⟩
  | expired id' =>
    obtain ⟨hmem, hstep⟩ := Option.ite_none_right_eq_some.mp hstep
    obtain ⟨rfl, -⟩ := Prod.mk.inj (Option.some.inj hstep)
    rw [h.known.knows, h.running] at hmem
    obtain rfl := List.mem_singleton.mp hmem
    rw [h.expired]
    exact ⟨⟨h.inactive, h.known, h.firing, h.running⟩, Nat.le_refl _⟩
  | placeChanged place =>
    obtain ⟨rfl, -⟩ := Prod.mk.inj (Option.some.inj hstep)
    exact ⟨⟨h.inactive, h.known, h.firing, h.running⟩, Nat.le_refl _⟩

/-! ## Runs -/

section Runs

variable (contextGet : UInt32 → UInt32) (contexts : ContextMap)

/-- One event, without what it leads to. -/
def next (v : AirableView) (e : AirableEvent) : Option AirableView :=
  (v.step contextGet contexts e).map Prod.fst

/-- The view next to what the user gets to know. -/
def both (p : AirableView × LoginView) (e : AirableEvent) : Option (AirableView × LoginView) :=
  (p.1.step contextGet contexts e).map fun done => (done.1, (p.2.step contextGet contexts e).1)

/-- The event does to the logins what it is expected to do, with the same outcome, and the
timer is running if there is a login in progress afterwards, and only then. -/
def Follows (p : AirableView × LoginView) (e : AirableEvent) : Prop :=
  ∀ v' o, p.1.step contextGet contexts e = some (v', o) →
    p.2.step contextGet contexts e = (v'.abstract, o) ∧
      (v'.oauthRequest.reloadTimer.attached ≠ [] ↔ v'.abstract.login ≠ none)

/-- The view agrees with what the user knows. -/
def Agrees (p : AirableView × LoginView) : Prop :=
  p.1.oauthRequest.Sound ∧ p.1.abstract = p.2

end Runs

theorem attached_iff (h : v.oauthRequest.Sound) :
    v.oauthRequest.reloadTimer.attached ≠ [] ↔ v.abstract.login ≠ none := by
  change _ ↔ v.oauthRequest.login ≠ none
  have hrunning := h.running
  rw [h.known.knows]
  cases hid : v.oauthRequest.reloadTimer.timeoutEventSourceId with
  | none =>
    rw [hid] at hrunning
    rw [OAuthRequest.login_of_inactive hrunning.symm]
    exact iff_of_false (fun hne => hne rfl) (fun hne => hne rfl)
  | some id =>
    rw [hid] at hrunning
    rw [OAuthRequest.login_of_active hrunning.symm]
    exact iff_of_true (List.cons_ne_nil _ _) (Option.some_ne_none _)

/-- A view that confuses two contexts does not follow. -/
theorem not_follows {p : AirableView × LoginView} (h : Agrees p) {e : AirableEvent}
    (hconfuses : p.1.Confuses contextGet contexts e) : ¬Follows contextGet contexts p e := by
  obtain ⟨v, w⟩ := p
  obtain ⟨hsound, hw⟩ := h
  obtain rfl : v.abstract = w := hw
  intro hfollows
  cases e with
  | processOAuthRequest serviceId contextHint listId itemId loginUrl loginCode =>
    obtain ⟨hactive, hunknown⟩ := hconfuses
    obtain ⟨id, htrapped⟩ := trapped_of_unknown hsound hactive hunknown contextHint listId itemId
      loginUrl loginCode
    have hlogin := ((hfollows _ _ rfl).2).mp (by
      rw [htrapped.known.knows, htrapped.running]
      exact List.cons_ne_nil _ _)
    exact hlogin (OAuthRequest.login_of_inactive htrapped.inactive)
  | processEvent event =>
    obtain ⟨hactive, hplace, hreloads⟩ := hconfuses
    have hpatched : v.place.patched contextGet contexts event = event := by
      unfold Place.patched
      rw [hplace, isDeezer_invalid, if_neg Bool.false_ne_true]
    have hcontext := OAuthRequest.contextId_of_inactive hactive
    have hstep : v.step contextGet contexts (.processEvent event) = some (v.reload, {}) := by
      unfold AirableView.step AirableView.processEvent OAuthRequest.isActiveFor
      dsimp only
      rw [hpatched, hplace, hcontext, hreloads, if_neg, if_pos (by decide)]
      rintro (rfl | rfl) <;> exact Bool.false_ne_true hreloads
    have hsame := congrArg (·.1.reloads) (hfollows _ _ hstep).1
    have hshown : v.abstract.shown contextGet = none := by
      unfold LoginView.shown
      change v.oauthRequest.login.filter _ = none
      rw [OAuthRequest.login_of_inactive hactive]
      rfl
    have habstract : v.abstract.step contextGet contexts (.processEvent event) =
        (v.abstract, { passedOn := some event }) := by
      unfold LoginView.step
      dsimp only
      rw [show v.abstract.place.patched contextGet contexts event = event from hpatched, hshown,
        hreloads]
      rfl
    rw [habstract] at hsame
    exact Nat.ne_of_lt (Nat.lt_succ_self v.reloads) hsame
  | writeXml access isEmptyRoot =>
    obtain ⟨hactive, hplace⟩ := hconfuses
    have hcontext := OAuthRequest.contextId_of_inactive hactive
    have hsame := congrArg (fun done => done.2.document.map (·.viewId)) (hfollows _ _ rfl).1
    have hshown : v.abstract.shown contextGet = none := by
      unfold LoginView.shown
      change v.oauthRequest.login.filter _ = none
      rw [OAuthRequest.login_of_inactive hactive]
      rfl
    have herror : (v.aboutToWriteXml contextGet contexts access isEmptyRoot).viewId = .error := by
      refine (WriteFlags.viewId_eq_error_iff _).mpr (beq_iff_eq.mpr ?_)
      exact hcontext.trans hplace.symm
    have hother : (v.abstract.flags contextGet contexts access isEmptyRoot).viewId ≠ .error := by
      intro heq
      have hsome : (v.abstract.shown contextGet).isSome = true :=
        (WriteFlags.viewId_eq_error_iff _).mp heq
      rw [hshown] at hsome
      exact Bool.false_ne_true hsome
    exact hother ((Option.some.inj hsame).trans herror)
  | isErrorAllowed error => exact hconfuses
  | defocus => exact hconfuses
  | expired id => exact hconfuses
  | placeChanged place => exact hconfuses

/-- In every run, the view does what is expected of logins if, and as long as, it confuses no
missing contexts. -/
theorem logins_followed_iff (contextGet : UInt32 → UInt32) (contexts : ContextMap)
    (events : List AirableEvent) :
    AlongRun (both contextGet contexts) (Follows contextGet contexts) ({}, {}) events ↔
      AlongRun (both contextGet contexts) (fun p e => ¬p.1.Confuses contextGet contexts e)
        ({}, {}) events := by
  refine alongRun_iff (I := Agrees) ?_ ?_ events ⟨OAuthRequest.sound_start, rfl⟩
  · rintro ⟨v, w⟩ e p' ⟨hsound, hw⟩ hknown hstep
    obtain rfl : v.abstract = w := hw
    obtain ⟨⟨v', o⟩, hv', rfl⟩ := Option.map_eq_some_iff.mp hstep
    obtain ⟨hsound', hw'⟩ := step_eq hsound hknown hv'
    exact ⟨hsound', (congrArg Prod.fst hw').symm⟩
  · rintro ⟨v, w⟩ e ⟨hsound, hw⟩
    obtain rfl : v.abstract = w := hw
    constructor
    · exact fun hfollows hconfuses => not_follows ⟨hsound, rfl⟩ hconfuses hfollows
    · intro hknown v' o hstep
      obtain ⟨hsound', hw'⟩ := step_eq hsound hknown hstep
      exact ⟨hw', attached_iff hsound'⟩

theorem Trapped.run {id : Nat} {later : List AirableEvent} {t : AirableView} (h : v.Trapped id)
    (hunknown : ∀ e ∈ later, IsUnknown contexts e)
    (hrun : runFrom (next contextGet contexts) v later = some t) :
    t.Trapped id ∧ v.reloads + total firings later ≤ t.reloads := by
  induction later generalizing v with
  | nil =>
    rw [runFrom_nil, Option.some.injEq] at hrun
    exact hrun ▸ ⟨h, Nat.le_refl _⟩
  | cons e later ih =>
    obtain ⟨v', hstep, hrest⟩ := runFrom_cons_eq_some.mp hrun
    obtain ⟨⟨v'', o⟩, hv', rfl⟩ := Option.map_eq_some_iff.mp hstep
    obtain ⟨htrapped, hle⟩ := h.step (hunknown e List.mem_cons_self) hv'
    obtain ⟨htrapped', hle'⟩ := ih htrapped
      (fun e' hmem => hunknown e' (List.mem_cons_of_mem e hmem)) hrest
    refine ⟨htrapped', ?_⟩
    rw [total_cons, ← Nat.add_assoc]
    exact (Nat.add_le_add_right hle _).trans hle'

/-- A request for a service that is not known has the root list loaded again and again: in each
further run without a request for a service that is known, the timer goes on, and whenever it
fires, the root list is loaded. -/
theorem unknown_service_reloads {events later : List AirableEvent} {t : AirableView}
    (hrun : runFrom (next contextGet contexts) {} events = some v)
    (hknown : AlongRun (next contextGet contexts) (fun v e => ¬v.Confuses contextGet contexts e)
      {} events)
    (hactive : v.oauthRequest.isActive = false) {serviceId : String}
    (hunknown : contexts.getContextId serviceId = invalidContextId) {contextHint : String}
    {listId itemId : UInt32} {loginUrl loginCode : String}
    (hlater : ∀ e ∈ later, IsUnknown contexts e)
    (hrun' : runFrom (next contextGet contexts) v
      (.processOAuthRequest serviceId contextHint listId itemId loginUrl loginCode :: later) =
        some t) :
    t.oauthRequest.isActive = false ∧ v.reloads + total firings later ≤ t.reloads ∧
      ∃ id, t.oauthRequest.reloadTimer.attached = [id] ∧
        t.next contextGet contexts (.expired id) = some { t with reloads := t.reloads + 1 } := by
  have hsound : v.oauthRequest.Sound := by
    refine invariant_of_alongRun (I := fun v => v.oauthRequest.Sound) ?_ events
      OAuthRequest.sound_start hknown hrun
    intro v e v' hsound hknown hstep
    obtain ⟨⟨v'', o⟩, hv', rfl⟩ := Option.map_eq_some_iff.mp hstep
    exact (step_eq hsound hknown hv').1
  obtain ⟨v', hstep, hrest⟩ := runFrom_cons_eq_some.mp hrun'
  cases hstep
  obtain ⟨id, htrapped⟩ := trapped_of_unknown hsound hactive hunknown contextHint listId itemId
    loginUrl loginCode
  obtain ⟨htrapped', hle⟩ := htrapped.run hlater hrest
  have hattached : t.oauthRequest.reloadTimer.attached = [id] := by
    rw [htrapped'.known.knows, htrapped'.running]
    rfl
  refine ⟨htrapped'.inactive, hle, id, hattached, ?_⟩
  unfold next AirableView.step
  dsimp only
  rw [if_pos (hattached ▸ List.mem_cons_self), htrapped'.expired]
  rfl

/-- The only context beside the root one. -/
def tidalContexts : ContextMap :=
  [{ stringId := "airable", description := "Airable" },
    { stringId := "tidal", description := "TIDAL" }]

/-- A login is left again. -/
def leftTidal : List AirableEvent :=
  [.placeChanged { currentListId := 5 },
    .processOAuthRequest "tidal" "root" 5 0 "link.tidal.com" "ABCDE",
    .writeXml .deniedLoading false, .defocus]

/-- Another one is asked for by a service that has not been announced. -/
theorem unknown_service_reloads_leftTidal :
    ∃ v t : AirableView,
      runFrom (next (fun _ => 1) tidalContexts) {} leftTidal = some v ∧
      runFrom (next (fun _ => 1) tidalContexts) v
        (.processOAuthRequest "qobuz" "" 5 0 "qobuz.com" "12345" ::
          [.expired 1, .defocus, .expired 1]) = some t ∧
      v.reloads = 0 ∧ t.reloads = 2 ∧ t.oauthRequest.isActive = false ∧
      v.reloads + total firings [.expired 1, .defocus, .expired 1] ≤ t.reloads ∧
      ∃ id, t.oauthRequest.reloadTimer.attached = [id] ∧
        t.next (fun _ => 1) tidalContexts (.expired id) =
          some { t with reloads := t.reloads + 1 } := by
  have hknown : AlongRun (next (fun _ => 1) tidalContexts)
      (fun v e => ¬v.Confuses (fun _ => 1) tidalContexts e) {} leftTidal := by
    refine .cons_of_step id rfl <| .cons_of_step ?_ rfl <| .cons_of_step ?_ rfl <|
      .cons_of_step id rfl trivial
    · exact fun h => absurd h.2 (by decide)
    · exact fun h => absurd h.1 (by decide)
  have hlater : ∀ e ∈ [AirableEvent.expired 1, .defocus, .expired 1],
      IsUnknown tidalContexts e := by
    simp [IsUnknown]
  refine ⟨_, _, rfl, rfl, rfl, rfl, ?_⟩
  exact unknown_service_reloads
    (show runFrom (next (fun _ => 1) tidalContexts) {} leftTidal = some _ from rfl) hknown rfl
    (show tidalContexts.getContextId "qobuz" = _ from rfl) hlater
    (show runFrom (next (fun _ => 1) tidalContexts) _
      (.processOAuthRequest "qobuz" "" 5 0 "qobuz.com" "12345" :: _) = some _ from rfl)

/-- Before the browser has entered a list, a login without a code is shown. -/
example : (({} : AirableView).step (fun _ => 1) tidalContexts (.writeXml .deniedNoListId false)).map
    (·.2.document) = some (some ⟨.error, .login "#INVALID#" "" ""⟩) := rfl

end AirableView

end Drcpd.Browser

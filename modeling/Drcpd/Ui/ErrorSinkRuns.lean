/-
  Ui/ErrorSinkRuns.lean --- no error is lost or shown twice.

  The view asks for its serialization when an error comes in while there is none, and again
  whenever an error has been written and others are left.  As long as nobody else asks for
  the view, this is enough: the errors are shown one by one, in the order in which they
  came in, and while there are any, an entry of the queue waits for them.

  A request of the view is ignored while the view is being serialized for somebody else.
  `errors_waited_for_iff` says when this leaves errors behind, and `errors_left_behind`
  that these are not shown until somebody else asks for the view again.
-/
import Drcpd.Ui.ErrorSink

set_option autoImplicit false

namespace Drcpd.Ui.ErrorSink

open Drcpd.Foundation Drcpd.Dcp

/-- The document that shows an error. -/
def errorDocument (xmlEscape : List Char → List Char) (error : SinkError) : Text :=
  Text.own "<view id=\"error\">" ++
    (if error.code ≠ invalidScreenId then
      Text.element "text" "scrid" (Text.number error.code.toNat)
    else []) ++
    writeError xmlEscape error ++ Text.own "</view>"

/-- The error that comes in with an event. -/
def Event.error {V : Type} : Event V → List SinkError
  | .sinkError error => [error]
  | .beginXml | .writeXml | .serialize _ _ | .views _ => []

/-- Somebody else asks for the view. -/
def Event.isRequest {V : Type} : Event V → Bool
  | .serialize _ _ => true
  | .sinkError _ | .beginXml | .writeXml | .views _ => false

/-- Everything that has been put out. -/
def putOutAll {V : Type} (os : Option String) (documents : List (QueueData V × String)) :
    Option String :=
  documents.foldl (fun os document => putOut os document.2) os

/-- The texts put out for a view. -/
def documentsOf {V : Type} [DecidableEq V] (view : V)
    (documents : List (QueueData V × String)) : List String :=
  (documents.filter fun document => decide (document.1.view = view)).map (·.2)

section Documents

variable {V : Type}

theorem putOutAll_append (os : Option String) (documents documents' : List (QueueData V × String)) :
    putOutAll os (documents ++ documents') = putOutAll (putOutAll os documents) documents' :=
  List.foldl_append

variable [DecidableEq V]

theorem documentsOf_append (view : V) (documents documents' : List (QueueData V × String)) :
    documentsOf view (documents ++ documents') =
      documentsOf view documents ++ documentsOf view documents' := by
  unfold documentsOf
  rw [List.filter_append, List.map_append]

theorem documentsOf_singleton {view : V} {d : QueueData V} (h : d.view = view) (text : String) :
    documentsOf view [(d, text)] = [text] := by
  unfold documentsOf
  rw [List.filter_singleton, decide_eq_true h]
  rfl

theorem documentsOf_singleton_of_ne {view : V} {d : QueueData V} (h : d.view ≠ view)
    (text : String) : documentsOf view [(d, text)] = [] := by
  unfold documentsOf
  rw [List.filter_singleton, decide_eq_false h]
  rfl

end Documents

section Write

variable {V : Type} (gettext xmlEscape : List Char → List Char)

/-- What is written for an error in a full serialization with an unknown busy state. -/
theorem written_eq_errorDocument (onScreenName : List Char) (error : SinkError)
    {d : QueueData V} (hfull : d.isFullSerialize = true) (hbusy : d.busyFlag = none) :
    writeXmlBegin gettext xmlEscape { onScreenName := onScreenName, drcpViewId := .error }
        (.error, error.code) d ++ writeError xmlEscape error ++ writeXmlEnd d false =
      errorDocument xmlEscape error := by
  have hopen : Text.own "<" ++ Text.own "view" ++ Text.own " id=\"" ++ Text.own "error" ++
      Text.own "\">" = Text.own "<view id=\"error\">" := by decide
  unfold writeXmlBegin writeXmlEnd writeGenericTags appendBusyValue viewTag errorDocument
  rw [hfull, hbusy, if_pos rfl, if_pos rfl, if_neg (by exact fun h => h rfl), ← hopen]
  rfl

end Write

namespace State

variable {V : Type} [DecidableEq V] {errorSink : V} {onScreenName : List Char}
  {gettext xmlEscape : List Char → List Char} {s s' : State V}

/-! ## What the functions do -/

/-- The document of an entry is put out. -/
theorem written_true (h : s.views.Steady) {d : QueueData V} (htop : s.views.entryOnTop = some d)
    (text : Text) :
    ∃ views', s.written d text true = some { s with
        views := views'
        begun := none
        documents := s.documents ++ [(d, String.ofList text.chars)] } ∧
      views'.Steady ∧ ¬views'.IsWriting ∧ views'.queue.data = s.views.queue.data ∧
      views'.queue.dcpd.os = putOut s.views.queue.dcpd.os (String.ofList text.chars) ∧
      ∀ view, s.views.Idle view → views'.Idle view := by
  obtain ⟨caller, frames, hframes, -⟩ := SerializeState.entryOnTop_eq_some htop
  obtain ⟨views', hstep, hsteady, hno, hdata, hos, -⟩ :=
    h.step_written hframes (String.ofList text.chars)
  refine ⟨views', ?_, hsteady, hno, hdata, hos, fun view hidle => hidle.step hstep nofun nofun⟩
  unfold written
  dsimp only
  rw [hstep]
  rfl

/-- Nothing is put out. -/
theorem written_false {d : QueueData V} {text : Text} (h : s.views.Steady)
    (hstep : s.written d text false = some s') :
    ∃ views', s' = { s with views := views', begun := none } ∧ views'.Steady ∧
      views'.queue.dcpd.os = s.views.queue.dcpd.os := by
  obtain ⟨done, hviews, rfl⟩ := Option.map_eq_some_iff.mp hstep
  obtain ⟨-, hsteady, hos, -⟩ := h.written_cases hviews
  exact ⟨done.1, rfl, hsteady, hos⟩

/-- A request changes neither the transaction nor the entry that is being written. -/
theorem forced_keeps (h : s.views.Steady) :
    (s.serializeViewForced errorSink).views.Steady ∧
      (s.serializeViewForced errorSink).views.queue.dcpd.os = s.views.queue.dcpd.os ∧
      (s.views.IsWriting → (s.serializeViewForced errorSink).views.IsWriting) := by
  have hkeeps := h.keeps_doSerialize errorSink .forceAsync true none
  exact ⟨hkeeps.steady, hkeeps.os, fun hw =>
    (congrArg Transaction.state (hkeeps.kept hw).1).trans hw⟩

/-- The stack of open calls is left alone by a request for later. -/
theorem forced_entryOnTop (h : s.views.Steady) {d : QueueData V}
    (htop : s.views.entryOnTop = some d) :
    (s.serializeViewForced errorSink).views.entryOnTop = some d := by
  obtain ⟨caller, frames, hframes, hactive⟩ := SerializeState.entryOnTop_eq_some htop
  have hw := (h.isWriting_of_frames hframes).1
  have hkept := ((h.keeps_doSerialize errorSink .forceAsync true none).kept hw).2.1
  have hsame : (s.serializeViewForced errorSink).views.frames = s.views.frames := by
    unfold serializeViewForced
    exact SerializeState.forceAsync_frames s.views errorSink true none
  unfold SerializeState.entryOnTop
  rw [hsame, hframes]
  exact hkept.trans hactive

/-- What `write_xml` and what follows come to. -/
theorem writeXml_cases (h : s.views.Steady) {d : QueueData V} (htop : s.views.entryOnTop = some d)
    {text : Text} (hstep : s.writeXml errorSink xmlEscape d text = some s') :
    (s.errors = [] ∧ ∃ views', s' = { s with views := views', begun := none } ∧
      views'.Steady ∧ views'.queue.dcpd.os = s.views.queue.dcpd.os) ∨
    ∃ error errors queued views', s.errors = error :: errors ∧
      queued = (if errors.isEmpty then s else s.serializeViewForced errorSink).views ∧
      s' = { s with
        views := views'
        errors := errors
        begun := none
        shown := s.shown ++ [error]
        documents := s.documents ++ [(d, String.ofList
          (text ++ writeError xmlEscape error ++ writeXmlEnd d false).chars)] } ∧
      views'.Steady ∧ ¬views'.IsWriting ∧ views'.queue.data = queued.queue.data ∧
      views'.queue.dcpd.os = putOut s.views.queue.dcpd.os (String.ofList
        (text ++ writeError xmlEscape error ++ writeXmlEnd d false).chars) ∧
      ∀ view, queued.Idle view → views'.Idle view := by
  rcases Decidable.em (s.errors = []) with hnil | hne
  · unfold writeXml at hstep
    rw [hnil] at hstep
    exact Or.inl ⟨hnil, written_false h hstep⟩
  · obtain ⟨error, errors, herrors⟩ := List.exists_cons_of_ne_nil hne
    right
    unfold writeXml at hstep
    rw [herrors] at hstep
    dsimp only at hstep
    cases hempty : errors.isEmpty with
    | true =>
      have hdone := @written_true V _ { s with errors := errors, shown := s.shown ++ [error] } h
        d htop (text ++ writeError xmlEscape error ++ writeXmlEnd d false)
      obtain ⟨views', hwritten, hsteady, hno, hdata, hos, hidle⟩ := hdone
      rw [hempty, if_pos rfl, hwritten] at hstep
      exact ⟨error, errors, s.views, views', herrors, by rw [hempty]; rfl,
        (Option.some.inj hstep).symm, hsteady, hno, hdata, hos, hidle⟩
    | false =>
      have hkeeps := @forced_keeps V _ errorSink
        { s with errors := errors, shown := s.shown ++ [error] } h
      have htop' := @forced_entryOnTop V _ errorSink
        { s with errors := errors, shown := s.shown ++ [error] } h d htop
      obtain ⟨views', hwritten, hsteady, hno, hdata, hos, hidle⟩ := written_true hkeeps.1 htop'
        (text ++ writeError xmlEscape error ++ writeXmlEnd d false)
      rw [hempty, if_neg nofun, hwritten] at hstep
      rw [hkeeps.2.1] at hos
      exact ⟨error, errors, (s.serializeViewForced errorSink).views, views', herrors,
        by rw [hempty]; rfl, (Option.some.inj hstep).symm, hsteady, hno, hdata, hos, hidle⟩

/-- An event of other views, or of the queue. -/
theorem other_cases {e : SerializeState.Event V} (h : s.views.Steady)
    (hstep : s.other errorSink e = some s') :
    ∃ views' documents, s' = { s with views := views', documents := s.documents ++ documents } ∧
      views'.Steady ∧ views'.queue.dcpd.os = putOutAll s.views.queue.dcpd.os documents ∧
      views'.waiting errorSink = s.views.waiting errorSink ∧
      documentsOf errorSink documents = [] ∧
      (s.views.Idle errorSink → views'.Idle errorSink) ∧
      ∀ d, s.views.IsWriting → s.views.queue.activeData = some d → d.view = errorSink →
        views'.IsWriting ∧ views'.queue.activeData = some d := by
  unfold other at hstep
  split_ifs at hstep with hown
  obtain ⟨done, hviews, rfl⟩ := Option.map_eq_some_iff.mp hstep
  have hrequest : ∀ mode isFullView isBusy,
      e ≠ .doSerialize errorSink mode isFullView isBusy := by
    rintro mode isFullView isBusy rfl
    exact hown (decide_eq_true rfl)
  have hlog : e ≠ .logBegin errorSink := by
    rintro rfl
    exact hown (decide_eq_true rfl)
  have hidle : s.views.Idle errorSink → done.1.Idle errorSink := fun hidle =>
    hidle.step hviews hrequest hlog
  by_cases hwritten : ∃ text isOk, e = .written text isOk
  · obtain ⟨text, isOk, rfl⟩ := hwritten
    obtain ⟨hw, hsteady, hos, -⟩ := h.written_cases hviews
    obtain ⟨d, htop, hactive⟩ := h.entryOnTop_of_written hviews
    have hother : d.view ≠ errorSink := by
      intro hview
      apply hown
      unfold isOwn
      rw [htop, ← hview]
      exact decide_eq_true rfl
    have hwaiting := h.waiting_step hviews hrequest fun text' isOk' heq => by
      rw [hactive]
      exact fun hview => hother (Option.some.inj hview)
    have hputOut : s.putOutBy (.written text true) = [(d, text)] := by
      unfold putOutBy
      rw [htop]
      rfl
    cases isOk with
    | false =>
      exact ⟨done.1, [], rfl, hsteady, hos, hwaiting, rfl, hidle, fun d' _ hactive' hview =>
        absurd (Option.some.inj (hactive.symm.trans hactive') ▸ hview) hother⟩
    | true =>
      rw [hputOut]
      refine ⟨done.1, [(d, text)], rfl, hsteady, hos, hwaiting, ?_, hidle,
        fun d' _ hactive' hview =>
          absurd (Option.some.inj (hactive.symm.trans hactive') ▸ hview) hother⟩
      exact documentsOf_singleton_of_ne hother text
  · have hno : ∀ text isOk, e ≠ .written text isOk := fun text isOk heq =>
      hwritten ⟨text, isOk, heq⟩
    have hkeeps := h.step_keeps hviews hno
    have hwaiting := h.waiting_step hviews hrequest fun text isOk heq => absurd heq (hno text isOk)
    have hnone : s.putOutBy e = [] := by
      cases e with
      | written text isOk => exact absurd rfl (hno text isOk)
      | addUpdateFlags view flags => rfl
      | doSerialize view mode isFullView isBusy => rfl
      | logBegin view => rfl
      | logEnd => rfl
      | processPendingTransactions => rfl
      | serializationResult result => rfl
    rw [hnone]
    refine ⟨done.1, [], rfl, hkeeps.steady, hkeeps.os, hwaiting, rfl, hidle,
      fun d hw hactive _ => ?_⟩
    obtain ⟨hdcpd, hsame, -⟩ := hkeeps.kept hw
    exact ⟨(congrArg Transaction.state hdcpd).trans hw, hsame.trans hactive⟩

/-! ## Any requests -/

/-- The transaction, and what has been put out, in any run. -/
structure Recorded (errorSink : V) (os : Option String) (s : State V) : Prop where
  steady : s.views.Steady
  os_eq : s.views.queue.dcpd.os = putOutAll os s.documents
  own : ∀ text, s.begun = some text →
    ∃ d, s.views.IsWriting ∧ s.views.queue.activeData = some d ∧ d.view = errorSink

theorem beginXml_cases {d : QueueData V} (htop : s.views.entryOnTop = some d)
    (hbegun : s.begun = none)
    (hstep : s.step errorSink onScreenName gettext xmlEscape .beginXml = some s') :
    d.view = errorSink ∧ s' = s.beginXml onScreenName gettext xmlEscape d := by
  unfold step at hstep
  rw [htop, hbegun] at hstep
  dsimp only at hstep
  split_ifs at hstep with hview
  exact ⟨hview, (Option.some.inj hstep).symm⟩

/-- What begins to be written, and what is written. -/
theorem step_begun (hstep : s.step errorSink onScreenName gettext xmlEscape .beginXml = some s') :
    ∃ d, s.views.entryOnTop = some d ∧ s.begun = none ∧ d.view = errorSink ∧
      s' = s.beginXml onScreenName gettext xmlEscape d := by
  cases htop : s.views.entryOnTop with
  | none => simp [step, htop] at hstep
  | some d =>
    cases hbegun : s.begun with
    | some text => simp [step, htop, hbegun] at hstep
    | none =>
      obtain ⟨hview, heq⟩ := beginXml_cases htop hbegun hstep
      exact ⟨d, rfl, rfl, hview, heq⟩

theorem step_writeXml
    (hstep : s.step errorSink onScreenName gettext xmlEscape .writeXml = some s') :
    ∃ d text, s.views.entryOnTop = some d ∧ s.begun = some text ∧
      s.writeXml errorSink xmlEscape d text = some s' := by
  cases htop : s.views.entryOnTop with
  | none => simp [step, htop] at hstep
  | some d =>
    cases hbegun : s.begun with
    | none => simp [step, htop, hbegun] at hstep
    | some text =>
      unfold step at hstep
      rw [htop, hbegun] at hstep
      exact ⟨d, text, rfl, rfl, hstep⟩

/-- A request, of the view itself or for somebody else. -/
theorem Recorded.request {os : Option String} (h : Recorded errorSink os s) (mode : Mode)
    (isBusy : Option Bool) :
    Recorded errorSink os
      { s with views := (s.views.doSerialize errorSink mode true isBusy).1 } := by
  have hkeeps := h.steady.keeps_doSerialize errorSink mode true isBusy
  refine ⟨hkeeps.steady, hkeeps.os.trans h.os_eq, fun text htext => ?_⟩
  obtain ⟨d, hw, hactive, hview⟩ := h.own text htext
  obtain ⟨hdcpd, hsame, -⟩ := hkeeps.kept hw
  exact ⟨d, (congrArg Transaction.state hdcpd).trans hw, hsame.trans hactive, hview⟩

theorem Recorded.step {os : Option String} (h : Recorded errorSink os s) {e : Event V}
    (hstep : s.step errorSink onScreenName gettext xmlEscape e = some s') :
    Recorded errorSink os s' := by
  cases e with
  | sinkError error =>
    obtain rfl := Option.some.inj hstep
    have hadded : Recorded errorSink os { s with errors := s.errors ++ [error] } :=
      ⟨h.steady, h.os_eq, h.own⟩
    unfold sinkError
    dsimp only
    split_ifs
    · exact hadded.request .forceAsync none
    · exact hadded
  | beginXml =>
    obtain ⟨d, htop, -, hview, rfl⟩ := step_begun hstep
    obtain ⟨caller, frames, hframes, hactive⟩ := SerializeState.entryOnTop_eq_some htop
    have hw := (h.steady.isWriting_of_frames hframes).1
    exact ⟨h.steady, h.os_eq, fun _ _ => ⟨d, hw, hactive, hview⟩⟩
  | writeXml =>
    obtain ⟨d, text, htop, -, hwrite⟩ := step_writeXml hstep
    rcases writeXml_cases h.steady htop hwrite with ⟨-, views', rfl, hsteady, hos⟩ |
      ⟨error, errors, queued, views', -, -, rfl, hsteady, -, -, hos, -⟩
    · exact ⟨hsteady, hos.trans h.os_eq, fun _ hbegun => absurd hbegun nofun⟩
    · refine ⟨hsteady, ?_, fun _ hbegun => absurd hbegun nofun⟩
      rw [putOutAll_append, ← h.os_eq]
      exact hos
  | serialize mode isBusy =>
    obtain rfl := Option.some.inj hstep
    exact h.request mode isBusy
  | views e =>
    obtain ⟨views', documents, rfl, hsteady, hos, -, -, -, hkept⟩ := other_cases h.steady hstep
    refine ⟨hsteady, ?_, fun text htext => ?_⟩
    · rw [putOutAll_append, ← h.os_eq]
      exact hos
    · obtain ⟨d, hw, hactive, hview⟩ := h.own text htext
      exact ⟨d, (hkept d hw hactive hview).1, (hkept d hw hactive hview).2, hview⟩

/-- What has been shown, and what is still to be shown, is what has come in. -/
theorem step_account {e : Event V} (h : s.views.Steady)
    (hstep : s.step errorSink onScreenName gettext xmlEscape e = some s') :
    s'.shown ++ s'.errors = s.shown ++ s.errors ++ e.error := by
  cases e with
  | sinkError error =>
    obtain rfl := Option.some.inj hstep
    unfold sinkError
    dsimp only
    split_ifs <;> exact (List.append_assoc ..).symm
  | beginXml =>
    obtain ⟨d, -, -, -, rfl⟩ := step_begun hstep
    exact (List.append_nil _).symm
  | writeXml =>
    obtain ⟨d, text, htop, -, hwrite⟩ := step_writeXml hstep
    rcases writeXml_cases h htop hwrite with ⟨-, views', rfl, -⟩ |
      ⟨error, errors, queued, views', herrors, -, rfl, -⟩
    · exact (List.append_nil _).symm
    · rw [herrors]
      exact (List.append_assoc ..).trans (List.append_nil _).symm
  | serialize mode isBusy =>
    obtain rfl := Option.some.inj hstep
    exact (List.append_nil _).symm
  | views e =>
    obtain ⟨views', documents, rfl, -⟩ := other_cases h hstep
    exact (List.append_nil _).symm

/-- As long as there are errors, an entry of the queue waits for them. -/
def Waits (errorSink : V) (s : State V) : Prop :=
  s.errors ≠ [] → s.views.waiting errorSink ≠ []

/-- A request of the view itself is ignored while it is being serialized for somebody else,
and there is no other entry. -/
def Loses (errorSink : V) (s : State V) : Event V → Prop
  | .sinkError _ =>
      s.errors = [] ∧ s.views.isSerializing errorSink = true ∧ s.views.waiting errorSink = []
  | .writeXml =>
      2 ≤ s.errors.length ∧ s.views.isSerializing errorSink = true ∧
        s.views.queue.data.filter (fun d => decide (d.view = errorSink)) = []
  | .beginXml | .serialize _ _ | .views _ => False

/-- A request, of the view itself or for somebody else. -/
theorem waiting_of_request (h : s.views.Steady) (mode : Mode) (isBusy : Option Bool) :
    (s.views.doSerialize errorSink mode true isBusy).1.waiting errorSink = [] ↔
      s.views.isSerializing errorSink = true ∧ s.views.waiting errorSink = [] := by
  cases hserializing : s.views.isSerializing errorSink with
  | true =>
    rw [SerializeState.doSerialize_of_isSerializing hserializing]
    exact (and_iff_right rfl).symm
  | false =>
    rw [SerializeState.waiting_doSerialize h hserializing]
    exact iff_of_false (s.views.waiting_enqueue_ne_nil errorSink true isBusy)
      fun hs => Bool.false_ne_true hs.1

/-- The queue after a request of the view itself while it is being written. -/
theorem forced_data (h : s.views.Steady) (hw : s.views.IsWriting)
    (hserializing : s.views.isSerializing errorSink = false) :
    (s.serializeViewForced errorSink).views.queue.data =
      Queue.addToData errorSink true (s.views.updateFlags errorSink) none s.views.queue.data := by
  have hqueued : (s.views.enqueue errorSink true none).Steady :=
    (@SerializeState.Steady.keeps_of_eq V s.views (s.views.enqueue errorSink true none) h rfl
      rfl rfl).steady
  have hdata := (SerializeRun.hands_startTransaction (s.views.enqueue errorSink true none)
    .forceAsync (some errorSink)).data
  have hnone := ((hqueued.keeps_startTransaction .forceAsync (some errorSink)).kept hw).2.2
  rw [hnone] at hdata
  unfold serializeViewForced
  dsimp only
  rw [SerializeState.doSerialize_eq hserializing]
  exact hdata.symm

/-- A request of the view itself while it is being written. -/
theorem data_of_forced (h : s.views.Steady) (hw : s.views.IsWriting) :
    (s.serializeViewForced errorSink).views.queue.data.filter
        (fun d => decide (d.view = errorSink)) = [] ↔
      s.views.isSerializing errorSink = true ∧
        s.views.queue.data.filter (fun d => decide (d.view = errorSink)) = [] := by
  cases hserializing : s.views.isSerializing errorSink with
  | true =>
    unfold serializeViewForced
    rw [SerializeState.doSerialize_of_isSerializing hserializing]
    exact (and_iff_right rfl).symm
  | false =>
    rw [forced_data h hw hserializing]
    exact iff_of_false (SerializeState.filter_addToData_ne_nil errorSink true _ none _)
      fun hs => Bool.false_ne_true hs.1

/-- One step leaves errors behind exactly if it loses a request. -/
theorem step_waits_iff {e : Event V} (h : s.views.Steady) (hwaits : Waits errorSink s)
    (hstep : s.step errorSink onScreenName gettext xmlEscape e = some s') :
    Waits errorSink s' ↔ ¬Loses errorSink s e := by
  cases e with
  | sinkError error =>
    obtain rfl := Option.some.inj hstep
    unfold sinkError Waits Loses
    dsimp only
    cases herrors : s.errors with
    | nil =>
      have hiff : (s.views.doSerialize errorSink .forceAsync true none).1.waiting errorSink =
          [] ↔ _ := waiting_of_request h .forceAsync none
      rw [List.isEmpty_nil, if_pos rfl]
      unfold serializeViewForced
      dsimp only
      simp only [ne_eq, hiff]
      simp
    | cons error' errors =>
      have hwait := hwaits (herrors ▸ List.cons_ne_nil _ _)
      rw [List.isEmpty_cons, if_neg nofun]
      exact iff_of_true (fun _ => hwait) fun hl => List.cons_ne_nil _ _ hl.1
  | beginXml =>
    obtain ⟨d, -, -, -, rfl⟩ := step_begun hstep
    exact iff_of_true hwaits id
  | writeXml =>
    obtain ⟨d, text, htop, -, hwrite⟩ := step_writeXml hstep
    obtain ⟨caller, frames, hframes, -⟩ := SerializeState.entryOnTop_eq_some htop
    have hw := (h.isWriting_of_frames hframes).1
    rcases writeXml_cases h htop hwrite with ⟨herrors, views', rfl, -⟩ |
      ⟨error, errors, queued, views', herrors, hqueued, rfl, -, hno, hdata, -, -⟩
    · unfold Loses
      rw [herrors]
      exact iff_of_true (fun hne => absurd rfl hne) fun hl => absurd hl.1 (by decide)
    · unfold Waits Loses
      dsimp only
      rw [SerializeState.waiting_of_not_isWriting hno, hdata, herrors]
      cases errors with
      | nil => exact iff_of_true (fun hne => absurd rfl hne) fun hl => absurd hl.1 (by simp)
      | cons error' errors =>
        rw [List.isEmpty_cons, if_neg nofun] at hqueued
        have hiff := @data_of_forced V _ errorSink s h hw
        rw [hqueued]
        simp only [ne_eq, hiff]
        simp
  | serialize mode isBusy =>
    obtain rfl := Option.some.inj hstep
    refine iff_of_true (fun hne hnone => ?_) id
    exact hwaits hne ((waiting_of_request h mode isBusy).mp hnone).2
  | views e =>
    obtain ⟨views', documents, rfl, -, -, hwaiting, -⟩ := other_cases h hstep
    refine iff_of_true (fun hne => ?_) id
    exact fun hnone => hwaits hne (hwaiting.symm.trans hnone)

/-! ## Errors that are left behind -/

/-- There are errors, and no entry waits for them; `s₀` is where this was first so. -/
structure Left (errorSink : V) (os : Option String) (s₀ s : State V) : Prop where
  recorded : Recorded errorSink os s
  errors_ne : s.errors ≠ []
  nothing : s.views.waiting errorSink = []
  shown_eq : s.shown = s₀.shown
  documents_eq : documentsOf errorSink s.documents = documentsOf errorSink s₀.documents

/-- The step lemma: nothing of the view is written. -/
theorem Left.step {os : Option String} {s₀ : State V} (h : Left errorSink os s₀ s) {e : Event V}
    (hown : e.isRequest = false)
    (hstep : s.step errorSink onScreenName gettext xmlEscape e = some s') :
    Left errorSink os s₀ s' := by
  have hrecorded := h.recorded.step hstep
  have hnot : ∀ d, s.views.IsWriting → s.views.queue.activeData = some d →
      d.view ≠ errorSink := by
    intro d hw hactive hview
    have hnothing := h.nothing
    rw [SerializeState.waiting_of_isWriting hw hactive,
      SerializeState.filter_cons_of_eq hview] at hnothing
    exact List.cons_ne_nil _ _ hnothing
  cases e with
  | sinkError error =>
    obtain ⟨first, errors, herrors⟩ := List.exists_cons_of_ne_nil h.errors_ne
    obtain rfl := Option.some.inj hstep
    unfold sinkError at hrecorded ⊢
    rw [herrors, List.isEmpty_cons, if_neg nofun] at hrecorded ⊢
    exact ⟨hrecorded, List.cons_ne_nil _ _, h.nothing, h.shown_eq, h.documents_eq⟩
  | beginXml =>
    obtain ⟨d, htop, -, hview, -⟩ := step_begun hstep
    obtain ⟨caller, frames, hframes, hactive⟩ := SerializeState.entryOnTop_eq_some htop
    have hw := (h.recorded.steady.isWriting_of_frames hframes).1
    exact absurd hview (hnot d hw hactive)
  | writeXml =>
    obtain ⟨d, text, -, hbegun, -⟩ := step_writeXml hstep
    obtain ⟨d', hw, hactive, hview⟩ := h.recorded.own text hbegun
    exact absurd hview (hnot d' hw hactive)
  | serialize mode isBusy => exact absurd hown nofun
  | views e =>
    obtain ⟨views', documents, rfl, -, -, hwaiting, hdocuments, -⟩ :=
      other_cases h.recorded.steady hstep
    refine ⟨hrecorded, h.errors_ne, hwaiting.trans h.nothing, h.shown_eq, ?_⟩
    rw [documentsOf_append, hdocuments, List.append_nil]
    exact h.documents_eq

/-! ## Requests of the view only -/

/-- What is known as long as nobody else asks for the view. -/
structure Alone (errorSink : V) (onScreenName : List Char)
    (gettext xmlEscape : List Char → List Char) (s : State V) : Prop where
  steady : s.views.Steady
  idle : s.views.Idle errorSink
  nothing : s.errors = [] → s.views.waiting errorSink = []
  /-- One entry waits for all errors. -/
  one_entry : s.errors ≠ [] →
    ∃ flags, s.views.waiting errorSink = [⟨errorSink, flags, none, true⟩]
  begun : ∀ text, s.begun = some text →
    ∃ error errors d, s.errors = error :: errors ∧ s.views.IsWriting ∧
      s.views.queue.activeData = some d ∧ d.view = errorSink ∧
      text = writeXmlBegin gettext xmlEscape
        { onScreenName := onScreenName, drcpViewId := .error } (.error, error.code) d
  shown : documentsOf errorSink s.documents =
    s.shown.map fun error => String.ofList (errorDocument xmlEscape error).chars

theorem Alone.sinkError (h : Alone errorSink onScreenName gettext xmlEscape s)
    (error : SinkError) :
    Alone errorSink onScreenName gettext xmlEscape (s.sinkError errorSink error) := by
  unfold State.sinkError
  dsimp only
  rcases Decidable.em (s.errors = []) with hnil | hne
  · have hwaiting := h.nothing hnil
    have hentry : (s.views.doSerialize errorSink .forceAsync true none).1.waiting errorSink =
        [⟨errorSink, s.views.updateFlags errorSink, none, true⟩] := by
      rw [SerializeState.waiting_doSerialize h.steady h.idle.1]
      unfold SerializeState.waiting at hwaiting ⊢
      rw [List.filter_append, List.append_eq_nil_iff] at hwaiting
      rw [List.filter_append]
      have hself := SerializeState.filter_addToData_self hwaiting.2 true
        (s.views.updateFlags errorSink) none
      exact (congrArg (_ ++ ·) hself).trans (congrArg (· ++ _) hwaiting.1)
    rw [hnil, List.isEmpty_nil, if_pos rfl]
    exact
      { steady := (h.steady.keeps_doSerialize errorSink .forceAsync true none).steady
        idle := h.idle.doSerialize_forceAsync true none
        nothing := fun hempty => absurd hempty (List.cons_ne_nil _ _)
        one_entry := fun _ => ⟨_, hentry⟩
        begun := fun text htext => by
          obtain ⟨error', errors, d, herrors, -⟩ := h.begun text htext
          exact absurd (hnil.symm.trans herrors) (List.cons_ne_nil _ _).symm
        shown := h.shown }
  · obtain ⟨first, errors, herrors⟩ := List.exists_cons_of_ne_nil hne
    rw [herrors, List.isEmpty_cons, if_neg nofun]
    exact
      { steady := h.steady
        idle := h.idle
        nothing := fun hempty => absurd hempty (List.cons_ne_nil _ _)
        one_entry := fun _ => h.one_entry hne
        begun := fun text htext => by
          obtain ⟨error', errors', d, herrors', hrest⟩ := h.begun text htext
          obtain ⟨rfl, rfl⟩ := List.cons.inj (herrors.symm.trans herrors')
          exact ⟨first, errors ++ [error], d, rfl, hrest⟩
        shown := h.shown }

theorem Alone.beginXml (h : Alone errorSink onScreenName gettext xmlEscape s)
    {d : QueueData V} (htop : s.views.entryOnTop = some d) (hview : d.view = errorSink) :
    Alone errorSink onScreenName gettext xmlEscape
      (s.beginXml onScreenName gettext xmlEscape d) := by
  obtain ⟨caller, frames, hframes, hactive⟩ := SerializeState.entryOnTop_eq_some htop
  have hw := (h.steady.isWriting_of_frames hframes).1
  have hne : s.errors ≠ [] := by
    intro hnil
    have hwaiting := h.nothing hnil
    rw [SerializeState.waiting_of_isWriting hw hactive,
      SerializeState.filter_cons_of_eq hview] at hwaiting
    exact List.cons_ne_nil _ _ hwaiting
  obtain ⟨error, errors, herrors⟩ := List.exists_cons_of_ne_nil hne
  exact
    { steady := h.steady
      idle := h.idle
      nothing := h.nothing
      one_entry := h.one_entry
      begun := fun text htext => by
        refine ⟨error, errors, d, herrors, hw, hactive, hview, ?_⟩
        have hids : getDynamicIds s.errors = (.error, error.code) := by
          rw [herrors]
          rfl
        rw [← hids]
        exact (Option.some.inj htext).symm
      shown := h.shown }

theorem Alone.writeXml (h : Alone errorSink onScreenName gettext xmlEscape s)
    {d : QueueData V} {text : Text} (htop : s.views.entryOnTop = some d)
    (hbegun : s.begun = some text)
    (hstep : s.writeXml errorSink xmlEscape d text = some s') :
    Alone errorSink onScreenName gettext xmlEscape s' := by
  obtain ⟨first, errors, d', herrors, hw, hactive, hview, rfl⟩ := h.begun text hbegun
  obtain ⟨-, -, -, hactive'⟩ := SerializeState.entryOnTop_eq_some htop
  obtain rfl := Option.some.inj (hactive.symm.trans hactive')
  obtain ⟨flags, hwaiting⟩ := h.one_entry (herrors ▸ List.cons_ne_nil _ _)
  rw [SerializeState.waiting_of_isWriting hw hactive,
    SerializeState.filter_cons_of_eq hview] at hwaiting
  obtain ⟨hentry, hrest⟩ := List.cons.inj hwaiting
  rcases writeXml_cases h.steady htop hstep with ⟨hnil, -⟩ |
    ⟨error, errors', queued, views', herrors', hqueued, rfl, hsteady, hno, hdata, -, hidle⟩
  · exact absurd (hnil.symm.trans herrors) (List.cons_ne_nil _ _).symm
  obtain ⟨rfl, rfl⟩ := List.cons.inj (herrors.symm.trans herrors')
  have hshown : documentsOf errorSink
      (s.documents ++ [(d', String.ofList (writeXmlBegin gettext xmlEscape
        { onScreenName := onScreenName, drcpViewId := .error } (.error, first.code) d' ++
        writeError xmlEscape first ++ writeXmlEnd d' false).chars)]) =
      (s.shown ++ [first]).map fun error =>
        String.ofList (errorDocument xmlEscape error).chars := by
    rw [written_eq_errorDocument gettext xmlEscape onScreenName first (by rw [hentry])
      (by rw [hentry]), documentsOf_append, documentsOf_singleton hview, h.shown, List.map_append]
    rfl
  cases errors with
  | nil =>
    rw [List.isEmpty_nil, if_pos rfl] at hqueued
    rw [hqueued] at hdata hidle
    exact
      { steady := hsteady
        idle := hidle errorSink h.idle
        nothing := fun _ => by
          dsimp only
          rw [SerializeState.waiting_of_not_isWriting hno, hdata]
          exact hrest
        one_entry := fun hne => absurd rfl hne
        begun := fun _ hbegun => absurd hbegun nofun
        shown := hshown }
  | cons second errors =>
    rw [List.isEmpty_cons, if_neg nofun] at hqueued
    rw [hqueued] at hdata hidle
    exact
      { steady := hsteady
        idle := hidle errorSink (h.idle.doSerialize_forceAsync true none)
        nothing := fun hnil => absurd hnil (List.cons_ne_nil _ _)
        one_entry := fun _ => by
          refine ⟨s.views.updateFlags errorSink, ?_⟩
          dsimp only
          rw [SerializeState.waiting_of_not_isWriting hno, hdata,
            forced_data h.steady hw h.idle.1, SerializeState.filter_addToData_self hrest]
        begun := fun _ hbegun => absurd hbegun nofun
        shown := hshown }

/-- The step lemma. -/
theorem Alone.step (h : Alone errorSink onScreenName gettext xmlEscape s) {e : Event V}
    (hown : e.isRequest = false)
    (hstep : s.step errorSink onScreenName gettext xmlEscape e = some s') :
    Alone errorSink onScreenName gettext xmlEscape s' := by
  cases e with
  | sinkError error =>
    obtain rfl := Option.some.inj hstep
    exact h.sinkError error
  | beginXml =>
    obtain ⟨d, htop, -, hview, rfl⟩ := step_begun hstep
    exact h.beginXml htop hview
  | writeXml =>
    obtain ⟨d, text, htop, hbegun, hwrite⟩ := step_writeXml hstep
    exact h.writeXml htop hbegun hwrite
  | serialize mode isBusy => exact absurd hown nofun
  | views e =>
    obtain ⟨views', documents, rfl, hsteady, -, hwaiting, hdocuments, hidle, hkept⟩ :=
      other_cases h.steady hstep
    exact
      { steady := hsteady
        idle := hidle h.idle
        nothing := fun hnil => hwaiting.trans (h.nothing hnil)
        one_entry := fun hne => by
          obtain ⟨flags, hentry⟩ := h.one_entry hne
          exact ⟨flags, hwaiting.trans hentry⟩
        begun := fun text htext => by
          obtain ⟨error, errors, d, herrors, hw, hactive, hview, heq⟩ := h.begun text htext
          obtain ⟨hw', hactive'⟩ := hkept d hw hactive hview
          exact ⟨error, errors, d, herrors, hw', hactive', hview, heq⟩
        shown := by
          rw [documentsOf_append, hdocuments, List.append_nil]
          exact h.shown }

end State

/-! ## Runs -/

section Runs

variable {V : Type} [DecidableEq V]

/-- The state in which the program starts. -/
def initial (os : Option String) : State V := { views := { queue := { dcpd := { os := os } } } }

omit [DecidableEq V] in
theorem initial_recorded (errorSink : V) (os : Option String) :
    State.Recorded errorSink os (initial os) :=
  ⟨SerializeState.steady_init os, rfl, fun _ hbegun => absurd hbegun nofun⟩

theorem initial_alone (os : Option String) (errorSink : V) (onScreenName : List Char)
    (gettext xmlEscape : List Char → List Char) :
    State.Alone errorSink onScreenName gettext xmlEscape (initial os) where
  steady := SerializeState.steady_init os
  idle := ⟨rfl, nofun⟩
  nothing := fun _ => rfl
  one_entry := fun hne => absurd rfl hne
  begun := fun _ hbegun => absurd hbegun nofun
  shown := rfl

section Steps

variable {errorSink : V} {onScreenName : List Char} {gettext xmlEscape : List Char → List Char}
  {os : Option String}

/-- The run lemma: what comes in has been shown, or is still to be shown. -/
theorem run_account (es : List (Event V)) {s t : State V} (h : State.Recorded errorSink os s)
    (hrun : runFrom (State.step errorSink onScreenName gettext xmlEscape) s es = some t) :
    t.shown ++ t.errors = s.shown ++ s.errors ++ es.flatMap Event.error :=
  account_of_run (fun s : State V => s.shown ++ s.errors) Event.error
    (fun _ _ _ h hstep => State.Recorded.step h hstep)
    (fun _ _ _ h hstep => State.step_account h.steady hstep) es h hrun

theorem run_recorded (es : List (Event V)) {s t : State V} (h : State.Recorded errorSink os s)
    (hrun : runFrom (State.step errorSink onScreenName gettext xmlEscape) s es = some t) :
    State.Recorded errorSink os t :=
  invariant_of_run (fun _ _ _ h hstep => State.Recorded.step h hstep) es h hrun

end Steps

/-- As long as nobody else asks for the view, the errors that come in are shown one by one
and in order, each in a document of its own, and an entry of the queue waits exactly while
there are errors left. -/
theorem errors_shown_once (errorSink : V) (onScreenName : List Char)
    (gettext xmlEscape : List Char → List Char) (os : Option String) (es : List (Event V))
    (s : State V)
    (hrun : runFrom (State.step errorSink onScreenName gettext xmlEscape) (initial os) es = some s)
    (hown : ∀ e ∈ es, e.isRequest = false) :
    ∃ shown, shown ++ s.errors = es.flatMap Event.error ∧
      documentsOf errorSink s.documents =
        shown.map (fun error => String.ofList (errorDocument xmlEscape error).chars) ∧
      s.views.queue.dcpd.os = putOutAll os s.documents ∧
      (s.views.waiting errorSink ≠ [] ↔ s.errors ≠ []) := by
  have hrecorded := run_recorded es (initial_recorded errorSink os) hrun
  have halone : State.Alone errorSink onScreenName gettext xmlEscape s :=
    invariant_of_alongRun (fun _ _ _ h hown hstep => State.Alone.step h hown hstep) es
      (initial_alone os errorSink onScreenName gettext xmlEscape)
      (alongRun_of_forall_mem hown _) hrun
  refine ⟨s.shown, run_account es (initial_recorded errorSink os) hrun, halone.shown,
    hrecorded.os_eq, fun hwaiting hnil => hwaiting (halone.nothing hnil), fun hne hwaiting => ?_⟩
  obtain ⟨flags, hentry⟩ := halone.one_entry hne
  exact List.cons_ne_nil _ _ (hentry.symm.trans hwaiting)

/-- Two errors come in while another view is being sent; the first is shown when dcpd has
answered. -/
def twoErrors : List (Event Nat) :=
  [.views (.doSerialize 0 .syncIfPossible true none), .sinkError ⟨0x8000, [], "a".toList⟩,
    .sinkError ⟨0xc000, "airable".toList, "b".toList⟩, .views (.written "<view/>" true),
    .views (.serializationResult .ok), .beginXml, .writeXml]

/-- One of them has been shown, and the entry for the other one waits. -/
theorem errors_shown_once_twoErrors :
    ∃ s : State Nat, runFrom (State.step 7 [] id id) (initial (some "")) twoErrors = some s ∧
      s.errors.map (·.code) = [0xc000] ∧ s.views.waiting 7 ≠ [] := by
  refine ⟨_, rfl, rfl, ?_⟩
  obtain ⟨shown, -, -, -, hiff⟩ := errors_shown_once 7 [] id id (some "") twoErrors _ rfl
    (by decide)
  exact hiff.mpr (List.cons_ne_nil _ _)

/-- In every run: as long as there are errors, an entry of the queue waits for them, exactly
if no request of the view itself is lost. -/
theorem errors_waited_for_iff (errorSink : V) (onScreenName : List Char)
    (gettext xmlEscape : List Char → List Char) (os : Option String) (es : List (Event V))
    (s : State V)
    (hrun : runFrom (State.step errorSink onScreenName gettext xmlEscape) (initial os) es =
      some s) :
    AlongRun (State.step errorSink onScreenName gettext xmlEscape)
        (fun s e => ∀ s', s.step errorSink onScreenName gettext xmlEscape e = some s' →
          State.Waits errorSink s') (initial os) es ↔
      AlongRun (State.step errorSink onScreenName gettext xmlEscape)
        (fun s e => ¬State.Loses errorSink s e) (initial os) es := by
  refine alongRun_iff_of_run (I := fun s => State.Recorded errorSink os s ∧ State.Waits errorSink s)
    ?_ ?_ es ⟨initial_recorded errorSink os, fun hne => absurd rfl hne⟩ hrun
  · intro s e s' hI hkeeps hstep
    exact ⟨hI.1.step hstep, (State.step_waits_iff hI.1.steady hI.2 hstep).mpr hkeeps⟩
  · intro s e s' hI hstep
    have hiff := State.step_waits_iff hI.1.steady hI.2 hstep
    constructor
    · intro hall
      exact hiff.mp (hall s' hstep)
    · intro hkeeps s'' hstep'
      rw [← Option.some.inj (hstep.symm.trans hstep')]
      exact hiff.mpr hkeeps

/-- The view is activated while the first error is waiting, and a second error is left when
the first has been shown. -/
def activatedWithErrors : List (Event Nat) :=
  [.sinkError ⟨0x8000, [], []⟩, .sinkError ⟨0x8001, [], []⟩,
    .views .processPendingTransactions, .beginXml, .writeXml, .sinkError ⟨0x8002, [], []⟩,
    .views (.serializationResult .failed), .serialize .syncIfPossible none, .beginXml, .writeXml]

/-- The errors that are left then have no entry. -/
theorem errors_waited_for_iff_activated :
    ∃ s : State Nat,
      runFrom (State.step 7 [] id id) (initial none) activatedWithErrors = some s ∧
      s.errors.map (·.code) = [0x8002] ∧
      ¬AlongRun (State.step 7 [] id id) (fun s e => ¬State.Loses 7 s e) (initial none)
        activatedWithErrors := by
  refine ⟨_, rfl, rfl, fun hkeeps => ?_⟩
  have hwaits := (errors_waited_for_iff 7 [] id id none activatedWithErrors _ rfl).mpr hkeeps
  have hlast := invariant_of_alongRun (I := State.Waits 7) (fun _ _ s' _ hwaits hs => hwaits s' hs)
    activatedWithErrors (fun hne => absurd rfl hne) hwaits rfl
  exact hlast (List.cons_ne_nil _ _) rfl

/-- What is true of an error that has been left behind: it is not shown, whatever happens,
before somebody else asks for the view.  Those that come in later are not shown either. -/
theorem errors_left_behind (errorSink : V) (onScreenName : List Char)
    (gettext xmlEscape : List Char → List Char) (os : Option String) (es es' : List (Event V))
    (s t : State V)
    (hrun : runFrom (State.step errorSink onScreenName gettext xmlEscape) (initial os) es = some s)
    (hleft : ¬State.Waits errorSink s)
    (hrun' : runFrom (State.step errorSink onScreenName gettext xmlEscape) s es' = some t)
    (hown : ∀ e ∈ es', e.isRequest = false) :
    t.errors = s.errors ++ es'.flatMap Event.error ∧
      documentsOf errorSink t.documents = documentsOf errorSink s.documents ∧
      ¬State.Waits errorSink t := by
  have hrecorded := run_recorded es (initial_recorded errorSink os) hrun
  obtain ⟨hne, hnothing⟩ := Classical.not_imp.mp hleft
  have hstill : State.Left errorSink os s t :=
    invariant_of_alongRun (fun _ _ _ h hown hstep => State.Left.step h hown hstep) es'
      ⟨hrecorded, hne, not_not.mp hnothing, rfl, rfl⟩ (alongRun_of_forall_mem hown _) hrun'
  refine ⟨?_, hstill.documents_eq, fun hwaits => hwaits hstill.errors_ne hstill.nothing⟩
  have haccount := run_account es' hrecorded hrun'
  rw [hstill.shown_eq, List.append_assoc] at haccount
  exact List.append_cancel_left haccount

/-- The activated view and an error that comes in later. -/
theorem errors_left_behind_activated :
    ∃ s t : State Nat,
      runFrom (State.step 7 [] id id) (initial none) activatedWithErrors = some s ∧
      runFrom (State.step 7 [] id id) s
        [.views (.serializationResult .ok), .sinkError ⟨0x8003, [], []⟩] = some t ∧
      t.errors.map (·.code) = [0x8002, 0x8003] ∧ ¬State.Waits 7 t := by
  refine ⟨_, _, rfl, rfl, rfl, ?_⟩
  exact (errors_left_behind 7 [] id id none activatedWithErrors
    [.views (.serializationResult .ok), .sinkError ⟨0x8003, [], []⟩] _ _ rfl
    (fun hwaits => hwaits (List.cons_ne_nil _ _) rfl) rfl (by decide)).2.2

end Runs

end Drcpd.Ui.ErrorSink

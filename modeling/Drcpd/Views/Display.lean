/-
  Views/Display.lean --- which view is shown.

  The view shown is the one whose whole document has been put out last.  Documents are put
  out in the order of the entries of the queue, and a request for a view that has an entry
  is merged into it where it stands.  So a view which is activated again may be put out
  before another one that has been requested in between, and if that one may be written
  while it is not active, it is shown in the end.  `active_view_displayed_iff` says exactly
  which events lead there, and `displayed_at_rest` that it stays so.
-/
import Drcpd.Views.Manager

set_option autoImplicit false

namespace Drcpd.Views

open Drcpd.Foundation Drcpd.Dcp

variable {V : Type} [DecidableEq V]

/-- The entries behind the one of a view. -/
def behind (view : V) : List (QueueData V) → List (QueueData V)
  | [] => []
  | d :: rest => if d.view = view then rest else behind view rest

namespace Manager

variable (traits : Traits V)

/-- The views whose whole documents are to be written, one after the other. -/
def whole (activeView : V) (data : List (QueueData V)) : List V :=
  (data.filter fun d =>
    d.isFullSerialize && isSerializationAllowed traits activeView d.view).map (·.view)

omit [DecidableEq V] in
/-- The views whose whole documents have been put out, one after the other. -/
def shown (s : Manager V) : List V := (s.documents.filter (·.isFullSerialize)).map (·.view)

/-- The view whose whole document is being written. -/
def beingWritten (s : Manager V) : List V :=
  if s.views.IsWriting ∧ s.isAllowed = true then
    (s.views.queue.activeData.toList.filter (·.isFullSerialize)).map (·.view)
  else []

/-- The views that are shown one after the other if nothing else is requested. -/
def outlook (s : Manager V) : List V :=
  s.shown ++ s.beingWritten ++ whole traits s.activeView s.views.queue.data

/-- The view that is shown. -/
def displayed (s : Manager V) : Option V := s.shown.getLast?

/-- The active view is one that can be shown, and has been serialized for its activation. -/
def IsSettled (s : Manager V) : Prop :=
  (∀ activation ∈ s.activations, activation.phase ≠ .focus) ∧
    traits.permission s.activeView ≠ .never

/-- The active view is shown in the end. -/
def Displays (s : Manager V) : Prop :=
  s.IsSettled traits → (s.outlook traits).getLast? = some s.activeView

/-- Nothing waits, and nothing is being written. -/
def AtRest (s : Manager V) : Prop := ¬s.views.IsWriting ∧ s.views.queue.data = []

/-- `serialize` makes no request for the view. -/
def refuses (s : Manager V) (view : V) : Bool :=
  !s.canSerialize view || s.views.isSerializing view

/-- Another view is shown in the end:
- the view being activated is not requested, or a view that may be written while it is not
  active has been requested behind the entry of the view being activated;
- such a view is serialized although it is not the active one;
- writing the last document that waits fails. -/
def Misleads (s : Manager V) : Event V → Prop
  | .focused =>
      (∀ activation ∈ s.activations.tail, activation.phase ≠ .focus) ∧
        traits.permission s.activeView ≠ .never ∧
        if s.refuses s.activeView then (s.outlook traits).getLast? ≠ some s.activeView
        else whole traits s.activeView (behind s.activeView s.views.queue.data) ≠ []
  | .inputResult .forceSerialize view | .serializeViewForced view _ =>
      s.IsSettled traits ∧ view ≠ s.activeView ∧ traits.permission view = .always ∧
        s.refuses view = false ∧ whole traits s.activeView (behind view s.views.queue.data) = []
  | .written _ false =>
      s.IsSettled traits ∧ whole traits s.activeView s.views.queue.data = [] ∧
        s.displayed ≠ some s.activeView
  | .addView _ | .openView _ _ | .toggleViews _ _ _ | .inputResult .ok _
  | .inputResult .updateNeeded _ | .inputResult .fullSerializeNeeded _
  | .inputResult .shouldHide _ | .updateViewIfActive _ _ | .serializeViewIfActive _ _
  | .hideViewIfActive _ | .busyStateNotification _ | .languageChanged | .serialized
  | .canSerialize _ _ | .addUpdateFlags _ _ | .written _ true | .logBegin _ | .logEnd
  | .processPendingTransactions | .serializationResult _ => False

/-- What is known of the queue. -/
structure Orderly (s : Manager V) : Prop where
  steady : s.views.Steady
  nodup : (s.views.queue.data.map (·.view)).Nodup

/-! ## Entries of the queue -/

variable {traits}

theorem whole_cons (activeView : V) (d : QueueData V) (data : List (QueueData V)) :
    whole traits activeView (d :: data) =
      whole traits activeView [d] ++ whole traits activeView data := by
  unfold whole
  rw [← List.map_append, ← List.filter_append, List.singleton_append]

theorem whole_singleton (activeView : V) (d : QueueData V) :
    whole traits activeView [d] =
      if d.isFullSerialize && isSerializationAllowed traits activeView d.view then [d.view]
      else [] := by
  unfold whole
  rw [List.filter_cons, List.filter_nil]
  split_ifs <;> rfl

/-- A request for a part, or for a view that may not be written, shows nothing. -/
theorem whole_addToData_of_not {activeView view : V} {isFull : Bool}
    (h : isFull = true → isSerializationAllowed traits activeView view = false)
    (flags : UInt32) (isBusy : Option Bool) (data : List (QueueData V)) :
    whole traits activeView (Queue.addToData view isFull flags isBusy data) =
      whole traits activeView data := by
  have hnone : ∀ d : QueueData V, d.view = view → isFull = true →
      whole traits activeView [d] = [] := by
    intro d hview hfull
    rw [whole_singleton, hview, h hfull, Bool.and_false, if_neg Bool.false_ne_true]
  induction data with
  | nil =>
    cases isFull with
    | false => rfl
    | true => exact hnone ⟨view, flags, isBusy, true⟩ rfl rfl
  | cons d data ih =>
    unfold Queue.addToData
    split_ifs with hview
    · rw [whole_cons, whole_cons activeView d]
      congr 1
      cases hfull : isFull with
      | false =>
        rw [whole_singleton, whole_singleton]
        rfl
      | true =>
        have hmerged := hnone (Queue.mergeRequest d true flags isBusy) hview hfull
        exact hmerged.trans (hnone d hview hfull).symm
    · rw [whole_cons, ih, ← whole_cons]

/-- What is requested behind the entry of a view is what is shown in the end. -/
theorem getLast?_whole_of_behind {activeView view : V} {data : List (QueueData V)}
    (h : whole traits activeView (behind view data) ≠ []) :
    (whole traits activeView data).getLast? =
      (whole traits activeView (behind view data)).getLast? := by
  induction data with
  | nil => rfl
  | cons d data ih =>
    rw [whole_cons]
    unfold behind at h ⊢
    split_ifs at h ⊢ with hview
    · exact List.getLast?_append_of_ne_nil _ h
    · have hne : whole traits activeView data ≠ [] := by
        intro hnil
        have hlast := ih h
        rw [hnil] at hlast
        exact h (List.getLast?_eq_none_iff.mp hlast.symm)
      rw [List.getLast?_append_of_ne_nil _ hne]
      exact ih h

/-- A whole document that may be written is shown last, unless something has been requested
behind the entry of its view. -/
theorem getLast?_whole_addToData {activeView view : V}
    (h : isSerializationAllowed traits activeView view = true) (flags : UInt32)
    (isBusy : Option Bool) (data : List (QueueData V)) :
    (whole traits activeView (Queue.addToData view true flags isBusy data)).getLast? =
      if whole traits activeView (behind view data) = [] then some view
      else (whole traits activeView data).getLast? := by
  have hone : ∀ d : QueueData V, d.view = view → d.isFullSerialize = true →
      whole traits activeView [d] = [view] := by
    intro d hview hfull
    rw [whole_singleton, hview, h, hfull]
    rfl
  induction data with
  | nil => exact congrArg List.getLast? (hone ⟨view, flags, isBusy, true⟩ rfl rfl)
  | cons d data ih =>
    unfold Queue.addToData behind
    split_ifs with hview hbehind hbehind
    · have hmerged := hone (Queue.mergeRequest d true flags isBusy) hview rfl
      rw [whole_cons, hbehind, List.append_nil, hmerged]
      rfl
    · rw [whole_cons, whole_cons activeView d, List.getLast?_append_of_ne_nil _ hbehind,
        List.getLast?_append_of_ne_nil _ hbehind]
    · have hlast := ih
      rw [if_pos hbehind] at hlast
      rw [whole_cons, List.getLast?_append, hlast]
      rfl
    · have hlast := ih
      rw [if_neg hbehind] at hlast
      rw [whole_cons, List.getLast?_append, hlast, ← List.getLast?_append, ← whole_cons]

theorem mem_behind {view : V} {d : QueueData V} {data : List (QueueData V)}
    (h : d ∈ behind view data) (hnodup : (data.map (·.view)).Nodup) : d.view ≠ view := by
  induction data with
  | nil => exact absurd h List.not_mem_nil
  | cons d' data ih =>
    rw [List.map_cons, List.nodup_cons] at hnodup
    unfold behind at h
    split_ifs at h with hview
    · intro heq
      exact hnodup.1 (List.mem_map.mpr ⟨d, h, heq.trans hview.symm⟩)
    · exact ih h hnodup.2

/-- Of each view, there is one entry at most. -/
theorem getLast?_behind_ne {activeView view : V} {data : List (QueueData V)}
    (hnodup : (data.map (·.view)).Nodup) :
    (whole traits activeView (behind view data)).getLast? ≠ some view := by
  intro hlast
  obtain ⟨d, hd, hview⟩ := List.mem_map.mp (List.mem_of_getLast? hlast)
  exact mem_behind (List.mem_filter.mp hd).1 hnodup hview

/-! ## What each call shows in the end -/

variable {s s' : Manager V}

omit [DecidableEq V] in
theorem beingWritten_of_not (h : ¬s.views.IsWriting) : s.beingWritten = [] :=
  if_neg fun hw => h hw.1

omit [DecidableEq V] in
theorem beingWritten_of_isWriting {d : QueueData V} (h : s.views.IsWriting)
    (hactive : s.views.queue.activeData = some d) :
    s.beingWritten = if s.isAllowed && d.isFullSerialize then [d.view] else [] := by
  unfold beingWritten
  simp only [hactive, h, true_and]
  cases s.isAllowed with
  | false => rfl
  | true => cases hfull : d.isFullSerialize <;> simp [hfull]

/-- Handing out an entry shows nothing else. -/
theorem beingWritten_follow {done : SerializeState V × Option (QueueData V)}
    (hhanded : ∀ d, done.2 = some d → done.1.IsWriting ∧ done.1.queue.activeData = some d)
    (hbegun : done.1.IsWriting → done.2.isSome = true) :
    (s.follow traits done).beingWritten ++ whole traits s.activeView done.1.queue.data =
      whole traits s.activeView (done.2.toList ++ done.1.queue.data) := by
  obtain ⟨views, handed⟩ := done
  cases handed with
  | none =>
    have hno : ¬views.IsWriting := fun hw => Bool.false_ne_true (hbegun hw)
    have hnothing : (s.follow traits (views, none)).beingWritten = [] := beingWritten_of_not hno
    rw [hnothing]
    rfl
  | some d =>
    obtain ⟨hwriting, hactive⟩ := hhanded d rfl
    rw [Option.toList_some, List.singleton_append, whole_cons, whole_singleton, Bool.and_comm]
    congr 1
    have hafter : (s.follow traits (views, some d)).beingWritten = _ :=
      beingWritten_of_isWriting hwriting hactive
    exact hafter

theorem outlook_follow {done : SerializeState V × Option (QueueData V)}
    (h : SerializeState.Keeps s.views done)
    (hdata : s.views.queue.data = done.2.toList ++ done.1.queue.data) :
    (s.follow traits done).outlook traits = s.outlook traits := by
  unfold outlook
  rw [List.append_assoc, List.append_assoc]
  congr 1
  rcases Decidable.em s.views.IsWriting with hw | hno
  · obtain ⟨hdcpd, hactive, hnone⟩ := h.kept hw
    have hw' : done.1.IsWriting := (congrArg Transaction.state hdcpd).trans hw
    have hdata' : done.1.queue.data = s.views.queue.data := by
      rw [hdata, hnone]
      rfl
    obtain ⟨d, hd⟩ := Option.isSome_iff_exists.mp (h.steady.active hw')
    have hallowed : (s.follow traits done).isAllowed = s.isAllowed := by
      unfold follow
      dsimp only
      rw [hnone]
    have hafter : (s.follow traits done).beingWritten = _ := beingWritten_of_isWriting hw' hd
    rw [hafter, hallowed, beingWritten_of_isWriting hw (hactive.symm.trans hd), ← hdata']
    rfl
  · rw [beingWritten_of_not hno, List.nil_append, hdata]
    exact beingWritten_follow h.handed (h.begun hno)

/-- `serialize` and `update`. -/
def request (traits : Traits V) (s : Manager V) (view : V) (mode : Mode) (isFull : Bool)
    (isBusy : Option Bool) : Manager V :=
  if s.canSerialize view then s.follow traits (s.views.doSerialize view mode isFull isBusy)
  else s

theorem request_of_refuses {view : V} (h : s.refuses view = true) (mode : Mode) (isFull : Bool)
    (isBusy : Option Bool) : s.request traits view mode isFull isBusy = s := by
  unfold request
  cases hcan : s.canSerialize view with
  | false => rfl
  | true =>
    have hserializing : s.views.isSerializing view = true := by
      unfold refuses at h
      rw [hcan] at h
      exact h
    rw [if_pos rfl, SerializeState.doSerialize_of_isSerializing hserializing]
    rfl

omit [DecidableEq V] in
theorem isSerializing_of_refuses {view : V} (h : s.refuses view = false) :
    s.canSerialize view = true ∧ s.views.isSerializing view = false := by
  unfold refuses at h
  rw [Bool.or_eq_false_iff, Bool.not_eq_false'] at h
  exact h

@[simp] theorem request_activeView (view : V) (mode : Mode) (isFull : Bool)
    (isBusy : Option Bool) :
    (s.request traits view mode isFull isBusy).activeView = s.activeView := by
  unfold request
  split_ifs <;> rfl

@[simp] theorem request_activations (view : V) (mode : Mode) (isFull : Bool)
    (isBusy : Option Bool) :
    (s.request traits view mode isFull isBusy).activations = s.activations := by
  unfold request
  split_ifs <;> rfl

/-- The request goes to the queue, which may then hand out an entry. -/
theorem outlook_request (h : s.Orderly) {view : V} (hrefuses : s.refuses view = false)
    (mode : Mode) (isFull : Bool) (isBusy : Option Bool) :
    (s.request traits view mode isFull isBusy).outlook traits =
      s.shown ++ s.beingWritten ++ whole traits s.activeView
        (Queue.addToData view isFull (s.views.updateFlags view) isBusy s.views.queue.data) := by
  obtain ⟨hcan, hserializing⟩ := isSerializing_of_refuses hrefuses
  have hqueued : (s.views.enqueue view isFull isBusy).Steady :=
    (@SerializeState.Steady.keeps_of_eq V s.views (s.views.enqueue view isFull isBusy) h.steady
      rfl rfl rfl).steady
  have hfollow := @outlook_follow V _ traits
    { s with views := s.views.enqueue view isFull isBusy } _
    (hqueued.keeps_startTransaction mode (some view))
    (SerializeRun.hands_startTransaction _ mode (some view)).data
  unfold request
  rw [if_pos hcan, SerializeState.doSerialize_eq hserializing]
  exact hfollow

/-- A request for a part, or for a view that may not be written. -/
theorem outlook_request_of_not (h : s.Orderly) {view : V} {isFull : Bool}
    (hnot : isFull = true → isSerializationAllowed traits s.activeView view = false)
    (mode : Mode) (isBusy : Option Bool) :
    (s.request traits view mode isFull isBusy).outlook traits = s.outlook traits := by
  cases hrefuses : s.refuses view with
  | true => rw [request_of_refuses hrefuses]
  | false =>
    rw [outlook_request h hrefuses, whole_addToData_of_not hnot]
    rfl

/-- A request for the whole of a view that may be written. -/
theorem getLast?_outlook_request (h : s.Orderly) {view : V} (hrefuses : s.refuses view = false)
    (hallowed : isSerializationAllowed traits s.activeView view = true) (mode : Mode)
    (isBusy : Option Bool) :
    ((s.request traits view mode true isBusy).outlook traits).getLast? =
      if whole traits s.activeView (behind view s.views.queue.data) = [] then some view
      else (s.outlook traits).getLast? := by
  rw [outlook_request h hrefuses, List.getLast?_append, getLast?_whole_addToData hallowed]
  split_ifs with hbehind
  · rfl
  · exact List.getLast?_append.symm

theorem isSerializationAllowed_self {activeView : V}
    (h : traits.permission activeView ≠ .never) :
    isSerializationAllowed traits activeView activeView = true := by
  unfold isSerializationAllowed
  cases hpermission : traits.permission activeView with
  | never => exact absurd hpermission h
  | whileActive => exact decide_eq_true rfl
  | always => rfl

theorem isSerializationAllowed_of_ne {activeView view : V} (h : view ≠ activeView) :
    isSerializationAllowed traits activeView view = true ↔
      traits.permission view = .always := by
  unfold isSerializationAllowed
  cases traits.permission view with
  | never => exact iff_of_false Bool.false_ne_true nofun
  | whileActive => exact iff_of_false (fun hself => h (of_decide_eq_true hself)) nofun
  | always => exact iff_of_true rfl rfl

theorem isSettled_request (view : V) (mode : Mode) (isFull : Bool) (isBusy : Option Bool) :
    (s.request traits view mode isFull isBusy).IsSettled traits ↔ s.IsSettled traits := by
  unfold IsSettled
  rw [request_activeView, request_activations]

/-- What a request shows in the end, while the active view is to be shown. -/
theorem displays_request_iff (h : s.Orderly) (hdisplays : s.Displays traits) (view : V)
    (mode : Mode) (isFull : Bool) (isBusy : Option Bool) :
    (s.request traits view mode isFull isBusy).Displays traits ↔
      ¬(isFull = true ∧ s.IsSettled traits ∧ view ≠ s.activeView ∧
        traits.permission view = .always ∧ s.refuses view = false ∧
        whole traits s.activeView (behind view s.views.queue.data) = []) := by
  have hsame : (s.request traits view mode isFull isBusy).outlook traits = s.outlook traits →
      (s.request traits view mode isFull isBusy).Displays traits := by
    intro houtlook hsettled
    rw [houtlook, request_activeView]
    exact hdisplays ((isSettled_request view mode isFull isBusy).mp hsettled)
  rcases Decidable.em (isFull = true → isSerializationAllowed traits s.activeView view = false)
    with hnot | hallowed
  · refine iff_of_true (hsame (outlook_request_of_not h hnot mode isBusy)) ?_
    rintro ⟨hfull, -, hne, halways, -⟩
    exact Bool.false_ne_true
      ((hnot hfull).symm.trans ((isSerializationAllowed_of_ne hne).mpr halways))
  · obtain ⟨rfl, hmay⟩ := Classical.not_imp.mp hallowed
    have hallowed := eq_true_of_ne_false hmay
    cases hrefuses : s.refuses view with
    | true =>
      refine iff_of_true (hsame (by rw [request_of_refuses hrefuses])) ?_
      rintro ⟨-, -, -, -, hno, -⟩
      exact Bool.false_ne_true hno.symm
    | false =>
      have hlast := getLast?_outlook_request h hrefuses hallowed mode isBusy
      unfold Displays
      rw [isSettled_request, request_activeView, hlast]
      rcases Decidable.em (whole traits s.activeView (behind view s.views.queue.data) = [])
        with hbehind | hbehind
      · rw [if_pos hbehind, Option.some.injEq]
        constructor
        · rintro himp ⟨-, hsettled, hne, -⟩
          exact hne (himp hsettled)
        · intro hno hsettled
          by_contra hne
          exact hno ⟨rfl, hsettled, hne, (isSerializationAllowed_of_ne hne).mp hallowed, rfl,
            hbehind⟩
      · rw [if_neg hbehind]
        exact iff_of_true hdisplays fun hno => hbehind hno.2.2.2.2.2

/-- A request for the active view. -/
theorem Displays.request_activeView (h : s.Displays traits) (horderly : s.Orderly) (mode : Mode)
    (isFull : Bool) (isBusy : Option Bool) :
    (s.request traits s.activeView mode isFull isBusy).Displays traits :=
  (displays_request_iff horderly h s.activeView mode isFull isBusy).mpr
    fun hno => hno.2.2.1 rfl

/-- A view which is being activated is not settled. -/
theorem Displays.activateView (h : s.Displays traits) (view : Option V)
    (enforceReactivation : Bool) : (s.activateView view enforceReactivation).Displays traits := by
  unfold Manager.activateView
  cases view with
  | none => exact h
  | some view =>
    dsimp only
    split_ifs
    · exact h
    · intro hsettled
      exact absurd rfl (hsettled.1 _ List.mem_cons_self)

/-- The view which has been activated is requested. -/
theorem displays_focused_iff (h : s.Orderly) {depth : Nat} {activations : List Activation}
    (hactivations : s.activations = ⟨.focus, depth⟩ :: activations) :
    ({ s with activations := ⟨.serialize, depth⟩ :: activations }.serialize traits s.activeView
        .syncIfPossible none).Displays traits ↔ ¬s.Misleads traits .focused := by
  have hrequest : { s with activations := ⟨.serialize, depth⟩ :: activations }.serialize traits
      s.activeView .syncIfPossible none =
      { s with activations := ⟨.serialize, depth⟩ :: activations }.request traits s.activeView
        .syncIfPossible true none := rfl
  have horderly : ({ s with activations := ⟨.serialize, depth⟩ :: activations } :
      Manager V).Orderly := ⟨h.steady, h.nodup⟩
  have hphases : (∀ activation ∈ (⟨.serialize, depth⟩ :: activations : List Activation),
      activation.phase ≠ .focus) ↔ ∀ activation ∈ activations, activation.phase ≠ .focus := by
    rw [List.forall_mem_cons]
    exact and_iff_right nofun
  rw [hrequest]
  unfold Displays Misleads
  rw [isSettled_request, request_activeView]
  unfold IsSettled
  rw [hphases, hactivations, List.tail_cons]
  dsimp only
  rw [and_imp, not_and, not_and]
  refine forall_congr' fun _ => forall_congr' fun hpermission => ?_
  have hallowed := isSerializationAllowed_self hpermission
  cases hrefuses : s.refuses s.activeView with
  | true =>
    have hsame := @request_of_refuses V _ traits
      { s with activations := ⟨.serialize, depth⟩ :: activations } s.activeView hrefuses
      .syncIfPossible true none
    rw [hsame, if_pos rfl, not_not]
    exact Iff.rfl
  | false =>
    have hlast := @getLast?_outlook_request V _ traits
      { s with activations := ⟨.serialize, depth⟩ :: activations } horderly s.activeView hrefuses
      hallowed .syncIfPossible none
    rw [hlast, if_neg Bool.false_ne_true, not_not]
    dsimp only
    rcases Decidable.em (whole traits s.activeView (behind s.activeView s.views.queue.data) = [])
      with hbehind | hbehind
    · rw [if_pos hbehind]
      exact iff_of_true rfl hbehind
    · rw [if_neg hbehind]
      refine iff_of_false (fun hself => ?_) hbehind
      unfold outlook at hself
      rw [List.getLast?_append_of_ne_nil, getLast?_whole_of_behind hbehind] at hself
      · exact getLast?_behind_ne h.nodup hself
      · intro hnil
        have hlast' := getLast?_whole_of_behind hbehind
        rw [hnil] at hlast'
        exact hbehind (List.getLast?_eq_none_iff.mp hlast'.symm)

/-! ## What each event shows in the end -/

theorem request_orderly (h : s.Orderly) (view : V) (mode : Mode) (isFull : Bool)
    (isBusy : Option Bool) : (s.request traits view mode isFull isBusy).Orderly := by
  cases hrefuses : s.refuses view with
  | true =>
    rw [request_of_refuses hrefuses]
    exact h
  | false =>
    obtain ⟨hcan, hserializing⟩ := isSerializing_of_refuses hrefuses
    have hkeeps := h.steady.keeps_doSerialize view mode isFull isBusy
    have hnodup := nodup_addToData view isFull (s.views.updateFlags view) isBusy
      h.nodup
    have hdata := (SerializeRun.hands_startTransaction (s.views.enqueue view isFull isBusy) mode
      (some view)).data
    unfold request
    rw [if_pos hcan]
    refine ⟨hkeeps.steady, ?_⟩
    rw [SerializeState.doSerialize_eq hserializing]
    have hqueued : ((s.views.enqueue view isFull isBusy).queue.data.map (·.view)).Nodup := hnodup
    rw [hdata, List.map_append] at hqueued
    exact (List.nodup_append.mp hqueued).2.1

theorem activateView_orderly (h : s.Orderly) (view : Option V) (enforceReactivation : Bool) :
    (s.activateView view enforceReactivation).Orderly := by
  unfold Manager.activateView
  cases view with
  | none => exact h
  | some view =>
    dsimp only
    split_ifs
    · exact h
    · exact ⟨h.steady, h.nodup⟩

/-- What the queue does by itself. -/
theorem advance_cases (h : s.Orderly) {e : SerializeState.Event V}
    (hadvance : s.advance traits e = some s')
    (hrequest : ∀ view mode isFullView isBusy, e ≠ .doSerialize view mode isFullView isBusy) :
    ∃ done, s.views.step e = some done ∧ s' = s.follow traits done ∧
      s.views.queue.data = done.2.toList ++ done.1.queue.data ∧ s'.Orderly := by
  obtain ⟨done, hstep, rfl⟩ := Option.map_eq_some_iff.mp hadvance
  have hdata : s.views.queue.data = done.2.toList ++ done.1.queue.data := by
    rcases Classical.em (∃ view flags, e = .addUpdateFlags view flags) with
      ⟨view, flags, rfl⟩ | hflags
    · obtain rfl := Option.some.inj hstep
      rfl
    · exact (SerializeRun.step_hands hstep (fun view flags he => hflags ⟨view, flags, he⟩)
        hrequest).data
  refine ⟨done, hstep, rfl, hdata, h.steady.step hstep, ?_⟩
  have hnodup := h.nodup
  rw [hdata, List.map_append] at hnodup
  exact (List.nodup_append.mp hnodup).2.1

/-- Whatever the queue does, except for the end of `write_whole_xml`, shows nothing else. -/
theorem advance_outlook (h : s.Orderly) {e : SerializeState.Event V}
    (hadvance : s.advance traits e = some s')
    (hrequest : ∀ view mode isFullView isBusy, e ≠ .doSerialize view mode isFullView isBusy)
    (hwritten : ∀ text isOk, e ≠ .written text isOk) :
    s'.Orderly ∧ s'.outlook traits = s.outlook traits ∧ s'.activeView = s.activeView ∧
      s'.activations = s.activations := by
  obtain ⟨done, hstep, rfl, hdata, horderly⟩ := advance_cases h hadvance hrequest
  exact ⟨horderly, outlook_follow (h.steady.step_keeps hstep hwritten) hdata, rfl, rfl⟩

/-- The end of `write_whole_xml`. -/
theorem written_cases (h : s.Orderly) {text : String} {isOk : Bool}
    (hstep : s.step traits (.written text isOk) = some s') :
    s'.Orderly ∧ s'.activeView = s.activeView ∧ s'.activations = s.activations ∧
      (isOk = true → s.isAllowed = true) ∧
      s'.outlook traits = s.shown ++ (if isOk then s.beingWritten else []) ++
        whole traits s.activeView s.views.queue.data := by
  obtain ⟨hopen, hstep⟩ := Option.ite_none_right_eq_some.mp hstep
  obtain ⟨s₁, hadvance, rfl⟩ := Option.map_eq_some_iff.mp hstep
  obtain ⟨done, hdone, rfl, hdata, horderly⟩ := advance_cases h hadvance nofun
  refine ⟨⟨horderly.steady, horderly.nodup⟩, rfl, rfl, hopen.2, ?_⟩
  obtain ⟨hwriting, -, -, hhanded, hbegun⟩ := h.steady.written_cases hdone
  obtain ⟨d, hactive⟩ := Option.isSome_iff_exists.mp (h.steady.active hwriting)
  have hfollow := @beingWritten_follow V _ traits s done hhanded hbegun
  rw [← hdata] at hfollow
  have hshown : ((s.documents ++ if isOk then s.views.queue.activeData.toList else []).filter
      (·.isFullSerialize)).map (·.view) = s.shown ++ if isOk then s.beingWritten else [] := by
    rw [List.filter_append, List.map_append]
    congr 1
    cases isOk with
    | false => rfl
    | true =>
      rw [if_pos rfl, if_pos rfl]
      exact (if_pos ⟨hwriting, hopen.2 rfl⟩).symm
  unfold outlook
  rw [← hfollow, ← hshown, List.append_assoc]
  rfl

theorem step_focused (hstep : s.step traits .focused = some s') :
    ∃ depth activations, s.activations = ⟨.focus, depth⟩ :: activations ∧
      s' = { s with activations := ⟨.serialize, depth⟩ :: activations }.serialize traits
        s.activeView .syncIfPossible none := by
  cases hactivations : s.activations with
  | nil => simp [Manager.step, hactivations] at hstep
  | cons activation activations =>
    obtain ⟨phase, depth⟩ := activation
    cases phase with
    | serialize => simp [Manager.step, hactivations] at hstep
    | focus =>
      simp only [Manager.step, hactivations] at hstep
      split_ifs at hstep
      exact ⟨depth, activations, rfl, (Option.some.inj hstep).symm⟩

theorem step_serialized (hstep : s.step traits .serialized = some s') :
    ∃ depth activations, s.activations = ⟨.serialize, depth⟩ :: activations ∧
      s.views.frames.length = depth ∧
      s' = { s with
        activations := activations
        returnToView :=
          if traits.canReturnToThis s.activeView then some s.activeView else s.returnToView } := by
  cases hactivations : s.activations with
  | nil => simp [Manager.step, hactivations] at hstep
  | cons activation activations =>
    obtain ⟨phase, depth⟩ := activation
    cases phase with
    | focus => simp [Manager.step, hactivations] at hstep
    | serialize =>
      simp only [Manager.step, hactivations] at hstep
      obtain ⟨hdepth, hstep⟩ := Option.ite_none_right_eq_some.mp hstep
      exact ⟨depth, activations, rfl, hdepth, (Option.some.inj hstep).symm⟩

/-- One event shows another view in the end exactly if it misleads. -/
theorem step_displays_iff (h : s.Orderly) (hdisplays : s.Displays traits) {e : Event V}
    (hstep : s.step traits e = some s') : s'.Displays traits ↔ ¬s.Misleads traits e := by
  have hrequest (view : V) (mode : Mode) (isFull : Bool) (isBusy : Option Bool)
      (hview : view = s.activeView) :
      (s.request traits view mode isFull isBusy).Displays traits := by
    rw [hview]
    exact hdisplays.request_activeView h mode isFull isBusy
  have hforced (view : V) (mode : Mode) :
      (s.serializeViewForced traits view mode).Displays traits ↔
        ¬(s.IsSettled traits ∧ view ≠ s.activeView ∧ traits.permission view = .always ∧
          s.refuses view = false ∧
          whole traits s.activeView (behind view s.views.queue.data) = []) := by
    have hiff := displays_request_iff h hdisplays view mode true none
    rw [and_iff_right rfl] at hiff
    exact hiff
  have hadvance {e : SerializeState.Event V} (he : s.advance traits e = some s')
      (hno : ∀ view mode isFullView isBusy, e ≠ .doSerialize view mode isFullView isBusy)
      (hwritten : ∀ text isOk, e ≠ .written text isOk) : s'.Displays traits := by
    obtain ⟨-, houtlook, hactive, hactivations⟩ := advance_outlook h he hno hwritten
    unfold Displays IsSettled
    rw [houtlook, hactive, hactivations]
    exact hdisplays
  have hhide (view : V) : (if view = s.activeView ∧ traits.canHide view = true then
      s.activateView s.returnToView true else s).Displays traits := by
    split_ifs
    · exact hdisplays.activateView _ _
    · exact hdisplays
  cases e with
  | addView view =>
    obtain rfl := Option.some.inj hstep
    refine iff_of_true ?_ id
    unfold Manager.addView
    split_ifs
    · exact hdisplays
    · exact hdisplays
    · exact hdisplays
  | openView viewName enforceReactivation =>
    obtain rfl := Option.some.inj hstep
    exact iff_of_true (hdisplays.activateView _ _) id
  | toggleViews viewNameA viewNameB enforceReactivation =>
    obtain rfl := Option.some.inj hstep
    exact iff_of_true (hdisplays.activateView _ _) id
  | inputResult result view =>
    obtain rfl := Option.some.inj hstep
    cases result with
    | ok => exact iff_of_true hdisplays id
    | updateNeeded =>
      refine iff_of_true ?_ id
      unfold handleInputResult
      dsimp only
      split_ifs with hview
      · exact hrequest _ _ _ _ hview
      · exact hdisplays
    | fullSerializeNeeded =>
      refine iff_of_true ?_ id
      unfold handleInputResult
      dsimp only
      split_ifs with hview
      · exact hrequest _ _ _ _ hview
      · exact hdisplays
    | forceSerialize => exact hforced view .syncIfPossible
    | shouldHide => exact iff_of_true (hhide view) id
  | updateViewIfActive view mode =>
    obtain rfl := Option.some.inj hstep
    refine iff_of_true ?_ id
    unfold Manager.updateViewIfActive
    split_ifs with hview
    · exact hrequest _ _ _ _ hview
    · exact hdisplays
  | serializeViewIfActive view mode =>
    obtain rfl := Option.some.inj hstep
    refine iff_of_true ?_ id
    unfold Manager.serializeViewIfActive
    split_ifs with hview
    · exact hrequest _ _ _ _ hview
    · exact hdisplays
  | serializeViewForced view mode =>
    obtain rfl := Option.some.inj hstep
    exact hforced view mode
  | hideViewIfActive view =>
    obtain rfl := Option.some.inj hstep
    refine iff_of_true ?_ id
    unfold Manager.hideViewIfActive
    split_ifs
    · exact hhide view
    · exact hdisplays
  | busyStateNotification isBusy =>
    obtain rfl := Option.some.inj hstep
    exact iff_of_true (hrequest _ _ _ _ rfl) id
  | languageChanged =>
    obtain rfl := Option.some.inj hstep
    exact iff_of_true (hrequest _ _ _ _ rfl) id
  | focused =>
    obtain ⟨depth, activations, hactivations, rfl⟩ := step_focused hstep
    exact displays_focused_iff h hactivations
  | serialized =>
    obtain ⟨depth, activations, hactivations, hactive, rfl⟩ := step_serialized hstep
    refine iff_of_true (fun hsettled => ?_) id
    refine hdisplays ⟨?_, hsettled.2⟩
    rw [hactivations, List.forall_mem_cons]
    exact ⟨nofun, hsettled.1⟩
  | canSerialize view canSerialize =>
    obtain rfl := Option.some.inj hstep
    exact iff_of_true hdisplays id
  | addUpdateFlags view flags => exact iff_of_true (hadvance hstep nofun nofun) id
  | written text isOk =>
    obtain ⟨-, hactive, hactivations, -, houtlook⟩ := written_cases h hstep
    have hsettled : s'.IsSettled traits ↔ s.IsSettled traits := by
      unfold IsSettled
      rw [hactive, hactivations]
    unfold Displays
    rw [hsettled, houtlook, hactive]
    cases isOk with
    | true => exact iff_of_true hdisplays id
    | false =>
      rw [if_neg Bool.false_ne_true, List.append_nil]
      unfold Misleads displayed
      rw [not_and]
      refine forall_congr' fun hsettled => ?_
      rcases Decidable.em (whole traits s.activeView s.views.queue.data = []) with hnil | hne
      · rw [hnil, List.append_nil, and_iff_right rfl, not_not]
      · have hlast := hdisplays hsettled
        unfold outlook at hlast
        rw [List.getLast?_append_of_ne_nil _ hne] at hlast ⊢
        exact iff_of_true hlast fun hno => hne hno.1
  | logBegin view => exact iff_of_true (hadvance hstep nofun nofun) id
  | logEnd =>
    unfold Manager.step at hstep
    dsimp only at hstep
    split_ifs at hstep
    exact iff_of_true (hadvance hstep nofun nofun) id
  | processPendingTransactions =>
    unfold Manager.step at hstep
    dsimp only at hstep
    split_ifs at hstep
    exact iff_of_true (hadvance hstep nofun nofun) id
  | serializationResult result =>
    unfold Manager.step at hstep
    dsimp only at hstep
    split_ifs at hstep
    exact iff_of_true (hadvance hstep nofun nofun) id

/-! ## Runs -/

theorem Orderly.step (h : s.Orderly) {e : Event V} (hstep : s.step traits e = some s') :
    s'.Orderly := by
  have hrequest (view : V) (mode : Mode) (isFull : Bool) (isBusy : Option Bool) :
      (s.request traits view mode isFull isBusy).Orderly :=
    request_orderly h view mode isFull isBusy
  have hadvance {e : SerializeState.Event V} (he : s.advance traits e = some s')
      (hno : ∀ view mode isFullView isBusy, e ≠ .doSerialize view mode isFullView isBusy) :
      s'.Orderly := by
    obtain ⟨-, -, -, -, horderly⟩ := advance_cases h he hno
    exact horderly
  have hhide (view : V) : (if view = s.activeView ∧ traits.canHide view = true then
      s.activateView s.returnToView true else s).Orderly := by
    split_ifs
    · exact activateView_orderly h _ _
    · exact h
  cases e with
  | addView view =>
    obtain rfl := Option.some.inj hstep
    unfold Manager.addView
    split_ifs
    · exact h
    · exact h
    · exact ⟨h.steady, h.nodup⟩
  | openView viewName enforceReactivation =>
    obtain rfl := Option.some.inj hstep
    exact activateView_orderly h _ _
  | toggleViews viewNameA viewNameB enforceReactivation =>
    obtain rfl := Option.some.inj hstep
    exact activateView_orderly h _ _
  | inputResult result view =>
    obtain rfl := Option.some.inj hstep
    cases result with
    | ok => exact h
    | updateNeeded =>
      unfold handleInputResult
      dsimp only
      split_ifs
      · exact hrequest ..
      · exact h
    | fullSerializeNeeded =>
      unfold handleInputResult
      dsimp only
      split_ifs
      · exact hrequest ..
      · exact h
    | forceSerialize => exact hrequest ..
    | shouldHide => exact hhide view
  | updateViewIfActive view mode =>
    obtain rfl := Option.some.inj hstep
    unfold Manager.updateViewIfActive
    split_ifs
    · exact hrequest ..
    · exact h
  | serializeViewIfActive view mode =>
    obtain rfl := Option.some.inj hstep
    unfold Manager.serializeViewIfActive
    split_ifs
    · exact hrequest ..
    · exact h
  | serializeViewForced view mode =>
    obtain rfl := Option.some.inj hstep
    exact hrequest ..
  | hideViewIfActive view =>
    obtain rfl := Option.some.inj hstep
    unfold Manager.hideViewIfActive
    split_ifs
    · exact hhide view
    · exact h
  | busyStateNotification isBusy =>
    obtain rfl := Option.some.inj hstep
    exact hrequest ..
  | languageChanged =>
    obtain rfl := Option.some.inj hstep
    exact hrequest ..
  | focused =>
    obtain ⟨depth, activations, -, rfl⟩ := step_focused hstep
    exact @request_orderly V _ traits { s with activations := ⟨.serialize, depth⟩ :: activations }
      ⟨h.steady, h.nodup⟩ s.activeView .syncIfPossible true none
  | serialized =>
    obtain ⟨depth, activations, -, -, rfl⟩ := step_serialized hstep
    exact ⟨h.steady, h.nodup⟩
  | canSerialize view canSerialize =>
    obtain rfl := Option.some.inj hstep
    exact ⟨h.steady, h.nodup⟩
  | addUpdateFlags view flags => exact hadvance hstep nofun
  | written text isOk => exact (written_cases h hstep).1
  | logBegin view => exact hadvance hstep nofun
  | logEnd =>
    exact hadvance (Option.ite_none_right_eq_some.mp hstep).2 nofun
  | processPendingTransactions =>
    exact hadvance (Option.ite_none_right_eq_some.mp hstep).2 nofun
  | serializationResult result =>
    exact hadvance (Option.ite_none_right_eq_some.mp hstep).2 nofun

variable (traits)

/-- The manager before any view has been added; `nop` is `nop_view`. -/
def initial (os : Option String) (nop : V) (canSerialize : V → Bool) : Manager V :=
  { activeView := nop, views := { queue := { dcpd := { os := os } } },
    canSerialize := canSerialize }

omit [DecidableEq V] in
theorem initial_orderly (os : Option String) (nop : V) (canSerialize : V → Bool) :
    (initial os nop canSerialize).Orderly :=
  ⟨SerializeState.steady_init os, List.nodup_nil⟩

theorem initial_displays (os : Option String) {nop : V} (hnop : traits.permission nop = .never)
    (canSerialize : V → Bool) : (initial os nop canSerialize).Displays traits :=
  fun hsettled => absurd hnop hsettled.2

/-- In every run, the active view is always shown in the end exactly if nothing misleads. -/
theorem active_view_displayed_iff (os : Option String) (nop : V) (canSerialize : V → Bool)
    (hnop : traits.permission nop = .never) (es : List (Event V)) (s : Manager V)
    (hrun : runFrom (step traits) (initial os nop canSerialize) es = some s) :
    AlongRun (step traits) (fun s e => ∀ s', s.step traits e = some s' → s'.Displays traits)
        (initial os nop canSerialize) es ↔
      AlongRun (step traits) (fun s e => ¬s.Misleads traits e) (initial os nop canSerialize)
        es := by
  refine alongRun_iff_of_run (I := fun s => s.Orderly ∧ s.Displays traits) ?_ ?_ es
    ⟨initial_orderly os nop canSerialize, initial_displays traits os hnop canSerialize⟩ hrun
  · intro s e s' hI hkeeps hstep
    exact ⟨hI.1.step hstep, (step_displays_iff hI.1 hI.2 hstep).mpr hkeeps⟩
  · intro s e s' hI hstep
    have hiff := step_displays_iff hI.1 hI.2 hstep
    constructor
    · intro hall
      exact hiff.mp (hall s' hstep)
    · intro hkeeps s'' hstep'
      rw [← Option.some.inj (hstep.symm.trans hstep')]
      exact hiff.mpr hkeeps

/-- A view manager with a browser (1) and the player (2). -/
def browserAndPlayer : Traits Nat where
  name := fun view => if view = 0 then "#NOP" else if view = 1 then "UPnP" else "Play"
  canReturnToThis := fun view => view == 1
  canHide := fun view => view != 1
  permission := fun view =>
    if view = 0 then .never else if view = 1 then .whileActive else .always
  updatesWholly := fun view => view == 1

/-- While the first document of the browser waits for its answer, the browser is updated, the
player is opened, and the browser is opened again. -/
def browserOpenedAgain : List (Event Nat) :=
  [.addView 1, .addView 2, .openView "UPnP" true, .focused, .written "browser" true,
    .serialized, .updateViewIfActive 1 .forceAsync, .openView "Play" true, .focused,
    .serialized, .openView "UPnP" true, .focused, .serialized]

/-- The player is going to be shown in the end. -/
theorem active_view_displayed_iff_openedAgain :
    ∃ s : Manager Nat,
      runFrom (step browserAndPlayer) (initial none 0 fun view => view != 0)
        browserOpenedAgain = some s ∧
      s.activeView = 1 ∧ s.outlook browserAndPlayer = [1, 1, 2] ∧
      ¬AlongRun (step browserAndPlayer) (fun s e => ¬s.Misleads browserAndPlayer e)
        (initial none 0 fun view => view != 0) browserOpenedAgain := by
  refine ⟨_, rfl, rfl, rfl, fun hkeeps => ?_⟩
  have hdisplays := (active_view_displayed_iff browserAndPlayer none 0 (fun view => view != 0) rfl
    browserOpenedAgain _ rfl).mpr hkeeps
  have hlast := invariant_of_alongRun (I := Displays browserAndPlayer)
    (fun _ _ s' _ hall hs => hall s' hs) browserOpenedAgain
    (initial_displays browserAndPlayer none rfl _) hdisplays rfl
  exact absurd (hlast ⟨fun _ h => absurd h List.not_mem_nil, by decide⟩) (by decide)

/-! ## Nothing is requested any more -/

variable {traits}

/-- The queue goes on, and all documents that may be written are written. -/
def GoesOn (s : Manager V) : Event V → Prop
  | .written _ isOk => isOk = s.isAllowed
  | .addView _ | .inputResult .ok _ | .serialized | .canSerialize _ _ | .addUpdateFlags _ _
  | .logBegin _ | .logEnd | .processPendingTransactions | .serializationResult _ => True
  | .openView _ _ | .toggleViews _ _ _ | .inputResult .updateNeeded _
  | .inputResult .fullSerializeNeeded _ | .inputResult .forceSerialize _
  | .inputResult .shouldHide _ | .updateViewIfActive _ _ | .serializeViewIfActive _ _
  | .serializeViewForced _ _ | .hideViewIfActive _ | .busyStateNotification _
  | .languageChanged | .focused => False

/-- What is shown in the end stays the same. -/
theorem goesOn_outlook (h : s.Orderly) {e : Event V} (hgoes : s.GoesOn e)
    (hstep : s.step traits e = some s') :
    s'.outlook traits = s.outlook traits ∧ s'.activeView = s.activeView := by
  cases e with
  | addView view =>
    obtain rfl := Option.some.inj hstep
    unfold Manager.addView
    split_ifs
    · exact ⟨rfl, rfl⟩
    · exact ⟨rfl, rfl⟩
    · exact ⟨rfl, rfl⟩
  | inputResult result view =>
    cases result with
    | ok =>
      obtain rfl := Option.some.inj hstep
      exact ⟨rfl, rfl⟩
    | updateNeeded => exact hgoes.elim
    | fullSerializeNeeded => exact hgoes.elim
    | forceSerialize => exact hgoes.elim
    | shouldHide => exact hgoes.elim
  | serialized =>
    obtain ⟨depth, activations, -, -, rfl⟩ := step_serialized hstep
    exact ⟨rfl, rfl⟩
  | canSerialize view canSerialize =>
    obtain rfl := Option.some.inj hstep
    exact ⟨rfl, rfl⟩
  | addUpdateFlags view flags =>
    obtain ⟨-, houtlook, hactive, -⟩ := advance_outlook h hstep nofun nofun
    exact ⟨houtlook, hactive⟩
  | written text isOk =>
    obtain ⟨-, hactive, -, -, houtlook⟩ := written_cases h hstep
    refine ⟨?_, hactive⟩
    have hgoes : isOk = s.isAllowed := hgoes
    rw [houtlook]
    cases hallowed : s.isAllowed with
    | true =>
      rw [hgoes, hallowed, if_pos rfl]
      rfl
    | false =>
      have hnothing : s.beingWritten = [] :=
        if_neg fun hw => Bool.false_ne_true (hallowed.symm.trans hw.2)
      unfold outlook
      rw [hgoes, hallowed, if_neg Bool.false_ne_true, hnothing]
  | logBegin view =>
    obtain ⟨-, houtlook, hactive, -⟩ := advance_outlook h hstep nofun nofun
    exact ⟨houtlook, hactive⟩
  | logEnd =>
    obtain ⟨-, houtlook, hactive, -⟩ :=
      advance_outlook h (Option.ite_none_right_eq_some.mp hstep).2 nofun nofun
    exact ⟨houtlook, hactive⟩
  | processPendingTransactions =>
    obtain ⟨-, houtlook, hactive, -⟩ :=
      advance_outlook h (Option.ite_none_right_eq_some.mp hstep).2 nofun nofun
    exact ⟨houtlook, hactive⟩
  | serializationResult result =>
    obtain ⟨-, houtlook, hactive, -⟩ :=
      advance_outlook h (Option.ite_none_right_eq_some.mp hstep).2 nofun nofun
    exact ⟨houtlook, hactive⟩
  | openView viewName enforceReactivation => exact hgoes.elim
  | toggleViews viewNameA viewNameB enforceReactivation => exact hgoes.elim
  | updateViewIfActive view mode => exact hgoes.elim
  | serializeViewIfActive view mode => exact hgoes.elim
  | serializeViewForced view mode => exact hgoes.elim
  | hideViewIfActive view => exact hgoes.elim
  | busyStateNotification isBusy => exact hgoes.elim
  | languageChanged => exact hgoes.elim
  | focused => exact hgoes.elim

variable (traits)

/-- When all requests have been served, the active view is shown exactly if it was the last one
in the outlook. -/
theorem displayed_at_rest (os : Option String) (nop : V) (canSerialize : V → Bool)
    (es es' : List (Event V)) (s t : Manager V)
    (hrun : runFrom (step traits) (initial os nop canSerialize) es = some s)
    (hrun' : runFrom (step traits) s es' = some t)
    (hgoes : AlongRun (step traits) GoesOn s es') (hrest : t.AtRest) :
    t.activeView = s.activeView ∧
      (t.displayed = some t.activeView ↔ (s.outlook traits).getLast? = some s.activeView) := by
  have horderly : s.Orderly := invariant_of_run (fun _ _ _ h hstep => h.step hstep) es
    (initial_orderly os nop canSerialize) hrun
  have hsame : t.Orderly ∧ t.outlook traits = s.outlook traits ∧ t.activeView = s.activeView := by
    refine invariant_of_alongRun
      (I := fun t => t.Orderly ∧ t.outlook traits = s.outlook traits ∧
        t.activeView = s.activeView) ?_ es' ⟨horderly, rfl, rfl⟩ hgoes hrun'
    rintro u e u' ⟨hu, houtlook, hactive⟩ hgoes hstep
    obtain ⟨houtlook', hactive'⟩ := goesOn_outlook hu hgoes hstep
    exact ⟨hu.step hstep, houtlook'.trans houtlook, hactive'.trans hactive⟩
  obtain ⟨-, houtlook, hactive⟩ := hsame
  refine ⟨hactive, ?_⟩
  have hshown : t.outlook traits = t.shown := by
    unfold outlook
    rw [beingWritten_of_not hrest.1, hrest.2]
    exact (List.append_nil _).trans (List.append_nil _)
  unfold displayed
  rw [← hshown, houtlook, hactive]

/-- The browser is the active view, and the player is shown. -/
theorem displayed_at_rest_openedAgain :
    ∃ s t : Manager Nat,
      runFrom (step browserAndPlayer) (initial none 0 fun view => view != 0)
        browserOpenedAgain = some s ∧
      runFrom (step browserAndPlayer) s
        [.serializationResult .ok, .written "browser" true, .serializationResult .ok,
          .written "player" true, .serializationResult .ok] = some t ∧
      t.AtRest ∧ t.activeView = 1 ∧ t.displayed = some 2 ∧ ¬s.Displays browserAndPlayer := by
  refine ⟨_, _, rfl, rfl, ⟨by decide, rfl⟩, rfl, rfl, fun hdisplays => ?_⟩
  have hshown := (displayed_at_rest browserAndPlayer none 0 (fun view => view != 0)
    browserOpenedAgain
    [.serializationResult .ok, .written "browser" true, .serializationResult .ok,
      .written "player" true, .serializationResult .ok] _ _ rfl rfl ?_ ⟨by decide, rfl⟩).2.mpr
    (hdisplays ⟨fun _ h => absurd h List.not_mem_nil, by decide⟩)
  · exact absurd hshown (by decide)
  · refine AlongRun.cons_of_step trivial rfl ?_
    refine AlongRun.cons_of_step rfl rfl ?_
    refine AlongRun.cons_of_step trivial rfl ?_
    refine AlongRun.cons_of_step rfl rfl ?_
    exact AlongRun.cons_of_step trivial rfl trivial

end Manager

end Drcpd.Views

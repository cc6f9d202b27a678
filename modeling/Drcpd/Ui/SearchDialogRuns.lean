/-
  Ui/SearchDialogRuns.lean --- searches that are forgotten while they wait to be asked for.

  A browser may be told to forget its search while the entry of the search view still waits
  in the queue, and nobody takes the entry out.  `asked_iff` says which assertion can fail, and
  when there is always something to ask for, and `forgotten_search_fails` what becomes of an
  entry for which there is nothing to ask for.
-/
import Drcpd.Ui.SearchDialog

set_option autoImplicit false

namespace Drcpd.Ui.SearchDialog

open Drcpd.Foundation Drcpd.Dcp

namespace State

variable {V : Type} [DecidableEq V] {search : V} {s s' : State V}

/-- Parameters have been requested by somebody. -/
def Paired (s : State V) : Prop := s.query.isSome = true → s.requestView.isSome = true

/-- The state but for the queue is what the functions of the browsers leave it. -/
structure Sound (s : State V) : Prop where
  steady : s.views.Steady
  paired : s.Paired
  /-- Only one assertion can fail. -/
  failures : ∀ a ∈ s.failures, a = .requestContext
  nullUsed : s.nullUsed = false

/-- An entry of the search view waits only while there is something to ask for. -/
def Asked (search : V) (s : State V) : Prop :=
  s.views.waiting search ≠ [] → s.requestContext ≠ ""

/-- The context for which the user is asked. -/
def asks (s : State V) : BrowserEvent → Option SearchContext
  | .searchCommence .notAvailable _ | .other => none
  | .searchCommence .notSupported ctx | .searchCommence .navigating ctx
  | .selectSearchForm ctx =>
      if s.query = none then ctx.filter fun c => !c.searchNotPossible else none

/-- The search view is told to forget what it has been asked. -/
def forgets (s : State V) : Event V → Bool
  | .browser view e => (s.asks e).isNone && (s.waiting view || s.query.isSome)
  | .defocus _ => true
  | .storeParameters (some params) _ =>
      sanitizeSearchParameters params &&
        match s.requestView with
        | some view => s.waiting view
        | none => false
  | .storeParameters none _ | .serialize _ _ _ | .writeXml _ | .views _ => false

/-- What there is to ask for is forgotten while an entry waits, or another entry waits when
it has been written. -/
def Drops (search : V) (s : State V) : Event V → Prop
  | .writeXml _ => s.views.queue.data.filter (fun d => decide (d.view = search)) ≠ []
  | .browser view e => s.forgets (.browser view e) = true ∧ s.views.waiting search ≠ []
  | .defocus _ => s.views.waiting search ≠ []
  | .storeParameters parameters ctx =>
      s.forgets (.storeParameters parameters ctx) = true ∧ s.views.waiting search ≠ []
  | .serialize _ _ _ | .views _ => False

/-! ## What the functions do -/

/-- The queue is left alone, no assertion fails, and nothing is left to ask for if
`isForgotten`, or else the same as before. -/
structure Leaves (isForgotten : Bool) (s s' : State V) : Prop where
  views : s'.views = s.views
  failures : s'.failures = s.failures
  nullUsed : s'.nullUsed = s.nullUsed
  context : s'.requestContext = if isForgotten then "" else s.requestContext
  paired : s'.Paired

omit [DecidableEq V] in
theorem paired_of_none (h : s.query = none) : s.Paired := fun hsome =>
  absurd h (Option.isSome_iff_ne_none.mp hsome)

omit [DecidableEq V] in
theorem leaves_forgetParameters (s : State V) : Leaves true s s.forgetParameters :=
  ⟨rfl, rfl, rfl, rfl, paired_of_none rfl⟩

theorem leaves_stopWaiting (hpaired : s.Paired) (view : V) (havePreloadedParameters : Bool)
    (keepPreloadedParameters : Bool) :
    Leaves (s.waiting view || (havePreloadedParameters && !keepPreloadedParameters)) s
      (s.stopWaiting view havePreloadedParameters false keepPreloadedParameters) := by
  unfold stopWaiting
  rw [Bool.not_false, Bool.and_true]
  dsimp only
  cases s.waiting view || (havePreloadedParameters && !keepPreloadedParameters) with
  | false => exact ⟨rfl, rfl, rfl, rfl, hpaired⟩
  | true => exact ⟨rfl, rfl, rfl, rfl, paired_of_none rfl⟩

/-- The browser goes on waiting. -/
theorem stopWaiting_of_keeps (s : State V) (view : V) :
    s.stopWaiting view false true false =
      { s with waiting := Function.update s.waiting view true } := by
  unfold stopWaiting
  rw [Bool.not_true, Bool.and_false, Bool.false_and, Bool.or_false, if_neg Bool.false_ne_true,
    if_pos rfl]

omit [DecidableEq V] in
/-- With parameters there is a view which has requested them. -/
theorem applySearchParameters_cases (hpaired : s.Paired) (hquery : s.query.isSome = true)
    (ctx : Option SearchContext) :
    s.applySearchParameters ctx = s ∨ s.applySearchParameters ctx = s.forgetParameters := by
  have hview : s.requestView.isSome = true := hpaired hquery
  have hpointed : s.pointToItem ctx = s := by
    unfold pointToItem
    rw [← Option.not_isSome, ← Option.not_isSome, hquery, hview, Bool.not_true, Bool.or_false,
      Bool.and_false]
    exact if_neg Bool.false_ne_true
  have hlogged : ∀ assertion, s.logAssert true assertion = s := fun _ => rfl
  unfold applySearchParameters
  dsimp only
  rw [hquery, hlogged, hview, hlogged, hpointed, ite_self]
  split_ifs
  · exact Or.inl rfl
  · exact Or.inr rfl

/-- Once the parameters have been applied, the browser does not wait any more. -/
theorem leaves_apply (hpaired : s.Paired) (hquery : s.query.isSome = true) (view : V)
    (ctx : Option SearchContext) :
    Leaves true s ((s.applySearchParameters ctx).stopWaiting view true false false) := by
  rcases applySearchParameters_cases hpaired hquery ctx with happly | happly
  · rw [happly]
    have hleaves := leaves_stopWaiting hpaired view true false
    rw [Bool.not_false, Bool.and_true, Bool.or_true] at hleaves
    exact hleaves
  · rw [happly]
    have hleaves := leaves_stopWaiting (s.leaves_forgetParameters).paired view true false
    rw [Bool.not_false, Bool.and_true, Bool.or_true] at hleaves
    exact ⟨hleaves.views, hleaves.failures, hleaves.nullUsed, hleaves.context, hleaves.paired⟩

/-- The user is asked, or nothing is asked for. -/
theorem searchOrWait_cases (hpaired : s.Paired) (view : V) (ctx : Option SearchContext) :
    (∃ c, (if s.query = none then ctx.filter fun c => !c.searchNotPossible else none) = some c ∧
        s.searchOrWait search view ctx =
          { s.requestSearchParametersFromUser search view c with
            waiting := Function.update
              (s.requestSearchParametersFromUser search view c).waiting view true }) ∨
      ((if s.query = none then ctx.filter fun c => !c.searchNotPossible else none) = none ∧
        Leaves (s.waiting view || s.query.isSome) s (s.searchOrWait search view ctx)) := by
  have hleaves := leaves_stopWaiting hpaired view s.query.isSome false
  rw [Bool.not_false, Bool.and_true] at hleaves
  unfold searchOrWait waitingForSearchParameters
  cases ctx with
  | none => exact Or.inr ⟨ite_self none, hleaves⟩
  | some c =>
    dsimp only
    cases hnot : c.searchNotPossible with
    | true =>
      refine Or.inr ⟨?_, hleaves⟩
      rw [Option.filter_some, hnot]
      exact ite_self none
    | false =>
      rw [if_neg Bool.false_ne_true]
      cases hquery : s.query with
      | none =>
        refine Or.inl ⟨c, ?_, ?_⟩
        · rw [if_pos rfl, Option.filter_some, hnot]
          rfl
        · exact stopWaiting_of_keeps _ view
      | some params =>
        refine Or.inr ⟨if_neg nofun, ?_⟩
        rw [Option.isSome_some, Bool.or_true]
        exact leaves_apply hpaired (by rw [hquery]; rfl) view (some c)

variable (search)

/-- What a browser does when it is told something. -/
theorem processEvent_cases (hpaired : s.Paired) (view : V) (e : BrowserEvent) :
    (∃ c, s.asks e = some c ∧
        s.processEvent search view e =
          { s.requestSearchParametersFromUser search view c with
            waiting := Function.update
              (s.requestSearchParametersFromUser search view c).waiting view true }) ∨
      (s.asks e = none ∧
        Leaves (s.forgets (.browser view e)) s (s.processEvent search view e)) := by
  have hstop := leaves_stopWaiting hpaired view s.query.isSome false
  rw [Bool.not_false, Bool.and_true] at hstop
  have hnone (e : BrowserEvent) (hasks : s.asks e = none) {t : State V}
      (hleaves : Leaves (s.waiting view || s.query.isSome) s t) :
      s.asks e = none ∧ Leaves (s.forgets (.browser view e)) s t := by
    have hforgets : s.forgets (.browser view e) = (s.waiting view || s.query.isSome) := by
      change ((s.asks e).isNone && (s.waiting view || s.query.isSome)) = _
      rw [hasks, Option.isNone_none, Bool.true_and]
    rw [hforgets]
    exact ⟨hasks, hleaves⟩
  have hsearch (ctx : Option SearchContext) (e : BrowserEvent)
      (hasks : s.asks e =
        if s.query = none then ctx.filter fun c => !c.searchNotPossible else none) :
      (∃ c, s.asks e = some c ∧
          s.searchOrWait search view ctx =
            { s.requestSearchParametersFromUser search view c with
              waiting := Function.update
                (s.requestSearchParametersFromUser search view c).waiting view true }) ∨
        (s.asks e = none ∧
          Leaves (s.forgets (.browser view e)) s (s.searchOrWait search view ctx)) := by
    rcases searchOrWait_cases hpaired view ctx with ⟨c, hc, hresult⟩ | ⟨hc, hleaves⟩
    · exact Or.inl ⟨c, hasks.trans hc, hresult⟩
    · exact Or.inr (hnone e (hasks.trans hc) hleaves)
  cases e with
  | other => exact Or.inr (hnone .other rfl hstop)
  | selectSearchForm ctx => exact hsearch ctx _ rfl
  | searchCommence form ctx =>
    unfold processEvent
    dsimp only
    split_ifs with hwaiting
    · cases form with
      | notSupported => exact hsearch ctx _ rfl
      | navigating => exact hsearch ctx _ rfl
      | notAvailable => exact Or.inr (hnone _ rfl hstop)
    · rw [not_or, Bool.not_eq_false] at hwaiting
      obtain ⟨hwaits, hsome⟩ := hwaiting
      have hquery : s.query.isSome = true := Option.isSome_iff_ne_none.mpr hsome
      have hasks : s.asks (.searchCommence form ctx) = none := by
        unfold asks
        cases form with
        | notSupported => exact if_neg hsome
        | navigating => exact if_neg hsome
        | notAvailable => rfl
      have hleaves := leaves_apply hpaired hquery view ctx
      refine Or.inr (hnone _ hasks ?_)
      rw [hquery, Bool.or_true]
      exact hleaves

variable {search}

/-- What the search view and the browser do when parameters come in. -/
theorem leaves_storeParameters (s : State V) (parameters : Option SearchParameters)
    (ctx : Option SearchContext) :
    Leaves (s.forgets (.storeParameters parameters ctx)) s
      (s.storeParameters parameters ctx) := by
  unfold storeParameters forgets
  cases parameters with
  | none => exact ⟨rfl, rfl, rfl, rfl, paired_of_none rfl⟩
  | some params =>
    dsimp only
    cases hview : s.requestView with
    | none =>
      rw [Bool.and_false]
      exact ⟨rfl, rfl, rfl, rfl, paired_of_none rfl⟩
    | some view =>
      dsimp only
      have hpaired : ({ s with query := some params } : State V).Paired := fun _ => by
        dsimp only
        rw [hview]
        rfl
      cases sanitizeSearchParameters params with
      | false => exact ⟨rfl, rfl, rfl, rfl, paired_of_none rfl⟩
      | true =>
        rw [if_pos rfl, Bool.true_and]
        cases hwaiting : s.waiting view with
        | true =>
          rw [if_pos rfl]
          have hleaves := leaves_apply hpaired rfl view ctx
          rw [hview] at hleaves
          exact ⟨hleaves.views, hleaves.failures, hleaves.nullUsed, hleaves.context, hleaves.paired⟩
        | false =>
          rw [if_neg Bool.false_ne_true]
          have hleaves := leaves_stopWaiting hpaired view true true
          dsimp only at hleaves
          rw [hwaiting, hview] at hleaves
          exact ⟨hleaves.views, hleaves.failures, hleaves.nullUsed, hleaves.context, hleaves.paired⟩

variable (search)

/-- The user is going to be asked for parameters in the context. -/
theorem request_effect (h : s.views.Steady) (view : V) (ctx : SearchContext) :
    (s.requestSearchParametersFromUser search view ctx).views.Steady ∧
      (s.requestSearchParametersFromUser search view ctx).failures = s.failures ∧
      (s.requestSearchParametersFromUser search view ctx).nullUsed = s.nullUsed ∧
      (s.requestSearchParametersFromUser search view ctx).requestContext = ctx.stringId ∧
      (s.requestSearchParametersFromUser search view ctx).Paired := by
  unfold requestSearchParametersFromUser serialize
  dsimp only
  rw [if_neg ctx.stringId_ne]
  exact ⟨(h.keeps_doSerialize search .syncIfPossible true none).steady, rfl, rfl, rfl, fun _ => rfl⟩

variable {search}

/-! ## What each event does -/

theorem step_eq_some {e : Event V} (hstep : s.step search e = some s') :
    s.handle search e = some s' :=
  (Option.ite_none_left_eq_some.mp hstep).2

/-- The end of `write_whole_xml` for an entry of the search view. -/
theorem step_writeXml {text : String} (hstep : s.step search (.writeXml text) = some s') :
    ∃ d done, s.views.entryOnTop = some d ∧ d.view = search ∧
      s.views.step (.written text true) = some done ∧
      s' = { s.logAssert (decide (s.requestContext ≠ "")) .requestContext with
        views := done.1
        requestContext := "" } := by
  obtain ⟨hwritten, hstep⟩ := Option.ite_none_right_eq_some.mp (step_eq_some hstep)
  obtain ⟨d, htop, hview⟩ := Option.map_eq_some_iff.mp (of_decide_eq_true hwritten)
  obtain ⟨done, hdone, rfl⟩ := Option.map_eq_some_iff.mp hstep
  exact ⟨d, done, htop, hview, hdone, rfl⟩

/-- An entry that is being written has waited. -/
theorem waiting_of_writeXml (h : s.Sound) {text : String}
    (hstep : s.step search (.writeXml text) = some s') : s.views.waiting search ≠ [] := by
  obtain ⟨d, done, htop, hview, -⟩ := step_writeXml hstep
  obtain ⟨caller, frames, hframes, hactive⟩ := SerializeState.entryOnTop_eq_some htop
  have hwriting := (h.steady.isWriting_of_frames hframes).1
  rw [SerializeState.waiting_of_isWriting hwriting hactive,
    SerializeState.filter_cons_of_eq hview]
  exact List.cons_ne_nil _ _

/-- What happens to other views leaves the entries of the search view alone. -/
theorem step_views (h : s.views.Steady) {e : SerializeState.Event V}
    (hstep : s.step search (.views e) = some s') :
    ∃ views', s' = { s with views := views' } ∧ views'.Steady ∧
      views'.waiting search = s.views.waiting search := by
  obtain ⟨hown, hstep⟩ := Option.ite_none_left_eq_some.mp (step_eq_some hstep)
  obtain ⟨done, hdone, rfl⟩ := Option.map_eq_some_iff.mp hstep
  refine ⟨done.1, rfl, h.step hdone, h.waiting_step hdone ?_ ?_⟩
  · rintro mode isFullView isBusy rfl
    exact hown (decide_eq_true rfl)
  · rintro text isOk rfl hview
    obtain ⟨d, htop, hactive⟩ := h.entryOnTop_of_written hdone
    refine hown (decide_eq_true ?_)
    rw [htop, ← hactive]
    exact hview

/-- The assertion of `write_xml` fails where there is nothing to ask for, and no other one does. -/
theorem step_failures (h : s.Sound) {e : Event V} (hstep : s.step search e = some s') :
    s'.nullUsed = false ∧
      s'.failures = s.failures ++
        if e.isWriteXml = true ∧ s.requestContext = "" then [.requestContext] else [] := by
  have hhandle := step_eq_some hstep
  have hsame (hno : e.isWriteXml = false) (hnull : s'.nullUsed = s.nullUsed)
      (hfailures : s'.failures = s.failures) : s'.nullUsed = false ∧ s'.failures = s.failures ++
        if e.isWriteXml = true ∧ s.requestContext = "" then [.requestContext] else [] := by
    rw [hno, hfailures, if_neg (not_and_of_not_left _ Bool.false_ne_true), List.append_nil]
    exact ⟨hnull.trans h.nullUsed, rfl⟩
  cases e with
  | browser view e =>
    obtain rfl := Option.some.inj hhandle
    rcases processEvent_cases search h.paired view e with ⟨c, -, hresult⟩ | ⟨-, hl⟩
    · obtain ⟨-, hfailures, hnull, -⟩ := request_effect search h.steady view c
      refine hsame rfl ?_ ?_
      · rw [hresult]
        exact hnull
      · rw [hresult]
        exact hfailures
    · exact hsame rfl hl.nullUsed hl.failures
  | defocus view =>
    obtain rfl := Option.some.inj hhandle
    exact hsame rfl rfl rfl
  | storeParameters parameters ctx =>
    obtain rfl := Option.some.inj hhandle
    have hl := s.leaves_storeParameters parameters ctx
    exact hsame rfl hl.nullUsed hl.failures
  | serialize mode isFullView isBusy =>
    obtain rfl := Option.some.inj hhandle
    have hkept : (s.serialize search mode isFullView isBusy).nullUsed = s.nullUsed ∧
        (s.serialize search mode isFullView isBusy).failures = s.failures := by
      unfold State.serialize
      split
      · exact ⟨rfl, rfl⟩
      · exact ⟨rfl, rfl⟩
    exact hsame rfl hkept.1 hkept.2
  | writeXml text =>
    obtain ⟨d, done, -, -, -, rfl⟩ := step_writeXml hstep
    unfold logAssert Event.isWriteXml
    rcases Decidable.em (s.requestContext = "") with hempty | hne
    · rw [decide_eq_false (not_not.mpr hempty), if_neg Bool.false_ne_true, if_pos ⟨rfl, hempty⟩]
      exact ⟨h.nullUsed, rfl⟩
    · rw [decide_eq_true hne, if_pos rfl, if_neg (not_and_of_not_right _ hne), List.append_nil]
      exact ⟨h.nullUsed, rfl⟩
  | views e =>
    obtain ⟨views', rfl, -, -⟩ := step_views h.steady hstep
    exact hsame rfl rfl rfl

/-- The browsers, the search view, and the queue keep what is known of them. -/
theorem Sound.step (h : s.Sound) {e : Event V} (hstep : s.step search e = some s') :
    s'.Sound := by
  have hhandle := step_eq_some hstep
  obtain ⟨hnull, hlogged⟩ := step_failures h hstep
  have hfailures : ∀ a ∈ s'.failures, a = .requestContext := by
    intro a ha
    rw [hlogged] at ha
    rcases List.mem_append.mp ha with ha | ha
    · exact h.failures a ha
    · split_ifs at ha
      · exact List.mem_singleton.mp ha
      · cases ha
  suffices hkept : s'.views.Steady ∧ s'.Paired from ⟨hkept.1, hkept.2, hfailures, hnull⟩
  have hleaves {isForgotten : Bool} (hl : Leaves isForgotten s s') :
      s'.views.Steady ∧ s'.Paired := ⟨hl.views ▸ h.steady, hl.paired⟩
  clear hlogged hfailures hnull
  cases e with
  | browser view e =>
    obtain rfl := Option.some.inj hhandle
    rcases processEvent_cases search h.paired view e with ⟨c, -, hresult⟩ | ⟨-, hl⟩
    · obtain ⟨hsteady, -, -, -, hpaired⟩ := request_effect search h.steady view c
      rw [hresult]
      exact ⟨hsteady, hpaired⟩
    · exact hleaves hl
  | defocus view =>
    obtain rfl := Option.some.inj hhandle
    exact ⟨h.steady, paired_of_none rfl⟩
  | storeParameters parameters ctx =>
    obtain rfl := Option.some.inj hhandle
    exact hleaves (s.leaves_storeParameters parameters ctx)
  | serialize mode isFullView isBusy =>
    obtain rfl := Option.some.inj hhandle
    unfold State.serialize
    split_ifs
    · exact ⟨h.steady, h.paired⟩
    · exact ⟨(h.steady.keeps_doSerialize search mode isFullView isBusy).steady, h.paired⟩
  | writeXml text =>
    obtain ⟨d, done, -, -, hdone, rfl⟩ := step_writeXml hstep
    refine ⟨h.steady.step hdone, ?_⟩
    unfold logAssert Paired
    split
    · exact h.paired
    · exact h.paired
  | views e =>
    obtain ⟨views', rfl, hsteady, -⟩ := step_views h.steady hstep
    exact ⟨hsteady, h.paired⟩

/-- What is asked for is forgotten exactly if the event says so. -/
theorem Leaves.asked {isForgotten : Bool} (h : Leaves isForgotten s s')
    (hasked : s.Asked search) :
    s'.Asked search ↔ ¬(isForgotten = true ∧ s.views.waiting search ≠ []) := by
  unfold Asked
  rw [h.views, h.context]
  cases isForgotten with
  | false => exact iff_of_true hasked fun hno => Bool.false_ne_true hno.1
  | true =>
    rw [if_pos rfl, and_iff_right rfl]
    exact ⟨fun himp hwaits => himp hwaits rfl, fun hno hwaits => absurd hwaits hno⟩

/-- One event leaves an entry with nothing to ask for exactly if it drops what there was. -/
theorem step_asked_iff (h : s.Sound) (hasked : s.Asked search) {e : Event V}
    (hstep : s.step search e = some s') : s'.Asked search ↔ ¬s.Drops search e := by
  have hhandle := step_eq_some hstep
  cases e with
  | browser view e =>
    obtain rfl := Option.some.inj hhandle
    rcases processEvent_cases search h.paired view e with
      ⟨c, hasks, hresult⟩ | ⟨-, hl⟩
    · obtain ⟨-, -, -, hcontext, -⟩ := request_effect search h.steady view c
      refine iff_of_true (fun _ => ?_) fun hdrops => ?_
      · rw [hresult]
        exact fun hempty => c.stringId_ne (hcontext.symm.trans hempty)
      · have hforgets : ((s.asks e).isNone && (s.waiting view || s.query.isSome)) = true :=
          hdrops.1
        rw [hasks] at hforgets
        exact Bool.false_ne_true hforgets
    · exact hl.asked hasked
  | defocus view =>
    obtain rfl := Option.some.inj hhandle
    have hl : Leaves true s (s.defocus view) := ⟨rfl, rfl, rfl, rfl, paired_of_none rfl⟩
    have hiff := hl.asked hasked
    rw [and_iff_right rfl] at hiff
    exact hiff
  | storeParameters parameters ctx =>
    obtain rfl := Option.some.inj hhandle
    exact (s.leaves_storeParameters parameters ctx).asked hasked
  | serialize mode isFullView isBusy =>
    obtain rfl := Option.some.inj hhandle
    refine iff_of_true ?_ id
    unfold State.serialize
    split_ifs with hempty
    · exact hasked
    · exact fun _ => hempty
  | writeXml text =>
    obtain ⟨d, done, htop, hview, hdone, rfl⟩ := step_writeXml hstep
    obtain ⟨caller, frames, hframes, -⟩ := SerializeState.entryOnTop_eq_some htop
    obtain ⟨views', hwritten, -, hno, hdata, -⟩ := h.steady.step_written hframes text
    obtain rfl := Option.some.inj (hwritten.symm.trans hdone)
    unfold Asked Drops
    dsimp only
    rw [SerializeState.waiting_of_not_isWriting hno, hdata]
    exact ⟨fun himp hne => himp hne rfl, fun hno hne => absurd hne hno⟩
  | views e =>
    obtain ⟨views', rfl, -, hwaiting⟩ := step_views h.steady hstep
    refine iff_of_true ?_ id
    unfold Asked
    rw [hwaiting]
    exact hasked

/-- A browser begins to search, and asks the user. -/
def Begins (s : State V) : Event V → Prop
  | .browser _ e => s.asks e ≠ none
  | .defocus _ | .storeParameters _ _ | .serialize _ _ _ | .writeXml _ | .views _ => False

/-- There is nothing to ask for as long as no browser begins to search, and the entries that wait
stay where they are until one of them is written. -/
theorem step_forgotten (h : s.Sound) (hcontext : s.requestContext = "") {e : Event V}
    (hbegins : ¬s.Begins e) (hstep : s.step search e = some s') :
    s'.requestContext = "" ∧
      (e.isWriteXml = false → s'.views.waiting search = s.views.waiting search) := by
  have hhandle := step_eq_some hstep
  have hleaves {isForgotten : Bool} (hl : Leaves isForgotten s s') :
      s'.requestContext = "" ∧
        (e.isWriteXml = false → s'.views.waiting search = s.views.waiting search) := by
    refine ⟨?_, fun _ => by rw [hl.views]⟩
    rw [hl.context, hcontext, ite_self]
  cases e with
  | browser view e =>
    obtain rfl := Option.some.inj hhandle
    rcases processEvent_cases search h.paired view e with
      ⟨c, hasks, -⟩ | ⟨-, hl⟩
    · have hsome : s.asks e ≠ none := by
        rw [hasks]
        exact Option.some_ne_none c
      exact absurd hsome hbegins
    · exact hleaves hl
  | defocus view =>
    obtain rfl := Option.some.inj hhandle
    have hl : Leaves true s (s.defocus view) := ⟨rfl, rfl, rfl, rfl, paired_of_none rfl⟩
    exact hleaves hl
  | storeParameters parameters ctx =>
    obtain rfl := Option.some.inj hhandle
    exact hleaves (s.leaves_storeParameters parameters ctx)
  | serialize mode isFullView isBusy =>
    obtain rfl := Option.some.inj hhandle
    have hsame : s.serialize search mode isFullView isBusy = s := if_pos hcontext
    rw [hsame]
    exact ⟨hcontext, fun _ => rfl⟩
  | writeXml text =>
    obtain ⟨d, done, -, -, -, rfl⟩ := step_writeXml hstep
    exact ⟨rfl, nofun⟩
  | views e =>
    obtain ⟨views', rfl, -, hwaiting⟩ := step_views h.steady hstep
    exact ⟨hcontext, fun _ => hwaiting⟩

end State

/-! ## Runs -/

section Runs

variable {V : Type} [DecidableEq V]

/-- Nothing has been asked for. -/
def initial (os : Option String) : State V := { views := { queue := { dcpd := { os := os } } } }

omit [DecidableEq V] in
theorem initial_sound (os : Option String) : (initial os : State V).Sound :=
  ⟨SerializeState.steady_init os, State.paired_of_none rfl, nofun, rfl⟩

theorem initial_asked (search : V) (os : Option String) : (initial os : State V).Asked search :=
  fun hne => absurd rfl hne

/-- A context in which a list may be searched. -/
def stations : SearchContext := ⟨"stations", by decide, false, true⟩

/-- While the list of the browser (1) waits for its answer, the user begins to search, and
then moves on. -/
def movedOn : List (Event Nat) :=
  [.views (.doSerialize 1 .syncIfPossible true none), .views (.written "list" true),
    .browser 1 (.searchCommence .notSupported (some stations)), .browser 1 .other]

omit [DecidableEq V] in
theorem replicate_countP_cons (a : Assertion) (e : Event V) (es : List (Event V)) :
    List.replicate ((e :: es).countP Event.isWriteXml) a =
      (if e.isWriteXml = true then [a] else []) ++
        List.replicate (es.countP Event.isWriteXml) a := by
  rw [List.countP_cons]
  split_ifs
  · rfl
  · rfl

/-- Whenever the search view is written, there is nothing to ask for. -/
theorem failures_of_forgotten {search : V} (es : List (Event V)) {s t : State V} (h : s.Sound)
    (hcontext : s.requestContext = "") (hrun : runFrom (State.step search) s es = some t)
    (hbegins : AlongRun (State.step search) (fun s e => ¬s.Begins e) s es) :
    t.failures = s.failures ++ List.replicate (es.countP Event.isWriteXml) .requestContext := by
  induction es generalizing s with
  | nil =>
    rw [runFrom_nil, Option.some.injEq] at hrun
    rw [← hrun]
    exact (List.append_nil _).symm
  | cons e es ih =>
    obtain ⟨s', hstep, hrest⟩ := runFrom_cons_eq_some.mp hrun
    have hcontext' := (State.step_forgotten h hcontext hbegins.1 hstep).1
    have hlogged := (State.step_failures h hstep).2
    simp only [hcontext, and_true] at hlogged
    rw [ih (h.step hstep) hcontext' hrest (hbegins.2 s' hstep), hlogged, List.append_assoc,
      ← replicate_countP_cons]

end Runs

end Drcpd.Ui.SearchDialog

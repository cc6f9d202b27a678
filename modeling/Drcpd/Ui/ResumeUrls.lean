/-
  Ui/ResumeUrls.lean --- the resume URLs of the audio sources, which the view manager keeps in a
  section of its configuration file (`view_manager.cc`).

  `deselected_notification` makes the section anew from what the views enumerate, and
  `move_resume_url_by_audio_source_id` is to take a URL out of it.  The section is a map from
  keys to values; a key may have no value.  What is written to the file is the section, and
  nothing reads it back during a run.
-/
import Drcpd.Foundation.Run
import Mathlib.Logic.Function.Basic
import Mathlib.Tactic.SplitIfs

set_option autoImplicit false

namespace Drcpd.Ui

open Foundation (AlongRun alongRun_iff)

/-! ## The section -/

/-- `struct ini_section`: the keys of the section with their values. -/
abbrev IniSection := String → Option (Option String)

/-- `RESUME_CONFIG_SECTION__AUDIO_SOURCES`. -/
def resumeConfigSectionAudioSources : String := "audio sources"

namespace IniSection

/-- `inifile_new_section`. -/
def new : IniSection := fun _ => none

/-- `inifile_section_store_value`. -/
def storeValue (s : IniSection) (key value : String) : IniSection :=
  Function.update s key (some (some value))

/-- `inifile_section_remove_value`. -/
def removeValue (s : IniSection) (key : String) : IniSection := Function.update s key none

end IniSection

/-! ## The view manager -/

/-- `ViewManager::Manager`, with the section for the audio sources in
`resume_configuration_file_`, if there is one. -/
structure Manager where
  resumeSection : Option IniSection

namespace Manager

/-- `ViewWithAudioSourceBase::enumerate_audio_source_resume_urls`, with what
`generate_resume_url` makes for each audio source of the view. -/
def enumerateAudioSourceResumeUrls (audioSources : List (String × String)) :
    List (String × String) :=
  audioSources.filter fun asrc => !asrc.2.isEmpty

/-- The URLs that all views enumerate. -/
def enumeratedUrls (views : List (List (String × String))) : List (String × String) :=
  views.flatMap enumerateAudioSourceResumeUrls

/-- `deselected_notification`; there may be no memory for the section. -/
def deselectedNotification (hasMemory : Bool) (views : List (List (String × String))) : Manager :=
  if hasMemory then
    { resumeSection := some ((enumeratedUrls views).foldl
        (fun s asrc => s.storeValue asrc.1 asrc.2) IniSection.new) }
  else { resumeSection := none }

/-- `do_get_resume_url_by_audio_source_id`. -/
def doGetResumeUrlByAudioSourceId (resumeSection : Option IniSection) (id : String) :
    Option String :=
  match resumeSection with
  | none => none
  | some s => if id.isEmpty then none else (s id).join

/-- `get_resume_url_by_audio_source_id`. -/
def getResumeUrlByAudioSourceId (m : Manager) (id : String) : Option String :=
  doGetResumeUrlByAudioSourceId m.resumeSection id

/-- `move_resume_url_by_audio_source_id`. -/
def moveResumeUrlByAudioSourceId (m : Manager) (id : String) : String × Manager :=
  match doGetResumeUrlByAudioSourceId m.resumeSection id with
  | none => ("", m)
  | some temp =>
      (temp, { resumeSection :=
          m.resumeSection.map (·.removeValue resumeConfigSectionAudioSources) })

/-- The URL that is stored for an audio source. -/
def storedUrl (m : Manager) (id : String) : Option String :=
  m.resumeSection.bind fun s => (s id).join

end Manager

/-! ## Runs -/

/-- The view manager and what it has handed out.  Nothing of the source reads the two lists. -/
structure ResumeState where
  manager : Manager
  /-- The audio sources whose URL has been handed out by a move, and not been stored again. -/
  handedOut : List String := []
  /-- The audio sources whose URL has been handed out since the section was made. -/
  movedSinceMade : List String := []

/-- The calls. -/
inductive ResumeCall where
  | deselected (hasMemory : Bool) (views : List (List (String × String)))
  | get (id : String)
  | move (id : String)
  deriving DecidableEq, Repr

namespace ResumeState

/-- The IDs in `ids`, with the ID of the audio source if a URL has been found for it. -/
def recordMove (id : String) (url? : Option String) (ids : List String) : List String :=
  if url?.isSome then id :: ids else ids

/-- One call. -/
def step (s : ResumeState) : ResumeCall → Option ResumeState
  | .deselected hasMemory views =>
      some { manager := Manager.deselectedNotification hasMemory views
             handedOut := s.handedOut.filter fun id =>
               !hasMemory || !(Manager.enumeratedUrls views).any (·.1 == id) }
  | .get _ => some s
  | .move id =>
      let found := s.manager.getResumeUrlByAudioSourceId id
      some { manager := (s.manager.moveResumeUrlByAudioSourceId id).2
             handedOut := recordMove id found s.handedOut
             movedSinceMade := recordMove id found s.movedSinceMade }

/-- What is promised of a call: a URL that has been handed out is neither found nor handed out
again before it has been stored again, and a move leaves the URLs of all others alone. -/
def HandsOutOnce (s : ResumeState) : ResumeCall → Prop
  | .deselected .. => True
  | .get id => id ∈ s.handedOut → s.manager.getResumeUrlByAudioSourceId id = none
  | .move id =>
      (id ∈ s.handedOut → s.manager.getResumeUrlByAudioSourceId id = none ∧
          (s.manager.moveResumeUrlByAudioSourceId id).1 = "") ∧
        ∀ other, other ≠ id →
          (s.manager.moveResumeUrlByAudioSourceId id).2.storedUrl other =
            s.manager.storedUrl other

/-- The audio source is not one whose URL has been moved since the section was made, and a move
takes out the URL of this audio source if it takes out one at all. -/
def TakesOutOwn (s : ResumeState) : ResumeCall → Prop
  | .deselected .. => True
  | .get id => id ∈ s.movedSinceMade → id = resumeConfigSectionAudioSources
  | .move id =>
      (id ∈ s.movedSinceMade → id = resumeConfigSectionAudioSources) ∧
        (id = resumeConfigSectionAudioSources ∨ (id.isEmpty ∨ s.manager.storedUrl id = none) ∨
          s.manager.storedUrl resumeConfigSectionAudioSources = none)

/-- What the lists of audio sources have to do with the section. -/
structure Invariant (s : ResumeState) : Prop where
  /-- A section that has been made anew has no URL which has not been stored again. -/
  gone : ∀ id ∈ s.handedOut, id ∉ s.movedSinceMade → s.manager.getResumeUrlByAudioSourceId id = none
  /-- A move leaves the URL in the section. -/
  kept : ∀ id ∈ s.movedSinceMade, id ≠ resumeConfigSectionAudioSources →
    ∃ url, s.manager.getResumeUrlByAudioSourceId id = some url
  removed : resumeConfigSectionAudioSources ∈ s.movedSinceMade →
    s.manager.getResumeUrlByAudioSourceId resumeConfigSectionAudioSources = none
  handed : ∀ id ∈ s.movedSinceMade, id ∈ s.handedOut

/-- A manager of which nothing has been moved yet, with any section read from the file. -/
def initial (m : Manager) : ResumeState := { manager := m }

end ResumeState

/-! ## What the calls find -/

namespace Manager

theorem getResumeUrl_eq (m : Manager) (id : String) :
    m.getResumeUrlByAudioSourceId id = if id.isEmpty then none else m.storedUrl id := by
  unfold getResumeUrlByAudioSourceId doGetResumeUrlByAudioSourceId storedUrl
  cases m.resumeSection with
  | none => exact (ite_self none).symm
  | some s => rfl

theorem getResumeUrl_eq_none {m : Manager} {id : String} :
    m.getResumeUrlByAudioSourceId id = none ↔ id.isEmpty ∨ m.storedUrl id = none := by
  rw [getResumeUrl_eq]
  split_ifs with hid
  · exact iff_of_true rfl (.inl hid)
  · exact (or_iff_right hid).symm

theorem move_of_none {m : Manager} {id : String} (h : m.getResumeUrlByAudioSourceId id = none) :
    m.moveResumeUrlByAudioSourceId id = ("", m) := by
  unfold moveResumeUrlByAudioSourceId
  unfold getResumeUrlByAudioSourceId at h
  rw [h]

/-- A move takes out the value of one and the same key, whichever URL it hands out. -/
theorem storedUrl_move_of_some {m : Manager} {id url : String}
    (h : m.getResumeUrlByAudioSourceId id = some url) (other : String) :
    (m.moveResumeUrlByAudioSourceId id).2.storedUrl other =
      if other = resumeConfigSectionAudioSources then none else m.storedUrl other := by
  unfold moveResumeUrlByAudioSourceId
  unfold getResumeUrlByAudioSourceId at h
  rw [h]
  unfold storedUrl IniSection.removeValue
  cases m.resumeSection with
  | none => exact (ite_self none).symm
  | some s =>
    simp only [Option.map_some, Option.bind_some]
    split_ifs with hkey
    · rw [hkey, Function.update_self]
      rfl
    · rw [Function.update_of_ne hkey]

/-- A move makes no URL appear. -/
theorem getResumeUrl_move_of_none {m : Manager} {other : String} (id : String)
    (h : m.getResumeUrlByAudioSourceId other = none) :
    (m.moveResumeUrlByAudioSourceId id).2.getResumeUrlByAudioSourceId other = none := by
  cases hfound : m.getResumeUrlByAudioSourceId id with
  | none =>
    rw [move_of_none hfound]
    exact h
  | some url =>
    rw [getResumeUrl_eq] at h ⊢
    rw [storedUrl_move_of_some hfound]
    split_ifs at h ⊢ <;> first | rfl | exact h

/-- A move leaves every URL in the section but the one for its own key. -/
theorem getResumeUrl_move_of_ne {m : Manager} {other : String} (id : String)
    (h : other ≠ resumeConfigSectionAudioSources) :
    (m.moveResumeUrlByAudioSourceId id).2.getResumeUrlByAudioSourceId other =
      m.getResumeUrlByAudioSourceId other := by
  cases hfound : m.getResumeUrlByAudioSourceId id with
  | none => rw [move_of_none hfound]
  | some url => rw [getResumeUrl_eq, getResumeUrl_eq, storedUrl_move_of_some hfound, if_neg h]

/-- What is found in a new section has been enumerated by a view. -/
theorem getResumeUrl_deselected {hasMemory : Bool} {views : List (List (String × String))}
    {id : String}
    (h : (hasMemory && (enumeratedUrls views).any (·.1 == id)) = false) :
    (deselectedNotification hasMemory views).getResumeUrlByAudioSourceId id = none := by
  have hfold : ∀ (urls : List (String × String)) (s : IniSection), urls.any (·.1 == id) = false →
      urls.foldl (fun s asrc => s.storeValue asrc.1 asrc.2) s id = s id := by
    intro urls
    induction urls with
    | nil => intro s _; rfl
    | cons asrc urls ih =>
      intro s hany
      rw [List.any_cons, Bool.or_eq_false_iff] at hany
      rw [List.foldl_cons, ih _ hany.2]
      exact Function.update_of_ne (Ne.symm (ne_of_beq_false hany.1)) _ _
  rw [getResumeUrl_eq]
  unfold deselectedNotification storedUrl
  cases hasMemory with
  | false => exact ite_self none
  | true =>
    rw [if_pos rfl, Option.bind_some, hfold _ _ h]
    exact ite_self none

end Manager

/-! ## One call -/

namespace ResumeState

theorem mem_recordMove {id other : String} {url? : Option String} {ids : List String} :
    other ∈ recordMove id url? ids ↔ (other = id ∧ url?.isSome) ∨ other ∈ ids := by
  unfold recordMove
  split_ifs with hfound
  · rw [List.mem_cons, and_iff_left hfound]
  · exact (or_iff_right fun h => hfound h.2).symm

theorem invariant_initial (m : Manager) : Invariant (initial m) where
  gone := nofun
  kept := nofun
  removed := nofun
  handed := nofun

theorem invariant_deselected {s : ResumeState} (hasMemory : Bool)
    (views : List (List (String × String))) :
    Invariant
      { manager := Manager.deselectedNotification hasMemory views
        handedOut := s.handedOut.filter fun id =>
          !hasMemory || !(Manager.enumeratedUrls views).any (·.1 == id) } where
  gone := by
    intro id hid _
    obtain ⟨-, hnot⟩ := List.mem_filter.mp hid
    refine Manager.getResumeUrl_deselected ?_
    rw [← Bool.not_and, Bool.not_eq_true'] at hnot
    exact hnot
  kept := nofun
  removed := nofun
  handed := nofun

theorem invariant_move {s : ResumeState} (hs : Invariant s) (id : String) :
    Invariant
      { manager := (s.manager.moveResumeUrlByAudioSourceId id).2
        handedOut := recordMove id (s.manager.getResumeUrlByAudioSourceId id) s.handedOut
        movedSinceMade :=
          recordMove id (s.manager.getResumeUrlByAudioSourceId id) s.movedSinceMade } where
  gone := by
    intro other hhanded hmoved
    rw [mem_recordMove, not_or] at hmoved
    have hbefore := (mem_recordMove.mp hhanded).resolve_left hmoved.1
    exact Manager.getResumeUrl_move_of_none id (hs.gone other hbefore hmoved.2)
  kept := by
    intro other hmoved hother
    rw [Manager.getResumeUrl_move_of_ne id hother]
    rcases mem_recordMove.mp hmoved with ⟨rfl, hfound⟩ | hmoved
    · exact Option.isSome_iff_exists.mp hfound
    · exact hs.kept other hmoved hother
  removed := by
    intro hmoved
    rcases mem_recordMove.mp hmoved with ⟨rfl, hfound⟩ | hmoved
    · obtain ⟨url, hfound⟩ := Option.isSome_iff_exists.mp hfound
      rw [Manager.getResumeUrl_eq, Manager.storedUrl_move_of_some hfound, if_pos rfl]
      exact ite_self none
    · exact Manager.getResumeUrl_move_of_none id (hs.removed hmoved)
  handed := by
    intro other hmoved
    rw [mem_recordMove] at hmoved ⊢
    exact hmoved.imp_right (hs.handed other)

theorem invariant_step (s : ResumeState) (c : ResumeCall) (s' : ResumeState) (hs : Invariant s)
    (hstep : s.step c = some s') : Invariant s' := by
  cases c with
  | deselected hasMemory views =>
    obtain rfl := Option.some.inj hstep
    exact invariant_deselected hasMemory views
  | get id =>
    obtain rfl := Option.some.inj hstep
    exact hs
  | move id =>
    obtain rfl := Option.some.inj hstep
    exact invariant_move hs id

/-- A URL that has been handed out is found no more exactly if the audio source is the one whose
URL every move takes out, or the section has been made anew. -/
theorem notFound_iff {s : ResumeState} (hs : Invariant s) (id : String) :
    (id ∈ s.handedOut → s.manager.getResumeUrlByAudioSourceId id = none) ↔
      (id ∈ s.movedSinceMade → id = resumeConfigSectionAudioSources) := by
  constructor
  · intro h hmoved
    by_contra hid
    obtain ⟨url, hfound⟩ := hs.kept id hmoved hid
    exact Option.some_ne_none url (hfound.symm.trans (h (hs.handed id hmoved)))
  · intro h hhanded
    by_cases hmoved : id ∈ s.movedSinceMade
    · obtain rfl := h hmoved
      exact hs.removed hmoved
    · exact hs.gone id hhanded hmoved

/-- A move leaves the URLs of all others alone exactly if it hands out the one it takes out, or
nothing is taken out. -/
theorem others_unchanged_iff (m : Manager) (id : String) :
    (∀ other, other ≠ id →
        (m.moveResumeUrlByAudioSourceId id).2.storedUrl other = m.storedUrl other) ↔
      (id = resumeConfigSectionAudioSources ∨ (id.isEmpty ∨ m.storedUrl id = none) ∨
        m.storedUrl resumeConfigSectionAudioSources = none) := by
  rw [← Manager.getResumeUrl_eq_none]
  cases hfound : m.getResumeUrlByAudioSourceId id with
  | none =>
    refine iff_of_true (fun other _ => ?_) (.inr (.inl rfl))
    rw [Manager.move_of_none hfound]
  | some url =>
    simp only [Manager.storedUrl_move_of_some hfound, reduceCtorEq, false_or]
    constructor
    · intro h
      refine or_iff_not_imp_left.mpr fun hid => ?_
      have hkey := h resumeConfigSectionAudioSources (Ne.symm hid)
      rw [if_pos rfl] at hkey
      exact hkey.symm
    · intro h other hother
      split_ifs with hkey
      · subst hkey
        exact (h.resolve_left (Ne.symm hother)).symm
      · rfl

theorem handsOutOnce_iff (s : ResumeState) (c : ResumeCall) (hs : Invariant s) :
    s.HandsOutOnce c ↔ s.TakesOutOwn c := by
  cases c with
  | deselected => exact Iff.rfl
  | get id => exact notFound_iff hs id
  | move id =>
    have hnothing : s.manager.getResumeUrlByAudioSourceId id = none →
        (s.manager.moveResumeUrlByAudioSourceId id).1 = "" := by
      intro hfound
      rw [Manager.move_of_none hfound]
    refine and_congr (Iff.trans ?_ (notFound_iff hs id)) (others_unchanged_iff s.manager id)
    exact forall_congr' fun _ => ⟨And.left, fun hfound => ⟨hfound, hnothing hfound⟩⟩

/-! ## Whole histories -/

/-- For every section read from the file and all calls: a URL that has been handed out is not found
again, and no URL is taken out for another, exactly if no audio source is asked for twice. -/
theorem resume_url_handed_out_once_iff (m : Manager) (cs : List ResumeCall) :
    AlongRun step HandsOutOnce (initial m) cs ↔ AlongRun step TakesOutOwn (initial m) cs :=
  alongRun_iff (fun s c s' hs _ => invariant_step s c s' hs) handsOutOnce_iff cs
    (invariant_initial m)

/-- The URL of an USB source is handed out twice. -/
theorem resume_url_handed_out_twice :
    ¬∀ (m : Manager) (cs : List ResumeCall), AlongRun step HandsOutOnce (initial m) cs := by
  intro h
  have hrun := h { resumeSection := some (IniSection.new.storeValue "usb" "track") }
    [.move "usb", .move "usb"]
  have hsecond := (hrun.2 _ rfl).1.1 (List.mem_cons_self ..)
  revert hsecond
  decide

end ResumeState

end Drcpd.Ui

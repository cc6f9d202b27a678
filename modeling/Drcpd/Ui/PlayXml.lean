/-
  Ui/PlayXml.lean --- the document written for the view that shows what is played
  (`view_serialize.hh`, `view_play.cc`).

  `XmlEscape` and gettext are functions of other libraries, and parameters here.  All that
  is used of `XmlEscape` is that its results are character data.

  Everything that comes from outside is escaped, except for the bit rate.  A bit rate that
  is a number has been replaced by a number of the program's own; any other has been left
  as it is.
-/
import Drcpd.Dcp.Queue
import Drcpd.Ui.MetaData

set_option autoImplicit false

namespace Drcpd.Ui

open Drcpd.Foundation Drcpd.Dcp

/-! ## Data -/

/-- `I18n::String` and `I18n::StringView`. -/
structure I18nString where
  string : Text := []
  isSubjectToTranslation : Bool := false

/-- `ViewSerializeBase::ViewID`, without `INVALID`. -/
inductive ViewId where
  | browse
  | play
  | edit
  | message
  | error
  deriving DecidableEq, Repr

/-- `idnames`. -/
def ViewId.idname : ViewId → String
  | browse => "browse"
  | play => "play"
  | edit => "edit"
  | message => "msg"
  | error => "error"

/-- `ScreenID::INVALID_ID`. -/
def invalidScreenId : UInt16 := 0

/-- What `ViewSerializeBase` knows of a view. -/
structure SerializedView where
  onScreenName : List Char
  drcpViewId : ViewId
  dynamicTitle : I18nString := {}

/-- `Player::VisibleStreamState`. -/
inductive VisibleStreamState where
  | stopped
  | buffering
  | playing
  | paused
  | fastForward
  | fastRewind
  deriving DecidableEq, Repr

/-- `DBus::ReportedRepeatMode`. -/
inductive ReportedRepeatMode where
  | off
  | all
  | one
  | unknown
  deriving DecidableEq, Repr

/-- `DBus::ReportedShuffleMode`. -/
inductive ReportedShuffleMode where
  | off
  | on
  | unknown
  deriving DecidableEq, Repr

/-- What is read from `Player::Data`, apart from the meta data; position and duration of
the stream are in milliseconds. -/
structure PlayerState where
  streamPosition : Int := -1
  streamDuration : Int := -1
  streamState : VisibleStreamState := .stopped
  repeatMode : ReportedRepeatMode := .unknown
  shuffleMode : ReportedShuffleMode := .unknown

/-- `UPDATE_FLAGS_STREAM_POSITION`. -/
def updateFlagsStreamPosition : UInt32 := (1 : UInt32) <<< 0

/-- `UPDATE_FLAGS_PLAYBACK_STATE`. -/
def updateFlagsPlaybackState : UInt32 := (1 : UInt32) <<< 1

/-- `UPDATE_FLAGS_PLAYBACK_MODES`. -/
def updateFlagsPlaybackModes : UInt32 := (1 : UInt32) <<< 2

/-- `UPDATE_FLAGS_META_DATA`. -/
def updateFlagsMetaData : UInt32 := (1 : UInt32) <<< 3

/-! ## Writing -/

namespace Text

/-- `c_str`. -/
def cText (t : Text) : Text := t.takeWhile fun p => p.1 ≠ Char.ofNat 0

/-- An element with an ID. -/
def element (name id : String) (body : Text) : Text :=
  own "<" ++ own name ++ own " id=\"" ++ own id ++ own "\">" ++ body ++ own "</" ++ own name ++
    own ">"

/-- An empty element with an ID. -/
def emptyElement (name id : String) : Text :=
  own "<" ++ own name ++ own " id=\"" ++ own id ++ own "\"/>"

/-- `XmlEscape`. -/
def escapedBy (xmlEscape : List Char → List Char) (t : Text) : Text :=
  (xmlEscape t.chars).map (·, .escaped)

end Text

/-- `get_text`. -/
def I18nString.getText (gettext : List Char → List Char) (s : I18nString) : Text :=
  if s.string ≠ [] then
    if s.isSubjectToTranslation then Text.ofExternal (gettext s.string.cText.chars)
    else s.string.cText
  else []

/-- `mk_alt_track_name`. -/
def mkAltTrackName (md : MetaDataSet) : I18nString :=
  if md.values .internalDrcpdTitle ≠ [] then ⟨md.values .internalDrcpdTitle, false⟩
  else if md.values .internalDrcpdUrl ≠ [] then ⟨md.values .internalDrcpdUrl, false⟩
  else ⟨Text.own "(no data available)", true⟩

/-- `get_bitrate`, of any lists in place of the values. -/
def getBitrate {α : Type} (values : MetaDataId → List α) : List α :=
  if (values .bitrate).isEmpty = false then values .bitrate
  else if (values .bitrateNom).isEmpty = false then values .bitrateNom
  else if (values .bitrateMax).isEmpty = false then values .bitrateMax
  else values .bitrateMin

/-- `want_artist_track_album`. -/
def wantArtistTrackAlbum (md : MetaDataSet) : Bool :=
  if md.values .artist ≠ [] ∨ md.values .title ≠ [] ∨ md.values .album ≠ [] then true
  else
    (md.values .internalDrcpdOpaqueLine1).isEmpty &&
      (md.values .internalDrcpdOpaqueLine2).isEmpty &&
      (md.values .internalDrcpdOpaqueLine3).isEmpty

section Write

variable {V : Type} (gettext xmlEscape : List Char → List Char)

/-- The tag `write_xml_begin` opens. -/
def viewTag (data : QueueData V) : String := if data.isFullSerialize then "view" else "update"

/-- The generic tags that `write_xml_begin` writes into the tag it opens. -/
def writeGenericTags (view : SerializedView) (ids : ViewId × UInt16) (data : QueueData V) :
    Text :=
  if data.isFullSerialize then
    (if ids.1 ≠ .error then
      Text.element "text" "title"
        (Text.escapedBy xmlEscape
          (if view.dynamicTitle.string = [] then Text.ofExternal (gettext view.onScreenName)
          else view.dynamicTitle.getText gettext))
    else []) ++
    (if ids.2 ≠ invalidScreenId then
      Text.element "text" "scrid" (Text.number ids.2.toNat)
    else [])
  else []

/-- `write_xml_begin`, with the IDs from `get_dynamic_ids`. -/
def writeXmlBegin (view : SerializedView) (ids : ViewId × UInt16) (data : QueueData V) : Text :=
  Text.own "<" ++ Text.own (viewTag data) ++ Text.own " id=\"" ++ Text.own ids.1.idname ++
    Text.own "\">" ++ writeGenericTags gettext xmlEscape view ids data

/-- `append_busy_value`. -/
def appendBusyValue (busyFlag : Option Bool) (busyStateTriggered : Bool) : Text :=
  if !busyStateTriggered then
    match busyFlag with
    | some b => Text.element "value" "busy" (Text.own (if b then "1" else "0"))
    | none => []
  else if busyFlag ≠ some true then Text.element "value" "busy" (Text.own "1")
  else []

/-- `write_xml_end`. -/
def writeXmlEnd (data : QueueData V) (busyStateTriggered : Bool) : Text :=
  appendBusyValue data.busyFlag busyStateTriggered ++ Text.own "</" ++ Text.own (viewTag data) ++
    Text.own ">"

namespace PlayView

/-- The flags of what is to be written. -/
def updateFlags (data : QueueData V) : UInt32 :=
  if data.isFullSerialize then UInt32.ofNat uint32Max else data.viewUpdateFlags

/-- The meta data that `write_xml` writes. -/
def writeMetaData (md : MetaDataSet) : Text :=
  (if wantArtistTrackAlbum md then
    Text.element "text" "artist" (Text.escapedBy xmlEscape (md.values .artist)) ++
      Text.element "text" "track" (Text.escapedBy xmlEscape (md.values .title)) ++
      Text.element "text" "album" (Text.escapedBy xmlEscape (md.values .album))
  else
    Text.element "text" "line0"
        (Text.escapedBy xmlEscape (md.values .internalDrcpdOpaqueLine1)) ++
      Text.element "text" "line1"
        (Text.escapedBy xmlEscape (md.values .internalDrcpdOpaqueLine2)) ++
      Text.element "text" "line2"
        (Text.escapedBy xmlEscape (md.values .internalDrcpdOpaqueLine3))) ++
    Text.element "text" "alttrack"
      (Text.escapedBy xmlEscape ((mkAltTrackName md).getText gettext)) ++
    Text.element "text" "bitrate" (Text.cText (getBitrate md.values))

/-- The times that `write_xml` writes. -/
def writeTimes (player : PlayerState) : Text :=
  Text.element "value" "timet"
      (if 0 ≤ player.streamDuration then Text.number (player.streamDuration / 1000).toNat
      else []) ++
    (if 0 ≤ player.streamPosition then
      Text.element "value" "timep" (Text.number (player.streamPosition / 1000).toNat)
    else [])

/-- `play_icon`. -/
def playIcon : VisibleStreamState → String
  | .stopped => ""
  | .buffering => ""
  | .playing => "play"
  | .paused => "pause"
  | .fastForward => "ffmode"
  | .fastRewind => "frmode"

/-- The playback modes that `write_xml` writes. -/
def writeModes (player : PlayerState) : Text :=
  (match player.repeatMode with
  | .unknown | .off => Text.emptyElement "icon" "repeat"
  | .all => Text.element "icon" "repeat" (Text.own "repeat all")
  | .one => Text.element "icon" "repeat" (Text.own "repeat")) ++
  match player.shuffleMode with
  | .unknown | .off => Text.emptyElement "icon" "shuffle"
  | .on => Text.element "icon" "shuffle" (Text.own "shuffle")

/-- `write_xml`. -/
def writeXml (md : MetaDataSet) (player : PlayerState) (data : QueueData V) : Text :=
  (if data.isFullSerialize ∧ player.streamState = .buffering then
    Text.element "text" "track"
      (Text.escapedBy xmlEscape (Text.ofExternal (gettext "Buffering".toList)) ++
        Text.own "...")
  else if updateFlags data &&& updateFlagsMetaData ≠ 0 then
    writeMetaData gettext xmlEscape md
  else []) ++
  (if updateFlags data &&& updateFlagsStreamPosition ≠ 0 then writeTimes player else []) ++
  (if updateFlags data &&& updateFlagsPlaybackState ≠ 0 then
    Text.element "icon" "play" (Text.own (playIcon player.streamState))
  else []) ++
  (if updateFlags data &&& updateFlagsPlaybackModes ≠ 0 then writeModes player else [])

/-- `write_whole_xml`.  The IDs are those of `ViewSerializeBase::get_dynamic_ids`, and
`write_xml` never triggers the busy state. -/
def writeWholeXml (view : SerializedView) (md : MetaDataSet) (player : PlayerState)
    (data : QueueData V) : Text :=
  writeXmlBegin gettext xmlEscape view (view.drcpViewId, invalidScreenId) data ++
    writeXml gettext xmlEscape md player data ++ writeXmlEnd data false

end PlayView

end Write

/-! ## Elements -/

namespace Text

variable {xmlEscape : List Char → List Char}

theorem chars_element (name id : String) (body : Text) :
    (element name id body).chars =
      Xml.startTag name.toList [("id".toList, id.toList)] ++ body.chars ++
        Xml.endTag name.toList := by
  simp [element, Xml.startTag, Xml.openTag, Xml.attText, Xml.endTag]

theorem chars_emptyElement (name id : String) :
    (emptyElement name id).chars = Xml.emptyTag name.toList [("id".toList, id.toList)] := by
  simp [emptyElement, Xml.emptyTag, Xml.openTag, Xml.attText]

@[simp] theorem clean_element (name id : String) (body : Text) :
    (element name id body).Clean ↔ body.Clean := by
  simp [element]

@[simp] theorem clean_emptyElement (name id : String) : (emptyElement name id).Clean := by
  simp [emptyElement]

@[simp] theorem clean_escapedBy (t : Text) : (escapedBy xmlEscape t).Clean := by
  intro p hp
  obtain ⟨c, -, rfl⟩ := List.mem_map.mp hp
  exact nofun

@[simp] theorem chars_escapedBy (t : Text) : (escapedBy xmlEscape t).chars = xmlEscape t.chars := by
  simp [chars, escapedBy, Function.comp_def]

/-- The tag of an element with an ID. -/
theorem isTag_id {name id : String} (hname : Xml.isName name.toList = true)
    (hid : Xml.isAttValue id.toList = true) :
    Xml.IsTag name.toList [("id".toList, id.toList)] where
  properName := hname
  properAtts a ha := by
    obtain rfl := List.mem_singleton.mp ha
    exact ⟨show Xml.isName "id".toList = true by decide, hid⟩
  distinct := List.nodup_singleton _

theorem content_element {name id : String} {body : Text}
    (hname : Xml.isName name.toList = true) (hid : Xml.isAttValue id.toList = true)
    (hbody : Xml.CharData body.chars) : Xml.Content (element name id body).chars := by
  rw [chars_element]
  exact Xml.Content.of_element (isTag_id hname hid) (Xml.Content.of_charData hbody)

theorem content_emptyElement {name id : String} (hname : Xml.isName name.toList = true)
    (hid : Xml.isAttValue id.toList = true) : Xml.Content (emptyElement name id).chars := by
  rw [chars_emptyElement]
  exact Xml.Content.of_empty (isTag_id hname hid)

theorem content_append {t u : Text} (ht : Xml.Content t.chars) (hu : Xml.Content u.chars) :
    Xml.Content (t ++ u).chars := by
  rw [chars_append]
  exact ht.append hu

theorem content_nil : Xml.Content (chars []) := Xml.Content.nil

/-- A literal without markup characters. -/
theorem charData_own {s : String}
    (h : (s.toList.all fun c => decide (¬Xml.IsMarkup c)) = true) :
    Xml.CharData (own s).chars := by
  rw [chars_own]
  exact Xml.CharData.of_forall fun c hc => of_decide_eq_true (List.all_eq_true.mp h c hc)

end Text

/-! ## What is written -/

section Document

variable {V : Type} {gettext xmlEscape : List Char → List Char}

theorem writeXmlBegin_clean (view : SerializedView) (ids : ViewId × UInt16)
    (data : QueueData V) : (writeXmlBegin gettext xmlEscape view ids data).Clean := by
  unfold writeXmlBegin writeGenericTags
  split_ifs <;> simp

theorem appendBusyValue_clean (busyFlag : Option Bool) (busyStateTriggered : Bool) :
    (appendBusyValue busyFlag busyStateTriggered).Clean := by
  unfold appendBusyValue
  split_ifs
  · split
    · simp
    · exact Text.clean_nil
  · simp
  · exact Text.clean_nil

namespace PlayView

section Clean

variable (gettext xmlEscape)

/-- The bit rate is all that can be unclean in the meta data. -/
theorem writeMetaData_clean_iff (md : MetaDataSet) :
    (writeMetaData gettext xmlEscape md).Clean ↔ (Text.cText (getBitrate md.values)).Clean := by
  unfold writeMetaData
  split_ifs <;> simp

theorem writeTimes_clean (player : PlayerState) : (writeTimes player).Clean := by
  unfold writeTimes
  split_ifs <;> simp [Text.clean_nil]

theorem writeModes_clean (player : PlayerState) : (writeModes player).Clean := by
  unfold writeModes
  rw [Text.clean_append]
  constructor
  · split <;> simp
  · split <;> simp

/-- The bit rate is written. -/
def WritesBitrate (player : PlayerState) (data : QueueData V) : Prop :=
  ¬(data.isFullSerialize = true ∧ player.streamState = .buffering) ∧
    updateFlags data &&& updateFlagsMetaData ≠ 0

theorem writeXml_clean_iff (md : MetaDataSet) (player : PlayerState) (data : QueueData V) :
    (writeXml gettext xmlEscape md player data).Clean ↔
      (WritesBitrate player data → (Text.cText (getBitrate md.values)).Clean) := by
  have htimes := writeTimes_clean player
  have hmodes := writeModes_clean player
  have hrest : ∀ t : Text, (t ++
      (if updateFlags data &&& updateFlagsStreamPosition ≠ 0 then writeTimes player else []) ++
      (if updateFlags data &&& updateFlagsPlaybackState ≠ 0 then
        Text.element "icon" "play" (Text.own (playIcon player.streamState))
      else []) ++
      (if updateFlags data &&& updateFlagsPlaybackModes ≠ 0 then writeModes player
      else [])).Clean ↔ t.Clean := by
    intro t
    split_ifs <;> simp [htimes, hmodes]
  unfold writeXml WritesBitrate
  rw [hrest]
  split_ifs with hbuffering hmeta
  · simp [hbuffering]
  · rw [writeMetaData_clean_iff]
    simp [hbuffering, hmeta]
  · simp [hmeta, Text.clean_nil]

/-- The whole document has an unescaped character from outside only in the bit rate. -/
theorem writeWholeXml_clean_iff (view : SerializedView) (md : MetaDataSet)
    (player : PlayerState) (data : QueueData V) :
    (writeWholeXml gettext xmlEscape view md player data).Clean ↔
      (WritesBitrate player data → (Text.cText (getBitrate md.values)).Clean) := by
  unfold writeWholeXml writeXmlEnd
  simp [writeXmlBegin_clean, appendBusyValue_clean, writeXml_clean_iff]

end Clean

/-! ## Well-formedness -/

section WellFormed

variable (hescape : ∀ s, Xml.CharData (xmlEscape s))

include hescape

theorem content_escaped {name id : String} (hname : Xml.isName name.toList = true)
    (hid : Xml.isAttValue id.toList = true) (t : Text) :
    Xml.Content (Text.element name id (Text.escapedBy xmlEscape t)).chars := by
  apply Text.content_element hname hid
  rw [Text.chars_escapedBy]
  exact hescape _

theorem writeMetaData_content (md : MetaDataSet)
    (hbitrate : Xml.CharData (Text.cText (getBitrate md.values)).chars) :
    Xml.Content (writeMetaData gettext xmlEscape md).chars := by
  unfold writeMetaData
  refine Text.content_append (Text.content_append ?_ ?_) ?_
  · split_ifs
    all_goals
      refine Text.content_append (Text.content_append ?_ ?_) ?_
      · exact content_escaped hescape (by decide) (by decide) _
      · exact content_escaped hescape (by decide) (by decide) _
      · exact content_escaped hescape (by decide) (by decide) _
  · exact content_escaped hescape (by decide) (by decide) _
  · exact Text.content_element (by decide) (by decide) hbitrate

omit hescape

theorem writeTimes_content (player : PlayerState) : Xml.Content (writeTimes player).chars := by
  unfold writeTimes
  refine Text.content_append (Text.content_element (by decide) (by decide) ?_) ?_
  · split_ifs
    · exact Text.charData_number _
    · exact Xml.CharData.nil
  · split_ifs
    · exact Text.content_element (by decide) (by decide) (Text.charData_number _)
    · exact Text.content_nil

theorem writeState_content (streamState : VisibleStreamState) :
    Xml.Content (Text.element "icon" "play" (Text.own (playIcon streamState))).chars := by
  apply Text.content_element (by decide) (by decide)
  apply Text.charData_own
  cases streamState <;> decide

theorem writeModes_content (player : PlayerState) : Xml.Content (writeModes player).chars := by
  unfold writeModes
  refine Text.content_append ?_ ?_
  · split
    · exact Text.content_emptyElement (by decide) (by decide)
    · exact Text.content_emptyElement (by decide) (by decide)
    · exact Text.content_element (by decide) (by decide) (Text.charData_own (by decide))
    · exact Text.content_element (by decide) (by decide) (Text.charData_own (by decide))
  · split
    · exact Text.content_emptyElement (by decide) (by decide)
    · exact Text.content_emptyElement (by decide) (by decide)
    · exact Text.content_element (by decide) (by decide) (Text.charData_own (by decide))

theorem appendBusyValue_content (busyFlag : Option Bool) (busyStateTriggered : Bool) :
    Xml.Content (appendBusyValue busyFlag busyStateTriggered).chars := by
  unfold appendBusyValue
  split_ifs
  · split
    · rename_i b
      apply Text.content_element (by decide) (by decide)
      apply Text.charData_own
      cases b <;> decide
    · exact Text.content_nil
  · exact Text.content_element (by decide) (by decide) (Text.charData_own (by decide))
  · exact Text.content_nil

include hescape

/-- What `write_xml` writes may stand in an element, if the bit rate may. -/
theorem writeXml_content (md : MetaDataSet) (player : PlayerState) (data : QueueData V)
    (hbitrate : WritesBitrate player data →
      Xml.CharData (Text.cText (getBitrate md.values)).chars) :
    Xml.Content (writeXml gettext xmlEscape md player data).chars := by
  unfold writeXml
  refine Text.content_append (Text.content_append (Text.content_append ?_ ?_) ?_) ?_
  · split_ifs with hbuffering hmeta
    · apply Text.content_element (by decide) (by decide)
      rw [Text.chars_append, Text.chars_escapedBy]
      exact (hescape _).append (Text.charData_own (by decide))
    · exact writeMetaData_content hescape md (hbitrate ⟨hbuffering, hmeta⟩)
    · exact Text.content_nil
  · split_ifs
    · exact writeTimes_content player
    · exact Text.content_nil
  · split_ifs
    · exact writeState_content player.streamState
    · exact Text.content_nil
  · split_ifs
    · exact writeModes_content player
    · exact Text.content_nil

/-- The title and the screen ID, which are escaped and a number. -/
theorem writeGenericTags_content (view : SerializedView) (ids : ViewId × UInt16)
    (data : QueueData V) :
    Xml.Content (writeGenericTags gettext xmlEscape view ids data).chars := by
  unfold writeGenericTags
  split
  · refine Text.content_append ?_ ?_
    · split
      · exact content_escaped hescape (by decide) (by decide) _
      · exact Text.content_nil
    · split
      · exact Text.content_element (by decide) (by decide) (Text.charData_number _)
      · exact Text.content_nil
  · exact Text.content_nil

/-- The document is one element, if the bit rate is character data. -/
theorem writeWholeXml_wellFormed (view : SerializedView) (md : MetaDataSet)
    (player : PlayerState) (data : QueueData V)
    (hbitrate : WritesBitrate player data →
      Xml.CharData (Text.cText (getBitrate md.values)).chars) :
    Xml.WellFormed (writeWholeXml gettext xmlEscape view md player data).chars := by
  refine ⟨(viewTag data).toList, [("id".toList, view.drcpViewId.idname.toList)],
    (writeGenericTags gettext xmlEscape view (view.drcpViewId, invalidScreenId) data ++
      writeXml gettext xmlEscape md player data ++
      appendBusyValue data.busyFlag false).chars, ?_, ?_, ?_⟩
  · apply Text.isTag_id
    · unfold viewTag
      split <;> decide
    · cases view.drcpViewId <;> decide
  · refine Text.content_append (Text.content_append ?_ ?_) ?_
    · exact writeGenericTags_content hescape view _ data
    · exact writeXml_content hescape md player data hbitrate
    · exact appendBusyValue_content _ _
  · simp [writeWholeXml, writeXmlBegin, writeXmlEnd, Xml.startTag, Xml.openTag, Xml.attText,
      Xml.endTag]

end WellFormed

end PlayView

/-! ## The bit rate that is written -/

/-- The bit rate that is chosen, as it was added last. -/
def lastBitrate (ops : List MetaDataOp) : List Char :=
  getBitrate fun id => cStr (lastAdded ops id)

/-- The bit rate of a set is the one chosen among those added last. -/
theorem getBitrate_filled (ops : List MetaDataOp) :
    getBitrate (MetaDataSet.filled ops).values = bitrate (lastBitrate ops) := by
  have hvalue : ∀ id : MetaDataId, id.isBitrate = true →
      (MetaDataSet.filled ops).values id = bitrate (cStr (lastAdded ops id)) := by
    intro id hid
    rw [MetaDataSet.values_filled, MetaDataSet.stored, if_pos hid]
  have hempty : ∀ s, (bitrate s).isEmpty = s.isEmpty := by
    intro s
    rw [Bool.eq_iff_iff, List.isEmpty_iff, List.isEmpty_iff]
    exact bitrate_eq_nil_iff
  unfold lastBitrate getBitrate
  rw [hvalue .bitrate rfl, hvalue .bitrateNom rfl, hvalue .bitrateMax rfl,
    hvalue .bitrateMin rfl, hempty, hempty, hempty]
  split_ifs <;> rfl

/-- The chosen bit rate is what a `const char *` stands for. -/
theorem cStr_lastBitrate (ops : List MetaDataOp) : cStr (lastBitrate ops) = lastBitrate ops := by
  unfold lastBitrate getBitrate
  split_ifs <;> exact cStr_cStr _

/-- Writing a bit rate as a `const char *` does not cut it. -/
theorem cText_bitrate {s : List Char} (h : cStr s = s) : Text.cText (bitrate s) = bitrate s := by
  have hs : ∀ c ∈ s, c ≠ Char.ofNat 0 :=
    fun c hc => of_decide_eq_true (List.takeWhile_eq_self_iff.mp h c hc)
  unfold Text.cText
  rw [List.takeWhile_eq_self_iff]
  intro p hp
  apply decide_eq_true
  rcases Decidable.em (IsBitrate s) with hbitrate | hbitrate
  · rw [bitrate_of_isBitrate hbitrate] at hp
    obtain ⟨c, hc, rfl⟩ := List.mem_map.mp hp
    have hdigit := Nat.isDigit_of_mem_toDigits (by decide) (by decide) hc
    rintro rfl
    exact absurd hdigit (by decide)
  · rw [bitrate_of_not_isBitrate hbitrate] at hp
    obtain ⟨c, hc, rfl⟩ := List.mem_map.mp hp
    exact hs c hc

/-! ## The result -/

/-- Every character from outside has been escaped, and the document is well-formed. -/
structure DocumentSafe (document : Text) : Prop where
  clean : document.Clean
  wellFormed : Xml.WellFormed document.chars

/-- The document written for any meta data is safe if and only if the bit rate is not
written, or the one that is chosen was added as the empty string or as a number. -/
theorem play_document_safe_iff (hescape : ∀ s, Xml.CharData (xmlEscape s))
    (gettext : List Char → List Char) (ops : List MetaDataOp) (view : SerializedView)
    (player : PlayerState) (data : QueueData V) :
    DocumentSafe (PlayView.writeWholeXml gettext xmlEscape view (MetaDataSet.filled ops) player
        data) ↔
      (PlayView.WritesBitrate player data →
        lastBitrate ops = [] ∨ IsBitrate (lastBitrate ops)) := by
  have hbitrate : Text.cText (getBitrate (MetaDataSet.filled ops).values) =
      bitrate (lastBitrate ops) := by
    rw [getBitrate_filled, cText_bitrate (cStr_lastBitrate ops)]
  have hclean := PlayView.writeWholeXml_clean_iff gettext xmlEscape view
    (MetaDataSet.filled ops) player data
  rw [hbitrate, clean_bitrate_iff] at hclean
  constructor
  · exact fun h => hclean.mp h.clean
  · intro h
    refine ⟨hclean.mpr h, PlayView.writeWholeXml_wellFormed hescape view _ player data ?_⟩
    intro hwrites
    rw [hbitrate]
    exact charData_bitrate (h hwrites)

/-- A title with markup characters, and a bit rate that is a number. -/
theorem play_document_safe_title :
    DocumentSafe (PlayView.writeWholeXml id Xml.escape ⟨"Play view".toList, .play, {}⟩
      (MetaDataSet.filled
        [.addByKey "title".toList (some "<a> & b".toList),
          .addByKey "bitrate".toList (some "192000".toList)])
      { streamState := .playing } (⟨(), 0, none, true⟩ : QueueData Unit)) :=
  (play_document_safe_iff Xml.escape_charData id _ _ _ _).mpr fun _ => Or.inr (by decide)

/-- A bit rate that begins a tag leaves the document with an angle bracket too many. -/
theorem bitrate_opens_tag :
    ¬∀ (ops : List MetaDataOp) (view : SerializedView) (player : PlayerState)
        (data : QueueData Unit),
      DocumentSafe (PlayView.writeWholeXml id Xml.escape view (MetaDataSet.filled ops) player
        data) := by
  intro h
  have hsafe := h [.addByKey "bitrate".toList (some "<".toList)] ⟨"Play view".toList, .play, {}⟩
    {} ⟨(), updateFlagsMetaData, none, false⟩
  exact absurd hsafe.wellFormed.count_eq (by decide)

end Document

end Drcpd.Ui

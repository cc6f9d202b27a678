/-
  Foundation/Xml.lean --- well-formed XML documents.

  A document is a list of characters.  `Content` is the grammar of what stands between a
  start tag and its end tag: character data, elements, and empty elements.  Comments,
  processing instructions and CDATA sections are left out, and so is `>` in character
  data.

  Nothing here names a definition of any particular program.
-/
import Mathlib.Data.List.Count
import Mathlib.Data.List.Nodup

set_option autoImplicit false

namespace Drcpd.Foundation.Xml

/-! ## Character data -/

/-- The characters that stand for nothing but markup. -/
def IsMarkup (c : Char) : Prop := c ∈ ['<', '>', '&']

instance (c : Char) : Decidable (IsMarkup c) := by
  unfold IsMarkup
  infer_instance

/-- The predefined entities. -/
inductive Entity where
  | amp
  | lt
  | gt
  | quot
  | apos
  deriving DecidableEq, Repr

namespace Entity

/-- The name of an entity. -/
def name : Entity → List Char
  | amp => "amp".toList
  | lt => "lt".toList
  | gt => "gt".toList
  | quot => "quot".toList
  | apos => "apos".toList

/-- The entity that stands for a character. -/
def ofChar (c : Char) : Option Entity :=
  if c = '&' then some amp
  else if c = '<' then some lt
  else if c = '>' then some gt
  else if c = Char.ofNat 34 then some quot
  else if c = Char.ofNat 39 then some apos
  else none

/-- A reference to an entity. -/
def reference (e : Entity) : List Char := '&' :: e.name ++ [';']

theorem ofChar_of_isMarkup {c : Char} (h : IsMarkup c) : ofChar c ≠ none := by
  rcases List.mem_cons.mp h with rfl | h
  · decide
  · rcases List.mem_cons.mp h with rfl | h
    · decide
    · obtain rfl := List.mem_singleton.mp h
      decide

/-- A reference has no angle brackets. -/
theorem count_reference (e : Entity) :
    e.reference.count '<' = 0 ∧ e.reference.count '>' = 0 := by
  cases e <;> decide

end Entity

/-- Character data: characters that are no markup, and references. -/
inductive CharData : List Char → Prop
  | nil : CharData []
  | char {c : Char} {cs : List Char} (hc : ¬IsMarkup c) (h : CharData cs) : CharData (c :: cs)
  | reference (e : Entity) {cs : List Char} (h : CharData cs) : CharData (e.reference ++ cs)

namespace CharData

/-- A text without markup characters is character data. -/
theorem of_forall {cs : List Char} (h : ∀ c ∈ cs, ¬IsMarkup c) : CharData cs := by
  induction cs with
  | nil => exact nil
  | cons c cs ih =>
    exact char (h c List.mem_cons_self) (ih fun d hd => h d (List.mem_cons_of_mem c hd))

theorem append {cs ds : List Char} (h : CharData cs) (h' : CharData ds) :
    CharData (cs ++ ds) := by
  induction h with
  | nil => exact h'
  | char hc _ ih => exact char hc ih
  | reference e _ ih =>
    rw [List.append_assoc]
    exact reference e ih

/-- Character data has no angle brackets. -/
theorem count_eq_zero {cs : List Char} (h : CharData cs) :
    cs.count '<' = 0 ∧ cs.count '>' = 0 := by
  induction h with
  | nil => exact ⟨rfl, rfl⟩
  | @char c cs hc _ ih =>
    have hlt : c ≠ '<' := fun h => hc (h ▸ by decide)
    have hgt : c ≠ '>' := fun h => hc (h ▸ by decide)
    rw [List.count_cons_of_ne hlt, List.count_cons_of_ne hgt]
    exact ih
  | reference e _ ih =>
    obtain ⟨hlt, hgt⟩ := e.count_reference
    rw [List.count_append, List.count_append, hlt, hgt, ih.1, ih.2]
    exact ⟨rfl, rfl⟩

end CharData

/-- Every character an entity stands for is written as a reference to the entity. -/
def escape (cs : List Char) : List Char :=
  cs.flatMap fun c =>
    match Entity.ofChar c with
    | some e => e.reference
    | none => [c]

theorem escape_charData (cs : List Char) : CharData (escape cs) := by
  induction cs with
  | nil => exact CharData.nil
  | cons c cs ih =>
    rw [escape, List.flatMap_cons]
    cases he : Entity.ofChar c with
    | some e => exact CharData.reference e ih
    | none => exact CharData.char (fun hc => Entity.ofChar_of_isMarkup hc he) ih

/-! ## Tags -/

/-- Whether a name begins with a letter and has only letters and digits. -/
def isName : List Char → Bool
  | [] => false
  | c :: cs => c.isAlpha && cs.all Char.isAlphanum

/-- Whether an attribute value may stand between double quotes. -/
def isAttValue (cs : List Char) : Bool := cs.all fun c => decide (c ∉ "<>&\"".toList)

/-- An attribute, with the blank before it. -/
def attText (a : List Char × List Char) : List Char :=
  ' ' :: a.1 ++ "=\"".toList ++ a.2 ++ "\"".toList

/-- A start tag without its end. -/
def openTag (name : List Char) (atts : List (List Char × List Char)) : List Char :=
  '<' :: name ++ atts.flatMap attText

/-- A start tag. -/
def startTag (name : List Char) (atts : List (List Char × List Char)) : List Char :=
  openTag name atts ++ ['>']

/-- An empty-element tag. -/
def emptyTag (name : List Char) (atts : List (List Char × List Char)) : List Char :=
  openTag name atts ++ "/>".toList

/-- An end tag. -/
def endTag (name : List Char) : List Char := "</".toList ++ name ++ ['>']

/-- A tag with proper names, proper values, and no attribute twice. -/
structure IsTag (name : List Char) (atts : List (List Char × List Char)) : Prop where
  properName : isName name = true
  properAtts : ∀ a ∈ atts, isName a.1 = true ∧ isAttValue a.2 = true
  distinct : (atts.map Prod.fst).Nodup

/-! ## Documents -/

/-- What may stand between a start tag and its end tag. -/
inductive Content : List Char → Prop
  | nil : Content []
  | text {cs rest : List Char} (h : CharData cs) (hrest : Content rest) : Content (cs ++ rest)
  | element {name : List Char} {atts : List (List Char × List Char)}
      {body rest : List Char} (htag : IsTag name atts) (hbody : Content body)
      (hrest : Content rest) :
      Content (startTag name atts ++ body ++ endTag name ++ rest)
  | empty {name : List Char} {atts : List (List Char × List Char)} {rest : List Char}
      (htag : IsTag name atts) (hrest : Content rest) :
      Content (emptyTag name atts ++ rest)

/-- A well-formed document is one element. -/
def WellFormed (document : List Char) : Prop :=
  ∃ name atts body, IsTag name atts ∧ Content body ∧
    document = startTag name atts ++ body ++ endTag name

namespace Content

theorem append {cs ds : List Char} (h : Content cs) (h' : Content ds) : Content (cs ++ ds) := by
  induction h with
  | nil => exact h'
  | text hcs _ ih =>
    rw [List.append_assoc]
    exact text hcs ih
  | element htag hbody _ _ ih =>
    rw [List.append_assoc]
    exact element htag hbody ih
  | empty htag _ ih =>
    rw [List.append_assoc]
    exact empty htag ih

theorem of_charData {cs : List Char} (h : CharData cs) : Content cs := by
  have ht := text h nil
  rwa [List.append_nil] at ht

/-- One element. -/
theorem of_element {name : List Char} {atts : List (List Char × List Char)}
    {body : List Char} (htag : IsTag name atts) (hbody : Content body) :
    Content (startTag name atts ++ body ++ endTag name) := by
  have he := element htag hbody nil
  rwa [List.append_nil] at he

/-- One empty element. -/
theorem of_empty {name : List Char} {atts : List (List Char × List Char)}
    (htag : IsTag name atts) : Content (emptyTag name atts) := by
  have he := empty htag nil
  rwa [List.append_nil] at he

end Content

/-! ## Angle brackets come in pairs -/

section Balance

theorem count_eq_zero_of_isName {name : List Char} (h : isName name = true) :
    name.count '<' = 0 ∧ name.count '>' = 0 := by
  have halnum : ∀ c ∈ name, c.isAlphanum = true := by
    cases name with
    | nil => cases h
    | cons c cs =>
      obtain ⟨hc, hcs⟩ := Bool.and_eq_true_iff.mp h
      intro d hd
      rcases List.mem_cons.mp hd with rfl | hd
      · rw [Char.isAlphanum, hc]
        rfl
      · exact List.all_eq_true.mp hcs d hd
  constructor
  · exact List.count_eq_zero.mpr fun hmem => absurd (halnum _ hmem) (by decide)
  · exact List.count_eq_zero.mpr fun hmem => absurd (halnum _ hmem) (by decide)

theorem count_eq_zero_of_isAttValue {value : List Char} (h : isAttValue value = true) :
    value.count '<' = 0 ∧ value.count '>' = 0 := by
  have hnot : ∀ c ∈ value, c ∉ "<>&\"".toList :=
    fun c hc => of_decide_eq_true (List.all_eq_true.mp h c hc)
  constructor
  · exact List.count_eq_zero.mpr fun hmem => hnot _ hmem (by decide)
  · exact List.count_eq_zero.mpr fun hmem => hnot _ hmem (by decide)

theorem IsTag.count_openTag {name : List Char} {atts : List (List Char × List Char)}
    (h : IsTag name atts) :
    (openTag name atts).count '<' = 1 ∧ (openTag name atts).count '>' = 0 := by
  have hatts : (atts.flatMap attText).count '<' = 0 ∧
      (atts.flatMap attText).count '>' = 0 := by
    have hone : ∀ a ∈ atts, '<' ∉ attText a ∧ '>' ∉ attText a := by
      intro a ha
      obtain ⟨hname, hvalue⟩ := h.properAtts a ha
      have hn := count_eq_zero_of_isName hname
      have hv := count_eq_zero_of_isAttValue hvalue
      rw [List.count_eq_zero, List.count_eq_zero] at hn hv
      simp [attText, hn, hv]
    constructor
    · rw [List.count_eq_zero, List.mem_flatMap]
      rintro ⟨a, ha, hmem⟩
      exact (hone a ha).1 hmem
    · rw [List.count_eq_zero, List.mem_flatMap]
      rintro ⟨a, ha, hmem⟩
      exact (hone a ha).2 hmem
  obtain ⟨hlt, hgt⟩ := count_eq_zero_of_isName h.properName
  simp [openTag, hatts, hlt, hgt]

theorem count_endTag {name : List Char} (h : isName name = true) :
    (endTag name).count '<' = 1 ∧ (endTag name).count '>' = 1 := by
  obtain ⟨hlt, hgt⟩ := count_eq_zero_of_isName h
  simp [endTag, hlt, hgt]

/-- Each tag opens and closes its own angle brackets. -/
theorem Content.count_eq {cs : List Char} (h : Content cs) : cs.count '<' = cs.count '>' := by
  induction h with
  | nil => rfl
  | text hcs _ ih =>
    rw [List.count_append, List.count_append, hcs.count_eq_zero.1, hcs.count_eq_zero.2, ih]
  | element htag _ _ ihbody ihrest =>
    obtain ⟨hlt, hgt⟩ := htag.count_openTag
    obtain ⟨hlt', hgt'⟩ := count_endTag htag.properName
    simp [startTag, hlt, hgt, hlt', hgt', ihbody, ihrest]
    omega
  | empty htag _ ih =>
    obtain ⟨hlt, hgt⟩ := htag.count_openTag
    simp [emptyTag, hlt, hgt, ih]
    omega

theorem WellFormed.count_eq {document : List Char} (h : WellFormed document) :
    document.count '<' = document.count '>' := by
  obtain ⟨name, atts, body, htag, hbody, rfl⟩ := h
  exact (Content.of_element htag hbody).count_eq

end Balance

end Drcpd.Foundation.Xml

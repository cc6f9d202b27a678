/-
  Ui/MetaData.lean --- meta data of a stream, as it is shown (`metadata.cc`,
  `view_play.cc`).

  A `Text` is a list of characters that know where they come from, so that it can be said
  of an output which of its characters come from outside.  `lastAdded` is what was added
  last to a set of meta data under an ID; `values_filled` says that the set holds just
  this, reformatted if it is a bit rate.

  Strings are lists of characters; their encoding is not modelled.  A `const char *` is
  what lies in memory from where it points, and ends before the first null character.
-/
import Mathlib.Algebra.Group.Nat.Defs
import Mathlib.Tactic.Common
import Mathlib.Data.List.TakeWhile
import Drcpd.Foundation.Xml

set_option autoImplicit false

namespace Drcpd.Ui

open Drcpd.Foundation

/-! ## Texts -/

/-- Where a character comes from: from the program itself, from outside (meta data,
titles, and the message catalogue), or from `XmlEscape`. -/
inductive Origin where
  | program
  | external
  | escaped
  deriving DecidableEq, Repr

/-- A text, each character with its origin. -/
abbrev Text : Type := List (Char × Origin)

namespace Text

/-- The characters. -/
def chars (t : Text) : List Char := t.map Prod.fst

/-- A string literal of the program. -/
def own (s : String) : Text := s.toList.map (·, .program)

/-- A string from outside. -/
def ofExternal (s : List Char) : Text := s.map (·, .external)

/-- A number, as `operator<<` writes it. -/
def number (n : Nat) : Text := (Nat.toDigits 10 n).map (·, .program)

/-- No character has come from outside without being escaped. -/
def Clean (t : Text) : Prop := ∀ p ∈ t, p.2 ≠ .external

@[simp] theorem chars_append (t u : Text) : chars (t ++ u) = t.chars ++ u.chars :=
  List.map_append

@[simp] theorem chars_own (s : String) : (own s).chars = s.toList := by
  simp [chars, own, Function.comp_def]

@[simp] theorem chars_ofExternal (s : List Char) : (ofExternal s).chars = s := by
  simp [chars, ofExternal, Function.comp_def]

@[simp] theorem chars_number (n : Nat) : (number n).chars = Nat.toDigits 10 n := by
  simp [chars, number, Function.comp_def]

theorem clean_nil : Clean [] := nofun

@[simp] theorem clean_append (t u : Text) : Clean (t ++ u) ↔ t.Clean ∧ u.Clean :=
  List.forall_mem_append

@[simp] theorem clean_own (s : String) : (own s).Clean := by
  intro p hp
  obtain ⟨c, -, rfl⟩ := List.mem_map.mp hp
  exact nofun

@[simp] theorem clean_number (n : Nat) : (number n).Clean := by
  intro p hp
  obtain ⟨c, -, rfl⟩ := List.mem_map.mp hp
  exact nofun

/-- A string from outside is clean only if it is empty. -/
theorem clean_ofExternal_iff (s : List Char) : (ofExternal s).Clean ↔ s = [] := by
  cases s with
  | nil => exact iff_of_true clean_nil rfl
  | cons c cs =>
    refine iff_of_false (fun h => ?_) nofun
    exact h (c, .external) List.mem_cons_self rfl

theorem number_ne_nil (n : Nat) : number n ≠ [] := by
  intro h
  exact Nat.toDigits_ne_nil (List.map_eq_nil_iff.mp h)

/-- A number has no markup characters. -/
theorem charData_number (n : Nat) : Xml.CharData (number n).chars := by
  rw [chars_number]
  refine Xml.CharData.of_forall fun c hc hmarkup => ?_
  have hdigit : c.isDigit = true := Nat.isDigit_of_mem_toDigits (by decide) (by decide) hc
  rcases List.mem_cons.mp hmarkup with rfl | hmarkup
  · exact absurd hdigit (by decide)
  · rcases List.mem_cons.mp hmarkup with rfl | hmarkup
    · exact absurd hdigit (by decide)
    · obtain rfl := List.mem_singleton.mp hmarkup
      exact absurd hdigit (by decide)

end Text

/-! ## Strings -/

/-- What a `const char *` stands for. -/
def cStr (s : List Char) : List Char := s.takeWhile fun c => c ≠ Char.ofNat 0

@[simp] theorem cStr_cStr (s : List Char) : cStr (cStr s) = cStr s := by
  simp [cStr, List.takeWhile_idem]

/-- `UINT32_MAX`. -/
def uint32Max : Nat := 2 ^ 32 - 1

/-- `ULONG_MAX`. -/
def ulongMax : Nat := 2 ^ 64 - 1

/-- The number a string of decimal digits stands for. -/
def decimal (s : List Char) : Nat := s.foldl (fun n c => 10 * n + (c.toNat - '0'.toNat)) 0

/-- The results of `strtoul`: the number, what `endptr` points to, and whether `errno`
has been set to `ERANGE`. -/
structure StrtoulResult where
  value : Nat
  endptr : List Char
  outOfRange : Bool

/-- `strtoul`, for a string that begins with a digit. -/
def strtoul (s : List Char) : StrtoulResult :=
  let value := decimal (s.takeWhile Char.isDigit)
  { value := min value ulongMax
    endptr := s.dropWhile Char.isDigit
    outOfRange := decide (ulongMax < value) }

/-- `MetaData::Reformatters::bitrate`.  The source does not clear `errno`, but the
number it looks at `errno` for is too large anyway. -/
def bitrate (s : List Char) : Text :=
  let c := s.headD (Char.ofNat 0)
  if c < '0' ∨ '9' < c then Text.ofExternal s
  else
    let r := strtoul s
    if r.endptr ≠ [] ∨ (r.value = ulongMax ∧ r.outOfRange = true) ∨ uint32Max < r.value then
      Text.ofExternal s
    else Text.number ((r.value + 500) / 1000)

/-- A number of bits per second. -/
structure IsBitrate (s : List Char) : Prop where
  nonempty : s ≠ []
  digits : ∀ c ∈ s, c.isDigit = true
  bound : decimal s ≤ uint32Max

instance (s : List Char) : Decidable (IsBitrate s) :=
  decidable_of_iff (s ≠ [] ∧ s.all Char.isDigit = true ∧ decimal s ≤ uint32Max)
    ⟨fun h => ⟨h.1, List.all_eq_true.mp h.2.1, h.2.2⟩,
      fun h => ⟨h.nonempty, List.all_eq_true.mpr h.digits, h.bound⟩⟩

section Bitrate

variable {s : List Char}

theorem isDigit_iff (c : Char) : c.isDigit = true ↔ ¬(c < '0' ∨ '9' < c) := by
  rw [not_or, Char.not_lt, Char.not_lt]
  simp [Char.isDigit, Char.le_def]

/-- A number of bits per second is written in kilobits per second. -/
theorem bitrate_of_isBitrate (h : IsBitrate s) :
    bitrate s = Text.number ((decimal s + 500) / 1000) := by
  have hhead : ¬(s.headD (Char.ofNat 0) < '0' ∨ '9' < s.headD (Char.ofNat 0)) := by
    cases s with
    | nil => exact absurd rfl h.nonempty
    | cons c cs => exact (isDigit_iff c).mp (h.digits c List.mem_cons_self)
  have htake : s.takeWhile Char.isDigit = s := List.takeWhile_eq_self_iff.mpr h.digits
  have hdrop : s.dropWhile Char.isDigit = [] := List.dropWhile_eq_nil_iff.mpr h.digits
  have hbound := h.bound
  have hmin : min (decimal s) ulongMax = decimal s := by
    apply min_eq_left
    exact le_trans hbound (by decide)
  have hrange : ¬ulongMax < decimal s := by
    apply not_lt.mpr
    exact le_trans hbound (by decide)
  unfold bitrate strtoul
  simp only [if_neg hhead, htake, hdrop, hmin, hrange, decide_false]
  rw [if_neg]
  simpa using hbound

/-- Everything else is left as it is. -/
theorem bitrate_of_not_isBitrate (h : ¬IsBitrate s) : bitrate s = Text.ofExternal s := by
  unfold bitrate
  dsimp only
  split_ifs with hhead hfailed
  · rfl
  · rfl
  · exfalso
    rw [not_or, not_or, not_not, not_lt] at hfailed
    obtain ⟨hend, -, hvalue⟩ := hfailed
    have hdigits : ∀ c ∈ s, c.isDigit = true := List.dropWhile_eq_nil_iff.mp hend
    refine h ⟨?_, hdigits, ?_⟩
    · rintro rfl
      exact hhead (by decide)
    · unfold strtoul at hvalue
      rw [List.takeWhile_eq_self_iff.mpr hdigits] at hvalue
      have hmax : uint32Max < ulongMax := by decide
      dsimp only at hvalue
      omega

theorem bitrate_eq_nil_iff : bitrate s = [] ↔ s = [] := by
  rcases Decidable.em (IsBitrate s) with h | h
  · rw [bitrate_of_isBitrate h]
    exact iff_of_false (Text.number_ne_nil _) h.nonempty
  · rw [bitrate_of_not_isBitrate h]
    exact List.map_eq_nil_iff

theorem clean_bitrate_iff : (bitrate s).Clean ↔ s = [] ∨ IsBitrate s := by
  rcases Decidable.em (IsBitrate s) with h | h
  · rw [bitrate_of_isBitrate h]
    exact iff_of_true (Text.clean_number _) (Or.inr h)
  · rw [bitrate_of_not_isBitrate h, Text.clean_ofExternal_iff]
    exact ⟨Or.inl, fun hs => hs.resolve_right h⟩

theorem charData_bitrate (h : s = [] ∨ IsBitrate s) : Xml.CharData (bitrate s).chars := by
  rcases h with rfl | h
  · rw [bitrate_eq_nil_iff.mpr rfl]
    exact Xml.CharData.nil
  · rw [bitrate_of_isBitrate h]
    exact Text.charData_number _

end Bitrate

/-! ## Sets of meta data -/

/-- `MetaData::Set::ID`. -/
inductive MetaDataId where
  | title
  | artist
  | album
  | codec
  | bitrate
  | bitrateMin
  | bitrateMax
  | bitrateNom
  | internalDrcpdTitle
  | internalDrcpdOpaqueLine1
  | internalDrcpdOpaqueLine2
  | internalDrcpdOpaqueLine3
  | internalDrcpdUrl
  deriving DecidableEq, Repr

namespace MetaDataId

/-- Whether the ID comes after `METADATA_ID_LAST_REGULAR`. -/
def isInternal : MetaDataId → Bool
  | title | artist | album | codec | bitrate | bitrateMin | bitrateMax | bitrateNom => false
  | internalDrcpdTitle | internalDrcpdOpaqueLine1 | internalDrcpdOpaqueLine2
  | internalDrcpdOpaqueLine3 | internalDrcpdUrl => true

/-- Whether `MetaData::Set::add` reformats the values of the ID. -/
def isBitrate : MetaDataId → Bool
  | bitrate | bitrateMin | bitrateMax | bitrateNom => true
  | title | artist | album | codec | internalDrcpdTitle | internalDrcpdOpaqueLine1
  | internalDrcpdOpaqueLine2 | internalDrcpdOpaqueLine3 | internalDrcpdUrl => false

end MetaDataId

/-- `key_to_id`. -/
def keyToId : List (String × MetaDataId) :=
  [("title", .title),
    ("artist", .artist),
    ("album", .album),
    ("audio-codec", .codec),
    ("bitrate", .bitrate),
    ("minimum-bitrate", .bitrateMin),
    ("maximum-bitrate", .bitrateMax),
    ("nominal-bitrate", .bitrateNom),
    ("x-drcpd-title", .internalDrcpdTitle),
    ("x-drcpd-line-1", .internalDrcpdOpaqueLine1),
    ("x-drcpd-line-2", .internalDrcpdOpaqueLine2),
    ("x-drcpd-line-3", .internalDrcpdOpaqueLine3),
    ("x-drcpd-url", .internalDrcpdUrl)]

/-- `MetaData::Set`. -/
structure MetaDataSet where
  values : MetaDataId → Text := fun _ => []

namespace MetaDataSet

/-- `clear`. -/
def clear (md : MetaDataSet) (keepInternals : Bool) : MetaDataSet :=
  { values := fun id => if keepInternals && id.isInternal then md.values id else [] }

/-- `add` of a `const char *`, which may be null. -/
def add (md : MetaDataSet) (id : MetaDataId) (value : Option (List Char)) : MetaDataSet :=
  { values := Function.update md.values id
      (match value with
      | none => []
      | some value =>
          if id.isBitrate then bitrate (cStr value) else Text.ofExternal (cStr value)) }

/-- `add` of a `std::string`. -/
def addString (md : MetaDataSet) (id : MetaDataId) (value : List Char) : MetaDataSet :=
  { values := Function.update md.values id
      (if id.isBitrate then bitrate (cStr value) else Text.ofExternal value) }

/-- The ID of a key. -/
def findId (key : List Char) : Option MetaDataId :=
  (keyToId.find? fun entry => cStr key = entry.1.toList).map Prod.snd

/-- `add` with a key. -/
def addByKey (md : MetaDataSet) (key : List Char) (value : Option (List Char)) :
    MetaDataSet :=
  match findId key with
  | some id => md.add id value
  | none => md

end MetaDataSet

/-- The calls that fill a set. -/
inductive MetaDataOp where
  | add (id : MetaDataId) (value : Option (List Char))
  | addString (id : MetaDataId) (value : List Char)
  | addByKey (key : List Char) (value : Option (List Char))
  | clear (keepInternals : Bool)

namespace MetaDataSet

/-- One call. -/
def apply (md : MetaDataSet) : MetaDataOp → MetaDataSet
  | .add id value => md.add id value
  | .addString id value => md.addString id value
  | .addByKey key value => md.addByKey key value
  | .clear keepInternals => md.clear keepInternals

/-- A set after calls. -/
def filled (ops : List MetaDataOp) : MetaDataSet := ops.foldl apply {}

end MetaDataSet

/-! ## What was added last -/

namespace MetaDataOp

/-- What a call adds under an ID, if it is about this ID; a null pointer and clearing
add the empty string. -/
def added (id : MetaDataId) : MetaDataOp → Option (List Char)
  | .add id' value => if id' = id then some (cStr (value.getD [])) else none
  | .addString id' value => if id' = id then some value else none
  | .addByKey key value =>
      if MetaDataSet.findId key = some id then some (cStr (value.getD [])) else none
  | .clear keepInternals => if keepInternals && id.isInternal then none else some []

end MetaDataOp

/-- What was added last under an ID. -/
def lastAdded (ops : List MetaDataOp) (id : MetaDataId) : List Char :=
  ops.foldl (fun value op => (op.added id).getD value) []

namespace MetaDataSet

/-- How a string is stored under an ID. -/
def stored (id : MetaDataId) (value : List Char) : Text :=
  if id.isBitrate then bitrate (cStr value) else Text.ofExternal value

theorem stored_nil (id : MetaDataId) : stored id [] = [] := by
  unfold stored
  split_ifs
  · exact bitrate_eq_nil_iff.mpr rfl
  · rfl

theorem add_values (md : MetaDataSet) (id : MetaDataId) (value : Option (List Char)) :
    (md.add id value).values =
      Function.update md.values id (stored id (cStr (value.getD []))) := by
  cases value with
  | none =>
    change Function.update md.values id [] = _
    rw [show cStr (Option.getD (none : Option (List Char)) []) = [] from rfl, stored_nil]
  | some value =>
    unfold add stored
    rw [Option.getD_some, cStr_cStr]

/-- One call stores what it adds, and leaves the other values alone. -/
theorem apply_values (md : MetaDataSet) (op : MetaDataOp) (id : MetaDataId) :
    (md.apply op).values id =
      match op.added id with
      | some value => stored id value
      | none => md.values id := by
  have hupdate : ∀ id' (value : List Char),
      Function.update md.values id' (stored id' value) id =
        match (if id' = id then some value else none) with
        | some value => stored id value
        | none => md.values id := by
    intro id' value
    split_ifs with h
    · rw [h, Function.update_self]
    · rw [Function.update_of_ne (Ne.symm h)]
  cases op with
  | add id' value =>
    rw [apply, add_values]
    exact hupdate id' _
  | addString id' value => exact hupdate id' value
  | addByKey key value =>
    change (md.addByKey key value).values id =
      match (if findId key = some id then some (cStr (value.getD [])) else none) with
      | some value => stored id value
      | none => md.values id
    unfold addByKey
    cases hid : findId key with
    | none => rfl
    | some id' =>
      dsimp only
      rw [add_values, hupdate id']
      simp only [Option.some.injEq]
  | clear keepInternals =>
    unfold apply clear MetaDataOp.added
    dsimp only
    split_ifs
    · rfl
    · exact (stored_nil id).symm

/-- A set holds what was added last. -/
theorem values_filled (ops : List MetaDataOp) (id : MetaDataId) :
    (filled ops).values id = stored id (lastAdded ops id) := by
  have hfold : ∀ (ops : List MetaDataOp) (md : MetaDataSet) (value : List Char),
      md.values id = stored id value →
      (ops.foldl apply md).values id =
        stored id (ops.foldl (fun value op => (op.added id).getD value) value) := by
    intro ops
    induction ops with
    | nil => exact fun _ _ h => h
    | cons op ops ih =>
      intro md value h
      apply ih
      change (md.apply op).values id = stored id ((op.added id).getD value)
      rw [apply_values]
      cases op.added id with
      | none => exact h
      | some value' => rfl
  exact hfold ops {} [] (stored_nil id).symm

end MetaDataSet

end Drcpd.Ui

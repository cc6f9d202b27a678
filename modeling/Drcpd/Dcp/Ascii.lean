/-
  Dcp/Ascii.lean --- documents in the log (`to_ascii` in `dcp_transaction.cc`).

  `Transaction::commit` logs the document it sends, with all bytes that cannot be printed
  replaced by escape sequences.  The text is put together in a static buffer, whose content is
  that of the last call; the bytes behind it belong to something else.
-/
import Mathlib.Data.List.GetD
import Mathlib.Data.List.TakeWhile
import Drcpd.Foundation.Memory

set_option autoImplicit false

namespace Drcpd.Dcp

open Foundation (Memory)

/-- `sizeof(buffer)`. -/
def asciiBufferSize : Nat := 16 * 1024

/-- `nibble_to_char`. -/
def nibbleToChar (nibble : UInt8) : UInt8 :=
  if nibble < 10 then 48 + nibble else 97 + (nibble - 10)

/-- `isascii` and `isprint`. -/
def isPlain (ch : UInt8) : Bool := decide (32 ≤ ch ∧ ch ≤ 126)

/-- The escape sequence for a byte, such as `{0x0a}`. -/
def escapeSequence (ch : UInt8) : List UInt8 :=
  [123, 48, 120, nibbleToChar ((ch >>> 4) &&& 0x0f), nibbleToChar (ch &&& 0x0f), 125]

/-- The loop of `to_ascii`.  The text is followed by a NUL character. -/
def asciiLoop : List UInt8 → Nat → Memory UInt8 → Memory UInt8
  | [], i, buffer => if i < asciiBufferSize then buffer.store i 0 else buffer
  | ch :: rest, i, buffer =>
      if i < asciiBufferSize then
        if ch = 0 then buffer.store i 0
        else if isPlain ch then asciiLoop rest (i + 1) (buffer.store i ch)
        else asciiLoop rest (i + 6) (buffer.storeAll i (escapeSequence ch))
      else buffer

/-- `to_ascii`. -/
def toAscii (buffer : Memory UInt8) (text : List UInt8) : Memory UInt8 :=
  (asciiLoop text 0 (buffer.store 0 0)).store (asciiBufferSize - 1) 0

/-- The string in the buffer. -/
def asciiString (buffer : Memory UInt8) : List UInt8 :=
  buffer.readUntil asciiBufferSize fun ch => ch == 0

/-- The text up to its NUL character. -/
def terminated (text : List UInt8) : List UInt8 := text.takeWhile fun ch => ch ≠ 0

/-- What a byte is replaced by. -/
def asciiByte (ch : UInt8) : List UInt8 := if isPlain ch then [ch] else escapeSequence ch

/-- The text with each byte that cannot be printed replaced by its escape sequence. -/
def escaped (text : List UInt8) : List UInt8 := text.flatMap asciiByte

/-- What is expected of `to_ascii`. -/
structure AsciiSound (text : List UInt8) (buffer : Memory UInt8) : Prop where
  withinBounds : buffer.WithinBounds asciiBufferSize
  isTerminated : ∃ i < asciiBufferSize, buffer.content i = 0
  isPrefix : asciiString buffer <+: escaped (terminated text)

/-- The condition: an escape sequence that begins in the buffer, if the first one is written to
index `i`, also ends there. -/
def EscapesFit (i : Nat) (text : List UInt8) : Prop :=
  ∀ before ch after, text = before ++ ch :: after → isPlain ch = false →
    i + (escaped before).length < asciiBufferSize →
      i + (escaped before).length + 6 ≤ asciiBufferSize

/-! ## The escaped text -/

theorem nibbleToChar_ne_zero {nibble : UInt8} (h : nibble ≤ 15) : 0 ≠ nibbleToChar nibble := by
  have hvalue : nibble.toNat ≤ 15 := UInt8.le_iff_toNat_le.mp h
  unfold nibbleToChar
  split_ifs with hdigit
  · intro heq
    have heq' := congrArg UInt8.toNat heq
    rw [UInt8.toNat_add] at heq'
    simp at heq'
    omega
  · intro heq
    have hten : 10 ≤ nibble.toNat := by
      have hle := UInt8.not_lt.mp hdigit
      exact UInt8.le_iff_toNat_le.mp hle
    have heq' := congrArg UInt8.toNat heq
    rw [UInt8.toNat_add, UInt8.toNat_sub_of_le _ _ (UInt8.not_lt.mp hdigit)] at heq'
    simp at heq'
    omega

theorem zero_not_mem_escapeSequence (ch : UInt8) : 0 ∉ escapeSequence ch := by
  have hhigh : (ch >>> 4) &&& 0x0f ≤ 15 := UInt8.and_le_right
  have hlow : ch &&& 0x0f ≤ 15 := UInt8.and_le_right
  simp [escapeSequence, nibbleToChar_ne_zero hhigh, nibbleToChar_ne_zero hlow]

theorem zero_not_mem_asciiByte (ch : UInt8) : 0 ∉ asciiByte ch := by
  unfold asciiByte
  split_ifs with hplain
  · intro hmem
    obtain rfl := List.mem_singleton.mp hmem
    simp [isPlain] at hplain
  · exact zero_not_mem_escapeSequence ch

theorem zero_not_mem_escaped (text : List UInt8) : 0 ∉ escaped text := by
  intro hmem
  obtain ⟨ch, -, hch⟩ := List.mem_flatMap.mp hmem
  exact zero_not_mem_asciiByte ch hch

@[simp] theorem escaped_nil : escaped [] = [] := rfl

@[simp] theorem escaped_cons (ch : UInt8) (text : List UInt8) :
    escaped (ch :: text) = asciiByte ch ++ escaped text := List.flatMap_cons

theorem terminated_cons {ch : UInt8} (h : ch ≠ 0) (text : List UInt8) :
    terminated (ch :: text) = ch :: terminated text :=
  List.takeWhile_cons_of_pos (by simpa using h)

theorem terminated_nul (text : List UInt8) : terminated (0 :: text) = [] :=
  List.takeWhile_cons_of_neg (by simp)

theorem escapesFit_nil (i : Nat) : EscapesFit i [] :=
  fun before ch after h => absurd h (by simp)

theorem escapesFit_cons {i : Nat} {ch : UInt8} {text : List UInt8} :
    EscapesFit i (ch :: text) ↔
      (isPlain ch = false → i < asciiBufferSize → i + 6 ≤ asciiBufferSize) ∧
        EscapesFit (i + (asciiByte ch).length) text := by
  constructor
  · intro h
    refine ⟨fun hplain hi => h [] ch text rfl hplain hi, ?_⟩
    intro before ch' after htext hplain
    have hnext := h (ch :: before) ch' after (by rw [htext, List.cons_append]) hplain
    rwa [escaped_cons, List.length_append, ← Nat.add_assoc] at hnext
  · rintro ⟨hfirst, hrest⟩ before ch' after htext hplain
    cases before with
    | nil =>
      obtain ⟨rfl, -⟩ := List.cons.inj htext
      exact hfirst hplain
    | cons ch'' before =>
      obtain ⟨rfl, htail⟩ := List.cons.inj htext
      have hnext := hrest before ch' after htail hplain
      rwa [escaped_cons, List.length_append, ← Nat.add_assoc]

/-! ## The loop -/

theorem asciiLoop_full {i : Nat} (h : asciiBufferSize ≤ i) (text : List UInt8)
    (buffer : Memory UInt8) : asciiLoop text i buffer = buffer := by
  cases text <;> simp [asciiLoop, Nat.not_lt.mpr h]

/-- A turn of the loop writes what the byte is replaced by. -/
theorem asciiLoop_cons {i : Nat} (hi : i < asciiBufferSize) {ch : UInt8} (hch : ch ≠ 0)
    (text : List UInt8) (buffer : Memory UInt8) :
    asciiLoop (ch :: text) i buffer =
      asciiLoop text (i + (asciiByte ch).length) (buffer.storeAll i (asciiByte ch)) := by
  rw [asciiLoop, if_pos hi, if_neg hch]
  unfold asciiByte
  split_ifs
  · rfl
  · rfl

/-- What has been written before stays. -/
theorem asciiLoop_content_of_lt (text : List UInt8) {i j : Nat} (buffer : Memory UInt8)
    (h : j < i) : (asciiLoop text i buffer).content j = buffer.content j := by
  induction text generalizing i buffer with
  | nil =>
    unfold asciiLoop
    split_ifs
    · exact Memory.store_content_of_ne buffer 0 (Nat.ne_of_lt h)
    · rfl
  | cons ch text ih =>
    by_cases hi : i < asciiBufferSize
    · by_cases hch : ch = 0
      · rw [asciiLoop, if_pos hi, if_pos hch]
        exact Memory.store_content_of_ne buffer 0 (Nat.ne_of_lt h)
      · rw [asciiLoop_cons hi hch, ih _ (Nat.lt_add_right _ h)]
        exact Memory.storeAll_content_of_lt buffer _ h
    · rw [asciiLoop_full (Nat.le_of_not_lt hi)]

/-- The loop writes the escaped text, and a NUL character behind it. -/
theorem asciiLoop_content (text : List UInt8) (i : Nat) (buffer : Memory UInt8) {j : Nat}
    (hj : j ≤ (escaped (terminated text)).length) (hi : i + j < asciiBufferSize) :
    (asciiLoop text i buffer).content (i + j) = (escaped (terminated text)).getD j 0 := by
  induction text generalizing i buffer j with
  | nil =>
    obtain rfl : j = 0 := Nat.le_zero.mp hj
    have hi' : i < asciiBufferSize := hi
    rw [asciiLoop, if_pos hi']
    exact Memory.store_content_self buffer i 0
  | cons ch text ih =>
    have hi' : i < asciiBufferSize := Nat.lt_of_le_of_lt (Nat.le_add_right i j) hi
    by_cases hch : ch = 0
    · rw [hch, terminated_nul] at hj ⊢
      obtain rfl : j = 0 := Nat.le_zero.mp hj
      rw [asciiLoop, if_pos hi', if_pos rfl]
      exact Memory.store_content_self buffer i 0
    · rw [terminated_cons hch, escaped_cons] at hj ⊢
      rw [List.length_append] at hj
      rw [asciiLoop_cons hi' hch]
      by_cases hfirst : j < (asciiByte ch).length
      · rw [asciiLoop_content_of_lt _ _ (Nat.add_lt_add_left hfirst i),
          Memory.storeAll_content_at buffer i _ 0 hfirst, List.getD_append _ _ _ _ hfirst]
      · have hle := Nat.le_of_not_lt hfirst
        rw [List.getD_append_right _ _ _ _ hle]
        have hnext := ih (i + (asciiByte ch).length) (buffer.storeAll i (asciiByte ch))
          (j := j - (asciiByte ch).length) (by omega) (by omega)
        rw [← hnext]
        congr 1
        omega

/-- The loop stays within the buffer exactly if the escape sequences fit. -/
theorem asciiLoop_withinBounds_iff (text : List UInt8) (i : Nat) (buffer : Memory UInt8) :
    (asciiLoop text i buffer).WithinBounds asciiBufferSize ↔
      buffer.WithinBounds asciiBufferSize ∧ EscapesFit i (terminated text) := by
  have hnul : ∀ i (buffer : Memory UInt8), i < asciiBufferSize →
      ((buffer.store i 0).WithinBounds asciiBufferSize ↔
        buffer.WithinBounds asciiBufferSize ∧ EscapesFit i []) := by
    intro i buffer hi
    rw [Memory.withinBounds_store, and_iff_right hi, and_iff_left (escapesFit_nil i)]
  induction text generalizing i buffer with
  | nil =>
    unfold asciiLoop
    split_ifs with hi
    · exact hnul i buffer hi
    · exact (and_iff_left (escapesFit_nil i)).symm
  | cons ch text ih =>
    by_cases hi : i < asciiBufferSize
    · by_cases hch : ch = 0
      · rw [asciiLoop, if_pos hi, if_pos hch, hch, terminated_nul]
        exact hnul i buffer hi
      · rw [asciiLoop_cons hi hch]
        refine (ih _ _).trans ?_
        rw [Memory.withinBounds_storeAll hi, terminated_cons hch, escapesFit_cons, and_assoc]
        refine and_congr_right fun _ => and_congr_left fun _ => ?_
        unfold asciiByte
        cases hplain : isPlain ch with
        | false => simp [hi, escapeSequence]
        | true => simpa using Nat.succ_le_of_lt hi
    · rw [asciiLoop_full (Nat.le_of_not_lt hi)]
      refine (and_iff_left ?_).symm
      exact fun before _ _ _ _ hlt => absurd (Nat.lt_of_le_of_lt (Nat.le_add_right i _) hlt) hi

/-! ## The whole function -/

theorem toAscii_withinBounds_iff (buffer : Memory UInt8) (text : List UInt8) :
    (toAscii buffer text).WithinBounds asciiBufferSize ↔
      buffer.WithinBounds asciiBufferSize ∧ EscapesFit 0 (terminated text) := by
  have hlast : asciiBufferSize - 1 < asciiBufferSize := by decide
  have hfirst : 0 < asciiBufferSize := by decide
  unfold toAscii
  rw [Memory.withinBounds_store, and_iff_right hlast, asciiLoop_withinBounds_iff,
    Memory.withinBounds_store, and_iff_right hfirst]

/-- The string in the buffer is the escaped text as far as there is space for it. -/
theorem asciiString_toAscii (buffer : Memory UInt8) (text : List UInt8) :
    asciiString (toAscii buffer text) =
      (escaped (terminated text)).take (asciiBufferSize - 1) := by
  have hsize : asciiBufferSize = 16384 := rfl
  have hloop : ∀ j ≤ (escaped (terminated text)).length, j < asciiBufferSize →
      (asciiLoop text 0 (buffer.store 0 0)).content j = (escaped (terminated text)).getD j 0 := by
    intro j hj hlt
    have hcontent := asciiLoop_content text 0 (buffer.store 0 0) hj (by omega)
    rwa [Nat.zero_add] at hcontent
  generalize hvalues : (escaped (terminated text)).take (asciiBufferSize - 1) = values
  have hlength : values.length =
      min (asciiBufferSize - 1) (escaped (terminated text)).length := by
    rw [← hvalues, List.length_take]
  have hvalue : ∀ j < values.length, values.getD j 0 = (escaped (terminated text)).getD j 0 := by
    intro j hj
    rw [← hvalues, List.getD_eq_getElem?_getD, List.getElem?_take_of_lt (by omega),
      List.getD_eq_getElem?_getD]
  refine Memory.readUntil_eq_of_content 0 ?_ (by omega) ?_ ?_
  · intro value hvalue
    have hmem : value ∈ escaped (terminated text) := List.mem_of_mem_take (hvalues ▸ hvalue)
    exact beq_false_of_ne fun heq => zero_not_mem_escaped _ (heq ▸ hmem)
  · intro j hj
    unfold toAscii
    rw [Memory.store_content_of_ne _ _ (by omega), hloop j (by omega) (by omega), hvalue j hj]
  · rw [beq_iff_eq]
    unfold toAscii
    by_cases hlast : values.length = asciiBufferSize - 1
    · rw [hlast]
      exact Memory.store_content_self _ _ _
    · have hwhole : values.length = (escaped (terminated text)).length := by omega
      rw [Memory.store_content_of_ne _ _ hlast, hwhole, hloop _ (Nat.le_refl _) (by omega),
        List.getD_eq_getElem?_getD, List.getElem?_eq_none (Nat.le_refl _), Option.getD_none]

/-- For every text, and whatever the buffer held before: everything is written within the buffer,
and the result is a NUL-terminated prefix of the escaped text, exactly if no escape sequence
begins in the last five bytes of the buffer. -/
theorem to_ascii_sound_iff (before : Nat → UInt8) (text : List UInt8) :
    AsciiSound text (toAscii { content := before } text) ↔ EscapesFit 0 (terminated text) := by
  have hbounds := toAscii_withinBounds_iff { content := before } text
  rw [and_iff_right (show Memory.WithinBounds { content := before } asciiBufferSize from nofun)]
    at hbounds
  constructor
  · exact fun h => hbounds.mp h.withinBounds
  · intro h
    refine ⟨hbounds.mpr h, ⟨asciiBufferSize - 1, by decide, Memory.store_content_self _ _ _⟩, ?_⟩
    rw [asciiString_toAscii]
    exact List.take_prefix _ _

/-- A text that just fills the buffer is followed by an umlaut. -/
theorem escape_sequence_beyond_buffer :
    ¬∀ (before : Nat → UInt8) (text : List UInt8),
      AsciiSound text (toAscii { content := before } text) := by
  intro h
  have hplain : ∀ n, escaped (List.replicate n 97) = List.replicate n 97 := by
    intro n
    induction n with
    | zero => rfl
    | succ n ih =>
      rw [List.replicate_succ, escaped_cons, ih]
      rfl
  have hlength : (escaped (List.replicate 16383 97)).length = 16383 := by
    rw [hplain, List.length_replicate]
  have hterminated : terminated (List.replicate 16383 97 ++ [0xc3]) =
      List.replicate 16383 97 ++ [0xc3] := by
    refine List.takeWhile_eq_self_iff.mpr fun ch hch => ?_
    rcases List.mem_append.mp hch with hch | hch
    · obtain ⟨-, rfl⟩ := List.mem_replicate.mp hch
      decide
    · obtain rfl := List.mem_singleton.mp hch
      decide
  have hfit := toAscii_withinBounds_iff { content := fun _ => 0 }
    (List.replicate 16383 97 ++ [0xc3])
  rw [hterminated] at hfit
  have hend := (hfit.mp (h _ _).withinBounds).2 (List.replicate 16383 97) 0xc3 [] rfl (by decide)
  rw [hlength] at hend
  revert hend
  decide

end Drcpd.Dcp

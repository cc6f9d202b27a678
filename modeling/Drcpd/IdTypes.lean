/-
  IdTypes.lean --- the identifiers of `idtypes.hh`.

  `ID::List` is a 32-bit number, valid unless it is 0.  `ID::OurStream` is
  `ID::SourcedStream<STREAM_ID_SOURCE_UI>`; its header `stream_id.hh` is not part
  of the repository, so the type is a parameter with what the code uses of it.
-/
import Mathlib.Data.UInt
import Mathlib.Data.Fintype.Fin
import Mathlib.Data.Fintype.Card
import Mathlib.Data.Fintype.Option
import Drcpd.Foundation.CyclicSuccessor

set_option autoImplicit false

namespace Drcpd

/-- `ID::List`. -/
structure ListId where
  rawId : UInt32 := 0
  deriving DecidableEq, Repr, Inhabited

/-- `ID::ListIDTraits_::is_valid`. -/
def ListId.isValid (id : ListId) : Bool := decide (0 < id.rawId)

/-- `Player::QueuedStreams::MAX_ENTRIES`. -/
def maxEntries : Nat := 20

/-- What the code uses of `ID::OurStream`.  `next` is `operator++`; it cycles
through all valid identifiers, and there are more of them than streams can be
held at any time. -/
class OurStreamId (I : Type) where
  isValid : I → Bool
  makeInvalid : I
  make : I
  next : I → I
  not_isValid_makeInvalid : isValid makeInvalid = false
  isValid_make : isValid make = true
  isValid_next : ∀ i, isValid i = true → isValid (next i) = true
  cycles : Foundation.CyclesThrough next fun i => isValid i = true
  enough : ∃ ids : Finset I, (∀ i ∈ ids, isValid i = true) ∧ maxEntries + 1 < ids.card

/-- What the code uses of `ID::Stream`, the ID of a stream of any origin.
`ourStream` is `OurStream::make_from_generic_id`, which gives an invalid ID for
streams of other origins. -/
class GenericStreamId (S I : Type) where
  makeInvalid : S
  isValid : S → Bool
  compatibleWith : S → Bool
  ourStream : S → I

/-- What the code uses of `OurStream::get`, which gives the generic ID of one of our
streams. -/
class OurStreamGet (S I : Type) [OurStreamId I] [GenericStreamId S I] where
  get : I → S
  isValid_get : ∀ i : I, OurStreamId.isValid i = true → GenericStreamId.isValid I (get i) = true
  compatibleWith_get : ∀ i : I, OurStreamId.isValid i = true →
    GenericStreamId.compatibleWith I (get i) = true
  ourStream_get : ∀ i : I, OurStreamId.isValid i = true →
    GenericStreamId.ourStream (get i) = i

/-- Identifiers counted modulo 24, with a value of its own for the invalid one. -/
instance : OurStreamId (Option (Fin 24)) where
  isValid := Option.isSome
  makeInvalid := none
  make := some 1
  next := Option.map (· + 1)
  not_isValid_makeInvalid := rfl
  isValid_make := rfl
  isValid_next := by rintro (_ | i) hi; exacts [hi, rfl]
  cycles := by
    have hadd : ∀ (k : Nat) (i : Fin 24),
        (Option.map (· + 1))^[k] (some i) = some (i + Fin.ofNat 24 k) := by
      intro k
      induction k with
      | zero => intro i; simp
      | succ k ih =>
        intro i
        rw [Function.iterate_succ_apply, Option.map_some, ih]
        congr 1
        ext
        simp [Fin.val_add, Nat.add_assoc, Nat.add_comm 1]
    rintro (_ | i) (_ | j) hi hj
    · cases hi
    · cases hi
    · cases hj
    · refine ⟨(j - i).val, ?_⟩
      rw [hadd]
      congr 1
      ext
      simp only [Fin.val_add, Fin.sub_def, Fin.ofNat]
      omega
  enough := ⟨Finset.univ.image some, by simp, by
    rw [Finset.card_image_of_injective _ (Option.some_injective _)]; decide⟩

/-- Streams of all origins: number 0 is no stream, our own streams are even. -/
instance : GenericStreamId Nat (Option (Fin 24)) where
  makeInvalid := 0
  isValid n := decide (0 < n)
  compatibleWith n := decide (0 < n ∧ n % 2 = 0)
  ourStream n := if 0 < n ∧ n % 2 = 0 then some (Fin.ofNat 24 (n / 2)) else none

/-- Our stream 0 goes by the number 48. -/
instance : OurStreamGet Nat (Option (Fin 24)) where
  get i := i.elim 0 fun n => if n = 0 then 48 else 2 * n.val
  isValid_get := by decide
  compatibleWith_get := by decide
  ourStream_get := by decide

end Drcpd

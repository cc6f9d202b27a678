/-
  Foundation/Assoc.lean --- the values of a finite map, with their multiplicity.

  Mathlib's `AList` is the finite map with duplicate-free keys.  Bookkeeping code
  reasons about the *collection of values* a map holds: which value an erase
  takes out, which one an insert adds, what remains after a conditional clear.
  Everything is stated up to permutation, so nothing depends on the order in
  which the entries are stored.
-/
import Mathlib.Data.List.AList

set_option autoImplicit false

namespace Drcpd.Foundation

open List

variable {α β : Type*}

/-- The values held by a finite map. -/
def values (m : AList fun _ : α => β) : List β := m.entries.map Sigma.snd

/-- The entries of a finite map whose value has the property `p`. -/
def filterValues (p : β → Bool) (m : AList fun _ : α => β) : AList fun _ : α => β :=
  ⟨m.entries.filter fun e => p e.2, m.nodupKeys.sublist List.filter_sublist⟩

@[simp] theorem values_empty : values (∅ : AList fun _ : α => β) = [] := rfl

theorem length_values (m : AList fun _ : α => β) : (values m).length = m.keys.length := by
  simp [values, AList.keys, List.keys]

theorem values_filterValues (p : β → Bool) (m : AList fun _ : α => β) :
    values (filterValues p m) = (values m).filter p := by
  simp [values, filterValues, List.filter_map, Function.comp_def]

theorem length_filterValues_le (p : β → Bool) (m : AList fun _ : α => β) :
    (filterValues p m).keys.length ≤ m.keys.length := by
  rw [← length_values, ← length_values, values_filterValues]
  exact List.length_filter_le _ _

/-- A filter that drops no entry drops nothing. -/
theorem filterValues_eq_self {p : β → Bool} {m : AList fun _ : α => β}
    (h : (filterValues p m).keys.length = m.keys.length) : filterValues p m = m := by
  apply AList.ext
  refine List.filter_sublist.eq_of_length ?_
  simpa [AList.keys, List.keys, filterValues] using h

variable [DecidableEq α]

theorem mem_values_iff {m : AList fun _ : α => β} {b : β} :
    b ∈ values m ↔ ∃ a, m.lookup a = some b := by
  simp only [values, List.mem_map]
  constructor
  · rintro ⟨⟨a, b'⟩, he, rfl⟩
    exact ⟨a, AList.mem_lookup_iff.mpr he⟩
  · rintro ⟨a, h⟩
    exact ⟨⟨a, b⟩, AList.mem_lookup_iff.mp h, rfl⟩

/-- Erasing a key that is present takes exactly its value out. -/
theorem values_perm_cons_erase {m : AList fun _ : α => β} {a : α} {b : β}
    (h : m.lookup a = some b) : values m ~ b :: values (m.erase a) := by
  have hkey : a ∈ m.entries.keys := by
    rw [← AList.keys, ← AList.mem_keys, ← AList.lookup_isSome, h]; rfl
  obtain ⟨b', l₁, l₂, hnot, hent, herase⟩ := List.exists_of_kerase hkey
  have hb : b' = b := by
    have hmem : b' ∈ m.lookup a := AList.mem_lookup_iff.mpr (by rw [hent]; simp)
    exact (Option.some.inj (h ▸ hmem)).symm
  subst hb
  have hrest : (m.erase a).entries = l₁ ++ l₂ := herase
  rw [values, values, hent, hrest, List.map_append, List.map_cons, List.map_append]
  exact List.perm_middle

/-- Inserting under a new key adds exactly the value. -/
theorem values_insert_of_notMem {m : AList fun _ : α => β} {a : α} {b : β} (h : a ∉ m) :
    values (m.insert a b) = b :: values m := by
  rw [values, AList.entries_insert_of_notMem h, List.map_cons, values]

theorem lookup_filterValues {m : AList fun _ : α => β} {p : β → Bool} {a : α} {b : β} :
    (filterValues p m).lookup a = some b ↔ m.lookup a = some b ∧ p b = true := by
  rw [← Option.mem_def, ← Option.mem_def, AList.mem_lookup_iff, AList.mem_lookup_iff]
  simp [filterValues]

theorem mem_filterValues {m : AList fun _ : α => β} {p : β → Bool} {a : α} :
    a ∈ filterValues p m ↔ ∃ b, m.lookup a = some b ∧ p b = true := by
  rw [← AList.lookup_isSome, Option.isSome_iff_exists]
  simp [lookup_filterValues]

theorem keys_filterValues (p : β → Bool) (m : AList fun _ : α => β) :
    (filterValues p m).keys = m.keys.filter fun a => decide (a ∈ filterValues p m) := by
  have hkeys : ∀ e ∈ m.entries, p e.2 = decide (e.1 ∈ filterValues p m) := by
    rintro ⟨a, b⟩ he
    have hlookup : m.lookup a = some b := AList.mem_lookup_iff.mpr he
    rw [Bool.eq_iff_iff, decide_eq_true_eq, mem_filterValues]
    constructor
    · intro hp
      exact ⟨b, hlookup, hp⟩
    · rintro ⟨b', hb', hp⟩
      rw [hlookup] at hb'
      cases hb'
      exact hp
  simp only [AList.keys, List.keys, List.filter_map]
  congr 1
  exact List.filter_congr hkeys

end Drcpd.Foundation

/-
  Lists/ViewportUpdate.lean --- updates of the cache of a viewport with fetched rows.

  The rows come from the broker, with names, a kind, and in case of meta data the index of the
  primary name.  What `new_item_fn` makes of them is a parameter.

  An update leaves exactly the items of the view in the cache if the cached segment is as long
  as the view where a part of it is kept, and if it is the view itself where it covers the view.
-/
import Drcpd.Lists.ViewportCache
import Mathlib.Data.UInt

set_option autoImplicit false

namespace Drcpd.Lists

variable {Item : Type}

/-! ## Rows -/

/-- A row without meta data, `(sy)`. -/
structure SimpleRow where
  name : String
  itemKind : UInt8
  deriving DecidableEq, Repr

/-- A row with meta data, `(sssyy)`. -/
structure MetaDataRow where
  name0 : String
  name1 : String
  name2 : String
  primaryNameIndex : UInt8
  itemKind : UInt8
  deriving DecidableEq, Repr

/-- `NewItemFn` (without names, they are a null pointer), and `ListItemKind::LOCKED`. -/
structure NewItemFn (Item : Type) where
  newItem : String → UInt8 → Option (List String) → Item
  locked : UInt8

namespace MetaDataRow

/-- The array `names`. -/
def names (row : MetaDataRow) : List String := [row.name0, row.name1, row.name2]

/-- The index after it has been checked. -/
def checkedIndex (row : MetaDataRow) : UInt8 :=
  if row.names.length < row.primaryNameIndex.toNat ∧ row.primaryNameIndex ≠ 255 then 0
  else row.primaryNameIndex

/-- The name taken, nothing where it is read beyond the end of `names`. -/
def primaryName (row : MetaDataRow) : Option String :=
  if row.checkedIndex ≠ 255 then row.names[row.checkedIndex.toNat]? else some "----"

/-- The only index that reads beyond the end. -/
theorem primaryName_eq_none_iff (row : MetaDataRow) :
    row.primaryName = none ↔ row.primaryNameIndex = 3 := by
  unfold primaryName checkedIndex
  have hlength : row.names.length = 3 := rfl
  rw [hlength]
  by_cases hlocked : row.primaryNameIndex = 255
  · simp [hlocked]
  · by_cases hlarge : 3 < row.primaryNameIndex.toNat
    · have hne : row.primaryNameIndex ≠ 3 := by
        intro heq
        simp [heq] at hlarge
      simp [hlarge, hlocked, hne, names]
    · simp only [hlarge, false_and, if_false, ne_eq, hlocked, not_false_eq_true, if_true,
        List.getElem?_eq_none_iff, hlength]
      constructor
      · intro hle
        exact UInt8.toNat_inj.mp (show row.primaryNameIndex.toNat = 3 by omega)
      · intro heq
        simp [heq]

end MetaDataRow

namespace NewItemFn

variable (fn : NewItemFn Item)

def ofSimpleRow (row : SimpleRow) : Item := fn.newItem row.name row.itemKind none

def ofMetaDataRow (row : MetaDataRow) : Option Item :=
  row.primaryName.map fun name =>
    fn.newItem name (if row.checkedIndex = 255 then fn.locked else row.itemKind) (some row.names)

end NewItemFn

/-! ## Updates -/

namespace Viewport

/-- `update_cache_region_simple`. -/
def updateCacheRegionSimple (vp : Viewport Item) (fn : NewItemFn Item) (cacheListIndex : Nat)
    (rows : List SimpleRow) : Option (Viewport Item) :=
  vp.updateCacheRegion cacheListIndex (rows.map fn.ofSimpleRow)

/-- `update_cache_region_with_meta_data`. -/
def updateCacheRegionWithMetaData (vp : Viewport Item) (fn : NewItemFn Item)
    (cacheListIndex : Nat) (rows : List MetaDataRow) : Option (Viewport Item) :=
  (rows.mapM fn.ofMetaDataRow).bind (vp.updateCacheRegion cacheListIndex)

/-- `prepare_update` and an update of the gap. -/
def updateWith (vp : Viewport Item)
    (update : Viewport Item → Nat → Option (Viewport Item)) : Option (Viewport Item) :=
  vp.prepareUpdate.bind fun (beginningOfGap, items) => update { vp with items } beginningOfGap

/-- The rows fetched for a segment. -/
def fetchedRows {Row : Type} (data : Nat → Row) (segment : Segment) : List Row :=
  (List.range segment.count).map fun i => data (segment.line + i)

/-- `items_` holds exactly the items of `items_segment_`. -/
structure Holds (v : Viewport Item) (held : Nat → Item) : Prop where
  range : v.itemsSegment.InRange
  items : v.items = (fetchedRows held v.itemsSegment).map some

end Viewport

/-- `operator==`. -/
def Segment.Same (s other : Segment) : Prop :=
  s.line = other.line ∧ s.count = other.count ∨ s.count = 0 ∧ other.count = 0

namespace Viewport

/-- The line has been fetched. -/
def IsMissing (v : Viewport Item) (line : Nat) : Prop :=
  v.getMissingSegment.line ≤ line ∧
    line < v.getMissingSegment.line + v.getMissingSegment.count

instance (v : Viewport Item) (line : Nat) : Decidable (v.IsMissing line) :=
  inferInstanceAs (Decidable (_ ∧ _))

/-- After the update, `items_` holds exactly the items of the view: those of the lines that have
been fetched as they are made of the rows, and those held before for all other lines. -/
def Refilled (v : Viewport Item) (held : Nat → Item) (made : Nat → Option Item)
    (updated : Option (Viewport Item)) : Prop :=
  ∃ v', updated = some v' ∧ v'.itemsSegment.Same v.viewSegment ∧
    v'.items = (List.range v.viewSegment.count).map fun i =>
      if v.IsMissing (v.viewSegment.line + i) then made (v.viewSegment.line + i)
      else some (held (v.viewSegment.line + i))

/-- The view can be filled: where a part of the cached items is kept, there are as many of them
as the view has lines; where all of the view is in the cache, there is nothing else; and where
the view is empty, so is the cache. -/
def Refillable (v : Viewport Item) : Prop :=
  match (v.viewSegment.intersection v.itemsSegment).1 with
  | .equal | .centerRemains => True
  | .disjoint => v.viewSegment.count ≠ 0 ∨ v.itemsSegment.count = 0
  | .topRemains | .bottomRemains => v.itemsSegment.count = v.viewSegment.count
  | .includedInOther => False

instance (v : Viewport Item) : Decidable v.Refillable := by
  unfold Refillable
  exact match (v.viewSegment.intersection v.itemsSegment).1 with
    | .disjoint | .equal | .centerRemains => inferInstance
    | .topRemains | .bottomRemains | .includedInOther => inferInstance

/-! ## The kinds of intersections -/

section Kinds

variable {s other : Segment} {isize : Nat}

theorem of_equal (h : s.intersection other = (.equal, isize)) :
    s.line = other.line ∧ s.count = other.count := by
  unfold Segment.intersection at h
  split_ifs at h <;> simp only [Prod.mk.injEq, reduceCtorEq, false_and] at h <;> omega

theorem of_includedInOther (h : s.intersection other = (.includedInOther, isize)) :
    ¬other.Same s := by
  rintro (⟨hline, hcount⟩ | ⟨hother, hs⟩)
  · unfold Segment.intersection at h
    split_ifs at h <;> simp only [Prod.mk.injEq, reduceCtorEq, false_and] at h <;> omega
  · simp [Segment.intersection, hs, hother] at h
    split_ifs at h
    · simp at h
    · simp at h

theorem of_centerRemains (h : s.intersection other = (.centerRemains, isize)) :
    s.count ≠ 0 := by
  intro hs
  unfold Segment.intersection at h
  split_ifs at h <;> simp at h

end Kinds

/-! ## What an update comes to -/

section Update

variable {v : Viewport Item} {held : Nat → Item} {made : Nat → Option Item} {rows : List Item}

theorem fetchedRows_length {Row : Type} (data : Nat → Row) (segment : Segment) :
    (fetchedRows data segment).length = segment.count := by
  simp [fetchedRows]

theorem rows_length (hrows : rows.map some = fetchedRows made v.getMissingSegment) :
    rows.length = v.getMissingSegment.count := by
  have hlength := congrArg List.length hrows
  rwa [List.length_map, fetchedRows_length] at hlength

theorem rows_get (hrows : rows.map some = fetchedRows made v.getMissingSegment) {i : Nat}
    (hi : i < v.getMissingSegment.count) :
    rows[i]?.map some = some (made (v.getMissingSegment.line + i)) := by
  have hget := congrArg (·[i]?) hrows
  simpa [fetchedRows, hi] using hget

/-- The update when nothing of the cache is kept. -/
theorem refilled_whole (hrows : rows.map some = fetchedRows made v.getMissingSegment)
    (hmissing : v.getMissingSegment = v.viewSegment) (hprepare : v.prepareUpdate = some (0, [])) :
    v.Refilled held made (v.updateCache rows) ↔
      v.viewSegment.count ≠ 0 ∨ v.itemsSegment.count = 0 := by
  have hlength := rows_length hrows
  rw [hmissing] at hlength
  unfold updateCache
  rw [hprepare]
  cases rows with
  | nil =>
      have hview : v.viewSegment.count = 0 := hlength.symm
      simp only [updateCacheRegion]
      constructor
      · rintro ⟨v', hv', hsame, -⟩
        obtain rfl := Option.some.inj hv'
        rcases hsame with ⟨-, hcount⟩ | ⟨hcount, -⟩
        · exact .inr (hcount.trans hview)
        · exact .inr hcount
      · intro hcount
        refine ⟨_, rfl, .inr ⟨hcount.resolve_left fun hne => hne hview, hview⟩, ?_⟩
        simp [hview]
  | cons row rows =>
      refine iff_of_true ⟨_, rfl, .inl ⟨rfl, rfl⟩, ?_⟩ (.inl ?_)
      · dsimp only
        rw [RamList.appendAll_eq, List.nil_append, hrows, hmissing]
        refine List.map_congr_left fun i hi => ?_
        have hin : v.IsMissing (v.viewSegment.line + i) := by
          rw [List.mem_range] at hi
          unfold IsMissing
          rw [hmissing]
          omega
        rw [if_pos hin]
      · rw [← hlength]
        simp

/-- The update when the view is in the cache already. -/
theorem refilled_nothing (h : v.Holds held)
    (hrows : rows.map some = fetchedRows made v.getMissingSegment)
    (hmissing : v.getMissingSegment.count = 0) (hprepare : v.prepareUpdate = some (0, v.items)) :
    v.Refilled held made (v.updateCache rows) ↔ v.itemsSegment.Same v.viewSegment := by
  have hnil : rows = [] := List.length_eq_zero_iff.mp ((rows_length hrows).trans hmissing)
  unfold updateCache
  rw [hprepare, hnil]
  simp only [updateCacheRegion]
  constructor
  · rintro ⟨v', hv', hsame, -⟩
    obtain rfl := Option.some.inj hv'
    exact hsame
  · intro hsame
    refine ⟨_, rfl, hsame, ?_⟩
    have hnot : ∀ line, ¬v.IsMissing line := fun line hin => by
      unfold IsMissing at hin
      omega
    dsimp only
    rw [h.items, fetchedRows, List.map_map]
    rcases hsame with ⟨hline, hcount⟩ | ⟨hcount, hview⟩
    · rw [hline, hcount]
      refine List.map_congr_left fun i _ => ?_
      rw [if_neg (hnot _)]
      rfl
    · simp [hcount, hview]

theorem replaceFrom_length {items items' : RamList Item} {line : Nat} {rest : List Item}
    (h : items.replaceFrom line rest = some items') : items'.length = items.length := by
  induction rest generalizing items line with
  | nil => exact congrArg List.length (Option.some.inj h).symm
  | cons item rest ih =>
      unfold RamList.replaceFrom RamList.replace at h
      split at h
      · simp at h
      · rename_i items₂ hreplace
        split at hreplace
        · obtain rfl := Option.some.inj hreplace
          simpa using ih h
        · simp at hreplace

/-- The update when some items are kept: they have been moved to their places in the view if the
vector is as long as the view, and the others are replaced. -/
theorem refilled_part {gap : Nat} {items : RamList Item}
    (hrows : rows.map some = fetchedRows made v.getMissingSegment)
    (hprepare : v.prepareUpdate = some (gap, items)) (hnonempty : items ≠ [])
    (hline : v.getMissingSegment.line = v.viewSegment.line + gap)
    (hcount : 0 < v.getMissingSegment.count)
    (hroom : gap + v.getMissingSegment.count ≤ v.viewSegment.count)
    (hkept : items.length = v.viewSegment.count → ∀ i < v.viewSegment.count,
      ¬v.IsMissing (v.viewSegment.line + i) →
        items[i]? = some (some (held (v.viewSegment.line + i)))) :
    v.Refilled held made (v.updateCache rows) ↔ items.length = v.viewSegment.count := by
  have hlength := rows_length hrows
  have hupdate : v.updateCache rows = (items.replaceFrom gap rows).map fun items =>
      { v with items := items, itemsSegment := v.viewSegment } := by
    unfold updateCache updateCacheRegion
    rw [hprepare]
    cases rows with
    | nil =>
        rw [List.length_nil] at hlength
        omega
    | cons row rows => simp only [hnonempty, if_false]
  rw [hupdate]
  constructor
  · rintro ⟨v', hv', -, hitems⟩
    obtain ⟨items', hreplaced, rfl⟩ := Option.map_eq_some_iff.mp hv'
    rw [← replaceFrom_length hreplaced]
    simpa using congrArg List.length hitems
  · intro hsize
    obtain ⟨items', hreplaced, hlength', hget⟩ :=
      RamList.replaceFrom_spec items gap rows (by omega)
    refine ⟨_, by rw [hreplaced]; rfl, .inl ⟨rfl, rfl⟩, ?_⟩
    apply List.ext_getElem?
    intro i
    dsimp only
    rw [hget, hlength]
    by_cases hi : i < v.viewSegment.count
    · rw [List.getElem?_map, List.getElem?_range hi, Option.map_some]
      by_cases hin : gap ≤ i ∧ i < gap + v.getMissingSegment.count
      · have hmissing : v.IsMissing (v.viewSegment.line + i) := by
          unfold IsMissing
          omega
        have hsum : v.getMissingSegment.line + (i - gap) = v.viewSegment.line + i := by omega
        rw [if_pos hin, if_pos hmissing, rows_get hrows (by omega), hsum]
      · have hmissing : ¬v.IsMissing (v.viewSegment.line + i) := by
          unfold IsMissing
          omega
        rw [if_neg hin, if_neg hmissing, hkept hsize i hi hmissing]
    · rw [if_neg (by omega), List.getElem?_eq_none (by omega),
        List.getElem?_eq_none (by simp; omega)]

theorem Holds.length (h : v.Holds held) : v.items.length = v.itemsSegment.count := by
  rw [h.items, List.length_map, fetchedRows_length]

theorem Holds.get (h : v.Holds held) {i : Nat} (hi : i < v.itemsSegment.count) :
    v.items[i]? = some (some (held (v.itemsSegment.line + i))) := by
  simp [h.items, fetchedRows, hi]

theorem shiftUp_eq {items : RamList Item} {count : Nat} (h : count ≤ items.length) :
    items.shiftUp count = some (items.drop count ++ List.replicate count none) := by
  unfold RamList.shiftUp
  split_ifs with hzero hbeyond
  · simp [hzero]
  · omega
  · rfl

theorem shiftDown_eq {items : RamList Item} {count : Nat} (h : count ≤ items.length) :
    items.shiftDown count =
      some (List.replicate count none ++ items.take (items.length - count)) := by
  unfold RamList.shiftDown
  split_ifs with hzero hbeyond
  · simp [hzero]
  · omega
  · rfl

/-- The items at the top of the view are kept. -/
theorem refilled_top {isize : Nat} (h : v.Holds held) (hview : v.viewSegment.InRange)
    (hrows : rows.map some = fetchedRows made v.getMissingSegment)
    (hkind : v.viewSegment.intersection v.itemsSegment = (.topRemains, isize)) :
    v.Refilled held made (v.updateCache rows) ↔ v.itemsSegment.count = v.viewSegment.count := by
  obtain ⟨hstart, hend, hpos, hlt⟩ := Segment.of_topRemains hview h.range hkind
  have hrange : v.viewSegment.line + v.viewSegment.count < 2 ^ 32 := hview
  have hlength := h.length
  have hmissing : v.getMissingSegment =
      ⟨v.viewSegment.line + isize, v.viewSegment.count - isize⟩ := by
    unfold getMissingSegment
    rw [hkind]
    dsimp only
    rw [addUInt_of_lt (by omega)]
  have hprepare : v.prepareUpdate = some (isize, v.items.drop (v.items.length - isize) ++
      List.replicate (v.items.length - isize) none) := by
    unfold prepareUpdate
    rw [hkind]
    dsimp only
    rw [if_neg (by omega), shiftUp_eq (by omega), Option.map_some]
  have hsize : (v.items.drop (v.items.length - isize) ++
      List.replicate (v.items.length - isize) none).length = v.itemsSegment.count := by
    simp only [List.length_append, List.length_drop, List.length_replicate]
    omega
  rw [← hsize]
  refine refilled_part hrows hprepare (List.ne_nil_of_length_pos (by omega)) (by rw [hmissing])
    (by rw [hmissing]; dsimp only; omega) (by rw [hmissing]; dsimp only; omega) ?_
  intro _ i hi hnot
  have hkept : i < isize := by
    unfold IsMissing at hnot
    rw [hmissing] at hnot
    dsimp only at hnot
    omega
  rw [List.getElem?_append_left (by rw [List.length_drop]; omega), List.getElem?_drop,
    h.get (by omega)]
  have hsum : v.itemsSegment.line + (v.items.length - isize + i) = v.viewSegment.line + i := by
    omega
  rw [hsum]

/-- The items at the bottom of the view are kept. -/
theorem refilled_bottom {isize : Nat} (h : v.Holds held) (hview : v.viewSegment.InRange)
    (hrows : rows.map some = fetchedRows made v.getMissingSegment)
    (hkind : v.viewSegment.intersection v.itemsSegment = (.bottomRemains, isize)) :
    v.Refilled held made (v.updateCache rows) ↔ v.itemsSegment.count = v.viewSegment.count := by
  obtain ⟨hstart, hend, hpos, hle, hlt⟩ := Segment.of_bottomRemains hview h.range hkind
  have hlength := h.length
  have hmissing : v.getMissingSegment = ⟨v.viewSegment.line, v.viewSegment.count - isize⟩ := by
    unfold getMissingSegment
    rw [hkind]
  have hprepare : v.prepareUpdate = some (0,
      List.replicate (v.items.length - isize) none ++
        v.items.take (v.items.length - (v.items.length - isize))) := by
    unfold prepareUpdate
    rw [hkind]
    dsimp only
    rw [if_neg (by omega), shiftDown_eq (by omega), Option.map_some]
  have hsize : (List.replicate (v.items.length - isize) none ++
      v.items.take (v.items.length - (v.items.length - isize))).length =
        v.itemsSegment.count := by
    simp only [List.length_append, List.length_take, List.length_replicate]
    omega
  rw [← hsize]
  refine refilled_part hrows hprepare (List.ne_nil_of_length_pos (by omega))
    (by rw [hmissing]; rfl) (by rw [hmissing]; dsimp only; omega)
    (by rw [hmissing]; dsimp only; omega) ?_
  intro hsame i hi hnot
  rw [hsize] at hsame
  have hkept : v.viewSegment.count - isize ≤ i := by
    unfold IsMissing at hnot
    rw [hmissing] at hnot
    dsimp only at hnot
    omega
  rw [List.getElem?_append_right (by rw [List.length_replicate]; omega), List.length_replicate,
    List.getElem?_take_of_lt (by omega), h.get (by omega)]
  have hsum : v.itemsSegment.line + (i - (v.items.length - isize)) = v.viewSegment.line + i := by
    omega
  rw [hsum]

/-- An update with the rows of the missing segment. -/
theorem refilled_iff (h : v.Holds held) (hview : v.viewSegment.InRange)
    (hrows : rows.map some = fetchedRows made v.getMissingSegment) :
    v.Refilled held made (v.updateCache rows) ↔ v.Refillable := by
  rcases hkind : v.viewSegment.intersection v.itemsSegment with ⟨kind, isize⟩
  unfold Refillable
  rw [hkind]
  cases kind with
  | disjoint =>
      exact refilled_whole hrows (by simp only [getMissingSegment, hkind])
        (by simp only [prepareUpdate, hkind])
  | centerRemains =>
      refine (refilled_whole hrows (by simp only [getMissingSegment, hkind])
        (by simp only [prepareUpdate, hkind])).trans ?_
      exact iff_of_true (.inl (of_centerRemains hkind)) trivial
  | equal =>
      refine (refilled_nothing h hrows (by simp only [getMissingSegment, hkind])
        (by simp only [prepareUpdate, hkind])).trans ?_
      obtain ⟨hline, hcount⟩ := of_equal hkind
      exact iff_of_true (.inl ⟨hline.symm, hcount.symm⟩) trivial
  | includedInOther =>
      refine (refilled_nothing h hrows (by simp only [getMissingSegment, hkind])
        (by simp only [prepareUpdate, hkind])).trans ?_
      exact iff_of_false (of_includedInOther hkind) id
  | topRemains => exact refilled_top h hview hrows hkind
  | bottomRemains => exact refilled_bottom h hview hrows hkind

theorem mapM_eq_some_iff {Row : Type} (f : Row → Option Item) (rows : List Row)
    (items : List Item) : rows.mapM f = some items ↔ rows.map f = items.map some := by
  induction rows generalizing items with
  | nil => cases items <;> simp
  | cons row rows ih =>
      cases items with
      | nil => simp [List.mapM_cons, Option.bind_eq_some_iff]
      | cons item items => simp [List.mapM_cons, Option.bind_eq_some_iff, ih]

theorem exists_mapM {Row : Type} (f : Row → Option Item) (rows : List Row)
    (h : ∀ row ∈ rows, f row ≠ none) : ∃ items, rows.mapM f = some items := by
  induction rows with
  | nil => exact ⟨[], rfl⟩
  | cons row rows ih =>
      obtain ⟨items, hitems⟩ := ih fun row hrow => h row (List.mem_cons_of_mem _ hrow)
      obtain ⟨item, hitem⟩ := Option.ne_none_iff_exists'.mp (h row List.mem_cons_self)
      exact ⟨item :: items, by simp [List.mapM_cons, hitem, hitems]⟩

theorem map_fetchedRows {Row : Type} (f : Row → Option Item) (data : Nat → Row)
    (segment : Segment) :
    (fetchedRows data segment).map f = fetchedRows (fun n => f (data n)) segment := by
  simp [fetchedRows]

theorem updateWith_simple (v : Viewport Item) (fn : NewItemFn Item) (rows : List SimpleRow) :
    (v.updateWith fun v gap => v.updateCacheRegionSimple fn gap rows) =
      v.updateCache (rows.map fn.ofSimpleRow) := by
  unfold updateWith updateCache
  cases v.prepareUpdate with
  | none => rfl
  | some prepared => rfl

theorem updateWith_metaData (v : Viewport Item) (fn : NewItemFn Item)
    (rows : List MetaDataRow) :
    (v.updateWith fun v gap => v.updateCacheRegionWithMetaData fn gap rows) =
      (rows.mapM fn.ofMetaDataRow).bind v.updateCache := by
  unfold updateWith updateCache updateCacheRegionWithMetaData
  cases rows.mapM fn.ofMetaDataRow with
  | none => cases v.prepareUpdate <;> rfl
  | some items => cases v.prepareUpdate <;> rfl

theorem ofMetaDataRow_eq_none_iff (fn : NewItemFn Item) (row : MetaDataRow) :
    fn.ofMetaDataRow row = none ↔ row.primaryNameIndex = 3 := by
  rw [NewItemFn.ofMetaDataRow, Option.map_eq_none_iff, row.primaryName_eq_none_iff]

end Update

/-! ## Updates after the view has been set -/

variable {v : Viewport Item} {held : Nat → Item}

theorem refilled_simple_iff (h : v.Holds held) (hview : v.viewSegment.InRange)
    (fn : NewItemFn Item) (data : Nat → SimpleRow) :
    v.Refilled held (fun n => some (fn.ofSimpleRow (data n)))
        (v.updateWith fun vp gap =>
          vp.updateCacheRegionSimple fn gap (fetchedRows data v.getMissingSegment)) ↔
      v.Refillable := by
  rw [updateWith_simple]
  refine refilled_iff h hview ?_
  rw [List.map_map, fetchedRows, fetchedRows, List.map_map]
  rfl

theorem refilled_metaData_iff (h : v.Holds held) (hview : v.viewSegment.InRange)
    (fn : NewItemFn Item) (data : Nat → MetaDataRow) :
    v.Refilled held (fun n => fn.ofMetaDataRow (data n))
        (v.updateWith fun vp gap =>
          vp.updateCacheRegionWithMetaData fn gap (fetchedRows data v.getMissingSegment)) ↔
      v.Refillable ∧ ∀ line, v.IsMissing line → (data line).primaryNameIndex ≠ 3 := by
  rw [updateWith_metaData]
  cases hrows : (fetchedRows data v.getMissingSegment).mapM fn.ofMetaDataRow with
  | none =>
      refine iff_of_false (by rintro ⟨v', hv', -⟩; cases hv') fun ⟨_, hindex⟩ => ?_
      -- without that index, all rows give items
      obtain ⟨items, hitems⟩ := exists_mapM fn.ofMetaDataRow
          (fetchedRows data v.getMissingSegment) fun row hrow hnone => by
        obtain ⟨i, hi, rfl⟩ := List.mem_map.mp hrow
        rw [List.mem_range] at hi
        exact hindex (v.getMissingSegment.line + i) ⟨Nat.le_add_right _ _, by omega⟩
          ((ofMetaDataRow_eq_none_iff fn _).mp hnone)
      rw [hitems] at hrows
      cases hrows
  | some items =>
      have hitems := (mapM_eq_some_iff _ _ _).mp hrows
      have hindex : ∀ line, v.IsMissing line → (data line).primaryNameIndex ≠ 3 := by
        rintro line ⟨hle, hlt⟩ heq
        have hnone := (ofMetaDataRow_eq_none_iff fn (data line)).mpr heq
        have hmem : data line ∈ fetchedRows data v.getMissingSegment :=
          List.mem_map.mpr ⟨line - v.getMissingSegment.line, List.mem_range.mpr (by omega),
            congrArg data (by omega)⟩
        have hmem' : none ∈ items.map some := by
          rw [← hitems, ← hnone]
          exact List.mem_map_of_mem hmem
        simp at hmem'
      rw [map_fetchedRows] at hitems
      exact (refilled_iff h hview hitems.symm).trans (and_iff_left hindex).symm

/-- For all viewports whose items are those of the cached segment, all views, and all rows: after
an update with the rows fetched for the missing segment the cache holds exactly the items of the
view, without an access beyond the vector, exactly if the view can be filled; where there are
meta data, in addition no fetched row may have 3 as the index of its primary name. -/
theorem viewport_update_iff (v : Viewport Item) (held : Nat → Item) (h : v.Holds held)
    (line count totalNumberOfLines : UInt32) (fn : NewItemFn Item) :
    let w := (v.setView line.toNat count.toNat totalNumberOfLines.toNat).2
    (∀ data : Nat → SimpleRow,
      w.Refilled held (fun n => some (fn.ofSimpleRow (data n)))
          (w.updateWith fun vp gap =>
            vp.updateCacheRegionSimple fn gap (fetchedRows data w.getMissingSegment)) ↔
        w.Refillable) ∧
    ∀ data : Nat → MetaDataRow,
      w.Refilled held (fun n => fn.ofMetaDataRow (data n))
          (w.updateWith fun vp gap =>
            vp.updateCacheRegionWithMetaData fn gap (fetchedRows data w.getMissingSegment)) ↔
        w.Refillable ∧ ∀ n, w.IsMissing n → (data n).primaryNameIndex ≠ 3 := by
  intro w
  have hmax : uintMax = 2 ^ 32 - 1 := rfl
  have hcount := count.toNat_lt
  have htotal := totalNumberOfLines.toNat_lt
  have hview : w.viewSegment.InRange := clippedView_inRange (by omega) (by omega)
  have hw : w.Holds held := ⟨h.range, h.items⟩
  exact ⟨refilled_simple_iff hw hview fn, refilled_metaData_iff hw hview fn⟩

/-! ## Examples -/

/-- Items that are names. -/
def nameItems : NewItemFn String := ⟨fun name _ _ => name, 0⟩

/-- The first lines of a list are cached, with an empty view. -/
def firstLines (count : Nat) : Viewport String :=
  { itemsSegment := ⟨0, count⟩, items := List.replicate count (some "old"), cacheSize := 3 }

theorem firstLines_holds {count : Nat} (h : count < 2 ^ 32) :
    (firstLines count).Holds fun _ => "old" := by
  refine ⟨by simpa [firstLines, Segment.InRange] using h, ?_⟩
  simp [firstLines, fetchedRows, List.map_const', List.length_range]

/-- One line below. -/
theorem viewport_update_one_down :
    let w := ((firstLines 3).setView 1 3 10).2
    w.Refilled (fun _ => "old") (fun n => some (nameItems.ofSimpleRow ⟨"new", n.toUInt8⟩))
      (w.updateWith fun vp gap => vp.updateCacheRegionSimple nameItems gap
        (fetchedRows (fun n => ⟨"new", n.toUInt8⟩) w.getMissingSegment)) :=
  ((viewport_update_iff (firstLines 3) _ (firstLines_holds (by decide)) 1 3 10 nameItems).1
    _).mpr (by decide)

/-- A view that is larger than the cached segment: an item beyond the vector is replaced. -/
theorem viewport_update_larger_view :
    ¬∀ (v : Viewport String) (held : Nat → String), v.Holds held →
      ∀ (line count totalNumberOfLines : UInt32) (data : Nat → SimpleRow),
        let w := (v.setView line.toNat count.toNat totalNumberOfLines.toNat).2
        w.Refilled held (fun n => some (nameItems.ofSimpleRow (data n)))
          (w.updateWith fun vp gap =>
            vp.updateCacheRegionSimple nameItems gap (fetchedRows data w.getMissingSegment)) := by
  intro h
  obtain ⟨v', hv', -⟩ := h (firstLines 3) _ (firstLines_holds (by decide)) 1 4 10
    fun _ => ⟨"new", 0⟩
  have hbeyond : (((firstLines 3).setView 1 4 10).2.updateWith fun vp gap =>
      vp.updateCacheRegionSimple nameItems gap (fetchedRows (fun _ => ⟨"new", 0⟩)
        ((firstLines 3).setView 1 4 10).2.getMissingSegment)) = none := by
    rw [updateWith_simple]
    rfl
  cases hbeyond.symm.trans hv'

end Viewport

end Drcpd.Lists

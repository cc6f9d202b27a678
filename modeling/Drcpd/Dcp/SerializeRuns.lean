/-
  Dcp/SerializeRuns.lean --- requests that are merged into queue entries.

  All requests are recorded, in the order in which they are made, each with the update
  flags that have been added for its view since the request before.  An entry of the
  queue stands for a group of requests.  `serialize_run_exact` says, for every run, that
  each entry is what its group comes to, that the groups of a view follow one another
  without a gap, and that entries are taken out in the order of their first requests.
-/
import Mathlib.Data.List.Forall2
import Mathlib.Tactic.SplitIfs
import Drcpd.Foundation.Run
import Drcpd.Dcp.Serialize

set_option autoImplicit false

namespace Drcpd.Dcp

open Drcpd.Foundation

variable {V : Type}

/-! ## Requests -/

/-- A request to serialize a view, with the update flags that come with it. -/
structure Request (V : Type) where
  view : V
  isFullView : Bool
  isBusy : Option Bool
  flags : List UInt32
  number : Nat
  deriving DecidableEq, Repr

/-- All of the flags. -/
def orAll (flags : List UInt32) : UInt32 := flags.foldl (· ||| ·) 0

/-- The latest value that is known. -/
def latest (values : List (Option Bool)) : Option Bool :=
  values.foldl (fun known value => if value.isSome then value else known) none

@[simp] theorem orAll_append (flags flags' : List UInt32) :
    orAll (flags ++ flags') = orAll flags ||| orAll flags' := by
  have hfrom : ∀ (flags : List UInt32) (x : UInt32),
      flags.foldl (· ||| ·) x = x ||| orAll flags := by
    intro flags
    induction flags with
    | nil =>
      intro x
      exact (UInt32.or_zero).symm
    | cons flag flags ih =>
      intro x
      unfold orAll
      rw [List.foldl_cons, List.foldl_cons, ih, ih, UInt32.zero_or, UInt32.or_assoc]
  unfold orAll
  rw [List.foldl_append, hfrom]
  rfl

@[simp] theorem latest_concat (values : List (Option Bool)) (value : Option Bool) :
    latest (values ++ [value]) = if value.isSome then value else latest values := by
  unfold latest
  rw [List.foldl_append]
  rfl

/-- An entry is what a group of requests for its view comes to. -/
structure Merges (requests : List (Request V)) (d : QueueData V) : Prop where
  nonempty : requests ≠ []
  view : ∀ r ∈ requests, r.view = d.view
  flags : d.viewUpdateFlags = orAll (requests.flatMap (·.flags))
  full : d.isFullSerialize = requests.any (·.isFullView)
  busy : d.busyFlag = latest (requests.map (·.isBusy))

/-- The number of the first request of a group. -/
def firstNumber (requests : List (Request V)) : Option Nat := requests.head?.map (·.number)

theorem Merges.single (r : Request V) :
    Merges [r] ⟨r.view, orAll r.flags, r.isBusy, r.isFullView⟩ where
  nonempty := List.cons_ne_nil _ _
  view := by
    intro r' hr'
    rw [List.mem_singleton.mp hr']
  flags := by rw [List.flatMap_singleton]
  full := (Bool.or_false _).symm
  busy := by
    have hsingle := latest_concat [] r.isBusy
    rw [List.nil_append] at hsingle
    rw [List.map_singleton, hsingle]
    cases r.isBusy with
    | none => rfl
    | some value => rfl

theorem Merges.concat {group : List (Request V)} {d : QueueData V} (h : Merges group d)
    {r : Request V} (hview : d.view = r.view) :
    Merges (group ++ [r]) (Queue.mergeRequest d r.isFullView (orAll r.flags) r.isBusy) where
  nonempty := by
    intro hnil
    exact List.cons_ne_nil _ _ (List.append_eq_nil_iff.mp hnil).2
  view := by
    intro r' hr'
    rcases List.mem_append.mp hr' with hr' | hr'
    · exact h.view r' hr'
    · rw [List.mem_singleton.mp hr']
      exact hview.symm
  flags := by
    unfold Queue.mergeRequest
    rw [List.flatMap_append, orAll_append, List.flatMap_singleton, h.flags]
  full := by
    have hsingle : [r].any (·.isFullView) = r.isFullView := Bool.or_false _
    unfold Queue.mergeRequest
    rw [List.any_append, hsingle, ← h.full]
    cases r.isFullView with
    | false => exact (Bool.or_false _).symm
    | true => exact (Bool.or_true _).symm
  busy := by
    unfold Queue.mergeRequest
    rw [List.map_append, List.map_singleton, latest_concat, h.busy]

theorem Merges.head_view {group : List (Request V)} {d : QueueData V} (h : Merges group d) :
    group.head?.map (·.view) = some d.view := by
  cases group with
  | nil => exact absurd rfl h.nonempty
  | cons r group => exact congrArg some (h.view r List.mem_cons_self)

section Groups

variable [DecidableEq V]

/-- A request joins the group of its view, or makes a new one. -/
def record (r : Request V) : List (List (Request V)) → List (List (Request V))
  | [] => [[r]]
  | group :: groups =>
      if group.head?.map (·.view) = some r.view then (group ++ [r]) :: groups
      else group :: record r groups

/-- `add` does with the entries what `record` does with the groups. -/
theorem merges_record {groups : List (List (Request V))} {data : List (QueueData V)}
    (h : List.Forall₂ Merges groups data) (r : Request V) :
    List.Forall₂ Merges (record r groups)
      (Queue.addToData r.view r.isFullView (orAll r.flags) r.isBusy data) := by
  induction h with
  | nil => exact .cons (Merges.single r) .nil
  | @cons group d groups data hmerges hrest ih =>
    unfold record Queue.addToData
    rw [hmerges.head_view]
    rcases Decidable.em (d.view = r.view) with hview | hview
    · rw [if_pos hview, if_pos (congrArg some hview)]
      exact .cons (hmerges.concat hview) hrest
    · rw [if_neg hview, if_neg fun h => hview (Option.some.inj h)]
      exact .cons hmerges ih

theorem views_addToData (view : V) (isFullSerialize : Bool) (viewUpdateFlags : UInt32)
    (isBusy : Option Bool) (data : List (QueueData V)) :
    (Queue.addToData view isFullSerialize viewUpdateFlags isBusy data).map (·.view) =
      if view ∈ data.map (·.view) then data.map (·.view) else data.map (·.view) ++ [view] := by
  induction data with
  | nil => rfl
  | cons d data ih =>
    unfold Queue.addToData
    rcases Decidable.em (d.view = view) with hview | hview
    · rw [if_pos hview, List.map_cons, List.map_cons,
        if_pos (List.mem_cons.mpr (Or.inl hview.symm))]
      rfl
    · have hmem : view ∈ (d :: data).map (·.view) ↔ view ∈ data.map (·.view) := by
        rw [List.map_cons, List.mem_cons, or_iff_right fun h => hview h.symm]
      rw [if_neg hview, List.map_cons, ih]
      simp only [hmem]
      split_ifs <;> rfl

theorem nodup_addToData (view : V) (isFullSerialize : Bool) (viewUpdateFlags : UInt32)
    (isBusy : Option Bool) {data : List (QueueData V)} (h : (data.map (·.view)).Nodup) :
    ((Queue.addToData view isFullSerialize viewUpdateFlags isBusy data).map
      (·.view)).Nodup := by
  rw [views_addToData]
  split_ifs with hmem
  · exact h
  · exact List.nodup_append.mpr ⟨h, List.nodup_cons.mpr ⟨List.not_mem_nil, List.nodup_nil⟩,
      fun v hv v' hv' heq =>
      hmem (List.mem_singleton.mp hv' ▸ heq ▸ hv)⟩

/-- The new request is the last one of its view; those of other views stay as they are. -/
theorem filter_record {groups : List (List (Request V))} {data : List (QueueData V)}
    (h : List.Forall₂ Merges groups data) (hnodup : (data.map (·.view)).Nodup) (r : Request V)
    (view : V) :
    (record r groups).flatten.filter (fun r => decide (r.view = view)) =
      groups.flatten.filter (fun r => decide (r.view = view)) ++
        [r].filter fun r => decide (r.view = view) := by
  induction h with
  | nil => rfl
  | @cons group d groups data hmerges hrest ih =>
    obtain ⟨hd, hnodup⟩ := List.nodup_cons.mp hnodup
    unfold record
    rw [hmerges.head_view]
    split_ifs with hview
    · have hview : d.view = r.view := Option.some.inj hview
      rw [List.flatten_cons, List.flatten_cons, List.filter_append, List.filter_append,
        List.filter_append, List.append_assoc, List.append_assoc]
      congr 1
      rcases Decidable.em (r.view = view) with hsame | hother
      · -- No other group has requests for the view.
        have hnone : groups.flatten.filter (fun r => decide (r.view = view)) = [] := by
          rw [List.filter_eq_nil_iff]
          intro r' hr' hr'view
          obtain ⟨group', hgroup', hmem⟩ := List.mem_flatten.mp hr'
          obtain ⟨i, hi, rfl⟩ := List.mem_iff_getElem.mp hgroup'
          have hi' : i < data.length := hrest.length_eq ▸ hi
          have hmerges' : Merges groups[i] data[i] := hrest.get hi hi'
          have hdata : data[i].view = d.view := by
            rw [hview, hsame, ← of_decide_eq_true hr'view, hmerges'.view r' hmem]
          exact hd (List.mem_map.mpr ⟨_, List.getElem_mem hi', hdata⟩)
        rw [hnone, List.append_nil, List.nil_append]
      · have hnone : [r].filter (fun r => decide (r.view = view)) = [] := by
          rw [List.filter_singleton, decide_eq_false hother]
          rfl
        rw [hnone, List.append_nil, List.nil_append]
    · rw [List.flatten_cons, List.flatten_cons, List.filter_append, List.filter_append,
        ih hnodup, List.append_assoc]

/-- Groups are begun in the order of their first requests. -/
theorem firstNumber_record (r : Request V) {groups : List (List (Request V))}
    {data : List (QueueData V)} (h : List.Forall₂ Merges groups data) :
    (record r groups).filterMap firstNumber = groups.filterMap firstNumber ∨
      (record r groups).filterMap firstNumber = groups.filterMap firstNumber ++ [r.number] := by
  induction h with
  | nil => exact Or.inr rfl
  | @cons group d groups data hmerges hrest ih =>
    unfold record
    split_ifs
    · left
      have hfirst : firstNumber (group ++ [r]) = firstNumber group := by
        cases group with
        | nil => exact absurd rfl hmerges.nonempty
        | cons r' group => rfl
      rw [List.filterMap_cons, List.filterMap_cons, hfirst]
    · rw [List.filterMap_cons, List.filterMap_cons]
      cases firstNumber group with
      | none => exact ih
      | some n => exact ih.imp (congrArg (n :: ·)) (congrArg (n :: ·))

end Groups

/-! ## Runs with all requests recorded -/

/-- An entry that has been handed to `write_whole_xml`, with the requests for its view
since the entry before: those it was made from, and those that were ignored. -/
structure Handed (V : Type) where
  entry : QueueData V
  requests : List (Request V)
  ignored : List (Request V)
  deriving DecidableEq, Repr

/-- A run, with the update flags added for each view and those that have not come with a
request yet, the requests, and the groups the entries of the queue stand for. -/
structure SerializeRun (V : Type) where
  views : SerializeState V := {}
  allAdded : V → List UInt32 := fun _ => []
  added : V → List UInt32 := fun _ => []
  requests : List (Request V) := []
  groups : List (List (Request V)) := []
  ignored : List (Request V) := []
  handed : List (Handed V) := []

namespace SerializeRun

variable [DecidableEq V]

/-- Update flags are added for a view. -/
def addFlags (s : SerializeRun V) (view : V) (flags : UInt32) : SerializeRun V :=
  { s with
    allAdded := Function.update s.allAdded view (s.allAdded view ++ [flags])
    added := Function.update s.added view (s.added view ++ [flags]) }

/-- A request is recorded, with the flags added since the request before. -/
def request (s : SerializeRun V) (view : V) (isFullView : Bool) (isBusy : Option Bool) :
    SerializeRun V :=
  let r : Request V := ⟨view, isFullView, isBusy, s.added view, s.requests.length⟩
  { s with
    added := Function.update s.added view []
    requests := s.requests ++ [r]
    groups := record r s.groups }

/-- A request is ignored; the flags are left for the next one. -/
def ignore (s : SerializeRun V) (view : V) (isFullView : Bool) (isBusy : Option Bool) :
    SerializeRun V :=
  { s with ignored := s.ignored ++ [⟨view, isFullView, isBusy, [], s.requests.length⟩] }

/-- What an event does to the record. -/
def note (s : SerializeRun V) : SerializeState.Event V → SerializeRun V
  | .addUpdateFlags view flags => s.addFlags view flags
  | .doSerialize view _ isFullView isBusy =>
      if s.views.isSerializing view then s.ignore view isFullView isBusy
      else s.request view isFullView isBusy
  | .written .. | .logBegin _ | .logEnd | .processPendingTransactions
  | .serializationResult _ => s

/-- The views go on; if an entry is handed to `write_whole_xml`, its group is the first. -/
def advance (s : SerializeRun V) : SerializeState V × Option (QueueData V) → SerializeRun V
  | (views, none) => { s with views := views }
  | (views, some d) =>
      { s with
        views := views
        groups := s.groups.tail
        ignored := s.ignored.filter fun r => decide (r.view ≠ d.view)
        handed := s.handed ++
          [⟨d, s.groups.headD [], s.ignored.filter fun r => decide (r.view = d.view)⟩] }

/-- One event. -/
def step (s : SerializeRun V) (e : SerializeState.Event V) : Option (SerializeRun V) :=
  (s.views.step e).map (s.note e).advance

/-- The groups of the entries that have been handed out, and of those in the queue. -/
def allGroups (s : SerializeRun V) : List (List (Request V)) :=
  s.handed.map (·.requests) ++ s.groups

/-- The requests of a run and the entries they have been merged into. -/
structure Exact (s : SerializeRun V) : Prop where
  /-- Each entry of the queue is what its group comes to. -/
  queued : List.Forall₂ Merges s.groups s.views.queue.data
  one_entry : (s.views.queue.data.map (·.view)).Nodup
  /-- Each entry that has been handed to `write_whole_xml` was what its group came to. -/
  handed : ∀ h ∈ s.handed, Merges h.requests h.entry
  /-- The entries are taken in the order of their first requests. -/
  in_order : (s.allGroups.filterMap firstNumber).Pairwise (· < ·)
  /-- The groups of a view make up its requests: none is dropped. -/
  complete : ∀ view, s.requests.filter (fun r => decide (r.view = view)) =
    s.allGroups.flatten.filter fun r => decide (r.view = view)
  numbered : s.requests.map (·.number) = List.range s.requests.length
  /-- The flags added for a view have come with its requests, or are still to come. -/
  flags : ∀ view, s.allAdded view =
    (s.requests.filter fun r => decide (r.view = view)).flatMap (·.flags) ++ s.added view
  flags_left : ∀ view, s.views.updateFlags view = orAll (s.added view)

theorem init_exact (os : Option String) :
    ({ views := { queue := { dcpd := { os := os } } } } : SerializeRun V).Exact where
  queued := .nil
  one_entry := List.nodup_nil
  handed := fun _ hhanded => absurd hhanded List.not_mem_nil
  in_order := List.Pairwise.nil
  complete := fun _ => rfl
  numbered := rfl
  flags := fun _ => rfl
  flags_left := fun _ => rfl

/-! ## What each function does to the queue -/

/-- The queue stays as it is, or its first entry is handed out. -/
structure Hands (s : SerializeState V)
    (done : SerializeState V × Option (QueueData V)) : Prop where
  data : s.queue.data = done.2.toList ++ done.1.queue.data
  updateFlags : done.1.updateFlags = s.updateFlags

theorem hands_returnTo (s : SerializeState V) (caller : Option V) :
    Hands s (s.returnTo caller, none) := by
  cases caller with
  | none => exact ⟨rfl, rfl⟩
  | some view => exact ⟨rfl, rfl⟩

theorem hands_process (s : SerializeState V) (caller : Option V) :
    Hands s (s.process caller) := by
  unfold SerializeState.process
  split
  · exact hands_returnTo s caller
  · rename_i d queue htake
    refine ⟨?_, rfl⟩
    unfold Queue.take at htake
    split at htake
    · exact absurd htake nofun
    · rename_i d' rest hdata
      split at htake
      · exact absurd htake nofun
      · obtain ⟨rfl, rfl⟩ := Prod.mk.inj (Option.some.inj htake)
        exact hdata

theorem hands_startTransaction (s : SerializeState V) (mode : Mode) (caller : Option V) :
    Hands s (s.startTransaction mode caller) := by
  unfold SerializeState.startTransaction
  split_ifs
  · exact hands_returnTo s caller
  · exact hands_returnTo s caller
  · cases mode with
    | syncIfPossible => exact hands_process s caller
    | forceAsync =>
      cases caller with
      | none => exact ⟨rfl, rfl⟩
      | some view => exact ⟨rfl, rfl⟩

omit [DecidableEq V] in
theorem finishTransaction_data {q q' : Queue V} {result : TransactionResult} {isFinished : Bool}
    (h : q.finishTransaction result = some (isFinished, q')) : q'.data = q.data := by
  unfold Queue.finishTransaction at h
  dsimp only at h
  split_ifs at h
  · rw [← (Prod.mk.inj (Option.some.inj h)).2]
  · rw [← (Prod.mk.inj (Option.some.inj h)).2]
  · rw [← (Prod.mk.inj (Option.some.inj h)).2]

/-- All events but a request and `add_update_flags` hand out an entry at most. -/
theorem step_hands {s : SerializeState V} {e : SerializeState.Event V}
    {done : SerializeState V × Option (QueueData V)} (h : s.step e = some done)
    (hflags : ∀ view flags, e ≠ .addUpdateFlags view flags)
    (hrequest : ∀ view mode isFullView isBusy, e ≠ .doSerialize view mode isFullView isBusy) :
    Hands s done := by
  cases e with
  | addUpdateFlags view flags => exact absurd rfl (hflags view flags)
  | doSerialize view mode isFullView isBusy =>
    exact absurd rfl (hrequest view mode isFullView isBusy)
  | written text isOk =>
    unfold SerializeState.step at h
    dsimp only at h
    split at h
    · rename_i caller frames hframes
      have hdata := Queue.written_data s.queue text isOk
      split_ifs at h
      · obtain rfl := Option.some.inj h
        cases caller with
        | none => exact ⟨hdata.symm, rfl⟩
        | some view => exact ⟨hdata.symm, rfl⟩
      · obtain rfl := Option.some.inj h
        have hprocess := hands_process
          { s with queue := (s.queue.written text isOk).2, frames := frames } caller
        exact ⟨hdata.symm.trans hprocess.data, hprocess.updateFlags⟩
    · exact absurd h nofun
  | logBegin view =>
    unfold SerializeState.step at h
    dsimp only at h
    split_ifs at h
    · obtain rfl := Option.some.inj h
      exact ⟨rfl, rfl⟩
    · obtain rfl := Option.some.inj h
      exact ⟨rfl, rfl⟩
  | logEnd =>
    unfold SerializeState.step at h
    dsimp only at h
    split at h
    · obtain rfl := Option.some.inj h
      exact ⟨rfl, rfl⟩
    · exact absurd h nofun
  | processPendingTransactions =>
    unfold SerializeState.step at h
    dsimp only at h
    split at h
    · obtain rfl := Option.some.inj h
      exact hands_process s none
    · exact absurd h nofun
  | serializationResult result =>
    unfold SerializeState.step at h
    dsimp only at h
    split at h
    · cases hfinish : s.queue.finishTransaction result with
      | none =>
        rw [hfinish] at h
        exact absurd h nofun
      | some finished =>
        obtain ⟨isFinished, queue⟩ := finished
        have hdata := finishTransaction_data hfinish
        rw [hfinish] at h
        cases isFinished with
        | false =>
          obtain rfl := Option.some.inj h
          exact ⟨hdata.symm, rfl⟩
        | true =>
          obtain rfl := Option.some.inj h
          have hstart := hands_startTransaction { s with queue := queue } .syncIfPossible none
          exact ⟨hdata.symm.trans hstart.data, hstart.updateFlags⟩
    · exact absurd h nofun

/-! ## What each event does to the record -/

variable {s : SerializeRun V}

theorem advance_views (s : SerializeRun V) (views : SerializeState V)
    (done : SerializeState V × Option (QueueData V)) :
    ({ s with views := views }).advance done = s.advance done := by
  obtain ⟨views', handed⟩ := done
  cases handed with
  | none => rfl
  | some d => rfl

theorem Exact.advance (h : s.Exact) {done : SerializeState V × Option (QueueData V)}
    (hhands : Hands s.views done) : (s.advance done).Exact := by
  obtain ⟨views, handed⟩ := done
  have hdata := hhands.data
  have hflags : ∀ view, views.updateFlags view = orAll (s.added view) := fun view =>
    (congrFun hhands.updateFlags view).trans (h.flags_left view)
  cases handed with
  | none =>
    have hdata : s.views.queue.data = views.queue.data := hdata
    exact
      { queued := by
          have hqueued := h.queued
          rw [hdata] at hqueued
          exact hqueued
        one_entry := by
          have hone := h.one_entry
          rw [hdata] at hone
          exact hone
        handed := h.handed
        in_order := h.in_order
        complete := h.complete
        numbered := h.numbered
        flags := h.flags
        flags_left := hflags }
  | some d =>
    have hdata : s.views.queue.data = d :: views.queue.data := hdata
    have hqueued := h.queued
    have hone := h.one_entry
    rw [hdata] at hqueued hone
    cases hgroups : s.groups with
    | nil =>
      rw [hgroups] at hqueued
      exact absurd hqueued nofun
    | cons group groups =>
      rw [hgroups] at hqueued
      obtain ⟨hmerges, hrest⟩ := List.forall₂_cons.mp hqueued
      have hall : (s.advance (views, some d)).allGroups = s.allGroups := by
        unfold SerializeRun.advance allGroups
        dsimp only
        rw [hgroups, List.map_append, List.append_assoc]
        rfl
      have htail : (s.advance (views, some d)).groups = groups := by
        unfold SerializeRun.advance
        dsimp only
        rw [hgroups]
        rfl
      exact
        { queued := by
            rw [htail]
            exact hrest
          one_entry := (List.nodup_cons.mp hone).2
          handed := by
            intro handed hhanded
            rcases List.mem_append.mp hhanded with hhanded | hhanded
            · exact h.handed handed hhanded
            · rw [List.mem_singleton.mp hhanded, hgroups]
              exact hmerges
          in_order := by
            rw [hall]
            exact h.in_order
          complete := by
            rw [hall]
            exact h.complete
          numbered := h.numbered
          flags := h.flags
          flags_left := hflags }

/-- Flags are added for a view. -/
theorem Exact.addFlags (h : s.Exact) (view : V) (flags : UInt32) :
    ({ s.addFlags view flags with views := s.views.addUpdateFlags view flags }).Exact where
  queued := h.queued
  one_entry := h.one_entry
  handed := h.handed
  in_order := h.in_order
  complete := h.complete
  numbered := h.numbered
  flags := by
    intro view'
    unfold SerializeRun.addFlags
    rcases Decidable.em (view' = view) with rfl | hview
    · dsimp only
      rw [Function.update_self, Function.update_self, h.flags, List.append_assoc]
    · dsimp only
      rw [Function.update_of_ne hview, Function.update_of_ne hview]
      exact h.flags view'
  flags_left := by
    intro view'
    unfold SerializeRun.addFlags SerializeState.addUpdateFlags
    rcases Decidable.em (view' = view) with rfl | hview
    · dsimp only
      rw [Function.update_self, Function.update_self, orAll_append, h.flags_left]
      unfold orAll
      rw [List.foldl_cons, List.foldl_nil, UInt32.zero_or]
    · dsimp only
      rw [Function.update_of_ne hview, Function.update_of_ne hview]
      exact h.flags_left view'

/-- All requests so far have smaller numbers. -/
theorem Exact.firstNumber_lt (h : s.Exact) :
    ∀ n ∈ s.allGroups.filterMap firstNumber, n < s.requests.length := by
  intro n hn
  obtain ⟨group, hgroup, hfirst⟩ := List.mem_filterMap.mp hn
  cases group with
  | nil => exact absurd hfirst nofun
  | cons r group =>
    have hnumber : r.number = n := Option.some.inj hfirst
    have hmem : r ∈ s.allGroups.flatten.filter fun r' => decide (r'.view = r.view) :=
      List.mem_filter.mpr
        ⟨List.mem_flatten.mpr ⟨_, hgroup, List.mem_cons_self⟩, decide_eq_true rfl⟩
    rw [← h.complete] at hmem
    have hnumbers := List.mem_map_of_mem (f := (·.number)) (List.mem_filter.mp hmem).1
    rw [h.numbered, hnumber] at hnumbers
    exact List.mem_range.mp hnumbers

/-- A request is made. -/
theorem Exact.request (h : s.Exact) (views : SerializeState V) (view : V) (isFullView : Bool)
    (isBusy : Option Bool)
    (hdata : views.queue.data =
      Queue.addToData view isFullView (s.views.updateFlags view) isBusy s.views.queue.data)
    (hflags : views.updateFlags = Function.update s.views.updateFlags view 0) :
    ({ s.request view isFullView isBusy with views := views }).Exact := by
  have hmerge : views.queue.data = Queue.addToData view isFullView (orAll (s.added view)) isBusy
      s.views.queue.data := by
    rw [hdata, h.flags_left]
  exact
    { queued := by
        dsimp only
        rw [hmerge]
        exact merges_record h.queued
          ⟨view, isFullView, isBusy, s.added view, s.requests.length⟩
      one_entry := by
        dsimp only
        rw [hmerge]
        exact nodup_addToData view isFullView _ isBusy h.one_entry
      handed := h.handed
      in_order := by
        have horder := h.in_order
        have hless := h.firstNumber_lt
        unfold allGroups at horder hless
        rw [List.filterMap_append] at horder hless
        unfold allGroups SerializeRun.request
        dsimp only
        rw [List.filterMap_append]
        rcases firstNumber_record ⟨view, isFullView, isBusy, s.added view, s.requests.length⟩
          h.queued with hsame | hnew
        · rw [hsame]
          exact horder
        · rw [hnew, ← List.append_assoc]
          refine List.pairwise_append.mpr ⟨horder, List.pairwise_singleton _ _, ?_⟩
          intro n hn n' hn'
          rw [List.mem_singleton.mp hn']
          exact hless n hn
      complete := by
        intro view'
        have hcomplete := h.complete view'
        unfold allGroups at hcomplete
        rw [List.flatten_append, List.filter_append] at hcomplete
        unfold allGroups SerializeRun.request
        dsimp only
        rw [List.filter_append, hcomplete, List.flatten_append, List.filter_append,
          filter_record h.queued h.one_entry, List.append_assoc]
      numbered := by
        unfold SerializeRun.request
        dsimp only
        rw [List.map_append, h.numbered, List.length_append, List.length_singleton,
          List.range_succ]
        rfl
      flags := by
        intro view'
        unfold SerializeRun.request
        dsimp only
        rw [List.filter_append, List.flatMap_append]
        rcases Decidable.em (view' = view) with rfl | hview
        · rw [Function.update_self, h.flags, List.filter_singleton, decide_eq_true rfl,
            List.append_nil]
          exact congrArg _ (List.flatMap_singleton _ _).symm
        · rw [Function.update_of_ne hview, h.flags, List.filter_singleton,
            decide_eq_false fun heq => hview heq.symm]
          exact congrArg (· ++ s.added view') (List.append_nil _).symm
      flags_left := by
        intro view'
        unfold SerializeRun.request
        dsimp only
        rw [hflags]
        rcases Decidable.em (view' = view) with rfl | hview
        · rw [Function.update_self, Function.update_self]
          rfl
        · rw [Function.update_of_ne hview, Function.update_of_ne hview]
          exact h.flags_left view' }

/-- The step lemma. -/
theorem Exact.step (h : s.Exact) {e : SerializeState.Event V} {s' : SerializeRun V}
    (hstep : s.step e = some s') : s'.Exact := by
  obtain ⟨done, hviews, rfl⟩ := Option.map_eq_some_iff.mp hstep
  cases e with
  | addUpdateFlags view flags =>
    obtain rfl := Option.some.inj hviews
    exact h.addFlags view flags
  | doSerialize view mode isFullView isBusy =>
    obtain rfl := Option.some.inj hviews
    unfold note SerializeState.doSerialize
    dsimp only
    split_ifs with hserializing
    · exact ⟨h.queued, h.one_entry, h.handed, h.in_order, h.complete, h.numbered, h.flags,
        h.flags_left⟩
    · rw [← advance_views]
      exact (h.request _ view isFullView isBusy rfl rfl).advance
        (hands_startTransaction _ mode (some view))
  | written text isOk => exact h.advance (step_hands hviews nofun nofun)
  | logBegin view => exact h.advance (step_hands hviews nofun nofun)
  | logEnd => exact h.advance (step_hands hviews nofun nofun)
  | processPendingTransactions => exact h.advance (step_hands hviews nofun nofun)
  | serializationResult result => exact h.advance (step_hands hviews nofun nofun)

/-- In every run, whatever is called while an entry is being written: each entry that is
handed to `write_whole_xml` is what the requests for its view come to that have been made
since the entry before, and none of them is dropped. -/
theorem serialize_run_exact (os : Option String) (es : List (SerializeState.Event V))
    (s : SerializeRun V)
    (hrun : runFrom step { views := { queue := { dcpd := { os := os } } } } es = some s) :
    s.Exact :=
  invariant_of_run (fun _ _ _ h hstep => Exact.step h hstep) es (init_exact os) hrun

/-- A view is asked for a full serialization while it is writing a partial one, and for a
partial one when dcpd has answered. -/
def fullRequestWhileSerializing : List (SerializeState.Event Nat) :=
  [.addUpdateFlags 1 4, .doSerialize 1 .syncIfPossible false none, .addUpdateFlags 1 8,
    .doSerialize 1 .syncIfPossible true (some true), .written "<update/>" true,
    .serializationResult .ok, .doSerialize 1 .syncIfPossible false none]

/-- Both partial serializations are exact. -/
theorem serialize_run_exact_partial :
    ∃ s : SerializeRun Nat, runFrom step {} fullRequestWhileSerializing = some s ∧
      s.handed.map (·.entry.viewUpdateFlags) = [4, 8] ∧ s.Exact := by
  refine ⟨_, rfl, rfl, ?_⟩
  exact serialize_run_exact none fullRequestWhileSerializing _ rfl

/-- A request made while its view is serializing is ignored: neither the entry being
written nor the next one is a full serialization. -/
theorem request_ignored_while_serializing :
    ¬ ∀ (os : Option String) (es : List (SerializeState.Event Nat)) (s : SerializeRun Nat),
      runFrom step { views := { queue := { dcpd := { os := os } } } } es = some s →
      ∀ h ∈ s.handed, Merges (h.requests ++ h.ignored) h.entry := by
  intro hall
  have hmerges := hall none fullRequestWhileSerializing _ rfl
    ⟨⟨1, 8, none, false⟩, [⟨1, false, none, [8], 1⟩], [⟨1, true, some true, [], 1⟩]⟩
    (List.mem_cons_of_mem _ List.mem_cons_self)
  exact absurd hmerges.full (by decide)

end SerializeRun

end Drcpd.Dcp

/-
  Lists/Segment.lean --- line ranges of a list (`cache_segment.hh`).

  Line numbers and counts are 32-bit in the source.  Here they are natural numbers,
  and every sum of the source is taken modulo 2^32.  `InRange` says of a segment
  that its end does not wrap around.
-/
import Mathlib.Algebra.Group.Nat.Defs
import Mathlib.Data.Nat.Basic

set_option autoImplicit false

namespace Drcpd.Lists

/-- A sum of two `unsigned int`. -/
def addUInt (m n : Nat) : Nat := (m + n) % 2 ^ 32

/-- `UINT_MAX`. -/
def uintMax : Nat := 2 ^ 32 - 1

theorem addUInt_of_lt {m n : Nat} (h : m + n < 2 ^ 32) : addUInt m n = m + n :=
  Nat.mod_eq_of_lt h

theorem addUInt_le (m n : Nat) : addUInt m n ≤ m + n := Nat.mod_le _ _

/-- `List::Segment`. -/
structure Segment where
  line : Nat := 0
  count : Nat := 0
  deriving DecidableEq, Repr

/-- `List::SegmentIntersection`. -/
inductive SegmentIntersection where
  | disjoint
  | equal
  | topRemains
  | bottomRemains
  | centerRemains
  | includedInOther
  deriving DecidableEq, Repr

/-- `List::CacheSegmentState`. -/
inductive CacheSegmentState where
  | empty
  | loading
  | loadingTopEmptyBottom
  | loadingBottomEmptyTop
  | loadingCenter
  | cached
  | cachedTopLoadingBottom
  | cachedBottomLoadingTop
  | cachedTopEmptyBottom
  | cachedBottomEmptyTop
  | cachedTopLoadingCenterEmptyBottom
  | cachedBottomLoadingCenterEmptyTop
  | cachedCenter
  deriving DecidableEq, Repr

namespace Segment

/-- `beyond`: the line after the last one. -/
def beyond (s : Segment) : Nat := addUInt s.line s.count

/-- `contains_line`. -/
def containsLine (s : Segment) (n : Nat) : Bool := decide (s.line ≤ n ∧ n < s.beyond)

/-- The end of the segment does not wrap around. -/
def InRange (s : Segment) : Prop := s.line + s.count < 2 ^ 32

/-- `intersection`: how the other segment cuts this one, and the number of lines
they share. -/
def intersection (s other : Segment) : SegmentIntersection × Nat :=
  if s.count = 0 then
    if other.count = 0 then
      (if s.line = other.line then .equal else .disjoint, 0)
    else (if other.containsLine s.line then .includedInOther else .disjoint, 0)
  else if other.count = 0 then
    (if s.containsLine other.line then .centerRemains else .disjoint, 0)
  else if s.line = other.line then
    if s.count < other.count then (.includedInOther, s.count)
    else if other.count < s.count then (.topRemains, other.count)
    else (.equal, s.count)
  else if s.line < other.line then
    if s.beyond ≤ other.line then (.disjoint, 0)
    else if s.beyond ≤ other.beyond then (.bottomRemains, s.beyond - other.line)
    else (.centerRemains, other.count)
  else
    if other.beyond ≤ s.line then (.disjoint, 0)
    else if other.beyond < s.beyond then (.topRemains, other.beyond - s.line)
    else (.includedInOther, s.count)

theorem beyond_of_inRange {s : Segment} (h : s.InRange) : s.beyond = s.line + s.count :=
  addUInt_of_lt h

/-- A contained line has an offset inside the segment, wrap-around or not. -/
theorem offset_lt_of_containsLine {s : Segment} {n : Nat} (h : s.containsLine n = true) :
    s.line ≤ n ∧ n - s.line < s.count := by
  have hn : s.line ≤ n ∧ n < s.beyond := of_decide_eq_true h
  have hle : s.beyond ≤ s.line + s.count := addUInt_le _ _
  omega

/-! ## What the kinds of intersection say about the lines -/

section Kinds

variable {s other : Segment} {isize : Nat}

/-- Where only the top of a segment is shared with another one, the other one ends
inside it, `isize` lines below its start. -/
theorem of_topRemains (hs : s.InRange) (ho : other.InRange)
    (h : s.intersection other = (.topRemains, isize)) :
    other.line ≤ s.line ∧ other.line + other.count = s.line + isize ∧
      0 < isize ∧ isize < s.count := by
  unfold intersection at h
  rw [beyond_of_inRange hs, beyond_of_inRange ho] at h
  split_ifs at h <;> simp only [Prod.mk.injEq, reduceCtorEq, false_and] at h <;> omega

/-- Where only the bottom of a segment is shared with another one, the other one
starts inside it, `isize` lines before its end. -/
theorem of_bottomRemains (hs : s.InRange) (ho : other.InRange)
    (h : s.intersection other = (.bottomRemains, isize)) :
    s.line < other.line ∧ s.line + s.count = other.line + isize ∧
      0 < isize ∧ isize ≤ other.count ∧ isize < s.count := by
  unfold intersection at h
  rw [beyond_of_inRange hs, beyond_of_inRange ho] at h
  split_ifs at h <;> simp only [Prod.mk.injEq, reduceCtorEq, false_and] at h
  omega

end Kinds

end Segment

end Drcpd.Lists

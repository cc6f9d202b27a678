/-
  Search/BinarySearch.lean --- binary search in a list of the broker (`search_algo.cc`).

  For each character of the folded query, one binary search finds the top-most and another one
  the bottom-most item of the current partition with that character at the depth reached.  One
  step below is one turn of one of these two loops, with its access to the list.

  Texts are the sequences of their code points.  What `g_utf8_casefold` makes of a character is
  a parameter.  Indices are natural numbers; that no partition becomes empty, so that no
  difference of its bounds wraps around, is a theorem.
-/
import Drcpd.Foundation.Fuel

set_option autoImplicit false

namespace Drcpd.Search

/-! ## Strings -/

/-- The part of a text up to its first NUL character. -/
def cString (text : List Nat) : List Nat := text.takeWhile (· ≠ 0)

/-- `g_utf8_casefold`. -/
def casefold (foldChar : Nat → List Nat) (text : List Nat) : List Nat := text.flatMap foldChar

/-- `ComparedString`. -/
structure ComparedString where
  string : Option (List Nat)
  numberOfUtf8Chars : Nat
  deriving DecidableEq, Repr

namespace ComparedString

/-- `ComparedString::set`.  The number of characters is that of the text before folding. -/
def set (foldChar : Nat → List Nat) (text : List Nat) : ComparedString :=
  let text := cString text
  if 0 < text.length then ⟨some (casefold foldChar text), text.length⟩ else ⟨none, 0⟩

/-- `length`. -/
def length (cs : ComparedString) : Nat := cs.numberOfUtf8Chars

/-- `get_char_at`; its assertion `idx < length` only logs.  The string ends with a NUL character,
and there is nothing behind it; without a string, a null pointer is dereferenced. -/
def getCharAt (cs : ComparedString) (idx : Nat) : Option Nat :=
  cs.string.bind fun s => (s ++ [0])[idx]?

end ComparedString

/-- The characters that `Needle::next_utf8_char` returns. -/
def needle (foldChar : Nat → List Nat) (query : List Nat) : List Nat :=
  let cs := ComparedString.set foldChar query
  (cs.string.getD []).take cs.length

/-! ## Partitions -/

/-- `BSearchState::Result`. -/
inductive Result
  | internalFailure
  | searching
  | checkingBoundary
  | foundMatch
  | foundApproximate
  deriving DecidableEq, Repr

/-- `BSearchState::Partition`. -/
structure Partition where
  top : Nat
  bottom : Nat
  center : Nat
  deriving DecidableEq, Repr

namespace Partition

def isUnique (p : Partition) : Bool := decide (p.top = p.bottom)

def isEmpty (p : Partition) : Bool := decide (p.bottom < p.top)

def size (p : Partition) : Nat := p.bottom - p.top + 1

/-- `step_center_down`. -/
def stepCenterDown (p : Partition) : Partition := { p with center := p.center + 1 }

/-- `compute_center`. -/
def computeCenter (p : Partition) : Nat := p.top + (p.bottom - p.top) / 2

/-- `lock_at_center`. -/
def lockAtCenter (p : Partition) : Partition := { p with top := p.center, bottom := p.center }

/-- `update_center`. -/
def updateCenter (p : Partition) : Result × Partition :=
  if !p.isUnique then (.searching, { p with center := p.computeCenter })
  else (.checkingBoundary, { p with center := p.top })

/-- `pick_top_half`. -/
def pickTopHalf (p : Partition) (sub : Nat) : Result × Partition :=
  updateCenter { p with bottom := p.center - sub }

/-- `pick_bottom_half`. -/
def pickBottomHalf (p : Partition) (add : Nat) : Result × Partition :=
  updateCenter { p with top := p.center + add }

end Partition

/-! ## The search state -/

/-- The boundary searched for, `TopMostBoundaryTraits` or `BottomMostBoundaryTraits`. -/
inductive Boundary
  | topMost
  | bottomMost
  deriving DecidableEq, Repr

/-- `is_utf8_character_greater`. -/
def Boundary.isUtf8CharacterGreater : Boundary → Nat → Nat → Bool
  | .topMost, key, ch => decide (key ≤ ch)
  | .bottomMost, key, ch => decide (key < ch)

/-- `BSearchState`.  `iterations` is the value of `depth_` plus one, which starts with zero, and
`bottomCandidate` is nothing where `bottom_candidate_` is `UINT_MAX`. -/
structure BSearchState where
  upper : Partition
  lower : Partition
  allTop : Nat
  allBottom : Nat
  bottomCandidate : Option Nat
  utf8Key : Nat
  iterations : Nat
  deriving DecidableEq, Repr

/-- Why `bsearch_boundary` does not return: `Search::UnsortedException`, or the access to a
character that does not exist. -/
inductive Failure
  | unsorted
  | noCharacter
  deriving DecidableEq, Repr

namespace BSearchState

/-- The constructor. -/
def init (elements : Nat) : BSearchState :=
  { upper := ⟨0, 0, 0⟩, lower := ⟨0, 0, 0⟩, allTop := 0, allBottom := elements - 1,
    bottomCandidate := none, utf8Key := 0, iterations := 0 }

/-- `depth_`. -/
def depth (s : BSearchState) : Nat := s.iterations - 1

/-- `prepare_next_iteration`. -/
def prepareNextIteration (s : BSearchState) (utf8Char : Nat) : BSearchState :=
  let p : Partition := ⟨s.allTop, s.allBottom, 0⟩
  let p := { p with center := p.computeCenter }
  { s with
    upper := p, lower := p, bottomCandidate := none, utf8Key := utf8Char
    iterations := s.iterations + 1 }

/-- `prepare_for_next_character`. -/
def prepareForNextCharacter (s : BSearchState) : BSearchState :=
  { s with allTop := s.upper.top, allBottom := s.lower.bottom }

/-- The partition that is searched. -/
def partition (s : BSearchState) : Boundary → Partition
  | .topMost => s.upper
  | .bottomMost => s.lower

def setPartition (s : BSearchState) (p : Partition) : Boundary → BSearchState
  | .topMost => { s with upper := p }
  | .bottomMost => { s with lower := p }

/-- The branch of `bsearch_boundary` for a partition of two elements. -/
def linearSearch (s : BSearchState) (b : Boundary) (ch : Nat) :
    Except Failure (Result × BSearchState) :=
  let p := s.partition b
  if s.utf8Key = ch then
    if b = .topMost ∨ p.bottom ≤ p.center then .ok (.foundMatch, s.setPartition p.lockAtCenter b)
    else
      .ok (.searching, { s.setPartition p.stepCenterDown b with bottomCandidate := some p.center })
  else if ch < s.utf8Key then
    if p.center < p.bottom then .ok (.searching, s.setPartition p.stepCenterDown b)
    else .ok (.checkingBoundary, s.setPartition p.lockAtCenter b)
  else
    match b with
    | .topMost => .ok (.foundApproximate, s.setPartition p.lockAtCenter b)
    | .bottomMost =>
        match s.bottomCandidate with
        | some candidate =>
            .ok (.foundMatch, s.setPartition { p with center := candidate }.lockAtCenter b)
        | none => .error .unsorted

/-- What the search for the top-most boundary learns about the other one. -/
def narrowLower (s : BSearchState) (ch : Nat) : BSearchState :=
  if Boundary.topMost.isUtf8CharacterGreater ch s.utf8Key then
    if s.lower.top < s.upper.center then { s with lower := (s.lower.pickBottomHalf 0).2 } else s
  else if s.upper.center < s.lower.bottom then { s with lower := (s.lower.pickTopHalf 0).2 }
  else s

/-- The end of `bsearch_boundary`: one half of the partition is picked. -/
def pickHalf (s : BSearchState) (b : Boundary) (ch : Nat) : Result × BSearchState :=
  let p := s.partition b
  if b.isUtf8CharacterGreater s.utf8Key ch then
    let picked := p.pickTopHalf 0
    (picked.1, s.setPartition picked.2 b)
  else
    let s :=
      if b = .topMost ∧ s.utf8Key < ch then { s with lower := { s.lower with top := p.center } }
      else s
    let picked := p.pickBottomHalf 0
    (picked.1, s.setPartition picked.2 b)

/-- `bsearch_boundary`. -/
def bsearchBoundary (s : BSearchState) (b : Boundary) (centerString : ComparedString) :
    Except Failure (Result × BSearchState) :=
  let p := s.partition b
  if centerString.length < s.depth then
    let picked := p.pickTopHalf 0
    .ok (picked.1, s.setPartition picked.2 b)
  else
    match centerString.getCharAt s.depth with
    | none => .error .noCharacter
    | some ch =>
        if p.isUnique then
          .ok (if s.utf8Key = ch then .foundMatch else .foundApproximate, s)
        else if p.size = 2 then s.linearSearch b ch
        else .ok ((if b = .topMost then s.narrowLower ch else s).pickHalf b ch)

/-- `get_result`; nothing stands for -1. -/
def getResult (s : BSearchState) : Option Nat :=
  if s.upper.isEmpty then none else some s.upper.top

end BSearchState

/-! ## The search -/

/-- Where the search is: in one of its two loops, with the characters of the needle that are
left. -/
structure Config where
  state : BSearchState
  boundary : Boundary
  rest : List Nat
  deriving DecidableEq, Repr

/-- How the search ends: with the value it returns, with an exception, or not as a C++ program
should. -/
inductive Outcome
  | returned (index : Option Nat)
  | unsorted
  | undefined
  deriving DecidableEq, Repr

/-- The list, as far as the search looks at it: the texts of its items, if they can be had. -/
structure SearchedList where
  foldChar : Nat → List Nat
  numberOfItems : Nat
  text : Nat → Option (List Nat)

namespace SearchedList

variable (list : SearchedList)

/-- `get_casefolded_string`. -/
def getCasefoldedString (position : Nat) : Option ComparedString :=
  (list.text position).map (ComparedString.set list.foldChar)

/-- What follows in `binary_search_utf8` when a loop has ended with a match. -/
def afterMatch (s : BSearchState) (b : Boundary) : List Nat → Config ⊕ Outcome
  | [] => .inr (.returned s.getResult)
  | utf8Char :: rest =>
      match b with
      | .topMost => .inl ⟨s, .bottomMost, utf8Char :: rest⟩
      | .bottomMost =>
          .inl ⟨s.prepareForNextCharacter.prepareNextIteration utf8Char, .topMost, rest⟩

/-- One turn of `bsearch_top_most` or `bsearch_bottom_most`, and what follows it. -/
def step (c : Config) : Config ⊕ Outcome :=
  match list.getCasefoldedString (c.state.partition c.boundary).center with
  | none => .inr (.returned none)
  | some centerString =>
      match c.state.bsearchBoundary c.boundary centerString with
      | .error .unsorted => .inr .unsorted
      | .error .noCharacter => .inr .undefined
      | .ok (.searching, s) | .ok (.checkingBoundary, s) => .inl { c with state := s }
      | .ok (.internalFailure, _) => .inr (.returned none)
      | .ok (.foundMatch, s) => afterMatch s c.boundary c.rest
      | .ok (.foundApproximate, s) =>
          match c.boundary with
          | .topMost => .inr (.returned s.getResult)
          | .bottomMost => .inr (.returned none)

/-- The loops. -/
def run : Nat → Config → Option Outcome
  | 0, _ => none
  | fuel + 1, c =>
      match list.step c with
      | .inl c => run fuel c
      | .inr outcome => some outcome

/-- The start of the first loop, if there is anything to be searched. -/
def start (query : List Nat) : Option Config :=
  if query.isEmpty then none
  else if list.numberOfItems = 0 then none
  else
    match needle list.foldChar query with
    | [] => none
    | utf8Char :: rest =>
        some ⟨(BSearchState.init list.numberOfItems).prepareNextIteration utf8Char, .topMost, rest⟩

/-- `binary_search_utf8`. -/
def binarySearchUtf8 (query : List Nat) (fuel : Nat) : Option Outcome :=
  match list.start query with
  | none => some (.returned none)
  | some c => list.run fuel c

end SearchedList

end Drcpd.Search

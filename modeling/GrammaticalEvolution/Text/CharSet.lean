/-!
# Sets of characters

A set is a list of ranges of code points, in increasing order and with gaps
between them.  All operations keep that form, so a set is empty exactly when
its list is.
-/

namespace GrammaticalEvolution.Text

/-- First and last code points of ranges. -/
structure CharSet where
  ranges : List (Nat × Nat)
deriving DecidableEq, Repr

namespace CharSet

def lastCode : Nat := 0x10ffff

def empty : CharSet :=
  ⟨[]⟩

/-- Add a range, joining all those that it touches. -/
def addTo (first last : Nat) : List (Nat × Nat) → List (Nat × Nat)
  | [] => [(first, last)]
  | range :: rest =>
      if last + 1 < range.1 then (first, last) :: range :: rest
      else if range.2 + 1 < first then range :: addTo first last rest
      else addTo (min first range.1) (max last range.2) rest

def add (set : CharSet) (first last : Nat) : CharSet :=
  ⟨addTo first last set.ranges⟩

def single (char : Char) : CharSet :=
  ⟨[(char.toNat, char.toNat)]⟩

def contains (set : CharSet) (char : Char) : Bool :=
  set.ranges.any fun range =>
    range.1 ≤ char.toNat && char.toNat ≤ range.2

def union (left right : CharSet) : CharSet :=
  right.ranges.foldl (fun set range => set.add range.1 range.2) left

/-- The gaps between ranges, from a code point on. -/
def gapsFrom : (start : Nat) → List (Nat × Nat) → List (Nat × Nat)
  | start, [] => if start ≤ lastCode then [(start, lastCode)] else []
  | start, range :: rest =>
      if start < range.1 then
        (start, range.1 - 1) :: gapsFrom (range.2 + 1) rest
      else gapsFrom (range.2 + 1) rest

def complement (set : CharSet) : CharSet :=
  ⟨gapsFrom 0 set.ranges⟩

def intersection (left right : CharSet) : CharSet :=
  (left.complement.union right.complement).complement

def difference (left right : CharSet) : CharSet :=
  left.intersection right.complement

def symmetricDifference (left right : CharSet) : CharSet :=
  (left.union right).difference (left.intersection right)

/-- Whether all members are of the first 128 characters. -/
def isAscii (set : CharSet) : Bool :=
  set.ranges.all fun range => range.2 ≤ 0x7f

/-- Every letter from `a` to `z` joins the set in both cases if it is a member
in one. -/
def bothCases (set : CharSet) : CharSet :=
  (List.range 26).foldl (fun larger offset =>
    let small := Char.ofNat (97 + offset)
    let large := Char.ofNat (65 + offset)
    if set.contains small || set.contains large then
      (larger.union (single small)).union (single large)
    else larger) set

end CharSet

end GrammaticalEvolution.Text

/-!
# Random draws

A source yields 32-bit and 64-bit words.  All other draws are made from those:
words that would favour some results are rejected and drawn again.  Draws are
computations on the state of the source, so equal states give equal draws.
-/

namespace GrammaticalEvolution

/-- A state that random words are taken from. -/
class WordSource (ρ : Type) where
  word32 : ρ → UInt32 × ρ
  word64 : ρ → UInt64 × ρ

instance {ρ τ : Type} [WordSource ρ] [WordSource τ] : WordSource (ρ ⊕ τ) where
  word32
    | .inl source =>
        let (word, rest) := WordSource.word32 source
        (word, .inl rest)
    | .inr source =>
        let (word, rest) := WordSource.word32 source
        (word, .inr rest)
  word64
    | .inl source =>
        let (word, rest) := WordSource.word64 source
        (word, .inl rest)
    | .inr source =>
        let (word, rest) := WordSource.word64 source
        (word, .inr rest)

namespace Random

variable {ρ : Type}

/-- Words drawn at most before the last one is taken as it is. -/
def patience : Nat := 65536

/-- Draw until a word is accepted, at most so many times again. -/
def drawAccepted {ω : Type} (draw : StateM ρ ω) (accepted : ω → Bool) :
    (retries : Nat) → StateM ρ ω
  | 0 => draw
  | retries + 1 => do
      let word ← draw
      if accepted word then return word
      else drawAccepted draw accepted retries

variable [WordSource ρ]

def word32 : StateM ρ UInt32 := fun source => WordSource.word32 source

def word64 : StateM ρ UInt64 := fun source => WordSource.word64 source

def maxGene : UInt32 := 255

/-- A number from zero to `maxGene`: the upper eight bits of a word whose next
bit is not set. -/
def drawGene : StateM ρ UInt32 := do
  let word ← drawAccepted word32 (fun word => word &&& 0x800000 == 0) patience
  return word >>> 24

/-- A power of two that brings a positive 64-bit number to its full width. -/
def widening (bound : Nat) : Nat :=
  Nat.pow 2 (63 - bound.log2)

/-- A number below a positive bound: the upper half of the product of a word
and the bound, unless the lower half lies beyond the last full repetition. -/
def drawIndex (bound : Nat) : StateM ρ Nat :=
  if bound = 0 then return 0
  else do
    let word ← drawAccepted word64
      (fun word => word.toNat * bound % UInt64.size < bound * widening bound)
      patience
    return word.toNat * bound / UInt64.size

/-- A number from zero, inclusive, to one, exclusive. -/
def drawUnit : StateM ρ Float := do
  let word ← word64
  return (word >>> 11).toFloat * 1.1102230246251565e-16

def drawCoin : StateM ρ Bool := do
  let word ← word64
  return word < 0x8000000000000000

end Random

end GrammaticalEvolution

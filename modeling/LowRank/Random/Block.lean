import LowRank.Block.Basic
import LowRank.Random.Sampling

/-!
# Random blocks

The cells of a random block are drawn one after another, row by row, from one generator.  A cell may
be left at zero, by a draw of its own, and otherwise gets a draw from a range or a constant.  The
generator and its draws are a parameter, a sampler; running programs use the standard one.
-/

namespace LowRank.Random

/-- How the cells of a random block are chosen. -/
structure Spec where
  /-- The least cell, and the only one when it is not below `max`. -/
  min : Float := 0.0
  /-- The end of the range of cells. -/
  max : Float := 1.0
  /-- The part of cells that are drawn; the others are zero. -/
  density : Float := 1.0
  seed : UInt64 := 0

/--
A source of cells: how to decide, from the state of a generator, whether a cell is drawn at all, and
how to draw it.
-/
structure Source (σ α : Type) where
  /-- Whether the next cell is drawn. -/
  keep : σ → Bool × σ
  draw : σ → α × σ

/-- The next cell from a source, the given one where no cell is drawn. -/
def Source.next {σ α : Type} (source : Source σ α) (absent : α) (state : σ) : α × σ :=
  match source.keep state with
  | (true, state) => source.draw state
  | (false, state) => (absent, state)

/-- Some cells, followed by a number of cells from a source, in order. -/
def Source.extend {σ α : Type} (source : Source σ α) (absent : α) :
    Nat → σ → Array α → Array α
  | 0, _, cells => cells
  | count + 1, state, cells =>
      let (cell, state) := source.next absent state
      source.extend absent count state (cells.push cell)

namespace Spec

/-- The part of drawn cells, moved into the unit interval. -/
def clampedDensity (spec : Spec) : Float :=
  if spec.density < 0.0 then 0.0
  else if 1.0 < spec.density then 1.0
  else spec.density

/-- Whether cells are drawn from a range, and not all the same. -/
def drawsFromRange (spec : Spec) : Bool :=
  spec.min < spec.max

end Spec

/-- The block of the given shape with cells from a source. -/
def blockFrom {σ α : Type} (source : Source σ α) (absent : α) (state : σ) (rows cols : Nat) :
    Block α :=
  { rows, cols, cells := source.extend absent (Word.wrap (rows * cols)) state #[] }

/-- How a generator is seeded, and what is drawn from its states. -/
structure Sampler (σ : Type) where
  start : UInt64 → σ
  unit : σ → Float × σ
  /-- Draws from the range between two numbers, if there can be any. -/
  between? : Float → Float → Option (σ → Float × σ)

namespace Sampler

variable {σ : Type} (sampler : Sampler σ) (spec : Spec)

/-- Decides whether a cell is drawn; with full density no draw is needed for that. -/
def keep (density : Float) (state : σ) : Bool × σ :=
  if density < 1.0 then
    let (drawn, state) := sampler.unit state
    (!(density ≤ drawn), state)
  else (true, state)

/-- How a spec draws its cells, if its range can be drawn from. -/
def draw? : Option (σ → Float × σ) :=
  if spec.drawsFromRange then sampler.between? spec.min spec.max
  else some fun state => (spec.min, state)

/-- The block that a spec describes, if its range can be drawn from. -/
def block? (rows cols : Nat) : Option (Block Float) :=
  (sampler.draw? spec).map fun draw =>
    blockFrom ⟨sampler.keep spec.clampedDensity, draw⟩ 0.0 (sampler.start spec.seed) rows cols

/-- The sampler of running programs. -/
def standard : Sampler Generator where
  start := Generator.ofSeed
  unit := Generator.unit
  between? low high :=
    if Range.isFinite low high then some (Range.between low high).draw else none

end Sampler

/-- The block that a spec describes in running programs, if its range can be drawn from. -/
def block? : Spec → Nat → Nat → Option (Block Float) :=
  Sampler.standard.block?

end LowRank.Random

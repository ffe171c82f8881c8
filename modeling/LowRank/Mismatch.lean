/-!
# Shapes that do not fit

The reasons why matrices cannot be combined, and the sentence that reports each of them.
-/

namespace LowRank

/-- Why the shapes of some matrices do not fit together. -/
inductive Mismatch where
  /-- The left factor must have as many rows as the weighted matrix. -/
  | leftRows (rows expected : Nat)
  /-- The right factor must have as many rows as the weighted matrix has columns. -/
  | rightRows (rows expected : Nat)
  /-- Both factors must have the same number of columns. -/
  | ranks (left right : Nat)
  /-- A fourth input must have the shape of the weighted matrix. -/
  | fourthShape (rows cols expectedRows expectedCols : Nat)
  /-- The named sub-type of the squared loss needs a weight matrix. -/
  | missingWeights (subtype : String)
  /-- The named sub-type of the weighted product needs a fourth input. -/
  | missingFourth (subtype : String)
  /-- All rows of a matrix must have the length of the first one. -/
  | raggedRow (index cols expected : Nat)
  /-- A reason that a kernel describes in its own words. -/
  | described (detail : String)
  deriving Repr, DecidableEq

def Mismatch.message : Mismatch → String
  | .leftRows rows expected =>
      s!"U has {rows} rows but the weighted matrix has {expected}"
  | .rightRows rows expected =>
      s!"V has {rows} rows but the weighted matrix has {expected} columns"
  | .ranks left right => s!"U and V ranks differ: {left} vs {right}"
  | .fourthShape rows cols expectedRows expectedCols =>
      s!"Fourth input is {rows}x{cols}, expected {expectedRows}x{expectedCols}"
  | .missingWeights subtype => s!"wsloss {subtype} requires a weight matrix"
  | .missingFourth subtype => s!"wdivmm {subtype} requires a fourth input"
  | .raggedRow index cols expected =>
      s!"Row {index} has {cols} columns, expected {expected}"
  | .described detail => detail

end LowRank

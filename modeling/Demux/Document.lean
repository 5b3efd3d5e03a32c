namespace Demux

/-- A number that is not written as an integer is known to be one, but its value is not kept. -/
inductive Document where
  | null
  | flag (value : Bool)
  | integer (value : Int)
  | fraction
  | text (value : String)
  | list (items : List Document)
  | record (fields : List (String × Document))
  deriving Inhabited

namespace Document

def natural? (bound : Nat) : Document → Option Nat
  | integer (.ofNat n) => if n ≤ bound then some n else none
  | _ => none

theorem natural?_eq_some {bound n : Nat} {d : Document} :
    d.natural? bound = some n ↔ d = integer (Int.ofNat n) ∧ n ≤ bound := by
  unfold natural?
  split
  · simp
    grind
  · simp_all

end Document

end Demux

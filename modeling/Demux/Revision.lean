namespace Demux

inductive Revision where
  | two
  | three
  deriving DecidableEq, Inhabited

namespace Revision

def oldest : Nat := 2

def newest : Nat := 3

def ofNumber? : Nat → Option Revision
  | 2 => some two
  | 3 => some three
  | _ => none

def number : Revision → Nat
  | two => 2
  | three => 3

/-- Revision 3 sets its start fields apart by a colon, and gives the host one of its own. -/
def hasColonNames : Revision → Bool
  | two => false
  | three => true

instance : ToString Revision := ⟨fun v => toString v.number⟩

end Revision

end Demux

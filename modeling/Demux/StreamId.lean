namespace Demux

structure StreamId where
  number : Nat
  number_lt : number < 0x80000000 := by decide
  deriving DecidableEq

namespace StreamId

/-- The low 31 bits name the stream; the bit above them is reserved and dropped. -/
def ofNat (n : Nat) : StreamId :=
  ⟨n % 0x80000000, Nat.mod_lt _ (by decide)⟩

/-- The number that no stream has, for pushes that name no stream they belong to. -/
def zero : StreamId := ⟨0, by decide⟩

instance : Inhabited StreamId := ⟨zero⟩

def isZero (id : StreamId) : Bool :=
  id.number == 0

def isServer (id : StreamId) : Bool :=
  id.number % 2 == 0

def isClient (id : StreamId) : Bool :=
  !id.isServer

instance : ToString StreamId := ⟨fun id => toString id.number⟩

instance : Hashable StreamId := ⟨fun id => hash id.number⟩

instance : Ord StreamId := ⟨fun a b => compare a.number b.number⟩

instance : LE StreamId := ⟨fun a b => a.number ≤ b.number⟩

instance : LT StreamId := ⟨fun a b => a.number < b.number⟩

instance (a b : StreamId) : Decidable (a ≤ b) :=
  inferInstanceAs (Decidable (a.number ≤ b.number))

instance (a b : StreamId) : Decidable (a < b) :=
  inferInstanceAs (Decidable (a.number < b.number))

@[ext] theorem ext {a b : StreamId} (h : a.number = b.number) : a = b := by
  cases a; cases b; cases h; rfl

theorem le_iff {a b : StreamId} : a ≤ b ↔ a.number ≤ b.number := Iff.rfl

theorem lt_iff {a b : StreamId} : a < b ↔ a.number < b.number := Iff.rfl

theorem compare_def (a b : StreamId) : compare a b = compare a.number b.number := rfl

instance : Std.TransOrd StreamId where
  eq_swap {a b} := by
    rw [compare_def, compare_def]
    exact Std.OrientedCmp.eq_swap
  isLE_trans {a b c} := by
    rw [compare_def, compare_def, compare_def]
    exact Std.TransCmp.isLE_trans

instance : Std.LawfulEqOrd StreamId where
  compare_self {a} := by
    rw [compare_def]
    exact Std.ReflCmp.compare_self
  eq_of_compare {a b} h := by
    rw [compare_def] at h
    exact ext (Std.LawfulEqCmp.eq_of_compare h)

@[simp] theorem ofNat_number (id : StreamId) : ofNat id.number = id :=
  ext (Nat.mod_eq_of_lt id.number_lt)

end StreamId

end Demux

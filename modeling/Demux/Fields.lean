import Demux.Text.Fold

namespace Demux

open Text (sameName sameName_self sameName_comm sameName_trans)

structure Fields where
  pairs : List (String × String)
  deriving DecidableEq, Inhabited

namespace Fields

instance : EmptyCollection Fields := ⟨⟨[]⟩⟩

instance : Append Fields := ⟨fun f g => ⟨f.pairs ++ g.pairs⟩⟩

def names (f : Fields) : List String :=
  f.pairs.map Prod.fst

def values (f : Fields) : List String :=
  f.pairs.map Prod.snd

def size (f : Fields) : Nat :=
  f.pairs.length

def isEmpty (f : Fields) : Bool :=
  f.pairs.isEmpty

def getAll (f : Fields) (name : String) : List String :=
  (f.pairs.filter fun p => sameName p.1 name).map Prod.snd

/-- The first value under a name. -/
def get? (f : Fields) (name : String) : Option String :=
  (f.pairs.find? fun p => sameName p.1 name).map Prod.snd

def contains (f : Fields) (name : String) : Bool :=
  f.pairs.any fun p => sameName p.1 name

def insert (f : Fields) (name value : String) : Fields :=
  ⟨f.pairs ++ [(name, value)]⟩

def erase (f : Fields) (name : String) : Fields :=
  ⟨f.pairs.filter fun p => !sameName p.1 name⟩

/-- Leaves one value under the name, at the end. -/
def set (f : Fields) (name value : String) : Fields :=
  (f.erase name).insert name value

/-- Erases a name, and tells whether that took anything away. -/
def remove (f : Fields) (name : String) : Fields × Bool :=
  let left := f.erase name
  (left, f.size != left.size)

def render (f : Fields) : String :=
  String.join (f.pairs.map fun p => p.1 ++ ": " ++ p.2 ++ "\n")

@[ext] theorem ext {f g : Fields} (h : f.pairs = g.pairs) : f = g := by
  cases f; cases g; cases h; rfl

@[simp] theorem pairs_empty : (∅ : Fields).pairs = [] := rfl

@[simp] theorem pairs_append (f g : Fields) : (f ++ g).pairs = f.pairs ++ g.pairs := rfl

@[simp] theorem append_empty (f : Fields) : f ++ ∅ = f := by
  apply ext
  simp

@[simp] theorem empty_append (f : Fields) : ∅ ++ f = f := rfl

theorem append_assoc (f g h : Fields) : f ++ g ++ h = f ++ (g ++ h) := by
  apply ext
  simp

@[simp] theorem pairs_insert (f : Fields) (name value : String) :
    (f.insert name value).pairs = f.pairs ++ [(name, value)] := rfl

@[simp] theorem pairs_erase (f : Fields) (name : String) :
    (f.erase name).pairs = f.pairs.filter fun p => !sameName p.1 name := rfl

@[simp] theorem getAll_empty (n : String) : (∅ : Fields).getAll n = [] := rfl

@[simp] theorem getAll_append (f g : Fields) (n : String) :
    (f ++ g).getAll n = f.getAll n ++ g.getAll n := by
  simp [getAll]

theorem getAll_insert (f : Fields) (name value n : String) :
    (f.insert name value).getAll n =
      f.getAll n ++ if sameName name n then [value] else [] := by
  by_cases h : sameName name n <;> simp [getAll, h]

theorem getAll_erase (f : Fields) (name n : String) :
    (f.erase name).getAll n = if sameName name n then [] else f.getAll n := by
  by_cases h : sameName name n
  · simp only [getAll, pairs_erase, h, if_true, List.map_eq_nil_iff, List.filter_eq_nil_iff,
      List.mem_filter]
    rintro p ⟨-, hp⟩ hn
    simp [sameName_trans hn (sameName_comm n name ▸ h)] at hp
  · simp only [getAll, pairs_erase, h, List.filter_filter]
    congr 1
    refine List.filter_congr fun p _ => ?_
    cases hp : sameName p.1 n with
    | false => rfl
    | true =>
      have : sameName p.1 name = false := by
        rw [Bool.eq_false_iff]
        exact fun hpn => h (sameName_trans (sameName_comm name p.1 ▸ hpn) hp)
      simp [this]

theorem getAll_set (f : Fields) (name value n : String) :
    (f.set name value).getAll n = if sameName name n then [value] else f.getAll n := by
  rw [set, getAll_insert, getAll_erase]
  by_cases h : sameName name n <;> simp [h]

theorem get?_eq_head? (f : Fields) (n : String) : f.get? n = (f.getAll n).head? := by
  rw [get?, getAll, List.head?_map, List.head?_filter]

theorem get?_set (f : Fields) (name value : String) :
    (f.set name value).get? name = some value := by
  rw [get?_eq_head?, getAll_set, sameName_self, if_pos rfl]
  rfl

theorem contains_iff (f : Fields) (n : String) : f.contains n = true ↔ f.getAll n ≠ [] := by
  simp [contains, getAll, List.filter_eq_nil_iff]

theorem remove_eq (f : Fields) (name : String) :
    f.remove name = (f.erase name, f.contains name) := by
  have hsize : (f.size != (f.erase name).size) = f.contains name := by
    rw [Bool.eq_iff_iff, bne_iff_ne, size, size, pairs_erase, ne_comm, Ne,
      List.length_filter_eq_length_iff, contains, List.any_eq_true]
    simp
  rw [remove, hsize]

end Fields

end Demux

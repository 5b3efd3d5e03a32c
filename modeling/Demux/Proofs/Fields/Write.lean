import Demux.Proofs.Fields

namespace Demux.Fields

open Text (sameName sameName_trans)

/-- What takes the place of all the pairs under a name: a single value, or none. -/
structure Write where
  name : String
  value? : Option String

/-- The values that a write leaves under `n`, if that is the name it writes to. -/
def Write.valuesUnder? (n : String) (w : Write) : Option (List String) :=
  if sameName w.name n then some w.value?.toList else none

/-- Names that match only where they are the same. -/
def areApart (names : List String) : Bool :=
  names.all fun n => names.all fun m => sameName n m == (n == m)

theorem Write.valuesUnder?_of_areApart {names : List String} (h : areApart names = true)
    {w : Write} {n : String} (hw : w.name ∈ names) (hn : n ∈ names) :
    w.valuesUnder? n = if w.name = n then some w.value?.toList else none := by
  have hsame : sameName w.name n = (w.name == n) :=
    eq_of_beq (List.all_eq_true.1 (List.all_eq_true.1 h _ hw) _ hn)
  rw [valuesUnder?, hsame]
  simp only [beq_iff_eq]

def write (f : Fields) (w : Write) : Fields :=
  match w.value? with
  | some value => f.set w.name value
  | none => f.erase w.name

def writeAll (f : Fields) (ws : List Write) : Fields :=
  ws.foldl write f

variable (f : Fields) (w : Write) (ws : List Write) (names : List String)

theorem write_eq_without_append :
    f.write w = f.without [w.name] ++ ⟨w.value?.toList.map fun value => (w.name, value)⟩ := by
  rw [← erase_eq_without, write]
  cases w.value? with
  | some value => rfl
  | none => exact (append_empty _).symm

theorem getAll_write (n : String) :
    (f.write w).getAll n = (w.valuesUnder? n).getD (f.getAll n) := by
  rw [write, Write.valuesUnder?]
  cases w.value? with
  | some value =>
    rw [getAll_set]
    cases sameName w.name n <;> rfl
  | none =>
    rw [getAll_erase]
    cases sameName w.name n <;> rfl

theorem writeAll_cons : f.writeAll (w :: ws) = (f.write w).writeAll ws := rfl

theorem getAll_writeAll (n : String) :
    (f.writeAll ws).getAll n =
      (ws.filterMap (Write.valuesUnder? n)).getLast?.getD (f.getAll n) := by
  induction ws generalizing f with
  | nil => rfl
  | cons w ws ih =>
    rw [writeAll_cons, ih, getAll_write]
    cases hw : w.valuesUnder? n with
    | none => rw [List.filterMap_cons_none hw, Option.getD_none]
    | some values =>
      rw [List.filterMap_cons_some hw, List.getLast?_cons, Option.getD_some, Option.getD_some]

/-- The last call that writes under `n`, told by `arg?`, says which values are there. -/
theorem getAll_writeAll_map {σ α : Type} {call : σ → Write} {n : String} {arg? : σ → Option α}
    {values : α → List String} (h : ∀ s, (call s).valuesUnder? n = (arg? s).map values)
    (ss : List σ) :
    (f.writeAll (ss.map call)).getAll n =
      ((ss.filterMap arg?).getLast?.map values).getD (f.getAll n) := by
  have hvalues :
      (ss.map call).filterMap (Write.valuesUnder? n) = (ss.filterMap arg?).map values := by
    rw [List.filterMap_map, List.map_filterMap]
    exact congrArg (List.filterMap · ss) (funext h)
  rw [getAll_writeAll, hvalues, List.getLast?_map]

variable {w ws names}

theorem exists_getAll_writeAll (hw : w ∈ ws) :
    ∃ v ∈ ws, (f.writeAll ws).getAll w.name = v.value?.toList := by
  have hvalues : w.value?.toList ∈ ws.filterMap (Write.valuesUnder? w.name) :=
    List.mem_filterMap.2 ⟨w, hw, if_pos (Text.sameName_self _)⟩
  cases hlast : (ws.filterMap (Write.valuesUnder? w.name)).getLast? with
  | none =>
    rw [List.getLast?_eq_none_iff.1 hlast] at hvalues
    cases hvalues
  | some values =>
    obtain ⟨v, hv, hleft⟩ := List.mem_filterMap.1 (List.mem_of_getLast? hlast)
    rw [Write.valuesUnder?] at hleft
    split at hleft
    · refine ⟨v, hv, ?_⟩
      rw [getAll_writeAll, hlast, Option.getD_some]
      exact (Option.some.inj hleft).symm
    · cases hleft

variable {f}

theorem without_cons_of_any {name : String} (h : names.any (sameName name ·) = true) :
    f.without (name :: names) = f.without names := by
  apply ext
  refine List.filter_congr fun p _ => ?_
  rw [List.any_cons]
  cases hp : sameName p.1 name with
  | false => rfl
  | true =>
    obtain ⟨n, hn, hname⟩ := List.any_eq_true.1 h
    rw [List.any_eq_true.2 ⟨n, hn, sameName_trans hp hname⟩]
    rfl

theorem without_write (h : names.any (sameName w.name ·) = true) :
    (f.write w).without names = f.without names := by
  have hwritten :
      (⟨w.value?.toList.map fun value => (w.name, value)⟩ : Fields).without names = ∅ := by
    apply ext
    rw [without, List.filter_eq_nil_iff.2]
    · rfl
    · intro p hp
      obtain ⟨value, -, rfl⟩ := List.mem_map.1 hp
      rw [h]
      decide
  rw [write_eq_without_append, without_append, without_without, hwritten, append_empty]
  exact without_cons_of_any h

theorem without_writeAll (h : ∀ w ∈ ws, names.any (sameName w.name ·) = true) :
    (f.writeAll ws).without names = f.without names := by
  induction ws generalizing f with
  | nil => rfl
  | cons w ws ih =>
    rw [writeAll_cons, ih fun v hv => h v (List.mem_cons_of_mem w hv),
      without_write (h w List.mem_cons_self)]

theorem without_writeAll_names :
    (f.writeAll ws).without (ws.map Write.name) = f.without (ws.map Write.name) := by
  apply without_writeAll
  intro w hw
  exact List.any_eq_true.2 ⟨w.name, List.mem_map_of_mem hw, Text.sameName_self _⟩

theorem write_writeAll_of_sameName (h : ∀ v ∈ ws, sameName v.name w.name = true) :
    (f.writeAll ws).write w = f.write w := by
  have hnames : ∀ v ∈ ws, [w.name].any (sameName v.name ·) = true := by
    intro v hv
    rw [List.any_cons, h v hv]
    rfl
  rw [write_eq_without_append, without_writeAll hnames, ← write_eq_without_append]

end Demux.Fields

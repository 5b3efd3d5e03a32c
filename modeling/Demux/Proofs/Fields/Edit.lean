import Demux.Proofs.Fields
import Mathlib.Algebra.BigOperators.Group.Finset.Basic

namespace Demux.Fields

open Text (fold sameName)

/-- The values of pairs by the folded names they are under. -/
def group : List (String × String) → List Char → List String
  | [] => fun _ => []
  | (name, value) :: ps =>
    Function.update (group ps) (fold name) (value :: group ps (fold name))

inductive Edit where
  | insert (name value : String)
  | append (more : Fields)
  | set (name value : String)
  | remove (name : String)

namespace Edit

def apply (f : Fields) : Edit → Fields
  | insert name value => f.insert name value
  | append more => f ++ more
  | set name value => f.set name value
  | remove name => (f.remove name).1

/-- What the call comes to for the values by folded name. -/
def onGroups (values : List Char → List String) : Edit → List Char → List String
  | insert name value => Function.update values (fold name) (values (fold name) ++ [value])
  | append more => fun key => values key ++ group more.pairs key
  | set name value => Function.update values (fold name) [value]
  | remove name => Function.update values (fold name) []

/-- The names under which nothing stays. -/
def cleared : Edit → List String
  | insert _ _ => []
  | append _ => []
  | set name _ => [name]
  | remove name => [name]

def added : Edit → Fields
  | insert name value => ⟨[(name, value)]⟩
  | append more => more
  | set name value => ⟨[(name, value)]⟩
  | remove _ => ∅

/-- What edits add and no later one of them takes away. -/
def lasting : List Edit → Fields
  | [] => ∅
  | e :: es => e.added.without (es.flatMap cleared) ++ lasting es

end Edit

def editAll (f : Fields) (es : List Edit) : Fields :=
  es.foldl Edit.apply f

section Group

variable (ps qs : List (String × String)) (key : List Char) (f : Fields) (n : String)

theorem group_eq_map_filter : group ps key = (ps.filter fun p => fold p.1 == key).map Prod.snd := by
  induction ps with
  | nil => rfl
  | cons p ps ih =>
    rw [group, Function.update_apply, List.filter_cons]
    by_cases hkey : key = fold p.1
    · rw [if_pos hkey, if_pos (beq_iff_eq.2 hkey.symm), ← hkey, ih]
      rfl
    · rw [if_neg hkey, if_neg fun h => hkey (beq_iff_eq.1 h).symm, ih]

theorem group_append : group (ps ++ qs) key = group ps key ++ group qs key := by
  rw [group_eq_map_filter, group_eq_map_filter, group_eq_map_filter, List.filter_append,
    List.map_append]

theorem getAll_eq_group : f.getAll n = group f.pairs (fold n) :=
  (group_eq_map_filter f.pairs (fold n)).symm

theorem group_insert (name value : String) :
    group (f.insert name value).pairs =
      Function.update (group f.pairs) (fold name) (group f.pairs (fold name) ++ [value]) := by
  funext key
  rw [pairs_insert, group_append, group, group, Function.update_apply, Function.update_apply]
  split
  · next hkey => rw [hkey]
  · exact List.append_nil _

theorem group_filter (name : String) :
    group (ps.filter fun p => !sameName p.1 name) =
      Function.update (group ps) (fold name) [] := by
  induction ps with
  | nil => exact (Function.update_eq_self (fold name) fun _ => []).symm
  | cons p ps ih =>
    by_cases hp : fold p.1 = fold name
    · have hout : ¬(!sameName p.1 name) = true := by
        rw [Text.sameName_iff.2 hp]
        decide
      rw [List.filter_cons, if_neg hout, ih, group, hp, Function.update_idem]
    · have hin : (!sameName p.1 name) = true := by
        rw [sameName, beq_false_of_ne hp]
        rfl
      rw [List.filter_cons, if_pos hin, group, ih, group, Function.update_of_ne hp,
        Function.update_comm hp]

theorem group_erase (name : String) :
    group (f.erase name).pairs = Function.update (group f.pairs) (fold name) [] :=
  group_filter f.pairs name

theorem group_set (name value : String) :
    group (f.set name value).pairs = Function.update (group f.pairs) (fold name) [value] := by
  rw [set, group_insert, group_erase, Function.update_self, Function.update_idem]
  rfl

theorem length_group : (group ps key).length = (ps.map fun p => fold p.1).count key := by
  rw [group_eq_map_filter, List.length_map, List.count, List.countP_map,
    List.countP_eq_length_filter]
  rfl

def keys : Finset (List Char) :=
  (f.pairs.map fun p => fold p.1).toFinset

theorem mem_keys : key ∈ f.keys ↔ group f.pairs key ≠ [] := by
  rw [keys, List.mem_toFinset, ← List.count_pos_iff, ← length_group, List.length_pos_iff]

theorem size_eq_sum : f.size = ∑ key ∈ f.keys, (group f.pairs key).length :=
  calc f.size
    _ = (f.pairs.map fun p => fold p.1).length := (List.length_map _).symm
    _ = ∑ key ∈ f.keys, (f.pairs.map fun p => fold p.1).count key := by
      rw [keys]
      convert (List.sum_toFinset_count_eq_length _).symm
    _ = ∑ key ∈ f.keys, (group f.pairs key).length := by
      simp only [length_group]

end Group

variable (f : Fields) (e : Edit) (es : List Edit)

theorem group_apply : group (e.apply f).pairs = e.onGroups (group f.pairs) := by
  cases e with
  | insert name value => exact f.group_insert name value
  | append more =>
    funext key
    exact group_append f.pairs more.pairs key
  | set name value => exact f.group_set name value
  | remove name => exact f.group_erase name

theorem editAll_cons : f.editAll (e :: es) = (e.apply f).editAll es := rfl

theorem group_editAll :
    group (f.editAll es).pairs = es.foldl Edit.onGroups (group f.pairs) := by
  induction es generalizing f with
  | nil => rfl
  | cons e es ih =>
    rw [editAll_cons, ih, group_apply]
    rfl

theorem apply_eq_without_append : e.apply f = f.without e.cleared ++ e.added := by
  cases e with
  | insert | append =>
    rw [Edit.cleared, without_nil]
    rfl
  | set name value =>
    rw [Edit.cleared, ← erase_eq_without]
    rfl
  | remove name =>
    rw [Edit.cleared, ← erase_eq_without]
    exact (append_empty _).symm

theorem editAll_eq_without_append :
    f.editAll es = f.without (es.flatMap Edit.cleared) ++ Edit.lasting es := by
  induction es generalizing f with
  | nil => exact ((append_empty _).trans f.without_nil).symm
  | cons e es ih =>
    rw [editAll_cons, ih, apply_eq_without_append, without_append, without_without, append_assoc]
    rfl

/-- Edited fields read as a map from folded names to lists of values that takes the same edits. -/
theorem edits_act_on_groups (f : Fields) (es : List Edit) :
    let g := f.editAll es
    let values := es.foldl Edit.onGroups (group f.pairs)
    (∀ n, g.getAll n = values (fold n) ∧ g.get? n = (values (fold n)).head? ∧
      (g.contains n = true ↔ values (fold n) ≠ []) ∧
      ((g.remove n).2 = true ↔ values (fold n) ≠ [])) ∧
    (∃ keys : Finset (List Char), (∀ key, key ∈ keys ↔ values key ≠ []) ∧
      g.size = ∑ key ∈ keys, (values key).length) ∧
    g = f.without (es.flatMap Edit.cleared) ++ Edit.lasting es ∧
    ∀ name value, g.set name value = g.without [name] ++ ⟨[(name, value)]⟩ := by
  intro g values
  have hvalues : group g.pairs = values := f.group_editAll es
  refine ⟨?_, ⟨g.keys, ?_⟩, f.editAll_eq_without_append es, ?_⟩
  · intro n
    have hget : g.getAll n = values (fold n) := by
      rw [getAll_eq_group, hvalues]
    have hcontains : g.contains n = true ↔ values (fold n) ≠ [] := by
      rw [contains_iff, hget]
    refine ⟨hget, ?_, hcontains, ?_⟩
    · rw [get?_eq_head?, hget]
    · rw [remove_eq]
      exact hcontains
  · rw [← hvalues]
    exact ⟨g.mem_keys, g.size_eq_sum⟩
  · intro name value
    exact g.apply_eq_without_append (.set name value)

example : editAll ⟨[("Accept", "a"), ("X-Trace", "b"), ("accept", "c")]⟩ [.insert "accept" "d",
    .set "ACCEPT" "e", .append ⟨[("x-trace", "f"), ("Accept", "g")]⟩, .remove "X-TRACE"] =
    ⟨[("ACCEPT", "e"), ("Accept", "g")]⟩ := by
  decide +kernel

end Demux.Fields

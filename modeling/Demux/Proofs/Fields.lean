import Demux.Fields

namespace Demux.Fields

open Text (sameName)

/-- The pairs under all other names, word for word and in order. -/
def without (f : Fields) (names : List String) : Fields :=
  ⟨f.pairs.filter fun p => !names.any fun n => sameName p.1 n⟩

variable (f g : Fields) (names more : List String)

@[simp] theorem without_nil : f.without [] = f := by
  apply ext
  simp [without]

theorem erase_eq_without (n : String) : f.erase n = f.without [n] := by
  apply ext
  simp [without]

theorem without_without : (f.without names).without more = f.without (names ++ more) := by
  apply ext
  rw [without, without, List.filter_filter]
  refine List.filter_congr fun p _ => ?_
  rw [List.any_append, Bool.not_or, Bool.and_comm]

theorem without_append : (f ++ g).without names = f.without names ++ g.without names := by
  apply ext
  exact List.filter_append _ _

theorem without_append_comm : f.without (names ++ more) = f.without (more ++ names) := by
  apply ext
  refine List.filter_congr fun p _ => ?_
  rw [List.any_append, List.any_append, Bool.or_comm]

theorem getAll_without (n : String) :
    (f.without names).getAll n =
      if names.any (fun name => sameName name n) then [] else f.getAll n := by
  induction names generalizing f with
  | nil => rw [without_nil]; rfl
  | cons name names ih =>
    have hcons : f.without (name :: names) = (f.erase name).without names := by
      rw [erase_eq_without, without_without]
      rfl
    rw [hcons, ih, getAll_erase, List.any_cons]
    cases names.any fun name => sameName name n with
    | true => simp
    | false => simp

variable {f names}

theorem without_eq_self (h : ∀ p ∈ f.pairs, names.any (fun n => sameName p.1 n) = false) :
    f.without names = f := by
  apply ext
  refine List.filter_eq_self.2 ?_
  intro p hp
  rw [h p hp]
  rfl

end Demux.Fields

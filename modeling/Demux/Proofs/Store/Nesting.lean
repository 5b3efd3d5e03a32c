import Demux.Proofs.Store.Alike

namespace Demux.Store

universe u v

open LawfulStore

theorem find?_eq_of_least {bounds : List Nat} {least n : Nat} (hmem : least ∈ bounds)
    (hleast : ∀ b ∈ bounds, least ≤ b) (hn : n ≤ least) :
    bounds.find? (· ≤ n) = if n = least then some least else none := by
  cases hf : bounds.find? (· ≤ n) with
  | some b =>
    have hle : b ≤ n := by simpa using List.find?_some hf
    have hge := hleast b (List.mem_of_find?_eq_some hf)
    rw [if_pos (by omega), Option.some_inj]
    omega
  | none =>
    have hnot := List.find?_eq_none.1 hf least hmem
    rw [decide_eq_true_iff] at hnot
    rw [if_neg (by omega)]

/-- `Capped capacity t`: the least bound of store `t` is `capacity`, and it is not exceeded. -/
structure Capped {τ : Type u} [Store τ] (capacity : Nat) (t : τ) : Prop where
  mem : capacity ∈ bounds t
  least : ∀ b ∈ bounds t, capacity ≤ b
  size_le : size t ≤ capacity

namespace Capped

variable {τ : Type u} [Store τ] {capacity : Nat} {t : τ}

theorem refusal? (h : Capped capacity t) (id : StreamId) :
    refusal? t id =
      if contains t id = false ∧ size t = capacity then some ⟨id, capacity⟩ else none := by
  rw [Store.refusal?, find?_eq_of_least h.mem h.least h.size_le]
  cases contains t id with
  | true => rfl
  | false => by_cases hfull : size t = capacity <;> simp [hfull]

variable [LawfulStore τ]

theorem put_eq_error (h : Capped capacity t) {id : StreamId} {m : Message} {full : Full} :
    put t id m = .error full ↔
      full = ⟨id, capacity⟩ ∧ get? t id = none ∧ size t = capacity := by
  rw [put_eq_error_iff, h.refusal?, Option.ite_none_right_eq_some, Option.some_inj, contains,
    Option.isSome_eq_false_iff, Option.isNone_iff_eq_none, and_comm, eq_comm]

theorem size_put_le (h : Capped capacity t) {t' : τ} {id : StreamId} {m : Message}
    (hput : put t id m = .ok t') : size t' ≤ capacity := by
  have hsize := size_put hput
  have hle := h.size_le
  cases hnew : contains t id with
  | true =>
    rw [hnew, Bool.toNat_true] at hsize
    omega
  | false =>
    have hroom := put_isOk_iff.1 ⟨t', hput⟩
    rw [h.refusal?, ite_eq_right_iff] at hroom
    have hne : size t ≠ capacity := fun heq => by cases hroom ⟨hnew, heq⟩
    rw [hnew, Bool.toNat_false] at hsize
    omega

theorem perform (h : Capped capacity t) (op : Operation) : Capped capacity (perform t op).1 where
  mem := by
    rw [bounds_perform]
    exact h.mem
  least := by
    rw [bounds_perform]
    exact h.least
  size_le := by
    cases op with
    | put id m =>
      simp only [Store.perform]
      split
      · next hput => exact h.size_put_le hput
      · exact h.size_le
    | modify id f => exact Nat.le_trans (Nat.le_of_eq (size_modify t id f)) h.size_le
    | remove id => exact Nat.le_trans (size_erase_le t id) h.size_le
    | drain => exact Nat.le_trans (Nat.le_of_eq (size_clear t)) (Nat.zero_le capacity)
    | get | size | isEmpty => exact h.size_le

theorem run (h : Capped capacity t) (ops : List Operation) : Capped capacity (run t ops).1 := by
  induction ops generalizing t with
  | nil => exact h
  | cons op ops ih => exact ih (h.perform op)

end Capped

variable {σ : Type u} {τ : Type v} [Store σ] [Store τ] [LawfulStore σ] [LawfulStore τ]

/-- Stores with the same messages and the same least bound are not told apart. -/
theorem SameView.run_of_capped {t : σ} {u : τ} (h : SameView t u) {capacity : Nat}
    (ht : Capped capacity t) (hu : Capped capacity u) (ops : List Operation) :
    (run t ops).2 = (run u ops).2 ∧ SameView (run t ops).1 (run u ops).1 := by
  induction ops generalizing t u with
  | nil => exact ⟨rfl, h⟩
  | cons op ops ih =>
    have hroom (id : StreamId) : refusal? t id = refusal? u id := by
      rw [ht.refusal?, hu.refusal?, h.contains, h.size]
    obtain ⟨hanswer, hafter⟩ := h.perform hroom op
    obtain ⟨hanswers, hend⟩ := ih hafter (ht.perform op) (hu.perform op)
    rw [run_cons, run_cons, hanswer, hanswers]
    exact ⟨rfl, hend⟩

omit [LawfulStore τ] in
theorem Capped.bounded {t : τ} (hempty : isEmpty t = true) (hbounds : bounds t = [])
    (capacity : Nat) : Capped capacity (⟨t, capacity⟩ : Bounded τ) where
  mem := List.mem_cons_self
  least := by
    intro b hb
    rw [Bounded.bounds_def, hbounds, List.mem_singleton] at hb
    exact Nat.le_of_eq hb.symm
  size_le := Nat.le_trans (Nat.le_of_eq (size_of_isEmpty hempty)) (Nat.zero_le capacity)

omit [LawfulStore τ] in
theorem Capped.nested {t : τ} (hempty : isEmpty t = true) (hbounds : bounds t = [])
    (outer inner : Nat) :
    Capped (min outer inner) (⟨⟨t, inner⟩, outer⟩ : Bounded (Bounded τ)) where
  mem := by
    rw [Bounded.bounds_def, Bounded.bounds_def, hbounds, List.mem_cons, List.mem_singleton]
    rcases Nat.le_total outer inner with hle | hle
    · exact .inl (Nat.min_eq_left hle)
    · exact .inr (Nat.min_eq_right hle)
  least := by
    intro b hb
    rw [Bounded.bounds_def, Bounded.bounds_def, hbounds, List.mem_cons, List.mem_singleton] at hb
    rcases hb with rfl | rfl
    · exact Nat.min_le_left _ _
    · exact Nat.min_le_right _ _
  size_le := Nat.le_trans (Nat.le_of_eq (size_of_isEmpty hempty)) (Nat.zero_le _)

/-- A store with a bound inside another is as good as one with the smaller of the two. -/
theorem nested_bounds_collapse {t : σ} {u : τ} (ht : isEmpty t = true) (hu : isEmpty u = true)
    (htb : bounds t = []) (hub : bounds u = []) (outer inner : Nat) (ops : List Operation) :
    let least := min outer inner
    let nested := run (⟨⟨t, inner⟩, outer⟩ : Bounded (Bounded σ)) ops
    let single := run (⟨u, least⟩ : Bounded τ) ops
    nested.2 = single.2 ∧ (∀ id, get? nested.1 id = get? single.1 id) ∧
      size nested.1 = size single.1 ∧ size nested.1 ≤ least ∧
      ∀ id m full,
        (put nested.1 id m = .error full ↔
          full = ⟨id, least⟩ ∧ get? nested.1 id = none ∧ size nested.1 = least) ∧
        (put nested.1 id m = .error full →
          ∀ k, get? (perform nested.1 (.put id m)).1 k = get? nested.1 k) := by
  intro least nested single
  have hview : SameView (⟨⟨t, inner⟩, outer⟩ : Bounded (Bounded σ)) (⟨u, least⟩ : Bounded τ) := by
    intro id
    exact (isEmpty_iff.1 ht id).trans (isEmpty_iff.1 hu id).symm
  have hnested := Capped.nested ht htb outer inner
  have hsingle := Capped.bounded hu hub least
  obtain ⟨hanswers, hend⟩ := hview.run_of_capped hnested hsingle ops
  have hcapped : Capped least nested.1 := hnested.run ops
  refine ⟨hanswers, hend, hend.size, hcapped.size_le, fun id m full => ?_⟩
  refine ⟨hcapped.put_eq_error, fun hput k => ?_⟩
  rw [perform, hput]

theorem nested_bounds_collapse_three_streams :
    let id (n : Nat) := StreamId.ofNat n
    let m : Message := ⟨.reply .ok, .http11, ∅, ⟨#[1]⟩⟩
    let ops : List Operation := [.put (id 5) m, .put (id 3) m, .put (id 1) m,
      .put (id 5) (m.append ⟨#[2]⟩), .remove (id 3), .put (id 1) m, .put (id 3) m, .size, .drain,
      .put (id 3) m]
    isEmpty (∅ : HashStore) = true ∧ isEmpty (∅ : TreeStore) = true ∧
      bounds (∅ : HashStore) = [] ∧ bounds (∅ : TreeStore) = [] ∧
      (run (⟨⟨∅, 2⟩, 3⟩ : Bounded (Bounded HashStore)) ops).2 =
        [.replaced none, .replaced none, .refused ⟨id 1, 2⟩, .replaced (some m), .message (some m),
          .replaced none, .refused ⟨id 3, 2⟩, .size 2, .ids [id 1, id 5], .replaced none] ∧
      size (run (⟨⟨∅, 2⟩, 3⟩ : Bounded (Bounded HashStore)) ops).1 ≤ min 3 2 := by
  intro id m ops
  have ht : isEmpty (∅ : HashStore) = true := by decide +kernel
  have hu : isEmpty (∅ : TreeStore) = true := by decide +kernel
  have htb : bounds (∅ : HashStore) = [] := rfl
  have hub : bounds (∅ : TreeStore) = [] := rfl
  obtain ⟨hanswers, -, -, hsize, -⟩ := nested_bounds_collapse ht hu htb hub 3 2 ops
  refine ⟨ht, hu, htb, hub, hanswers.trans ?_, hsize⟩
  decide +kernel

end Demux.Store

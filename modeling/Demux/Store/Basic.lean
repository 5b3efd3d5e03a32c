import Demux.Message.Basic
import Demux.StreamId

namespace Demux

universe u

/-- The refusal of a message whose stream is new to a store that has no room for it. -/
structure Full where
  id : StreamId
  capacity : Nat
  deriving DecidableEq

def Full.message (f : Full) : String :=
  "stream table full: " ++ toString f.capacity ++ " streams pending"

class Store (τ : Type u) where
  get? : τ → StreamId → Option Message
  /-- Puts a message in the place of the one before it, or adds it if there is room. -/
  put : τ → StreamId → Message → Except Full τ
  modify : τ → StreamId → (Message → Message) → τ
  erase : τ → StreamId → τ
  size : τ → Nat
  /-- The streams with a message, in ascending order. -/
  ids : τ → List StreamId
  clear : τ → τ
  /-- The most messages that the store and those inside it take, outermost first. -/
  bounds : τ → List Nat

namespace Store

variable {τ : Type u} [Store τ]

def contains (t : τ) (id : StreamId) : Bool :=
  (get? t id).isSome

def isEmpty (t : τ) : Bool :=
  size t == 0

end Store

open Store in
class LawfulStore (τ : Type u) [Store τ] : Prop where
  /-- Only a new stream is refused, and the outermost bound that is met gives the reason. -/
  put_eq_error {t : τ} {id : StreamId} {m : Message} {full : Full} :
    put t id m = .error full ↔
      get? t id = none ∧ full.id = id ∧ (bounds t).find? (· ≤ size t) = some full.capacity
  get?_put {t t' : τ} {id : StreamId} {m : Message} (h : put t id m = .ok t') (k : StreamId) :
    get? t' k = if k = id then some m else get? t k
  bounds_put {t t' : τ} {id : StreamId} {m : Message} (h : put t id m = .ok t') :
    bounds t' = bounds t
  get?_modify (t : τ) (id : StreamId) (f : Message → Message) (k : StreamId) :
    get? (modify t id f) k = if k = id then (get? t id).map f else get? t k
  bounds_modify (t : τ) (id : StreamId) (f : Message → Message) : bounds (modify t id f) = bounds t
  get?_erase (t : τ) (id k : StreamId) : get? (erase t id) k = if k = id then none else get? t k
  bounds_erase (t : τ) (id : StreamId) : bounds (erase t id) = bounds t
  get?_clear (t : τ) (k : StreamId) : get? (clear t) k = none
  bounds_clear (t : τ) : bounds (clear t) = bounds t
  mem_ids {t : τ} {id : StreamId} : id ∈ ids t ↔ (get? t id).isSome = true
  ids_sorted (t : τ) : (ids t).Pairwise (· < ·)
  length_ids (t : τ) : (ids t).length = size t

namespace Store

open LawfulStore

variable {τ : Type u} [Store τ] [LawfulStore τ]

theorem put_isOk_of_bounds_eq_nil {t : τ} (h : bounds t = []) (id : StreamId) (m : Message) :
    ∃ t', put t id m = .ok t' := by
  cases hp : put t id m with
  | ok t' => exact ⟨t', rfl⟩
  | error full => simpa [h] using (put_eq_error.1 hp).2.2

theorem isEmpty_iff {t : τ} : isEmpty t = true ↔ ∀ id, get? t id = none := by
  rw [isEmpty, beq_iff_eq, ← length_ids, List.length_eq_zero_iff, List.eq_nil_iff_forall_not_mem]
  simp [mem_ids]

end Store

end Demux

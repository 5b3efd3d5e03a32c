import Demux.Proofs.Session.Alike
import Demux.Proofs.Session.Limit
import Demux.Session.Endpoint
import Demux.Store.Bounded
import Mathlib.Algebra.Order.BigOperators.Group.List
import Mathlib.Data.Set.Card

namespace Demux

universe u

theorem Turn.isSome_of_no_room {terms : Terms} {full : Option Full} {id : StreamId} {f : Frame}
    {p p' : Slot} {events : List Event} (h : Turn terms full id f p p' events)
    (hfull : full.isSome = true) (hp : p'.isSome = true) : p.isSome = true := by
  cases h with
  | rejected | answered | refused | forwarded => exact hp
  | kept _ _ room | replaced _ _ room =>
    rw [room] at hfull
    cases hfull
  | addedHeaders | addedData => rfl
  | strayHeaders | strayData | endedByHeaders | endedByData | overflowed | aborted | idle =>
    cases hp

theorem Store.encard_contains {τ : Type u} [Store τ] [LawfulStore τ] (t : τ) :
    {id | contains t id = true}.encard = size t := by
  have hids : {id | contains t id = true} = ((ids t).toFinset : Set StreamId) := by
    ext id
    rw [Finset.mem_coe, List.mem_toFinset, mem_ids_iff]
    rfl
  rw [hids, Set.encard_coe_eq_coe_finsetCard, List.toFinset_card_of_nodup (nodup_ids t),
    LawfulStore.length_ids]

namespace Session

variable {τ : Type u} [Store τ]

/-- The bytes in the bodies of all pending messages. -/
def buffered (s : Session τ) : Nat :=
  ((Store.ids s.pending).map fun id => ((s.pending? id).map fun m => m.body.size).getD 0).sum

variable [LawfulStore τ] {s : Session τ} {capacity : Nat}

theorem buffered_le {limit : Nat} (h : s.AllPending (Fits limit)) :
    s.buffered ≤ s.pendingCount * limit := by
  have hbody (id : StreamId) : ((s.pending? id).map fun m => m.body.size).getD 0 ≤ limit := by
    cases hp : s.pending? id with
    | none => exact Nat.zero_le _
    | some m => exact h id m hp
  have hsum := List.sum_le_card_nsmul
    ((Store.ids s.pending).map fun id => ((s.pending? id).map fun m => m.body.size).getD 0) limit
  rw [List.length_map, LawfulStore.length_ids, Nat.nsmul_eq_mul] at hsum
  apply hsum
  intro n hn
  obtain ⟨id, -, rfl⟩ := List.mem_map.1 hn
  exact hbody id

theorem pendingCount_react_le (hs : capacity ∈ Store.bounds s.pending)
    (hle : s.pendingCount ≤ capacity) (f : Frame) : (s.react f).1.pendingCount ≤ capacity := by
  cases hid : f.streamId? with
  | none =>
    rw [s.react_of_streamId?_eq_none hid]
    exact hle
  | some id =>
    have hcount := s.pendingCount_react hid
    have hone := Bool.toNat_le ((s.react f).1.isPending id)
    cases hbefore : s.isPending id with
    | true =>
      rw [hbefore, Bool.toNat_true] at hcount
      omega
    | false =>
      rcases Nat.lt_or_ge s.pendingCount capacity with hroom | hfull
      · omega
      · have hno := Store.isSome_refusal?_of_mem_bounds hs hbefore hfull
        have hafter : (s.react f).1.isPending id = false := by
          rw [← Bool.not_eq_true]
          intro hafter
          rw [isPending_eq, (s.turn hid).isSome_of_no_room hno hafter] at hbefore
          cases hbefore
        rw [hbefore, hafter] at hcount
        omega

theorem pendingCount_close (s : Session τ) : s.close.1.pendingCount = 0 := by
  have hempty : Store.isEmpty s.close.1.pending = true := Store.isEmpty_iff.2 s.pending?_close
  exact beq_iff_eq.1 hempty

theorem pendingCount_call_le (hs : capacity ∈ Store.bounds s.pending)
    (hle : s.pendingCount ≤ capacity) (c : Call) : (s.call c).1.pendingCount ≤ capacity := by
  cases c with
  | frame f => exact pendingCount_react_le hs hle f
  | close => exact s.pendingCount_close.le.trans (Nat.zero_le _)

theorem pendingCount_calls_le (hs : capacity ∈ Store.bounds s.pending)
    (hle : s.pendingCount ≤ capacity) (cs : List Call) :
    (s.calls cs).1.pendingCount ≤ capacity := by
  induction cs generalizing s with
  | nil => exact hle
  | cons c cs ih =>
    apply ih _ (pendingCount_call_le hs hle c)
    rw [s.bounds_call c]
    exact hs

/-- No more messages are pending than the store takes, with bodies within the limit each. -/
theorem memory_bounded {e : Endpoint (Bounded τ)}
    (he : Store.isEmpty e.session.pending = true) (cs : List Command) :
    let s := (e.run cs).1.session
    let capacity := e.session.pending.capacity
    s.pendingCount ≤ capacity ∧
      {id | s.isPending id = true}.encard = s.pendingCount ∧
      s.buffered ≤ capacity * e.session.limit := by
  intro s capacity
  have hs : s = (e.session.calls (e.session.callsOf cs)).1 := (e.session_run cs).1
  have hcount : s.pendingCount ≤ capacity := by
    rw [hs]
    apply pendingCount_calls_le
    · exact List.mem_cons_self
    · have hnone : e.session.pendingCount = 0 := beq_iff_eq.1 he
      rw [hnone]
      exact Nat.zero_le _
  have hfits : s.AllPending (Fits e.session.limit) := by
    rw [hs]
    exact allPending_fits he _
  refine ⟨hcount, Store.encard_contains s.pending, ?_⟩
  calc
    s.buffered ≤ s.pendingCount * e.session.limit := buffered_le hfits
    _ ≤ capacity * e.session.limit := Nat.mul_le_mul_right _ hcount

theorem memory_bounded_two_streams :
    let id (n : Nat) := StreamId.ofNat n
    let e : Endpoint (Bounded TreeStore) := ⟨⟨⟨.three, 3, by decide⟩, ⟨∅, 2⟩⟩, ∅⟩
    let reply (n : Nat) := Frame.synReply (id n) (Fields.replyBlock .three "200 OK") false
    let cs := [.frame (reply 1), .close, .frames [reply 1, reply 3, reply 5],
      .frames [.data (id 1) ⟨#[1, 2, 3, 4]⟩ false, reply 5], .frame (reply 7),
      .frame (.data (id 7) ⟨#[1, 2, 3]⟩ false), .frame (.data (id 3) ⟨#[1, 2, 3]⟩ false)]
    let s := (e.run cs).1.session
    Store.isEmpty e.session.pending = true ∧ s.pendingCount = 2 ∧ s.buffered = 6 ∧
      {id | s.isPending id = true}.encard = 2 := by
  intro id e reply cs s
  have he : Store.isEmpty e.session.pending = true := by decide +kernel
  obtain ⟨hcount, hids, hbytes⟩ := memory_bounded he cs
  have hpending : 2 ≤ s.pendingCount := by decide +kernel
  have hbuffered : 6 ≤ s.buffered := by decide +kernel
  have htwo : s.pendingCount = 2 := hcount.antisymm hpending
  refine ⟨he, htwo, hbytes.antisymm hbuffered, ?_⟩
  rw [hids]
  exact congrArg Nat.cast htwo

end Session

end Demux

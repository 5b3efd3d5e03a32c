import Demux.Proofs.Session.Lasting
import Demux.Proofs.Session.Reassembly

namespace Demux

universe u

/-- The body of the message is within the limit. -/
def Fits (limit : Nat) (_ : StreamId) (m : Message) : Prop :=
  m.body.size ≤ limit

theorem Fits.lasting (terms : Terms) : Lasting terms (Fits terms.limit) where
  opens h := by
    rw [Fits, h.body]
    exact Nat.zero_le _
  addHeaders h _ := h
  addData {id m} _ payload fits := by
    rw [Fits, Message.body_append, ByteArray.size_append]
    exact fits

theorem Fits.of_ended {terms : Terms} {id : StreamId} {m : Message}
    (h : Ended terms (Fits terms.limit) id m) : m.body.size ≤ terms.limit := by
  cases h with
  | opening opens =>
    rw [Frame.body_sealed, opens.body]
    exact Nat.zero_le _
  | grown holds => exact holds

theorem Cause.of_overflowed {terms : Terms} {full : Option Full} {id : StreamId} {f : Frame}
    {p : Slot} {o : Overflow} (h : Cause terms full id f p (.overflowed o)) :
    ∃ payload last m, f = .data id payload last ∧ p = some m ∧
      terms.limit < m.body.size + payload.size ∧
      o = ⟨id, m.body.size + payload.size, terms.limit⟩ := by
  cases h with
  | rejected rejects => cases rejects
  | overflowed exceeds => exact ⟨_, _, _, rfl, rfl, exceeds, rfl⟩

namespace Session

variable {τ : Type u} [Store τ] [LawfulStore τ]

theorem react_of_overflow {s : Session τ} {id : StreamId} {payload : ByteArray} {m : Message}
    (h : s.pending? id = some m) (hover : s.limit < m.body.size + payload.size) (last : Bool) :
    (s.react (.data id payload last)).1.pending? id = none ∧
      (s.react (.data id payload last)).2 =
        [.overflowed ⟨id, m.body.size + payload.size, s.limit⟩] := by
  have hslot : Slot.addData s.limit id (some m) payload last =
      (none, [.overflowed ⟨id, m.body.size + payload.size, s.limit⟩]) := if_pos hover
  rw [s.pending?_react rfl, s.events_react rfl, h]
  exact ⟨congrArg Prod.fst hslot, congrArg Prod.snd hslot⟩

theorem firstOverflow?_react (s : Session τ) (f : Frame) (o : Overflow) :
    Event.firstOverflow? (s.react f).2 = some o ↔
      ∃ id payload last m, f = .data id payload last ∧ s.pending? id = some m ∧
        s.limit < m.body.size + payload.size ∧
        o = ⟨id, m.body.size + payload.size, s.limit⟩ := by
  constructor
  · intro h
    obtain ⟨e, he, ho⟩ := List.exists_of_findSome?_eq_some h
    cases e with
    | overflowed o' =>
      cases ho
      obtain ⟨-, heq⟩ | ⟨id, -, hcause⟩ := cause_of_mem_react he
      · cases heq
      · exact ⟨id, hcause.of_overflowed⟩
    | _ => cases ho
  · rintro ⟨id, payload, last, m, rfl, hm, hover, rfl⟩
    rw [(react_of_overflow hm hover last).2]
    rfl

theorem allPending_fits {s : Session τ} (hs : Store.isEmpty s.pending = true) (cs : List Call) :
    (s.calls cs).1.AllPending (Fits s.limit) :=
  (AllPending.of_isEmpty hs).calls (Fits.lasting s.terms) cs

theorem body_le_of_mem_messages {s : Session τ} (hs : Store.isEmpty s.pending = true)
    {cs : List Call} {v : Revision} {m : Message}
    (hm : m ∈ (Sink.ofEvents v (s.calls cs).2).messages) : m.body.size ≤ s.limit := by
  obtain ⟨id, he⟩ := Sink.mem_messages_ofEvents.1 hm
  exact Fits.of_ended ((AllPending.of_isEmpty hs).ended_calls (Fits.lasting s.terms) he)

/-- A frame overflows just when a pending body has no room for it, and only drops it then. -/
theorem limit_exact {s₀ : Session τ} (hs : Store.isEmpty s₀.pending = true) (cs : List Call) :
    let s := (s₀.calls cs).1
    (∀ f o, Event.firstOverflow? (s.react f).2 = some o ↔
      ∃ id payload last m, f = .data id payload last ∧ s.pending? id = some m ∧
        s₀.limit < m.body.size + payload.size ∧
        o = ⟨id, m.body.size + payload.size, s₀.limit⟩) ∧
    (∀ f o, Event.firstOverflow? (s.react f).2 = some o →
      (s.react f).1.pending? o.id = none ∧
        (∀ k, k ≠ o.id → (s.react f).1.pending? k = s.pending? k) ∧
        Sink.ofEvents s.revision (s.react f).2 = ∅) ∧
    (∀ id m, s.pending? id = some m → m.body.size ≤ s₀.limit) ∧
    (∀ m ∈ (Sink.ofEvents s₀.revision (s₀.calls cs).2).messages, m.body.size ≤ s₀.limit) ∧
    ∀ opening between last id m, Opens s.revision opening id m → opening.isLast = false →
      (∃ t, Store.put s.pending id m = .ok t) → (∀ f ∈ between, f.goesOn id = true) →
      last.endsMessage id = true →
      (Frame.allBytesFor id (between ++ [last])).size ≤ s₀.limit →
      ∃ whole, ((s.feed (opening :: between)).1.react last).2 = [.emitted id whole] ∧
        whole.body = Frame.allBytesFor id (between ++ [last]) := by
  intro s
  have hlimit : s.limit = s₀.limit := s₀.limit_calls cs
  have hover := s.firstOverflow?_react
  rw [← hlimit]
  refine ⟨hover, ?_, ?_, ?_, ?_⟩
  · intro f o ho
    obtain ⟨id, payload, last, m, rfl, hm, hgt, rfl⟩ := (hover f o).1 ho
    obtain ⟨hnone, hevents⟩ := react_of_overflow hm hgt last
    refine ⟨hnone, ?_, ?_⟩
    · intro k hk
      apply s.pending?_react_of_ne
      exact fun heq => hk (Option.some.inj heq).symm
    · rw [hevents]
      rfl
  · rw [hlimit]
    exact allPending_fits hs cs
  · intro m hm
    rw [hlimit]
    exact body_le_of_mem_messages hs hm
  · intro opening between last id m hopens hfirst hroom hbetween hlast hsize
    obtain ⟨-, hevents, hbody⟩ := react_last_of_opens hopens hfirst hroom hbetween hlast hsize
    exact ⟨_, hevents, hbody⟩

theorem limit_exact_two_bytes :
    let id := StreamId.ofNat 3
    let s₀ : Session TreeStore := ⟨⟨.three, 2, by decide⟩, ∅⟩
    let reply (k : StreamId) := Frame.synReply k (Fields.replyBlock .three "200 OK") false
    let cs := [Call.frame (reply id), .frame (.data id ⟨#[1]⟩ false), .close, .frame (reply id),
      .frame (.data id ⟨#[1, 2]⟩ false)]
    let s := (s₀.calls cs).1
    let f := Frame.data id ⟨#[3]⟩ true
    Store.isEmpty s₀.pending = true ∧ Event.firstOverflow? (s.react f).2 = some ⟨id, 3, 2⟩ ∧
      (s.react f).1.pending? id = none ∧
      ∃ whole, ((s.feed [reply (.ofNat 5), .data (.ofNat 5) ⟨#[1]⟩ false, f]).1.react
          (.data (.ofNat 5) ⟨#[2]⟩ true)).2 = [.emitted (.ofNat 5) whole] ∧
        whole.body = ⟨#[1, 2]⟩ := by
  intro id s₀ reply cs s f
  have hs : Store.isEmpty s₀.pending = true := by decide +kernel
  obtain ⟨hover, hatomic, -, -, htaken⟩ := limit_exact hs cs
  have hpending : (s.pending? id).map Message.body = some ⟨#[1, 2]⟩ := by decide +kernel
  obtain ⟨m, hm, hbody⟩ := Option.map_eq_some_iff.1 hpending
  have hsize : m.body.size = 2 := congrArg ByteArray.size hbody
  have hgt : 2 < m.body.size + 1 := by omega
  have ho : Event.firstOverflow? (s.react f).2 = some ⟨id, 3, 2⟩ := by
    apply (hover f _).2
    refine ⟨id, ⟨#[3]⟩, true, m, rfl, hm, hgt, ?_⟩
    rw [hsize]
    rfl
  have hread : Message.ofReplyBlock .three (Fields.replyBlock .three "200 OK") =
      .ok ⟨.reply .ok, .http11, ∅, .empty⟩ := rfl
  obtain ⟨m', hopens⟩ : ∃ m', Opens s.revision (reply (.ofNat 5)) (.ofNat 5) m' := by
    rw [s₀.revision_calls cs]
    exact ⟨_, .reply hread⟩
  have hroom := Store.put_isOk_of_bounds_eq_nil (t := s.pending) rfl (.ofNat 5)
  have hwhole := htaken _ [.data (.ofNat 5) ⟨#[1]⟩ false, f] (.data (.ofNat 5) ⟨#[2]⟩ true) _ _
    hopens rfl (hroom _) (by decide +kernel) (by decide +kernel) (by decide +kernel)
  exact ⟨hs, ho, (hatomic f _ ho).1, hwhole⟩

end Session

end Demux

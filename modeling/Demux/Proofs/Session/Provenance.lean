import Demux.Proofs.Session.Conservation
import Demux.Proofs.Session.Reassembly

namespace Demux

universe u

namespace Frame

def resets (id : StreamId) : Frame → Bool
  | rstStream k _ => k = id
  | _ => false

/-- The frame puts an end to the message pending for this stream, or another one in its place. -/
def displaces (v : Revision) (id : StreamId) (f : Frame) : Bool :=
  f.endsMessage id || f.resets id || (f.opensFor v id && !f.isLast)

variable {v : Revision} {id : StreamId} {f : Frame}

theorem displaces_of_ne (h : f.streamId? ≠ some id) : f.displaces v id = false := by
  rw [displaces, opensFor_of_ne h, Bool.false_and, Bool.or_false]
  cases f with
  | headers | data | rstStream =>
    simp only [streamId?, ne_eq, Option.some.injEq] at h
    simp [endsMessage, resets, h]
  | synStream | synReply | settings | ping | goAway | windowUpdate => rfl

theorem displaces_of_opening (ho : (f.opening? v).isSome = true) :
    f.displaces v id = (f.opensFor v id && !f.isLast) := by
  cases f with
  | synStream | synReply => rfl
  | headers | data | rstStream | settings | ping | goAway | windowUpdate => cases ho

theorem displaces_of_isPieceOf (h : f.isPieceOf id = true) (hlast : f.isLast = false) :
    f.displaces v id = false := by
  have hends : f.endsMessage id = false := by
    rw [Bool.eq_false_iff, ne_eq, endsMessage_iff, hlast]
    exact fun hboth => Bool.false_ne_true hboth.2
  rw [displaces, hends]
  cases f with
  | headers | data => simp [resets, opensFor, opening?]
  | synStream | synReply | rstStream | settings | ping | goAway | windowUpdate => cases h

theorem extend_of_opening (ho : (f.opening? v).isSome = true) (m : Message) :
    m.extend (f.fieldsFor id) (f.bytesFor id) = m := by
  cases f with
  | synStream | synReply => exact m.extend_empty
  | headers | data | rstStream | settings | ping | goAway | windowUpdate => cases ho

theorem extend_of_ne (h : f.streamId? ≠ some id) (m : Message) :
    m.extend (f.fieldsFor id) (f.bytesFor id) = m := by
  rw [fieldsFor_of_ne h, bytesFor_of_ne h, m.extend_empty]

theorem extend_of_headers (id : StreamId) (block : Fields) (last : Bool) (m : Message) :
    m.extend ((headers id block last).fieldsFor id) ((headers id block last).bytesFor id) =
      m.mapHeaders (· ++ block) := by
  rw [fieldsFor, if_pos rfl, Message.mapHeaders_eq_extend]
  rfl

theorem extend_of_data (id : StreamId) (payload : ByteArray) (last : Bool) (m : Message) :
    m.extend ((data id payload last).fieldsFor id) ((data id payload last).bytesFor id) =
      m.append payload := by
  rw [bytesFor, if_pos rfl, Message.append_eq_extend]
  rfl

end Frame

/-- `Part v id fs m`: frames `fs`, the first of which opens `id`, leave `m` in the making. -/
inductive Part (v : Revision) (id : StreamId) : List Frame → Message → Prop where
  | opened {f : Frame} {m : Message} (opens : Opens v f id m) (first : f.isLast = false) :
      Part v id [f] m
  | grown {fs : List Frame} {m : Message} (part : Part v id fs m) {f : Frame}
      (keeps : f.displaces v id = false) :
      Part v id (fs ++ [f]) (m.extend (f.fieldsFor id) (f.bytesFor id))

/-- `Whole v id fs m`: message `m` of stream `id` is emitted with the last of its frames `fs`. -/
inductive Whole (v : Revision) (id : StreamId) : List Frame → Message → Prop where
  | answered {f : Frame} {m : Message} (opens : Opens v f id m) (last : f.isLast = true) :
      Whole v id [f] (f.sealed m)
  | ended {fs : List Frame} {m whole : Message} (part : Part v id fs m) {f : Frame}
      (ends : f.endsMessage id = true)
      (grown : whole = m.extend (f.fieldsFor id) (f.bytesFor id)) :
      Whole v id (fs ++ [f]) (whole.setContentLength whole.body.size)

theorem Part.keep {v : Revision} {id : StreamId} {fs : List Frame} {m : Message}
    (h : Part v id fs m) {f : Frame} (hkeeps : f.displaces v id = false)
    (hsame : m.extend (f.fieldsFor id) (f.bytesFor id) = m) : Part v id (fs ++ [f]) m := by
  have hgrown := h.grown hkeeps
  rw [hsame] at hgrown
  exact hgrown

theorem Part.exists_opening {v : Revision} {id : StreamId} {fs : List Frame} {m : Message}
    (h : Part v id fs m) :
    ∃ f later m₀, fs = f :: later ∧ Opens v f id m₀ ∧ f.isLast = false ∧
      m = m₀.extend (Frame.allFieldsFor id later) (Frame.allBytesFor id later) := by
  induction h with
  | @opened f m opens first => exact ⟨f, [], m, rfl, opens, first, m.extend_empty.symm⟩
  | @grown _ _ _ g _ ih =>
    obtain ⟨f, later, m₀, rfl, opens, first, rfl⟩ := ih
    refine ⟨f, later ++ [g], m₀, rfl, opens, first, ?_⟩
    rw [Message.extend_extend, Frame.allFieldsFor_append, Frame.allBytesFor_append,
      Frame.allFieldsFor_singleton, Frame.allBytesFor_singleton]

section Turn

variable {terms : Terms} {full : Option Full} {id : StreamId} {f : Frame} {p p' : Slot}
  {events : List Event}

theorem Part.turn {fs : List Frame} (h : Turn terms full id f p p' events)
    (hfull : p.isSome = true → full = none)
    (hp : ∀ m, p = some m → Part terms.revision id fs m) :
    (∀ m, p' = some m → Part terms.revision id [f] m) ∨
      ∀ m, p' = some m → Part terms.revision id (fs ++ [f]) m := by
  cases h with
  | kept opens last | replaced opens last =>
    refine .inl fun m hm => ?_
    cases hm
    exact .opened opens last
  | rejected rejects =>
    have ho := rejects.isSome_opening?
    have hkeeps : f.displaces terms.revision id = false := by
      rw [Frame.displaces_of_opening ho, rejects.opensFor]
      rfl
    exact .inr fun m hm => (hp m hm).keep hkeeps (Frame.extend_of_opening ho m)
  | answered opens last =>
    have ho := opens.isSome_opening?
    have hkeeps : f.displaces terms.revision id = false := by
      rw [Frame.displaces_of_opening ho, last]
      exact Bool.and_false _
    exact .inr fun m hm => (hp m hm).keep hkeeps (Frame.extend_of_opening ho m)
  | refused _ _ room =>
    -- only a stream that has nothing pending is refused
    refine .inr fun m hm => ?_
    rw [hfull (by rw [hm]; rfl)] at room
    cases room
  | @addedHeaders m block =>
    refine .inr fun m' hm => ?_
    cases hm
    have hkeeps : (Frame.headers id block false).displaces terms.revision id = false :=
      Frame.displaces_of_isPieceOf (decide_eq_true rfl) rfl
    rw [← Frame.extend_of_headers id block false]
    exact (hp m rfl).grown hkeeps
  | @addedData m payload fits =>
    refine .inr fun m' hm => ?_
    cases hm
    have hkeeps : (Frame.data id payload false).displaces terms.revision id = false :=
      Frame.displaces_of_isPieceOf (decide_eq_true rfl) rfl
    rw [← Frame.extend_of_data id payload false]
    exact (hp m rfl).grown hkeeps
  | @forwarded _ delta =>
    have hkeeps : (Frame.windowUpdate id delta).displaces terms.revision id = false := by
      simp [Frame.displaces, Frame.endsMessage, Frame.resets, Frame.opensFor, Frame.opening?]
    exact .inr fun m hm => (hp m hm).keep hkeeps m.extend_empty
  | strayHeaders | strayData | endedByHeaders | endedByData | overflowed | aborted | idle =>
    refine .inr fun m hm => ?_
    cases hm

theorem Whole.cause {fs : List Frame} {m : Message}
    (h : Cause terms full id f p (.emitted id m))
    (hp : ∀ m, p = some m → Part terms.revision id fs m) :
    Whole terms.revision id [f] m ∨ Whole terms.revision id (fs ++ [f]) m := by
  cases h with
  | rejected rejects => cases rejects
  | answered opens last => exact .inl (.answered opens last)
  | @endedByHeaders m block =>
    have hends : (Frame.headers id block true).endsMessage id = true := by
      simp [Frame.endsMessage]
    exact .inr (.ended (hp m rfl) hends (Frame.extend_of_headers id block true m).symm)
  | @endedByData m payload fits =>
    have hends : (Frame.data id payload true).endsMessage id = true := by
      simp [Frame.endsMessage]
    exact .inr (.ended (hp m rfl) hends (Frame.extend_of_data id payload true m).symm)

end Turn

namespace Session

variable {τ : Type u} [Store τ]

/-- Every pending message is made of the frames that are the last of the past calls. -/
def Accounts (past : List Call) (s : Session τ) : Prop :=
  ∀ id, ∃ before fs, past = before ++ fs.map .frame ∧
    ∀ m, s.pending? id = some m → Part s.revision id fs m

variable [LawfulStore τ]

namespace Accounts

variable {s : Session τ} {past : List Call}

theorem of_isEmpty (h : Store.isEmpty s.pending = true) : Accounts [] s := by
  refine fun id => ⟨[], [], rfl, fun m hm => ?_⟩
  cases (Store.isEmpty_iff.1 h id).symm.trans hm

theorem close (s : Session τ) (past : List Call) : Accounts past s.close.1 := by
  refine fun id => ⟨past, [], (List.append_nil past).symm, fun m hm => ?_⟩
  cases (s.pending?_close id).symm.trans hm

theorem react (h : Accounts past s) (f : Frame) : Accounts (past ++ [.frame f]) (s.react f).1 := by
  intro id
  obtain ⟨before, fs, rfl, hp⟩ := h id
  have hv : (s.react f).1.revision = s.revision := s.revision_call (.frame f)
  have hpast : before ++ fs.map .frame ++ [Call.frame f] = before ++ (fs ++ [f]).map .frame := by
    simp
  rw [hv]
  by_cases hid : f.streamId? = some id
  · have hroom (hsome : (s.pending? id).isSome = true) :
        Store.refusal? s.pending id = none := if_pos hsome
    rcases Part.turn (s.turn hid) hroom hp with hparts | hparts
    · exact ⟨before ++ fs.map .frame, [f], rfl, hparts⟩
    · exact ⟨before, fs ++ [f], hpast, hparts⟩
  · refine ⟨before, fs ++ [f], hpast, fun m hm => ?_⟩
    rw [s.pending?_react_of_ne hid] at hm
    exact (hp m hm).keep (Frame.displaces_of_ne hid) (Frame.extend_of_ne hid m)

theorem call (h : Accounts past s) (c : Call) : Accounts (past ++ [c]) (s.call c).1 := by
  cases c with
  | frame f => exact h.react f
  | close => exact .close s _

theorem calls (h : Accounts past s) (cs : List Call) : Accounts (past ++ cs) (s.calls cs).1 := by
  induction cs generalizing s past with
  | nil =>
    rw [List.append_nil]
    exact h
  | cons c cs ih =>
    have hrest := ih (h.call c)
    rw [List.append_assoc] at hrest
    exact hrest

theorem whole_of_call (h : Accounts past s) {c : Call} {id : StreamId} {m : Message}
    (he : .emitted id m ∈ (s.call c).2) :
    ∃ before fs, past ++ [c] = before ++ fs.map .frame ∧ Whole s.revision id fs m := by
  obtain ⟨f, rfl, he⟩ := exists_frame_of_emitted he
  obtain ⟨-, heq⟩ | ⟨k, -, hcause⟩ := cause_of_mem_react he
  · cases heq
  · cases hcause.streamId?
    obtain ⟨before, fs, rfl, hp⟩ := h id
    rcases Whole.cause hcause hp with hwhole | hwhole
    · exact ⟨before ++ fs.map .frame, [f], rfl, hwhole⟩
    · exact ⟨before, fs ++ [f], by simp, hwhole⟩

theorem whole_of_calls (h : Accounts past s) {cs : List Call} {id : StreamId} {m : Message}
    (he : .emitted id m ∈ (s.calls cs).2) :
    ∃ before fs after, past ++ cs = before ++ fs.map .frame ++ after ∧
      Whole s.revision id fs m := by
  -- each call that did not emit the message becomes part of the past
  induction cs generalizing s past with
  | nil => cases he
  | cons c cs ih =>
    rcases List.mem_append.1 he with he | he
    · obtain ⟨before, fs, hpast, hwhole⟩ := h.whole_of_call he
      refine ⟨before, fs, cs, ?_, hwhole⟩
      rw [← hpast, List.append_assoc]
      rfl
    · have hrest := ih (h.call c) he
      rw [List.append_assoc, s.revision_call c] at hrest
      exact hrest

end Accounts

theorem part_of_pending {s : Session τ} (hs : Store.isEmpty s.pending = true) {cs : List Call}
    {id : StreamId} {m : Message} (hm : (s.calls cs).1.pending? id = some m) :
    ∃ before fs, cs = before ++ fs.map .frame ∧ Part s.revision id fs m := by
  obtain ⟨before, fs, hcs, hp⟩ := (Accounts.of_isEmpty hs).calls cs id
  have hpart := hp m hm
  rw [s.revision_calls cs] at hpart
  exact ⟨before, fs, hcs, hpart⟩

theorem whole_of_emitted {s : Session τ} (hs : Store.isEmpty s.pending = true) {cs : List Call}
    {id : StreamId} {m : Message} (he : .emitted id m ∈ (s.calls cs).2) :
    ∃ before fs after, cs = before ++ fs.map .frame ++ after ∧ Whole s.revision id fs m :=
  (Accounts.of_isEmpty hs).whole_of_calls he

theorem whole_of_react {s : Session τ} (hs : Store.isEmpty s.pending = true) {cs : List Call}
    {f : Frame} {id : StreamId} {m : Message} (he : .emitted id m ∈ ((s.calls cs).1.react f).2) :
    ∃ before fs, cs ++ [.frame f] = before ++ fs.map .frame ∧ Whole s.revision id fs m := by
  have hcall := ((Accounts.of_isEmpty hs).calls cs).whole_of_call (c := .frame f) he
  rw [s.revision_calls cs] at hcall
  exact hcall

end Session

end Demux

import Demux.Frame.Block
import Demux.Proofs.Slot.Opening
import Demux.Session.Run
import Demux.Store.Maps

namespace Demux

universe u

namespace Message

/-- The message with more header fields and more of its body. -/
def extend (m : Message) (headers : Fields) (bytes : ByteArray) : Message :=
  (m.mapHeaders (· ++ headers)).append bytes

theorem body_extend (m : Message) (headers : Fields) (bytes : ByteArray) :
    (m.extend headers bytes).body = m.body ++ bytes := rfl

theorem setContentLength_extend (m : Message) (headers : Fields) (bytes : ByteArray) (n : Nat) :
    (m.extend headers bytes).setContentLength n =
      ⟨m.start, m.protocol, ((m.headers ++ headers).erase HeaderName.contentLength).insert
        HeaderName.contentLength (toString n), m.body ++ bytes⟩ := rfl

@[simp] theorem extend_empty (m : Message) : m.extend ∅ .empty = m := by
  cases m
  simp [extend, mapHeaders, append]

theorem extend_extend (m : Message) (headers headers' : Fields) (bytes bytes' : ByteArray) :
    (m.extend headers bytes).extend headers' bytes' =
      m.extend (headers ++ headers') (bytes ++ bytes') := by
  simp [extend, mapHeaders, append, Fields.append_assoc, ByteArray.append_assoc]

theorem mapHeaders_eq_extend (m : Message) (headers : Fields) :
    m.mapHeaders (· ++ headers) = m.extend headers .empty := by
  simp [extend, append, mapHeaders]

theorem append_eq_extend (m : Message) (bytes : ByteArray) :
    m.append bytes = m.extend ∅ bytes := by
  cases m
  simp [extend, mapHeaders, append]

end Message

namespace Frame

/-- The header fields that a frame adds to the message of stream `id`. -/
def fieldsFor (id : StreamId) : Frame → Fields
  | headers k block _ => if k = id then block else ∅
  | _ => ∅

/-- The bytes that a frame adds to the body of stream `id`. -/
def bytesFor (id : StreamId) : Frame → ByteArray
  | data k payload _ => if k = id then payload else .empty
  | _ => .empty

def allFieldsFor (id : StreamId) (fs : List Frame) : Fields :=
  fs.foldr (fun f rest => f.fieldsFor id ++ rest) ∅

def allBytesFor (id : StreamId) (fs : List Frame) : ByteArray :=
  fs.foldr (fun f rest => f.bytesFor id ++ rest) .empty

/-- The frame is of another stream, or goes on with the message of this one without ending it. -/
def goesOn (id : StreamId) : Frame → Bool
  | synStream k .. | synReply k .. | rstStream k _ => k ≠ id
  | headers k _ last | data k _ last => k ≠ id || !last
  | settings .. | ping _ | goAway .. | windowUpdate .. => true

/-- The frame goes on with the message of this stream, and ends it. -/
def endsMessage (id : StreamId) : Frame → Bool
  | headers k _ last | data k _ last => k = id && last
  | _ => false

/-- The frame has more of the message of this stream. -/
def isPieceOf (id : StreamId) : Frame → Bool
  | headers k .. | data k .. => k = id
  | _ => false

theorem streamId?_of_isPieceOf {id : StreamId} {f : Frame} (h : f.isPieceOf id = true) :
    f.streamId? = some id := by
  cases f with
  | headers | data => exact congrArg some (of_decide_eq_true h)
  | synStream | synReply | rstStream | settings | ping | goAway | windowUpdate => cases h

theorem endsMessage_iff {id : StreamId} {f : Frame} :
    f.endsMessage id = true ↔ f.isPieceOf id = true ∧ f.isLast = true := by
  cases f with
  | headers | data => exact Bool.and_eq_true_iff
  | synStream | synReply | rstStream | settings | ping | goAway | windowUpdate =>
    simp [endsMessage, isPieceOf]

theorem goesOn_cases {id : StreamId} {f : Frame} (h : f.goesOn id = true)
    (hid : f.streamId? = some id) :
    (f.isPieceOf id = true ∧ f.isLast = false) ∨ ∃ delta, f = .windowUpdate id delta := by
  cases f with
  | headers k block last | data k payload last =>
    cases hid
    rcases Bool.or_eq_true_iff.1 h with hne | hlast
    · exact absurd rfl (of_decide_eq_true hne)
    · exact .inl ⟨decide_eq_true rfl, Bool.not_eq_true' _ ▸ hlast⟩
  | windowUpdate k delta =>
    cases hid
    exact .inr ⟨delta, rfl⟩
  | synStream | synReply | rstStream =>
    cases hid
    exact absurd rfl (of_decide_eq_true h)
  | settings | ping | goAway => cases hid

theorem allFieldsFor_append (id : StreamId) (fs gs : List Frame) :
    allFieldsFor id (fs ++ gs) = allFieldsFor id fs ++ allFieldsFor id gs := by
  induction fs with
  | nil => rfl
  | cons f fs ih =>
    have hcons (hs : List Frame) :
        allFieldsFor id (f :: hs) = f.fieldsFor id ++ allFieldsFor id hs := rfl
    rw [List.cons_append, hcons, hcons, ih, Fields.append_assoc]

theorem allBytesFor_append (id : StreamId) (fs gs : List Frame) :
    allBytesFor id (fs ++ gs) = allBytesFor id fs ++ allBytesFor id gs := by
  induction fs with
  | nil => exact ByteArray.empty_append.symm
  | cons f fs ih =>
    have hcons (hs : List Frame) :
        allBytesFor id (f :: hs) = f.bytesFor id ++ allBytesFor id hs := rfl
    rw [List.cons_append, hcons, hcons, ih, ByteArray.append_assoc]

theorem allFieldsFor_singleton (id : StreamId) (f : Frame) : allFieldsFor id [f] = f.fieldsFor id :=
  Fields.append_empty _

theorem allBytesFor_singleton (id : StreamId) (f : Frame) : allBytesFor id [f] = f.bytesFor id :=
  ByteArray.append_empty

theorem fieldsFor_of_ne {id : StreamId} {f : Frame} (h : f.streamId? ≠ some id) :
    f.fieldsFor id = ∅ := by
  cases f with
  | headers k block last => exact if_neg fun hk => h (congrArg some hk)
  | synStream | synReply | data | rstStream | settings | ping | goAway | windowUpdate => rfl

theorem bytesFor_of_ne {id : StreamId} {f : Frame} (h : f.streamId? ≠ some id) :
    f.bytesFor id = .empty := by
  cases f with
  | data k payload last => exact if_neg fun hk => h (congrArg some hk)
  | synStream | synReply | headers | rstStream | settings | ping | goAway | windowUpdate => rfl

end Frame

namespace Slot

theorem addHeaders_pending (id : StreamId) (m : Message) (block : Fields) (last : Bool) :
    addHeaders id (some m) block last = goOn id (m.extend block .empty) last := by
  rw [addHeaders, Message.mapHeaders_eq_extend]

theorem addData_of_fits {limit : Nat} {m : Message} {payload : ByteArray}
    (h : m.body.size + payload.size ≤ limit) (id : StreamId) (last : Bool) :
    addData limit id (some m) payload last = goOn id (m.extend ∅ payload) last := by
  rw [addData, if_neg (Nat.not_lt.2 h), Message.append_eq_extend]

theorem react_of_piece (terms : Terms) (full : Option Full) {id : StreamId} {m : Message}
    {f : Frame} (hf : f.isPieceOf id = true)
    (hsize : m.body.size + (f.bytesFor id).size ≤ terms.limit) :
    react terms full (some m) f =
      goOn id (m.extend (f.fieldsFor id) (f.bytesFor id)) f.isLast := by
  cases f with
  | headers k block last =>
    cases of_decide_eq_true hf
    rw [Frame.fieldsFor, if_pos rfl]
    exact addHeaders_pending id m block last
  | data k payload last =>
    cases of_decide_eq_true hf
    rw [Frame.bytesFor, if_pos rfl] at hsize ⊢
    exact addData_of_fits hsize id last
  | synStream | synReply | rstStream | settings | ping | goAway | windowUpdate => cases hf

end Slot

namespace Session

variable {τ : Type u} [Store τ] [LawfulStore τ]

theorem pending?_react_of_opens {s : Session τ} {f : Frame} {id : StreamId} {m : Message}
    (hf : Opens s.revision f id m) (hlast : f.isLast = false)
    (hroom : ∃ t, Store.put s.pending id m = .ok t) :
    (s.react f).1.pending? id = some m := by
  rw [s.pending?_react hf.streamId?, Slot.react_of_opens _ _ hf hlast, Store.put_isOk_iff.1 hroom]
  rfl

theorem pending?_react_of_goesOn {s : Session τ} {f : Frame} {id : StreamId} {m : Message}
    (h : s.pending? id = some m) (hf : f.goesOn id = true)
    (hsize : m.body.size + (f.bytesFor id).size ≤ s.limit) :
    (s.react f).1.pending? id = some (m.extend (f.fieldsFor id) (f.bytesFor id)) := by
  by_cases hid : f.streamId? = some id
  · rw [s.pending?_react hid, h]
    obtain ⟨hpiece, hlast⟩ | ⟨delta, rfl⟩ := Frame.goesOn_cases hf hid
    · rw [Slot.react_of_piece _ _ hpiece hsize, hlast]
      rfl
    · exact congrArg some m.extend_empty.symm
  · rw [s.pending?_react_of_ne hid, h, Frame.fieldsFor_of_ne hid, Frame.bytesFor_of_ne hid,
      Message.extend_empty]

theorem pending?_feed_of_goesOn {s : Session τ} {id : StreamId} {m : Message} {fs : List Frame}
    (h : s.pending? id = some m) (hfs : ∀ f ∈ fs, f.goesOn id = true)
    (hsize : m.body.size + (Frame.allBytesFor id fs).size ≤ s.limit) :
    (s.feed fs).1.pending? id =
      some (m.extend (Frame.allFieldsFor id fs) (Frame.allBytesFor id fs)) := by
  induction fs generalizing s m with
  | nil => exact h.trans (congrArg some m.extend_empty.symm)
  | cons f fs ih =>
    obtain ⟨hf, hfs⟩ := List.forall_mem_cons.1 hfs
    have hbytes : Frame.allBytesFor id (f :: fs) = f.bytesFor id ++ Frame.allBytesFor id fs := rfl
    rw [hbytes, ByteArray.size_append] at hsize
    have hstep := pending?_react_of_goesOn h hf (by omega)
    have hrest : (m.extend (f.fieldsFor id) (f.bytesFor id)).body.size +
        (Frame.allBytesFor id fs).size ≤ (s.react f).1.limit := by
      rw [limit_react, Message.body_extend, ByteArray.size_append]
      omega
    exact (ih hstep hfs hrest).trans (congrArg some (m.extend_extend _ _ _ _))

theorem react_of_endsMessage {s : Session τ} {f : Frame} {id : StreamId} {m : Message}
    (h : s.pending? id = some m) (hf : f.endsMessage id = true)
    (hsize : m.body.size + (f.bytesFor id).size ≤ s.limit) :
    let whole := m.extend (f.fieldsFor id) (f.bytesFor id)
    (s.react f).1.pending? id = none ∧
      (s.react f).2 = [.emitted id (whole.setContentLength whole.body.size)] := by
  obtain ⟨hpiece, hlast⟩ := Frame.endsMessage_iff.1 hf
  have hid := Frame.streamId?_of_isPieceOf hpiece
  rw [s.pending?_react hid, s.events_react hid, h, Slot.react_of_piece _ _ hpiece hsize, hlast]
  exact ⟨rfl, rfl⟩

theorem react_last_of_pending {s : Session τ} {id : StreamId} {m : Message}
    {between : List Frame} {last : Frame} (h : s.pending? id = some m)
    (hbetween : ∀ f ∈ between, f.goesOn id = true) (hlast : last.endsMessage id = true)
    (hsize : m.body.size + (Frame.allBytesFor id (between ++ [last])).size ≤ s.limit) :
    let whole := m.extend (Frame.allFieldsFor id (between ++ [last]))
      (Frame.allBytesFor id (between ++ [last]))
    ((s.feed between).1.react last).1.pending? id = none ∧
      ((s.feed between).1.react last).2 =
        [.emitted id (whole.setContentLength whole.body.size)] := by
  rw [Frame.allBytesFor_append, Frame.allBytesFor_singleton] at hsize ⊢
  rw [Frame.allFieldsFor_append, Frame.allFieldsFor_singleton]
  rw [ByteArray.size_append] at hsize
  have hp := pending?_feed_of_goesOn h hbetween (by omega)
  have hfits : (m.extend (Frame.allFieldsFor id between) (Frame.allBytesFor id between)).body.size +
      (last.bytesFor id).size ≤ (s.feed between).1.limit := by
    rw [limit_feed, Message.body_extend, ByteArray.size_append]
    omega
  have hl := react_of_endsMessage hp hlast hfits
  rw [Message.extend_extend] at hl
  exact hl

theorem react_last_of_opens {s : Session τ} {opening last : Frame} {between : List Frame}
    {id : StreamId} {m : Message} (hopens : Opens s.revision opening id m)
    (hfirst : opening.isLast = false) (hroom : ∃ t, Store.put s.pending id m = .ok t)
    (hbetween : ∀ f ∈ between, f.goesOn id = true) (hlast : last.endsMessage id = true)
    (hsize : (Frame.allBytesFor id (between ++ [last])).size ≤ s.limit) :
    let whole := m.extend (Frame.allFieldsFor id (between ++ [last]))
      (Frame.allBytesFor id (between ++ [last]))
    ((s.feed (opening :: between)).1.react last).1.pending? id = none ∧
      ((s.feed (opening :: between)).1.react last).2 =
        [.emitted id (whole.setContentLength whole.body.size)] ∧
      whole.body = Frame.allBytesFor id (between ++ [last]) := by
  have hbody : m.body ++ Frame.allBytesFor id (between ++ [last]) =
      Frame.allBytesFor id (between ++ [last]) := by
    rw [hopens.body]
    exact ByteArray.empty_append
  have hp := pending?_react_of_opens hopens hfirst hroom
  have hfits : m.body.size + (Frame.allBytesFor id (between ++ [last])).size ≤
      (s.react opening).1.limit := by
    rw [limit_react, ← ByteArray.size_append, hbody]
    exact hsize
  obtain ⟨hnone, hevents⟩ := react_last_of_pending hp hbetween hlast hfits
  exact ⟨hnone, hevents, hbody⟩

/-- A stream that is opened, goes on and ends within the limit brings out one message, whole. -/
theorem emits_whole_message {s : Session τ} {opening last : Frame} {between : List Frame}
    {id : StreamId} {m : Message} (hopens : Opens s.revision opening id m)
    (hfirst : opening.isLast = false) (hroom : ∃ t, Store.put s.pending id m = .ok t)
    (hbetween : ∀ f ∈ between, f.goesOn id = true) (hlast : last.endsMessage id = true)
    (hsize : (Frame.allBytesFor id (between ++ [last])).size ≤ s.limit) :
    let s' := (s.feed (opening :: between)).1
    let headers := m.headers ++ Frame.allFieldsFor id (between ++ [last])
    let body := Frame.allBytesFor id (between ++ [last])
    Sink.ofEvents s.revision (s'.react last).2 =
        ⟨[.message ⟨m.start, m.protocol,
          (headers.erase HeaderName.contentLength).insert HeaderName.contentLength
            (toString body.size), body⟩], []⟩ ∧
      (s'.react last).1.pending? id = none := by
  obtain ⟨hnone, hevents, hbody⟩ :=
    react_last_of_opens hopens hfirst hroom hbetween hlast hsize
  refine ⟨?_, hnone⟩
  rw [Message.setContentLength_extend, ← Message.body_extend, hbody] at hevents
  exact congrArg (Sink.ofEvents s.revision) hevents

theorem emits_whole_message_of_each_kind :
    let s : Session TreeStore := ⟨⟨.three, 3, by decide⟩, ∅⟩
    let between (id : StreamId) :=
      [Frame.synReply (.ofNat 5) (Fields.replyBlock .three "404 Not Found") false,
        .data id ⟨#[104]⟩ false, .headers id ⟨[("X", "y"), ("content-length", "9")]⟩ false,
        .rstStream (.ofNat 5) .protocolError]
    let last (id : StreamId) := Frame.data id ⟨#[105, 33]⟩ true
    let emitted (opening : Frame) (id : StreamId) :=
      Sink.ofEvents .three ((s.feed (opening :: between id)).1.react (last id)).2
    emitted (.synReply (.ofNat 1) (Fields.replyBlock .three "200 OK") false) (.ofNat 1) =
        ⟨[.message ⟨.reply .ok, .http11,
          ⟨[("X-SPDY-Stream-ID", "1"), ("X", "y"), ("Content-Length", "3")]⟩,
          ⟨#[104, 105, 33]⟩⟩], []⟩ ∧
      emitted (.synStream (.ofNat 2) (.ofNat 1) 3 (Fields.pushBlock .three "200 OK" "/a") false)
          (.ofNat 2) =
        ⟨[.message ⟨.reply .ok, .http11,
          ⟨[(":path", "/a"), ("X-SPDY-Stream-ID", "2"), ("X-SPDY-Associated-To-Stream-ID", "1"),
            ("X-SPDY-Priority", "3"), ("X-SPDY-URL", "/a"), ("X", "y"), ("Content-Length", "3")]⟩,
          ⟨#[104, 105, 33]⟩⟩], []⟩ ∧
      emitted (.request (.ofNat 3) (Fields.requestBlock .three "GET" "/") false) (.ofNat 3) =
        ⟨[.message ⟨.request .get "/", .http11,
          ⟨[("Host", "example.com"), ("X-SPDY-Stream-ID", "3"), ("X", "y"),
            ("Content-Length", "3")]⟩, ⟨#[104, 105, 33]⟩⟩], []⟩ := by
  intro s between last emitted
  have hpieces : ∀ id ∈ [StreamId.ofNat 1, .ofNat 2, .ofNat 3],
      (∀ f ∈ between id, f.goesOn id = true) ∧ (last id).endsMessage id = true ∧
        (Frame.allBytesFor id (between id ++ [last id])).size ≤ 3 := by
    decide +kernel
  have hwhole {opening : Frame} {id : StreamId} {m : Message} (hopens : Opens .three opening id m)
      (hfirst : opening.isLast = false) (hid : id ∈ [StreamId.ofNat 1, .ofNat 2, .ofNat 3]) :=
    have ⟨hbetween, hlast, hsize⟩ := hpieces id hid
    (@emits_whole_message _ _ _ s _ _ _ _ _ hopens hfirst ⟨_, rfl⟩ hbetween hlast hsize).1
  have hreply : Message.ofReplyBlock .three (Fields.replyBlock .three "200 OK") =
      .ok ⟨.reply .ok, .http11, ∅, .empty⟩ := rfl
  have hpush : Message.ofReplyBlock .three (Fields.pushBlock .three "200 OK" "/a") =
      .ok ⟨.reply .ok, .http11, ⟨[(":path", "/a")]⟩, .empty⟩ := rfl
  have hrequest : Message.ofRequestBlock .three (Fields.requestBlock .three "GET" "/") =
      .ok ⟨.request .get "/", .http11, ⟨[("Host", "example.com")]⟩, .empty⟩ := rfl
  have hserver : (StreamId.ofNat 2).isServer = true := rfl
  have hclient : (StreamId.ofNat 3).isServer = false := rfl
  have htarget : StartField.target.get? .three (Fields.pushBlock .three "200 OK" "/a") =
      some "/a" := rfl
  refine ⟨?_, ?_, ?_⟩
  · exact (hwhole (.reply hreply) rfl (by simp)).trans (by decide +kernel)
  · exact (hwhole (.push hserver htarget hpush) rfl (by simp)).trans (by decide +kernel)
  · exact (hwhole (.request hclient hrequest) rfl (by simp)).trans (by decide +kernel)

end Session

end Demux

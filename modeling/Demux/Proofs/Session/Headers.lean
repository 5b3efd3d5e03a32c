import Demux.Proofs.Message.Headers
import Demux.Proofs.Session.Provenance

namespace Demux

universe u

open Text (sameName)

variable {v : Revision} {id : StreamId} {fs : List Frame} {f : Frame} {m : Message}

theorem Opens.fieldsFor_eq (h : Opens v f id m) : f.fieldsFor id = ∅ := by
  cases h with
  | request | push | reply => rfl

theorem Opens.allFieldsFor_cons (h : Opens v f id m) (later : List Frame) :
    Frame.allFieldsFor id (f :: later) = Frame.allFieldsFor id later := by
  have hcons : Frame.allFieldsFor id (f :: later) =
      f.fieldsFor id ++ Frame.allFieldsFor id later := rfl
  rw [hcons, h.fieldsFor_eq, Fields.empty_append]

/-- But for its length, a whole message has the values it was opened with, then the later ones. -/
theorem Whole.exists_first (h : Whole v id fs m) :
    ∃ f later m₀, fs = f :: later ∧ Opens v f id m₀ ∧ m.start = m₀.start ∧
      m.protocol = m₀.protocol ∧ ∀ n, sameName HeaderName.contentLength n = false →
        m.headers.getAll n = m₀.headers.getAll n ++ (Frame.allFieldsFor id later).getAll n := by
  cases h with
  | @answered f m₀ opens last =>
    refine ⟨f, [], m₀, rfl, opens, ?_⟩
    rcases f.sealed_eq m₀ with heq | heq
    · rw [heq]
      exact ⟨rfl, rfl, fun n _ => (List.append_nil _).symm⟩
    · rw [heq]
      refine ⟨rfl, rfl, fun n hn => ?_⟩
      rw [Message.getAll_setContentLength, hn]
      exact (List.append_nil _).symm
  | @ended _ _ whole part g _ grown =>
    obtain ⟨f, later, m₀, rfl, opens, -, rfl⟩ := part.exists_opening
    rw [Message.extend_extend] at grown
    subst grown
    refine ⟨f, later ++ [g], m₀, rfl, opens, rfl, rfl, fun n hn => ?_⟩
    rw [Frame.allFieldsFor_append, Frame.allFieldsFor_singleton, Message.getAll_setContentLength,
      hn]
    exact Fields.getAll_append _ _ n

theorem Whole.exists_opening (h : Whole v id fs m) :
    ∃ f ∈ fs, ∃ m₀, Opens v f id m₀ ∧ m.start = m₀.start ∧ m.protocol = m₀.protocol ∧
      ∀ n, sameName HeaderName.contentLength n = false →
        m.headers.getAll n = m₀.headers.getAll n ++ (Frame.allFieldsFor id fs).getAll n := by
  obtain ⟨f, later, m₀, rfl, opens, hstart, hprotocol, hvalues⟩ := h.exists_first
  refine ⟨f, List.mem_cons_self, m₀, opens, hstart, hprotocol, ?_⟩
  rw [opens.allFieldsFor_cons]
  exact hvalues

/-- A message gives the length of its body, unless it is a request that ends as it opens. -/
theorem Whole.getAll_contentLength (h : Whole v id fs m) :
    m.headers.getAll HeaderName.contentLength = [toString m.body.size] ∨
      ∃ associated priority block, fs = [.synStream id associated priority block true] ∧
        Opens v (.synStream id associated priority block true) id m ∧ m.isRequest = true ∧
        id.isServer = false ∧ m.body = .empty ∧
        m.headers.getAll HeaderName.contentLength = block.getAll HeaderName.contentLength := by
  cases h with
  | ended => exact .inl (Message.getAll_contentLength_setContentLength _ _)
  | @answered f m opens last =>
    have hbody := opens.body
    have hzero : (m.setContentLength 0).headers.getAll HeaderName.contentLength =
        [toString m.body.size] := by
      rw [Message.getAll_contentLength_setContentLength, hbody]
      rfl
    have hgiven := opens.getAll_contentLength
    cases opens with
    | @request _ associated priority block _ _ client read =>
      cases last
      have hsealed (m : Message) :
          (Frame.synStream id associated priority block true).sealed m = m := by
        rw [Frame.sealed, client]
        rfl
      rw [hsealed]
      have hrole := Message.isRequest_of_ofRequestBlock read
      exact .inr ⟨associated, priority, block, rfl, .request client read, hrole, client, hbody,
        hgiven⟩
    | @push _ associated priority block _ _ _ server =>
      cases last
      rw [Frame.sealed, server]
      exact .inl hzero
    | reply =>
      cases last
      exact .inl hzero

/-- Only `HEADERS` frames can end a connection, and only where it persists by default. -/
theorem Whole.keepsAlive_eq_false_iff (h : Whole v id fs m) :
    m.keepsAlive = false ↔ m.protocol.persistsByDefault = true ∧
      ∃ value, (Frame.allFieldsFor id fs).get? HeaderName.connection = some value ∧
        sameName value "close" = true := by
  obtain ⟨f, -, m₀, opens, -, hprotocol, hvalues⟩ := h.exists_opening
  have hconnection := hvalues HeaderName.connection (by decide +kernel)
  rw [opens.translates.getAll_connection, ← hprotocol] at hconnection
  have hget : m.headers.get? HeaderName.connection =
      if m.protocol.persistsByDefault then (Frame.allFieldsFor id fs).get? HeaderName.connection
      else some "keep-alive" := by
    rw [Fields.get?_eq_head?, hconnection, Fields.get?_eq_head?]
    cases m.protocol.persistsByDefault <;> rfl
  rw [Message.keepsAlive_eq_false_iff, hget]
  cases m.protocol.persistsByDefault with
  | true => simp
  | false =>
    have hclose : sameName "keep-alive" "close" = false := by decide +kernel
    simp [hclose]

namespace Session

variable {τ : Type u} [Store τ] [LawfulStore τ]

/-- An emitted message gives its true length, unless it is a request that ends as it opens. -/
theorem contentLength_of_emitted {s : Session τ} (hs : Store.isEmpty s.pending = true)
    (cs : List Call) :
    ∀ m ∈ (Sink.ofEvents s.revision (s.calls cs).2).messages,
      m.headers.getAll HeaderName.contentLength = [toString m.body.size] ∨
        ∃ id associated priority block,
          .frame (.synStream id associated priority block true) ∈ cs ∧
            Opens s.revision (.synStream id associated priority block true) id m ∧
            m.isRequest = true ∧ id.isServer = false ∧ m.body = .empty ∧
            m.headers.getAll HeaderName.contentLength =
              block.getAll HeaderName.contentLength := by
  intro m hm
  obtain ⟨id, he⟩ := Sink.mem_messages_ofEvents.1 hm
  obtain ⟨before, fs, after, rfl, hwhole⟩ := whole_of_emitted hs he
  obtain htrue | ⟨associated, priority, block, rfl, hrequest⟩ := hwhole.getAll_contentLength
  · exact .inl htrue
  · exact .inr ⟨id, associated, priority, block, by simp, hrequest⟩

theorem contentLength_of_emitted_reply :
    let id := StreamId.ofNat 1
    let s : Session TreeStore := ⟨⟨.three, 2, by decide⟩, ∅⟩
    let block := (Fields.replyBlock .three "200 OK").insert "content-length" "9"
    let cs := [Frame.synReply id block false, .headers id ⟨[("Content-Length", "5")]⟩ false,
      .data id ⟨#[104, 105]⟩ true].map Call.frame
    Store.isEmpty s.pending = true ∧
      ∃ m ∈ (Sink.ofEvents s.revision (s.calls cs).2).messages, m.body = ⟨#[104, 105]⟩ ∧
        m.headers.getAll HeaderName.contentLength = ["2"] := by
  intro id s block cs
  let m : Message := ⟨.reply .ok, .http11, ⟨[("X-SPDY-Stream-ID", "1"), ("Content-Length", "2")]⟩,
    ⟨#[104, 105]⟩⟩
  have hs : Store.isEmpty s.pending = true := by decide +kernel
  have hm : m ∈ (Sink.ofEvents s.revision (s.calls cs).2).messages := by decide +kernel
  obtain htrue | ⟨_, _, _, _, hmem, -⟩ := contentLength_of_emitted hs cs m hm
  · exact ⟨hs, m, hm, rfl, htrue.trans (by decide +kernel)⟩
  · simp [cs] at hmem

theorem request_emitted_with_false_length :
    let s : Session TreeStore := ⟨⟨.three, 16, by decide⟩, ∅⟩
    let block := (Fields.requestBlock .three "GET" "/").insert "content-length" "7"
    let cs := [Call.frame (.request (.ofNat 1) block true)]
    Store.isEmpty s.pending = true ∧
      ∃ m ∈ (Sink.ofEvents s.revision (s.calls cs).2).messages,
        m.headers.getAll HeaderName.contentLength = ["7"] ∧ m.body.size = 0 := by
  decide +kernel

/-- What is taken out of an opening frame is in a message only if `HEADERS` frames bring it. -/
theorem stripped_of_emitted {s : Session τ} (hs : Store.isEmpty s.pending = true)
    (cs : List Call) :
    ∀ m ∈ (Sink.ofEvents s.revision (s.calls cs).2).messages,
      ∃ id before fs after, cs = before ++ fs.map .frame ++ after ∧ Whole s.revision id fs m ∧
        (∀ n ∈ HeaderName.stripped s.revision m.isRequest,
          m.headers.getAll n = (Frame.allFieldsFor id fs).getAll n) ∧
        (m.keepsAlive = false ↔ m.protocol.persistsByDefault = true ∧
          ∃ value, (Frame.allFieldsFor id fs).get? HeaderName.connection = some value ∧
            sameName value "close" = true) := by
  intro m hm
  obtain ⟨id, he⟩ := Sink.mem_messages_ofEvents.1 hm
  obtain ⟨before, fs, after, rfl, hwhole⟩ := whole_of_emitted hs he
  refine ⟨id, before, fs, after, rfl, hwhole, ?_, hwhole.keepsAlive_eq_false_iff⟩
  obtain ⟨f, -, m₀, opens, hstart, -, hvalues⟩ := hwhole.exists_opening
  have hrole : m.isRequest = m₀.isRequest := by
    rw [Message.isRequest, hstart]
    rfl
  intro n hn
  rw [hvalues n (HeaderName.not_written_of_mem_stripped hn).1]
  rw [hrole] at hn
  rw [opens.translates.getAll_of_mem_stripped hn, List.nil_append]

theorem stripped_of_emitted_reply :
    let id := StreamId.ofNat 1
    let s : Session TreeStore := ⟨⟨.two, 16, by decide⟩, ∅⟩
    let block := Fields.replyBlock .two "200 OK" ++
      ⟨[("Transfer-Encoding", "chunked"), ("trailer", "X"), ("Connection", "close")]⟩
    let cs := [Frame.synReply id block false, .headers id ⟨[("Trailer", "Y")]⟩ true].map Call.frame
    Store.isEmpty s.pending = true ∧
      ∃ m ∈ (Sink.ofEvents s.revision (s.calls cs).2).messages,
        m.headers.getAll HeaderName.trailer = ["Y"] ∧
        ∃ id before fs after, cs = before ++ fs.map .frame ++ after ∧ Whole s.revision id fs m ∧
          (Frame.allFieldsFor id fs).getAll HeaderName.transferEncoding = [] ∧
          (Frame.allFieldsFor id fs).getAll HeaderName.trailer = ["Y"] ∧
          ¬ ∃ value, (Frame.allFieldsFor id fs).get? HeaderName.connection = some value ∧
            sameName value "close" = true := by
  intro id s block cs
  let m : Message := ⟨.reply .ok, .http11,
    ⟨[("X-SPDY-Stream-ID", "1"), ("Trailer", "Y"), ("Content-Length", "0")]⟩, .empty⟩
  have hs : Store.isEmpty s.pending = true := by decide +kernel
  have hm : m ∈ (Sink.ofEvents s.revision (s.calls cs).2).messages := by decide +kernel
  obtain ⟨id, before, fs, after, hcs, hwhole, hvalues, hkeeps⟩ := stripped_of_emitted hs cs m hm
  have hencoding := hvalues HeaderName.transferEncoding (by decide +kernel)
  have htrailer := hvalues HeaderName.trailer (by decide +kernel)
  have hnone : m.headers.getAll HeaderName.transferEncoding = [] := by decide +kernel
  have hlate : m.headers.getAll HeaderName.trailer = ["Y"] := by decide +kernel
  have hkept : m.keepsAlive ≠ false := by decide +kernel
  have hpersists : m.protocol.persistsByDefault = true := by decide +kernel
  refine ⟨hs, m, hm, hlate, id, before, fs, after, hcs, hwhole, hencoding.symm.trans hnone,
    htrailer.symm.trans hlate, ?_⟩
  intro hclose
  exact hkept (hkeeps.2 ⟨hpersists, hclose⟩)

theorem reply_emitted_with_late_headers :
    let id := StreamId.ofNat 1
    let s : Session TreeStore := ⟨⟨.three, 16, by decide⟩, ∅⟩
    let late : Fields := ⟨[("transfer-encoding", "chunked"), ("Trailer", "Expires"),
      ("connection", "close"), (":status", "500")]⟩
    let cs := [Frame.synReply id (Fields.replyBlock .three "200 OK") false,
      .headers id late true].map Call.frame
    Store.isEmpty s.pending = true ∧
      ∃ m ∈ (Sink.ofEvents s.revision (s.calls cs).2).messages,
        m.isRequest = false ∧ m.headers.contains HeaderName.transferEncoding = true ∧
          m.headers.contains HeaderName.trailer = true ∧
          m.headers.contains (StartField.status.name .three) = true ∧ m.keepsAlive = false := by
  decide +kernel

end Session

end Demux

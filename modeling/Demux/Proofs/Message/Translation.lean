import Demux.Frame.Block
import Demux.Proofs.Message.Fault
import Demux.Proofs.Message.Headers

namespace Demux

open Text (sameName)

namespace Message

variable {v : Revision} {block : Fields}

/-- The header that keeps the connection of a message open, where its protocol needs one. -/
def persistHeader (protocol : Protocol) : Fields :=
  if protocol = .http10 then ⟨[(HeaderName.connection, "keep-alive")]⟩ else ∅

/-- The header that the host of a request is moved to, where the revision has a field for it. -/
def hostHeader (v : Revision) (block : Fields) : Fields :=
  if v.hasColonNames then
    ⟨(StartField.host.get? v block).toList.map fun host => (HeaderName.host, host)⟩
  else ∅

/-- `IsRequestOf v block m`: the start fields are the start line of `m`, the rest its headers. -/
def IsRequestOf (v : Revision) (block : Fields) (m : Message) : Prop :=
  ∃ method target protocol,
    (StartField.method.get? v block).map Method.parse = some (.ok method) ∧
    StartField.target.get? v block = some target ∧
    (StartField.protocol.get? v block).map Protocol.parse = some (.ok protocol) ∧
    m = ⟨.request method target, protocol, hostHeader v block ++
      block.without (HeaderName.connection :: HeaderName.stripped v true) ++ persistHeader protocol,
      .empty⟩

def IsReplyOf (v : Revision) (block : Fields) (m : Message) : Prop :=
  ∃ status protocol,
    (StartField.status.get? v block).map Status.parse = some (.ok status) ∧
    (StartField.protocol.get? v block).map Protocol.parse = some (.ok protocol) ∧
    m = ⟨.reply status, protocol,
      block.without (HeaderName.connection :: HeaderName.stripped v false) ++
        persistHeader protocol, .empty⟩

theorem setKeepAlive_true (m : Message) :
    m.setKeepAlive true = m.mapHeaders fun headers =>
      headers.without [HeaderName.connection] ++ persistHeader m.protocol := by
  rw [setKeepAlive, persistHeader]
  cases h : m.protocol.persistsByDefault with
  | true =>
    have hne : m.protocol ≠ .http10 := by
      intro heq
      rw [Protocol.persistsByDefault_eq_false_iff.2 heq] at h
      cases h
    simp only [if_pos, if_neg hne, Fields.append_empty, Fields.erase_eq_without]
  | false =>
    rw [if_neg (by decide), if_pos (Protocol.persistsByDefault_eq_false_iff.1 h)]
    simp only [← Fields.erase_eq_without]
    rfl

theorem targetOf_eq_ok {target : String} :
    targetOf v block = .ok target ↔
      StartField.target.get? v block = some target ∧ Text.isToken target.toList = true := by
  refine Iff.trans StartField.require_bind_eq_ok ?_
  constructor
  · rintro ⟨value, hvalue, hread⟩
    split at hread
    · next htoken =>
      cases hread
      exact ⟨hvalue, htoken⟩
    · cases hread
  · rintro ⟨hvalue, htoken⟩
    refine ⟨target, hvalue, ?_⟩
    rw [if_pos htoken]
    rfl

theorem hostOf_three_eq_ok {headers : Fields} :
    hostOf .three block = .ok headers ↔
      ∃ host, StartField.host.get? .three block = some host ∧
        headers = ⟨[(HeaderName.host, host)]⟩ := by
  refine Iff.trans StartField.require_bind_eq_ok ?_
  constructor
  · rintro ⟨host, hhost, hread⟩
    exact ⟨host, hhost, (Except.ok.inj hread).symm⟩
  · rintro ⟨host, hhost, rfl⟩
    exact ⟨host, hhost, rfl⟩

theorem hostHeader_of_hostOf {headers : Fields} (h : hostOf v block = .ok headers) :
    headers = hostHeader v block := by
  cases v with
  | two =>
    cases h
    rfl
  | three =>
    obtain ⟨host, hhost, rfl⟩ := hostOf_three_eq_ok.1 h
    show _ = Fields.mk _
    rw [hhost]
    rfl

theorem persistHeader_without {protocol : Protocol} {names : List String}
    (h : (names.any fun n => sameName HeaderName.connection n) = false) :
    (persistHeader protocol).without names = persistHeader protocol := by
  apply Fields.without_eq_self
  intro p hp
  rw [persistHeader] at hp
  split at hp
  · cases List.mem_singleton.1 hp
    exact h
  · cases hp

theorem hostHeader_without {names : List String}
    (h : (names.any fun n => sameName HeaderName.host n) = false) :
    (hostHeader v block).without names = hostHeader v block := by
  apply Fields.without_eq_self
  intro p hp
  rw [hostHeader] at hp
  split at hp
  · obtain ⟨value, -, rfl⟩ := List.mem_map.1 hp
    exact h
  · cases hp

/-- The edits of a translation come to one filter over the block. -/
theorem headers_of_edits (front : Fields) (fields : List StartField) (protocol : Protocol)
    {names : List String} (hfront : front.without (HeaderName.connection :: names) = front)
    (hnames : (names.any fun n => sameName HeaderName.connection n) = false) :
    ((front ++ StartField.strip v fields block).without [HeaderName.connection] ++
        persistHeader protocol).without names =
      front ++ block.without (HeaderName.connection :: (names ++ fields.map (StartField.name v))) ++
        persistHeader protocol := by
  have hstrip : (StartField.strip v fields block).without (HeaderName.connection :: names) =
      block.without (HeaderName.connection :: (names ++ fields.map (StartField.name v))) := by
    rw [StartField.strip_eq_without, Fields.without_without, Fields.without_append_comm]
    rfl
  have hconnection : [HeaderName.connection] ++ names = HeaderName.connection :: names := rfl
  rw [Fields.without_append, Fields.without_without, hconnection, Fields.without_append, hfront,
    hstrip, persistHeader_without hnames]

theorem isRequestOf_of_ofRequestBlock {m : Message} (h : ofRequestBlock v block = .ok m) :
    IsRequestOf v block m := by
  obtain ⟨method, target, protocol, scheme, host, hmethod, htarget, hprotocol, -, hhost, rfl⟩ :=
    ofRequestBlock_eq_ok.1 h
  have hheaders : ((host ++ StartField.strip v (StartField.ofRequest v) block).without
        [HeaderName.connection] ++ persistHeader protocol).erase HeaderName.transferEncoding =
      hostHeader v block ++ block.without (HeaderName.connection :: HeaderName.stripped v true) ++
        persistHeader protocol := by
    rw [hostHeader_of_hostOf hhost, Fields.erase_eq_without]
    exact headers_of_edits _ _ protocol (hostHeader_without rfl) rfl
  refine ⟨method, target, protocol,
    Option.map_eq_some_iff.2 (StartField.require_bind_eq_ok.1 hmethod),
    (targetOf_eq_ok.1 htarget).1,
    Option.map_eq_some_iff.2 (StartField.require_bind_eq_ok.1 hprotocol), ?_⟩
  rw [setKeepAlive_true]
  exact congrArg (Message.mk (.request method target) protocol · .empty) hheaders

theorem isReplyOf_of_ofReplyBlock {m : Message} (h : ofReplyBlock v block = .ok m) :
    IsReplyOf v block m := by
  obtain ⟨status, protocol, hstatus, hprotocol, rfl⟩ := ofReplyBlock_eq_ok.1 h
  have hheaders : (((StartField.strip v StartField.ofReply block).without
        [HeaderName.connection] ++ persistHeader protocol).erase
          HeaderName.transferEncoding).erase HeaderName.trailer =
      block.without (HeaderName.connection :: HeaderName.stripped v false) ++
        persistHeader protocol := by
    rw [Fields.erase_eq_without, Fields.erase_eq_without, Fields.without_without,
      ← Fields.empty_append (StartField.strip v StartField.ofReply block)]
    exact headers_of_edits ∅ _ protocol rfl rfl
  refine ⟨status, protocol, Option.map_eq_some_iff.2 (StartField.require_bind_eq_ok.1 hstatus),
    Option.map_eq_some_iff.2 (StartField.require_bind_eq_ok.1 hprotocol), ?_⟩
  rw [setKeepAlive_true]
  exact congrArg (Message.mk (.reply status) protocol · .empty) hheaders

theorem IsRequestOf.unique {m m' : Message} (h : IsRequestOf v block m)
    (h' : IsRequestOf v block m') : m = m' := by
  obtain ⟨method, target, protocol, hmethod, htarget, hprotocol, rfl⟩ := h
  obtain ⟨method', target', protocol', hmethod', htarget', hprotocol', rfl⟩ := h'
  cases hmethod.symm.trans hmethod'
  cases htarget.symm.trans htarget'
  cases hprotocol.symm.trans hprotocol'
  rfl

theorem IsReplyOf.unique {m m' : Message} (h : IsReplyOf v block m) (h' : IsReplyOf v block m') :
    m = m' := by
  obtain ⟨status, protocol, hstatus, hprotocol, rfl⟩ := h
  obtain ⟨status', protocol', hstatus', hprotocol', rfl⟩ := h'
  cases hstatus.symm.trans hstatus'
  cases hprotocol.symm.trans hprotocol'
  rfl

end Message

theorem Translates.keepsAlive {v : Revision} {block : Fields} {m : Message}
    (h : Translates v block m) : m.keepsAlive = true := by
  have hkeep : sameName "keep-alive" "close" = false := rfl
  rw [Message.keepsAlive, Fields.get?_eq_head?, h.getAll_connection]
  cases hp : m.protocol.persistsByDefault with
  | true => rfl
  | false =>
    show (if sameName "keep-alive" "close" = true then false else _) = true
    rw [hkeep]
    rfl

namespace Message

variable {v : Revision} {block : Fields}

theorem getAll_startField_of_ofReplyBlock {m : Message} (h : ofReplyBlock v block = .ok m)
    {field : StartField} (hfield : field ∈ [StartField.target, .scheme, .host]) :
    m.headers.getAll (field.name v) = block.getAll (field.name v) := by
  have hfree : ∀ field ∈ [StartField.target, .scheme, .host],
      sameName HeaderName.connection (field.name v) = false ∧
        (HeaderName.stripped v false).any (sameName · (field.name v)) = false := by
    cases v <;> decide +kernel
  obtain ⟨hconnection, hstripped⟩ := hfree field hfield
  rw [getAll_of_ofReplyBlock h hconnection, isRequest_of_ofReplyBlock h, hstripped]
  rfl

/-- A request is what its block says, or else the fault of the first start field out of order. -/
theorem ofRequestBlock_exact (v : Revision) (block : Fields) :
    ((∃ m, ofRequestBlock v block = .ok m) ↔
      ∀ field ∈ StartField.ofRequest v, field.fault? v block = none) ∧
    (∀ fault, ofRequestBlock v block = .error fault ↔
      (StartField.ofRequest v).findSome? (StartField.fault? v block) = some fault) ∧
    ∀ m, ofRequestBlock v block = .ok m ↔
      (∀ field ∈ StartField.ofRequest v, field.fault? v block = none) ∧
        IsRequestOf v block m ∧ m.keepsAlive = true := by
  refine ⟨Fault.exists_ok_iff of?_ofRequestBlock, Fault.eq_error_iff of?_ofRequestBlock, ?_⟩
  apply Fault.eq_ok_iff of?_ofRequestBlock
  · intro m h
    exact ⟨isRequestOf_of_ofRequestBlock h, (Translates.of_ofRequestBlock h).keepsAlive⟩
  · intro m m' h h'
    exact h.1.unique h'.1

theorem ofRequestBlock_exact_of_both_revisions :
    let two : Fields := ⟨[("METHOD", " purge "), ("accept", "a"), ("url", "*"), ("method", ""),
      ("Version", "http/01.0"), ("scheme", ""), ("Accept", "b"), ("host", "h"),
      ("connection", "close"), ("Transfer-Encoding", "chunked")]⟩
    let three : Fields := ⟨[("X", "y"), (":METHOD", "GET"), (":path", "/"), ("url", "/b"),
      (":version", "HTTP/1.1"), (":scheme", ""), (":host", "example.com"), (":Host", "")]⟩
    ofRequestBlock .two two = .ok ⟨.request (.custom "purge") "*", .http10,
        ⟨[("accept", "a"), ("Accept", "b"), ("host", "h"), ("Connection", "keep-alive")]⟩, .empty⟩ ∧
      ofRequestBlock .three three = .ok ⟨.request .get "/", .http11,
        ⟨[("Host", "example.com"), ("X", "y"), ("url", "/b")]⟩, .empty⟩ ∧
      ofRequestBlock .two three = .error (.missing "method") ∧
      ofRequestBlock .three ⟨[(":method", "GET"), (":path", "/a b")]⟩ =
        .error (.target "/a b") := by
  intro two three
  refine ⟨((ofRequestBlock_exact .two two).2.2 _).2 ⟨?_, ?_, ?_⟩,
    ((ofRequestBlock_exact .three three).2.2 _).2 ⟨?_, ?_, ?_⟩,
    ((ofRequestBlock_exact _ _).2.1 _).2 ?_, ((ofRequestBlock_exact _ _).2.1 _).2 ?_⟩
  · decide +kernel
  · exact ⟨.custom "purge", "*", .http10, rfl, rfl, rfl, by decide +kernel⟩
  · decide +kernel
  · decide +kernel
  · exact ⟨.get, "/", .http11, rfl, rfl, rfl, by decide +kernel⟩
  · decide +kernel
  · decide +kernel
  · decide +kernel

/-- A reply is what its block says, or else the fault of its status or of its protocol. -/
theorem ofReplyBlock_exact (v : Revision) (block : Fields) :
    ((∃ m, ofReplyBlock v block = .ok m) ↔
      ∀ field ∈ StartField.ofReply, field.fault? v block = none) ∧
    (∀ fault, ofReplyBlock v block = .error fault ↔
      StartField.ofReply.findSome? (StartField.fault? v block) = some fault) ∧
    ∀ m, ofReplyBlock v block = .ok m ↔
      (∀ field ∈ StartField.ofReply, field.fault? v block = none) ∧
        IsReplyOf v block m ∧ m.keepsAlive = true ∧
        ∀ field ∈ [StartField.target, .scheme, .host],
          m.headers.getAll (field.name v) = block.getAll (field.name v) := by
  refine ⟨Fault.exists_ok_iff of?_ofReplyBlock, Fault.eq_error_iff of?_ofReplyBlock, ?_⟩
  apply Fault.eq_ok_iff of?_ofReplyBlock
  · intro m h
    refine ⟨isReplyOf_of_ofReplyBlock h, (Translates.of_ofReplyBlock h).keepsAlive, ?_⟩
    intro field hfield
    exact getAll_startField_of_ofReplyBlock h hfield
  · intro m m' h h'
    exact h.1.unique h'.1

theorem ofReplyBlock_exact_of_both_revisions :
    let two : Fields := ⟨[("STATUS", "404 Gone"), ("url", "/a"), ("trailer", "X"), ("x", "y"),
      ("Version", "HTTP/1.0"), ("connection", "close"), ("Transfer-Encoding", "chunked")]⟩
    let three : Fields := ⟨[("status", "500"), (":version", "HTTP/1.1"), (":Status", "200"),
      (":host", "example.com"), ("Trailer", "X"), ("x", "y")]⟩
    ofReplyBlock .two two = .ok ⟨.reply ⟨404, "Gone"⟩, .http10,
        ⟨[("url", "/a"), ("x", "y"), ("Connection", "keep-alive")]⟩, .empty⟩ ∧
      ofReplyBlock .three three = .ok ⟨.reply ⟨200, "OK"⟩, .http11,
        ⟨[("status", "500"), (":host", "example.com"), ("x", "y")]⟩, .empty⟩ ∧
      ofReplyBlock .two three = .error (.missing "version") ∧
      ofReplyBlock .two ⟨[("status", "20 OK")]⟩ = .error (.status "20 OK") := by
  intro two three
  refine ⟨((ofReplyBlock_exact .two two).2.2 _).2 ⟨?_, ?_, ?_⟩,
    ((ofReplyBlock_exact .three three).2.2 _).2 ⟨?_, ?_, ?_⟩,
    ((ofReplyBlock_exact _ _).2.1 _).2 ?_, ((ofReplyBlock_exact _ _).2.1 _).2 ?_⟩
  · decide +kernel
  · exact ⟨⟨404, "Gone"⟩, .http10, rfl, rfl, by decide +kernel⟩
  · decide +kernel
  · decide +kernel
  · exact ⟨⟨200, "OK"⟩, .http11, rfl, rfl, by decide +kernel⟩
  · decide +kernel
  · decide +kernel
  · decide +kernel

theorem getAll_host_persistHeader (protocol : Protocol) :
    (persistHeader protocol).getAll HeaderName.host = [] := by
  rw [persistHeader]
  split <;> rfl

/-- The host of a request comes ahead of the block's own `Host` values, which stay. -/
theorem getAll_host_of_ofRequestBlock {block : Fields} {m : Message}
    (h : ofRequestBlock .three block = .ok m) :
    ∃ host, StartField.host.get? .three block = some host ∧
      m.headers.getAll HeaderName.host = host :: block.getAll HeaderName.host ∧
      (m.headers.getAll HeaderName.host = [host] ↔ block.contains HeaderName.host = false) := by
  obtain ⟨-, -, -, -, headers, -, -, -, -, hheaders, -⟩ := ofRequestBlock_eq_ok.1 h
  obtain ⟨host, hhost, rfl⟩ := hostOf_three_eq_ok.1 hheaders
  obtain ⟨method, target, protocol, -, -, -, rfl⟩ := isRequestOf_of_ofRequestBlock h
  have hown : (⟨[(HeaderName.host, host)]⟩ : Fields).getAll HeaderName.host = [host] := by
    simp [Fields.getAll]
  have hfree : (HeaderName.connection :: HeaderName.stripped .three true).any
      (fun name => sameName name HeaderName.host) = false := by
    rfl
  have hvalues : (hostHeader .three block ++
      block.without (HeaderName.connection :: HeaderName.stripped .three true) ++
        persistHeader protocol).getAll HeaderName.host =
          host :: block.getAll HeaderName.host := by
    rw [← hostHeader_of_hostOf hheaders, Fields.getAll_append, Fields.getAll_append, hown,
      Fields.getAll_without, hfree, getAll_host_persistHeader, List.append_nil]
    rfl
  refine ⟨host, hhost, hvalues, ?_⟩
  rw [hvalues, List.cons_eq_cons, and_iff_right rfl, Bool.eq_false_iff, ne_eq, Fields.contains_iff,
    Decidable.not_not]

theorem getAll_host_of_doubled_host :
    let block : Fields := Fields.requestBlock .three "GET" "/" ++
      ⟨[(":HOST", "example.org"), ("Host", "example.net"), ("host", "example.com")]⟩
    ∃ m, ofRequestBlock .three block = .ok m ∧
      m.headers.getAll HeaderName.host = ["example.com", "example.net", "example.com"] := by
  intro block
  let m : Message := ⟨.request .get "/", .http11, ⟨[("Host", "example.com"),
    ("Host", "example.net"), ("host", "example.com")]⟩, .empty⟩
  have h : ofRequestBlock .three block = .ok m := rfl
  obtain ⟨host, hhost, hvalues, -⟩ := getAll_host_of_ofRequestBlock h
  cases hhost
  exact ⟨m, h, hvalues.trans rfl⟩

theorem two_hosts_in_request :
    let block := (Fields.requestBlock .three "GET" "/").insert "Host" "example.net"
    let m : Message := ⟨.request .get "/", .http11, ⟨[("Host", "example.com"),
      ("Host", "example.net")]⟩, .empty⟩
    ofRequestBlock .three block = .ok m ∧ StartField.host.get? .three block = some "example.com" ∧
      m.headers.getAll HeaderName.host = ["example.com", "example.net"] := by
  exact ⟨rfl, rfl, rfl⟩

end Message

end Demux

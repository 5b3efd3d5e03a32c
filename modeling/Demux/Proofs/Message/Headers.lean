import Demux.Proofs.Fields
import Demux.Proofs.Slot.Opening

namespace Demux

open Text (sameName)

namespace StartField

variable (v : Revision) (fields : List StartField) (block : Fields)

theorem strip_eq_without : strip v fields block = block.without (fields.map (name v)) := by
  induction fields generalizing block with
  | nil => exact block.without_nil.symm
  | cons field fields ih =>
    have hcons : strip v (field :: fields) block = strip v fields (field.erase v block) := rfl
    rw [hcons, ih, erase, Fields.erase_eq_without, Fields.without_without]
    rfl

theorem getAll_strip (n : String) :
    (strip v fields block).getAll n =
      if fields.any (fun field => sameName (field.name v) n) then [] else block.getAll n := by
  rw [strip_eq_without, Fields.getAll_without, List.any_map]
  rfl

end StartField

namespace Origin

def names : List String :=
  [streamIdName, associatedName, priorityName, urlName]

/-- The headers under all other names are as they were. -/
def Preserves (f : Fields → Fields) : Prop :=
  ∀ n headers, names.any (sameName · n) = false → (f headers).getAll n = headers.getAll n

theorem preserves_set {name : String} (hname : name ∈ names) (value : String) :
    Preserves (·.set name value) := by
  intro n headers hn
  have hne := List.any_eq_false.1 hn name hname
  rw [Fields.getAll_set, if_neg hne]

theorem preserves_setStreamId (id : StreamId) : Preserves (setStreamId id) :=
  preserves_set (by simp [names]) _

theorem Preserves.comp {f g : Fields → Fields} (hg : Preserves g) (hf : Preserves f) :
    Preserves (g ∘ f) :=
  fun n headers hn => (hg n (f headers) hn).trans (hf n headers hn)

theorem preserves_pushHeaders (id associated : StreamId) (priority : UInt8) (url : String) :
    Preserves (Opening.pushHeaders id associated priority url) := by
  have hassociated : Preserves (setAssociated associated) := preserves_set (by simp [names]) _
  have hpriority : Preserves (setPriority priority) := preserves_set (by simp [names]) _
  have hurl : Preserves (setUrl url) := preserves_set (by simp [names]) _
  exact hurl.comp (hpriority.comp (hassociated.comp (preserves_setStreamId id)))

end Origin

namespace HeaderName

/-- The names that are taken out of the header block of a request, or else of a reply. -/
def stripped (v : Revision) (request : Bool) : List String :=
  transferEncoding ::
    if request then (StartField.ofRequest v).map (StartField.name v)
    else trailer :: StartField.ofReply.map (StartField.name v)

/-- The names of the headers that a session writes itself when a stream is opened. -/
def written : List String :=
  host :: connection :: Origin.names

theorem stripped_true (v : Revision) :
    stripped v true = transferEncoding :: (StartField.ofRequest v).map (StartField.name v) := rfl

theorem stripped_false (v : Revision) :
    stripped v false =
      transferEncoding :: trailer :: StartField.ofReply.map (StartField.name v) := rfl

theorem not_written_of_mem_stripped {v : Revision} {request : Bool} {n : String}
    (h : n ∈ stripped v request) :
    sameName contentLength n = false ∧ written.any (sameName · n) = false := by
  have hall : ∀ n ∈ stripped v request,
      sameName contentLength n = false ∧ written.any (sameName · n) = false := by
    cases v <;> cases request <;> decide +kernel
  exact hall n h

theorem contentLength_not_stripped (v : Revision) (request : Bool) :
    (stripped v request).any (sameName · contentLength) = false := by
  cases v <;> cases request <;> decide +kernel

end HeaderName

namespace Message

theorem getAll_setContentLength (m : Message) (k : Nat) (n : String) :
    (m.setContentLength k).headers.getAll n =
      if sameName HeaderName.contentLength n then [toString k] else m.headers.getAll n :=
  Fields.getAll_set _ _ _ _

theorem getAll_contentLength_setContentLength (m : Message) (k : Nat) :
    (m.setContentLength k).headers.getAll HeaderName.contentLength = [toString k] := by
  rw [getAll_setContentLength, Text.sameName_self, if_pos rfl]

theorem keepsAlive_eq_false_iff (m : Message) :
    m.keepsAlive = false ↔
      (∃ value, m.headers.get? HeaderName.connection = some value ∧
        sameName value "close" = true) ∨
      m.protocol.persistsByDefault = false ∧
        ∀ value, m.headers.get? HeaderName.connection = some value →
          sameName value "keep-alive" = false := by
  rw [keepsAlive]
  cases m.headers.get? HeaderName.connection with
  | none => simp
  | some value =>
    cases hclose : sameName value "close" <;> cases hkeep : sameName value "keep-alive" <;>
      simp [hclose, hkeep]

theorem getAll_setKeepAlive (m : Message) (n : String) :
    (m.setKeepAlive true).headers.getAll n =
      if sameName HeaderName.connection n then
        if m.protocol.persistsByDefault then [] else ["keep-alive"]
      else m.headers.getAll n := by
  rw [headers_setKeepAlive]
  cases m.protocol.persistsByDefault with
  | true => exact Fields.getAll_erase _ _ _
  | false => exact Fields.getAll_set _ _ _ _

theorem getAll_hostOf {v : Revision} {block host : Fields} (h : hostOf v block = .ok host)
    {n : String} (hn : sameName HeaderName.host n = false) : host.getAll n = [] := by
  cases v with
  | two =>
    cases h
    rfl
  | three =>
    simp only [hostOf, bind, Except.bind] at h
    split at h
    · cases h
    · cases h
      simp [Fields.getAll, hn]

theorem getAll_of_ofRequestBlock {v : Revision} {block : Fields} {m : Message}
    (h : ofRequestBlock v block = .ok m) {n : String}
    (hhost : sameName HeaderName.host n = false)
    (hconnection : sameName HeaderName.connection n = false) :
    m.headers.getAll n =
      if (HeaderName.stripped v m.isRequest).any (sameName · n) then [] else block.getAll n := by
  have hrole := isRequest_of_ofRequestBlock h
  obtain ⟨method, target, protocol, scheme, host, -, -, -, -, hh, rfl⟩ :=
    ofRequestBlock_eq_ok.1 h
  rw [hrole, headers_mapHeaders, Fields.getAll_erase, getAll_setKeepAlive, hconnection,
    Fields.getAll_append, getAll_hostOf hh hhost, StartField.getAll_strip,
    HeaderName.stripped_true, List.any_cons, List.any_map]
  cases sameName HeaderName.transferEncoding n <;> rfl

theorem getAll_of_ofReplyBlock {v : Revision} {block : Fields} {m : Message}
    (h : ofReplyBlock v block = .ok m) {n : String}
    (hconnection : sameName HeaderName.connection n = false) :
    m.headers.getAll n =
      if (HeaderName.stripped v m.isRequest).any (sameName · n) then [] else block.getAll n := by
  have hrole := isRequest_of_ofReplyBlock h
  obtain ⟨status, protocol, -, -, rfl⟩ := ofReplyBlock_eq_ok.1 h
  rw [hrole, headers_mapHeaders, Fields.getAll_erase, Fields.getAll_erase, getAll_setKeepAlive,
    hconnection, StartField.getAll_strip, HeaderName.stripped_false, List.any_cons, List.any_cons,
    List.any_map]
  cases sameName HeaderName.transferEncoding n with
  | true => simp
  | false => cases sameName HeaderName.trailer n <;> rfl

end Message

/-- `Translates v block m`: `m` has the block's headers, save what a session takes or writes. -/
structure Translates (v : Revision) (block : Fields) (m : Message) : Prop where
  getAll_headers {n : String} (hn : HeaderName.written.any (sameName · n) = false) :
    m.headers.getAll n =
      if (HeaderName.stripped v m.isRequest).any (sameName · n) then [] else block.getAll n
  getAll_connection : m.headers.getAll HeaderName.connection =
    if m.protocol.persistsByDefault then [] else ["keep-alive"]

namespace Translates

variable {v : Revision} {block : Fields} {m : Message}

theorem of_ofRequestBlock (h : Message.ofRequestBlock v block = .ok m) : Translates v block m where
  getAll_headers {n} hn := by
    simp only [HeaderName.written, List.any_cons, Bool.or_eq_false_iff] at hn
    obtain ⟨hhost, hconnection, -⟩ := hn
    exact Message.getAll_of_ofRequestBlock h hhost hconnection
  getAll_connection := by
    have hne : sameName HeaderName.transferEncoding HeaderName.connection = false := by
      decide +kernel
    obtain ⟨method, target, protocol, scheme, host, -, -, -, -, -, rfl⟩ :=
      Message.ofRequestBlock_eq_ok.1 h
    simp [Fields.getAll_erase, Message.getAll_setKeepAlive, hne]

theorem of_ofReplyBlock (h : Message.ofReplyBlock v block = .ok m) : Translates v block m where
  getAll_headers {n} hn := by
    simp only [HeaderName.written, List.any_cons, Bool.or_eq_false_iff] at hn
    obtain ⟨-, hconnection, -⟩ := hn
    exact Message.getAll_of_ofReplyBlock h hconnection
  getAll_connection := by
    have hne : ∀ n ∈ [HeaderName.transferEncoding, HeaderName.trailer],
        sameName n HeaderName.connection = false := by
      decide +kernel
    obtain ⟨status, protocol, -, -, rfl⟩ := Message.ofReplyBlock_eq_ok.1 h
    simp [Fields.getAll_erase, Message.getAll_setKeepAlive, hne]

theorem mapHeaders (h : Translates v block m) {f : Fields → Fields} (hf : Origin.Preserves f) :
    Translates v block (m.mapHeaders f) where
  getAll_headers {n} hn := by
    have horigin : Origin.names.any (sameName · n) = false := by
      simp only [HeaderName.written, List.any_cons, Bool.or_eq_false_iff] at hn
      exact hn.2.2
    exact (hf n _ horigin).trans (h.getAll_headers hn)
  getAll_connection := by
    have horigin : Origin.names.any (sameName · HeaderName.connection) = false := by
      decide +kernel
    exact (hf _ _ horigin).trans h.getAll_connection

theorem getAll_of_mem_stripped (h : Translates v block m) {n : String}
    (hn : n ∈ HeaderName.stripped v m.isRequest) : m.headers.getAll n = [] := by
  rw [h.getAll_headers (HeaderName.not_written_of_mem_stripped hn).2, if_pos]
  exact List.any_eq_true.2 ⟨n, hn, Text.sameName_self n⟩

end Translates

/-- The header block that a frame carries. -/
def Frame.block : Frame → Fields
  | synStream _ _ _ block _ | synReply _ block _ | headers _ block _ => block
  | _ => ∅

theorem Opens.translates {v : Revision} {f : Frame} {id : StreamId} {m : Message}
    (h : Opens v f id m) : Translates v f.block m := by
  cases h with
  | request _ read =>
    exact (Translates.of_ofRequestBlock read).mapHeaders (Origin.preserves_setStreamId id)
  | push _ _ read =>
    exact (Translates.of_ofReplyBlock read).mapHeaders (Origin.preserves_pushHeaders _ _ _ _)
  | reply read =>
    exact (Translates.of_ofReplyBlock read).mapHeaders (Origin.preserves_setStreamId id)

theorem Opens.getAll_contentLength {v : Revision} {f : Frame} {id : StreamId} {m : Message}
    (h : Opens v f id m) :
    m.headers.getAll HeaderName.contentLength = f.block.getAll HeaderName.contentLength := by
  rw [h.translates.getAll_headers (by decide +kernel), HeaderName.contentLength_not_stripped]
  rfl

end Demux

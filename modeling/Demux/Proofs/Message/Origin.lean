import Demux.Proofs.Message.Headers

namespace Demux

open Text (sameName)

namespace Origin

/-- The names of what is put on record of pushes alone. -/
def pushNames : List String :=
  [associatedName, priorityName, urlName]

variable {headers : Fields}

theorem readNumber?_of_get? {bound n : Nat} {name : String}
    (h : headers.get? name = some (toString n)) (hn : n ≤ bound) :
    readNumber? bound name headers = some n := by
  rw [readNumber?, h]
  exact Text.number?_toString hn

theorem streamId?_of_get? {id : StreamId} (h : headers.get? streamIdName = some (toString id)) :
    streamId? headers = some id := by
  have hid : id.number ≤ 0xffffffff := Nat.le_of_lt (Nat.lt_trans id.number_lt (by decide))
  rw [streamId?, readNumber?_of_get? h hid, Option.map_some, StreamId.ofNat_number]

theorem associated_of_get? {id : StreamId}
    (h : headers.get? associatedName = some (toString id)) : associated headers = id := by
  have hid : id.number ≤ 0xffffffff := Nat.le_of_lt (Nat.lt_trans id.number_lt (by decide))
  rw [associated, readNumber?_of_get? h hid, Option.map_some, StreamId.ofNat_number]
  rfl

theorem priority_of_get? {p : UInt8} (h : headers.get? priorityName = some (toString p.toNat)) :
    priority headers = p := by
  have hp : p.toNat ≤ 255 := Nat.le_of_lt_succ p.toNat_lt
  rw [priority, readNumber?_of_get? h hp, Option.map_some, UInt8.ofNat_toNat]
  rfl

section Congr

variable {headers' : Fields}

theorem streamId?_congr (h : headers.get? streamIdName = headers'.get? streamIdName) :
    streamId? headers = streamId? headers' := by
  rw [streamId?, streamId?, readNumber?, readNumber?, h]

theorem associated_congr (h : headers.get? associatedName = headers'.get? associatedName) :
    associated headers = associated headers' := by
  rw [associated, associated, readNumber?, readNumber?, h]

theorem priority_congr (h : headers.get? priorityName = headers'.get? priorityName) :
    priority headers = priority headers' := by
  rw [priority, priority, readNumber?, readNumber?, h]

theorem push_congr (h : ∀ n ∈ pushNames, headers.getAll n = headers'.getAll n) :
    associated headers = associated headers' ∧ priority headers = priority headers' ∧
      url? headers = url? headers' := by
  have hget : ∀ n ∈ pushNames, headers.get? n = headers'.get? n := by
    intro n hn
    rw [Fields.get?_eq_head?, Fields.get?_eq_head?, h n hn]
  exact ⟨associated_congr (hget associatedName (by simp [pushNames])),
    priority_congr (hget priorityName (by simp [pushNames])),
    hget urlName (by simp [pushNames])⟩

end Congr

theorem push_of_getAll_eq_nil (h : ∀ n ∈ pushNames, headers.getAll n = []) :
    associated headers = .zero ∧ priority headers = 0 ∧ url? headers = none :=
  @push_congr headers ∅ h

theorem getAll_setStreamId (id : StreamId) (headers : Fields) (n : String) :
    (setStreamId id headers).getAll n =
      if sameName streamIdName n then [toString id] else headers.getAll n :=
  Fields.getAll_set _ _ _ _

theorem getAll_pushHeaders (id associated : StreamId) (priority : UInt8) (url : String)
    (headers : Fields) :
    let recorded := Opening.pushHeaders id associated priority url headers
    recorded.getAll streamIdName = [toString id] ∧
      recorded.getAll associatedName = [toString associated] ∧
      recorded.getAll priorityName = [toString priority.toNat] ∧
      recorded.getAll urlName = [url] := by
  -- none of the four is written over by one that is set after it
  have hurl : sameName urlName streamIdName = false ∧ sameName urlName associatedName = false ∧
      sameName urlName priorityName = false := by
    decide +kernel
  have hpriority : sameName priorityName streamIdName = false ∧
      sameName priorityName associatedName = false := by
    decide +kernel
  have hassociated : sameName associatedName streamIdName = false := by decide +kernel
  simp [Opening.pushHeaders, setUrl, setPriority, setAssociated, setStreamId, Fields.getAll_set,
    hurl, hpriority, hassociated]

theorem free_of_mem_pushNames {n : String} (h : n ∈ pushNames) :
    sameName streamIdName n = false ∧ sameName HeaderName.host n = false ∧
      sameName HeaderName.connection n = false ∧
      sameName HeaderName.contentLength n = false ∧
      ∀ v request, (HeaderName.stripped v request).any (sameName · n) = false := by
  have hall : ∀ n ∈ pushNames,
      sameName streamIdName n = false ∧ sameName HeaderName.host n = false ∧
        sameName HeaderName.connection n = false ∧
        sameName HeaderName.contentLength n = false := by
    decide +kernel
  have hstripped (v : Revision) (request : Bool) :
      ∀ n ∈ pushNames, (HeaderName.stripped v request).any (sameName · n) = false := by
    cases v <;> cases request <;> decide +kernel
  obtain ⟨hid, hhost, hconnection, hlength⟩ := hall n h
  exact ⟨hid, hhost, hconnection, hlength, fun v request => hstripped v request n h⟩

end Origin

def Frame.isPush : Frame → Bool
  | synStream id .. => id.isServer
  | _ => false

variable {v : Revision} {f : Frame} {id : StreamId} {m : Message}

theorem Opens.getAll_streamIdName (h : Opens v f id m) :
    m.headers.getAll Origin.streamIdName = [toString id] := by
  cases h with
  | request | reply =>
    exact (Origin.getAll_setStreamId id _ _).trans (if_pos (Text.sameName_self _))
  | push => exact (Origin.getAll_pushHeaders _ _ _ _ _).1

theorem Opens.getAll_push {associated : StreamId} {priority : UInt8} {block : Fields} {last : Bool}
    {url : String} (h : Opens v (.synStream id associated priority block last) id m)
    (server : id.isServer = true) (target : StartField.target.get? v block = some url) :
    m.headers.getAll Origin.associatedName = [toString associated] ∧
      m.headers.getAll Origin.priorityName = [toString priority.toNat] ∧
      m.headers.getAll Origin.urlName = [url] := by
  cases h with
  | request client => cases client.symm.trans server
  | push _ target' =>
    cases target'.symm.trans target
    exact (Origin.getAll_pushHeaders _ _ _ _ _).2

/-- Of what is put on record of pushes, any other message has what its block has. -/
theorem Opens.getAll_of_not_isPush (h : Opens v f id m) (hf : f.isPush = false) {n : String}
    (hn : n ∈ Origin.pushNames) : m.headers.getAll n = f.block.getAll n := by
  obtain ⟨hid, hhost, hconnection, -, hstripped⟩ := Origin.free_of_mem_pushNames hn
  cases h with
  | request _ read =>
    refine (Origin.getAll_setStreamId id _ n).trans ?_
    rw [hid, Message.getAll_of_ofRequestBlock read hhost hconnection, hstripped]
    rfl
  | push server => cases hf.symm.trans server
  | reply read =>
    refine (Origin.getAll_setStreamId id _ n).trans ?_
    rw [hid, Message.getAll_of_ofReplyBlock read hconnection, hstripped]
    rfl

end Demux

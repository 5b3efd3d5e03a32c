import Demux.Proofs.Fields.Write
import Demux.Proofs.Message.Origin

namespace Demux.Origin

inductive Record where
  | streamId (id : StreamId)
  | associated (id : StreamId)
  | priority (priority : UInt8)
  | url (url : String)

namespace Record

def apply (headers : Fields) : Record → Fields
  | streamId id => setStreamId id headers
  | associated id => setAssociated id headers
  | priority p => setPriority p headers
  | url value => setUrl value headers

def name : Record → String
  | streamId _ => streamIdName
  | associated _ => associatedName
  | priority _ => priorityName
  | url _ => urlName

def value : Record → String
  | streamId id => toString id
  | associated id => toString id
  | priority p => toString p.toNat
  | url value => value

def streamId? : Record → Option StreamId
  | streamId id => some id
  | _ => none

def associated? : Record → Option StreamId
  | associated id => some id
  | _ => none

def priority? : Record → Option UInt8
  | priority p => some p
  | _ => none

def url? : Record → Option String
  | url value => some value
  | _ => none

def write (r : Record) : Fields.Write :=
  ⟨r.name, some r.value⟩

theorem apply_eq_write (headers : Fields) (r : Record) :
    r.apply headers = headers.write r.write := by
  cases r <;> rfl

theorem valuesUnder?_write (r : Record) {n : String} (hn : n ∈ names) :
    r.write.valuesUnder? n = if r.name = n then some [r.value] else none := by
  have hname : r.write.name ∈ names := by
    cases r <;> simp [write, name, names]
  have hapart : Fields.areApart names = true := rfl
  exact Fields.Write.valuesUnder?_of_areApart hapart hname hn

end Record

def setAll (headers : Fields) (rs : List Record) : Fields :=
  rs.foldl Record.apply headers

variable (headers : Fields) (rs : List Record)

theorem setAll_eq_writeAll : setAll headers rs = headers.writeAll (rs.map Record.write) := by
  rw [setAll, Fields.writeAll, List.foldl_map]
  congr
  funext h r
  exact r.apply_eq_write h

/-- The first value under a name is that of the last call of its setter. -/
theorem get?_setAll {α : Type} {n : String} (hn : n ∈ names) (arg? : Record → Option α)
    (value : α → String)
    (h : ∀ r : Record, (if r.name = n then some [r.value] else none) = (arg? r).map ([value ·])) :
    (setAll headers rs).get? n = ((rs.filterMap arg?).getLast?.map value).or (headers.get? n) := by
  have hcalls : ∀ r : Record, r.write.valuesUnder? n = (arg? r).map ([value ·]) := by
    intro r
    rw [r.valuesUnder?_write hn, h]
  rw [Fields.get?_eq_head?, setAll_eq_writeAll, Fields.getAll_writeAll_map headers hcalls,
    Fields.get?_eq_head?]
  cases (rs.filterMap arg?).getLast? <;> rfl

theorem streamId?_setAll :
    streamId? (setAll headers rs) =
      (rs.filterMap Record.streamId?).getLast?.or (streamId? headers) := by
  have hget := get?_setAll headers rs (n := streamIdName) (by simp [names]) Record.streamId?
    toString fun r => by cases r <;> rfl
  cases hlast : (rs.filterMap Record.streamId?).getLast? with
  | some id =>
    rw [hlast] at hget
    exact streamId?_of_get? hget
  | none =>
    rw [hlast] at hget
    exact streamId?_congr hget

theorem associated_setAll :
    associated (setAll headers rs) =
      (rs.filterMap Record.associated?).getLast?.getD (associated headers) := by
  have hget := get?_setAll headers rs (n := associatedName) (by simp [names]) Record.associated?
    toString fun r => by cases r <;> rfl
  cases hlast : (rs.filterMap Record.associated?).getLast? with
  | some id =>
    rw [hlast] at hget
    exact associated_of_get? hget
  | none =>
    rw [hlast] at hget
    exact associated_congr hget

theorem priority_setAll :
    priority (setAll headers rs) =
      (rs.filterMap Record.priority?).getLast?.getD (priority headers) := by
  have hget := get?_setAll headers rs (n := priorityName) (by simp [names]) Record.priority?
    (toString ·.toNat) fun r => by cases r <;> rfl
  cases hlast : (rs.filterMap Record.priority?).getLast? with
  | some p =>
    rw [hlast] at hget
    exact priority_of_get? hget
  | none =>
    rw [hlast] at hget
    exact priority_congr hget

theorem url?_setAll :
    url? (setAll headers rs) = (rs.filterMap Record.url?).getLast?.or (url? headers) := by
  have hget := get?_setAll headers rs (n := urlName) (by simp [names]) Record.url? id
    fun r => by cases r <;> rfl
  rw [Option.map_id] at hget
  exact hget

theorem length_getAll_setAll {r : Record} (hr : r ∈ rs) :
    ((setAll headers rs).getAll r.name).length = 1 := by
  have hwrite : r.write ∈ rs.map Record.write := List.mem_map_of_mem hr
  obtain ⟨w, hw, hvalues⟩ := Fields.exists_getAll_writeAll headers hwrite
  obtain ⟨s, -, rfl⟩ := List.mem_map.1 hw
  rw [setAll_eq_writeAll]
  exact congrArg List.length hvalues

theorem without_setAll :
    (setAll headers rs).without (rs.map Record.name) = headers.without (rs.map Record.name) := by
  have hnames : (rs.map Record.write).map Fields.Write.name = rs.map Record.name := List.map_map
  rw [setAll_eq_writeAll, ← hnames, Fields.without_writeAll_names]

/-- Each getter returns what the last call of its setter was given, and all other pairs stay. -/
theorem last_record_reads_back (headers : Fields) (rs : List Record) :
    streamId? (setAll headers rs) =
      (rs.filterMap Record.streamId?).getLast?.or (streamId? headers) ∧
    associated (setAll headers rs) =
      (rs.filterMap Record.associated?).getLast?.getD (associated headers) ∧
    priority (setAll headers rs) =
      (rs.filterMap Record.priority?).getLast?.getD (priority headers) ∧
    url? (setAll headers rs) = (rs.filterMap Record.url?).getLast?.or (url? headers) ∧
    (∀ r ∈ rs, ((setAll headers rs).getAll r.name).length = 1) ∧
    (setAll headers rs).without (rs.map Record.name) = headers.without (rs.map Record.name) :=
  ⟨streamId?_setAll headers rs, associated_setAll headers rs, priority_setAll headers rs,
    url?_setAll headers rs, fun _ => length_getAll_setAll headers rs, without_setAll headers rs⟩

theorem last_record_reads_back_spoofed :
    let headers : Fields := ⟨[("x-spdy-stream-id", "7"), ("Accept", "*"),
      ("X-SPDY-PRIORITY", "high"), ("X-SPDY-Stream-ID", "9"),
      ("X-SPDY-Associated-To-Stream-ID", " +2147483649 ")]⟩
    let rs : List Record := [.priority 3, .streamId ⟨5, by decide⟩, .url "", .priority 255]
    streamId? (setAll headers rs) = some ⟨5, by decide⟩ ∧
      associated (setAll headers rs) = ⟨1, by decide⟩ ∧ priority (setAll headers rs) = 255 ∧
      url? (setAll headers rs) = some "" ∧
      ((setAll headers rs).getAll "X-SPDY-Stream-ID").length = 1 ∧
      ((setAll headers rs).getAll "X-SPDY-Priority").length = 1 ∧
      ((setAll headers rs).getAll "X-SPDY-URL").length = 1 := by
  intro headers rs
  obtain ⟨hid, hassociated, hpriority, hurl, honce, -⟩ := last_record_reads_back headers rs
  have hold : associated headers = ⟨1, by decide⟩ := by decide +kernel
  exact ⟨hid, hassociated.trans hold, hpriority, hurl,
    honce (.streamId ⟨5, by decide⟩) (by simp [rs]), honce (.priority 3) (by simp [rs]),
    honce (.url "") (by simp [rs])⟩

end Demux.Origin

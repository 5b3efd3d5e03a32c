import Demux.Message.Basic
import Demux.Proofs.Fields.Write

namespace Demux.Message

open Text (sameName)

/-- A call of a setter. A length is one of 64 bits. -/
inductive Setter where
  | keepAlive (on : Bool)
  | contentLength (n : UInt64)
  | host (value : String)

namespace Setter

def apply (m : Message) : Setter → Message
  | keepAlive on => m.setKeepAlive on
  | contentLength n => m.setContentLength n.toNat
  | host value => m.setHost value

def name : Setter → String
  | keepAlive _ => HeaderName.connection
  | contentLength _ => HeaderName.contentLength
  | host _ => HeaderName.host

def names : List String :=
  [HeaderName.connection, HeaderName.contentLength, HeaderName.host]

def keepAlive? : Setter → Option Bool
  | keepAlive on => some on
  | _ => none

def contentLength? : Setter → Option UInt64
  | contentLength n => some n
  | _ => none

def host? : Setter → Option String
  | host value => some value
  | _ => none

def value? (p : Protocol) : Setter → Option String
  | keepAlive on =>
    if on = p.persistsByDefault then none else some (if on then "keep-alive" else "close")
  | contentLength n => some (toString n.toNat)
  | host value => some value

/-- What a call writes into the headers of a message that has protocol `p`. -/
def write (p : Protocol) (s : Setter) : Fields.Write :=
  ⟨s.name, s.value? p⟩

theorem apply_eq_mapHeaders (m : Message) (s : Setter) :
    s.apply m = m.mapHeaders (·.write (s.write m.protocol)) := by
  cases s with
  | keepAlive on =>
    have hvalue : (keepAlive on).value? m.protocol =
        if on = m.protocol.persistsByDefault then none
        else some (if on then "keep-alive" else "close") := rfl
    rw [apply, setKeepAlive, write, hvalue]
    by_cases hon : on = m.protocol.persistsByDefault
    · rw [if_pos hon, if_pos hon]
      rfl
    · rw [if_neg hon, if_neg hon]
      rfl
  | contentLength n => rfl
  | host value => rfl

variable (p : Protocol) (s : Setter)

theorem valuesUnder?_write {n : String} (hn : n ∈ names) :
    (s.write p).valuesUnder? n = if s.name = n then some (s.value? p).toList else none := by
  have hname : (s.write p).name ∈ names := by
    cases s <;> simp [write, name, names]
  have hapart : Fields.areApart names = true := rfl
  exact Fields.Write.valuesUnder?_of_areApart hapart hname hn

theorem valuesUnder?_connection :
    (s.write p).valuesUnder? HeaderName.connection =
      s.keepAlive?.map fun on => ((keepAlive on).value? p).toList := by
  rw [valuesUnder?_write _ _ (by simp [names])]
  cases s <;> rfl

theorem valuesUnder?_contentLength :
    (s.write p).valuesUnder? HeaderName.contentLength =
      s.contentLength?.map fun n => [toString n.toNat] := by
  rw [valuesUnder?_write _ _ (by simp [names])]
  cases s <;> rfl

theorem valuesUnder?_host :
    (s.write p).valuesUnder? HeaderName.host = s.host?.map fun value => [value] := by
  rw [valuesUnder?_write _ _ (by simp [names])]
  cases s <;> rfl

end Setter

def setAll (m : Message) (ss : List Setter) : Message :=
  ss.foldl Setter.apply m

variable (m : Message) (ss : List Setter)

theorem setAll_eq_mapHeaders :
    m.setAll ss = m.mapHeaders (·.writeAll (ss.map (Setter.write m.protocol))) := by
  induction ss generalizing m with
  | nil => rfl
  | cons s ss ih =>
    have hcons : m.setAll (s :: ss) = (s.apply m).setAll ss := rfl
    rw [hcons, ih, Setter.apply_eq_mapHeaders]
    rfl

theorem setAll_append (tt : List Setter) : m.setAll (ss ++ tt) = (m.setAll ss).setAll tt :=
  List.foldl_append

theorem getAll_setAll {α : Type} {n : String} {arg? : Setter → Option α} {values : α → List String}
    (h : ∀ s, (Setter.write m.protocol s).valuesUnder? n = (arg? s).map values) :
    (m.setAll ss).headers.getAll n =
      ((ss.filterMap arg?).getLast?.map values).getD (m.headers.getAll n) := by
  rw [setAll_eq_mapHeaders]
  exact Fields.getAll_writeAll_map _ h ss

theorem without_setAll :
    (m.setAll ss).headers.without (ss.map Setter.name) =
      m.headers.without (ss.map Setter.name) := by
  have hnames : (ss.map (Setter.write m.protocol)).map Fields.Write.name = ss.map Setter.name :=
    List.map_map
  rw [setAll_eq_mapHeaders, headers_mapHeaders, ← hnames, Fields.without_writeAll_names]

variable {m}

theorem keepsAlive_of_getAll {on : Bool}
    (h : m.headers.getAll HeaderName.connection =
      ((Setter.keepAlive on).value? m.protocol).toList) :
    m.keepsAlive = on := by
  rw [keepsAlive, Fields.get?_eq_head?, h, Setter.value?]
  by_cases hon : on = m.protocol.persistsByDefault
  · rw [if_pos hon]
    exact hon.symm
  · rw [if_neg hon]
    cases on <;> rfl

theorem keepsAlive_congr {m' : Message} (hprotocol : m.protocol = m'.protocol)
    (h : m.headers.getAll HeaderName.connection = m'.headers.getAll HeaderName.connection) :
    m.keepsAlive = m'.keepsAlive := by
  rw [keepsAlive, keepsAlive, Fields.get?_eq_head?, Fields.get?_eq_head?, h, hprotocol]

theorem contentLength?_of_getAll {n : UInt64}
    (h : m.headers.getAll HeaderName.contentLength = [toString n.toNat]) :
    m.contentLength? = some n.toNat := by
  have hn : n.toNat ≤ 0xffffffffffffffff := Nat.le_of_lt_succ n.toNat_lt
  rw [contentLength?, Fields.get?_eq_head?, h, List.head?_cons, Option.bind_some,
    Text.number?_toString hn]

theorem contentLength?_congr {m' : Message}
    (h : m.headers.getAll HeaderName.contentLength = m'.headers.getAll HeaderName.contentLength) :
    m.contentLength? = m'.contentLength? := by
  rw [contentLength?, contentLength?, Fields.get?_eq_head?, Fields.get?_eq_head?, h]

variable (m)

theorem protocol_setAll : (m.setAll ss).protocol = m.protocol := by
  rw [setAll_eq_mapHeaders, protocol_mapHeaders]

theorem connection_setAll :
    match (ss.filterMap Setter.keepAlive?).getLast? with
    | some on => (m.setAll ss).keepsAlive = on ∧
        ((m.setAll ss).headers.getAll HeaderName.connection).length ≤ 1
    | none => (m.setAll ss).keepsAlive = m.keepsAlive ∧
        (m.setAll ss).headers.getAll HeaderName.connection =
          m.headers.getAll HeaderName.connection := by
  have hvalues := m.getAll_setAll ss (Setter.valuesUnder?_connection m.protocol)
  cases hlast : (ss.filterMap Setter.keepAlive?).getLast? with
  | some on =>
    rw [hlast, Option.map_some, Option.getD_some, ← m.protocol_setAll ss] at hvalues
    refine ⟨keepsAlive_of_getAll hvalues, ?_⟩
    rw [hvalues]
    exact Option.length_toList_le
  | none =>
    rw [hlast] at hvalues
    exact ⟨keepsAlive_congr (m.protocol_setAll ss) hvalues, hvalues⟩

theorem contentLength_setAll :
    match (ss.filterMap Setter.contentLength?).getLast? with
    | some n => (m.setAll ss).contentLength? = some n.toNat ∧
        (m.setAll ss).headers.getAll HeaderName.contentLength = [toString n.toNat]
    | none => (m.setAll ss).contentLength? = m.contentLength? ∧
        (m.setAll ss).headers.getAll HeaderName.contentLength =
          m.headers.getAll HeaderName.contentLength := by
  have hvalues := m.getAll_setAll ss (Setter.valuesUnder?_contentLength m.protocol)
  cases hlast : (ss.filterMap Setter.contentLength?).getLast? with
  | some n =>
    rw [hlast] at hvalues
    exact ⟨contentLength?_of_getAll hvalues, hvalues⟩
  | none =>
    rw [hlast] at hvalues
    exact ⟨contentLength?_congr hvalues, hvalues⟩

theorem host_setAll :
    (m.setAll ss).headers.getAll HeaderName.host =
      match (ss.filterMap Setter.host?).getLast? with
      | some value => [value]
      | none => m.headers.getAll HeaderName.host := by
  rw [m.getAll_setAll ss (Setter.valuesUnder?_host m.protocol)]
  cases (ss.filterMap Setter.host?).getLast? <;> rfl

theorem setAll_concat_of_name {s : Setter} (h : ∀ t ∈ ss, t.name = s.name) :
    m.setAll (ss ++ [s]) = m.setAll [s] := by
  have hnames : ∀ w ∈ ss.map (Setter.write m.protocol),
      sameName w.name (s.write m.protocol).name = true := by
    intro w hw
    obtain ⟨t, ht, rfl⟩ := List.mem_map.1 hw
    exact Text.sameName_iff.2 (congrArg Text.fold (h t ht))
  rw [setAll_append, setAll_eq_mapHeaders m ss, setAll_eq_mapHeaders, setAll_eq_mapHeaders m [s]]
  exact congrArg (fun headers => { m with headers }) (Fields.write_writeAll_of_sameName hnames)

/-- Of each header a message has what the last call about it says, and nothing else is touched. -/
theorem last_call_wins (m : Message) (ss : List Setter) :
    (match (ss.filterMap Setter.keepAlive?).getLast? with
      | some on => (m.setAll ss).keepsAlive = on ∧
          ((m.setAll ss).headers.getAll HeaderName.connection).length ≤ 1
      | none => (m.setAll ss).keepsAlive = m.keepsAlive ∧
          (m.setAll ss).headers.getAll HeaderName.connection =
            m.headers.getAll HeaderName.connection) ∧
    (match (ss.filterMap Setter.contentLength?).getLast? with
      | some n => (m.setAll ss).contentLength? = some n.toNat ∧
          (m.setAll ss).headers.getAll HeaderName.contentLength = [toString n.toNat]
      | none => (m.setAll ss).contentLength? = m.contentLength? ∧
          (m.setAll ss).headers.getAll HeaderName.contentLength =
            m.headers.getAll HeaderName.contentLength) ∧
    ((m.setAll ss).headers.getAll HeaderName.host =
      match (ss.filterMap Setter.host?).getLast? with
      | some value => [value]
      | none => m.headers.getAll HeaderName.host) ∧
    (m.setAll ss).headers.without (ss.map Setter.name) =
      m.headers.without (ss.map Setter.name) ∧
    m.setAll ss = { m with headers := (m.setAll ss).headers } ∧
    ∀ repeated s, (∀ t ∈ repeated, t.name = s.name) →
      m.setAll (ss ++ (repeated ++ [s])) = m.setAll (ss ++ [s]) := by
  refine ⟨m.connection_setAll ss, m.contentLength_setAll ss, m.host_setAll ss, m.without_setAll ss,
    ?_, ?_⟩
  · rw [setAll_eq_mapHeaders]
    rfl
  · intro repeated s hrepeated
    rw [setAll_append, setAll_concat_of_name _ _ hrepeated, ← setAll_append]

theorem last_call_wins_greatest_length :
    let m : Message := ⟨.request .get "/", .http10, ⟨[("content-length", "5"), ("Accept", "*"),
      ("connection", "close"), ("CONTENT-LENGTH", "six"), ("Connection", "upgrade"),
      ("HOST", "a")]⟩, .empty⟩
    let ss : List Setter := [.host "b", .keepAlive true, .contentLength 18446744073709551615]
    m.setAll (ss ++ ([.keepAlive true, .keepAlive true] ++ [.keepAlive false])) =
      m.setAll (ss ++ [.keepAlive false]) ∧
    (m.setAll ss).keepsAlive = true ∧
    (m.setAll ss).contentLength? = some 18446744073709551615 ∧
    (m.setAll ss).headers.getAll "Content-Length" = ["18446744073709551615"] ∧
    (m.setAll ss).headers.getAll "Host" = ["b"] ∧
    (m.setAll ss).headers.without ["Host", "Connection", "Content-Length"] =
      ⟨[("Accept", "*")]⟩ := by
  intro m ss
  obtain ⟨hconnection, hlength, hhost, hothers, -, hrepeated⟩ := m.last_call_wins ss
  refine ⟨hrepeated _ _ ?_, hconnection.1, hlength.1, hlength.2, hhost, hothers.trans rfl⟩
  decide +kernel

end Demux.Message

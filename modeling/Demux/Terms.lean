import Demux.Document
import Demux.Revision

namespace Demux

structure Parameters where
  protocolVersion : Nat := Revision.newest
  maxContentLength : Nat := 1048576
  deriving DecidableEq, Inhabited

structure Terms where
  revision : Revision
  limit : Nat
  limit_pos : 0 < limit
  deriving DecidableEq

inductive ParameterFault where
  | unsupportedVersion (version : Nat)
  | zeroLimit
  deriving DecidableEq

def ParameterFault.message : ParameterFault → String
  | unsupportedVersion version =>
    "unsupported version: " ++ toString version ++ " (expected " ++ toString Revision.oldest ++
      "..=" ++ toString Revision.newest ++ ")"
  | zeroLimit => "max_content_length must be a positive integer, got 0"

def Revision.check (number : Nat) : Except ParameterFault Revision :=
  match Revision.ofNumber? number with
  | some v => .ok v
  | none => .error (.unsupportedVersion number)

namespace Parameters

def check (p : Parameters) : Except ParameterFault Terms := do
  let revision ← Revision.check p.protocolVersion
  if h : 0 < p.maxContentLength then return ⟨revision, p.maxContentLength, h⟩ else throw .zeroLimit

def versionName : String := "protocol_version"

def limitName : String := "max_content_length"

def version? : Document → Option Nat :=
  Document.natural? 0xff

def limit? : Document → Option Nat :=
  Document.natural? 0xffffffffffffffff

/-- What is there must fit; what is not there is left as it was. -/
def readInto (old : Nat) (read : Document → Option Nat) : Option Document → Option Nat
  | some d => read d
  | none => some old

/-- Reads a record or a list; what is left out is as in `p`, and other fields are ignored. -/
def ofDocument? (p : Parameters) : Document → Option Parameters
  | .record fields => do
    let version ← readInto p.protocolVersion version? (fields.lookup versionName)
    let limit ← readInto p.maxContentLength limit? (fields.lookup limitName)
    return ⟨version, limit⟩
  | .list items =>
    if 2 < items.length then none
    else do
      let version ← readInto p.protocolVersion version? items[0]?
      let limit ← readInto p.maxContentLength limit? items[1]?
      return ⟨version, limit⟩
  | _ => none

def render (p : Parameters) : String :=
  "\x7b\"" ++ versionName ++ "\":" ++ toString p.protocolVersion ++ ",\"" ++ limitName ++ "\":" ++
    toString p.maxContentLength ++ "\x7d"

def toDocument (p : Parameters) : Document :=
  .record [(versionName, .integer p.protocolVersion), (limitName, .integer p.maxContentLength)]

theorem ofDocument?_toDocument {p : Parameters} (hv : p.protocolVersion ≤ 0xff)
    (hl : p.maxContentLength ≤ 0xffffffffffffffff) (q : Parameters) :
    q.ofDocument? p.toDocument = some p := by
  have h1 : version? (.integer p.protocolVersion) = some p.protocolVersion :=
    Document.natural?_eq_some.2 ⟨rfl, hv⟩
  have h2 : limit? (.integer p.maxContentLength) = some p.maxContentLength :=
    Document.natural?_eq_some.2 ⟨rfl, hl⟩
  simp [ofDocument?, toDocument, List.lookup_cons, versionName, limitName, readInto, h1, h2]

end Parameters

end Demux

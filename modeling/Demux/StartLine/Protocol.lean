import Demux.StartLine.Fault
import Demux.Text.Decimal

namespace Demux

open Text (trim isToken splitFirst? digits?)

structure Protocol where
  name : String
  major : UInt8
  minor : UInt8
  deriving DecidableEq

namespace Protocol

def http10 : Protocol := ⟨"HTTP", 1, 0⟩

def http11 : Protocol := ⟨"HTTP", 1, 1⟩

def text (p : Protocol) : String :=
  p.name ++ "/" ++ toString p.major.toNat ++ "." ++ toString p.minor.toNat

/-- Connections outlive a message in every protocol but `HTTP/1.0`. -/
def persistsByDefault (p : Protocol) : Bool :=
  !(p == http10)

/-- A name, a slash, and two numbers with a point between them. The name is kept in capitals. -/
def ofChars? (cs : List Char) : Option Protocol := do
  let (name, numbers) ← splitFirst? '/' cs
  guard (isToken name)
  let (major, minor) ← splitFirst? '.' numbers
  let major ← digits? 255 major
  let minor ← digits? 255 minor
  return ⟨String.ofList (name.map Char.toUpper), .ofNat major, .ofNat minor⟩

def parse (value : String) : Except Fault Protocol :=
  match ofChars? (trim value.toList) with
  | some p => .ok p
  | none => .error (.protocol value)

theorem parse_eq_ok {value : String} {p : Protocol} :
    parse value = .ok p ↔ ofChars? (trim value.toList) = some p := by
  unfold parse
  split <;> simp_all

theorem parse_eq_error {value : String} {fault : Fault} :
    parse value = .error fault ↔ ofChars? (trim value.toList) = none ∧ fault = .protocol value := by
  unfold parse
  cases ofChars? (trim value.toList) with
  | some => simp
  | none => simp [eq_comm]

theorem persistsByDefault_eq_false_iff {p : Protocol} :
    p.persistsByDefault = false ↔ p = http10 := by
  simp [persistsByDefault]

end Protocol

end Demux

import Demux.StartLine.Fault
import Demux.Text.Trim

namespace Demux

open Text (trim isToken)

inductive Method where
  | options
  | get
  | head
  | post
  | put
  | patch
  | delete
  | trace
  | connect
  | custom (token : String)
  deriving DecidableEq

namespace Method

def text : Method → String
  | options => "OPTIONS"
  | get => "GET"
  | head => "HEAD"
  | post => "POST"
  | put => "PUT"
  | patch => "PATCH"
  | delete => "DELETE"
  | trace => "TRACE"
  | connect => "CONNECT"
  | custom token => token

def isWellKnown : Method → Bool
  | custom _ => false
  | _ => true

def ofToken : String → Method
  | "OPTIONS" => options
  | "GET" => get
  | "HEAD" => head
  | "POST" => post
  | "PUT" => put
  | "PATCH" => patch
  | "DELETE" => delete
  | "TRACE" => trace
  | "CONNECT" => connect
  | token => custom token

/-- Blanks around the token count for nothing, the case of its letters counts. -/
def parse (value : String) : Except Fault Method :=
  let token := trim value.toList
  if isToken token then .ok (ofToken (String.ofList token)) else .error (.method value)

theorem text_ofToken (token : String) : (ofToken token).text = token := by
  unfold ofToken
  split <;> rfl

theorem parse_eq_ok {value : String} {m : Method} :
    parse value = .ok m ↔
      isToken (trim value.toList) = true ∧ ofToken (String.ofList (trim value.toList)) = m := by
  by_cases h : isToken (trim value.toList) <;> simp [parse, h]

theorem parse_eq_error {value : String} {fault : Fault} :
    parse value = .error fault ↔ isToken (trim value.toList) = false ∧ fault = .method value := by
  by_cases h : isToken (trim value.toList) <;> simp [parse, h, eq_comm]

theorem text_of_parse {value : String} {m : Method} (h : parse value = .ok m) :
    m.text.toList = trim value.toList := by
  rw [← (parse_eq_ok.1 h).2, text_ofToken, String.toList_ofList]

end Method

end Demux

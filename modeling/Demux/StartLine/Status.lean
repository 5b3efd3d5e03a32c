import Demux.StartLine.Fault
import Demux.Text.Decimal

namespace Demux

open Text (trim splitFirst? digits?)

structure Status where
  code : Nat
  reason : String
  deriving DecidableEq

namespace Status

/-- The words that go with a code, or with its class where the code has none of its own. -/
def reasonOf : Nat → String
  | 100 => "Continue"
  | 101 => "Switching Protocols"
  | 102 => "Processing"
  | 200 => "OK"
  | 201 => "Created"
  | 202 => "Accepted"
  | 203 => "Non-Authoritative Information"
  | 204 => "No Content"
  | 205 => "Reset Content"
  | 206 => "Partial Content"
  | 207 => "Multi-Status"
  | 300 => "Multiple Choices"
  | 301 => "Moved Permanently"
  | 302 => "Found"
  | 303 => "See Other"
  | 304 => "Not Modified"
  | 305 => "Use Proxy"
  | 307 => "Temporary Redirect"
  | 400 => "Bad Request"
  | 401 => "Unauthorized"
  | 402 => "Payment Required"
  | 403 => "Forbidden"
  | 404 => "Not Found"
  | 405 => "Method Not Allowed"
  | 406 => "Not Acceptable"
  | 407 => "Proxy Authentication Required"
  | 408 => "Request Timeout"
  | 409 => "Conflict"
  | 410 => "Gone"
  | 411 => "Length Required"
  | 412 => "Precondition Failed"
  | 413 => "Request Entity Too Large"
  | 414 => "Request-URI Too Long"
  | 415 => "Unsupported Media Type"
  | 416 => "Requested Range Not Satisfiable"
  | 417 => "Expectation Failed"
  | 422 => "Unprocessable Entity"
  | 423 => "Locked"
  | 424 => "Failed Dependency"
  | 426 => "Upgrade Required"
  | 500 => "Internal Server Error"
  | 501 => "Not Implemented"
  | 502 => "Bad Gateway"
  | 503 => "Service Unavailable"
  | 504 => "Gateway Timeout"
  | 505 => "HTTP Version Not Supported"
  | 506 => "Variant Also Negotiates"
  | 507 => "Insufficient Storage"
  | 510 => "Not Extended"
  | n =>
    match n / 100 with
    | 1 => "Informational"
    | 2 => "Successful"
    | 3 => "Redirection"
    | 4 => "Client Error"
    | 5 => "Server Error"
    | _ => "Unknown Status"

def ofCode (code : Nat) : Status :=
  ⟨code, reasonOf code⟩

def ok : Status := ofCode 200

def badRequest : Status := ofCode 400

def text (s : Status) : String :=
  toString s.code ++ " " ++ s.reason

/-- Three digits that do not start with a zero. -/
def code? (cs : List Char) : Option Nat :=
  if cs.length = 3 then (digits? 999 cs).filter fun n => 100 ≤ n else none

/-- What follows the first space is the reason; without a space it goes by the code. -/
def ofChars? (cs : List Char) : Option Status :=
  match splitFirst? ' ' cs with
  | some (code, reason) => (code? code).map fun n => ⟨n, String.ofList reason⟩
  | none => (code? cs).map ofCode

def parse (value : String) : Except Fault Status :=
  match ofChars? (trim value.toList) with
  | some s => .ok s
  | none => .error (.status value)

theorem parse_eq_ok {value : String} {s : Status} :
    parse value = .ok s ↔ ofChars? (trim value.toList) = some s := by
  unfold parse
  split <;> simp_all

theorem parse_eq_error {value : String} {fault : Fault} :
    parse value = .error fault ↔ ofChars? (trim value.toList) = none ∧ fault = .status value := by
  unfold parse
  cases ofChars? (trim value.toList) with
  | some => simp
  | none => simp [eq_comm]

end Status

end Demux

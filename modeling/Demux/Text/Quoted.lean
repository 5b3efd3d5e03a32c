import Demux.Text.Unprintable

namespace Demux.Text

def quoteChar (c : Char) : List Char :=
  match c with
  | '"' => ['\\', '"']
  | '\\' => ['\\', '\\']
  | '\t' => ['\\', 't']
  | '\r' => ['\\', 'r']
  | '\n' => ['\\', 'n']
  | '\x00' => ['\\', '0']
  | c =>
    if isUnprintable c then ['\\', 'u', '\x7b'] ++ Nat.toDigits 16 c.toNat ++ ['\x7d'] else [c]

/-- Escapes quotes, backslashes and what is unprintable, in the short form if there is one. -/
def quote (s : String) : String :=
  String.ofList ('"' :: s.toList.flatMap quoteChar ++ ['"'])

example : quote "a\"b\\c'\t\x01\u00ad é" = "\"a\\\"b\\\\c'\\t\\u\x7b1\x7d\\u\x7bad\x7d é\"" := by
  decide +kernel

end Demux.Text

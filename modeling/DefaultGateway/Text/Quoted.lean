import DefaultGateway.Text.Hex
import DefaultGateway.Text.Invisible

/-!
Texts quoted inside a message, so that every character of them can be seen.
-/

namespace DefaultGateway.Text

/-- A character as it stands between quotes. -/
def quoteChar (c : Char) : List Char :=
  match c with
  | '\x00' => ['\\', '0']
  | '\t' => ['\\', 't']
  | '\r' => ['\\', 'r']
  | '\n' => ['\\', 'n']
  | '\\' => ['\\', '\\']
  | '"' => ['\\', '"']
  | _ => if isInvisible c then ['\\', 'u', '\x7b'] ++ hexDigits c.toNat ++ ['\x7d'] else [c]

/-- A text between double quotes, with escapes for what would end it or would not show. -/
def quoted (s : String) : String :=
  .ofList ('"' :: s.toList.flatMap quoteChar ++ ['"'])

end DefaultGateway.Text

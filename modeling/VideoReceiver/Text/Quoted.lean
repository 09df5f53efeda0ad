import VideoReceiver.Text.Visible

/-!
# Quoted text

Texts in double quotes, for messages. What has no shape of its own is escaped.

## Main definitions

- `Text.quoted`: a text in quotes
-/

namespace VideoReceiver.Text

/-- A character inside quotes. -/
def escaped (c : Char) : List Char :=
  match c with
  | '\x00' => ['\\', '0']
  | '\t' => ['\\', 't']
  | '\r' => ['\\', 'r']
  | '\n' => ['\\', 'n']
  | '"' => ['\\', '"']
  | '\\' => ['\\', '\\']
  | _ =>
    if isVisible c then [c]
    else ['\\', 'u', '\x7b'] ++ Nat.toDigits 16 c.toNat ++ ['\x7d']

/-- A text in quotes. -/
def quoted (s : String) : String :=
  String.ofList ('"' :: s.toList.flatMap escaped ++ ['"'])

end VideoReceiver.Text

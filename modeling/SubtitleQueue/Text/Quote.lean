/-!
Quoting text for messages: in double quotes, with quotes, backslashes and control characters
escaped, so that the bounds of the text and any invisible character in it can be seen.
-/

namespace SubtitleQueue.Text

/-- A text in double quotes, escaped. -/
def quoted (s : String) : String :=
  let body := s.toList.flatMap fun c =>
    if c == '"' then ['\\', '"']
    else if c == '\\' then ['\\', '\\']
    else if c == '\n' then ['\\', 'n']
    else if c == '\r' then ['\\', 'r']
    else if c == '\t' then ['\\', 't']
    else if c == '\x00' then ['\\', '0']
    else if c.toNat < 0x20 || (0x7f ≤ c.toNat && c.toNat < 0xa0) then
      "\\u\x7b".toList ++ Nat.toDigits 16 c.toNat ++ ['\x7d']
    else [c]
  "\"" ++ String.ofList body ++ "\""

end SubtitleQueue.Text

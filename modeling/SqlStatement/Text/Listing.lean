import SqlStatement.Text.Unprintable
/-!
# Texts in listings

A text is listed in double quotes, with escapes for quotes, backslashes and all characters that
have no printed form.
-/
namespace SqlStatement.Text

def listedChar (c : Char) : List Char :=
  if c = '\x00' then ['\\', '0']
  else if c = '\t' then ['\\', 't']
  else if c = '\r' then ['\\', 'r']
  else if c = '\n' then ['\\', 'n']
  else if c = '\\' then ['\\', '\\']
  else if c = '\x22' then ['\\', '\x22']
  else if isUnprintable c then
    '\\' :: 'u' :: '\x7b' :: Nat.toDigits 16 c.toNat ++ ['\x7d']
  else [c]

def listed (s : String) : String :=
  String.ofList ('\x22' :: s.toList.flatMap listedChar ++ ['\x22'])

end SqlStatement.Text

import ResumableSession.Text.Unprinted

/-!
# Quoted texts

A text in double quotes, in which a backslash stands before quotes and
backslashes, line feeds and the like have a letter, and other characters that do
not print are spelled by their number.
-/

namespace ResumableSession.Text

/-- A number in hexadecimal, without leading zeros. -/
def hexadecimal (value : Nat) : List Char := Nat.toDigits 16 value

/-- What stands for a character between the quotes. -/
def quotedChar (c : Char) : List Char :=
  match c with
  | '"' => ['\\', '"']
  | '\\' => ['\\', '\\']
  | '\n' => ['\\', 'n']
  | '\t' => ['\\', 't']
  | '\r' => ['\\', 'r']
  | '\x00' => ['\\', '0']
  | c =>
      if isUnprinted c then ['\\', 'u', '\x7b'] ++ hexadecimal c.toNat ++ ['\x7d'] else [c]

/-- A text in quotes. -/
def quoted (text : String) : String :=
  String.ofList (['"'] ++ text.toList.flatMap quotedChar ++ ['"'])

/-- What is between the quotes of a text that starts and ends with one; nothing
in between is changed. -/
def unquoted? (text : String) : Option String :=
  match text.toList with
  | '"' :: rest =>
      if rest.getLast? = some '"' then some (String.ofList rest.dropLast) else none
  | _ => none

end ResumableSession.Text

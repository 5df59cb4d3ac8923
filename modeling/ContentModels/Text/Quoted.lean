import ContentModels.Text.PrintTable

/-!
# Quoted text

The form in which a text stands in generated code: between double quotes, with an escape for every
character that would end the quote, start an escape, or not be seen.
-/

namespace ContentModels.Text

/-- The digits of a number in base sixteen, in small letters. -/
def hexDigits (n : Nat) : List Char := Nat.toDigits 16 n

/-- The escape that names a character by its code. -/
def codeEscape (c : Char) : List Char := ['\\', 'u', '\x7b'] ++ hexDigits c.toNat ++ ['\x7d']

/-- Whether a character outside ASCII is seen when it is written as it is. -/
def isVisible (c : Char) : Bool := !combiningCodes.has c.toNat && !hiddenCodes.has c.toNat

/-- A character inside double quotes. -/
def quotedChar (c : Char) : List Char :=
  if c = '"' then ['\\', '"']
  else if c = '\\' then ['\\', '\\']
  else if c = '\n' then ['\\', 'n']
  else if c = '\r' then ['\\', 'r']
  else if c = '\t' then ['\\', 't']
  else if c = '\x00' then ['\\', '0']
  else if isVisible c then [c]
  else codeEscape c

/-- The characters of a text between double quotes. -/
def quotedChars (cs : List Char) : List Char := '"' :: cs.flatMap quotedChar ++ ['"']

/-- A text between double quotes. -/
def quoted (s : String) : String := String.ofList (quotedChars s.toList)

end ContentModels.Text

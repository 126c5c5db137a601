import ScanDiscovery.Text.Unprintable
/-!
# Text.Quoted — texts between double quotes

The quote and the backslash are written after a backslash, four controls have a letter of their own, and other
characters that cannot be shown are written by number. The single quote stands for itself.
-/
namespace ScanDiscovery.Text

def hexDigits (n : Nat) : List Char := Nat.toDigits 16 n

def quotedChar (c : Char) : List Char :=
  if c = '"' then ['\\', '"']
  else if c = '\\' then ['\\', '\\']
  else if c = '\n' then ['\\', 'n']
  else if c = '\r' then ['\\', 'r']
  else if c = '\t' then ['\\', 't']
  else if c = '\x00' then ['\\', '0']
  else if c.toNat < 0x7F && 0x20 ≤ c.toNat then [c]
  else if isUnprintable c then "\\u\x7b".toList ++ hexDigits c.toNat ++ ['\x7d']
  else [c]

def quoted (text : String) : String :=
  String.ofList ('"' :: text.toList.flatMap quotedChar ++ ['"'])

example : quoted "a\"b\u200b\n'é" = "\"a\\\"b\\u\x7b200b\x7d\\n'é\"" := by decide +kernel

end ScanDiscovery.Text

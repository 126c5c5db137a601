import ScanDiscovery.Text.Utf8
/-!
# Xml.Bytes — the bytes that markup is made of

White space in markup is four bytes; the blanks of a text's characters are another matter.
-/
namespace ScanDiscovery.Xml

def isBlankByte (b : UInt8) : Bool :=
  b = 0x20 || b = 0x09 || b = 0x0A || b = 0x0D

def lowerByte (b : UInt8) : UInt8 :=
  if 0x41 ≤ b && b ≤ 0x5A then b + 0x20 else b

end ScanDiscovery.Xml

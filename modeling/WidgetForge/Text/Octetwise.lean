import WidgetForge.Text.Utf8

/-!
# Texts of octets

A program that knows nothing of encodings takes each octet for a character. Here octets are read
that way and written again; what is no UTF-8 is lost only when a text of octets is gathered to an
ordinary text.
-/

namespace WidgetForge.Text.Octetwise

/-- The text with a character for each octet. -/
def read (octets : Octets) : String := String.ofList (octets.map fun b => Char.ofNat b.toNat)

/-- The octets of a text that has a character for each. -/
def write (s : String) : Octets := s.toList.map fun c => UInt8.ofNat c.toNat

/-- The text of the octets of an ordinary text. -/
def spread (s : String) : String := read (Utf8.encode s)

/-- The ordinary text of a text of octets. -/
def gather (s : String) : String := Utf8.decodeLossy (write s)

end WidgetForge.Text.Octetwise

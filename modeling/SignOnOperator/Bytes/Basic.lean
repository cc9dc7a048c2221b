/-!
# Bytes

A finite sequence of bytes, and the UTF-8 bytes of a text.
-/
namespace SignOnOperator

abbrev Bytes := List UInt8

namespace Bytes

/-- The UTF-8 bytes of a text. -/
def ofString (text : String) : Bytes := text.toUTF8.toList

/-- The text whose UTF-8 bytes these are, if they are any. -/
def toString? (bytes : Bytes) : Option String := String.fromUTF8? ⟨bytes.toArray⟩

end Bytes
end SignOnOperator

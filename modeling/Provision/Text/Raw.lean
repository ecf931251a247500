import Provision.Text.Utf8

/-!
Names and paths as an operating system keeps them: bytes, which need not be those of a text. Where a text is wanted for
bytes that are none, the nearest one stands for them, and then different names may look the same.
-/

namespace Provision

/-- A name or a path of the operating system. -/
structure RawText where
  bytes : List UInt8
deriving DecidableEq, Inhabited, Repr

namespace RawText

/-- The bytes of a text, one character after the other. -/
def ofText (s : String) : RawText := ⟨s.toList.flatMap String.utf8EncodeChar⟩

instance : Coe String RawText := ⟨ofText⟩

/-- Names stand in the order of their bytes. -/
instance : Ord RawText := ⟨fun a b => compare a.bytes b.bytes⟩

/-- The text that stands for a name. -/
def shown (r : RawText) : String := Utf8.decodeAnyway r.bytes

end RawText
end Provision

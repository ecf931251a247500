/-!
Texts as bytes in UTF-8, and what is wrong with bytes that are no text.
-/

namespace Provision

/-- Where bytes stop being UTF-8: at `index` starts a sequence that is wrong after `length` bytes, or that
the end cuts off. -/
structure Utf8Fault where
  index : Nat
  length : Option Nat
deriving DecidableEq, Repr

def Utf8Fault.message (f : Utf8Fault) : String :=
  match f.length with
  | some n =>
    "invalid utf-8 sequence of " ++ toString n ++ " bytes from index " ++ toString f.index
  | none => "incomplete utf-8 byte sequence from index " ++ toString f.index

namespace Utf8

/-- The bounds of the bytes that follow a first byte. -/
def followers (first : UInt8) : Option (List (UInt8 × UInt8)) :=
  let any : UInt8 × UInt8 := (0x80, 0xBF)
  if first ≤ 0x7F then some []
  else if first < 0xC2 then none
  else if first ≤ 0xDF then some [any]
  else if first = 0xE0 then some [(0xA0, 0xBF), any]
  else if first = 0xED then some [(0x80, 0x9F), any]
  else if first ≤ 0xEF then some [any, any]
  else if first = 0xF0 then some [(0x90, 0xBF), any, any]
  else if first ≤ 0xF3 then some [any, any, any]
  else if first = 0xF4 then some [(0x80, 0x8F), any, any]
  else none

/-- The first fault of bytes, when a sequence that began at `start` has `taken` bytes so far and still
wants bytes within the given bounds. -/
def faultFrom? : List (UInt8 × UInt8) → Nat → Nat → List UInt8 → Option Utf8Fault
  | [], _, _, [] => none
  | _ :: _, start, _, [] => some ⟨start, none⟩
  | [], start, taken, b :: rest =>
    match followers b with
    | some wanted => faultFrom? wanted (start + taken) 1 rest
    | none => some ⟨start + taken, some 1⟩
  | (low, high) :: wanted, start, taken, b :: rest =>
    if low ≤ b && b ≤ high then faultFrom? wanted start (taken + 1) rest
    else some ⟨start, some taken⟩

/-- The first fault of bytes, none if they are UTF-8. -/
def fault? (bytes : List UInt8) : Option Utf8Fault := faultFrom? [] 0 0 bytes

/-- The bytes of a text. -/
def encode (s : String) : List UInt8 := s.toUTF8.toList

/-- The text that bytes stand for. -/
def decode (bytes : List UInt8) : Except Utf8Fault String :=
  match String.fromUTF8? ⟨bytes.toArray⟩ with
  | some s => .ok s
  | none => .error ((fault? bytes).getD ⟨0, none⟩)

/-- The text that stands for bytes up to their first fault. -/
def decodeStart (bytes : List UInt8) : String :=
  match decode bytes with
  | .ok s => s
  | .error _ => ""

/-- Read bytes as text with a replacement character for every wrong sequence, of which there are at most
`faults`. -/
def decodeReplacing : Nat → List UInt8 → String
  | 0, bytes => decodeStart bytes
  | faults + 1, bytes =>
    match fault? bytes with
    | none => decodeStart bytes
    | some f =>
      let rest := match f.length with
        | some n => bytes.drop (f.index + n)
        | none => []
      decodeStart (bytes.take f.index) ++ "\uFFFD" ++ decodeReplacing faults rest

/-- The text nearest to bytes: their own, or else one in which every wrong sequence counts as a replacement character. -/
def decodeAnyway (bytes : List UInt8) : String :=
  match decode bytes with
  | .ok s => s
  | .error _ => decodeReplacing bytes.length bytes

example : fault? [0x61, 0xE2, 0x9C, 0x93] = none := by decide
example : fault? [0x61, 0xF0, 0x9F, 0x98] = some ⟨1, none⟩ := by decide
example : fault? [0xED, 0xA0, 0x80] = some ⟨0, some 1⟩ := by decide

end Utf8
end Provision

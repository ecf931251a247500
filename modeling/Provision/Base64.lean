import Provision.Text.Utf8

/-!
Bytes in base 64: three bytes as four symbols, with padding at the end. Every sequence of bytes has one
written form, and decoding accepts written forms only. Its faults name the place of the first byte that
cannot stand where it does.
-/

namespace Provision.Base64

/-- The symbol of a value below 64. -/
def symbol (value : Nat) : UInt8 :=
  if value < 26 then (0x41 + value).toUInt8
  else if value < 52 then (0x61 + (value - 26)).toUInt8
  else if value < 62 then (0x30 + (value - 52)).toUInt8
  else if value = 62 then 0x2B
  else 0x2F

/-- The value of a symbol. -/
def value? (b : UInt8) : Option Nat :=
  let n := b.toNat
  if 0x41 ≤ n && n ≤ 0x5A then some (n - 0x41)
  else if 0x61 ≤ n && n ≤ 0x7A then some (n - 0x61 + 26)
  else if 0x30 ≤ n && n ≤ 0x39 then some (n - 0x30 + 52)
  else if n = 0x2B then some 62
  else if n = 0x2F then some 63
  else none

/-- The padding symbol. -/
def pad : UInt8 := 0x3D

theorem value?_symbol : ∀ v < 64, value? (symbol v) = some v := by decide

theorem value?_pad : value? pad = none := by decide

/-- The written form of bytes. -/
def encode : List UInt8 → List UInt8
  | [] => []
  | [a] => [symbol (a.toNat / 4), symbol (a.toNat % 4 * 16), pad, pad]
  | [a, b] =>
    [symbol (a.toNat / 4), symbol (a.toNat % 4 * 16 + b.toNat / 16), symbol (b.toNat % 16 * 4), pad]
  | a :: b :: c :: rest =>
    symbol (a.toNat / 4) :: symbol (a.toNat % 4 * 16 + b.toNat / 16) ::
      symbol (b.toNat % 16 * 4 + c.toNat / 64) :: symbol (c.toNat % 64) :: encode rest

/-- Why something is no written form. -/
inductive Fault where
  /-- A byte that is no symbol, or padding where none may stand. -/
  | badSymbol (offset : Nat) (byte : UInt8)
  /-- A single symbol is left over. -/
  | badLength (length : Nat)
  /-- The last symbol carries bits that belong to no byte. -/
  | badLastSymbol (offset : Nat) (byte : UInt8)
  /-- Padding is missing or too short. -/
  | badPadding
deriving DecidableEq, Repr

def Fault.message : Fault → String
  | badSymbol offset byte =>
    "Invalid symbol " ++ toString byte.toNat ++ ", offset " ++ toString offset ++ "."
  | badLength length => "Invalid input length: " ++ toString length
  | badLastSymbol offset byte =>
    "Invalid last symbol " ++ toString byte.toNat ++ ", offset " ++ toString offset ++ "."
  | badPadding => "Invalid padding"

/-- The value of the symbol at an offset. -/
def valueAt (offset : Nat) (b : UInt8) : Except Fault Nat :=
  match value? b with
  | some v => .ok v
  | none => .error (.badSymbol offset b)

/-- The symbols of the last group with their values, and how many padding symbols follow. Padding cannot
come before the third place of the group, and nothing else can come after it. -/
def readLast (start place : Nat) : List UInt8 → Except Fault (List (UInt8 × Nat) × Nat)
  | [] => .ok ([], 0)
  | b :: rest =>
    if b = pad then
      if place < 2 || rest.any (· ≠ pad) then .error (.badSymbol (start + place) pad)
      else .ok ([], rest.length + 1)
    else do
      let v ← valueAt (start + place) b
      let (symbols, pads) ← readLast start (place + 1) rest
      return ((b, v) :: symbols, pads)

/-- The bytes of the last group. -/
def decodeLast (start : Nat) (group : List UInt8) : Except Fault (List UInt8) := do
  let (symbols, pads) ← readLast start 0 group
  if group ≠ [] && symbols.length < 2 then throw (.badLength (start + symbols.length))
  if (symbols.length + pads) % 4 ≠ 0 then throw .badPadding
  match symbols with
  | [(_, a), (x, b)] =>
    if b % 16 ≠ 0 then throw (.badLastSymbol (start + 1) x)
    return [(a * 4 + b / 16).toUInt8]
  | [(_, a), (_, b), (x, c)] =>
    if c % 4 ≠ 0 then throw (.badLastSymbol (start + 2) x)
    return [(a * 4 + b / 16).toUInt8, (b % 16 * 16 + c / 4).toUInt8]
  | [(_, a), (_, b), (_, c), (_, d)] =>
    return [(a * 4 + b / 16).toUInt8, (b % 16 * 16 + c / 4).toUInt8, (c % 4 * 64 + d).toUInt8]
  | _ => return []

/-- The bytes of groups of four symbols. A group that others follow has no padding. -/
def decodeFrom (start : Nat) : List UInt8 → Except Fault (List UInt8)
  | w :: x :: y :: z :: next :: rest => do
    let a ← valueAt start w
    let b ← valueAt (start + 1) x
    let c ← valueAt (start + 2) y
    let d ← valueAt (start + 3) z
    let bytes ← decodeFrom (start + 4) (next :: rest)
    return (a * 4 + b / 16).toUInt8 :: (b % 16 * 16 + c / 4).toUInt8 :: (c % 4 * 64 + d).toUInt8 :: bytes
  | group => decodeLast start group

/-- A single byte after complete groups that is no symbol, such as the end of a line: it is at fault
before all others. -/
def strayEnd? (written : List UInt8) : Option Fault :=
  match written.getLast? with
  | some b =>
    if written.length % 4 = 1 && b ≠ pad && (value? b).isNone then
      some (.badSymbol (written.length - 1) b)
    else none
  | none => none

/-- The bytes of a written form. -/
def decode (written : List UInt8) : Except Fault (List UInt8) :=
  match strayEnd? written with
  | some f => .error f
  | none => decodeFrom 0 written

/-- The written form of the bytes of a text. -/
def encodeText (s : String) : String :=
  String.ofList ((encode (Utf8.encode s)).map fun b => Char.ofNat b.toNat)

example : encode [0x61] = [0x59, 0x51, 0x3D, 0x3D] := by decide
example : decode [0x59, 0x51, 0x3D, 0x3D] = .ok [0x61] := by rfl
example : decode [0x59, 0x52, 0x3D, 0x3D] = .error (.badLastSymbol 1 0x52) := by rfl

end Provision.Base64

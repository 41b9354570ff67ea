import Siblings.Text.Basic

/-!
# UTF-8

Texts are written as UTF-8 and read back from it. What cannot be read is reported by the place
where it starts and the number of bytes that are wrong, or by the place alone where the bytes
end inside a character.

* `Text.encode`: the bytes of a text.
* `Text.decode`: the text of some bytes, or the first fault.
-/

namespace Siblings.Text

/-- The bytes of a text. -/
def encode (text : Text) : List UInt8 := text.flatMap String.utf8EncodeChar

/-- **The first fault of some bytes.** -/
structure Utf8Fault where
  /-- The number of bytes before it, which all belong to whole characters. -/
  index : Nat
  /-- The number of bytes that start no character, unless the end comes first. -/
  length : Option Nat
  deriving DecidableEq, Repr

namespace Utf8Fault

/-- The wording of a fault. -/
def message (fault : Utf8Fault) : Text :=
  match fault.length with
  | some n => "invalid utf-8 sequence of ".toList ++ ofNat n ++ " bytes from index ".toList ++
      ofNat fault.index
  | none => "incomplete utf-8 byte sequence from index ".toList ++ ofNat fault.index

end Utf8Fault

/-- The bytes that may follow a lead byte, and the number of further bytes after that one. -/
def afterLead (lead : Nat) : Option (Nat × Nat × Nat) :=
  if lead < 0xC2 then none
  else if lead < 0xE0 then some (0x80, 0xBF, 0)
  else if lead = 0xE0 then some (0xA0, 0xBF, 1)
  else if lead = 0xED then some (0x80, 0x9F, 1)
  else if lead < 0xF0 then some (0x80, 0xBF, 1)
  else if lead = 0xF0 then some (0x90, 0xBF, 2)
  else if lead < 0xF4 then some (0x80, 0xBF, 2)
  else if lead = 0xF4 then some (0x80, 0x8F, 2)
  else none

/-- Whether a byte continues a character. -/
def isTail (byte : UInt8) : Bool := 0x80 ≤ byte && byte ≤ 0xBF

/-- The low six bits of a byte, after the bits gathered so far. -/
def gather (bits : Nat) (byte : UInt8) : Nat := bits * 64 + byte.toNat % 64

/-- A character in front of what is read after it. -/
def putChar (code : Nat) (rest : Except Utf8Fault Text) : Except Utf8Fault Text :=
  rest.map (Char.ofNat code :: ·)

/-- The text of some bytes, where `index` bytes have been read before. -/
def decodeFrom (index : Nat) : List UInt8 → Except Utf8Fault Text
  | [] => .ok []
  | a :: rest =>
    if a < 0x80 then putChar a.toNat (decodeFrom (index + 1) rest)
    else match afterLead a.toNat with
      | none => .error ⟨index, some 1⟩
      | some (low, high, more) =>
        match rest with
        | [] => .error ⟨index, none⟩
        | b :: rest =>
          if b.toNat < low || high < b.toNat then .error ⟨index, some 1⟩
          else match more, rest with
            | 0, rest => putChar (gather (a.toNat % 32) b) (decodeFrom (index + 2) rest)
            | _, [] => .error ⟨index, none⟩
            | more + 1, c :: rest =>
              if !isTail c then .error ⟨index, some 2⟩
              else match more, rest with
                | 0, rest =>
                  putChar (gather (gather (a.toNat % 16) b) c) (decodeFrom (index + 3) rest)
                | _, [] => .error ⟨index, none⟩
                | _ + 1, d :: rest =>
                  if !isTail d then .error ⟨index, some 3⟩
                  else
                    putChar (gather (gather (gather (a.toNat % 8) b) c) d)
                      (decodeFrom (index + 4) rest)

/-- **The text of some bytes,** or their first fault. -/
def decode (bytes : List UInt8) : Except Utf8Fault Text := decodeFrom 0 bytes

end Siblings.Text

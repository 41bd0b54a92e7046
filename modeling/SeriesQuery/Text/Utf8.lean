/-!
# UTF-8

Bytes as text. A fault is the place where a sequence starts that is not one of UTF-8: neither overlong
forms nor surrogates nor code points beyond the last one are.
-/

namespace SeriesQuery.Text

/-- The byte continues a sequence. -/
def isContinuation (b : UInt8) : Bool := 0x80 ≤ b && b < 0xC0

/-- The low six bits. -/
def sixBits (b : UInt8) : Nat := b.toNat % 64

/-- The character at the front of the bytes and how many bytes it takes. -/
def readUtf8? : List UInt8 → Option (Char × Nat)
  | [] => none
  | a :: rest =>
    if a < 0x80 then some (Char.ofNat a.toNat, 1)
    else if a < 0xC2 then none
    else if a < 0xE0 then
      match rest with
      | b :: _ =>
        if isContinuation b then some (Char.ofNat (a.toNat % 32 * 64 + sixBits b), 2) else none
      | _ => none
    else if a < 0xF0 then
      match rest with
      | b :: c :: _ =>
        let n := a.toNat % 16 * 4096 + sixBits b * 64 + sixBits c
        if isContinuation b && isContinuation c && 0x800 ≤ n && !(0xD800 ≤ n && n < 0xE000) then
          some (Char.ofNat n, 3)
        else none
      | _ => none
    else if a < 0xF5 then
      match rest with
      | b :: c :: d :: _ =>
        let n := a.toNat % 8 * 262144 + sixBits b * 4096 + sixBits c * 64 + sixBits d
        if isContinuation b && isContinuation c && isContinuation d && 0x10000 ≤ n &&
            n < 0x110000 then
          some (Char.ofNat n, 4)
        else none
      | _ => none
    else none

/-- The characters of the bytes after `skipped` bytes that belong to the character before; else the
offset of the fault, counted from `index`. The characters in `before` come first, the last of them
foremost. -/
def decodeFrom (before : List Char) (index skipped : Nat) : List UInt8 → Except Nat (List Char)
  | [] => .ok before.reverse
  | b :: rest =>
    match skipped with
    | left + 1 => decodeFrom before (index + 1) left rest
    | 0 =>
      match readUtf8? (b :: rest) with
      | some (c, size) => decodeFrom (c :: before) (index + 1) (size - 1) rest
      | none => .error index

/-- The text of the bytes, or the offset of the first byte that is not part of one. -/
def decodeUtf8 (bytes : List UInt8) : Except Nat String :=
  String.ofList <$> decodeFrom [] 0 0 bytes

end SeriesQuery.Text

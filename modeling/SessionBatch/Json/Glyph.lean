namespace SessionBatch.Json

inductive Glyph where
  | char (c : Char)
  | stray (byte : UInt8)
  deriving DecidableEq

def Glyph.size : Glyph → Nat
  | .char c => c.utf8Size
  | .stray _ => 1

def glyphs (text : String) : List Glyph := text.toList.map .char

def continuation? (b : UInt8) : Option Nat :=
  if 0x80 ≤ b ∧ b ≤ 0xBF then some (b.toNat - 0x80) else none

-- The characters that `count` continuation bytes can write: neither a shorter
-- form nor a surrogate, and no code point past the last.
def IsScalar (count code : Nat) : Bool :=
  match count with
  | 0 => code < 0x80
  | 1 => 0x80 ≤ code && code < 0x800
  | 2 => 0x800 ≤ code && code < 0x10000 && !(0xD800 ≤ code && code < 0xE000)
  | _ => 0x10000 ≤ code && code < 0x110000

def lead? (b : UInt8) : Option (Nat × Nat) :=
  if b < 0x80 then some (b.toNat, 0)
  else if b < 0xC0 then none
  else if b < 0xE0 then some (b.toNat - 0xC0, 1)
  else if b < 0xF0 then some (b.toNat - 0xE0, 2)
  else if b < 0xF8 then some (b.toNat - 0xF0, 3)
  else none

def codeOf? (share : Nat) : Nat → List UInt8 → Option Nat
  | 0, _ => some share
  | _ + 1, [] => none
  | count + 1, b :: rest =>
    match continuation? b with
    | none => none
    | some bits => codeOf? (64 * share + bits) count rest

def leading? : List UInt8 → Option (Char × Nat)
  | [] => none
  | b :: rest =>
    match lead? b with
    | none => none
    | some (share, count) =>
      match codeOf? share count rest with
      | none => none
      | some code => if IsScalar count code then some (Char.ofNat code, count) else none

def decodeAfter : Nat → List UInt8 → List Glyph
  | _, [] => []
  | skip + 1, _ :: rest => decodeAfter skip rest
  | 0, b :: rest =>
    match leading? (b :: rest) with
    | some (c, more) => .char c :: decodeAfter more rest
    | none => .stray b :: decodeAfter 0 rest

-- UTF-8, with every byte kept that belongs to no character.
def decode (bytes : List UInt8) : List Glyph := decodeAfter 0 bytes

end SessionBatch.Json

/-!
# UTF-8

Text is kept as characters and travels as bytes. `encode` writes characters; a machine that takes
one byte at a time reads them. It refuses overlong forms, surrogates and numbers above U+10FFFF
by the range that the second byte of a character may lie in, so the bytes it has accepted so far
always begin some well formed text. `decode` stops at the first flaw and says where it lies;
`decodeLossy` puts U+FFFD for each flaw and goes on.
-/

namespace Lockstep

/-- What files, pipes and connections carry. -/
abbrev Bytes := List UInt8

namespace Utf8

/-- The one to four bytes of a character. -/
def encodeChar (c : Char) : Bytes :=
  let n := c.toNat
  if n < 0x80 then [UInt8.ofNat n]
  else if n < 0x800 then [UInt8.ofNat (0xC0 + n / 64), UInt8.ofNat (0x80 + n % 64)]
  else if n < 0x10000 then
    [UInt8.ofNat (0xE0 + n / 4096), UInt8.ofNat (0x80 + n / 64 % 64), UInt8.ofNat (0x80 + n % 64)]
  else
    [UInt8.ofNat (0xF0 + n / 262144), UInt8.ofNat (0x80 + n / 4096 % 64),
      UInt8.ofNat (0x80 + n / 64 % 64), UInt8.ofNat (0x80 + n % 64)]

/-- The bytes of a text. -/
def encode (text : List Char) : Bytes := text.flatMap encodeChar

/-- The number of bytes of a text. -/
def size (text : List Char) : Nat := (encode text).length

/-- A character whose first bytes have been read. -/
structure Partial where
  /-- How many bytes must follow the next one. -/
  owed : Nat
  /-- The least value of the next byte. -/
  low : Nat
  /-- The greatest value of the next byte. -/
  high : Nat
  /-- The number spelled so far. -/
  value : Nat
  /-- How many bytes have been read. -/
  seen : Nat
  deriving Repr, DecidableEq

/-- What one more byte does. -/
inductive Step where
  | char (c : Char)
  | more (p : Partial)
  | refused
  deriving Repr, DecidableEq

/-- A byte at the start of a character. -/
def lead (b : UInt8) : Step :=
  let n := b.toNat
  if n < 0x80 then .char (Char.ofNat n)
  else if n < 0xC2 then .refused
  else if n < 0xE0 then .more ⟨0, 0x80, 0xBF, n - 0xC0, 1⟩
  else if n < 0xF0 then
    .more ⟨1, if n = 0xE0 then 0xA0 else 0x80, if n = 0xED then 0x9F else 0xBF, n - 0xE0, 1⟩
  else if n < 0xF5 then
    .more ⟨2, if n = 0xF0 then 0x90 else 0x80, if n = 0xF4 then 0x8F else 0xBF, n - 0xF0, 1⟩
  else .refused

/-- A byte inside a character. Only the second byte of a character has a range of its own. -/
def Partial.next (p : Partial) (b : UInt8) : Step :=
  let n := b.toNat
  if p.low ≤ n ∧ n ≤ p.high then
    let value := p.value * 64 + (n - 0x80)
    if p.owed = 0 then .char (Char.ofNat value)
    else .more ⟨p.owed - 1, 0x80, 0xBF, value, p.seen + 1⟩
  else .refused

/-- Where bytes stop being text. -/
structure Flaw where
  /-- How many bytes before the flaw are well formed. -/
  index : Nat
  /-- The length of the sequence that no text holds; `none` where the bytes end too early. -/
  length : Option Nat
  deriving Repr, DecidableEq

/-- The flaw in words. -/
def Flaw.message (f : Flaw) : String :=
  match f.length with
  | some n => s!"invalid utf-8 sequence of {n} bytes from index {f.index}"
  | none => s!"incomplete utf-8 byte sequence from index {f.index}"

/--
Reads on from the middle of a text: `done` holds the characters read so far, last first, `index`
is where the current character began, and `pending` what is known of it.
-/
def decodeFrom (done : List Char) (index : Nat) (pending : Option Partial) :
    Bytes → Except Flaw (List Char)
  | [] =>
    match pending with
    | none => .ok done.reverse
    | some _ => .error ⟨index, none⟩
  | b :: rest =>
    match pending with
    | none =>
      match lead b with
      | .char c => decodeFrom (c :: done) (index + 1) none rest
      | .more p => decodeFrom done index (some p) rest
      | .refused => .error ⟨index, some 1⟩
    | some p =>
      match p.next b with
      | .char c => decodeFrom (c :: done) (index + p.seen + 1) none rest
      | .more q => decodeFrom done index (some q) rest
      | .refused => .error ⟨index, some p.seen⟩

/-- The text that the bytes spell. -/
def decode (bytes : Bytes) : Except Flaw (List Char) := decodeFrom [] 0 none bytes

/-- The text that the bytes spell, if they spell one. -/
def decode? (bytes : Bytes) : Option (List Char) := (decode bytes).toOption

/-- What takes the place of a sequence that is no text. -/
def replacement : Char := '\uFFFD'

/-- Reads on like `decodeFrom`, with a replacement for every flaw. -/
def decodeLossyFrom (done : List Char) (pending : Option Partial) : Bytes → List Char
  | [] =>
    match pending with
    | none => done.reverse
    | some _ => (replacement :: done).reverse
  | b :: rest =>
    let fresh (done : List Char) : List Char × Option Partial :=
      match lead b with
      | .char c => (c :: done, none)
      | .more p => (done, some p)
      | .refused => (replacement :: done, none)
    let (done, pending) :=
      match pending with
      | none => fresh done
      | some p =>
        match p.next b with
        | .char c => (c :: done, none)
        | .more q => (done, some q)
        | .refused => fresh (replacement :: done)
    decodeLossyFrom done pending rest

/-- The text that the bytes spell, with a replacement for each longest sequence that is none. -/
def decodeLossy (bytes : Bytes) : List Char := decodeLossyFrom [] none bytes

end Utf8

/-- The bytes of a string. -/
def utf8 (s : String) : Bytes := Utf8.encode s.toList

end Lockstep

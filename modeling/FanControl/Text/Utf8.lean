/-
  `Utf8` — bytes to characters and back.

  One scanner serves both readings of a byte sequence. It yields a character for
  every well-formed sequence and a gap for every maximal ill-formed part (the
  longest run that starts some well-formed sequence, or one byte if there is
  none). Strict decoding refuses a gap; lossy decoding puts U+FFFD in its place.
-/
namespace FanControl.Text.Utf8

/-! ### The scanner -/

/-- Where the scanner stands between two bytes: outside any sequence, or inside one that still
needs `need + 1` bytes, the next of them between `lo` and `hi`, with the bits read so far. -/
inductive Progress where
  | outside
  | inside (need lo hi bits : Nat)
deriving DecidableEq, Repr

/-- What a byte outside any sequence does: it is a character, a gap, or it opens a sequence. The
bounds on the second byte exclude overlong forms, surrogates and values past U+10FFFF. -/
def openWith (b : UInt8) : List (Option Char) × Progress :=
  let n := b.toNat
  if n < 0x80 then ([some (Char.ofNat n)], .outside)
  else if n < 0xc2 then ([none], .outside)
  else if n < 0xe0 then ([], .inside 0 0x80 0xbf (n - 0xc0))
  else if n = 0xe0 then ([], .inside 1 0xa0 0xbf 0)
  else if n = 0xed then ([], .inside 1 0x80 0x9f (n - 0xe0))
  else if n < 0xf0 then ([], .inside 1 0x80 0xbf (n - 0xe0))
  else if n = 0xf0 then ([], .inside 2 0x90 0xbf 0)
  else if n < 0xf4 then ([], .inside 2 0x80 0xbf (n - 0xf0))
  else if n = 0xf4 then ([], .inside 2 0x80 0x8f (n - 0xf0))
  else ([none], .outside)

/-- One byte: it goes on with the open sequence if it fits, else that sequence is a gap and the
byte starts afresh. -/
def step (p : Progress) (b : UInt8) : List (Option Char) × Progress :=
  match p with
  | .outside => openWith b
  | .inside need lo hi bits =>
    if lo ≤ b.toNat ∧ b.toNat ≤ hi then
      let bits := bits * 64 + (b.toNat - 0x80)
      match need with
      | 0 => ([some (Char.ofNat bits)], .outside)
      | k + 1 => ([], .inside k 0x80 0xbf bits)
    else
      let (out, p) := openWith b
      (none :: out, p)

/-- The characters and gaps of a byte sequence; a sequence cut off by the end is a gap. -/
def scan : Progress → List UInt8 → List (Option Char)
  | .outside, [] => []
  | .inside .., [] => [none]
  | p, b :: bs => (step p b).1 ++ scan (step p b).2 bs

/-! ### Decoding and encoding -/

/-- The characters of a well-formed byte sequence. -/
def decode? (bs : List UInt8) : Option (List Char) := (scan .outside bs).mapM id

/-- The characters of any byte sequence, U+FFFD for each maximal ill-formed part. -/
def decodeLossy (bs : List UInt8) : List Char :=
  (scan .outside bs).map fun u => u.getD '\uFFFD'

/-- The bytes of a text. -/
def encode (s : List Char) : List UInt8 := s.flatMap String.utf8EncodeChar

end FanControl.Text.Utf8

namespace FanControl

/-- The text that a well-formed byte sequence encodes. -/
def textOfBytes? (bs : List UInt8) : Option String := (Text.Utf8.decode? bs).map String.ofList

/-- The bytes of a text. -/
def bytesOfText (s : String) : List UInt8 := Text.Utf8.encode s.toList

end FanControl

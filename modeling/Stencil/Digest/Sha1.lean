/-! # SHA-1 — the 160-bit digest of a text

    The message is the text's UTF-8 bytes, padded with a one bit, zeros and its
    length in bits to whole blocks of sixteen words.  Each block's eighty words
    drive eighty rounds on five words of state; the digest is the state in
    hexadecimal. -/

namespace Stencil.Sha1

/-- The five words of state. -/
structure Words where
  a : UInt32
  b : UInt32
  c : UInt32
  d : UInt32
  e : UInt32
deriving DecidableEq, Repr

/-- The state before the first block. -/
def start : Words :=
  ⟨0x67452301, 0xEFCDAB89, 0x98BADCFE, 0x10325476, 0xC3D2E1F0⟩

/-- A word turned left by some bits. -/
def turn (word bits : UInt32) : UInt32 :=
  (word <<< bits) ||| (word >>> (32 - bits))

/-- The bytes of a number, `count` of them, the greatest first. -/
def bigEndian (count number : Nat) : List UInt8 :=
  (List.range count).reverse.map fun i => UInt8.ofNat (number >>> (8 * i))

/-- A message padded to whole blocks of 64 bytes. -/
def padded (message : List UInt8) : List UInt8 :=
  let zeros := (119 - message.length % 64) % 64
  message ++ 0x80 :: (List.replicate zeros 0 ++ bigEndian 8 (8 * message.length))

/-- The words of a list of bytes. -/
def words : List UInt8 → List UInt32
  | a :: b :: c :: d :: rest =>
    (a.toUInt32 <<< 24 ||| b.toUInt32 <<< 16 ||| c.toUInt32 <<< 8 ||| d.toUInt32) :: words rest
  | _ => []

/-- The words of a block and the ones derived from them; `recent` holds the words so far, the
    last one first. -/
def expand : Nat → List UInt32 → List UInt32
  | 0, recent => recent.reverse
  | count + 1, recent =>
    let pick (i : Nat) : UInt32 := recent.getD i 0
    expand count (turn (pick 2 ^^^ pick 7 ^^^ pick 13 ^^^ pick 15) 1 :: recent)

/-- The mixing function and the constant of a round. -/
def mixing (round : Nat) (w : Words) : UInt32 × UInt32 :=
  if round < 20 then ((w.b &&& w.c) ||| (~~~w.b &&& w.d), 0x5A827999)
  else if round < 40 then (w.b ^^^ w.c ^^^ w.d, 0x6ED9EBA1)
  else if round < 60 then ((w.b &&& w.c) ||| (w.b &&& w.d) ||| (w.c &&& w.d), 0x8F1BBCDC)
  else (w.b ^^^ w.c ^^^ w.d, 0xCA62C1D6)

/-- The rounds of the given words, counted from `round`. -/
def rounds : Nat → Words → List UInt32 → Words
  | _, w, [] => w
  | round, w, word :: rest =>
    let (mixed, constant) := mixing round w
    rounds (round + 1) ⟨turn w.a 5 + mixed + w.e + constant + word, w.a, turn w.b 30, w.c, w.d⟩ rest

/-- The state after the blocks of a padded message; `count` is the number of blocks. -/
def blocks : Nat → Words → List UInt32 → Words
  | 0, w, _ => w
  | count + 1, w, message =>
    let mixed := rounds 0 w (expand 64 (message.take 16).reverse)
    blocks count ⟨w.a + mixed.a, w.b + mixed.b, w.c + mixed.c, w.d + mixed.d, w.e + mixed.e⟩
      (message.drop 16)

/-- The digest of some bytes. -/
def digest (message : List UInt8) : Words :=
  let stream := words (padded message)
  blocks (stream.length / 16) start stream

/-- A word in hexadecimal, eight digits. -/
def hexWord (word : UInt32) : List Char :=
  let digits := Nat.toDigits 16 word.toNat
  List.replicate (8 - digits.length) '0' ++ digits

/-- The digest of a text in hexadecimal. -/
def hex (text : String) : String :=
  let w := digest text.toUTF8.toList
  String.ofList ([w.a, w.b, w.c, w.d, w.e].flatMap hexWord)

end Stencil.Sha1

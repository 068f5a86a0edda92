/-!
# A 128-bit hash of a byte sequence

XXH3 with 128 bits of output, no seed and the standard secret. The bytes are read as little-endian
words, mixed with words of the secret, and folded; how depends on the length:

* up to sixteen bytes, two or three words are mixed once (`hashShort`);
* up to 128 bytes, pairs of 32-byte pieces are taken from both ends inwards, and up to 240 bytes
  from the front, into two accumulators (`hashMedium`);
* beyond that, eight accumulators consume stripes of 64 bytes, and are scrambled after every
  sixteenth stripe (`hashLong`).

All arithmetic is on words that wrap.
-/

namespace ModelCache.Hash128

/-! ## Constants -/

def prime32a : UInt64 := 0x9E3779B1
def prime32b : UInt64 := 0x85EBCA77
def prime32c : UInt64 := 0xC2B2AE3D
def prime64a : UInt64 := 0x9E3779B185EBCA87
def prime64b : UInt64 := 0xC2B2AE3D27D4EB4F
def prime64c : UInt64 := 0x165667B19E3779F9
def prime64d : UInt64 := 0x85EBCA77C2B2AE63
def prime64e : UInt64 := 0x27D4EB2F165667C5
def mixerA : UInt64 := 0x165667919E3779F9
def mixerB : UInt64 := 0x9FB21C651E98DF25

/-- The standard secret, 192 bytes. -/
def secret : ByteArray := ⟨#[
  0xb8, 0xfe, 0x6c, 0x39, 0x23, 0xa4, 0x4b, 0xbe, 0x7c, 0x01, 0x81, 0x2c, 0xf7, 0x21, 0xad, 0x1c,
  0xde, 0xd4, 0x6d, 0xe9, 0x83, 0x90, 0x97, 0xdb, 0x72, 0x40, 0xa4, 0xa4, 0xb7, 0xb3, 0x67, 0x1f,
  0xcb, 0x79, 0xe6, 0x4e, 0xcc, 0xc0, 0xe5, 0x78, 0x82, 0x5a, 0xd0, 0x7d, 0xcc, 0xff, 0x72, 0x21,
  0xb8, 0x08, 0x46, 0x74, 0xf7, 0x43, 0x24, 0x8e, 0xe0, 0x35, 0x90, 0xe6, 0x81, 0x3a, 0x26, 0x4c,
  0x3c, 0x28, 0x52, 0xbb, 0x91, 0xc3, 0x00, 0xcb, 0x88, 0xd0, 0x65, 0x8b, 0x1b, 0x53, 0x2e, 0xa3,
  0x71, 0x64, 0x48, 0x97, 0xa2, 0x0d, 0xf9, 0x4e, 0x38, 0x19, 0xef, 0x46, 0xa9, 0xde, 0xac, 0xd8,
  0xa8, 0xfa, 0x76, 0x3f, 0xe3, 0x9c, 0x34, 0x3f, 0xf9, 0xdc, 0xbb, 0xc7, 0xc7, 0x0b, 0x4f, 0x1d,
  0x8a, 0x51, 0xe0, 0x4b, 0xcd, 0xb4, 0x59, 0x31, 0xc8, 0x9f, 0x7e, 0xc9, 0xd9, 0x78, 0x73, 0x64,
  0xea, 0xc5, 0xac, 0x83, 0x34, 0xd3, 0xeb, 0xc3, 0xc5, 0x81, 0xa0, 0xff, 0xfa, 0x13, 0x63, 0xeb,
  0x17, 0x0d, 0xdd, 0x51, 0xb7, 0xf0, 0xda, 0x49, 0xd3, 0x16, 0x55, 0x26, 0x29, 0xd4, 0x68, 0x9e,
  0x2b, 0x16, 0xbe, 0x58, 0x7d, 0x47, 0xa1, 0xfc, 0x8f, 0xf8, 0xb8, 0xd1, 0x7a, 0xd0, 0x31, 0xce,
  0x45, 0xcb, 0x3a, 0x8f, 0x95, 0x16, 0x04, 0x28, 0xaf, 0xd7, 0xfb, 0xca, 0xbb, 0x4b, 0x40, 0x7e]⟩

/-! ## Words -/

/-- The byte at an index as a word; zero past the end. -/
def byteAt (data : ByteArray) (i : Nat) : UInt64 :=
  if h : i < data.size then data[i].toUInt64 else 0

/-- The four bytes at an index, the first one lowest. -/
def word32 (data : ByteArray) (i : Nat) : UInt64 :=
  byteAt data i ||| (byteAt data (i + 1) <<< 8) ||| (byteAt data (i + 2) <<< 16)
    ||| (byteAt data (i + 3) <<< 24)

/-- The eight bytes at an index, the first one lowest. -/
def word64 (data : ByteArray) (i : Nat) : UInt64 :=
  word32 data i ||| (word32 data (i + 4) <<< 32)

/-- The eight bytes of a word, lowest first. -/
def bytesOfWord (w : UInt64) : List UInt8 :=
  (List.range 8).map fun i => (w >>> (UInt64.ofNat (8 * i))).toUInt8

def low32 (w : UInt64) : UInt64 := w &&& 0xFFFFFFFF

def swap32 (w : UInt64) : UInt64 :=
  let second : UInt64 := w >>> 8
  let third : UInt64 := w >>> 16
  let fourth : UInt64 := w >>> 24
  ((w &&& 0xFF) <<< 24) ||| ((second &&& 0xFF) <<< 16) ||| ((third &&& 0xFF) <<< 8)
    ||| (fourth &&& 0xFF)

def swap64 (w : UInt64) : UInt64 := (swap32 (low32 w) <<< 32) ||| swap32 (w >>> 32)

/-- A word folded onto itself, shifted right. -/
def fold (w shift : UInt64) : UInt64 := w ^^^ (w >>> shift)

/-- A number of 128 bits in two words. -/
structure Wide where
  low : UInt64
  high : UInt64
  deriving DecidableEq, Repr

/-- The full product of two words. -/
def product (a b : UInt64) : Wide :=
  let p := a.toNat * b.toNat
  ⟨UInt64.ofNat p, UInt64.ofNat (p >>> 64)⟩

/-- The two halves of the full product, folded together. -/
def foldedProduct (a b : UInt64) : UInt64 :=
  let p := product a b
  p.low ^^^ p.high

/-! ## Final mixes -/

/-- The mix that ends the hashing of at least four bytes. -/
def finish (w : UInt64) : UInt64 := fold (fold w 37 * mixerA) 32

/-- The mix that ends the hashing of up to three bytes. -/
def finishTiny (w : UInt64) : UInt64 := fold (fold (fold w 33 * prime64b) 29 * prime64c) 32

/-! ## Up to sixteen bytes -/

def hashEmpty : Wide :=
  ⟨finishTiny (word64 secret 64 ^^^ word64 secret 72),
   finishTiny (word64 secret 80 ^^^ word64 secret 88)⟩

/-- The hash of one to three bytes. -/
def hashTiny (data : ByteArray) : Wide :=
  let n := data.size
  let combined := (byteAt data 0 <<< 16) ||| (byteAt data (n / 2) <<< 24)
    ||| byteAt data (n - 1) ||| (UInt64.ofNat n <<< 8)
  let swapped := swap32 combined
  let turned := low32 (swapped <<< 13) ||| (swapped >>> 19)
  ⟨finishTiny (combined ^^^ (word32 secret 0 ^^^ word32 secret 4)),
   finishTiny (turned ^^^ (word32 secret 8 ^^^ word32 secret 12))⟩

/-- The hash of four to eight bytes. -/
def hashSmall (data : ByteArray) : Wide :=
  let n := data.size
  let input := word32 data 0 + (word32 data (n - 4) <<< 32)
  let keyed := input ^^^ (word64 secret 16 ^^^ word64 secret 24)
  let p := product keyed (prime64a + UInt64.ofNat (4 * n))
  let high := p.high + (p.low <<< 1)
  let low := p.low ^^^ (high >>> 3)
  ⟨fold (fold low 35 * mixerB) 28, finish high⟩

/-- The hash of nine to sixteen bytes. -/
def hashShort (data : ByteArray) : Wide :=
  let n := data.size
  let first := word64 data 0
  let last := word64 data (n - 8)
  let p := product (first ^^^ last ^^^ (word64 secret 32 ^^^ word64 secret 40)) prime64a
  let low := p.low + (UInt64.ofNat (n - 1) <<< 54)
  let keyed := last ^^^ (word64 secret 48 ^^^ word64 secret 56)
  let high := p.high + keyed + low32 keyed * (prime32b - 1)
  let q := product (low ^^^ swap64 high) prime64b
  ⟨finish q.low, finish (q.high + high * prime64b)⟩

/-! ## Up to 240 bytes -/

/-- Sixteen bytes of data mixed with sixteen bytes of the secret. -/
def mix16 (data : ByteArray) (i key : Nat) : UInt64 :=
  foldedProduct (word64 data i ^^^ word64 secret key)
    (word64 data (i + 8) ^^^ word64 secret (key + 8))

/-- Two pieces of sixteen bytes, at `i` and `j`, taken into the accumulators. -/
def mix32 (data : ByteArray) (acc : Wide) (i j key : Nat) : Wide :=
  ⟨(acc.low + mix16 data i key) ^^^ (word64 data j + word64 data (j + 8)),
   (acc.high + mix16 data j (key + 16)) ^^^ (word64 data i + word64 data (i + 8))⟩

/-- The accumulators before the first piece. -/
def startWide (n : Nat) : Wide := ⟨UInt64.ofNat n * prime64a, 0⟩

/-- The hash that the accumulators hold after the last piece. -/
def closeWide (acc : Wide) (n : Nat) : Wide :=
  ⟨finish (acc.low + acc.high),
   0 - finish (acc.low * prime64a + acc.high * prime64d + UInt64.ofNat n * prime64b)⟩

/-- The hash of 17 to 128 bytes: the pieces nearest the middle first. -/
def hashMedium (data : ByteArray) : Wide :=
  let n := data.size
  let rounds := (n - 1) / 32
  let acc := (List.range (rounds + 1)).reverse.foldl
    (fun acc r => mix32 data acc (16 * r) (n - 16 * (r + 1)) (32 * r)) (startWide n)
  closeWide acc n

/-- The hash of 129 to 240 bytes: pieces from the front, with the accumulators mixed after the
fourth, and the last 32 bytes at the end. -/
def hashLarge (data : ByteArray) : Wide :=
  let n := data.size
  let acc := (List.range 4).foldl
    (fun acc r => mix32 data acc (32 * r) (32 * r + 16) (32 * r)) (startWide n)
  let acc : Wide := ⟨finish acc.low, finish acc.high⟩
  let acc := (List.range (n / 32 - 4)).foldl
    (fun acc r => mix32 data acc (128 + 32 * r) (128 + 32 * r + 16) (3 + 32 * r)) acc
  closeWide (mix32 data acc (n - 16) (n - 32) 103) n

/-! ## Beyond 240 bytes -/

/-- The eight accumulators before the first stripe. -/
def startLanes : Array UInt64 :=
  #[prime32c, prime64a, prime64b, prime64c, prime64d, prime32b, prime64e, prime32a]

def lane (acc : Array UInt64) (i : Nat) : UInt64 := acc[i]?.getD 0

/-- One stripe of 64 bytes taken into the accumulators: each word goes into its neighbour as it is,
and into its own accumulator as the product of its keyed halves. -/
def takeStripe (data : ByteArray) (acc : Array UInt64) (i key : Nat) : Array UInt64 :=
  Array.ofFn fun l : Fin 8 =>
    let keyed := word64 data (i + 8 * l) ^^^ word64 secret (key + 8 * l)
    let neighbour := if l.val % 2 = 0 then l.val + 1 else l.val - 1
    lane acc l + word64 data (i + 8 * neighbour) + low32 keyed * (keyed >>> 32)

/-- The accumulators between two blocks of sixteen stripes. -/
def scramble (acc : Array UInt64) : Array UInt64 :=
  Array.ofFn fun l : Fin 8 =>
    (fold (lane acc l) 47 ^^^ word64 secret (128 + 8 * l)) * prime32a

/-- A number of stripes from `start` on, each with the key eight bytes further. -/
def takeStripes (data : ByteArray) (acc : Array UInt64) (start count : Nat) : Array UInt64 :=
  (List.range count).foldl (fun acc s => takeStripe data acc (start + 64 * s) (8 * s)) acc

/-- The accumulators folded into one word. -/
def mergeLanes (acc : Array UInt64) (key : Nat) (start : UInt64) : UInt64 :=
  finish ((List.range 4).foldl (fun sum i =>
    sum + foldedProduct (lane acc (2 * i) ^^^ word64 secret (key + 16 * i))
      (lane acc (2 * i + 1) ^^^ word64 secret (key + 16 * i + 8))) start)

/-- The hash of more than 240 bytes. -/
def hashLong (data : ByteArray) : Wide :=
  let n := data.size
  let blocks := (n - 1) / 1024
  let acc := (List.range blocks).foldl
    (fun acc b => scramble (takeStripes data acc (1024 * b) 16)) startLanes
  let acc := takeStripes data acc (1024 * blocks) ((n - 1 - 1024 * blocks) / 64)
  let acc := takeStripe data acc (n - 64) 121
  ⟨mergeLanes acc 11 (UInt64.ofNat n * prime64a),
   mergeLanes acc 117 (~~~(UInt64.ofNat n * prime64b))⟩

def hash (data : ByteArray) : Wide :=
  let n := data.size
  if n = 0 then hashEmpty
  else if n ≤ 3 then hashTiny data
  else if n ≤ 8 then hashSmall data
  else if n ≤ 16 then hashShort data
  else if n ≤ 128 then hashMedium data
  else if n ≤ 240 then hashLarge data
  else hashLong data

end ModelCache.Hash128

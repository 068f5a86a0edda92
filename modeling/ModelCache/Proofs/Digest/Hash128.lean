import ModelCache.Digest.Hash128

/-!
# The hash of long data, read from the front

`hashLong` looks up every byte by its position, which a kernel that evaluates it pays for with a walk
from the front of the data each time. `hashDropping` is the same computation, but what lies before a
stripe is dropped once for all of its words.

* **`word64_eq`** — a word is the first one of what is left when the bytes before it are dropped.
* **`hash_eq_hashDropping`** — the two computations agree on data of a single block.
-/

namespace ModelCache.Hash128

def bytesOf (data : ByteArray) : List UInt8 := data.data.toList

def byteIn (bytes : List UInt8) (i : Nat) : UInt64 := (bytes[i]?.getD 0).toUInt64

/-- The first eight bytes of a list as a word, the first one lowest. -/
def firstWord (bytes : List UInt8) : UInt64 :=
  (byteIn bytes 0 ||| (byteIn bytes 1 <<< 8) ||| (byteIn bytes 2 <<< 16) ||| (byteIn bytes 3 <<< 24))
    ||| ((byteIn bytes 4 ||| (byteIn bytes 5 <<< 8) ||| (byteIn bytes 6 <<< 16)
      ||| (byteIn bytes 7 <<< 24)) <<< 32)

/-- The first stripe of `bytes` taken into the accumulators. -/
def mixStripe (acc : Array UInt64) (bytes keys : List UInt8) : Array UInt64 :=
  Array.ofFn fun l : Fin 8 =>
    let keyed := firstWord (bytes.drop (8 * l)) ^^^ firstWord (keys.drop (8 * l))
    let neighbour := if l.val % 2 = 0 then l.val + 1 else l.val - 1
    lane acc l + firstWord (bytes.drop (8 * neighbour)) + low32 keyed * (keyed >>> 32)

/-- The hash of more than 240 bytes that make a single block. -/
def hashDropping (bytes : List UInt8) : Wide :=
  let n := bytes.length
  let keys := bytesOf secret
  let acc := (List.range ((n - 1) / 64)).foldl
    (fun acc s => mixStripe acc (bytes.drop (64 * s)) (keys.drop (8 * s))) startLanes
  let acc := mixStripe acc (bytes.drop (n - 64)) (keys.drop 121)
  ⟨mergeLanes acc 11 (UInt64.ofNat n * prime64a),
   mergeLanes acc 117 (~~~(UInt64.ofNat n * prime64b))⟩

theorem byteAt_eq (data : ByteArray) (i j : Nat) :
    byteAt data (i + j) = byteIn ((bytesOf data).drop i) j := by
  unfold byteAt byteIn bytesOf
  rw [List.getElem?_drop, Array.getElem?_toList]
  split
  case isTrue h =>
    rw [Array.getElem?_eq_getElem h]
    rfl
  case isFalse h =>
    rw [Array.getElem?_eq_none (Nat.le_of_not_lt h)]
    rfl

theorem word64_eq (data : ByteArray) (i : Nat) :
    word64 data i = firstWord ((bytesOf data).drop i) := by
  have hfirst : byteAt data i = byteIn ((bytesOf data).drop i) 0 := byteAt_eq data i 0
  unfold word64 word32
  rw [hfirst]
  simp only [Nat.add_assoc, byteAt_eq]
  rfl

theorem takeStripe_eq (data : ByteArray) (acc : Array UInt64) (i key : Nat) :
    takeStripe data acc i key =
      mixStripe acc ((bytesOf data).drop i) ((bytesOf secret).drop key) := by
  unfold takeStripe mixStripe
  simp only [word64_eq, List.drop_drop]

theorem hash_eq_hashDropping {bytes : List UInt8} (hlong : 240 < bytes.length)
    (hblock : bytes.length ≤ 1024) : hash bytes.toByteArray = hashDropping bytes := by
  have hsize : bytes.toByteArray.size = bytes.length := List.size_toByteArray
  have hbytes : bytesOf bytes.toByteArray = bytes := by simp [bytesOf]
  unfold hash
  dsimp only
  rw [hsize]
  rw [if_neg (by omega), if_neg (by omega), if_neg (by omega), if_neg (by omega),
    if_neg (by omega), if_neg (by omega)]
  unfold hashLong hashDropping takeStripes
  dsimp only
  have hblocks : (bytes.length - 1) / 1024 = 0 := by omega
  rw [hsize, hblocks]
  simp only [takeStripe_eq, hbytes, List.range_zero, List.foldl_nil, Nat.mul_zero, Nat.zero_add,
    Nat.sub_zero]

end ModelCache.Hash128

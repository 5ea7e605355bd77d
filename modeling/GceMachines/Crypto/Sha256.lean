/-!
# SHA-256

A message is filled up to whole blocks of 64 bytes, which are mixed one after the other into a
state of eight words.

* `Sha256.digest`: the 32 bytes of a message's hash.
* `length_padding`: a filled message is a whole number of blocks.
-/

namespace GceMachines.Sha256

/-- The first 32 bits behind the point of the cube roots of the first 64 primes. -/
def roundConstants : List UInt32 := [
  0x428a2f98, 0x71374491, 0xb5c0fbcf, 0xe9b5dba5, 0x3956c25b, 0x59f111f1, 0x923f82a4, 0xab1c5ed5,
  0xd807aa98, 0x12835b01, 0x243185be, 0x550c7dc3, 0x72be5d74, 0x80deb1fe, 0x9bdc06a7, 0xc19bf174,
  0xe49b69c1, 0xefbe4786, 0x0fc19dc6, 0x240ca1cc, 0x2de92c6f, 0x4a7484aa, 0x5cb0a9dc, 0x76f988da,
  0x983e5152, 0xa831c66d, 0xb00327c8, 0xbf597fc7, 0xc6e00bf3, 0xd5a79147, 0x06ca6351, 0x14292967,
  0x27b70a85, 0x2e1b2138, 0x4d2c6dfc, 0x53380d13, 0x650a7354, 0x766a0abb, 0x81c2c92e, 0x92722c85,
  0xa2bfe8a1, 0xa81a664b, 0xc24b8b70, 0xc76c51a3, 0xd192e819, 0xd6990624, 0xf40e3585, 0x106aa070,
  0x19a4c116, 0x1e376c08, 0x2748774c, 0x34b0bcb5, 0x391c0cb3, 0x4ed8aa4a, 0x5b9cca4f, 0x682e6ff3,
  0x748f82ee, 0x78a5636f, 0x84c87814, 0x8cc70208, 0x90befffa, 0xa4506ceb, 0xbef9a3f7, 0xc67178f2]

/-- The eight words that are mixed. -/
structure State where
  a : UInt32
  b : UInt32
  c : UInt32
  d : UInt32
  e : UInt32
  f : UInt32
  g : UInt32
  h : UInt32
  deriving DecidableEq, Repr

/-- The first 32 bits behind the point of the square roots of the first eight primes. -/
def start : State :=
  ⟨0x6a09e667, 0xbb67ae85, 0x3c6ef372, 0xa54ff53a, 0x510e527f, 0x9b05688c, 0x1f83d9ab, 0x5be0cd19⟩

/-- A word turned to the right. -/
def turn (x n : UInt32) : UInt32 := (x >>> n) ||| (x <<< (32 - n))

/-! ### Padding -/

/-- How many zero bytes follow the mark behind a message. -/
def zeros (size : Nat) : Nat := (119 - size % 64) % 64

/-- A number as bytes, the highest first. -/
def bigEndian : (count n : Nat) → List UInt8
  | 0, _ => []
  | k + 1, n => bigEndian k (n / 256) ++ [UInt8.ofNat n]

theorem length_bigEndian (k n : Nat) : (bigEndian k n).length = k := by
  induction k generalizing n with
  | zero => rfl
  | succ k ih => simp [bigEndian, ih]

/-- What is put behind a message: a mark, zeros, and its length in bits. -/
def padding (size : Nat) : List UInt8 :=
  0x80 :: List.replicate (zeros size) 0 ++ bigEndian 8 (8 * size)

theorem length_padding (size : Nat) : (size + (padding size).length) % 64 = 0 := by
  simp only [padding, zeros, List.length_append, List.length_cons, List.length_replicate,
    length_bigEndian]
  omega

/-! ### Blocks -/

/-- Four bytes each as one word. -/
def words : List UInt8 → List UInt32
  | a :: b :: c :: d :: rest =>
    (a.toUInt32 <<< 24 ||| b.toUInt32 <<< 16 ||| c.toUInt32 <<< 8 ||| d.toUInt32) :: words rest
  | _ => []

/-- Words continued by `n` more, the latest first. -/
def expand : (n : Nat) → List UInt32 → List UInt32
  | 0, ws => ws
  | n + 1, ws =>
    let w15 := ws.getD 14 0
    let w2 := ws.getD 1 0
    let s0 := turn w15 7 ^^^ turn w15 18 ^^^ (w15 >>> 3)
    let s1 := turn w2 17 ^^^ turn w2 19 ^^^ (w2 >>> 10)
    expand n ((ws.getD 15 0 + s0 + ws.getD 6 0 + s1) :: ws)

/-- The 64 words that a block of 16 is mixed with. -/
def schedule (block : List UInt32) : List UInt32 := (expand 48 block.reverse).reverse

/-- One round: a constant and a word are mixed into the state. -/
def round (s : State) (k w : UInt32) : State :=
  let s1 := turn s.e 6 ^^^ turn s.e 11 ^^^ turn s.e 25
  let choice := (s.e &&& s.f) ^^^ (~~~s.e &&& s.g)
  let t1 := s.h + s1 + choice + k + w
  let s0 := turn s.a 2 ^^^ turn s.a 13 ^^^ turn s.a 22
  let majority := (s.a &&& s.b) ^^^ (s.a &&& s.c) ^^^ (s.b &&& s.c)
  ⟨t1 + s0 + majority, s.a, s.b, s.c, s.d + t1, s.e, s.f, s.g⟩

/-- A block mixed into the state. -/
def mix (s : State) (block : List UInt32) : State :=
  let t := (roundConstants.zip (schedule block)).foldl (fun t (k, w) => round t k w) s
  ⟨s.a + t.a, s.b + t.b, s.c + t.c, s.d + t.d, s.e + t.e, s.f + t.f, s.g + t.g, s.h + t.h⟩

/-- The state after `n` blocks of words. -/
def mixAll : (n : Nat) → List UInt32 → State → State
  | 0, _, s => s
  | n + 1, ws, s => mixAll n (ws.drop 16) (mix s (ws.take 16))

/-- The bytes of a state. -/
def State.bytes (s : State) : List UInt8 :=
  [s.a, s.b, s.c, s.d, s.e, s.f, s.g, s.h].flatMap fun w => bigEndian 4 w.toNat

/-- **The hash of a message.** -/
def digest (message : List UInt8) : List UInt8 :=
  let filled := message ++ padding message.length
  (mixAll (filled.length / 64) (words filled) start).bytes

theorem length_digest (message : List UInt8) : (digest message).length = 32 := by
  simp [digest, State.bytes, length_bigEndian]

end GceMachines.Sha256

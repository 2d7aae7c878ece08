import CardVault.Text

/-!
SHA-256 on bytes, and the keyed digest built from it. A message is padded to whole blocks of 64
bytes; a block is mixed into the state in 64 rounds, each with the word at the front of a sliding
window of sixteen.
-/

namespace CardVault.Digest

structure State where
  a : UInt32
  b : UInt32
  c : UInt32
  d : UInt32
  e : UInt32
  f : UInt32
  g : UInt32
  h : UInt32

-- The first 32 bits of the fractions of the square roots of the first eight primes.
def initial : State :=
  ⟨0x6a09e667, 0xbb67ae85, 0x3c6ef372, 0xa54ff53a, 0x510e527f, 0x9b05688c, 0x1f83d9ab, 0x5be0cd19⟩

-- The first 32 bits of the fractions of the cube roots of the first 64 primes.
def roundConstants : List UInt32 :=
  [0x428a2f98, 0x71374491, 0xb5c0fbcf, 0xe9b5dba5, 0x3956c25b, 0x59f111f1,
  0x923f82a4, 0xab1c5ed5, 0xd807aa98, 0x12835b01, 0x243185be, 0x550c7dc3,
  0x72be5d74, 0x80deb1fe, 0x9bdc06a7, 0xc19bf174, 0xe49b69c1, 0xefbe4786,
  0x0fc19dc6, 0x240ca1cc, 0x2de92c6f, 0x4a7484aa, 0x5cb0a9dc, 0x76f988da,
  0x983e5152, 0xa831c66d, 0xb00327c8, 0xbf597fc7, 0xc6e00bf3, 0xd5a79147,
  0x06ca6351, 0x14292967, 0x27b70a85, 0x2e1b2138, 0x4d2c6dfc, 0x53380d13,
  0x650a7354, 0x766a0abb, 0x81c2c92e, 0x92722c85, 0xa2bfe8a1, 0xa81a664b,
  0xc24b8b70, 0xc76c51a3, 0xd192e819, 0xd6990624, 0xf40e3585, 0x106aa070,
  0x19a4c116, 0x1e376c08, 0x2748774c, 0x34b0bcb5, 0x391c0cb3, 0x4ed8aa4a,
  0x5b9cca4f, 0x682e6ff3, 0x748f82ee, 0x78a5636f, 0x84c87814, 0x8cc70208,
  0x90befffa, 0xa4506ceb, 0xbef9a3f7, 0xc67178f2]

def rotate (word amount : UInt32) : UInt32 :=
  (word >>> amount) ||| (word <<< (32 - amount))

def wordBytes (word : UInt32) : Bytes :=
  [(word >>> 24).toUInt8, (word >>> 16).toUInt8, (word >>> 8).toUInt8, word.toUInt8]

def words : Bytes → List UInt32
  | a :: b :: c :: d :: rest =>
      ((a.toUInt32 <<< 24) ||| (b.toUInt32 <<< 16) ||| (c.toUInt32 <<< 8) ||| d.toUInt32) ::
        words rest
  | _ => []

def extend (window : List UInt32) : UInt32 :=
  let near := window.getD 14 0
  let far := window.getD 1 0
  (rotate near 17 ^^^ rotate near 19 ^^^ (near >>> 10)) + window.getD 9 0 +
    (rotate far 7 ^^^ rotate far 18 ^^^ (far >>> 3)) + window.getD 0 0

def round (state : State) (constant word : UInt32) : State :=
  let choice := (state.e &&& state.f) ^^^ (~~~state.e &&& state.g)
  let majority := (state.a &&& state.b) ^^^ (state.a &&& state.c) ^^^ (state.b &&& state.c)
  let first := state.h + (rotate state.e 6 ^^^ rotate state.e 11 ^^^ rotate state.e 25) +
    choice + constant + word
  let second := (rotate state.a 2 ^^^ rotate state.a 13 ^^^ rotate state.a 22) + majority
  ⟨first + second, state.a, state.b, state.c, state.d + first, state.e, state.f, state.g⟩

def rounds : List UInt32 → List UInt32 → State → State
  | constant :: constants, word :: window, state =>
      rounds constants (window ++ [extend (word :: window)]) (round state constant word)
  | _, _, state => state

def absorb (state : State) (block : Bytes) : State :=
  let mixed := rounds roundConstants (words block) state
  ⟨state.a + mixed.a, state.b + mixed.b, state.c + mixed.c, state.d + mixed.d,
    state.e + mixed.e, state.f + mixed.f, state.g + mixed.g, state.h + mixed.h⟩

/-- The bit that ends a message, zeros up to the last eight bytes of a block, and there the length
of the message in bits. -/
def padding (size : Nat) : Bytes :=
  let bits := UInt64.ofNat (8 * size)
  (0x80 : UInt8) :: List.replicate ((119 - size % 64) % 64) 0 ++
    wordBytes (bits >>> 32).toUInt32 ++ wordBytes bits.toUInt32

def output (state : State) : Bytes :=
  [state.a, state.b, state.c, state.d, state.e, state.f, state.g, state.h].flatMap wordBytes

def sha256 (message : Bytes) : Bytes :=
  output ((slices 64 (message ++ padding message.length)).foldl absorb initial)

theorem sha256_length (message : Bytes) : (sha256 message).length = 32 := rfl

def hmac (key message : Bytes) : Bytes :=
  let padded := key ++ List.replicate (64 - key.length) 0
  let inner := sha256 (padded.map (· ^^^ 0x36) ++ message)
  sha256 (padded.map (· ^^^ 0x5c) ++ inner)

end CardVault.Digest

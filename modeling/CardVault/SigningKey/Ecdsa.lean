import CardVault.Digest
import CardVault.SigningKey.Curve
import CardVault.SigningKey.Der

/-!
Signatures over SHA-256 on an elliptic curve. The number that must never come back is drawn from the
secret and the message by a keyed digest, so that signing needs no randomness and the same message
always has the same signature.
-/

namespace CardVault.Ecdsa

structure Mark where
  r : Nat
  s : Nat
deriving DecidableEq, Repr

namespace Mark

def encode (mark : Mark) : Bytes :=
  Der.write .sequence (Der.writeNatural mark.r ++ Der.writeNatural mark.s)

def reader : Reader Mark := Reader.sequence do
  let r ← Reader.natural
  let s ← Reader.natural
  return ⟨r, s⟩

def decode? (bytes : Bytes) : Option Mark :=
  (Reader.value? reader bytes).filter (·.encode = bytes)

end Mark

variable (curve : Curve)

/-- The number in front of some bytes, of no more bits than the order of the curve. -/
def leading (bytes : Bytes) : Nat :=
  Number.ofBytes bytes >>> (8 * bytes.length - Number.bits curve.order)

def digest (message : Bytes) : Nat :=
  leading curve (Digest.sha256 message)

structure Source where
  key : Bytes
  value : Bytes

namespace Source

def mix (source : Source) (seed : Bytes) : Source :=
  let key := Digest.hmac source.key (source.value ++ seed)
  ⟨key, Digest.hmac key source.value⟩

def start (secret : Nat) (message : Bytes) : Source :=
  let width := Number.width curve.order
  let seed := Number.toBytes width secret ++
    Number.toBytes width (digest curve message % curve.order)
  let fresh : Source := ⟨List.replicate 32 0, List.replicate 32 1⟩
  (fresh.mix (0 :: seed)).mix (1 :: seed)

def draw (source : Source) : Nat → Source × Bytes
  | 0 => (source, [])
  | more + 1 =>
      let value := Digest.hmac source.key source.value
      let (last, others) := draw ⟨source.key, value⟩ more
      (last, value ++ others)

end Source

def markWith? (secret number : Nat) (message : Bytes) : Option Mark :=
  if number = 0 ∨ number ≥ curve.order then none
  else match curve.multiply number curve.base with
    | .infinity => none
    | .affine x _ =>
        let r := curve.ground.toNumber x % curve.order
        let s := (Ground.prime curve.order).inverse number *
          (digest curve message + r * secret) % curve.order
        if r = 0 ∨ s = 0 then none else some ⟨r, s⟩

-- A number is unfit about every other time at worst, so the tries do not run out.
def attempt (secret : Nat) (message : Bytes) : Nat → Source → Option Mark
  | 0, _ => none
  | tries + 1, source =>
      let (after, drawn) := source.draw ((Number.bits curve.order + 255) / 256)
      match markWith? curve secret (leading curve drawn) message with
      | some mark => some mark
      | none => attempt secret message tries (after.mix [0])

def sign? (secret : Nat) (message : Bytes) : Option Mark :=
  attempt curve secret message 1000 (Source.start curve secret message)

def verify (point : Point) (message : Bytes) (mark : Mark) : Bool :=
  if mark.r = 0 ∨ mark.r ≥ curve.order ∨ mark.s = 0 ∨ mark.s ≥ curve.order then false
  else
    let inverse := (Ground.prime curve.order).inverse mark.s
    let base := curve.multiply (digest curve message * inverse) curve.base
    match curve.add base (curve.multiply (mark.r * inverse) point) with
    | .infinity => false
    | .affine x _ => curve.ground.toNumber x % curve.order == mark.r

end CardVault.Ecdsa

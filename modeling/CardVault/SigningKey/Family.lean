import CardVault.SigningKey.Der

/-!
A package of a private key names the family of the key in front of it. A package under a lock names
how it was locked instead.
-/

namespace CardVault

section

structure Algorithm where
  identifier : Bytes
  parameters? : Option Element
deriving DecidableEq, Repr

structure Package where
  algorithm : Algorithm
  secret : Bytes
deriving DecidableEq, Repr

open Reader

def Algorithm.reader : Reader Algorithm := sequence do
  let identifier ← Reader.identifier
  fun bytes =>
    if atEnd bytes then some (⟨identifier, none⟩, bytes)
    else do
      let (parameters, rest) ← any bytes
      some (⟨identifier, some parameters⟩, rest)

namespace Package

def remark : Reader Unit := sequence do
  let _ ← Reader.identifier
  let _ ← element .set (enclosed (many any))

def reader : Reader Package := sequence do
  let _version ← whole
  let algorithm ← Algorithm.reader
  let secret ← octets
  let _remarks ← optional (.place 0) (enclosed (many remark))
  return ⟨algorithm, secret⟩

def locked : Reader Package := sequence do
  let algorithm ← Algorithm.reader
  let secret ← octets
  return ⟨algorithm, secret⟩

end Package

end

/-!
The families of private keys. A key of any family but the first one cannot sign here, but it is told
from a text that holds no key at all, so its secret has to be well written.
-/

/-- Keys of the reserved family are on the one curve that has signatures of its own kind. Those of
bare secrets differ in the size of the secret. -/
inductive Family where
  | elliptic
  | reserved
  | factors
  | paddedFactors
  | logarithm
  | agreement
  | namedAgreement
  | bare (size : Nat)
deriving DecidableEq, Repr

namespace Family

open Reader

def ellipticIdentifier : Bytes :=
  [0x2a, 0x86, 0x48, 0xce, 0x3d, 0x02, 0x01]

def identifiers : List (Bytes × Family) :=
  [(ellipticIdentifier, .elliptic),
    ([0x2a, 0x81, 0x1c, 0xcf, 0x55, 0x01, 0x82, 0x2d], .reserved),
    ([0x2a, 0x86, 0x48, 0x86, 0xf7, 0x0d, 0x01, 0x01, 0x01], .factors),
    ([0x2a, 0x86, 0x48, 0x86, 0xf7, 0x0d, 0x01, 0x01, 0x0a], .paddedFactors),
    ([0x2a, 0x86, 0x48, 0xce, 0x38, 0x04, 0x01], .logarithm),
    ([0x2a, 0x86, 0x48, 0x86, 0xf7, 0x0d, 0x01, 0x03, 0x01], .agreement),
    ([0x2a, 0x86, 0x48, 0xce, 0x3e, 0x02, 0x01], .namedAgreement),
    ([0x2b, 0x65, 0x6e], .bare 32), ([0x2b, 0x65, 0x6f], .bare 56),
    ([0x2b, 0x65, 0x70], .bare 32), ([0x2b, 0x65, 0x71], .bare 57)]

def olderIdentifiers : List (Bytes × Family) :=
  [([0x55, 0x08, 0x01, 0x01], .factors),
    ([0x2b, 0x0e, 0x03, 0x02, 0x0c], .logarithm), ([0x2b, 0x0e, 0x03, 0x02, 0x0d], .logarithm),
    ([0x2b, 0x0e, 0x03, 0x02, 0x1b], .logarithm),
    ([0x2a, 0x86, 0x48, 0xce, 0x38, 0x04, 0x03], .logarithm)]

def naturals : Nat → Reader Unit
  | 0 => pure ()
  | count + 1 => do
      let _ ← natural
      naturals count

def factorNumbers : Reader Unit := sequence do
  let version ← small
  naturals 8
  let others ← optional .sequence (enclosed (many (sequence (naturals 3))))
  if version = 1 ∧ others.getD [] = [] then failure

def logarithmNumbers : Reader Unit := sequence do
  let _version ← small
  naturals 5

def logarithmModulus : Reader Nat := sequence do
  let modulus ← natural
  naturals 2
  return modulus

def agreementModulus : Reader Nat := sequence do
  let modulus ← natural
  naturals 1
  let _ ← optional .integer fun header => do
    let bytes ← plain header
    if isSmall bytes then pure () else failure
  return modulus

def groupNumbers : Reader (Nat × Nat) := sequence do
  let modulus ← natural
  naturals 1
  let order ← natural
  let _ ← optional .integer plain
  let _ ← optional .sequence (composed do
    let _ ← element .bits bits
    naturals 1)
  return (modulus, order)

def isGroupSize (modulus : Nat) : Bool :=
  modulus % 2 == 1 && 512 ≤ Number.bits modulus && Number.bits modulus ≤ 10000

/-- The digests that may be named beside a key with padding, by what their identifiers begin with. One
may also be named by the way of signing that uses it. -/
def digestRows : List (Bytes × Bytes) :=
  [([0x2a, 0x86, 0x48, 0x86, 0xf7, 0x0d, 0x01, 0x01], [3, 4, 5, 11, 12, 13, 14, 15, 16]),
    ([0x2a, 0x86, 0x48, 0x86, 0xf7, 0x0d, 0x02], [4, 5]),
    ([0x60, 0x86, 0x48, 0x01, 0x65, 0x03, 0x04, 0x02], [1, 2, 3, 4, 5, 6, 7, 8, 9, 10, 11, 12]),
    ([0x60, 0x86, 0x48, 0x01, 0x65, 0x03, 0x04, 0x03], [13, 14, 15, 16]),
    ([0x2b, 0x0e, 0x03, 0x02], [0x1a, 0x1d]), ([0x2b, 0x24, 0x03, 0x02], [1]),
    ([0x2b, 0x24, 0x03, 0x03, 0x01], [2]), ([0x28, 0xcf, 0x06, 0x03, 0x00], [0x37]),
    ([0x2b, 0x06, 0x01, 0x04, 0x01, 0x8d, 0x3a, 0x0c, 0x02, 0x01], [0x10]),
    ([0x2b, 0x06, 0x01, 0x04, 0x01, 0x8d, 0x3a, 0x0c, 0x02, 0x02], [8]),
    ([0x2a, 0x81, 0x1c, 0xcf, 0x55, 0x01, 0x83], [0x11, 0x78])]

def digests : List Bytes :=
  digestRows.flatMap fun (front, lasts) => lasts.map fun last => front ++ [last]

def maskIdentifier : Bytes :=
  [0x2a, 0x86, 0x48, 0x86, 0xf7, 0x0d, 0x01, 0x01, 0x08]

def maskDigest? (mask : Algorithm) : Option Bytes :=
  if mask.identifier = maskIdentifier then
    mask.parameters?.bind fun parameters =>
      if parameters.tag = .sequence then
        (value? Algorithm.reader parameters.whole).map Algorithm.identifier
      else none
  else none

def padding : Reader Unit := sequence do
  let digest? ← optional (.place 0) (composed Algorithm.reader)
  let mask? ← optional (.place 1) (composed Algorithm.reader)
  let _salt ← optional (.place 2) (composed whole)
  let _trailer ← optional (.place 3) (composed whole)
  let isKnown (algorithm : Algorithm) : Bool := digests.contains algorithm.identifier
  let isKnownMask (mask : Algorithm) : Bool := (maskDigest? mask).any digests.contains
  if !(digest?.all isKnown && mask?.all isKnownMask) then failure

def grouped? {α : Type} (reader : Reader α) (parameters? : Option Element) : Option α :=
  parameters?.bind fun parameters =>
    if parameters.tag = .sequence then value? reader parameters.whole else none

def acceptsPlain (family : Family) (bytes : Bytes) : Bool :=
  match family with
  | factors => (value? factorNumbers bytes).isSome
  | logarithm => (value? logarithmNumbers bytes).isSome
  | _ => false

def acceptsPackaged (family : Family) (package : Package) : Bool :=
  let parameters? := package.algorithm.parameters?
  let secret := package.secret
  match family with
  | elliptic | reserved => false
  | factors => (value? factorNumbers secret).isSome
  | paddedFactors =>
      (parameters?.isNone || (grouped? padding parameters?).isSome) &&
        (value? factorNumbers secret).isSome
  | logarithm =>
      (grouped? logarithmModulus parameters?).any (· % 2 == 1) &&
        (value? whole secret).any fun bytes => 0 ≤ signed bytes
  | agreement =>
      (grouped? agreementModulus parameters?).any isGroupSize && (value? whole secret).isSome
  | namedAgreement =>
      (grouped? groupNumbers parameters?).any (fun (modulus, order) =>
        isGroupSize modulus && Number.bits order ≤ 10000) && (value? whole secret).isSome
  | bare size => parameters?.isNone && (value? octets secret).any (·.length == size)

end Family

end CardVault

import CardVault.SigningKey.Ground

/-!
Elliptic curves `y ^ 2 + cross * x * y = x ^ 3 + square * x ^ 2 + linear * x + constant`, with a base
point of prime order, and the points on them in bytes. Points are added in coordinates that need no
division: `(x, y, z)` is the point `(x / z ^ 2, y / z ^ 3)`, and `z = 0` is the point at infinity.
-/

namespace CardVault

inductive Point where
  | infinity
  | affine (x y : Nat)
deriving DecidableEq, Repr

structure Curve where
  identifier : Bytes
  ground : Ground
  cross : Nat
  square : Nat
  linear : Nat
  constant : Nat
  base : Point
  order : Nat
deriving DecidableEq, Repr

structure Scaled where
  x : Nat
  y : Nat
  z : Nat

namespace Scaled

def infinity : Scaled :=
  ⟨1, 1, 0⟩

def ofPoint : Point → Scaled
  | .infinity => infinity
  | .affine x y => ⟨x, y, 1⟩

variable (curve : Curve)

/-- The third point on a line, turned over. The slope of the line is `rise / z`, the points on it
have `first` and `second` for `x` and the first has `height` for `y`, scaled by `z`. -/
def third (rise z first second height : Nat) : Scaled :=
  let ground := curve.ground
  let zSquare := ground.times curve.square (ground.times z z)
  let crossed := ground.times curve.cross z
  let bend := ground.plus (ground.times rise rise) (ground.times crossed rise)
  let x := ground.minus (ground.minus (ground.minus bend zSquare) first) second
  let y := ground.minus (ground.times rise (ground.minus first x)) height
  ⟨x, ground.minus y (ground.times crossed x), z⟩

def double (point : Scaled) : Scaled :=
  let ground := curve.ground
  let xSquare := ground.times point.x point.x
  let zSquare := ground.times point.z point.z
  let crossed := ground.times curve.cross point.z
  let run := ground.plus (ground.plus point.y point.y) (ground.times crossed point.x)
  let squared := ground.times (ground.times curve.square zSquare) point.x
  let cubic := ground.plus (ground.plus xSquare xSquare) xSquare
  let level := ground.times curve.linear (ground.times zSquare zSquare)
  let rise := ground.minus (ground.plus cubic (ground.plus (ground.plus squared squared) level))
    (ground.times crossed point.y)
  let runSquare := ground.times run run
  let side := ground.times point.x runSquare
  third curve rise (ground.times point.z run) side side
    (ground.times point.y (ground.times run runSquare))

def add (first second : Scaled) : Scaled :=
  let ground := curve.ground
  if first.z = 0 then second
  else if second.z = 0 then first
  else
    let firstSquare := ground.times first.z first.z
    let secondSquare := ground.times second.z second.z
    let firstX := ground.times first.x secondSquare
    let secondX := ground.times second.x firstSquare
    let firstY := ground.times first.y (ground.times second.z secondSquare)
    let secondY := ground.times second.y (ground.times first.z firstSquare)
    if firstX = secondX then if firstY = secondY then double curve first else infinity
    else
      let run := ground.minus secondX firstX
      let rise := ground.minus secondY firstY
      let runSquare := ground.times run run
      third curve rise (ground.times run (ground.times first.z second.z))
        (ground.times firstX runSquare) (ground.times secondX runSquare)
        (ground.times firstY (ground.times run runSquare))

def multiply (times : Nat) (point : Scaled) : Scaled :=
  if times = 0 then infinity
  else
    let rest := multiply (times / 2) (double curve point)
    if times % 2 = 1 then add curve point rest else rest
termination_by times

def toPoint (point : Scaled) : Point :=
  if point.z = 0 then .infinity
  else
    let ground := curve.ground
    let scale := ground.inverse point.z
    let scaleSquare := ground.times scale scale
    .affine (ground.times point.x scaleSquare)
      (ground.times point.y (ground.times scale scaleSquare))

end Scaled

/-- How a point is written: `x` with one bit of `y`, both coordinates, or both with that bit. -/
inductive Form where
  | compressed
  | full
  | hybrid
deriving DecidableEq, Repr

namespace Curve

variable (curve : Curve)

def multiply (times : Nat) (point : Point) : Point :=
  (Scaled.multiply curve (times % curve.order) (.ofPoint point)).toPoint curve

def add (first second : Point) : Point :=
  (Scaled.add curve (.ofPoint first) (.ofPoint second)).toPoint curve

def right (x : Nat) : Nat :=
  let ground := curve.ground
  let quotient := ground.plus (ground.times x (ground.plus x curve.square)) curve.linear
  ground.plus (ground.times x quotient) curve.constant

def contains (x y : Nat) : Bool :=
  let ground := curve.ground
  ground.times y (ground.plus y (ground.times curve.cross x)) == curve.right x

def width : Nat :=
  Number.width (curve.ground.size - 1)

def coordinate? (bytes : Bytes) : Option Nat :=
  let number := Number.ofBytes bytes
  if number < curve.ground.size then some (curve.ground.ofNumber number) else none

def parity (x y : Nat) : Nat :=
  match curve.ground with
  | .prime _ => y % 2
  | .binary _ _ => curve.ground.times y (curve.ground.inverse x) % 2

def encode (form : Form) : Point → Bytes
  | .infinity => [0]
  | .affine x y =>
      let xBytes := Number.toBytes curve.width (curve.ground.toNumber x)
      let yBytes := Number.toBytes curve.width (curve.ground.toNumber y)
      match form with
      | .compressed => UInt8.ofNat (2 + curve.parity x y) :: xBytes
      | .full => 4 :: xBytes ++ yBytes
      | .hybrid => UInt8.ofNat (6 + curve.parity x y) :: xBytes ++ yBytes

def decompress? (x parity : Nat) : Option Point :=
  let ground := curve.ground
  match ground with
  | .prime _ => (ground.squareRoot? (curve.right x)).bind fun root =>
      if root % 2 = parity then some (.affine x root)
      else if root = 0 then none
      else some (.affine x (ground.minus 0 root))
  | .binary degree _ =>
      if x = 0 then (ground.squareRoot? curve.constant).map (.affine 0)
      else
        let inverse := ground.inverse x
        let value := ground.times (curve.right x) (ground.times inverse inverse)
        (ground.splitRoot? degree value).map fun root =>
          .affine x (ground.times x (if root % 2 = parity then root else ground.plus root 1))

-- The first byte is 2 or 3 before `x` alone, 4 before both coordinates, and 6 or 7 before both where
-- the last bit is that of the point. A single zero is the point at infinity, which has no form.
def decode? (octets : Bytes) : Option (Option Form × Point) :=
  match octets with
  | [] => none
  | [0] => some (none, .infinity)
  | first :: coordinates => do
      let x ← curve.coordinate? (coordinates.take curve.width)
      let bit := first.toNat % 2
      if first = 2 ∨ first = 3 then
        if coordinates.length = curve.width then
          (curve.decompress? x bit).map (some .compressed, ·)
        else none
      else
        let y ← curve.coordinate? (coordinates.drop curve.width)
        if coordinates.length ≠ 2 * curve.width ∨ !curve.contains x y then none
        else if first = 4 then some (some .full, .affine x y)
        else if (first = 6 ∨ first = 7) ∧ curve.parity x y = bit then
          some (some .hybrid, .affine x y)
        else none

end Curve

end CardVault

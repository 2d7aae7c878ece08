import CardVault.Word

/-!
The fields that coordinates come from. An element of a prime field is a remainder modulo the prime. An
element of a binary field is a polynomial of zeros and ones modulo one that cannot be divided; the
coefficients are the digits of a number to the base 1024. That is room enough for an ordinary product
to add them up with no carry, as degrees are below 1024.
-/

namespace CardVault

/-- Of the polynomial of a binary field there are its degree and its other exponents. -/
inductive Ground where
  | prime (modulus : Nat)
  | binary (degree : Nat) (others : List Nat)
deriving DecidableEq, Repr

namespace Ground

def spread (number : Nat) : Nat :=
  if number = 0 then 0 else 1024 * spread (number / 2) + number % 2
termination_by number

def gather (element : Nat) : Nat :=
  if element = 0 then 0 else 2 * gather (element / 1024) + element % 2
termination_by element

def allOnes : Nat :=
  (1 <<< (10 * 2048) - 1) / 1023

def product (first second : Nat) : Nat :=
  (first * second) &&& allOnes

-- What exceeds the degree is replaced by the other terms, and each time the excess gets shorter.
def reduce (degree : Nat) (others : List Nat) : Nat → Nat → Nat
  | 0, value => value
  | steps + 1, value =>
      let excess := value >>> (10 * degree)
      if excess = 0 then value
      else reduce degree others steps ((degree :: others).foldl (fun rest exponent =>
        rest ^^^ (excess <<< (10 * exponent))) value)

variable (ground : Ground)

def size : Nat :=
  match ground with
  | prime modulus => modulus
  | binary degree _ => 1 <<< degree

def ofNumber (number : Nat) : Nat :=
  match ground with
  | prime _ => number
  | binary _ _ => spread number

def toNumber (element : Nat) : Nat :=
  match ground with
  | prime _ => element
  | binary _ _ => gather element

def plus (first second : Nat) : Nat :=
  match ground with
  | prime modulus => (first + second) % modulus
  | binary _ _ => first ^^^ second

def minus (first second : Nat) : Nat :=
  match ground with
  | prime modulus => (first + (modulus - second)) % modulus
  | binary _ _ => first ^^^ second

def times (first second : Nat) : Nat :=
  match ground with
  | prime modulus => first * second % modulus
  | binary degree others => reduce degree others degree (product first second)

def power (base exponent : Nat) : Nat :=
  if exponent = 0 then 1
  else
    let rest := power (ground.times base base) (exponent / 2)
    if exponent % 2 = 1 then ground.times base rest else rest
termination_by exponent

-- Every element but zero gives one when it is multiplied by itself as often as there are others.
def inverse (element : Nat) : Nat :=
  ground.power element (ground.size - 2)

def oddPart (number : Nat) : Nat × Nat :=
  if number % 2 = 0 ∧ 0 < number then
    let (odd, twos) := oddPart (number / 2)
    (odd, twos + 1)
  else (number, 0)
termination_by number

-- `root * root` is the square times `rest`, and squaring `rest` as often as there are steps left
-- gives one. Each step saves one squaring; `twist` needs one more of them than `rest`.
def refine : Nat → Nat → Nat → Nat → Nat
  | 0, root, _, _ => root
  | steps + 1, root, rest, twist =>
      let next := ground.times twist twist
      if ground.power rest (1 <<< steps) = 1 then refine steps root rest next
      else refine steps (ground.times root twist) (ground.times rest next) next

def primeRoot? (modulus square : Nat) : Option Nat :=
  if square = 0 then some 0
  else if ground.power square (modulus / 2) ≠ 1 then none
  else
    let (odd, twos) := oddPart (modulus - 1)
    let isNoSquare candidate := decide (ground.power candidate (modulus / 2) = modulus - 1)
    ((List.range 1000).find? isNoSquare).map fun noSquare =>
      ground.refine (twos - 1) (ground.power square ((odd + 1) / 2)) (ground.power square odd)
        (ground.power noSquare odd)

/-- A square root. In a binary field every element has one, as squaring only moves elements. -/
def squareRoot? (square : Nat) : Option Nat :=
  match ground with
  | prime modulus => ground.primeRoot? modulus square
  | binary _ _ => some (ground.power square (ground.size / 2))

/-- The sum of so many conjugates of a seed, and beside it that of the conjugates of a value, each
one times as many of those of the seed as there are after it. -/
def conjugates (seed value : Nat) : Nat → Nat × Nat
  | 0 => (seed, 0)
  | count + 1 =>
      let (sum, root) := conjugates seed value count
      let square := ground.times sum sum
      (ground.plus square seed, ground.plus (ground.times root root) (ground.times square value))

-- All conjugates of an element together make zero or one, and not zero for each power of two. With
-- a seed that makes one, the sum beside it is a solution if there is any.
def splitRoot? (degree value : Nat) : Option Nat :=
  let attempt place :=
    let (sum, root) := ground.conjugates (1 <<< (10 * place)) value (degree - 1)
    if sum = 1 then some root else none
  ((List.range degree).findSome? attempt).filter fun root =>
    ground.plus (ground.times root root) root = value

end Ground

end CardVault

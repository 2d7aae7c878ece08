import CardVault.Failure
import CardVault.Files
import CardVault.SigningKey.Curve.Named
import CardVault.SigningKey.Ecdsa
import CardVault.SigningKey.Family
import CardVault.SigningKey.Pem

/-!
The key that signs requests: a secret and the point that belongs to it, on a known curve. It stands by
itself, or in a package that names its family and its curve in front of it.
-/

namespace CardVault

-- A public point that was written without a form cannot be written again.
structure SigningKey where
  curve : Curve
  secret : Nat
  point : Point
  form? : Option Form
deriving DecidableEq, Repr

namespace SigningKey

open Reader

def onCurve? (curve : Curve) (secret : Bytes) (octets? : Option Bytes) : Option SigningKey :=
  let number := Number.ofBytes secret
  match octets? with
  | some octets => (curve.decode? octets).map fun (form?, point) => ⟨curve, number, point, form?⟩
  | none => some ⟨curve, number, curve.multiply number curve.base, some .full⟩

/-- A key on a curve. The curve is named in the key, or else was named before it; a point that is
missing is derived from the secret. -/
def reader (named? : Option Curve) : Reader SigningKey := sequence do
  let _version ← small
  let secret ← octets
  let written? ← optional (.place 0) (composed identifier)
  let octets? ← optional (.place 1) (composed (element .bits bits))
  let curve? := match written? with
    | some written => Curve.ofIdentifier? written
    | none => named?
  match curve?.bind fun curve => onCurve? curve secret octets? with
  | some key => pure key
  | none => failure

def standing? (bytes : Bytes) : Option SigningKey :=
  value? (reader none) bytes

def packaged? (package : Package) : Option SigningKey :=
  package.algorithm.parameters?.bind fun parameters =>
    if parameters.tag = .identifier then
      (Curve.ofIdentifier? parameters.content).bind fun curve =>
        value? (reader (some curve)) package.secret
    else none

def publicText (key : SigningKey) : Except Fault Text :=
  match key.form? with
  | none => .error (.crypto .general
      (text "Failed to export public key: error:08000068:elliptic curve routines::invalid form"))
  | some form =>
      let algorithm := Der.write .identifier Family.ellipticIdentifier ++
        Der.write .identifier key.curve.identifier
      .ok (Pem.print (text "PUBLIC KEY") (Der.write .sequence
        (Der.write .sequence algorithm ++
          Der.write .bits (0 :: key.curve.encode form key.point))))

def signingObstacle? (key : SigningKey) : Option Text :=
  if key.curve.hasOwnScheme then
    some (text "Failed to initialize signing: error:1C80007A:Provider routines::invalid digest")
  else if Number.bits key.secret > 768 then
    some (text "Failed to sign data: error:01800075:bignum routines::private key too large")
  else if Number.words key.secret > Number.words key.curve.order then
    some (text "Failed to sign data: error:08080003:elliptic curve routines::BN lib")
  else none

def sign (key : SigningKey) (message : Bytes) : Except Fault Bytes :=
  match key.signingObstacle? with
  | some obstacle => .error (.crypto .signing obstacle)
  | none =>
      match Ecdsa.sign? key.curve key.secret message with
      | some mark => .ok mark.encode
      | none => .error (.crypto .signing (text "Failed to sign data: "))

def verify (key : SigningKey) (message signature : Bytes) : Bool :=
  (Ecdsa.Mark.decode? signature).any (Ecdsa.verify key.curve key.point message)

end SigningKey

/-!
The private key in a text with blocks. A key stands in a block under a label that names its family, or
in a package. A text is searched twice: first for a block that can be read at all, whatever stands
before it, and then, where there is none, for the first block that should hold a private key, which
older ways of labelling and naming may still make readable.
-/

inductive KeyError where
  | cannotOpen (path : Text)
  | unreadable
  | notElliptic
deriving DecidableEq, Repr

def KeyError.fault : KeyError → Fault
  | cannotOpen path => .crypto .keyLoad (text "Cannot open key file: " ++ path)
  | unreadable => .crypto .keyLoad (text "Invalid PEM private key: ")
  | notElliptic => .crypto .keyLoad (text "Private key is not an EC key")

inductive Material where
  | elliptic (key : SigningKey)
  | foreign
deriving DecidableEq, Repr

namespace SigningKey

open Reader

def privateLabel : Text :=
  text "PRIVATE KEY"

def lockedLabel : Text :=
  text "ENCRYPTED PRIVATE KEY"

/-! The first search. A key on the curve of the reserved family is not one to sign with. -/

def familyLabels : List (Text × Family) :=
  [(text "EC PRIVATE KEY", .elliptic), (text "EC PARAMETERS", .elliptic),
    (text "SM2 PRIVATE KEY", .reserved), (text "SM2 PARAMETERS", .reserved),
    (text "RSA PRIVATE KEY", .factors), (text "RSA PUBLIC KEY", .factors),
    (text "DSA PRIVATE KEY", .logarithm), (text "DSA PUBLIC KEY", .logarithm),
    (text "DSA PARAMETERS", .logarithm), (text "DH PARAMETERS", .agreement),
    (text "X9.42 DH PARAMETERS", .namedAgreement)]

def sorted (key : SigningKey) : Material :=
  if key.curve.hasOwnScheme then .foreign else .elliptic key

def reserved? (key? : Option SigningKey) : Option Material :=
  (key?.filter (·.curve.hasOwnScheme)).map fun _ => .foreign

def foreign? (accepted : Bool) : Option Material :=
  if accepted then some .foreign else none

def unpack? (family : Family) (package : Package) : Option Material :=
  match family with
  | .elliptic => (packaged? package).map sorted
  | .reserved => reserved? (packaged? package)
  | _ => foreign? (family.acceptsPackaged package)

def ofFamily? (family : Family) (content : Bytes) : Option Material :=
  let package? := value? Package.reader content
  let named? := package?.bind fun package =>
    (Family.identifiers.lookup package.algorithm.identifier).map fun named => (named, package)
  match family with
  | .elliptic | .reserved =>
      let standing := standing? content
      let inside := named?.bind fun (named, package) =>
        if named = family ∨ named = .elliptic then packaged? package else none
      let key? := standing.or inside
      if family = .elliptic then key?.map sorted else reserved? key?
  | _ =>
      let inside := named?.any fun (named, package) =>
        named == family && family.acceptsPackaged package
      foreign? (family.acceptsPlain content || inside)

-- A shorter header says nothing.
def hasNotice (block : Pem.Block) : Bool :=
  block.header.length > 10

/-- What a block holds that has no notice, of which only the element in front counts. -/
def first? (block : Pem.Block) : Option Material :=
  if hasNotice block then none
  else (front? block.content).bind fun content =>
    if block.label = privateLabel ∨ block.label = lockedLabel then
      (value? Package.reader content).bind fun package =>
        (Family.identifiers.lookup package.algorithm.identifier).bind fun family =>
          unpack? family package
    else (familyLabels.lookup block.label).bind fun family => ofFamily? family content

/-- Whether a notice is kept in an edition that is not known. It makes its block unreadable, and no
more than that. -/
def isOtherEdition (notice : Text) : Bool :=
  let name := text "Proc-Type:"
  name.isPrefixOf notice &&
    !(text "4,").isPrefixOf ((notice.drop name.length).dropWhile fun byte => byte = 32 || byte = 9)

-- Any other notice says how the content was locked.
def isLocked (block : Pem.Block) : Bool :=
  hasNotice block && !isOtherEdition block.header ||
    (block.label == privateLabel || block.label == lockedLabel) &&
      ((front? block.content).bind (value? Package.locked)).isSome

def search? : List (Option Pem.Block) → Option Material
  | [] => none
  | none :: others => search? others
  | some block :: others =>
      if isLocked block then none else (first? block).or (search? others)

/-! The second search. -/

def familyNames : List (Text × Family) :=
  [(text "ec", .elliptic), (text "rsa", .factors), (text "dsa", .logarithm)]

def lowered (byte : UInt8) : UInt8 :=
  if 65 ≤ byte ∧ byte ≤ 90 then byte + 32 else byte

def namedFamily? (label : Text) : Option Family :=
  let ending := 32 :: privateLabel
  if ending.isSuffixOf label then
    familyNames.lookup ((label.take (label.length - ending.length)).map lowered)
  else none

def anyIdentifiers : List (Bytes × Family) :=
  Family.identifiers ++ Family.olderIdentifiers

/-- A package by any identifier, with its family. Here the reserved family is no other than that of
all keys on curves. -/
def unpackAny? (content : Bytes) : Option (Family × Material) :=
  (value? Package.reader content).bind fun package =>
    (anyIdentifiers.lookup package.algorithm.identifier).bind fun family =>
      match family with
      | .elliptic | .reserved => (packaged? package).map fun key => (.elliptic, .elliptic key)
      | _ => (foreign? (family.acceptsPackaged package)).map fun material => (family, material)

def standingOf? (family : Family) (content : Bytes) : Option Material :=
  match family with
  | .elliptic => (standing? content).map .elliptic
  | _ => foreign? (family.acceptsPlain content)

def second? (block : Pem.Block) : Option Material :=
  if block.header ≠ [] then none
  else match namedFamily? block.label with
    | some family =>
        let inside := (unpackAny? block.content).filter (·.1 = family)
        (standingOf? family block.content).or (inside.map Prod.snd)
    | none =>
        if block.label = privateLabel then (unpackAny? block.content).map Prod.snd else none

def shouldBePrivate (block : Pem.Block) : Bool :=
  [privateLabel, lockedLabel, text "ANY PRIVATE KEY"].contains block.label ||
    (namedFamily? block.label).isSome

def searchAgain? : List (Option Pem.Block) → Option Material
  | [] => none
  | none :: _ => none
  | some block :: others => if shouldBePrivate block then second? block else searchAgain? others

def parse (characters : Text) : Except KeyError SigningKey :=
  let blocks := Pem.blocks characters
  match (search? blocks).or (searchAgain? blocks) with
  | some (.elliptic key) => .ok key
  | some .foreign => .error .notElliptic
  | none => .error .unreadable

def load (path : Text) : Opened → Except KeyError SigningKey
  | .absent => .error (.cannotOpen path)
  | .directory => parse []
  | .content bytes => parse bytes

end SigningKey

end CardVault

import CardVault.Text

/-!
Base64: three bytes are written as four characters, and `=` fills the last four where the bytes run
out. Reading passes over blanks and ends of lines, and a dash ends what is read, because the line
after the characters begins with one.
-/

namespace CardVault

namespace Base64

def alphabet : Text :=
  text "ABCDEFGHIJKLMNOPQRSTUVWXYZabcdefghijklmnopqrstuvwxyz0123456789+/"

def padding : UInt8 := 61

def digit (value : Nat) : UInt8 :=
  alphabet.getD (value % 64) 0

def value? (character : UInt8) : Option Nat :=
  (alphabet.findIdx? (· == character))

def encode : Bytes → Text
  | [] => []
  | [first] =>
      let group := 16 * first.toNat
      [digit (group / 64), digit group, padding, padding]
  | [first, second] =>
      let group := 4 * (256 * first.toNat + second.toNat)
      [digit (group / 4096), digit (group / 64), digit group, padding]
  | first :: second :: third :: rest =>
      let group := 65536 * first.toNat + 256 * second.toNat + third.toNat
      digit (group / 262144) :: digit (group / 4096) :: digit (group / 64) :: digit group ::
        encode rest

def decodeGroups : Text → Option Bytes
  | [] => some []
  | first :: second :: third :: fourth :: rest => do
      let high := 64 * (← value? first) + (← value? second)
      if third = padding ∧ fourth = padding ∧ rest = [] then
        return [UInt8.ofNat (high / 16)]
      let middle := 64 * high + (← value? third)
      if fourth = padding ∧ rest = [] then
        return [UInt8.ofNat (middle / 1024), UInt8.ofNat (middle / 4)]
      let group := 64 * middle + (← value? fourth)
      let others ← decodeGroups rest
      return UInt8.ofNat (group / 65536) :: UInt8.ofNat (group / 256) :: UInt8.ofNat group :: others
  | _ => none

def isPassedOver (character : UInt8) : Bool :=
  character == 32 || character == 9 || character == 10 || character == 13

def decode (characters : Text) : Option Bytes :=
  decodeGroups ((characters.takeWhile (· != 45)).filter (!isPassedOver ·))

end Base64

/-!
Blocks of bytes in a text. A block stands between a row that begins it and a row that ends it, both
with its label; its bytes are written in base64, and a header may stand in front of them, divided
from them by an empty row. What is outside of blocks is passed over, and of a block that is badly
written only its place is known.
-/

namespace Pem

structure Block where
  label : Text
  header : Text
  content : Bytes
deriving DecidableEq, Repr

def longestRow : Nat := 254

/-- The rows of a text: each goes up to a newline, or to where there is no room for more of it. -/
def rowsFrom (room : Nat) : Text → List Text
  | [] => []
  | byte :: rest =>
      if byte = 10 ∨ room = 1 then [byte] :: rowsFrom longestRow rest
      else match rowsFrom (room - 1) rest with
        | [] => [[byte]]
        | row :: others => (byte :: row) :: others

def rows (characters : Text) : List Text :=
  rowsFrom longestRow characters

def isPart (row : Text) : Bool :=
  row.length == longestRow && row.getLast? != some 10

def isTrailing (byte : UInt8) : Bool :=
  byte ≤ 32 || byte ≥ 128

def trimmed (row : Text) : Text :=
  (row.reverse.dropWhile isTrailing).reverse

def dashes : Text :=
  text "-----"

def beginning : Text :=
  text "-----BEGIN "

def ending : Text :=
  text "-----END "

def labelOf? (row : Text) : Option Text :=
  let label := (row.drop beginning.length).take
    (row.length - beginning.length - dashes.length)
  if row = beginning ++ label ++ dashes then some (Text.untilNul label) else none

/-- What was read of a block before its end. Rows count as content until an empty row makes them the
header; after a header a content row has 64 characters, unless it is the last. -/
structure Reading where
  label : Text
  header : Text
  content : Text
  hasColon : Bool
  divided : Bool
  isLast : Bool
  afterPart : Bool

inductive Place where
  | outside (first : Bool)
  | inside (reading : Reading)

def Reading.finish (reading : Reading) : Option Block :=
  if reading.hasColon && !reading.divided then none
  else (Base64.decode reading.content).bind fun content =>
    if content = [] then none else some ⟨reading.label, reading.header, content⟩

-- A mark of the order of bytes may stand where a search for a block begins.
def withoutMark (row : Text) : Text :=
  match row with
  | 0xEF :: 0xBB :: 0xBF :: rest => rest
  | _ => row

/-- Where one is after a row. A block may have ended with the row, well or badly written. -/
structure Step where
  place : Place
  ended : Option (Option Block)

def enter (first : Bool) (row : Text) : Step :=
  match labelOf? (if first then withoutMark row else row) with
  | some label => ⟨.inside ⟨label, [], [], false, false, false, false⟩, none⟩
  | none => ⟨.outside false, none⟩

def spoil : Step :=
  ⟨.outside true, some none⟩

/-- An empty row inside a block. It means nothing where the line before it was only cut there. -/
def Reading.divide (reading : Reading) (afterPart : Bool) : Step :=
  if afterPart then ⟨.inside reading, none⟩
  else if reading.divided then spoil
  else ⟨.inside { reading with header := reading.content, content := [], divided := true }, none⟩

def Reading.take (reading : Reading) (row : Text) : Step :=
  let written := if row.contains 0 then Text.untilNul row else row ++ Text.newline
  if reading.isLast || (reading.divided && row.length > 64) then spoil
  else ⟨.inside { reading with
    content := reading.content ++ written
    isLast := reading.divided && row.length < 64 }, none⟩

def step (place : Place) (row : Text) : Step :=
  match place with
  | .outside first => enter first (trimmed row)
  | .inside before =>
      let characters := trimmed row
      let reading := { before with
        hasColon := before.hasColon || (!before.divided && row.contains 58)
        afterPart := isPart row }
      if characters = [] then reading.divide before.afterPart
      else if ending.isPrefixOf characters then
        ⟨.outside true,
          some (if characters = ending ++ reading.label ++ dashes then reading.finish else none)⟩
      else reading.take characters

def scan (place : Place) : List Text → List (Option Block)
  | [] => []
  | row :: others =>
      let next := step place row
      next.ended.toList ++ scan next.place others

def blocks (characters : Text) : List (Option Block) :=
  scan (.outside true) (rows characters)

def print (label : Text) (content : Bytes) : Text :=
  beginning ++ label ++ dashes ++ Text.newline ++
    (slices 64 (Base64.encode content)).flatMap (· ++ Text.newline) ++
    ending ++ label ++ dashes ++ Text.newline

end Pem

end CardVault

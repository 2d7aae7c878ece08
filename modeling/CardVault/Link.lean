import CardVault.Dialogue

/-!
The link to the relay in front of a card reader. Each frame travels behind its length in two bytes,
in both directions. The bytes that the relay has sent wait in `unread` until they are read; closing
an open socket loses them. A fault while a frame passes breaks the link, and only closing mends it.
-/

namespace CardVault

inductive LinkState where
  | closed
  | connecting
  | connected
  | broken
deriving DecidableEq, Repr

namespace LinkState

def all : List LinkState :=
  [closed, connecting, connected, broken]

def name : LinkState → Text
  | closed => text "CLOSED"
  | connecting => text "CONNECTING"
  | connected => text "OPEN"
  | broken => text "BROKEN"

def allows : LinkState → LinkState → Bool
  | closed, connecting | connecting, connected | connecting, closed | connected, broken
  | connected, closed | broken, closed => true
  | _, _ => false

end LinkState

def relayFrame (frame : Bytes) : Bytes :=
  Word.bytes (UInt16.ofNat frame.length) ++ frame

structure Link where
  state : LinkState
  socketOpen : Bool
  unread : Bytes
  refusals : Nat
deriving DecidableEq, Repr

namespace Link

def fresh : Link :=
  ⟨.closed, false, [], 0⟩

-- As for the phases of a transfer, a move that is not allowed is counted and nothing else.
def enter (link : Link) (target : LinkState) : Link :=
  if link.state.allows target then { link with state := target }
  else { link with refusals := link.refusals + 1 }

def deliver (link : Link) (bytes : Bytes) : Link :=
  { link with unread := link.unread ++ bytes }

def closeSocket (link : Link) : Link :=
  if link.socketOpen then { link with socketOpen := false, unread := [] } else link

def close (link : Link) : Link :=
  let quiet := link.closeSocket
  if quiet.state = .closed then quiet else quiet.enter .closed

/-- What a call on a link comes to: its value, the link after it, the bytes written and the
addresses looked up. -/
structure Step (α : Type) where
  value : α
  link : Link
  wrote : Bytes
  resolved : List Text

def connect (link : Link) (host : Text) (port : UInt16) (fault : Option Text) : Step Bool :=
  if link.state = .connected then ⟨true, link, [], []⟩
  else
    let trying := link.close.enter .connecting
    let address := host ++ text ":" ++ Text.decimal port.toNat
    match fault with
    | none => ⟨true, { trying with socketOpen := true }.enter .connected, [], [address]⟩
    | some _ => ⟨false, { trying with unread := [] }.close, [], [address]⟩

def disconnect (link : Link) : Step Unit :=
  ⟨(), link.close, [], []⟩

/-- The next bytes that the relay sent. Where there are too few, those that are there are lost. -/
def take (count : Nat) (unread : Bytes) : Option Bytes × Bytes :=
  if unread.length < count then (none, []) else (some (unread.take count), unread.drop count)

def receive : Bytes → Option Bytes × Bytes
  | high :: low :: rest => take (Word.ofBytes high low).toNat rest
  | _ => (none, [])

def fail (link : Link) (wrote wording : Bytes) : Step (Except Fault Bytes) :=
  ⟨.error (.link (text "TCP transport: Exchange failed: " ++ Text.untilNul wording)),
    link.enter .broken, wrote, []⟩

def carries (link : Link) (frame : Bytes) : Bool :=
  link.state == .connected && frame.length ≤ 65535

/-- Sends a frame and waits for the answer. A fault is the wording of what goes wrong while
writing, and then nothing is written. -/
def transmit (link : Link) (frame : Bytes) (fault : Option Text) : Step (Except Fault Bytes) :=
  if link.state ≠ .connected then
    ⟨.error (.link (text "TCP transport: Not connected")), link, [], []⟩
  else if frame.length > 65535 then
    ⟨.error (.link (text "TCP transport: Command too large for relay framing")), link, [], []⟩
  else match fault with
    | some wording => link.fail [] wording
    | none =>
        match receive link.unread with
        | (some answer, rest) =>
            ⟨.ok answer, { link with unread := rest }, relayFrame frame, []⟩
        | (none, rest) =>
            { link with unread := rest }.fail (relayFrame frame) (text "End of file")

theorem receive_relayFrame (frame rest : Bytes) (short : frame.length ≤ 65535) :
    receive (relayFrame frame ++ rest) = (some frame, rest) := by
  have size : (UInt16.ofNat frame.length).toNat = frame.length := by
    simp only [UInt16.toNat_ofNat']
    omega
  simp [receive, relayFrame, Word.bytes, take, Word.ofBytes_high_low, size]

end Link

/-!
The calls of a link as data, and the log of a run of them. An entry of the log is a call with what
had arrived from the relay since the call before it and the link as that call had left it; what the
call found and what it came to follow from these.
-/

namespace Link

/-- What goes wrong while a frame passes. Where writing fails nothing is written; reading may fail
after some bytes have been taken. -/
inductive Trouble where
  | writing (wording : Text)
  | reading (taken : Nat) (wording : Text)
deriving DecidableEq, Repr

def pass (link : Link) (frame : Bytes) : Option Trouble → Step (Except Fault Bytes)
  | none => link.transmit frame none
  | some (.writing wording) => link.transmit frame (some wording)
  | some (.reading taken wording) =>
      if link.carries frame then
        { link with unread := link.unread.drop taken }.fail (relayFrame frame) wording
      else link.transmit frame none

inductive Call where
  | connect (host : Text) (port : UInt16) (fault : Option Text)
  | disconnect
  | transmit (frame : Bytes) (trouble : Option Trouble)
deriving DecidableEq, Repr

inductive Returned where
  | connected (success : Bool)
  | disconnected
  | answered (outcome : Except Fault Bytes)

def Step.map {α β : Type} (change : α → β) (step : Step α) : Step β :=
  ⟨change step.value, step.link, step.wrote, step.resolved⟩

def perform (link : Link) : Call → Step Returned
  | .connect host port fault => (link.connect host port fault).map .connected
  | .disconnect => link.disconnect.map fun _ => .disconnected
  | .transmit frame trouble => (link.pass frame trouble).map .answered

/-- A call, and what arrives from the relay before it is made. -/
structure Request where
  arrived : Bytes
  call : Call
deriving DecidableEq, Repr

structure Entry where
  arrived : Bytes
  call : Call
  before : Link

namespace Entry

def found (entry : Entry) : Link :=
  entry.before.deliver entry.arrived

def step (entry : Entry) : Step Returned :=
  entry.found.perform entry.call

def left (entry : Entry) : Link :=
  entry.step.link

def read (entry : Entry) : Bytes :=
  match entry.step.value with
  | .answered (.ok answer) => relayFrame answer
  | _ => []

end Entry

def log (link : Link) : List Request → List Entry
  | [] => []
  | request :: requests =>
      let entry : Entry := ⟨request.arrived, request.call, link⟩
      entry :: entry.left.log requests

end Link

end CardVault

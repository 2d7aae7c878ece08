import CardVault.Program
import Std.Async.DNS
import Std.Async.TCP

/-!
The program on the files, the terminal and the network of a machine. What is decided is decided by
the shell, the session and the link; here bytes are only moved.
-/

namespace CardVault.Main

open Std.Async Std.Net

def readAll (handle : IO.FS.Handle) : IO Opened := do
  try
    return .content (← handle.readBinToEnd).toList
  catch _ => return .directory

/-- What comes of opening a path. Where a path can be opened and nothing be read, it is taken for a
directory. -/
def openFile (path : Text) : IO Opened := do
  match String.fromUTF8? (Text.untilNul path).toByteArray with
  | none => return .absent
  | some name =>
      try
        readAll (← IO.FS.Handle.mk name .read)
      catch _ => return .absent

def writeFile (path : Text) (content : Bytes) : IO Bool := do
  match String.fromUTF8? (Text.untilNul path).toByteArray with
  | none => return false
  | some name =>
      try
        IO.FS.writeBinFile name content.toByteArray
        return true
      catch _ => return false

partial def readLine? (input : IO.FS.Stream) (before : Text) : IO (Option Text) := do
  match (← input.read 1).toList with
  | [] => return if before.isEmpty then none else some before.reverse
  | byte :: _ =>
      if byte = 10 then return some before.reverse
      else readLine? input (byte :: before)

def print (output : IO.FS.Stream) (characters : Text) : IO Unit := do
  output.write characters.toByteArray
  output.flush

def socketAddress (port : UInt16) : IPAddr → SocketAddress
  | .v4 address => .v4 ⟨address, port⟩
  | .v6 address => .v6 ⟨address, port⟩

def connectAny? (port : UInt16) : List IPAddr → IO (Option TCP.Socket.Client)
  | [] => return none
  | address :: others => do
      try
        let socket ← TCP.Socket.Client.mk
        (socket.connect (socketAddress port address)).block
        socket.noDelay
        return some socket
      catch _ => connectAny? port others

def connect? (host : Text) (port : UInt16) : IO (Option TCP.Socket.Client) := do
  match String.fromUTF8? host.toByteArray with
  | none => return none
  | some name =>
      try
        let found ← (DNS.getAddrInfo name (toString port.toNat)).block
        connectAny? port found.toList
      catch _ => return none

partial def receive (socket : TCP.Socket.Client) (wanted : Nat) (before : Bytes) : IO Bytes := do
  if wanted = 0 then return before
  match ← (socket.recv? wanted.toUInt64).block with
  | none => return before
  | some bytes => receive socket (wanted - bytes.size) (before ++ bytes.toList)

/-- Writes a frame and moves the answer into the link, which then says what came of it. -/
def exchange (socket : TCP.Socket.Client) (link : IO.Ref Link) (frame : Bytes) : IO Reply := do
  let before ← link.get
  let mut arrived : Bytes := []
  let mut fault : Option Text := none
  if before.carries frame then
    try
      (socket.send (relayFrame frame).toByteArray).block
      arrived ← receive socket 2 []
      if let [high, low] := arrived then
        arrived ← receive socket (Word.ofBytes high low).toNat arrived
    catch problem => fault := some (text (toString problem))
  let step := (before.deliver arrived).transmit frame fault
  link.set step.link
  return step.value.bind Reply.ofBytes

def converse {α : Type} (socket : TCP.Socket.Client) (link : IO.Ref Link) (key : SigningKey) :
    Dialogue α → IO α
  | .done value => return value
  | .send _ frame next => do
      let reply ← exchange socket link frame
      converse socket link key (next reply)
  | .sign subject next => converse socket link key (next (key.sign subject))

def settle (output : IO.FS.Stream) : Shell.Reaction → IO Shell.Outlook
  | .quit => return .quit
  | .print characters => do
      print output characters
      return .more
  | .save file payload => do
      let written ← writeFile file payload
      print output (if written then Shell.wrote file payload else Shell.cannotOpen file)
      return .more
  | .breakOff fault => return .broken fault

partial def runShell (socket : TCP.Socket.Client) (link : IO.Ref Link) (key : SigningKey)
    (session : Session) : IO Shell.Outlook := do
  let output ← IO.getStdout
  print output Shell.prompt
  match ← readLine? (← IO.getStdin) [] with
  | none => return .more
  | some line =>
      let request := Shell.Request.parse line
      let opened ← match request with
        | .store _ _ file => openFile file
        | _ => pure .absent
      let (reaction, after) ←
        converse socket link key (Shell.react (fun _ => opened) session request)
      match ← settle output reaction with
      | .more => runShell socket link key after
      | ended => return ended

def start (options : Options) : IO (Option Text) := do
  let port := options.port.getD 0
  match SigningKey.load options.keyPath (← openFile options.keyPath) with
  | .error error => return some (Program.cannotStart error.fault.message)
  | .ok key =>
      match ← connect? options.host port with
      | none => return some (Program.cannotConnect options.host port)
      | some socket =>
          match Session.create options.settings true with
          | .error error => return some (Program.cannotStart error.message)
          | .ok session =>
              let link ← IO.mkRef (Link.fresh.connect options.host port none).link
              let outlook ← runShell socket link key session
              try socket.shutdown.block
              catch _ => pure ()
              match outlook with
              | .broken fault => return some (Program.cannotStart fault.message)
              | _ => return none

def run (arguments : List String) : IO UInt32 := do
  let program := text (← IO.appPath).toString
  let complaint? ← match Options.parse (arguments.map text) with
    | (options, none) =>
        match Program.logComplaint? options.settings.logFile with
        | some complaint => pure (some complaint)
        | none => start options
    | (_, some complaint) => pure (some (Options.complaintText program complaint))
  match complaint? with
  | none => return 0
  | some complaint =>
      print (← IO.getStderr) complaint
      return 1

end CardVault.Main

def main (arguments : List String) : IO UInt32 :=
  CardVault.Main.run arguments

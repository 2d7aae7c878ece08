import CardVault.Link
import CardVault.Options
import CardVault.Shell
import CardVault.SigningKey

/-!
A run of the program as a whole. It reads its options and its key, connects to the relay, and lets
the shell talk to the card behind the relay until its input ends. What it finds around it is given
beforehand, and what it does to it is in its report.
-/

namespace CardVault.Program

-- A fault is the wording of what goes wrong while connecting or while writing.
structure Surroundings where
  files : Files
  input : Text
  inbound : Bytes
  connectFault : Option Text
  writeFault : Option Text

structure Report where
  succeeded : Bool
  output : Text
  complaint : Text
  resolved : List Text
  wrote : Bytes
  files : Files

/-- A link with all that was written to it. -/
structure Wire where
  link : Link
  wrote : Bytes

def Wire.answer (fault : Option Text) (frame : Bytes) (wire : Wire) : Reply × Wire :=
  let step := wire.link.transmit frame fault
  (step.value.bind Reply.ofBytes, ⟨step.link, wire.wrote ++ step.wrote⟩)

def peer (key : SigningKey) (writeFault : Option Text) : Peer Wire where
  answer := Wire.answer writeFault
  sign subject wire := (key.sign subject, wire)

def cannotStart (message : Text) : Text :=
  text "Error: Failed to start client: " ++ message ++ Text.newline

def cannotConnect (host : Text) (port : UInt16) : Text :=
  text "Error: Failed to connect to " ++ host ++ text ":" ++ Text.decimal port.toNat ++
    Text.newline

def stopped (surroundings : Surroundings) (resolved : List Text) (complaint : Text) : Report :=
  ⟨false, [], complaint, resolved, [], surroundings.files⟩

def converse (surroundings : Surroundings) (key : SigningKey) (resolved : List Text)
    (link : Link) (session : Session) : Report :=
  let transcript := (Shell.run surroundings.files session surroundings.input).run
    (peer key surroundings.writeFault) ⟨link, []⟩
  let last := transcript.value
  let report : Report := ⟨true, last.output, [], resolved, transcript.peer.wrote, last.files⟩
  match last.outlook with
  | .broken fault => { report with succeeded := false, complaint := cannotStart fault.message }
  | _ => report

/-- The complaint about a log file that cannot be found a place for, which only a path of no
characters cannot. -/
def logComplaint? (logFile : Text) : Option Text :=
  let fault := text "filesystem error: cannot make absolute path: Invalid argument []"
  if logFile = [] then
    some (text "Failed to initialize logging: " ++ fault ++ Text.newline ++ cannotStart fault)
  else none

def start (surroundings : Surroundings) (options : Options) : Report :=
  let port := options.port.getD 0
  match SigningKey.load options.keyPath (surroundings.files.read options.keyPath) with
  | .error error => stopped surroundings [] (cannotStart error.fault.message)
  | .ok key =>
      let step := (Link.fresh.deliver surroundings.inbound).connect options.host port
        surroundings.connectFault
      if step.value then
        match Session.create options.settings true with
        | .ok session => converse surroundings key step.resolved step.link session
        | .error error => stopped surroundings step.resolved (cannotStart error.message)
      else stopped surroundings step.resolved (cannotConnect options.host port)

def run (program : Text) (arguments : List Text) (surroundings : Surroundings) : Report :=
  match Options.parse arguments with
  | (options, none) =>
      match logComplaint? options.settings.logFile with
      | some complaint => stopped surroundings [] complaint
      | none => start surroundings options
  | (_, some complaint) =>
      stopped surroundings [] (Options.complaintText program complaint)

end CardVault.Program

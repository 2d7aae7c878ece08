import CardVault.Files
import CardVault.Session
import CardVault.Text

/-!
What a line of the shell asks for. A line is a command word, a user name, an address and the rest of
the line; blanks separate them, and the rest keeps the blanks inside it and at its end.
-/

namespace CardVault.Shell

def word (line : Text) : Text × Text :=
  let trimmed := Text.skipBlanks line
  (trimmed.takeWhile (!Text.isBlank ·), trimmed.dropWhile (!Text.isBlank ·))

def rest (line : Text) : Text :=
  (Text.skipBlanks line).takeWhile (· != 10)

inductive Request where
  | nothing
  | quit
  | help
  | incomplete
  | unknown
  | store (username address file : Text)
  | read (username address : Text)
  | readInto (username address file : Text)
  | storeFixed (username address message : Text)
  | readFixed (username address : Text)
  | deleteFixed (username address : Text)
deriving DecidableEq, Repr

namespace Request

def ofWords (command username address argument : Text) : Request :=
  if command = text "store" ∧ argument ≠ [] then .store username address argument
  else if command = text "read" then
    if argument = [] then .read username address else .readInto username address argument
  else if command = text "fstore" ∧ argument ≠ [] then .storeFixed username address argument
  else if command = text "fread" ∧ argument = [] then .readFixed username address
  else if command = text "fdelete" ∧ argument = [] then .deleteFixed username address
  else .unknown

def parse (line : Text) : Request :=
  let (command, afterCommand) := word line
  if command = [] then .nothing
  else if command = text "quit" then .quit
  else if command = text "help" then .help
  else
    let (username, afterUsername) := word afterCommand
    let (address, afterAddress) := word afterUsername
    if address = [] then .incomplete
    else ofWords command username address (rest afterAddress)

end Request

/-!
The shell. Each line is one request, answered through one call of the session at most. A file is
read before the card is asked for anything, and written only after a record has come back whole.
-/

section

def prompt : Text :=
  text "sevault> "

def helpText : Text :=
  text "Available commands:\n" ++
  text "  help                                Display this help message\n" ++
  text "  store <user> <addr> <file>          Store <file> as a variable-length record\n" ++
  text "  read <user> <addr> [file]           Read a record, optionally into <file>\n" ++
  text "  fstore <user> <addr> <message>      Store a fixed-length record\n" ++
  text "  fread <user> <addr>                 Read a fixed-length record\n" ++
  text "  fdelete <user> <addr>               Delete a fixed-length record\n" ++
  text "  quit                                Exit the shell\n\n"

def incompleteText : Text :=
  text "Invalid input. Usage: <command> <username> <address> [argument]\n"

def unknownText : Text :=
  text "Unknown command or invalid arguments\n"

def failed (action : Text) (failure : Failure) : Text :=
  action ++ text " failed: " ++ failure.kind.name ++
    (match failure.status with
      | some status => text " (SW " ++ status.format ++ text ")"
      | none => []) ++
    text " " ++ failure.message ++ Text.newline

def badKey (error : ProtocolError) : Text :=
  text "Invalid record key: " ++ error.message ++ Text.newline

def cannotOpen (file : Text) : Text :=
  text "Error opening file: " ++ file ++ Text.newline

def stored (payload : Bytes) : Text :=
  text "Stored " ++ Text.decimal payload.length ++ text " bytes\n"

def wrote (file : Text) (payload : Bytes) : Text :=
  text "Wrote " ++ Text.decimal payload.length ++ text " bytes to " ++ file ++ Text.newline

def storedAt (receipt : Receipt) : Text :=
  text "Stored at index " ++ Text.decimal receipt.index.toNat ++ text " (" ++
    Text.decimal receipt.count.toNat ++ text " records)\n"

def deletedAt (receipt : Receipt) : Text :=
  text "Deleted index " ++ Text.decimal receipt.index.toNat ++ text " (" ++
    Text.decimal receipt.count.toNat ++ text " records remain)\n"

/-- What the shell does about a request once the session has answered. It breaks off where something
cannot be told to the user and has to be told to whoever started the shell. -/
inductive Reaction where
  | quit
  | print (output : Text)
  | save (file : Text) (payload : Bytes)
  | breakOff (fault : Fault)
deriving DecidableEq, Repr

variable {α : Type}

def report (action : Text) (success : α → Reaction) :
    Dialogue (Outcome α × Session) → Dialogue (Reaction × Session) :=
  Dialogue.map fun
    | (.ok value, session) => (success value, session)
    | (.error failure, session) => (.print (failed action failure), session)

def withKey (session : Session) (username address : Text)
    (next : RecordKey → Dialogue (Reaction × Session)) : Dialogue (Reaction × Session) :=
  match RecordKey.make username address with
  | .ok key => next key
  | .error error => .done (.print (badKey error), session)

/-- A directory can be opened like a file, but there is nothing to be read from it. -/
def directoryFault : Fault :=
  .other (text "basic_filebuf::underflow error reading the file: Is a directory")

/-- Answers a request; `opened` says what comes of opening a file. -/
def react (opened : Text → Opened) (session : Session) :
    Request → Dialogue (Reaction × Session)
  | .nothing => .done (.print [], session)
  | .quit => .done (.quit, session)
  | .help => .done (.print helpText, session)
  | .incomplete => .done (.print incompleteText, session)
  | .unknown => .done (.print unknownText, session)
  | .store username address file =>
      match opened file with
      | .absent => .done (.print (cannotOpen file), session)
      | .directory => .done (.breakOff directoryFault, session)
      | .content payload => withKey session username address fun key =>
          report (text "Store") (fun _ => .print (stored payload)) (session.store key payload)
  | .read username address => withKey session username address fun key =>
      report (text "Read") (fun payload => .print (payload ++ Text.newline)) (session.read key)
  | .readInto username address file => withKey session username address fun key =>
      report (text "Read") (fun payload => .save file payload) (session.read key)
  | .storeFixed username address message =>
      report (text "Fixed store") (fun receipt => .print (storedAt receipt))
        (session.storeFixed username address message)
  | .readFixed username address =>
      report (text "Fixed read") (fun message => .print (message ++ Text.newline))
        (session.readFixed username address)
  | .deleteFixed username address =>
      report (text "Fixed delete") (fun receipt => .print (deletedAt receipt))
        (session.deleteFixed username address)

inductive Outlook where
  | more
  | quit
  | broken (fault : Fault)
deriving DecidableEq, Repr

structure Turn where
  outlook : Outlook
  output : Text
  files : Files
  session : Session

def Reaction.settle (files : Files) (session : Session) : Reaction → Turn
  | .quit => ⟨.quit, [], files, session⟩
  | .print output => ⟨.more, output, files, session⟩
  | .save file payload =>
      match files.write? file payload with
      | some written => ⟨.more, wrote file payload, written, session⟩
      | none => ⟨.more, cannotOpen file, files, session⟩
  | .breakOff fault => ⟨.broken fault, [], files, session⟩

def turn (files : Files) (session : Session) (line : Text) : Dialogue Turn :=
  (react files.read session (Request.parse line)).map fun (reaction, after) =>
    reaction.settle files after

/-- The shell on some lines, up to the one that ends it. A prompt follows each line but that one. -/
def runLines (files : Files) (session : Session) : List Text → Dialogue Turn
  | [] => .done ⟨.more, [], files, session⟩
  | line :: others =>
      (turn files session line).bind fun first =>
        if first.outlook = .more then
          (runLines first.files first.session others).map fun last =>
            { last with output := first.output ++ prompt ++ last.output }
        else .done first

def run (files : Files) (session : Session) (input : Text) : Dialogue Turn :=
  (runLines files session (Text.lines input)).map fun last =>
    { last with output := prompt ++ last.output }

end

end CardVault.Shell

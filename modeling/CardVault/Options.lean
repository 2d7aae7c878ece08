import CardVault.Settings
import CardVault.Text

/-!
Decimal numbers in arguments. Blanks in front, a sign and anything after the digits are allowed; at
least one digit is needed.
-/

namespace CardVault

/-- A decimal number as it is written: a sign and a magnitude. -/
structure Written where
  negative : Bool
  magnitude : Nat
deriving DecidableEq, Repr

namespace Written

def magnitudeOf (digits : Text) : Nat :=
  digits.foldl (fun total digit => 10 * total + (digit.toNat - 48)) 0

def ofDigits? (negative : Bool) (rest : Text) : Option Written :=
  match rest.takeWhile Text.isDigit with
  | [] => none
  | digits => some ⟨negative, magnitudeOf digits⟩

def parse? (argument : Text) : Option Written :=
  match Text.skipBlanks argument with
  | 45 :: rest => ofDigits? true rest
  | 43 :: rest => ofDigits? false rest
  | rest => ofDigits? false rest

def port? (written : Written) : Option UInt16 :=
  if written.negative = false ∧ 0 < written.magnitude ∧ written.magnitude ≤ 65535 then
    some (UInt16.ofNat written.magnitude)
  else none

-- A minus sign counts back from the end of the range, as for any unsigned size.
def size? (written : Written) : Option UInt64 :=
  if written.magnitude < UInt64.size then
    let size := UInt64.ofNat written.magnitude
    some (if written.negative then 0 - size else size)
  else none

end Written

/-!
The options of the program, read from its arguments: flags, each with a value. A later flag replaces
an earlier one of the same meaning. Reading stops at the first argument that is wrong, and what was
read before it stands.
-/

inductive Flag where
  | host
  | port
  | key
  | chunkSize
  | digest
  | identity
  | logLevel
  | logFile
deriving DecidableEq, Repr

namespace Flag

def spellings : Flag → List Text
  | host => [text "-h", text "--host"]
  | port => [text "-p", text "--port"]
  | key => [text "-k", text "--key"]
  | chunkSize => [text "-c", text "--chunk-size"]
  | digest => [text "-d", text "--digest"]
  | identity => [text "-i", text "--identity"]
  | logLevel => [text "-l", text "--log-level"]
  | logFile => [text "--log-file"]

def all : List Flag :=
  [host, port, key, chunkSize, digest, identity, logLevel, logFile]

def parse? (argument : Text) : Option Flag :=
  all.find? fun flag => flag.spellings.contains argument

end Flag

structure Options where
  host : Text
  port : Option UInt16
  keyPath : Text
  settings : Settings
deriving DecidableEq, Repr

inductive Complaint where
  | missingValue
  | unknownFlag (flag : Text)
  | badValue (flag value : Text)
  | incomplete
  | settings (error : SettingsError)
deriving DecidableEq, Repr

def Complaint.message : Complaint → Text
  | missingValue => text "Error: Every flag needs a value\n"
  | unknownFlag flag => text "Error: Unknown argument: " ++ flag ++ Text.newline
  | badValue flag value =>
      text "Error: Invalid value for " ++ flag ++ text ": " ++ value ++ Text.newline
  | incomplete => text "Error: Host, port and key are required\n"
  | settings error => text "Error: " ++ error.message ++ Text.newline

namespace Options

def initial : Options :=
  ⟨[], none, [], {}⟩

def usage (program : Text) : Text :=
  text "Usage: " ++ program ++ text " -h <host> -p <port> -k <key.pem> [options]\n" ++
  text "Required arguments:\n" ++
  text "  -h, --host        Card reader relay address\n" ++
  text "  -p, --port        Card reader relay port\n" ++
  text "  -k, --key         EC private key (PEM) used to sign read requests\n" ++
  text "Options:\n" ++
  text "  -c, --chunk-size  Store chunk size in bytes (1-255, default 200)\n" ++
  text "  -d, --digest      What is signed: message | sha256 (default message)\n" ++
  text "  -i, --identity    Fixed record username packing: pad | sha256 (default pad)\n" ++
  text "  -l, --log-level   trace | debug | info | warning | error | fatal (default info)\n" ++
  text "  --log-file        Log file path (default sevault.log)\n" ++
  text "Example: " ++ program ++ text " -h 127.0.0.1 -p 35963 -k private_key.pem\n"

def set? (options : Options) (flag : Flag) (value : Text) : Option Options :=
  match flag with
  | .host => some { options with host := value }
  | .port =>
      ((Written.parse? value).bind Written.port?).map fun port =>
        { options with port := some port }
  | .key => some { options with keyPath := value }
  | .chunkSize =>
      ((Written.parse? value).bind Written.size?).map fun size =>
        { options with settings := { options.settings with chunkSize := size } }
  | .digest =>
      (DigestPolicy.parse value).toOption.map fun policy =>
        { options with settings := { options.settings with digestPolicy := policy } }
  | .identity =>
      (IdentityEncoding.parse value).toOption.map fun encoding =>
        { options with settings := { options.settings with identityEncoding := encoding } }
  | .logLevel =>
      (Severity.parse value).toOption.map fun _ =>
        { options with settings := { options.settings with logLevel := value } }
  | .logFile => some { options with settings := { options.settings with logFile := value } }

def setAll (options : Options) : List Text → Options × Option Complaint
  | flag :: value :: others =>
      match Flag.parse? flag with
      | none => (options, some (.unknownFlag flag))
      | some known =>
          match options.set? known value with
          | none => (options, some (.badValue flag value))
          | some changed => changed.setAll others
  | _ => (options, none)

def lacking (options : Options) : Option Complaint :=
  if options.host = [] ∨ options.port = none ∨ options.keyPath = [] then some .incomplete
  else match options.settings.check with
    | .ok () => none
    | .error error => some (.settings error)

/-- Reads the arguments after the program name. Without a complaint the options are valid. -/
def parse (arguments : List Text) : Options × Option Complaint :=
  if arguments.length % 2 = 1 then (initial, some .missingValue)
  else match initial.setAll arguments with
    | (options, some complaint) => (options, some complaint)
    | (options, none) => (options, options.lacking)

def complaintText (program : Text) (complaint : Complaint) : Text :=
  complaint.message ++ usage program

end Options

end CardVault

import CardVault.Options

/-!
What arguments give to the options. Arguments are flags, each in one of its spellings, with a value
behind it, and of the values that a flag is given only the last one counts. How the arguments are read
does not enter into this.
-/

namespace CardVault

structure Digits (body digits : Text) : Prop where
  filled : digits ≠ []
  decimal : ∀ byte ∈ digits, Text.isDigit byte = true
  cut : ∃ rest, body = digits ++ rest ∧
    ∀ byte, rest.head? = some byte → Text.isDigit byte = false

/-- A number as an argument writes it: digits with blanks and a sign in front of them, where there
are any, and anything behind them. -/
inductive Numeral : Text → Int → Prop where
  | unsigned {gap body digits : Text} (blank : ∀ byte ∈ gap, Text.isBlank byte = true)
      (counts : Digits body digits) : Numeral (gap ++ body) (Written.magnitudeOf digits)
  | plus {gap body digits : Text} (blank : ∀ byte ∈ gap, Text.isBlank byte = true)
      (counts : Digits body digits) : Numeral (gap ++ 43 :: body) (Written.magnitudeOf digits)
  | minus {gap body digits : Text} (blank : ∀ byte ∈ gap, Text.isBlank byte = true)
      (counts : Digits body digits) : Numeral (gap ++ 45 :: body) (-Written.magnitudeOf digits)

inductive Flag.Accepts : Flag → Text → Prop where
  | host (value : Text) : Accepts .host value
  | port {value : Text} {number : Int} (numeral : Numeral value number) (least : 1 ≤ number)
      (most : number ≤ 65535) : Accepts .port value
  | key (value : Text) : Accepts .key value
  -- Any number of 64 bits, also a negative one; whether it is a size is asked only in the end.
  | chunkSize {value : Text} {number : Int} (numeral : Numeral value number)
      (bounded : number.natAbs < UInt64.size) : Accepts .chunkSize value
  | digest (policy : DigestPolicy) : Accepts .digest policy.name
  | identity (encoding : IdentityEncoding) : Accepts .identity encoding.name
  | logLevel (severity : Severity) : Accepts .logLevel severity.name
  | logFile (value : Text) : Accepts .logFile value

structure Given where
  flag : Flag
  value : Text
deriving DecidableEq, Repr

namespace Given

/-- `Spelled arguments given` says that the arguments spell this and nothing else. -/
inductive Spelled : List Text → List Given → Prop where
  | nil : Spelled [] []
  | cons {flag : Flag} {spelling value : Text} {arguments : List Text} {given : List Given}
      (known : spelling ∈ flag.spellings) (onward : Spelled arguments given) :
      Spelled (spelling :: value :: arguments) (⟨flag, value⟩ :: given)

def Accepted (given : List Given) : Prop :=
  ∀ one ∈ given, one.flag.Accepts one.value

def of (flag : Flag) (given : List Given) : List Text :=
  (given.filter (·.flag = flag)).map (·.value)

def last? (flag : Flag) (given : List Given) : Option Text :=
  (of flag given).getLast?

/-- Host, key and port are given, and the size is one. Where no size is given it is the usual one. -/
structure Complete (given : List Given) : Prop where
  host : ∃ value, last? .host given = some value ∧ value ≠ []
  key : ∃ value, last? .key given = some value ∧ value ≠ []
  port : ∃ value, last? .port given = some value
  chunkSize : ∀ value, last? .chunkSize given = some value → ∃ number, Numeral value number ∧
    1 ≤ number % UInt64.size ∧ number % UInt64.size ≤ 255

end Given

def Settings.unflagged (settings : Settings) : Settings :=
  { settings with
    chunkSize := 0, digestPolicy := .message, identityEncoding := .pad, logFile := [],
    logLevel := [] }

namespace Options

def Shows (options : Options) : Flag → Text → Prop
  | .host, value => options.host = value
  | .port, value => ∃ port : UInt16, options.port = some port ∧ Numeral value port.toNat
  | .key, value => options.keyPath = value
  | .chunkSize, value => ∃ number : Int, Numeral value number ∧
      (options.settings.chunkSize.toNat : Int) = number % UInt64.size
  | .digest, value => options.settings.digestPolicy.name = value
  | .identity, value => options.settings.identityEncoding.name = value
  | .logLevel, value => options.settings.logLevel = value
  | .logFile, value => options.settings.logFile = value

def Alike (first second : Options) : Flag → Prop
  | .host => first.host = second.host
  | .port => first.port = second.port
  | .key => first.keyPath = second.keyPath
  | .chunkSize => first.settings.chunkSize = second.settings.chunkSize
  | .digest => first.settings.digestPolicy = second.settings.digestPolicy
  | .identity => first.settings.identityEncoding = second.settings.identityEncoding
  | .logLevel => first.settings.logLevel = second.settings.logLevel
  | .logFile => first.settings.logFile = second.settings.logFile

/-- Options that are as the last values say, and otherwise as they were. -/
structure Chosen (before : Options) (given : List Given) (options : Options) : Prop where
  shows : ∀ flag value, Given.last? flag given = some value → options.Shows flag value
  keeps : ∀ flag, Given.last? flag given = none → options.Alike before flag
  unflagged : options.settings.unflagged = before.settings.unflagged

end Options

end CardVault

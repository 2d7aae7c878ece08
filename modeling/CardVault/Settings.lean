import CardVault.Text

/-!
The settings of a client: the codes of its commands, the size of a stored chunk, what is signed, and
the widths of fixed records. `Settings.check` says whether a client can be built on them. Sizes are
64-bit numbers, and so are the sums that `check` compares: a sum that wraps can pass.
-/

namespace CardVault

/-- What the signer is asked to sign: the bytes themselves or their digest. -/
inductive DigestPolicy where
  | message
  | sha256
deriving DecidableEq, Repr

/-- How a user name fills its width in a fixed record. -/
inductive IdentityEncoding where
  | pad
  | sha256
deriving DecidableEq, Repr

inductive Severity where
  | trace
  | debug
  | info
  | warning
  | error
  | fatal
deriving DecidableEq, Repr

inductive SettingsError where
  | chunkSize (size : UInt64)
  | zeroWidth
  | recordTooWide
  | signatureBounds
  | requestTooWide
  | digestTooWide
  | unknownPolicy (name : Text)
  | unknownEncoding (name : Text)
  | unknownSeverity (name : Text)
deriving DecidableEq, Repr

def SettingsError.message : SettingsError → Text
  | chunkSize size =>
      text "Config: store chunk size must be 1..255, got " ++ Text.decimal size.toNat
  | zeroWidth => text "Config: fixed record widths must be non-zero"
  | recordTooWide => text "Config: fixed record does not fit in one frame"
  | signatureBounds => text "Config: minimum signature length exceeds maximum"
  | requestTooWide =>
      text "Config: fixed read request with maximum signature does not fit in one frame"
  | digestTooWide =>
      text "Config: SHA256 identity encoding needs a username width of at least 32"
  | unknownPolicy name => Text.untilNul (text "Config: unknown digest policy: " ++ name)
  | unknownEncoding name => Text.untilNul (text "Config: unknown identity encoding: " ++ name)
  | unknownSeverity name => Text.untilNul (text "Unknown log level: " ++ name)

namespace DigestPolicy

def name : DigestPolicy → Text
  | message => text "message"
  | sha256 => text "sha256"

def parse (name : Text) : Except SettingsError DigestPolicy :=
  match [message, sha256].find? (·.name = name) with
  | some policy => .ok policy
  | none => .error (.unknownPolicy name)

end DigestPolicy

namespace IdentityEncoding

def name : IdentityEncoding → Text
  | pad => text "pad"
  | sha256 => text "sha256"

def parse (name : Text) : Except SettingsError IdentityEncoding :=
  match [pad, sha256].find? (·.name = name) with
  | some encoding => .ok encoding
  | none => .error (.unknownEncoding name)

end IdentityEncoding

namespace Severity

def all : List Severity :=
  [trace, debug, info, warning, error, fatal]

def name : Severity → Text
  | trace => text "trace"
  | debug => text "debug"
  | info => text "info"
  | warning => text "warning"
  | error => text "error"
  | fatal => text "fatal"

def rank : Severity → Nat
  | trace => 0
  | debug => 1
  | info => 2
  | warning => 3
  | error => 4
  | fatal => 5

def parse (name : Text) : Except SettingsError Severity :=
  match all.find? (·.name = name) with
  | some severity => .ok severity
  | none => .error (.unknownSeverity name)

end Severity

structure StepCodes where
  init : UInt8
  advance : UInt8
  finalize : UInt8
deriving DecidableEq, Repr

structure Settings where
  cla : UInt8 := 0x80
  storeCodes : StepCodes := ⟨0x10, 0x11, 0x12⟩
  readCodes : StepCodes := ⟨0x20, 0x21, 0x22⟩
  fixedStoreCode : UInt8 := 0x10
  fixedReadCode : UInt8 := 0x20
  fixedDeleteCode : UInt8 := 0x30
  chunkSize : UInt64 := 200
  expectedLength : UInt8 := 0
  digestPolicy : DigestPolicy := .message
  identityEncoding : IdentityEncoding := .pad
  usernameWidth : UInt64 := 32
  addressWidth : UInt64 := 64
  messageWidth : UInt64 := 32
  leastSignature : UInt64 := 8
  mostSignature : UInt64 := 72
  logFile : Text := text "sevault.log"
  logLevel : Text := text "info"
deriving DecidableEq, Repr

namespace Settings

def check (settings : Settings) : Except SettingsError Unit :=
  if settings.chunkSize = 0 ∨ settings.chunkSize > 255 then
    .error (.chunkSize settings.chunkSize)
  else if settings.usernameWidth = 0 ∨ settings.addressWidth = 0 ∨ settings.messageWidth = 0 then
    .error .zeroWidth
  else if settings.usernameWidth + settings.addressWidth + settings.messageWidth > 255 then
    .error .recordTooWide
  else if settings.leastSignature > settings.mostSignature then
    .error .signatureBounds
  else if settings.usernameWidth + settings.addressWidth + settings.mostSignature > 255 then
    .error .requestTooWide
  else if settings.identityEncoding = .sha256 ∧ settings.usernameWidth < 32 then
    .error .digestTooWide
  else .ok ()

theorem check_chunkSize {settings : Settings} (accepted : settings.check = .ok ()) :
    0 < settings.chunkSize.toNat ∧ settings.chunkSize.toNat ≤ 255 := by
  unfold check at accepted
  split at accepted
  · contradiction
  · rename_i inside
    have positive : settings.chunkSize ≠ 0 := fun zero => inside (.inl zero)
    have bounded : ¬ settings.chunkSize > 255 := fun large => inside (.inr large)
    have nonzero : settings.chunkSize.toNat ≠ 0 := fun zero =>
      positive (UInt64.toNat_inj.mp zero)
    rw [gt_iff_lt, UInt64.lt_iff_toNat_lt] at bounded
    change ¬ 255 < settings.chunkSize.toNat at bounded
    omega

end Settings

end CardVault

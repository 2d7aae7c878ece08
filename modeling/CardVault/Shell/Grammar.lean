import CardVault.Shell.Log

/-!
A grammar of the shell's lines. It describes a line by its words, which are the longest runs of bytes
that are no blanks, and by what follows them; how a line is read does not enter into it. `Means` says
what a line of each form asks for, and `Does` what the shell does when it is asked.
-/

namespace CardVault.Shell

def Blank (gap : Text) : Prop :=
  ∀ byte ∈ gap, Text.isBlank byte = true

instance (gap : Text) : Decidable (Blank gap) :=
  decidable_of_iff (gap.all Text.isBlank = true) List.all_eq_true

structure IsWord (word : Text) : Prop where
  filled : word ≠ []
  solid : ∀ byte ∈ word, Text.isBlank byte = false

theorem isWord_iff (word : Text) :
    IsWord word ↔ word ≠ [] ∧ word.all (!Text.isBlank ·) = true := by
  constructor
  · rintro ⟨filled, solid⟩
    exact ⟨filled, by simpa using solid⟩
  · rintro ⟨filled, solid⟩
    exact ⟨filled, by simpa using solid⟩

instance (word : Text) : Decidable (IsWord word) :=
  decidable_of_iff _ (isWord_iff word).symm

/-- `Spells words line tail` says that the line begins with these words, each behind blanks, and that
the tail is what follows the last. A word is over at a blank or at the end of the line. -/
inductive Spells : List Text → Text → Text → Prop where
  | none (tail : Text) : Spells [] tail tail
  | word {gap word line tail : Text} {words : List Text} (blank : Blank gap) (whole : IsWord word)
      (stops : ∀ byte, line.head? = some byte → Text.isBlank byte = true)
      (onward : Spells words line tail) : Spells (word :: words) (gap ++ word ++ line) tail

def Consists (words : List Text) (line : Text) : Prop :=
  ∃ tail, Spells words line tail ∧ Blank tail

/-- A line of at least three words. The rest is what follows the third, with all its blanks but those
that stand in front of it. -/
structure Parts (command username address rest line : Text) : Prop where
  spelled : ∃ gap, Blank gap ∧ Spells [command, username, address] line (gap ++ rest)
  trimmed : ∀ byte, rest.head? = some byte → Text.isBlank byte = false

/-- A line of three words and a rest written out, with blanks in front of the words, between them and
in front of the rest. -/
structure Written where
  command : Text
  username : Text
  address : Text
  rest : Text
  indent : Text
  firstGap : Text
  secondGap : Text
  lastGap : Text
  commandWord : IsWord command
  usernameWord : IsWord username
  addressWord : IsWord address
  restTrimmed : ∀ byte, rest.head? = some byte → Text.isBlank byte = false
  restUnbroken : (10 : UInt8) ∉ rest
  indentBlank : Blank indent
  firstBlank : Blank firstGap
  firstFilled : firstGap ≠ []
  secondBlank : Blank secondGap
  secondFilled : secondGap ≠ []
  lastBlank : Blank lastGap
  lastFilled : rest ≠ [] → lastGap ≠ []

def Written.line (written : Written) : Text :=
  written.indent ++ written.command ++ (written.firstGap ++ written.username ++
    (written.secondGap ++ written.address ++ (written.lastGap ++ written.rest)))

/-- The commands about a record, with the rest that each of them takes. -/
inductive Takes : Text → Text → Prop where
  | store {rest : Text} (filled : rest ≠ []) : Takes (text "store") rest
  | read (rest : Text) : Takes (text "read") rest
  | storeFixed {rest : Text} (filled : rest ≠ []) : Takes (text "fstore") rest
  | readFixed : Takes (text "fread") []
  | deleteFixed : Takes (text "fdelete") []

def standalone : List Text :=
  [text "quit", text "help"]

inductive Means (line : Text) : Request → Prop where
  | nothing (empty : Consists [] line) : Means line .nothing
  | quit {tail : Text} (first : Spells [text "quit"] line tail) : Means line .quit
  | help {tail : Text} (first : Spells [text "help"] line tail) : Means line .help
  | incomplete {command : Text} {others : List Text} (words : Consists (command :: others) line)
      (few : others.length < 2) (other : command ∉ standalone) : Means line .incomplete
  | store {username address file : Text} (parts : Parts (text "store") username address file line)
      (filled : file ≠ []) : Means line (.store username address file)
  | read {username address : Text} (parts : Parts (text "read") username address [] line) :
      Means line (.read username address)
  | readInto {username address file : Text} (parts : Parts (text "read") username address file line)
      (filled : file ≠ []) : Means line (.readInto username address file)
  | storeFixed {username address message : Text}
      (parts : Parts (text "fstore") username address message line) (filled : message ≠ []) :
      Means line (.storeFixed username address message)
  | readFixed {username address : Text} (parts : Parts (text "fread") username address [] line) :
      Means line (.readFixed username address)
  | deleteFixed {username address : Text} (parts : Parts (text "fdelete") username address [] line) :
      Means line (.deleteFixed username address)
  | unknown {command username address rest : Text} (parts : Parts command username address rest line)
      (other : command ∉ standalone) (unfit : ¬ Takes command rest) : Means line .unknown

def Request.key? : Request → Option (Text × Text)
  | .store username address _ | .read username address | .readInto username address _ =>
      some (username, address)
  | _ => none

/-- The call that a request makes of the session. To store a file takes one with content, and a key
takes words of at most 255 bytes. -/
inductive Calls (opened : Text → Opened) : Request → Call → Prop where
  | store {username address file : Text} {payload : Bytes} (opens : opened file = .content payload)
      (shortUsername : username.length ≤ 255) (shortAddress : address.length ≤ 255) :
      Calls opened (.store username address file)
        (.store ⟨username, address, shortUsername, shortAddress⟩ payload)
  | read {username address : Text} (shortUsername : username.length ≤ 255)
      (shortAddress : address.length ≤ 255) :
      Calls opened (.read username address)
        (.read ⟨username, address, shortUsername, shortAddress⟩)
  | readInto {username address file : Text} (shortUsername : username.length ≤ 255)
      (shortAddress : address.length ≤ 255) :
      Calls opened (.readInto username address file)
        (.read ⟨username, address, shortUsername, shortAddress⟩)
  | storeFixed (username address message : Text) :
      Calls opened (.storeFixed username address message) (.storeFixed username address message)
  | readFixed (username address : Text) :
      Calls opened (.readFixed username address) (.readFixed username address)
  | deleteFixed (username address : Text) :
      Calls opened (.deleteFixed username address) (.deleteFixed username address)

/-- What the shell does about a request: one call of the session and a reaction to its result, which
touches a file only to put there what was read; or something to print, with nothing sent or signed and
the files and the session left as they are. -/
inductive Does (files : Files) (session : Session) : Request → Dialogue Turn → Prop where
  | nothing : Does files session .nothing (.done ⟨.more, [], files, session⟩)
  | quit : Does files session .quit (.done ⟨.quit, [], files, session⟩)
  | help : Does files session .help (.done ⟨.more, helpText, files, session⟩)
  | incomplete : Does files session .incomplete (.done ⟨.more, incompleteText, files, session⟩)
  | unknown : Does files session .unknown (.done ⟨.more, unknownText, files, session⟩)
  | call {request : Request} {call : Call} (calls : Calls files.read request call)
      (reaction : Option Result → Reaction)
      (saves : ∀ result file payload, reaction result = .save file payload ↔
        request.target? = some file ∧ result = some (.ok (some payload))) :
      Does files session request
        ((session.perform call).map fun (result, after) => (reaction result).settle files after)
  | unopened {username address file : Text} (absent : files.read file = .absent) :
      Does files session (.store username address file)
        (.done ⟨.more, cannotOpen file, files, session⟩)
  -- A directory can be opened, but has no content that could be stored.
  | unreadable {username address file : Text} (directory : files.read file = .directory) :
      Does files session (.store username address file)
        (.done ⟨.broken directoryFault, [], files, session⟩)
  | keyless {request : Request} {username address : Text} {error : ProtocolError}
      (keyed : request.key? = some (username, address))
      (long : 255 < username.length ∨ 255 < address.length)
      (refused : RecordKey.make username address = .error error) :
      Does files session request (.done ⟨.more, badKey error, files, session⟩)

end CardVault.Shell

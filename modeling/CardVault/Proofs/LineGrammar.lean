import CardVault.Proofs.ShellRun.Entries
import CardVault.Shell.Grammar
import Mathlib.Data.List.TakeWhile

/-!
The words of a line as they are spelled and as they are read. A spelled word is the one that is read,
and the one that is read is spelled; three of them and what follows are the parts of a line.
-/

namespace CardVault.Shell

section

variable {line tail gap : Text} {words : List Text} {command username address argument : Text}

section Words

theorem skipBlanks_blank (blank : Blank gap) (line : Text) :
    Text.skipBlanks (gap ++ line) = Text.skipBlanks line :=
  List.dropWhile_append_of_pos blank

theorem skipBlanks_solid (solid : ∀ byte, line.head? = some byte → Text.isBlank byte = false) :
    Text.skipBlanks line = line := by
  cases line with
  | nil => rfl
  | cons byte rest => exact List.dropWhile_cons_of_neg (by simp [solid byte rfl])

theorem skipBlanks_trimmed (line : Text) :
    ∀ byte, (Text.skipBlanks line).head? = some byte → Text.isBlank byte = false := by
  intro byte first
  have stops := List.head?_dropWhile_not Text.isBlank line
  rw [Text.skipBlanks] at first
  rwa [first] at stops

theorem blank_skipped (line : Text) :
    ∃ gap, Blank gap ∧ line = gap ++ Text.skipBlanks line :=
  ⟨line.takeWhile Text.isBlank, fun _ member => List.mem_takeWhile_imp member,
    List.takeWhile_append_dropWhile.symm⟩

theorem IsWord.head {word : Text} (whole : IsWord word) (line : Text) :
    ∀ byte, (word ++ line).head? = some byte → Text.isBlank byte = false := by
  cases word with
  | nil => exact absurd rfl whole.filled
  | cons first others =>
      rintro byte ⟨⟩
      exact whole.solid first List.mem_cons_self

theorem word_spelled {name : Text} (spelled : Spells [name] line tail) :
    word line = (name, tail) := by
  obtain _ | ⟨blank, whole, stops, ⟨⟩⟩ := spelled
  have solid : ∀ byte ∈ name, (!Text.isBlank byte) = true := by simpa using whole.solid
  have ended : tail.takeWhile (!Text.isBlank ·) = [] ∧ tail.dropWhile (!Text.isBlank ·) = tail := by
    cases tail with
    | nil => exact ⟨rfl, rfl⟩
    | cons byte rest => simp [stops byte rfl]
  rw [word, List.append_assoc, skipBlanks_blank blank, skipBlanks_solid (whole.head tail),
    List.takeWhile_append_of_pos solid, List.dropWhile_append_of_pos solid, ended.1, ended.2,
    List.append_nil]

theorem word_blank (blank : Blank line) : word line = ([], []) := by
  have skipped : Text.skipBlanks line = [] := by
    rw [← List.append_nil line, skipBlanks_blank blank]
    rfl
  rw [word, skipped]
  rfl

theorem word_spells (line : Text) :
    Spells [(word line).1] line (word line).2 ∨ Blank line := by
  obtain ⟨gap, blank, cut⟩ := blank_skipped line
  cases skipped : Text.skipBlanks line with
  | nil =>
      right
      rw [cut, skipped, List.append_nil]
      exact blank
  | cons first others =>
      left
      have solid : Text.isBlank first = false := skipBlanks_trimmed line first (by rw [skipped]; rfl)
      have whole : IsWord (word line).1 := by
        refine ⟨by simp [word, skipped, solid], fun byte member => ?_⟩
        simpa using List.mem_takeWhile_imp member
      have stops : ∀ byte, (word line).2.head? = some byte → Text.isBlank byte = true := by
        intro byte first
        have stops := List.head?_dropWhile_not (!Text.isBlank ·) (Text.skipBlanks line)
        rw [word] at first
        simpa [first] using stops
      have joined : line = gap ++ (word line).1 ++ (word line).2 := by
        rw [List.append_assoc, word, List.takeWhile_append_dropWhile]
        exact cut
      have spelled := Spells.word blank whole stops (.none _)
      rwa [← joined] at spelled

theorem spells_cons_iff {name : Text} :
    Spells (name :: words) line tail ↔
      ∃ after, Spells [name] line after ∧ Spells words after tail := by
  constructor
  · intro spelled
    obtain _ | ⟨blank, whole, stops, onward⟩ := spelled
    exact ⟨_, .word blank whole stops (.none _), onward⟩
  · rintro ⟨after, first, onward⟩
    obtain _ | ⟨blank, whole, stops, ⟨⟩⟩ := first
    exact .word blank whole stops onward

theorem spells_suffix (spelled : Spells words line tail) : tail <:+ line := by
  induction spelled with
  | none tail => exact List.suffix_refl tail
  | word blank whole stops onward ih => exact ih.trans (List.suffix_append _ _)

theorem spells_isWord {name : Text} (spelled : Spells [name] line tail) : IsWord name := by
  cases spelled
  assumption

end Words

section Reading

/-- What the shell takes a line of at least three words to consist of. -/
def Reads (line command username address argument : Text) : Prop :=
  ∃ afterCommand afterUsername afterAddress,
    word line = (command, afterCommand) ∧ word afterCommand = (username, afterUsername) ∧
      word afterUsername = (address, afterAddress) ∧ rest afterAddress = argument

theorem rest_trimmed (blank : Blank gap)
    (trimmed : ∀ byte, argument.head? = some byte → Text.isBlank byte = false)
    (unbroken : (10 : UInt8) ∉ argument) : rest (gap ++ argument) = argument := by
  rw [rest, skipBlanks_blank blank, skipBlanks_solid trimmed, List.takeWhile_eq_self_iff]
  intro byte member
  simpa using ne_of_mem_of_not_mem member unbroken

theorem Parts.split (parts : Parts command username address argument line) :
    ∃ gap afterCommand afterUsername, Blank gap ∧ Spells [command] line afterCommand ∧
      Spells [username] afterCommand afterUsername ∧
      Spells [address] afterUsername (gap ++ argument) := by
  obtain ⟨gap, blank, spelled⟩ := parts.spelled
  obtain ⟨afterCommand, first, spelled⟩ := spells_cons_iff.mp spelled
  obtain ⟨afterUsername, second, third⟩ := spells_cons_iff.mp spelled
  exact ⟨gap, afterCommand, afterUsername, blank, first, second, third⟩

theorem Parts.reads (parts : Parts command username address argument line)
    (unbroken : (10 : UInt8) ∉ argument) : Reads line command username address argument := by
  obtain ⟨gap, afterCommand, afterUsername, blank, first, second, third⟩ := parts.split
  exact ⟨afterCommand, afterUsername, gap ++ argument, word_spelled first, word_spelled second,
    word_spelled third, rest_trimmed blank parts.trimmed unbroken⟩

theorem Parts.unbroken (parts : Parts command username address argument line)
    (unbroken : (10 : UInt8) ∉ line) : (10 : UInt8) ∉ argument := by
  obtain ⟨gap, _, spelled⟩ := parts.spelled
  exact fun member => unbroken ((spells_suffix spelled).subset (List.mem_append_right gap member))

theorem not_standalone_iff :
    command ∉ standalone ↔ command ≠ text "quit" ∧ command ≠ text "help" := by
  simp [standalone]

theorem Parts.parsed (parts : Parts command username address argument line)
    (unbroken : (10 : UInt8) ∉ argument) (other : command ∉ standalone) :
    Request.parse line = .ofWords command username address argument := by
  obtain ⟨gap, afterCommand, afterUsername, _, first, _, third⟩ := parts.split
  obtain ⟨afterCommand, afterUsername, afterAddress, readCommand, readUsername, readAddress,
    readRest⟩ := parts.reads unbroken
  have spoken : command ≠ [] := (spells_isWord first).filled
  have placed : address ≠ [] := (spells_isWord third).filled
  obtain ⟨notQuit, notHelp⟩ := not_standalone_iff.mp other
  simp only [Request.parse, readCommand, readUsername, readAddress, readRest, spoken, placed,
    notQuit, notHelp, ↓reduceIte]

theorem parts_of_words {afterCommand afterUsername afterAddress : Text}
    (first : Spells [command] line afterCommand)
    (second : Spells [username] afterCommand afterUsername)
    (third : Spells [address] afterUsername afterAddress) :
    Parts command username address (Text.skipBlanks afterAddress) line := by
  obtain ⟨gap, blank, cut⟩ := blank_skipped afterAddress
  refine ⟨⟨gap, blank, ?_⟩, skipBlanks_trimmed afterAddress⟩
  rw [← cut]
  exact spells_cons_iff.mpr ⟨_, first, spells_cons_iff.mpr ⟨_, second, third⟩⟩

end Reading

end

/-!
The grammar of the shell's lines is what the shell reads. A line without a newline asks for exactly
one thing by the grammar, and that is what is done about it.
-/

section

variable {line tail gap command username address argument : Text}

section Meaning

theorem ofWords_store (filled : argument ≠ []) :
    Request.ofWords (text "store") username address argument = .store username address argument :=
  if_pos ⟨rfl, filled⟩

theorem ofWords_read :
    Request.ofWords (text "read") username address [] = .read username address :=
  rfl

theorem ofWords_readInto (filled : argument ≠ []) :
    Request.ofWords (text "read") username address argument = .readInto username address argument :=
  if_neg filled

theorem ofWords_storeFixed (filled : argument ≠ []) :
    Request.ofWords (text "fstore") username address argument =
      .storeFixed username address argument := by
  have notStore : ¬ (text "fstore" = text "store" ∧ argument ≠ []) :=
    fun same => absurd same.1 (by decide)
  rw [Request.ofWords, if_neg notStore, if_neg (by decide), if_pos ⟨rfl, filled⟩]

theorem ofWords_readFixed :
    Request.ofWords (text "fread") username address [] = .readFixed username address :=
  rfl

theorem ofWords_deleteFixed :
    Request.ofWords (text "fdelete") username address [] = .deleteFixed username address :=
  rfl

theorem ofWords_unfit (unfit : ¬ Takes command argument) :
    Request.ofWords command username address argument = .unknown := by
  have notStore : ¬ (command = text "store" ∧ argument ≠ []) := by
    rintro ⟨rfl, filled⟩
    exact unfit (.store filled)
  have notRead : command ≠ text "read" := by
    rintro rfl
    exact unfit (.read argument)
  have notStoreFixed : ¬ (command = text "fstore" ∧ argument ≠ []) := by
    rintro ⟨rfl, filled⟩
    exact unfit (.storeFixed filled)
  have notReadFixed : ¬ (command = text "fread" ∧ argument = []) := by
    rintro ⟨rfl, rfl⟩
    exact unfit .readFixed
  have notDeleteFixed : ¬ (command = text "fdelete" ∧ argument = []) := by
    rintro ⟨rfl, rfl⟩
    exact unfit .deleteFixed
  rw [Request.ofWords, if_neg notStore, if_neg notRead, if_neg notStoreFixed, if_neg notReadFixed,
    if_neg notDeleteFixed]

theorem means_ofWords (parts : Parts command username address argument line)
    (other : command ∉ standalone) :
    Means line (.ofWords command username address argument) := by
  by_cases takes : Takes command argument
  · cases takes with
    | store filled =>
        rw [ofWords_store filled]
        exact .store parts filled
    | read =>
        by_cases empty : argument = []
        · subst empty
          exact .read parts
        · rw [ofWords_readInto empty]
          exact .readInto parts empty
    | storeFixed filled =>
        rw [ofWords_storeFixed filled]
        exact .storeFixed parts filled
    | readFixed => exact .readFixed parts
    | deleteFixed => exact .deleteFixed parts
  · rw [ofWords_unfit takes]
    exact .unknown parts other takes

theorem parse_blank (blank : Blank line) : Request.parse line = .nothing := by
  rw [Request.parse, word_blank blank]
  rfl

theorem parse_quit (first : Spells [text "quit"] line tail) : Request.parse line = .quit := by
  rw [Request.parse, word_spelled first]
  rfl

theorem parse_help (first : Spells [text "help"] line tail) : Request.parse line = .help := by
  rw [Request.parse, word_spelled first]
  rfl

theorem parse_few {afterCommand : Text} (first : Spells [command] line afterCommand)
    (other : command ∉ standalone) (few : (word (word afterCommand).2).1 = []) :
    Request.parse line = .incomplete := by
  have spoken : command ≠ [] := (spells_isWord first).filled
  obtain ⟨notQuit, notHelp⟩ := not_standalone_iff.mp other
  simp only [Request.parse, word_spelled first, spoken, notQuit, notHelp, few, ↓reduceIte]

theorem means_parse (line : Text) (unbroken : (10 : UInt8) ∉ line) :
    Means line (Request.parse line) := by
  rcases word_spells line with first | blank
  · by_cases alone : (word line).1 ∈ standalone
    · have named : (word line).1 = text "quit" ∨ (word line).1 = text "help" := by
        simpa [standalone] using alone
      rcases named with quit | help
      · rw [quit] at first
        rw [parse_quit first]
        exact .quit first
      · rw [help] at first
        rw [parse_help first]
        exact .help first
    · rcases word_spells (word line).2 with second | blank
      · rcases word_spells (word (word line).2).2 with third | blank
        · have parts := parts_of_words first second third
          rw [parts.parsed (parts.unbroken unbroken) alone]
          exact means_ofWords parts alone
        · rw [parse_few first alone (by rw [word_blank blank])]
          exact .incomplete ⟨_, spells_cons_iff.mpr ⟨_, first, second⟩, blank⟩ Nat.one_lt_two alone
      · have ended : (word (word (word line).2).2).1 = [] := by
          rw [word_blank blank]
          rfl
        rw [parse_few first alone ended]
        exact .incomplete ⟨_, first, blank⟩ Nat.two_pos alone
  · rw [parse_blank blank]
    exact .nothing ⟨line, .none line, blank⟩

theorem parse_of_means {request : Request} (unbroken : (10 : UInt8) ∉ line)
    (means : Means line request) : Request.parse line = request := by
  have parsed {command username address argument : Text}
      (parts : Parts command username address argument line) (other : command ∉ standalone) :
      Request.parse line = .ofWords command username address argument :=
    parts.parsed (parts.unbroken unbroken) other
  cases means with
  | nothing empty =>
      obtain ⟨_, ⟨⟩, blank⟩ := empty
      exact parse_blank blank
  | quit first => exact parse_quit first
  | help first => exact parse_help first
  | @incomplete command others words few other =>
      obtain ⟨tail, spelled, blank⟩ := words
      obtain ⟨afterCommand, first, onward⟩ := spells_cons_iff.mp spelled
      refine parse_few first other ?_
      match others, few, onward with
      | [], _, .none _ =>
          rw [word_blank blank]
          rfl
      | [username], _, second => rw [word_spelled second, word_blank blank]
  | store parts filled => rw [parsed parts (by decide), ofWords_store filled]
  | read parts => rw [parsed parts (by decide), ofWords_read]
  | readInto parts filled => rw [parsed parts (by decide), ofWords_readInto filled]
  | storeFixed parts filled => rw [parsed parts (by decide), ofWords_storeFixed filled]
  | readFixed parts => rw [parsed parts (by decide), ofWords_readFixed]
  | deleteFixed parts => rw [parsed parts (by decide), ofWords_deleteFixed]
  | unknown parts other unfit => rw [parsed parts other, ofWords_unfit unfit]

end Meaning

section Doing

variable {files : Files} {session : Session} {opened : Text → Opened} {request : Request}

theorem make_ok {key : RecordKey} (made : RecordKey.make username address = .ok key) :
    ∃ (shortUsername : username.length ≤ 255) (shortAddress : address.length ≤ 255),
      key = ⟨username, address, shortUsername, shortAddress⟩ := by
  unfold RecordKey.make at made
  split at made
  · split at made
    · cases made
      exact ⟨_, _, rfl⟩
    · cases made
  · cases made

theorem make_short (shortUsername : username.length ≤ 255) (shortAddress : address.length ≤ 255) :
    RecordKey.make username address = .ok ⟨username, address, shortUsername, shortAddress⟩ := by
  rw [RecordKey.make, dif_pos shortUsername, dif_pos shortAddress]

theorem make_refused {error : ProtocolError}
    (refused : RecordKey.make username address = .error error) :
    255 < username.length ∨ 255 < address.length := by
  by_cases shortUsername : username.length ≤ 255
  · by_cases shortAddress : address.length ≤ 255
    · rw [make_short shortUsername shortAddress] at refused
      cases refused
    · exact Or.inr (Nat.not_le.mp shortAddress)
  · exact Or.inl (Nat.not_le.mp shortUsername)

theorem call?_calls {call : Call} (asks : request.call? opened = some call) :
    Calls opened request call := by
  cases request with
  | store username address file =>
      obtain ⟨payload, key, content, made, rfl⟩ := call?_store asks
      obtain ⟨shortUsername, shortAddress, rfl⟩ := make_ok made
      exact .store content shortUsername shortAddress
  | read username address =>
      obtain ⟨key, made, rfl⟩ := Option.map_eq_some_iff.mp asks
      obtain ⟨shortUsername, shortAddress, rfl⟩ := make_ok (ok_of_toOption made)
      exact .read shortUsername shortAddress
  | readInto username address file =>
      obtain ⟨key, made, rfl⟩ := Option.map_eq_some_iff.mp asks
      obtain ⟨shortUsername, shortAddress, rfl⟩ := make_ok (ok_of_toOption made)
      exact .readInto shortUsername shortAddress
  | storeFixed username address message =>
      cases asks
      exact .storeFixed username address message
  | readFixed username address =>
      cases asks
      exact .readFixed username address
  | deleteFixed username address =>
      cases asks
      exact .deleteFixed username address
  | _ => cases asks

theorem Calls.asks {call : Call} (calls : Calls opened request call) :
    request.call? opened = some call := by
  cases calls with
  | store opens shortUsername shortAddress =>
      rw [Request.call?, opens, make_short shortUsername shortAddress]
  | read shortUsername shortAddress =>
      rw [Request.call?, make_short shortUsername shortAddress]
      rfl
  | readInto shortUsername shortAddress =>
      rw [Request.call?, make_short shortUsername shortAddress]
      rfl
  | storeFixed username address message => rfl
  | readFixed username address => rfl
  | deleteFixed username address => rfl

theorem does_keyless (keyed : request.key? = some (username, address))
    (next : RecordKey → Dialogue (Reaction × Session))
    (refused : (RecordKey.make username address).toOption = none) :
    Does files session request ((withKey session username address next).map fun given =>
      given.1.settle files given.2) := by
  cases made : RecordKey.make username address with
  | ok key =>
      rw [made] at refused
      cases refused
  | error error =>
      rw [withKey, made]
      exact .keyless keyed (make_refused made) made

theorem does_react (files : Files) (session : Session) (request : Request) :
    Does files session request
      ((react files.read session request).map fun given => given.1.settle files given.2) := by
  cases asks : request.call? files.read with
  | some call =>
      rw [(react_answers session asks).told, Dialogue.map, Dialogue.map, Dialogue.bind_assoc]
      exact .call (call?_calls asks) _ (Request.told_saves files.read request)
  | none =>
      cases request with
      | nothing => exact .nothing
      | quit => exact .quit
      | help => exact .help
      | incomplete => exact .incomplete
      | unknown => exact .unknown
      | store username address file =>
          simp only [Request.call?] at asks
          rw [react]
          cases opens : files.read file with
          | absent => exact .unopened opens
          | directory => exact .unreadable opens
          | content payload =>
              refine does_keyless rfl _ ?_
              cases made : RecordKey.make username address with
              | ok key => simp [opens, made] at asks
              | error error => rfl
      | read username address => exact does_keyless rfl _ (Option.map_eq_none_iff.mp asks)
      | readInto username address file => exact does_keyless rfl _ (Option.map_eq_none_iff.mp asks)
      | storeFixed username address message => cases asks
      | readFixed username address => cases asks
      | deleteFixed username address => cases asks

end Doing

section Writing

theorem Parts.unique {otherCommand otherUsername otherAddress otherArgument : Text}
    (parts : Parts command username address argument line)
    (others : Parts otherCommand otherUsername otherAddress otherArgument line) :
    command = otherCommand ∧ username = otherUsername ∧ address = otherAddress ∧
      argument = otherArgument := by
  obtain ⟨gap, afterCommand, afterUsername, blank, first, second, third⟩ := parts.split
  obtain ⟨otherGap, _, _, otherBlank, otherFirst, otherSecond, otherThird⟩ := others.split
  obtain ⟨sameCommand, rfl⟩ :=
    Prod.mk.inj ((word_spelled first).symm.trans (word_spelled otherFirst))
  obtain ⟨sameUsername, rfl⟩ :=
    Prod.mk.inj ((word_spelled second).symm.trans (word_spelled otherSecond))
  obtain ⟨sameAddress, sameTail⟩ :=
    Prod.mk.inj ((word_spelled third).symm.trans (word_spelled otherThird))
  have sameArgument := congrArg Text.skipBlanks sameTail
  rw [skipBlanks_blank blank, skipBlanks_blank otherBlank, skipBlanks_solid parts.trimmed,
    skipBlanks_solid others.trimmed] at sameArgument
  exact ⟨sameCommand, sameUsername, sameAddress, sameArgument⟩

theorem Blank.head_append (blank : Blank gap) (filled : gap ≠ []) (line : Text) :
    ∀ byte, (gap ++ line).head? = some byte → Text.isBlank byte = true := by
  cases gap with
  | nil => exact absurd rfl filled
  | cons first others =>
      rintro byte ⟨⟩
      exact blank first List.mem_cons_self

theorem Written.parts (written : Written) :
    Parts written.command written.username written.address written.rest written.line where
  spelled := by
    refine ⟨written.lastGap, written.lastBlank, ?_⟩
    refine .word written.indentBlank written.commandWord ?_ ?_
    · rw [List.append_assoc]
      exact written.firstBlank.head_append written.firstFilled _
    refine .word written.firstBlank written.usernameWord ?_ ?_
    · rw [List.append_assoc]
      exact written.secondBlank.head_append written.secondFilled _
    refine .word written.secondBlank written.addressWord ?_ (.none _)
    by_cases filled : written.lastGap = []
    · have empty : written.rest = [] := by
        by_contra rest
        exact written.lastFilled rest filled
      rw [filled, empty]
      rintro byte ⟨⟩
    · exact written.lastBlank.head_append filled _
  trimmed := written.restTrimmed

end Writing

/-- The grammar of the lines. A line without a newline means one thing, and that is what the shell
does. A line written out of a command, two words and a rest has these parts and no others, and it is
for these parts that the shell takes it. -/
theorem grammar_governs_lines (files : Files) (session : Session) :
    (∀ line, (10 : UInt8) ∉ line → ∃ request,
      (∀ other, Means line other ↔ other = request) ∧
        Does files session request (turn files session line)) ∧
    ∀ written : Written,
      (∀ command username address argument,
        Parts command username address argument written.line ↔
          command = written.command ∧ username = written.username ∧ address = written.address ∧
            argument = written.rest) ∧
      Reads written.line written.command written.username written.address written.rest ∧
      (written.command ∉ standalone → Request.parse written.line =
        .ofWords written.command written.username written.address written.rest) := by
  constructor
  · intro line unbroken
    refine ⟨Request.parse line, fun other => ⟨?_, ?_⟩, does_react files session _⟩
    · exact fun means => (parse_of_means unbroken means).symm
    · rintro rfl
      exact means_parse line unbroken
  · intro written
    refine ⟨fun command username address argument => ⟨?_, ?_⟩, ?_, ?_⟩
    · exact fun parts => parts.unique written.parts
    · rintro ⟨rfl, rfl, rfl, rfl⟩
      exact written.parts
    · exact written.parts.reads written.restUnbroken
    · exact written.parts.parsed written.restUnbroken

def sampleLine : Written where
  command := text "fstore"
  username := text "u"
  address := text "a"
  rest := text "m x "
  indent := text "  "
  firstGap := [9]
  secondGap := text " "
  lastGap := [11, 32]
  commandWord := by decide
  usernameWord := by decide
  addressWord := by decide
  restTrimmed := by
    rintro byte ⟨⟩
    rfl
  restUnbroken := by decide
  indentBlank := by decide
  firstBlank := by decide
  firstFilled := by decide
  secondBlank := by decide
  secondFilled := by decide
  lastBlank := by decide
  lastFilled := fun _ => by decide

theorem blanks_at_the_end_are_kept :
    (10 : UInt8) ∉ sampleLine.line ∧ sampleLine.command ∉ standalone ∧
      (∀ other, Means sampleLine.line other ↔
        other = .storeFixed (text "u") (text "a") (text "m x ")) ∧
      Does Files.empty (Session.standard false) (.storeFixed (text "u") (text "a") (text "m x "))
        (turn Files.empty (Session.standard false) sampleLine.line) ∧
      Request.parse sampleLine.line = .storeFixed (text "u") (text "a") (text "m x ") := by
  have unbroken : (10 : UInt8) ∉ sampleLine.line := by decide
  have other : sampleLine.command ∉ standalone := by decide
  obtain ⟨governs, writes⟩ := grammar_governs_lines Files.empty (Session.standard false)
  obtain ⟨_, _, parses⟩ := writes sampleLine
  obtain ⟨request, means, does⟩ := governs sampleLine.line unbroken
  have asked : Request.parse sampleLine.line = request :=
    parse_of_means unbroken ((means request).mpr rfl)
  have parsed := parses other
  obtain rfl := asked.symm.trans parsed
  exact ⟨unbroken, other, means, does, parsed⟩

end

end CardVault.Shell

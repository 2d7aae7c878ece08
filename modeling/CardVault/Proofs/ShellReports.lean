import CardVault.Proofs.FixedRecord.Sizes
import CardVault.Proofs.InitReach
import CardVault.Proofs.LineGrammar
import CardVault.Proofs.ShellRun.Entries
import CardVault.Proofs.StorePlan
import Mathlib.Data.List.Forall2

/-!
Plans carried out. A store succeeds if and only if its plan is carried out: all of it is sent, nothing
else passes, and every frame is answered with success.
-/

namespace CardVault

section

variable {σ : Type}

/-- A plan has been carried out: its frames went out in order, each spelled out as its command
demands, nothing else passed, and the card has taken every one of them. -/
def CarriedOut (plan : List Planned) (events : List Event) : Prop :=
  List.Forall₂ (fun planned event => ∃ frame reply, event = .sent planned.purpose frame reply ∧
    planned.command.Laid frame ∧ reply.Taken) plan events

theorem Walk.carriedOut {plan : List Planned} {events : List Event} (walk : Walk plan events none)
    (fit : ∀ planned ∈ plan, planned.command.data.length ≤ 255) : CarriedOut plan events := by
  generalize passed : (none : Option Failure) = outcome at walk
  induction walk with
  | finished => exact .nil
  | taken success _ ih =>
      obtain ⟨fits, others⟩ := List.forall_mem_cons.mp fit
      exact .cons ⟨_, _, rfl, Command.frame_laid fits, (Reply.taken_iff _).mpr success⟩
        (ih others passed)
  | stopped _ _ => cases passed

theorem CarriedOut.replies {plan : List Planned} {events : List Event}
    (carried : CarriedOut plan events) :
    ∀ reply ∈ events.filterMap Event.reply?, reply.status? = some 0x9000 := by
  induction carried with
  | nil =>
      rintro reply ⟨⟩
  | cons sent _ ih =>
      obtain ⟨frame, reply, rfl, _, taken⟩ := sent
      exact List.forall_mem_cons.mpr ⟨(reply.taken_iff).mp taken, ih⟩

namespace Session

variable {session : Session} (peer : Peer σ) (state : σ)

theorem store_out_of_reach (session : Session) {key : RecordKey}
    (unreached : ¬ (session.Free ∧ key.wire.length ≤ 255)) (payload : Bytes) :
    ∃ failure after,
      session.perform (.store key payload) = .done (some (.error failure), after) := by
  by_cases free : session.Free
  · have unfit : 255 < key.wire.length := Nat.not_le.mp fun fits => unreached ⟨free, fits⟩
    rw [perform, store, beginStore, whenFree_eq free.1 free.2,
      Transfer.beginStore_unfit session.settings unfit]
    exact ⟨_, _, rfl⟩
  · have unready : ¬ session.Ready (.store key payload) := free
    obtain ⟨message, refused⟩ := perform_refused rfl unready
    exact ⟨_, _, refused⟩

theorem store_succeeds_iff (session : Session) (key : RecordKey) (payload : Bytes) :
    let transcript := (session.perform (.store key payload)).run peer state
    transcript.value.1 = some (.ok none) ↔ ∃ chunks,
      Cut session.settings.chunkSize.toNat payload chunks ∧
        CarriedOut (storePlan session.settings key chunks) transcript.events := by
  by_cases reached : session.Free ∧ key.wire.length ≤ 255
  · obtain ⟨free, fits⟩ := reached
    obtain ⟨walk, _, _⟩ := store_follows peer state free.1 free.2 key fits payload
    simp only [perform, shown, Dialogue.run_map]
    cases outcome : ((session.store key payload).run peer state).value.1 with
    | ok value =>
        rw [outcome] at walk
        obtain ⟨positive, _⟩ := Settings.check_chunkSize session.accepted
        have fit := storePlan_fits session.settings fits (session.slices_fit payload)
        exact iff_of_true rfl ⟨_, slices_cut _ positive payload, walk.carriedOut fit⟩
    | error failure =>
        rw [outcome] at walk
        refine iff_of_false ?_ ?_
        · rintro ⟨⟩
        · rintro ⟨chunks, _, carried⟩
          cases walk.complete carried.replies
  · obtain ⟨failure, after, fails⟩ := session.store_out_of_reach reached payload
    rw [fails]
    refine iff_of_false ?_ ?_
    · rintro ⟨⟩
    · rintro ⟨chunks, _, ⟨⟩⟩

theorem store_carries_nothing {key : RecordKey} {payload : Bytes} {carried : Option Bytes}
    (stored : ((session.perform (.store key payload)).run peer state).value.1 =
      some (.ok carried)) : carried = none := by
  simp only [perform, shown, Dialogue.run_map] at stored
  cases outcome : ((session.store key payload).run peer state).value.1 with
  | error failure =>
      rw [outcome] at stored
      cases stored
  | ok value =>
      rw [outcome] at stored
      cases stored
      rfl

end Session

end

/-!
The words in which the shell reports. Those for a file that has been stored tell its size, and no
failure and no other success is told in the same words.
-/

section Numerals

theorem text_inj {first second : String} : text first = text second ↔ first = second := by
  have encoded (characters : String) : characters.toByteArray = (text characters).toByteArray :=
    String.utf8Encode_toList.symm
  constructor
  · intro same
    rw [← String.toByteArray_inj, encoded, encoded, same]
  · rintro rfl
    rfl

theorem decimal_inj {first second : Nat} :
    Text.decimal first = Text.decimal second ↔ first = second := by
  rw [Text.decimal, Text.decimal, text_inj, Nat.toString_eq_repr, Nat.toString_eq_repr]
  constructor
  · intro same
    have digits : Nat.toDigits 10 first = Nat.toDigits 10 second := by
      rw [← Nat.toList_repr, same, Nat.toList_repr]
    rw [← Nat.ofDigitChars_ten_toDigits (n := first), digits, Nat.ofDigitChars_ten_toDigits]
  · rintro rfl
    rfl

theorem decimal_head (number : Nat) :
    ∃ digit rest, Text.decimal number = digit :: rest ∧ Text.isDigit digit = true := by
  have written : Text.decimal number = (Nat.toDigits 10 number).flatMap String.utf8EncodeChar := by
    rw [Text.decimal, text, Nat.toString_eq_repr, Nat.toList_repr]
  cases digits : Nat.toDigits 10 number with
  | nil => exact absurd digits Nat.toDigits_ne_nil
  | cons first others =>
      have digit : first.isDigit = true := by
        refine Nat.isDigit_of_mem_toDigits (by decide) (by decide) (b := 10) (n := number) ?_
        rw [digits]
        exact List.mem_cons_self
      obtain ⟨atLeast, atMost⟩ : 48 ≤ first.val.toNat ∧ first.val.toNat ≤ 57 := by
        simpa [Char.isDigit, UInt32.le_iff_toNat_le] using digit
      have short : first.utf8Size = 1 := by
        rw [Char.utf8Size_eq_one_iff, UInt32.le_iff_toNat_le]
        exact Nat.le_trans atMost (by decide)
      rw [digits, List.flatMap_cons, String.utf8EncodeChar_eq_singleton short] at written
      refine ⟨_, _, written, ?_⟩
      have small : first.val.toNat % 256 = first.val.toNat := Nat.mod_eq_of_lt (by omega)
      simp only [Text.isDigit, Bool.and_eq_true, decide_eq_true_eq, UInt8.le_iff_toNat_le,
        UInt32.toNat_toUInt8, small]
      exact ⟨atLeast, atMost⟩

end Numerals

namespace Shell

def storedText (count : Nat) : Text :=
  text "Stored " ++ Text.decimal count ++ text " bytes\n"

def Request.shows : Request → Bool
  | .read _ _ | .readFixed _ _ => true
  | _ => false

def Request.receives : Request → Bool
  | .storeFixed _ _ _ | .deleteFixed _ _ => true
  | _ => false

theorem storedText_inj {first second : Nat} :
    storedText first = storedText second ↔ first = second := by
  rw [storedText, storedText, List.append_left_inj, List.append_right_inj, decimal_inj]

theorem ne_storedText {output : Text} (beginning : Text) (begins : output.take 6 = beginning)
    (other : beginning ≠ text "Stored") (count : Nat) : output ≠ storedText count := by
  rintro rfl
  exact other begins.symm

/-- Where a record is stored stands in the place of a size, and is no numeral. -/
theorem storedAt_ne_storedText (receipt : Receipt) (count : Nat) :
    storedAt receipt ≠ storedText count := by
  obtain ⟨digit, rest, numeral, isDigit⟩ := decimal_head count
  intro same
  have letter : (storedAt receipt)[7]? = some 97 := rfl
  rw [same, storedText, numeral] at letter
  have digitFirst : (text "Stored " ++ digit :: rest ++ text " bytes\n")[7]? = some digit := rfl
  rw [digitFirst] at letter
  cases letter
  cases isDigit

section Answers

variable {opened : Text → Opened} {request : Request} {carried : Option Bytes} {reaction : Reaction}

def Reaction.Differs (reaction : Reaction) : Prop :=
  ∀ (files : Files) (session : Session) (count : Nat),
    (reaction.settle files session).output ≠ storedText count

theorem differs_of_begins {reaction : Reaction} (beginning : Text)
    (begins : ∀ (files : Files) (session : Session),
      (reaction.settle files session).output.take 6 = beginning)
    (other : beginning ≠ text "Stored") : reaction.Differs :=
  fun files session => ne_storedText beginning (begins files session) other

theorem complain?_tells {failure : Failure}
    (tells : request.complain? (.error failure) = some reaction) :
    ∃ action, request.action? = some action ∧ reaction = .print (failed action failure) ∧
      reaction.Differs := by
  cases request with
  | store username address file =>
      cases tells
      exact ⟨_, rfl, rfl, differs_of_begins (text "Store ") (fun _ _ => rfl) (by decide)⟩
  | read username address =>
      cases tells
      exact ⟨_, rfl, rfl, differs_of_begins (text "Read f") (fun _ _ => rfl) (by decide)⟩
  | readInto username address file =>
      cases tells
      exact ⟨_, rfl, rfl, differs_of_begins (text "Read f") (fun _ _ => rfl) (by decide)⟩
  | storeFixed username address message =>
      cases tells
      exact ⟨_, rfl, rfl, differs_of_begins (text "Fixed ") (fun _ _ => rfl) (by decide)⟩
  | readFixed username address =>
      cases tells
      exact ⟨_, rfl, rfl, differs_of_begins (text "Fixed ") (fun _ _ => rfl) (by decide)⟩
  | deleteFixed username address =>
      cases tells
      exact ⟨_, rfl, rfl, differs_of_begins (text "Fixed ") (fun _ _ => rfl) (by decide)⟩
  | _ => cases tells

theorem succeed?_carried
    (reads : ∀ username address file, request ≠ .store username address file)
    (answer : request.succeed? opened (.ok carried) = some reaction) :
    ∃ payload, carried = some payload := by
  cases carried with
  | some payload => exact ⟨payload, rfl⟩
  | none =>
      cases request with
      | store username address file => exact absurd rfl (reads username address file)
      | _ => cases answer

theorem shows_not_store (console : request.shows = true) :
    ∀ username address file, request ≠ .store username address file := by
  rintro username address file rfl
  cases console

theorem succeed?_unlike (other : ∀ username address file, request ≠ .store username address file)
    (console : request.shows = false)
    (answer : request.succeed? opened (.ok carried) = some reaction) : reaction.Differs := by
  cases request with
  | store username address file => exact absurd rfl (other username address file)
  | read username address => cases console
  | readFixed username address => cases console
  | readInto username address file =>
      obtain ⟨payload, _, rfl⟩ := Option.map_eq_some_iff.mp answer
      intro files session
      simp only [Reaction.settle]
      split
      · exact ne_storedText (text "Wrote ") rfl (by decide)
      · exact ne_storedText (text "Error ") rfl (by decide)
  | storeFixed username address message =>
      obtain ⟨receipt, _, rfl⟩ := Option.map_eq_some_iff.mp answer
      exact fun _ _ => storedAt_ne_storedText receipt
  | deleteFixed username address =>
      obtain ⟨receipt, _, rfl⟩ := Option.map_eq_some_iff.mp answer
      exact differs_of_begins (text "Delete") (fun _ _ => rfl) (by decide)
  | _ => cases answer

end Answers

end Shell

/-!
What the shell reports. It tells of a result only what is in it; a failure is told as one; and a file
is said to be stored exactly if the card has taken all of it.
-/

section

variable {σ : Type}

namespace Shell

theorem does_uncalled {files : Files} {session : Session} {request : Request}
    {dialogue : Dialogue Turn} (does : Does files session request dialogue)
    (asks : request.call? files.read = none) :
    ∃ turn, dialogue = .done turn ∧ ∀ count, turn.output ≠ storedText count := by
  cases does with
  | nothing => exact ⟨_, rfl, ne_storedText [] rfl (by decide)⟩
  | quit => exact ⟨_, rfl, ne_storedText [] rfl (by decide)⟩
  | help => exact ⟨_, rfl, ne_storedText (text "Availa") rfl (by decide)⟩
  | incomplete => exact ⟨_, rfl, ne_storedText (text "Invali") rfl (by decide)⟩
  | unknown => exact ⟨_, rfl, ne_storedText (text "Unknow") rfl (by decide)⟩
  | call calls =>
      rw [calls.asks] at asks
      cases asks
  | unopened absent => exact ⟨_, rfl, ne_storedText (text "Error ") rfl (by decide)⟩
  | unreadable directory => exact ⟨_, rfl, ne_storedText [] rfl (by decide)⟩
  | keyless keyed long refused => exact ⟨_, rfl, ne_storedText (text "Invali") rfl (by decide)⟩

namespace Entry

variable {peer : Peer σ} {entry : Entry σ} {call : Call}

/-- The line stores a file of some size, and all that it sends to that end is answered with success. -/
def Stores (peer : Peer σ) (entry : Entry σ) (count : Nat) : Prop :=
  ∃ username address file payload key chunks,
    Request.parse entry.line = .store username address file ∧
      entry.files.read file = .content payload ∧ payload.length = count ∧
      RecordKey.make username address = .ok key ∧
      Cut entry.session.settings.chunkSize.toNat payload chunks ∧
      CarriedOut (storePlan entry.session.settings key chunks) (entry.transcript peer).events

def Shows (peer : Peer σ) (entry : Entry σ) (payload : Bytes) : Prop :=
  (Request.parse entry.line).shows = true ∧ (entry.asked peer).value.1 = some (.ok (some payload))

theorem asked_of_call (asks : (Request.parse entry.line).call? entry.files.read = some call) :
    entry.asked peer = (entry.session.perform call).run peer entry.state := by
  rw [asked, Request.ask, asks]

theorem answered (peer : Peer σ)
    (asks : (Request.parse entry.line).call? entry.files.read = some call) :
    ∃ result reaction, (entry.asked peer).value.1 = some result ∧
      (Request.parse entry.line).answer? entry.files.read result = some reaction ∧
      (entry.transcript peer).value = reaction.settle entry.files (entry.left peer) := by
  have answers := react_answers entry.session asks
  obtain ⟨result, reaction, comes, answer⟩ := answers.whole peer entry.state
  have told : (Request.parse entry.line).told entry.files.read (some result) = reaction := by
    rw [Request.told, Option.bind_some, answer, Option.getD_some]
  refine ⟨result, reaction, (by rw [asked_of_call asks, comes]), answer, ?_⟩
  rw [(entry.follows peer).2.1, asked_of_call asks, transcript, turn, answers.told,
    Dialogue.run_map, Dialogue.run_map]
  dsimp only
  rw [comes, told]

theorem uncalled (peer : Peer σ)
    (asks : (Request.parse entry.line).call? entry.files.read = none) :
    (entry.asked peer).value.1 = none ∧
      ∀ count, (entry.transcript peer).value.output ≠ storedText count := by
  constructor
  · rw [asked, Request.ask, asks]
    rfl
  · obtain ⟨done, does, unlike⟩ :=
      does_uncalled (does_react entry.files entry.session (Request.parse entry.line)) asks
    rw [transcript, turn, does]
    exact unlike

theorem asked_result {result : Result} (comes : (entry.asked peer).value.1 = some result) :
    ∃ call, (Request.parse entry.line).call? entry.files.read = some call := by
  cases asks : (Request.parse entry.line).call? entry.files.read with
  | some call => exact ⟨call, rfl⟩
  | none =>
      rw [(uncalled peer asks).1] at comes
      cases comes

theorem answers_result {result : Result} (comes : (entry.asked peer).value.1 = some result) :
    ∃ reaction, (Request.parse entry.line).answer? entry.files.read result = some reaction ∧
      (entry.transcript peer).value = reaction.settle entry.files (entry.left peer) := by
  obtain ⟨call, asks⟩ := asked_result comes
  obtain ⟨found, reaction, given, answer, does⟩ := answered peer asks
  rw [comes] at given
  cases given
  exact ⟨reaction, answer, does⟩

theorem answers_failure {failure : Failure}
    (comes : (entry.asked peer).value.1 = some (.error failure)) :
    ∃ action, (Request.parse entry.line).action? = some action ∧
      (entry.transcript peer).value = ⟨.more, failed action failure, entry.files, entry.left peer⟩ ∧
      ∀ count, (entry.transcript peer).value.output ≠ storedText count := by
  obtain ⟨reaction, answer, does⟩ := answers_result comes
  obtain ⟨action, named, rfl, differs⟩ := complain?_tells answer
  refine ⟨action, named, does, ?_⟩
  rw [does]
  exact differs entry.files (entry.left peer)

theorem shows_printed {payload : Bytes} (shows : entry.Shows peer payload) :
    (entry.transcript peer).value =
      ⟨.more, payload ++ Text.newline, entry.files, entry.left peer⟩ := by
  obtain ⟨console, comes⟩ := shows
  obtain ⟨reaction, answer, does⟩ := answers_result comes
  rw [does]
  cases parsed : Request.parse entry.line with
  | read username address =>
      rw [parsed] at answer
      cases answer
      rfl
  | readFixed username address =>
      rw [parsed] at answer
      cases answer
      rfl
  | _ =>
      rw [parsed] at console
      cases console

theorem target_saved {file : Text} {payload : Bytes}
    (wanted : (Request.parse entry.line).target? = some file)
    (comes : (entry.asked peer).value.1 = some (.ok (some payload))) :
    (entry.transcript peer).value =
      (Reaction.save file payload).settle entry.files (entry.left peer) := by
  obtain ⟨reaction, answer, does⟩ := answers_result comes
  rw [(Request.answer?_saves _ _ _).mpr ⟨wanted, rfl⟩] at answer
  cases answer
  exact does

theorem shown_receipt {dialogue : Dialogue (Outcome Receipt × Session)} {state : σ} {payload : Bytes}
    (granted : ∀ receipt, (dialogue.run peer state).value.1 = .ok receipt →
      FixedRecord.Receipted (dialogue.run peer state).replies receipt)
    (comes : ((Session.shown (fun receipt => some receipt.bytes) dialogue).run peer state).value.1 =
      some (.ok (some payload))) :
    ∃ receipt, payload = receipt.bytes ∧ FixedRecord.Receipted
      ((Session.shown (fun receipt => some receipt.bytes) dialogue).run peer state).replies
      receipt := by
  simp only [Session.shown, Dialogue.run_map] at comes ⊢
  cases outcome : (dialogue.run peer state).value.1 with
  | error failure =>
      rw [outcome] at comes
      cases comes
  | ok receipt =>
      rw [outcome] at comes
      cases comes
      exact ⟨receipt, rfl, granted receipt outcome⟩

theorem receives_receipt {payload : Bytes} (receives : (Request.parse entry.line).receives = true)
    (comes : (entry.asked peer).value.1 = some (.ok (some payload))) :
    ∃ receipt, payload = receipt.bytes ∧
      FixedRecord.Receipted (entry.transcript peer).replies receipt := by
  obtain ⟨call, asks⟩ := asked_result comes
  rw [asked_of_call asks] at comes
  rw [Transcript.replies, (entry.follows peer).1, asked_of_call asks]
  cases parsed : Request.parse entry.line with
  | storeFixed username address message =>
      rw [parsed] at asks
      cases asks
      exact shown_receipt (fun _ => Session.storeFixed_receipted peer entry.state) comes
  | deleteFixed username address =>
      rw [parsed] at asks
      cases asks
      exact shown_receipt (fun _ => Session.deleteFixed_receipted peer entry.state) comes
  | _ =>
      rw [parsed] at receives
      cases receives

theorem stores_told {count : Nat} (stores : entry.Stores peer count) :
    (entry.transcript peer).value.output = storedText count := by
  obtain ⟨username, address, file, payload, key, chunks, parsed, content, rfl, made, cut, carried⟩ :=
    stores
  have asks : (Request.parse entry.line).call? entry.files.read = some (.store key payload) := by
    rw [parsed, Request.call?, content, made]
  have comes : (entry.asked peer).value.1 = some (.ok none) := by
    rw [(entry.follows peer).1, asked_of_call asks] at carried
    rw [asked_of_call asks]
    exact (entry.session.store_succeeds_iff peer entry.state key payload).mpr ⟨chunks, cut, carried⟩
  obtain ⟨reaction, answer, does⟩ := answers_result comes
  rw [parsed] at answer
  have said : reaction = .print (stored payload) := by
    simpa [Request.answer?, Request.succeed?, content, Except.isOk, Except.toBool, eq_comm]
      using answer
  rw [does, said]
  rfl

theorem succeeds_stores {username address file : Text} {carried : Option Bytes}
    (parsed : Request.parse entry.line = .store username address file)
    (comes : (entry.asked peer).value.1 = some (.ok carried)) :
    ∃ count, entry.Stores peer count := by
  obtain ⟨call, asks⟩ := asked_result comes
  have called := asks
  rw [parsed] at called
  obtain ⟨payload, key, content, made, rfl⟩ := call?_store called
  have events := (entry.follows peer).1
  rw [asked_of_call asks] at comes events
  rw [Session.store_carries_nothing peer entry.state comes] at comes
  obtain ⟨chunks, cut, whole⟩ :=
    (entry.session.store_succeeds_iff peer entry.state key payload).mp comes
  rw [← events] at whole
  exact ⟨payload.length, username, address, file, payload, key, chunks, parsed, content, rfl, made,
    cut, whole⟩

/-- What is said to be stored has been, unless a record was read that holds the very words. -/
theorem told_stores {count : Nat}
    (told : (entry.transcript peer).value.output = storedText count) :
    entry.Stores peer count ∨
      ∃ payload, entry.Shows peer payload ∧ payload ++ Text.newline = storedText count := by
  cases asks : (Request.parse entry.line).call? entry.files.read with
  | none => exact absurd told ((uncalled peer asks).2 count)
  | some call =>
      obtain ⟨result, reaction, comes, answer, does⟩ := answered peer asks
      rcases result with failure | carried
      · obtain ⟨_, _, _, differs⟩ := answers_failure comes
        exact absurd told (differs count)
      · have success : (Request.parse entry.line).succeed? entry.files.read (.ok carried) =
            some reaction := answer
        by_cases console : (Request.parse entry.line).shows = true
        · right
          obtain ⟨payload, rfl⟩ := succeed?_carried (shows_not_store console) success
          have shows : entry.Shows peer payload := ⟨console, comes⟩
          rw [shows_printed shows] at told
          exact ⟨payload, shows, told⟩
        · left
          by_cases stores : ∃ username address file,
              Request.parse entry.line = .store username address file
          · obtain ⟨username, address, file, parsed⟩ := stores
            obtain ⟨size, stores⟩ := succeeds_stores parsed comes
            rw [stores_told stores, storedText_inj] at told
            rw [← told]
            exact stores
          · rw [does] at told
            exact absurd told (succeed?_unlike (fun _ _ _ same => stores ⟨_, _, _, same⟩)
              (Bool.eq_false_iff.mpr console) success entry.files (entry.left peer) count)

/-- What a line says and does about the result of its call. -/
structure Truthful (peer : Peer σ) (entry : Entry σ) : Prop where
  /-- All that is read from a result is there. -/
  whole : ∀ result, (entry.asked peer).value.1 = some result → ∃ reaction,
    (Request.parse entry.line).answer? entry.files.read result = some reaction ∧
      (entry.transcript peer).value = reaction.settle entry.files (entry.left peer)
  /-- A success carries a payload, wherever the payload is read. -/
  carried : ∀ carried, (entry.asked peer).value.1 = some (.ok carried) →
    (∀ username address file, Request.parse entry.line ≠ .store username address file) →
    ∃ payload, carried = some payload
  /-- A receipt is the first two bytes of the one answer that the card gave. -/
  receipts : ∀ payload, (Request.parse entry.line).receives = true →
    (entry.asked peer).value.1 = some (.ok (some payload)) →
    payload.length = 2 ∧ ∃ reply response, (entry.transcript peer).replies = [reply] ∧
      reply.response? = some response ∧ response.status = 0x9000 ∧ payload = response.data.take 2
  /-- A failure is told as one, and no file is touched for it. -/
  failures : ∀ failure, (entry.asked peer).value.1 = some (.error failure) → ∃ action,
    (Request.parse entry.line).action? = some action ∧
      (entry.transcript peer).value = ⟨.more, failed action failure, entry.files, entry.left peer⟩
  /-- A file is said to be stored if and only if all of it was taken. Nobody can tell from the words
  alone, where a record is printed that consists of them. -/
  stored : ∀ count, (entry.transcript peer).value.output = storedText count ↔
    entry.Stores peer count ∨
      ∃ payload, entry.Shows peer payload ∧ payload ++ Text.newline = storedText count
  /-- What is printed of a record is its payload and a newline. -/
  shown : ∀ payload, entry.Shows peer payload → (entry.transcript peer).value =
    ⟨.more, payload ++ Text.newline, entry.files, entry.left peer⟩
  /-- What is put into a file is the payload. -/
  saved : ∀ file payload written, (Request.parse entry.line).target? = some file →
    (entry.asked peer).value.1 = some (.ok (some payload)) →
    entry.files.write? file payload = some written →
    (entry.transcript peer).value = ⟨.more, wrote file payload, written, entry.left peer⟩ ∧
      (written.read file = .content payload ∨ Files.locate? entry.files.places file = some .drain)
  /-- Where the file cannot be opened, that is said, and no file is touched. -/
  unsaved : ∀ file payload, (Request.parse entry.line).target? = some file →
    (entry.asked peer).value.1 = some (.ok (some payload)) →
    entry.files.write? file payload = none →
    (entry.transcript peer).value = ⟨.more, cannotOpen file, entry.files, entry.left peer⟩

end Entry

/-- The shell reads nothing from a result that is not there, and reports nothing but what has happened,
for every line on every session, whatever the card and the signer do. -/
theorem reports_are_true (peer : Peer σ) (entry : Entry σ) : entry.Truthful peer where
  whole _ comes := Entry.answers_result comes
  carried carried comes reads := by
    obtain ⟨reaction, answer, _⟩ := Entry.answers_result comes
    exact succeed?_carried reads answer
  receipts payload receives comes := by
    obtain ⟨receipt, rfl, reply, response, once, answer, success, begins⟩ :=
      Entry.receives_receipt receives comes
    exact ⟨rfl, reply, response, once, answer, success, begins.symm⟩
  failures failure comes := by
    obtain ⟨action, named, does, _⟩ := Entry.answers_failure comes
    exact ⟨action, named, does⟩
  stored count := by
    constructor
    · exact Entry.told_stores
    · rintro (stores | ⟨payload, shows, words⟩)
      · exact Entry.stores_told stores
      · rw [Entry.shows_printed shows]
        exact words
  shown payload shows := Entry.shows_printed shows
  saved file payload written wanted comes writes := by
    refine ⟨?_, Files.read_of_write writes⟩
    rw [Entry.target_saved wanted comes, Reaction.settle, writes]
  unsaved file payload wanted comes unwritten := by
    rw [Entry.target_saved wanted comes, Reaction.settle, unwritten]

theorem receipt_of_three_bytes :
    let card := Peer.steady (.ofBytes [5, 2, 9, 0x90, 0]) (.ok [])
    let entry : Entry Unit := ⟨text "fstore u a m", Files.empty, Session.standard false, ()⟩
    (entry.transcript card).value.output = text "Stored at index 5 (2 records)\n" ∧
      ∃ reply response, (entry.transcript card).replies = [reply] ∧
        reply.response? = some response ∧ response.status = 0x9000 ∧
        [5, 2] = response.data.take 2 := by
  intro card entry
  have comes : (entry.asked card).value.1 = some (.ok (some [5, 2])) := by
    decide +kernel
  obtain ⟨_, once⟩ := (reports_are_true card entry).receipts [5, 2] (by decide) comes
  exact ⟨by decide +kernel, once⟩

end Shell

end

end CardVault

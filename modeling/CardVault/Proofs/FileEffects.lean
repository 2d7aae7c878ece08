import CardVault.Proofs.PhasedTransfer.Carried
import CardVault.Proofs.ShellReports
import CardVault.Proofs.ShellRun

/-!
What the shell does with files. A file is written only after a record has been read whole, and then
it is the one that the line names and holds the record; every other line, however it ends, leaves all
files as they were. What a line stores is what its file held when the line was carried out.
-/

namespace CardVault

open Dialogue

variable {σ : Type}

/-- A file has been created or replaced, and all others are as they were. -/
structure Files.Replaced (before after : Files) (name : Text) (content : Bytes) : Prop where
  content : after.entries.lookup name = some content
  others : ∀ other, other ≠ name → after.entries.lookup other = before.entries.lookup other

theorem Files.write?_replaced {files : Files} {path name : Text} (content : Bytes)
    (leads : locate? files.places path = some (.name name)) :
    ∃ written, files.write? path content = some written ∧ Replaced files written name content := by
  refine ⟨{ files with entries := put name content files.entries }, by rw [write?, leads], ?_⟩
  exact ⟨lookup_put name content _, fun other differs => lookup_put_other differs content _⟩

theorem Files.write?_nameless {files : Files} {path : Text} (content : Bytes)
    (nameless : ∀ name, locate? files.places path ≠ some (.name name)) :
    files.write? path content = none ∨ files.write? path content = some files := by
  unfold write?
  split
  · rename_i name leads
    exact absurd leads (nameless name)
  · exact .inr rfl
  · exact .inl rfl

section Stores

theorem CarriedOut.pursues {plan : List Planned} {events : List Event}
    (carried : CarriedOut plan events) : Pursues plan events := by
  apply carried.imp
  rintro planned _ ⟨frame, reply, rfl, laid, _⟩
  exact ⟨reply, by rw [laid.eq_frame]⟩

theorem storePlan_finalize_last {settings : Settings} {key : RecordKey} {chunks : List Bytes}
    {done undone : List Planned} (split : storePlan settings key chunks = done ++ undone)
    (finalized : .later .store .finalize ∈ done.map (·.purpose)) : undone = [] := by
  rcases List.eq_nil_or_concat undone with none | ⟨before, last, ends⟩
  · exact none
  · rw [ends, List.concat_eq_append, ← List.append_assoc, storePlan, ← List.append_assoc] at split
    have front := (List.append_inj' split rfl).1
    obtain ⟨planned, member, same⟩ := List.mem_map.mp finalized
    have earlier : planned ∈ done ++ before := List.mem_append_left _ member
    rw [← front, List.mem_append, List.mem_singleton, List.mem_map] at earlier
    rcases earlier with rfl | ⟨chunk, _, rfl⟩ <;> cases same

/-- What a store sends of a payload, whatever becomes of it: a part from the front, and all of it
once FINALIZE has been sent, as it has where the store succeeds. -/
structure SendsPayload (payload : Bytes) (result : Option Result) (events : List Event) : Prop where
  front : carriedBy .store events <+: payload
  whole : .later .store .finalize ∈ events.filterMap Event.purpose? →
    carriedBy .store events = payload
  finalized : ∀ carried, result = some (.ok carried) →
    .later .store .finalize ∈ events.filterMap Event.purpose?

theorem sendsPayload_silent {payload : Bytes} {result : Option Result}
    (unstored : ∀ carried, result ≠ some (.ok carried)) : SendsPayload payload result [] where
  front := List.nil_prefix
  whole := by simp
  finalized carried stored := absurd stored (unstored carried)

theorem Session.store_sendsPayload (session : Session) (peer : Peer σ) (state : σ) (key : RecordKey)
    (payload : Bytes) :
    let transcript := (session.perform (.store key payload)).run peer state
    SendsPayload payload transcript.value.1 transcript.events := by
  by_cases reached : session.Free ∧ key.wire.length ≤ 255
  · obtain ⟨free, fits⟩ := reached
    have walk := (store_follows peer state free.1 free.2 key fits payload).walk
    obtain ⟨done, undone, split, pursues, _⟩ := walk.pursues
    have moves : payload = (done.filterMap Planned.moved?).flatten ++
        (undone.filterMap Planned.moved?).flatten := by
      rw [← List.flatten_append, ← List.filterMap_append, ← split,
        storePlan_moved _ _ _ (session.slices_fit payload), slices_flatten]
    have whole (finalized : .later .store .finalize ∈ done.map (·.purpose)) :
        (done.filterMap Planned.moved?).flatten = payload := by
      rw [moves, storePlan_finalize_last split finalized]
      simp
    have events : ((session.perform (.store key payload)).run peer state).events =
        ((session.store key payload).run peer state).events := by
      rw [perform, shown, run_map]
    rw [← events] at pursues
    refine ⟨?_, ?_, ?_⟩
    · rw [pursues.carried]
      exact ⟨_, moves.symm⟩
    · rw [pursues.carried, pursues.purposes]
      exact whole
    · intro carried succeeded
      rw [session.store_carries_nothing peer state succeeded] at succeeded
      obtain ⟨chunks, _, out⟩ := (session.store_succeeds_iff peer state key payload).mp succeeded
      rw [out.pursues.purposes, storePlan]
      simp
  · obtain ⟨failure, after, fails⟩ := session.store_out_of_reach reached payload
    rw [fails]
    exact sendsPayload_silent fun _ given => by cases given

end Stores

namespace Shell

variable {peer : Peer σ} {entry : Entry σ} {username address file : Text} {payload : Bytes}

theorem ofWords_readInto_iff {command argument otherUsername otherAddress : Text} :
    Request.ofWords command username address argument = .readInto otherUsername otherAddress file ↔
      command = text "read" ∧ argument ≠ [] ∧ username = otherUsername ∧ address = otherAddress ∧
        argument = file := by
  constructor
  · intro asks
    unfold Request.ofWords at asks
    split at asks
    · cases asks
    · split at asks
      · rename_i read
        split at asks
        · cases asks
        · rename_i filled
          cases asks
          exact ⟨read, filled, rfl, rfl, rfl⟩
      · repeat' split at asks
        all_goals cases asks
  · rintro ⟨rfl, filled, rfl, rfl, rfl⟩
    exact ofWords_readInto filled

theorem parse_readInto_filled {line : Text}
    (parsed : Request.parse line = .readInto username address file) : file ≠ [] := by
  simp only [Request.parse] at parsed
  repeat' split at parsed
  all_goals first | cases parsed | skip
  obtain ⟨_, filled, _, _, rfl⟩ := ofWords_readInto_iff.mp parsed
  exact filled

theorem parse_readInto_iff {line : Text} (unbroken : (10 : UInt8) ∉ line) :
    Request.parse line = .readInto username address file ↔
      Parts (text "read") username address file line ∧ file ≠ [] := by
  constructor
  · intro parsed
    have means := means_parse line unbroken
    rw [parsed] at means
    cases means with
    | readInto parts filled => exact ⟨parts, filled⟩
  · rintro ⟨parts, filled⟩
    exact parse_of_means unbroken (.readInto parts filled)

theorem does_kept {files : Files} {session : Session} {request : Request} {dialogue : Dialogue Turn}
    (does : Does files session request dialogue) (asks : request.call? files.read = none) :
    ∃ turn, dialogue = .done turn ∧ turn.files = files := by
  cases does with
  | call calls =>
      rw [calls.asks] at asks
      cases asks
  | _ => exact ⟨_, rfl, rfl⟩

namespace Entry

def ReadsInto (peer : Peer σ) (entry : Entry σ) (file : Text) (payload : Bytes) : Prop :=
  ∃ username address key, Request.parse entry.line = .readInto username address file ∧
    RecordKey.make username address = .ok key ∧
    ((entry.session.read key).run peer entry.state).value.1 = .ok payload

theorem asked_read {key : RecordKey}
    (asks : (Request.parse entry.line).call? entry.files.read = some (.read key)) :
    (entry.asked peer).value.1 =
      some (((entry.session.read key).run peer entry.state).value.1.map some) := by
  rw [asked_of_call asks, Session.perform, Session.shown, Dialogue.run_map]

theorem readsInto_iff :
    entry.ReadsInto peer file payload ↔ (Request.parse entry.line).target? = some file ∧
      (entry.asked peer).value.1 = some (.ok (some payload)) := by
  constructor
  · rintro ⟨username, address, key, parsed, made, given⟩
    have asks : (Request.parse entry.line).call? entry.files.read = some (.read key) := by
      rw [parsed, Request.call?, made]
      rfl
    rw [asked_read asks, given, parsed]
    exact ⟨rfl, rfl⟩
  · rintro ⟨wanted, comes⟩
    cases parsed : Request.parse entry.line with
    | readInto username address target =>
        rw [parsed] at wanted
        cases wanted
        obtain ⟨call, asks⟩ := asked_result comes
        have called := asks
        rw [parsed, Request.call?, Option.map_eq_some_iff] at called
        obtain ⟨key, made, rfl⟩ := called
        rw [asked_read asks, Option.some_inj] at comes
        refine ⟨username, address, key, parsed, ok_of_toOption made, ?_⟩
        cases outcome : ((entry.session.read key).run peer entry.state).value.1 with
        | error failure =>
            rw [outcome] at comes
            cases comes
        | ok found =>
            rw [outcome] at comes
            cases comes
            rfl
    | _ =>
        rw [parsed] at wanted
        cases wanted

theorem files_kept (unread : ∀ file payload, ¬ entry.ReadsInto peer file payload) :
    (entry.transcript peer).value.files = entry.files := by
  cases asks : (Request.parse entry.line).call? entry.files.read with
  | none =>
      obtain ⟨done, does, kept⟩ :=
        does_kept (does_react entry.files entry.session (Request.parse entry.line)) asks
      rw [transcript, turn, does]
      exact kept
  | some call =>
      obtain ⟨result, reaction, comes, answer, does⟩ := answered peer asks
      rw [does]
      cases reaction with
      | save file payload =>
          obtain ⟨wanted, rfl⟩ := (Request.answer?_saves _ _ _).mp answer
          exact absurd (readsInto_iff.mpr ⟨wanted, comes⟩) (unread file payload)
      | _ => rfl

theorem files_saved (reads : entry.ReadsInto peer file payload) :
    (entry.transcript peer).value.files =
      (entry.files.write? file payload).getD entry.files := by
  obtain ⟨wanted, comes⟩ := readsInto_iff.mp reads
  rw [target_saved wanted comes, Reaction.settle]
  cases entry.files.write? file payload <;> rfl

theorem files_replaced {name : Text} (reads : entry.ReadsInto peer file payload)
    (leads : Files.locate? entry.files.places file = some (.name name)) :
    entry.files.Replaced (entry.transcript peer).value.files name payload := by
  obtain ⟨written, writes, replaced⟩ := Files.write?_replaced payload leads
  rw [files_saved reads, writes]
  exact replaced

theorem files_unsaved (reads : entry.ReadsInto peer file payload)
    (nameless : ∀ name, Files.locate? entry.files.places file ≠ some (.name name)) :
    (entry.transcript peer).value.files = entry.files := by
  rw [files_saved reads]
  rcases Files.write?_nameless payload nameless with unopened | same
  · rw [unopened]
    rfl
  · rw [same]
    rfl

theorem store_sends (parsed : Request.parse entry.line = .store username address file)
    (content : entry.files.read file = .content payload) :
    SendsPayload payload (entry.asked peer).value.1 (entry.transcript peer).events := by
  rw [(entry.follows peer).1]
  cases made : RecordKey.make username address with
  | error error =>
      have asks : (Request.parse entry.line).call? entry.files.read = none := by
        rw [parsed, Request.call?, content, made]
      rw [asked, Request.ask, asks]
      exact sendsPayload_silent fun _ given => by cases given
  | ok key =>
      have asks : (Request.parse entry.line).call? entry.files.read =
          some (.store key payload) := by
        rw [parsed, Request.call?, content, made]
      rw [asked_of_call asks]
      exact entry.session.store_sendsPayload peer entry.state key payload

theorem store_silent (parsed : Request.parse entry.line = .store username address file)
    (nothing : ∀ payload, entry.files.read file ≠ .content payload) :
    (entry.transcript peer).events = [] := by
  have asks : (Request.parse entry.line).call? entry.files.read = none := by
    rw [parsed]
    simp only [Request.call?]
    split
    · rename_i payload key content made
      exact absurd content (nothing payload)
    · rfl
  rw [(entry.follows peer).1, asked, Request.ask, asks]
  rfl

end Entry

/-- What a line does with the files. -/
structure FileEffects (peer : Peer σ) (entry : Entry σ) : Prop where
  /-- A line asks for a file to be read into if it is `read`, two words and a rest that is not
  empty. -/
  form : (10 : UInt8) ∉ entry.line → ∀ username address file,
    Request.parse entry.line = .readInto username address file ↔
      Parts (text "read") username address file entry.line ∧ file ≠ []
  named : ∀ username address file, Request.parse entry.line = .readInto username address file →
    file ≠ []
  /-- All files stay as they are, unless the line reads into a file and the read succeeds. -/
  kept : (∀ file payload, ¬ entry.ReadsInto peer file payload) →
    (entry.transcript peer).value.files = entry.files
  failed : ∀ failure, (entry.asked peer).value.1 = some (.error failure) →
    (entry.transcript peer).value.files = entry.files
  /-- Then the file that the line names holds the record, and no other has changed. -/
  saved : ∀ file payload name, entry.ReadsInto peer file payload →
    Files.locate? entry.files.places file = some (.name name) →
    entry.files.Replaced (entry.transcript peer).value.files name payload
  /-- A path that leads to no name in the directory cannot be opened, or is a device that holds
  nothing. -/
  unsaved : ∀ file payload, entry.ReadsInto peer file payload →
    (∀ name, Files.locate? entry.files.places file ≠ some (.name name)) →
    (entry.transcript peer).value.files = entry.files
  stored : ∀ username address file payload,
    Request.parse entry.line = .store username address file →
    entry.files.read file = .content payload →
    SendsPayload payload (entry.asked peer).value.1 (entry.transcript peer).events
  unstored : ∀ username address file, Request.parse entry.line = .store username address file →
    (∀ payload, entry.files.read file ≠ .content payload) → (entry.transcript peer).events = []

/-- Files are touched only by a read into a file that succeeds, for every line on every session,
whatever the card and the signer do. -/
theorem only_reads_touch_files (peer : Peer σ) (entry : Entry σ) : FileEffects peer entry where
  form unbroken _ _ _ := parse_readInto_iff unbroken
  named _ _ _ parsed := parse_readInto_filled parsed
  kept := Entry.files_kept
  failed failure comes := by
    apply Entry.files_kept
    intro file payload reads
    rw [(Entry.readsInto_iff.mp reads).2] at comes
    cases comes
  saved _ _ _ reads leads := Entry.files_replaced reads leads
  unsaved _ _ reads nameless := Entry.files_unsaved reads nameless
  stored _ _ _ _ parsed content := Entry.store_sends parsed content
  unstored _ _ _ parsed nothing := Entry.store_silent parsed nothing

theorem old_copy_is_replaced :
    let files : Files := ⟨Files.empty.places, [(text "copy", [1]), (text "other", [5])]⟩
    let entry : Entry Unit := ⟨text "read u a copy", files, Session.standard true, ()⟩
    let refusing := Peer.steady (.ofBytes [0x6A, 0x82]) (.ok [])
    files.Replaced (entry.transcript Session.oneRecord).value.files (text "copy") [7, 9] ∧
      (entry.transcript refusing).value.files = files := by
  intro files entry refusing
  have reads : entry.ReadsInto Session.oneRecord (text "copy") [7, 9] :=
    ⟨text "u", text "a", ⟨text "u", text "a", by decide, by decide⟩, by decide, rfl,
      by decide +kernel⟩
  have fails : (entry.asked refusing).value.1 =
      some (.error ⟨.initRejected, some 0x6A82, text "Read INIT rejected"⟩) := by
    decide +kernel
  exact ⟨(only_reads_touch_files Session.oneRecord entry).saved _ _ _ reads (by decide),
    (only_reads_touch_files refusing entry).failed _ fails⟩

def Entry.Fills (peer : Peer σ) (entry : Entry σ) (name : Text) (payload : Bytes) : Prop :=
  ∃ file, entry.ReadsInto peer file payload ∧ Files.locate? entry.files.places file = some (.name name)

theorem Entry.lookup_left (peer : Peer σ) (entry : Entry σ) (name : Text) :
    (∃ payload, entry.Fills peer name payload ∧
      (entry.transcript peer).value.files.entries.lookup name = some payload) ∨
    (∀ payload, ¬ entry.Fills peer name payload) ∧
      (entry.transcript peer).value.files.entries.lookup name =
        entry.files.entries.lookup name := by
  by_cases fills : ∃ payload, entry.Fills peer name payload
  · obtain ⟨payload, file, reads, leads⟩ := fills
    exact .inl ⟨payload, ⟨file, reads, leads⟩, (files_replaced reads leads).content⟩
  · have never := not_exists.mp fills
    refine .inr ⟨never, ?_⟩
    by_cases reads : ∃ file payload, entry.ReadsInto peer file payload
    · obtain ⟨file, payload, reads⟩ := reads
      by_cases nameless : ∀ other, Files.locate? entry.files.places file ≠ some (.name other)
      · rw [files_unsaved reads nameless]
      · obtain ⟨other, leads⟩ := not_forall_not.mp nameless
        apply (files_replaced reads leads).others
        rintro rfl
        exact never payload ⟨file, reads, leads⟩
    · rw [files_kept fun file payload reading => reads ⟨file, payload, reading⟩]

/-- After a run a file holds what the last line to fill it has read, or what it held before where no
line has filled it. -/
theorem run_keeps_last_record (peer : Peer σ) (name : Text) (files : Files) (session : Session)
    (state : σ) (lines : List Text) :
    let left := ((runLines files session lines).run peer state).value.files
    (∃ before entry after payload,
      log peer files session state lines = before ++ entry :: after ∧
        entry.Fills peer name payload ∧
        (∀ later ∈ after, ∀ payload, ¬ later.Fills peer name payload) ∧
        left.entries.lookup name = some payload) ∨
    (∀ entry ∈ log peer files session state lines, ∀ payload, ¬ entry.Fills peer name payload) ∧
      left.entries.lookup name = files.entries.lookup name := by
  induction lines generalizing files session state with
  | nil => exact .inr ⟨by simp [log], rfl⟩
  | cons line others ih =>
      have first := Entry.lookup_left peer ⟨line, files, session, state⟩ name
      simp only [runLines_cons, log]
      split
      · rcases ih _ _ _ with
          ⟨before, entry, after, payload, split, fills, never, holds⟩ | ⟨never, same⟩
        · exact .inl ⟨_ :: before, entry, after, payload, by rw [split]; rfl, fills, never, holds⟩
        · rcases first with ⟨payload, fills, holds⟩ | ⟨unfilled, kept⟩
          · exact .inl ⟨[], _, _, payload, rfl, fills, never, same.trans holds⟩
          · exact .inr ⟨List.forall_mem_cons.mpr ⟨unfilled, never⟩, same.trans kept⟩
      · rcases first with ⟨payload, fills, holds⟩ | ⟨unfilled, kept⟩
        · exact .inl ⟨[], _, [], payload, rfl, fills, by simp, holds⟩
        · exact .inr ⟨by simpa using unfilled, kept⟩

end Shell

end CardVault

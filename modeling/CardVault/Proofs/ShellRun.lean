import CardVault.Proofs.ShellRun.Entries

/-!
Runs of the shell. A run is made up of its lines: what it prints, sends and signs is what they do, in
order. Its session is idle before every line, because each line leaves it so.
-/

namespace CardVault.Shell

variable {σ : Type} {files : Files} {session : Session} {line : Text} {peer : Peer σ} {state : σ}
  {lines : List Text} {entry : Entry σ} {places : Places}

theorem runLines_cons (others : List Text) :
    (runLines files session (line :: others)).run peer state =
      let first := (⟨line, files, session, state⟩ : Entry σ).transcript peer
      if first.value.outlook = .more then
        let last := (runLines first.value.files first.value.session others).run peer first.peer
        ⟨{ last.value with output := first.value.output ++ prompt ++ last.value.output },
          first.events ++ last.events, last.peer⟩
      else first := by
  simp only [runLines, Dialogue.run_bind, Entry.transcript]
  by_cases goesOn : ((turn files session line).run peer state).value.outlook = .more
  · simp only [if_pos goesOn, Dialogue.run_map]
    exact (if_pos goesOn).symm
  · simp only [if_neg goesOn, Dialogue.run, List.append_nil]
    exact (if_neg goesOn).symm

theorem runLines_output :
    ((runLines files session lines).run peer state).value.output =
      (log peer files session state lines).flatMap (·.printed peer) := by
  induction lines generalizing files session state with
  | nil => rfl
  | cons line others ih =>
      simp only [runLines_cons, log, List.flatMap_cons, Entry.printed]
      split
      · simp [ih, Entry.printed]
      · simp

theorem runLines_events :
    ((runLines files session lines).run peer state).events =
      (log peer files session state lines).flatMap fun entry => (entry.transcript peer).events := by
  induction lines generalizing files session state with
  | nil => rfl
  | cons line others ih =>
      simp only [runLines_cons, log, List.flatMap_cons]
      split
      · simp [ih]
      · simp

theorem log_places :
    ∀ entry ∈ log peer files session state lines, entry.files.places = files.places := by
  induction lines generalizing files session state with
  | nil => simp [log]
  | cons line others ih =>
      simp only [log]
      refine List.forall_mem_cons.mpr ⟨rfl, ?_⟩
      split
      · intro entry member
        exact (ih entry member).trans (Entry.left_places peer ⟨line, files, session, state⟩)
      · simp

theorem log_lines :
    (log peer files session state lines).map (·.line) =
      through (fun line => quits line || storesDirectory files.places line) lines := by
  induction lines generalizing files session state with
  | nil => rfl
  | cons line others ih =>
      simp only [log, through, List.map_cons]
      split
      · rename_i goesOn
        rw [if_neg ((Entry.goes_on_iff _ _).mp goesOn), ih, Entry.left_places]
      · rename_i stops
        by_cases ends : (quits line || storesDirectory files.places line) = true
        · rw [if_pos ends]
          rfl
        · exact absurd ((Entry.goes_on_iff _ _).mpr ends) stops

theorem through_quits
    (readable : ∀ line ∈ through quits lines, storesDirectory places line = false) :
    through (fun line => quits line || storesDirectory places line) lines = through quits lines := by
  induction lines with
  | nil => rfl
  | cons line others ih =>
      rcases List.forall_mem_cons.mp readable with ⟨first, later⟩
      simp only [through, first, Bool.or_false]
      split
      · rfl
      · rename_i goesOn
        rw [if_neg goesOn] at later
        rw [ih later]

theorem quits_stores_nothing (quit : quits line = true) : storesDirectory places line = false := by
  rw [storesDirectory, (parse_quit_iff line).mpr quit]
  rfl

theorem runLines_broken :
    ((runLines files session lines).run peer state).value.outlook = .broken directoryFault ↔
      ∃ entry ∈ log peer files session state lines,
        storesDirectory files.places entry.line = true := by
  induction lines generalizing files session state with
  | nil => simp [runLines, Dialogue.run, log]
  | cons line others ih =>
      simp only [runLines_cons, log]
      split
      · rename_i goesOn
        have stays := (Entry.goes_on_iff _ _).mp goesOn
        simp only [Bool.or_eq_true, not_or] at stays
        rw [ih, Entry.left_places]
        simp [stays.2]
      · rw [Entry.outlook]
        by_cases quit : quits line = true
        · simp [quit, quits_stores_nothing quit]
        · by_cases stores : storesDirectory files.places line = true
          · simp [quit, stores]
          · simp [quit, stores]

theorem log_idle (idle : session.active = none)
    (calm : ∀ entry ∈ log peer files session state lines,
      Uncomplaining (entry.transcript peer).events) :
    ∀ entry ∈ log peer files session state lines, entry.session.active = none := by
  induction lines generalizing files session state with
  | nil => simp [log]
  | cons line others ih =>
      simp only [log] at calm ⊢
      rcases List.forall_mem_cons.mp calm with ⟨first, later⟩
      refine List.forall_mem_cons.mpr ⟨idle, ?_⟩
      split
      · rename_i goesOn
        rw [if_pos goesOn] at later
        exact ih (Entry.idle first idle).1 later
      · simp

theorem log_unusable (unusable : session.usable = false) :
    ∀ entry ∈ log peer files session state lines, (entry.transcript peer).events = [] := by
  induction lines generalizing files session state with
  | nil => simp [log]
  | cons line others ih =>
      have first : Entry σ := ⟨line, files, session, state⟩
      simp only [log]
      refine List.forall_mem_cons.mpr ⟨(Entry.unusable unusable).1, ?_⟩
      split
      · exact ih (Entry.unusable unusable).2
      · simp

theorem log_silent {before after : List (Entry σ)}
    (split : log peer files session state lines = before ++ entry :: after)
    (loses : entry.Loses peer) : ∀ later ∈ after, (later.transcript peer).events = [] := by
  induction lines generalizing files session state before with
  | nil => simp [log] at split
  | cons line others ih =>
      cases before with
      | nil =>
          simp only [log, List.nil_append, List.cons.injEq] at split
          rcases split with ⟨rfl, rfl⟩
          have lost := loses.unusable
          split
          · exact log_unusable lost
          · simp
      | cons first before =>
          simp only [log, List.cons_append, List.cons.injEq] at split
          rcases split with ⟨rfl, later⟩
          split at later
          · exact ih later
          · simp at later

/-- What a run of the shell over an idle session comes to, with an entry for each line carried out. -/
structure Orderly (peer : Peer σ) (places : Places) (input : Text) (entries : List (Entry σ))
    (transcript : Transcript σ Turn) : Prop where
  cut : (∀ line ∈ Text.lines input, (10 : UInt8) ∉ line) ∧
    (Text.lines input).flatMap (· ++ Text.newline) = ended input
  carried : entries.map (·.line) =
    through (fun line => quits line || storesDirectory places line) (Text.lines input)
  -- Without a directory in the place of a file the run goes on up to the first line that quits.
  readable : (∀ line ∈ through quits (Text.lines input), storesDirectory places line = false) →
    entries.map (·.line) = through quits (Text.lines input)
  broken : transcript.value.outlook = .broken directoryFault ↔
    ∃ entry ∈ entries, storesDirectory places entry.line = true
  outlook : ∀ entry ∈ entries, (entry.transcript peer).value.outlook =
    if quits entry.line then .quit
    else if storesDirectory places entry.line then .broken directoryFault else .more
  output : transcript.value.output = prompt ++ entries.flatMap (·.printed peer)
  events : transcript.events = entries.flatMap fun entry => (entry.transcript peer).events
  asked : ∀ entry ∈ entries, (entry.transcript peer).events = (entry.asked peer).events ∧
    entry.left peer = (entry.asked peer).value.2
  idle : ∀ entry ∈ entries, entry.session.active = none ∧ (entry.left peer).active = none
  inTurn : ∀ entry ∈ entries, ∀ failure,
    (entry.asked peer).value.1 = some (.error failure) → failure.kind.isOutOfTurn = false
  silent : ∀ before entry after, entries = before ++ entry :: after → entry.Loses peer →
    ∀ later ∈ after, (later.transcript peer).events = []

/-- Runs of the shell on an idle session, whatever the input and whatever the card and the signer do
but complain about the order of calls. -/
theorem run_orderly (peer : Peer σ) (state : σ) (files : Files) (input : Text)
    (idle : session.active = none)
    (calm : Uncomplaining ((run files session input).run peer state).events) :
    Orderly peer files.places input (log peer files session state (Text.lines input))
      ((run files session input).run peer state) := by
  have runs : (run files session input).run peer state =
      let lines := (runLines files session (Text.lines input)).run peer state
      ⟨{ lines.value with output := prompt ++ lines.value.output }, lines.events, lines.peer⟩ := by
    rw [run, Dialogue.run_map]
  rw [runs] at calm ⊢
  dsimp only at calm ⊢
  rw [runLines_events] at calm
  have calmly : ∀ entry ∈ log peer files session state (Text.lines input),
      Uncomplaining (entry.transcript peer).events := fun entry member event passed =>
    calm event (List.mem_flatMap.mpr ⟨entry, member, passed⟩)
  have before := log_idle idle calmly
  have after (entry : Entry σ) (member : entry ∈ log peer files session state (Text.lines input)) :=
    Entry.idle (calmly entry member) (before entry member)
  exact {
    cut := ⟨lines_unbroken input, lines_joined input⟩
    carried := log_lines
    readable := fun readable => log_lines.trans (through_quits readable)
    broken := runLines_broken
    outlook := fun entry member => log_places entry member ▸ entry.outlook peer
    output := congrArg (prompt ++ ·) runLines_output
    events := runLines_events
    asked := fun entry _ => ⟨(entry.follows peer).1, (entry.follows peer).2.1⟩
    idle := fun entry member => ⟨before entry member, (after entry member).1⟩
    inTurn := fun entry member => (after entry member).2
    silent := fun _ _ _ split loses => log_silent split loses }

theorem lost_card_is_left_alone :
    let peer := Peer.steady (.error (.link (text "gone"))) (.ok [])
    let input := text "fstore u a m\nfread u a\nquit\nhelp\n"
    let transcript := (run Files.empty (Session.standard false) input).run peer ()
    transcript.events.length = 1 ∧
      Orderly peer Files.empty.places input (log peer Files.empty (Session.standard false) () (Text.lines input))
        transcript := by
  intro peer input transcript
  refine ⟨by decide +kernel, ?_⟩
  apply run_orderly peer () Files.empty input rfl
  apply uncomplaining_run
  · intro frame before error complaint
    cases complaint
  · intro subject before error complaint
    cases complaint

/-- A directory in the place of a file ends the run, although other lines follow and none quits. -/
theorem directory_ends_run :
    let peer := Peer.steady (.error (.link (text "gone"))) (.ok [])
    let input := text "store u a .\nhelp\n"
    let transcript := (run Files.empty (Session.standard false) input).run peer ()
    through quits (Text.lines input) = [text "store u a .", text "help"] ∧
      (log peer Files.empty (Session.standard false) () (Text.lines input)).map (·.line) =
        [text "store u a ."] ∧
      transcript.value.outlook = .broken directoryFault ∧ transcript.value.output = prompt := by
  decide

end CardVault.Shell

import CardVault.Proofs.Raised.Calls
import CardVault.Shell.Log

/-!
Calls that stand alone. However such a call ends, the session is idle afterwards if it was idle
before, as long as no peer complains about the order of calls.
-/

namespace CardVault

/-- Nobody has complained about the order of calls. -/
def Uncomplaining (events : List Event) : Prop :=
  ∀ event ∈ events, ∀ error, event.fault? = some (.protocol error) → error.kind.isOutOfTurn = false

theorem uncomplaining_run {σ α : Type} {peer : Peer σ} (dialogue : Dialogue α) (state : σ)
    (answers : ∀ frame before error, (peer.answer frame before).1 = .error (.protocol error) →
      error.kind.isOutOfTurn = false)
    (signs : ∀ subject before error, (peer.sign subject before).1 = .error (.protocol error) →
      error.kind.isOutOfTurn = false) :
    Uncomplaining (dialogue.run peer state).events := by
  induction dialogue generalizing state with
  | done value => simp [Uncomplaining, Dialogue.run]
  | send purpose frame next ih =>
      refine List.forall_mem_cons.mpr ⟨fun error complaint => ?_, ih _ _⟩
      cases given : (peer.answer frame state).1 with
      | ok answer => simp [Event.fault?, given] at complaint
      | error fault =>
          simp only [Event.fault?, given, Option.some.injEq] at complaint
          exact answers frame state error (given.trans (congrArg _ complaint))
  | sign subject next ih =>
      refine List.forall_mem_cons.mpr ⟨fun error complaint => ?_, ih _ _⟩
      cases given : (peer.sign subject state).1 with
      | ok signature => simp [Event.fault?, given] at complaint
      | error fault =>
          simp only [Event.fault?, given, Option.some.injEq] at complaint
          exact signs subject state error (given.trans (congrArg _ complaint))

/-- The calls that are over with all they have begun when they return. -/
def Call.standsAlone : Call → Bool
  | .store _ _ | .read _ | .storeFixed _ _ _ | .readFixed _ _ | .deleteFixed _ _ => true
  | _ => false

theorem Call.standsAlone_begins {call : Call} (alone : call.standsAlone = true) :
    call.isControl = false ∧ call.direction? = none := by
  cases call <;> first | exact ⟨rfl, rfl⟩ | cases alone

namespace Session

variable {σ : Type} {session after : Session} {call : Call} {payload : Option Bytes}

theorem achieves_idle (alone : call.standsAlone = true)
    (achieves : session.Achieves call payload after) : after.active = none := by
  cases call <;> first | exact achieves | cases alone

variable (peer : Peer σ) (state : σ)

theorem perform_unusable (alone : call.standsAlone = true) (unusable : session.usable = false) :
    ∃ failure, session.perform call = .done (some (.error failure), session) ∧
      failure.kind = .connectionUnavailable := by
  rcases Call.standsAlone_begins alone with ⟨answers, begins⟩
  have unready : ¬ session.Ready call := by
    rw [Ready, begins]
    rintro ⟨usable, _⟩
    cases unusable.symm.trans usable
  rcases perform_refused answers unready with ⟨message, refused⟩
  exact ⟨_, refused, (session.refusalKind_lost call).mpr unusable⟩

theorem perform_idle (alone : call.standsAlone = true) (idle : session.active = none)
    (calm : Uncomplaining ((session.perform call).run peer state).events) :
    let transcript := (session.perform call).run peer state
    transcript.value.2.active = none ∧
      ∀ failure, transcript.value.1 = some (.error failure) → failure.kind.isOutOfTurn = false := by
  intro transcript
  cases usable : session.usable with
  | false =>
      rcases perform_unusable alone usable with ⟨failure, refused, lost⟩
      simp only [transcript, refused, Dialogue.run]
      refine ⟨idle, ?_⟩
      rintro _ ⟨⟩
      rw [lost]
      rfl
  | true =>
      rcases Call.standsAlone_begins alone with ⟨answers, begins⟩
      have ready : session.Ready call := by
        rw [Ready, begins]
        exact ⟨usable, idle⟩
      rcases perform_ends peer state answers ready with
        ⟨payload, shows, _, achieves⟩ | ⟨failure, shows, failed, raised⟩
      · refine ⟨achieves_idle alone achieves, fun failure other => ?_⟩
        cases shows.symm.trans other
      · have inTurn : failure.kind.isOutOfTurn = false := by
          cases outOfTurn : failure.kind.isOutOfTurn with
          | false => rfl
          | true =>
              rcases raised outOfTurn with ⟨event, member, error, complaint, same⟩
              have polite := calm event member error complaint
              rw [same, outOfTurn] at polite
              cases polite
        constructor
        · cases active : transcript.value.2.active with
          | none => rfl
          | some transfer =>
              have outOfTurn := (failed.spent transfer active).1
              cases inTurn.symm.trans outOfTurn
        · intro other reported
          cases shows.symm.trans reported
          exact inTurn

end Session

/-!
The lines of the shell one by one: how the input is cut into them, whether the shell goes on after
one, and that all that passes during one is what the one call passes that it makes of the session.
-/

namespace Shell

variable {σ : Type} {files : Files} {session : Session} {peer : Peer σ} {state : σ} {entry : Entry σ}

theorem lines_unbroken (input : Text) : ∀ line ∈ Text.lines input, (10 : UInt8) ∉ line := by
  induction input with
  | nil => simp [Text.lines]
  | cons byte rest ih =>
      rw [Text.lines]
      split
      · exact List.forall_mem_cons.mpr ⟨by simp, ih⟩
      · rename_i other
        split
        · simpa using Ne.symm other
        · rename_i first others cut
          rw [cut] at ih
          rcases List.forall_mem_cons.mp ih with ⟨whole, wholes⟩
          refine List.forall_mem_cons.mpr ⟨?_, wholes⟩
          simpa [whole] using Ne.symm other

theorem lines_joined (input : Text) :
    (Text.lines input).flatMap (· ++ Text.newline) = ended input := by
  induction input with
  | nil => rfl
  | cons byte rest ih =>
      cases rest with
      | nil =>
          by_cases newline : byte = 10
          · simp [Text.lines, ended, newline, Text.newline]
          · simp [Text.lines, ended, newline, Text.newline]
      | cons second rest =>
          have longer : ended (byte :: second :: rest) = byte :: ended (second :: rest) := by
            simp only [ended, List.getLast?_cons_cons]
            split <;> rfl
          rw [Text.lines, longer, ← ih]
          by_cases newline : byte = 10
          · rw [if_pos newline, newline]
            rfl
          · rw [if_neg newline]
            cases cut : Text.lines (second :: rest) with
            | cons first others => rfl
            | nil =>
                rw [cut, ended] at ih
                split at ih <;> cases ih

theorem report_run {α : Type} (action : Text) (success : α → Reaction)
    (dialogue : Dialogue (Outcome α × Session)) :
    (report action success dialogue).run peer state =
      let given := dialogue.run peer state
      let reaction := match given.value.1 with
        | .ok value => success value
        | .error failure => .print (failed action failure)
      ⟨(reaction, given.value.2), given.events, given.peer⟩ := by
  rw [report, Dialogue.run_map]
  rcases dialogue.run peer state with ⟨⟨outcome, after⟩, events, last⟩
  cases outcome with
  | ok value => rfl
  | error failure => rfl

/-- What passes between the shell and its peers while it answers a request, and what it leaves of the
session, is what comes of what it asks of the session. -/
def Follows (reacted : Transcript σ (Reaction × Session))
    (asked : Transcript σ (Option Result × Session)) : Prop :=
  reacted.events = asked.events ∧ reacted.value.2 = asked.value.2 ∧ reacted.peer = asked.peer

theorem report_follows {α : Type} (action : Text) (success : α → Reaction)
    (payload : α → Option Bytes) (dialogue : Dialogue (Outcome α × Session)) :
    Follows ((report action success dialogue).run peer state)
      ((Session.shown payload dialogue).run peer state) := by
  rw [report_run, Session.shown, Dialogue.run_map]
  exact ⟨rfl, rfl, rfl⟩

theorem react_follows (opened : Text → Opened) (request : Request) :
    Follows ((react opened session request).run peer state)
      ((request.ask opened session).run peer state) := by
  have silent (reaction : Reaction) :
      Follows ((Dialogue.done (reaction, session)).run peer state)
        ((Dialogue.done (none, session)).run peer state) := ⟨rfl, rfl, rfl⟩
  cases request with
  | nothing => exact silent _
  | quit => exact silent _
  | help => exact silent _
  | incomplete => exact silent _
  | unknown => exact silent _
  | store username address file =>
      simp only [react, withKey, Request.ask, Request.call?]
      cases opened file with
      | absent => exact silent _
      | directory => exact silent _
      | content payload =>
          cases RecordKey.make username address with
          | error error => exact silent _
          | ok key => exact report_follows _ _ _ _
  | read username address =>
      simp only [react, withKey, Request.ask, Request.call?]
      cases RecordKey.make username address with
      | error error => exact silent _
      | ok key => exact report_follows _ _ _ _
  | readInto username address file =>
      simp only [react, withKey, Request.ask, Request.call?]
      cases RecordKey.make username address with
      | error error => exact silent _
      | ok key => exact report_follows _ _ _ _
  | storeFixed username address message => exact report_follows _ _ _ _
  | readFixed username address => exact report_follows _ _ _ _
  | deleteFixed username address => exact report_follows _ _ _ _

def Reaction.outlook : Reaction → Outlook
  | .quit => .quit
  | .print _ | .save _ _ => .more
  | .breakOff fault => .broken fault

theorem settle_outlook (reaction : Reaction) :
    (reaction.settle files session).outlook = reaction.outlook := by
  cases reaction with
  | save file payload =>
      simp only [Reaction.settle]
      split <;> rfl
  | quit => rfl
  | print output => rfl
  | breakOff fault => rfl

theorem settle_session (reaction : Reaction) :
    (reaction.settle files session).session = session := by
  cases reaction with
  | save file payload =>
      simp only [Reaction.settle]
      split <;> rfl
  | quit => rfl
  | print output => rfl
  | breakOff fault => rfl

theorem report_goes_on {α : Type} (action : Text) {success : α → Reaction}
    (dialogue : Dialogue (Outcome α × Session)) (goesOn : ∀ value, (success value).outlook = .more) :
    ((report action success dialogue).run peer state).value.1.outlook = .more := by
  rw [report_run]
  dsimp only
  split
  · exact goesOn _
  · rfl

theorem withKey_goes_on (username address : Text)
    {next : RecordKey → Dialogue (Reaction × Session)}
    (goesOn : ∀ key, ((next key).run peer state).value.1.outlook = .more) :
    ((withKey session username address next).run peer state).value.1.outlook = .more := by
  rw [withKey]
  split
  · exact goesOn _
  · rfl

theorem settle_places (reaction : Reaction) :
    (reaction.settle files session).files.places = files.places := by
  cases reaction with
  | save file payload =>
      simp only [Reaction.settle]
      split
      · rename_i written writes
        exact Files.write?_places writes
      · rfl
  | quit => rfl
  | print output => rfl
  | breakOff fault => rfl

theorem read_directory (files : Files) (file : Text) :
    files.read file = .directory ↔ Files.locate? files.places file = some .directory := by
  rw [Files.read]
  cases Files.locate? files.places file with
  | none => simp
  | some location =>
      cases location with
      | directory => simp
      | drain => simp
      | name name =>
          dsimp only
          split <;> simp

theorem react_outlook (request : Request) :
    ((react files.read session request).run peer state).value.1.outlook =
      if request = .quit then .quit
      else if request.storesDirectory files.places then .broken directoryFault else .more := by
  cases request with
  | store username address file =>
      simp only [react, Request.storesDirectory, beq_iff_eq, reduceCtorEq, ↓reduceIte,
        ← read_directory files]
      cases files.read file with
      | absent => rfl
      | directory => rfl
      | content payload =>
          exact withKey_goes_on _ _ fun _ => report_goes_on _ _ fun _ => rfl
  | read username address => exact withKey_goes_on _ _ fun _ => report_goes_on _ _ fun _ => rfl
  | readInto username address file =>
      exact withKey_goes_on _ _ fun _ => report_goes_on _ _ fun _ => rfl
  | storeFixed username address message => exact report_goes_on _ _ fun _ => rfl
  | readFixed username address => exact report_goes_on _ _ fun _ => rfl
  | deleteFixed username address => exact report_goes_on _ _ fun _ => rfl
  | nothing => rfl
  | quit => rfl
  | help => rfl
  | incomplete => rfl
  | unknown => rfl

theorem ofWords_not_quit (command username address argument : Text) :
    Request.ofWords command username address argument ≠ .quit := by
  rw [Request.ofWords]
  repeat' split
  all_goals exact Request.noConfusion

theorem parse_quit_iff (line : Text) : Request.parse line = .quit ↔ quits line = true := by
  have spoken : text "quit" ≠ [] := by decide
  simp only [Request.parse, quits, beq_iff_eq]
  by_cases quit : (word line).1 = text "quit"
  · simp [quit, spoken]
  · simp only [quit, ↓reduceIte, iff_false]
    repeat' split
    all_goals first | exact ofWords_not_quit _ _ _ _ | exact Request.noConfusion

theorem call?_standsAlone {opened : Text → Opened} {request : Request} {call : Call}
    (asks : request.call? opened = some call) : call.standsAlone = true := by
  cases request with
  | store username address file =>
      simp only [Request.call?] at asks
      split at asks
      · cases asks
        rfl
      · cases asks
  | read username address =>
      rcases Option.map_eq_some_iff.mp asks with ⟨key, _, rfl⟩
      rfl
  | readInto username address file =>
      rcases Option.map_eq_some_iff.mp asks with ⟨key, _, rfl⟩
      rfl
  | storeFixed username address message =>
      cases asks
      rfl
  | readFixed username address =>
      cases asks
      rfl
  | deleteFixed username address =>
      cases asks
      rfl
  | _ => cases asks

namespace Entry

theorem outlook (peer : Peer σ) (entry : Entry σ) :
    (entry.transcript peer).value.outlook =
      if quits entry.line then .quit
      else if storesDirectory entry.files.places entry.line then .broken directoryFault else .more := by
  rw [transcript, turn, Dialogue.run_map]
  dsimp only
  rw [settle_outlook, react_outlook]
  by_cases quit : quits entry.line = true
  · rw [if_pos quit, if_pos ((parse_quit_iff _).mpr quit)]
  · rw [if_neg quit, if_neg fun parsed => quit ((parse_quit_iff _).mp parsed)]
    rfl

theorem left_places (peer : Peer σ) (entry : Entry σ) :
    (entry.transcript peer).value.files.places = entry.files.places := by
  rw [transcript, turn, Dialogue.run_map]
  exact settle_places _

theorem goes_on_iff (peer : Peer σ) (entry : Entry σ) :
    (entry.transcript peer).value.outlook = .more ↔
      ¬ (quits entry.line || storesDirectory entry.files.places entry.line) = true := by
  rw [outlook]
  by_cases quit : quits entry.line = true
  · simp [quit]
  · by_cases stores : storesDirectory entry.files.places entry.line = true
    · simp [quit, stores]
    · simp [quit, stores]

theorem follows (peer : Peer σ) (entry : Entry σ) :
    (entry.transcript peer).events = (entry.asked peer).events ∧
      entry.left peer = (entry.asked peer).value.2 ∧
      (entry.transcript peer).peer = (entry.asked peer).peer := by
  have follows : Follows _ (entry.asked peer) :=
    react_follows entry.files.read (Request.parse entry.line)
  simp only [left, transcript, turn, Dialogue.run_map, settle_session]
  exact follows

theorem asked_cases (peer : Peer σ) (entry : Entry σ) :
    entry.asked peer = ⟨(none, entry.session), [], entry.state⟩ ∨
      ∃ call, call.standsAlone = true ∧
        entry.asked peer = (entry.session.perform call).run peer entry.state := by
  rw [asked, Request.ask]
  cases asks : (Request.parse entry.line).call? entry.files.read with
  | none => exact Or.inl rfl
  | some call => exact Or.inr ⟨call, call?_standsAlone asks, rfl⟩

theorem idle (calm : Uncomplaining (entry.transcript peer).events)
    (before : entry.session.active = none) :
    (entry.left peer).active = none ∧ ∀ failure,
      (entry.asked peer).value.1 = some (.error failure) → failure.kind.isOutOfTurn = false := by
  rcases entry.follows peer with ⟨events, left, _⟩
  rw [events] at calm
  rw [left]
  rcases entry.asked_cases peer with nothing | ⟨call, alone, performs⟩
  · rw [nothing]
    exact ⟨before, fun _ reported => by cases reported⟩
  · rw [performs] at calm ⊢
    exact Session.perform_idle peer entry.state alone before calm

theorem unusable (unusable : entry.session.usable = false) :
    (entry.transcript peer).events = [] ∧ (entry.left peer).usable = false := by
  rcases entry.follows peer with ⟨events, left, _⟩
  rw [events, left]
  rcases entry.asked_cases peer with nothing | ⟨call, alone, performs⟩
  · rw [nothing]
    exact ⟨rfl, unusable⟩
  · rcases Session.perform_unusable alone unusable with ⟨failure, refused, _⟩
    rw [performs, refused]
    exact ⟨rfl, unusable⟩

theorem Loses.unusable (loses : entry.Loses peer) : (entry.left peer).usable = false := by
  rcases loses with ⟨failure, reported, lost⟩
  rw [(entry.follows peer).2.1]
  rcases entry.asked_cases peer with nothing | ⟨call, alone, performs⟩
  · rw [nothing] at reported
    cases reported
  · rw [performs] at reported ⊢
    rcases Session.perform_latches peer entry.state entry.session call with ⟨_, _, latch, stays⟩
    cases usable : entry.session.usable with
    | true => exact (latch usable).mpr ⟨failure, reported, lost⟩
    | false =>
        have notReset : call ≠ .reset := by
          rintro rfl
          cases alone
        rw [Bool.eq_false_iff, ne_eq, stays usable]
        exact notReset

end Entry

end Shell

/-!
Answers of the shell. What the shell does about a request that makes a call is to answer the result of
that call, and every result that comes of the call has all the parts that the answer takes from it.
-/

namespace Shell

variable {α σ : Type} {session : Session} {opened : Text → Opened} {request : Request} {call : Call}

def Request.told (opened : Text → Opened) (result : Option Result) (request : Request) : Reaction :=
  (result.bind fun result => request.answer? opened result).getD (.print [])

theorem ok_of_toOption {ε : Type} {outcome : Except ε α} {value : α}
    (given : outcome.toOption = some value) : outcome = .ok value := by
  cases outcome with
  | error fault => cases given
  | ok found =>
      cases given
      rfl

theorem call?_store {username address file : Text}
    (asks : (Request.store username address file).call? opened = some call) :
    ∃ payload key, opened file = .content payload ∧ RecordKey.make username address = .ok key ∧
      call = .store key payload := by
  simp only [Request.call?] at asks
  split at asks
  · rename_i payload key content made
    cases asks
    exact ⟨payload, key, content, made, rfl⟩
  · cases asks

/-- A reaction answers a call: it is what the request is told by the result, and the result has all
the parts that are read for it. -/
structure Answers (opened : Text → Opened) (request : Request)
    (calls : Dialogue (Option Result × Session)) (reacts : Dialogue (Reaction × Session)) : Prop where
  told : reacts = calls.map fun given => (request.told opened given.1, given.2)
  whole : ∀ {σ : Type} (peer : Peer σ) (state : σ), ∃ result reaction,
    (calls.run peer state).value.1 = some result ∧ request.answer? opened result = some reaction

theorem report_answers {action : Text} {success : α → Reaction} {payload : α → Option Bytes}
    (dialogue : Dialogue (Outcome α × Session))
    (tells : ∀ value, request.answer? opened (.ok (payload value)) = some (success value))
    (complains : ∀ failure,
      request.answer? opened (.error failure) = some (.print (failed action failure))) :
    Answers opened request (Session.shown payload dialogue) (report action success dialogue) where
  told := by
    rw [report, Session.shown, Dialogue.map, Dialogue.map, Dialogue.map, Dialogue.bind_assoc]
    congr 1
    funext given
    rcases given with ⟨failure | value, after⟩
    · simp [Dialogue.bind, Except.map, Request.told, complains]
    · simp [Dialogue.bind, Except.map, Request.told, tells]
  whole peer state := by
    rw [Session.shown, Dialogue.run_map]
    dsimp only
    cases (dialogue.run peer state).value.1 with
    | error failure => exact ⟨_, _, rfl, complains failure⟩
    | ok value => exact ⟨_, _, rfl, tells value⟩

theorem react_answers (session : Session) (asks : request.call? opened = some call) :
    Answers opened request (session.perform call) (react opened session request) := by
  cases request with
  | store username address file =>
      obtain ⟨payload, key, content, made, rfl⟩ := call?_store asks
      have tells (value : Unit) :
          (Request.store username address file).answer? opened (.ok none) =
            some (.print (stored payload)) := by
        simp [Request.answer?, Request.succeed?, content, Except.isOk, Except.toBool]
      simp only [react, withKey, content, made]
      exact report_answers _ tells fun _ => rfl
  | read username address =>
      obtain ⟨key, made, rfl⟩ := Option.map_eq_some_iff.mp asks
      rw [react, withKey, ok_of_toOption made]
      exact report_answers _ (fun _ => rfl) fun _ => rfl
  | readInto username address file =>
      obtain ⟨key, made, rfl⟩ := Option.map_eq_some_iff.mp asks
      rw [react, withKey, ok_of_toOption made]
      exact report_answers _ (fun _ => rfl) fun _ => rfl
  | storeFixed username address message =>
      cases asks
      exact report_answers _ (fun _ => rfl) fun _ => rfl
  | readFixed username address =>
      cases asks
      exact report_answers _ (fun _ => rfl) fun _ => rfl
  | deleteFixed username address =>
      cases asks
      exact report_answers _ (fun _ => rfl) fun _ => rfl
  | _ => cases asks

namespace Request

variable {file : Text} {payload : Bytes}

theorem answer?_saves (opened : Text → Opened) (request : Request) (result : Result) :
    request.answer? opened result = some (.save file payload) ↔
      request.target? = some file ∧ result = .ok (some payload) := by
  rcases result with failure | carried
  · have told : request.answer? opened (.error failure) = request.complain? (.error failure) := rfl
    rw [told]
    cases request <;> simp [complain?, action?, Result.kind?]
  · have told : request.answer? opened (.ok carried) = request.succeed? opened (.ok carried) := rfl
    rw [told]
    cases request with
    | store username address file =>
        simp only [succeed?, target?]
        split <;> simp
    | readInto username address target =>
        simp only [succeed?, target?, Result.payload?, Option.map_eq_some_iff, Reaction.save.injEq,
          Option.some_inj, Except.ok.injEq]
        constructor
        · rintro ⟨_, carries, rfl, rfl⟩
          exact ⟨rfl, carries⟩
        · rintro ⟨rfl, carries⟩
          exact ⟨payload, carries, rfl, rfl⟩
    | _ => simp [succeed?, target?, Result.payload?]

theorem told_saves (opened : Text → Opened) (request : Request) (result : Option Result) (file : Text)
    (payload : Bytes) :
    request.told opened result = .save file payload ↔
      request.target? = some file ∧ result = some (.ok (some payload)) := by
  rcases result with _ | result
  · simp [told]
  · rw [Option.some_inj, ← answer?_saves opened, told, Option.bind_some]
    cases request.answer? opened result <;> simp

end Request

end Shell

end CardVault

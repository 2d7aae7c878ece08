import CardVault.Session

/-!
The calls of a session as data, so that runs of calls can be spoken of. Each call but `abort` and
`reset` has a result, which on success may carry bytes.
-/

namespace CardVault

inductive Call where
  | beginStore (key : RecordKey)
  | continueStore (payload : Bytes)
  | finalizeStore
  | beginRead (key : RecordKey)
  | continueRead
  | finalizeRead
  | store (key : RecordKey) (payload : Bytes)
  | read (key : RecordKey)
  | storeFixed (username address : Text) (message : Bytes)
  | readFixed (username address : Text)
  | deleteFixed (username address : Text)
  | abort
  | reset
deriving DecidableEq

abbrev Result := Outcome (Option Bytes)

namespace Session

def shown {α : Type} (payload : α → Option Bytes) :
    Dialogue (Outcome α × Session) → Dialogue (Option Result × Session) :=
  Dialogue.map fun (outcome, session) => (some (outcome.map payload), session)

def perform (session : Session) : Call → Dialogue (Option Result × Session)
  | .beginStore key => shown (fun _ => none) (session.beginStore key)
  | .continueStore payload => shown (fun _ => none) (session.continueStore payload)
  | .finalizeStore => shown (fun _ => none) session.finalizeStore
  | .beginRead key => shown (fun _ => none) (session.beginRead key)
  | .continueRead => shown some session.continueRead
  | .finalizeRead => shown some session.finalizeRead
  | .store key payload => shown (fun _ => none) (session.store key payload)
  | .read key => shown some (session.read key)
  | .storeFixed username address message =>
      shown (fun receipt => some receipt.bytes) (session.storeFixed username address message)
  | .readFixed username address => shown some (session.readFixed username address)
  | .deleteFixed username address =>
      shown (fun receipt => some receipt.bytes) (session.deleteFixed username address)
  | .abort => .done (none, session.abort)
  | .reset => .done (none, session.reset)

def performAll (session : Session) : List Call → Dialogue (List (Option Result) × Session)
  | [] => .done ([], session)
  | call :: calls =>
      (session.perform call).bind fun (result, after) =>
        (after.performAll calls).map fun (results, last) => (result :: results, last)

end Session

/-!
What a session goes through: the calls that are made and, after each, what passed during it. A
history tells which INIT a frame belongs to, what has moved since that INIT, and whether anything
has happened that closes the transfer it opened.
-/

inductive Mark where
  | called (call : Call)
  | passed (event : Event)

namespace Reply

/-- The answers to INIT that open a transfer: those that a read can take a length from, or any that
report success to a store. -/
def Opens (direction : Direction) (reply : Reply) : Prop :=
  ∃ response, reply.response? = some response ∧ response.status = 0x9000 ∧
    (direction = .read → 2 ≤ response.data.length)

/-- The ways in which the exchange of a CONTINUE fails: a fault, an answer without a status word, a
status that the direction does not go on with, or a promise of more data that brings none. -/
def Fails (direction : Direction) (reply : Reply) : Prop :=
  match reply.response?, direction with
  | none, _ => True
  | some response, .store => response.status ≠ 0x9000
  | some response, .read =>
      response.status.kind = .failure ∨ (response.status.kind = .moreData ∧ response.data = [])

def total? : Direction → Reply → Option UInt64
  | .store, _ => none
  | .read, reply =>
      reply.response?.bind fun response => (Word.at? response.data 0).map UInt16.toUInt64

end Reply

def Event.moved? : Direction → Event → Option Bytes
  | .store, .sent (.later .store .advance) frame reply =>
      if reply.status? = some 0x9000 then some (Command.payload frame) else none
  | .read, .sent (.later .read .advance) _ reply => reply.response?.map (·.data)
  | _, _ => none

namespace Mark

def event? : Mark → Option Event
  | called _ => none
  | passed event => some event

def IsInit (mark : Mark) : Prop :=
  ∃ direction frame reply, mark = .passed (.sent (.init direction) frame reply)

-- Nothing but a CONTINUE of its own direction may be sent while a transfer is open, and that only
-- as long as none fails.
def Closes (direction : Direction) : Mark → Prop
  | called call => call = .abort ∨ call = .reset
  | passed (.signed _ _) => False
  | passed (.sent purpose _ reply) => purpose ≠ .later direction .advance ∨ reply.Fails direction

end Mark

/-- Whether a transfer is open once all this has happened: the latest INIT was one of its direction
and opened it, and nothing has closed it since. -/
def OpenAfter (history : List Mark) (direction : Direction) : Prop :=
  ∃ older frame reply since,
    history = older ++ .passed (.sent (.init direction) frame reply) :: since ∧
      reply.Opens direction ∧ ∀ mark ∈ since, ¬ mark.Closes direction

def movedIn (direction : Direction) (marks : List Mark) : List Bytes :=
  marks.filterMap fun mark => mark.event?.bind (Event.moved? direction)

namespace Session

variable {σ : Type}

/-- Performs calls one after another and writes down each with what passed during it. -/
def history (peer : Peer σ) (session : Session) (state : σ) : List Call → List Mark
  | [] => []
  | call :: calls =>
      let transcript := (session.perform call).run peer state
      .called call :: transcript.events.map .passed ++
        history peer transcript.value.2 transcript.peer calls

def afterCalls (peer : Peer σ) (session : Session) (state : σ) (calls : List Call) : Session :=
  ((session.performAll calls).run peer state).value.2

theorem afterCalls_cons (peer : Peer σ) (session : Session) (state : σ) (call : Call)
    (calls : List Call) :
    session.afterCalls peer state (call :: calls) =
      let transcript := (session.perform call).run peer state
      transcript.value.2.afterCalls peer transcript.peer calls := by
  simp [afterCalls, performAll, Dialogue.run_bind, Dialogue.run_map]

theorem history_events (peer : Peer σ) (session : Session) (state : σ) (calls : List Call) :
    (session.history peer state calls).filterMap Mark.event? =
      ((session.performAll calls).run peer state).events := by
  induction calls generalizing session state with
  | nil => rfl
  | cons call calls ih =>
      have passed (events : List Event) :
          (events.map Mark.passed).filterMap Mark.event? = events := by
        induction events with
        | nil => rfl
        | cons event events rest => simp [Mark.event?, rest]
      simp only [history, List.cons_append, List.filterMap_cons, Mark.event?,
        List.filterMap_append, passed, ih]
      simp [performAll, Dialogue.run_bind, Dialogue.run_map]

end Session

/-!
A run of calls turn by turn. A turn is a call with all that shows of it: its result, what passed
during it, and what can be seen of the session afterwards.
-/

section

/-- What can be seen of a session from outside. The collected bytes cannot. -/
structure View where
  settings : Settings
  active : Option Transfer
  usable : Bool
deriving DecidableEq

structure Turn where
  call : Call
  result : Option Result
  events : List Event
  left : View

def Session.view (session : Session) : View :=
  ⟨session.settings, session.active, session.usable⟩

variable {σ : Type}

def Turn.of (call : Call) (transcript : Transcript σ (Option Result × Session)) : Turn :=
  ⟨call, transcript.value.1, transcript.events, transcript.value.2.view⟩

namespace Session

def turns (peer : Peer σ) (session : Session) (state : σ) : List Call → List Turn
  | [] => []
  | call :: calls =>
      let transcript := (session.perform call).run peer state
      .of call transcript :: turns peer transcript.value.2 transcript.peer calls

theorem turns_member (peer : Peer σ) (session : Session) (state : σ) (calls : List Call)
    {turn : Turn} (member : turn ∈ session.turns peer state calls) :
    ∃ (reached : Session) (now : σ) (call : Call),
      turn = .of call ((reached.perform call).run peer now) := by
  induction calls generalizing session state with
  | nil => cases member
  | cons call calls ih =>
      rcases List.mem_cons.mp member with same | later
      · exact ⟨session, state, call, same⟩
      · exact ih _ _ later

end Session

end

end CardVault

import CardVault.Command

/-!
Conversations with a card and a signer. A `Dialogue` is a program that sends frames and asks for
signatures and goes on according to what comes back; it says nothing about who answers. A `Peer`
answers, with a state of its own, and `Dialogue.run` lets the two talk and writes down what passed
between them. Whatever a card or a signer may do, some peer does it. A frame carries its purpose
along, which no peer sees: the codes of a frame do not tell, for two purposes may share a code.
-/

namespace CardVault

/-- The raw answer of a card. It was held in memory, so its size is far from wrapping a counter. -/
structure Answer where
  raw : Bytes
  addressable : raw.length < 0x8000000000000000
deriving DecidableEq

abbrev Reply := Except Fault Answer

-- No block of memory reaches the limit, so the refusal is never seen.
def Reply.ofBytes (raw : Bytes) : Reply :=
  if addressable : raw.length < 0x8000000000000000 then .ok ⟨raw, addressable⟩
  else .error (.link (text "answer too large"))

abbrev Signature := Except Fault Bytes

/-- What a frame is sent for: a step of a chunked transfer, an operation on a fixed record, or
nothing but its own answer. -/
inductive Purpose where
  | init (direction : Direction)
  | later (direction : Direction) (step : LaterStep)
  | fixed (operation : FixedOperation)
  | plain
deriving DecidableEq, Repr

inductive Event where
  | sent (purpose : Purpose) (frame : Bytes) (reply : Reply)
  | signed (subject : Bytes) (signature : Signature)

namespace Event

def purpose? : Event → Option Purpose
  | sent purpose _ _ => some purpose
  | signed _ _ => none

def frame? : Event → Option Bytes
  | sent _ frame _ => some frame
  | signed _ _ => none

def reply? : Event → Option Reply
  | sent _ _ reply => some reply
  | signed _ _ => none

def subject? : Event → Option Bytes
  | sent _ _ _ => none
  | signed subject _ => some subject

end Event

inductive Dialogue (α : Type) where
  | done (value : α)
  | send (purpose : Purpose) (frame : Bytes) (next : Reply → Dialogue α)
  | sign (subject : Bytes) (next : Signature → Dialogue α)

/-- A card and a signer, sharing a state. -/
structure Peer (σ : Type) where
  answer : Bytes → σ → Reply × σ
  sign : Bytes → σ → Signature × σ

def Peer.steady (reply : Reply) (signature : Signature) : Peer Unit where
  answer _ state := (reply, state)
  sign _ state := (signature, state)

/-- A conversation that has taken place: its outcome, what passed in order, and the peer after it. -/
structure Transcript (σ α : Type) where
  value : α
  events : List Event
  peer : σ

namespace Transcript

variable {σ α : Type}

def sent (transcript : Transcript σ α) : List Bytes :=
  transcript.events.filterMap Event.frame?

def purposes (transcript : Transcript σ α) : List Purpose :=
  transcript.events.filterMap Event.purpose?

def replies (transcript : Transcript σ α) : List Reply :=
  transcript.events.filterMap Event.reply?

def signed (transcript : Transcript σ α) : List Bytes :=
  transcript.events.filterMap Event.subject?

end Transcript

namespace Dialogue

variable {σ α β γ : Type}

def bind : Dialogue α → (α → Dialogue β) → Dialogue β
  | done value, next => next value
  | send purpose frame rest, next => .send purpose frame fun reply => (rest reply).bind next
  | sign subject rest, next => .sign subject fun signature => (rest signature).bind next

def map (change : α → β) (dialogue : Dialogue α) : Dialogue β :=
  dialogue.bind fun value => .done (change value)

def run (peer : Peer σ) : Dialogue α → σ → Transcript σ α
  | done value, state => ⟨value, [], state⟩
  | send purpose frame next, state =>
      let (reply, after) := peer.answer frame state
      let rest := (next reply).run peer after
      ⟨rest.value, .sent purpose frame reply :: rest.events, rest.peer⟩
  | sign subject next, state =>
      let (signature, after) := peer.sign subject state
      let rest := (next signature).run peer after
      ⟨rest.value, .signed subject signature :: rest.events, rest.peer⟩

theorem bind_assoc (dialogue : Dialogue α) (next : α → Dialogue β) (rest : β → Dialogue γ) :
    (dialogue.bind next).bind rest = dialogue.bind fun value => (next value).bind rest := by
  induction dialogue with
  | done value => rfl
  | send purpose frame onward ih => simp [bind, ih]
  | sign subject onward ih => simp [bind, ih]

theorem run_send (peer : Peer σ) (purpose : Purpose) (frame : Bytes) (next : Reply → Dialogue α)
    (state : σ) :
    (send purpose frame next).run peer state =
      let (reply, after) := peer.answer frame state
      let rest := (next reply).run peer after
      ⟨rest.value, .sent purpose frame reply :: rest.events, rest.peer⟩ :=
  rfl

theorem run_bind (peer : Peer σ) (dialogue : Dialogue α) (next : α → Dialogue β) (state : σ) :
    (dialogue.bind next).run peer state =
      let first := dialogue.run peer state
      let second := (next first.value).run peer first.peer
      ⟨second.value, first.events ++ second.events, second.peer⟩ := by
  induction dialogue generalizing state with
  | done value => rfl
  | send purpose frame rest ih => simp [bind, run, ih]
  | sign subject rest ih => simp [bind, run, ih]

theorem run_map (peer : Peer σ) (dialogue : Dialogue α) (change : α → β) (state : σ) :
    (dialogue.map change).run peer state =
      let first := dialogue.run peer state
      ⟨change first.value, first.events, first.peer⟩ := by
  simp [map, run_bind, run]

theorem run_replies (peer : Peer σ) (dialogue : Dialogue α) (state : σ) (reply : Reply)
    (member : reply ∈ (dialogue.run peer state).replies) :
    ∃ frame before, (peer.answer frame before).1 = reply := by
  induction dialogue generalizing state with
  | done value => simp [run, Transcript.replies] at member
  | send purpose frame next ih =>
      rcases List.mem_cons.mp member with same | later
      · exact ⟨frame, state, same.symm⟩
      · exact ih _ _ later
  | sign subject next ih => exact ih _ _ member

-- A lost link is reported as a protocol error with the same words; other faults pass unchanged.
def received : Reply → Except Fault Response
  | .ok answer => (Response.decode answer.raw).mapError .protocol
  | .error (.link wording) => .error (.protocol (.linkLost wording))
  | .error fault => .error fault

theorem received_decoded {answer : Answer} {response : Response}
    (decoded : Response.decode answer.raw = .ok response) :
    received (.ok answer) = .ok response := by
  rw [received, decoded]
  rfl

theorem received_undecoded {answer : Answer} {error : ProtocolError}
    (undecoded : Response.decode answer.raw = .error error) :
    received (.ok answer) = .error (.protocol error) := by
  rw [received, undecoded]
  rfl

/-- One command and its response. A command that cannot be encoded is not sent. -/
def exchangeFor (purpose : Purpose) (command : Command) : Dialogue (Except Fault Response) :=
  match command.encode with
  | .ok frame => .send purpose frame fun reply => .done (received reply)
  | .error error => .done (.error (.protocol error))

theorem exchangeFor_fits (purpose : Purpose) (command : Command)
    (fits : command.data.length ≤ 255) :
    exchangeFor purpose command =
      .send purpose command.frame fun reply => .done (received reply) := by
  have encoded : command.encode = .ok command.frame :=
    (command.encode_eq_ok_iff _).mpr ⟨fits, rfl⟩
  simp [exchangeFor, encoded]

theorem exchangeFor_unfit (purpose : Purpose) (command : Command)
    (unfit : 255 < command.data.length) :
    exchangeFor purpose command =
      .done (.error (.protocol (.commandTooLong command.data.length))) := by
  have refused : command.encode = .error (.commandTooLong command.data.length) :=
    (command.encode_eq_error_iff _).mpr ⟨unfit, rfl⟩
  simp [exchangeFor, refused]

theorem exchangeFor_sent (purpose : Purpose) (command : Command)
    (change : Except Fault Response → α) (peer : Peer σ) (state : σ) :
    (((exchangeFor purpose command).map change).run peer state).sent =
      if command.data.length ≤ 255 then [command.frame] else [] := by
  by_cases fits : command.data.length ≤ 255
  · rw [if_pos fits, exchangeFor_fits _ _ fits]
    rfl
  · rw [if_neg fits, exchangeFor_unfit _ _ (Nat.not_le.mp fits)]
    rfl

def exchange (command : Command) : Dialogue (Except Fault Response) :=
  exchangeFor .plain command

end Dialogue

namespace Reply

/-- The response that a reply amounts to. Neither a fault nor an answer without a status word
amounts to one. -/
def response? (reply : Reply) : Option Response :=
  (Dialogue.received reply).toOption

def status? (reply : Reply) : Option StatusWord :=
  reply.response?.map (·.status)

theorem received_eq_ok_iff (reply : Reply) (response : Response) :
    Dialogue.received reply = .ok response ↔ reply.response? = some response := by
  unfold response?
  cases Dialogue.received reply <;> simp [Except.toOption]

theorem response?_eq_some_iff (reply : Reply) (response : Response) :
    reply.response? = some response ↔
      ∃ answer, reply = .ok answer ∧ answer.raw = response.encode := by
  rw [← received_eq_ok_iff]
  rcases reply with fault | answer
  · cases fault <;> simp [Dialogue.received]
  · simp only [Except.ok.injEq, exists_eq_left', ← Response.decode_eq_ok_iff]
    cases decoded : Response.decode answer.raw with
    | ok found => simp [Dialogue.received_decoded decoded]
    | error error => simp [Dialogue.received_undecoded decoded]

theorem data_addressable {reply : Reply} {response : Response}
    (given : reply.response? = some response) : response.data.length < 0x8000000000000000 := by
  obtain ⟨answer, _, raw⟩ := (response?_eq_some_iff reply response).mp given
  have bound := answer.addressable
  rw [raw] at bound
  simp only [Response.encode, List.length_append] at bound
  omega

end Reply

end CardVault

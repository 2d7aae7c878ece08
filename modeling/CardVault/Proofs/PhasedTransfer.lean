import CardVault.Proofs.OpenTransfer.Calls
import CardVault.Proofs.PhasedTransfer.Carried
import CardVault.Session.Call

/-!
What one call does for a transfer that goes through phases. It is refused and changes nothing, it
opens a transfer, it moves one portion of its data, it closes the transfer, or it leaves none behind
that could go on. The data that passes is what the call is given or what it returns, and what a read
has returned so far is what the session has collected.
-/

namespace CardVault

section

open Dialogue

variable {σ : Type}

def Call.opens? : Call → Option Direction
  | .beginStore _ => some .store
  | .beginRead _ => some .read
  | _ => none

def Call.closes? : Call → Option Direction
  | .finalizeStore => some .store
  | .finalizeRead => some .read
  | _ => none

namespace Turn

def Begins (turn : Turn) (direction : Direction) : Prop :=
  turn.call.opens? = some direction ∧ ∃ payload, turn.result = some (.ok payload)

def Finishes (turn : Turn) (direction : Direction) (payload : Option Bytes) : Prop :=
  turn.call.closes? = some direction ∧ turn.result = some (.ok payload)

/-- What a turn adds to a transfer: what a store is given to go on with, or what a read returns when
it goes on. -/
def portion? : Direction → Turn → Option Bytes
  | .store, turn =>
      match turn.call with
      | .continueStore payload => some payload
      | _ => none
  | .read, turn =>
      match turn.call, turn.result with
      | .continueRead, some (.ok chunk) => chunk
      | _, _ => none

theorem unsuccessful_of_error {turn : Turn} {failure : Failure}
    (failed : turn.result = some (.error failure)) :
    (∀ direction, ¬ turn.Begins direction) ∧
      ∀ direction payload, ¬ turn.Finishes direction payload := by
  constructor
  · rintro direction ⟨_, payload, succeeded⟩
    cases failed.symm.trans succeeded
  · rintro direction payload ⟨_, succeeded⟩
    cases failed.symm.trans succeeded

theorem Begins.not_finishes {turn : Turn} {direction : Direction} (begins : turn.Begins direction)
    (other : Direction) (payload : Option Bytes) : ¬ turn.Finishes other payload := by
  rintro ⟨closes, _⟩
  have opens := begins.1
  cases call : turn.call <;> simp [call, Call.opens?, Call.closes?] at opens closes

theorem unphased_of_portion {turn : Turn} {direction : Direction} {portion : Bytes}
    (adds : turn.portion? direction = some portion) :
    turn.call.opens? = none ∧ turn.call.closes? = none := by
  cases direction <;> cases call : turn.call <;>
    simp [portion?, call, Call.opens?, Call.closes?] at adds ⊢

theorem not_begins_of_opens {turn : Turn} (opens : turn.call.opens? = none)
    (direction : Direction) : ¬ turn.Begins direction := by
  rintro ⟨begins, _⟩
  cases opens.symm.trans begins

theorem not_finishes_of_closes {turn : Turn} (closes : turn.call.closes? = none)
    (direction : Direction) (payload : Option Bytes) : ¬ turn.Finishes direction payload := by
  rintro ⟨finishes, _⟩
  cases closes.symm.trans finishes

end Turn

/-- The data that passed in a direction during some turns, in order. -/
def carriedIn (direction : Direction) (turns : List Turn) : Bytes :=
  carriedBy direction (turns.flatMap (·.events))

def portionsIn (direction : Direction) (turns : List Turn) : Bytes :=
  (turns.filterMap (Turn.portion? direction)).flatten

theorem carriedIn_cons (direction : Direction) (turn : Turn) (turns : List Turn) :
    carriedIn direction (turn :: turns) =
      carriedBy direction turn.events ++ carriedIn direction turns := by
  simp [carriedIn, carriedBy_append]

theorem carriedIn_singleton (direction : Direction) (turn : Turn) :
    carriedIn direction [turn] = carriedBy direction turn.events := by
  simp [carriedIn]

theorem portionsIn_cons (direction : Direction) (turn : Turn) (turns : List Turn) :
    portionsIn direction (turn :: turns) =
      (turn.portion? direction).getD [] ++ portionsIn direction turns := by
  cases adds : turn.portion? direction <;> simp [portionsIn, adds]

def returned : Direction → Bytes → Option Bytes
  | .store, _ => none
  | .read, collected => some collected

namespace Session

variable {session after : Session} {turn : Turn} {direction : Direction}

/-- What a turn does for the transfers of a session. -/
inductive Stepped (session : Session) (turn : Turn) (after : Session) : Prop where
  | refused (same : after = session) (silent : turn.events = [])
      (begins : ∀ direction, ¬ turn.Begins direction)
      (finishes : ∀ direction payload, ¬ turn.Finishes direction payload)
      (adds : ∀ direction, session.Carries direction → turn.portion? direction = none)
  | opened (direction : Direction) (begins : turn.Begins direction)
      (carries : after.Carries direction) (silent : carriedBy direction turn.events = [])
      (fresh : direction = .read → after.collected = [])
  | moved (direction : Direction) {portion : Bytes} (before : session.Carries direction)
      (carries : after.Carries direction) (adds : turn.portion? direction = some portion)
      (carried : carriedBy direction turn.events = portion)
      (gathers : direction = .read → after.collected = session.collected ++ portion)
  | closed (direction : Direction) (before : session.Carries direction)
      (finishes : turn.Finishes direction (returned direction session.collected))
      (silent : carriedBy direction turn.events = [])
      (done : ∀ other, ¬ after.Carries other)
  | ended (begins : ∀ direction, ¬ turn.Begins direction)
      (finishes : ∀ direction payload, ¬ turn.Finishes direction payload)
      (done : ∀ direction, ¬ after.Carries direction)

theorem Carries.unique {other : Direction} (carries : session.Carries direction)
    (also : session.Carries other) : direction = other := by
  obtain ⟨_, transfer, active, accepts⟩ := carries
  obtain ⟨_, same, activeToo, acceptsToo⟩ := also
  cases active.symm.trans activeToo
  simp only [Transfer.accepts, Bool.and_eq_true, beq_iff_eq] at accepts acceptsToo
  exact accepts.1.symm.trans acceptsToo.1

theorem not_carries_of_none (closed : session.active = none) (direction : Direction) :
    ¬ session.Carries direction := by
  rintro ⟨_, transfer, active, _⟩
  cases closed.symm.trans active

theorem Failed.not_carries {kind : ErrorKind} (failed : session.Failed kind after)
    (direction : Direction) : ¬ after.Carries direction := by
  rintro ⟨_, transfer, active, open_⟩
  have aborted := (failed.spent transfer active).2
  simp [Transfer.accepts, aborted, Phase.isActive] at open_

theorem shown_ok {α : Type} {payload : α → Option Bytes} {dialogue : Dialogue (Outcome α × Session)}
    {peer : Peer σ} {state : σ} {bytes : Option Bytes}
    (given : ((shown payload dialogue).run peer state).value.1 = some (.ok bytes)) :
    ∃ value, (dialogue.run peer state).value.1 = .ok value ∧ bytes = payload value := by
  simp only [shown, run_map] at given
  cases result : (dialogue.run peer state).value with
  | mk outcome after =>
      rw [result] at given
      cases outcome with
      | ok value =>
          cases given
          exact ⟨value, rfl, rfl⟩
      | error failure => cases given

theorem shown_events {α : Type} (payload : α → Option Bytes)
    (dialogue : Dialogue (Outcome α × Session)) (peer : Peer σ) (state : σ) :
    ((shown payload dialogue).run peer state).events = (dialogue.run peer state).events := by
  rw [shown, run_map]

theorem ended_unphased (opens : turn.call.opens? = none) (closes : turn.call.closes? = none)
    (done : ∀ direction, ¬ after.Carries direction) : session.Stepped turn after :=
  .ended (Turn.not_begins_of_opens opens) (Turn.not_finishes_of_closes closes) done

variable (peer : Peer σ) (state : σ)

theorem shown_silent {α : Type} {payload : α → Option Bytes} {purpose : Purpose}
    {dialogue : Dialogue (Outcome α × Session)} (sends : SendsFor purpose dialogue)
    (other : purpose ≠ .later direction .advance) :
    carriedBy direction ((shown payload dialogue).run peer state).events = [] :=
  sendsFor_carries (sendsFor_map sends) other peer state

theorem success_stepped {call : Call} {payload : Option Bytes} (ready : session.Ready call)
    (answers : call.isControl = false)
    (shows : ((session.perform call).run peer state).value.1 = some (.ok payload))
    (achieves : session.Achieves call payload ((session.perform call).run peer state).value.2) :
    session.Stepped (.of call ((session.perform call).run peer state))
      ((session.perform call).run peer state).value.2 := by
  cases call with
  | beginStore key =>
      exact .opened .store ⟨rfl, _, shows⟩ achieves.2
        (shown_silent peer state (session.beginStore_sends key) (by simp)) fun read => by cases read
  | continueStore payload =>
      obtain ⟨value, given, _⟩ := shown_ok shows
      have carried := continueStore_carries peer state ready payload given
      rw [← shown_events fun _ => none] at carried
      exact .moved .store ready achieves.2 rfl carried fun read => by cases read
  | finalizeStore =>
      obtain ⟨rfl, closed⟩ := achieves
      exact .closed .store ready ⟨rfl, shows⟩
        (shown_silent peer state session.finalizeStore_sends (by simp)) (not_carries_of_none closed)
  | beginRead key =>
      exact .opened .read ⟨rfl, _, shows⟩ achieves.2.1
        (shown_silent peer state (session.beginRead_sends key) (by simp)) fun _ => achieves.2.2
  | continueRead =>
      obtain ⟨chunk, rfl, still, collected⟩ := achieves
      obtain ⟨value, given, same⟩ := shown_ok shows
      cases same
      have carried := continueRead_carries peer state ready given
      rw [← shown_events some] at carried
      refine .moved .read ready still ?_ carried fun _ => collected
      simp only [Turn.portion?, Turn.of, shows]
  | finalizeRead =>
      obtain ⟨rfl, closed⟩ := achieves
      exact .closed .read ready ⟨rfl, shows⟩
        (shown_silent peer state session.finalizeRead_sends (by simp)) (not_carries_of_none closed)
  | store key payload => exact ended_unphased rfl rfl (not_carries_of_none achieves)
  | read key => exact ended_unphased rfl rfl (not_carries_of_none achieves)
  | storeFixed username address message =>
      exact ended_unphased rfl rfl (not_carries_of_none achieves)
  | readFixed username address => exact ended_unphased rfl rfl (not_carries_of_none achieves)
  | deleteFixed username address => exact ended_unphased rfl rfl (not_carries_of_none achieves)
  | abort => cases answers
  | reset => cases answers

theorem refused_stepped {call : Call} (unready : ¬ session.Ready call) (failure : Failure) :
    session.Stepped (.of call ⟨(some (.error failure), session), [], state⟩) session := by
  obtain ⟨begins, finishes⟩ := Turn.unsuccessful_of_error
    (show (Turn.of call ⟨(some (.error failure), session), [], state⟩).result = _ from rfl)
  refine .refused rfl rfl begins finishes ?_
  intro direction carries
  cases direction with
  | store =>
      cases call with
      | continueStore payload => exact absurd carries unready
      | _ => rfl
  | read => cases call <;> rfl

theorem perform_stepped (session : Session) (call : Call) :
    let transcript := (session.perform call).run peer state
    session.Stepped (.of call transcript) transcript.value.2 := by
  intro transcript
  cases control : call.isControl with
  | true =>
      cases call with
      | abort => exact ended_unphased rfl rfl (not_carries_of_none rfl)
      | reset => exact ended_unphased rfl rfl (not_carries_of_none rfl)
      | _ => cases control
  | false =>
      by_cases ready : session.Ready call
      · rcases perform_ends peer state control ready with
          ⟨payload, shows, _, achieves⟩ | ⟨failure, shows, failed, _⟩
        · exact success_stepped peer state ready control shows achieves
        · obtain ⟨begins, finishes⟩ := Turn.unsuccessful_of_error
            (show (Turn.of call transcript).result = _ from shows)
          exact .ended begins finishes failed.not_carries
      · obtain ⟨message, refused⟩ := perform_refused control ready
        have ran : transcript =
            ⟨(some (.error ⟨session.refusalKind call, none, message⟩), session), [], state⟩ := by
          simp only [transcript, refused, run]
        rw [ran]
        exact refused_stepped state ready _

theorem Stepped.idle (stepped : session.Stepped turn after)
    (idle : ∀ direction, ¬ session.Carries direction) :
    (∀ direction payload, ¬ turn.Finishes direction payload) ∧
      ((∀ direction, ¬ turn.Begins direction) → ∀ direction, ¬ after.Carries direction) := by
  cases stepped with
  | refused same silent begins finishes adds =>
      rw [same]
      exact ⟨finishes, fun _ => idle⟩
  | opened direction begins carries silent fresh =>
      exact ⟨begins.not_finishes, fun unbegun => absurd begins (unbegun direction)⟩
  | moved direction before carries adds carried gathers => exact absurd before (idle direction)
  | closed direction before finishes silent done => exact absurd before (idle direction)
  | ended begins finishes done => exact ⟨finishes, fun _ => done⟩

theorem Stepped.begun (stepped : session.Stepped turn after) (begins : turn.Begins direction) :
    after.Carries direction ∧ carriedBy direction turn.events = [] ∧
      (direction = .read → after.collected = []) := by
  cases stepped with
  | refused same silent others finishes adds => exact absurd begins (others _)
  | opened other opens carries silent fresh =>
      cases begins.1.symm.trans opens.1
      exact ⟨carries, silent, fresh⟩
  | moved other before carries adds carried gathers =>
      exact absurd begins (Turn.not_begins_of_opens (Turn.unphased_of_portion adds).1 _)
  | closed other before finishes silent done => exact absurd finishes (begins.not_finishes _ _)
  | ended others finishes done => exact absurd begins (others _)

theorem Stepped.finished (stepped : session.Stepped turn after)
    (carries : session.Carries direction) {payload : Option Bytes}
    (finishes : turn.Finishes direction payload) :
    carriedBy direction turn.events = [] ∧ payload = returned direction session.collected := by
  cases stepped with
  | refused same silent begins others adds => exact absurd finishes (others _ _)
  | opened other begins after silent fresh => exact absurd finishes (begins.not_finishes _ _)
  | moved other before after adds carried gathers =>
      exact absurd finishes (Turn.not_finishes_of_closes (Turn.unphased_of_portion adds).2 _ _)
  | closed other before closes silent done =>
      obtain rfl := carries.unique before
      cases finishes.2.symm.trans closes.2
      exact ⟨silent, rfl⟩
  | ended begins others done => exact absurd finishes (others _ _)

theorem Stepped.kept (stepped : session.Stepped turn after) (carries : session.Carries direction)
    (unbegun : ∀ other, ¬ turn.Begins other) :
    (∀ other, ¬ after.Carries other) ∨ ∃ portion, after.Carries direction ∧
      (turn.portion? direction).getD [] = portion ∧ carriedBy direction turn.events = portion ∧
      (direction = .read → after.collected = session.collected ++ portion) := by
  cases stepped with
  | refused same silent begins finishes adds =>
      rw [same, silent, adds direction carries]
      exact Or.inr ⟨[], carries, rfl, rfl, fun _ => (List.append_nil _).symm⟩
  | opened other begins after silent fresh => exact absurd begins (unbegun other)
  | moved other before after adds carried gathers =>
      obtain rfl := carries.unique before
      rw [adds]
      exact Or.inr ⟨_, after, rfl, carried, gathers⟩
  | closed other before closes silent done => exact Or.inl done
  | ended begins finishes done => exact Or.inl done

end Session

end

/-!
Transfers in phases. Between a begin and the finalize that ends the same transfer, whatever else is
called, the data that passes is what is given to the calls of the transfer or what they return, with
nothing lost and nothing twice; and what a read gives back in the end is that data and nothing older.
-/

section

open Dialogue

namespace Session

variable {σ : Type} {session : Session} {direction : Direction} {between later : List Turn}
  {finished : Turn} {payload : Option Bytes}

/-- Turns that follow one another from a session on. -/
inductive Steps : Session → List Turn → Prop where
  | done {session : Session} : Steps session []
  | step {session after : Session} {turn : Turn} {turns : List Turn}
      (first : session.Stepped turn after) (onward : Steps after turns) :
      Steps session (turn :: turns)

theorem turns_steps (peer : Peer σ) (state : σ) (session : Session) (calls : List Call) :
    Steps session (session.turns peer state calls) := by
  induction calls generalizing session state with
  | nil => exact .done
  | cons call calls ih => exact .step (perform_stepped peer state session call) (ih _ _)

theorem Steps.rest {before turns : List Turn} (steps : Steps session (before ++ turns)) :
    ∃ reached, Steps reached turns := by
  induction before generalizing session with
  | nil => exact ⟨session, steps⟩
  | cons turn before ih =>
      cases steps with
      | step first onward => exact ih onward

theorem Steps.finishes_nothing (steps : Steps session (between ++ finished :: later))
    (idle : ∀ other, ¬ session.Carries other)
    (unbegun : ∀ turn ∈ between, ∀ other, ¬ turn.Begins other) :
    ¬ finished.Finishes direction payload := by
  induction between generalizing session with
  | nil =>
      cases steps with
      | step first onward => exact (first.idle idle).1 _ _
  | cons turn between ih =>
      obtain ⟨unbegunFirst, unbegunLater⟩ := List.forall_mem_cons.mp unbegun
      cases steps with
      | step first onward => exact ih onward ((first.idle idle).2 unbegunFirst) unbegunLater

/-- From a transfer that can go on to its end, what passes is what the calls add, and what a read
gives back in the end is that, after what it had collected before. -/
theorem Steps.conserve (steps : Steps session (between ++ finished :: later))
    (carries : session.Carries direction)
    (unbegun : ∀ turn ∈ between, ∀ other, ¬ turn.Begins other)
    (finishes : finished.Finishes direction payload) :
    carriedIn direction (between ++ [finished]) = portionsIn direction between ∧
      payload = returned direction (session.collected ++ portionsIn direction between) := by
  induction between generalizing session with
  | nil =>
      cases steps with
      | step first onward =>
          obtain ⟨silent, gives⟩ := first.finished carries finishes
          refine ⟨?_, by simpa [portionsIn] using gives⟩
          rw [List.nil_append, carriedIn_singleton, silent]
          rfl
  | cons turn between ih =>
      obtain ⟨unbegunFirst, unbegunLater⟩ := List.forall_mem_cons.mp unbegun
      cases steps with
      | step first onward =>
          rcases first.kept carries unbegunFirst with done | ⟨portion, still, adds, carried, gathers⟩
          · exact absurd finishes (onward.finishes_nothing done unbegunLater)
          · obtain ⟨passed, gives⟩ := ih onward still unbegunLater
            rw [List.cons_append, carriedIn_cons, portionsIn_cons, adds, carried, passed]
            refine ⟨rfl, ?_⟩
            cases direction with
            | store => exact gives
            | read => rw [gives, gathers rfl, List.append_assoc]

/-- Transfers in phases neither lose nor duplicate anything, whatever happened before and whatever
else is called in between. -/
theorem phased_transfers_exact (peer : Peer σ) (state : σ) (session : Session) (calls : List Call) :
    (∀ before begun between finished later direction payload,
      session.turns peer state calls = before ++ begun :: (between ++ finished :: later) →
      begun.Begins direction → (∀ turn ∈ between, ∀ other, ¬ turn.Begins other) →
      finished.Finishes direction payload →
        carriedIn direction (begun :: (between ++ [finished])) = portionsIn direction between ∧
          payload = returned direction (portionsIn direction between)) ∧
    ∀ turn ∈ session.turns peer state calls, ∀ key payload,
      turn.call = .read key → turn.result = some (.ok payload) →
        payload = some (carriedIn .read [turn]) := by
  constructor
  · intro before begun between finished later direction payload split begins unbegun finishes
    have steps := turns_steps peer state session calls
    rw [split] at steps
    obtain ⟨reached, fromBegin⟩ := steps.rest
    cases fromBegin with
    | step first onward =>
        obtain ⟨carries, silent, fresh⟩ := first.begun begins
        obtain ⟨passed, gives⟩ := onward.conserve carries unbegun finishes
        rw [carriedIn_cons, silent, passed]
        refine ⟨rfl, ?_⟩
        cases direction with
        | store => exact gives
        | read => rw [gives, fresh rfl, List.nil_append]
  · intro turn member key payload called succeeded
    obtain ⟨reached, now, call, rfl⟩ := turns_member peer session state calls member
    cases called
    have free : reached.Free := ready_of_success rfl succeeded
    obtain ⟨bytes, given, rfl⟩ := shown_ok succeeded
    have carried := read_carries peer now free key given
    rw [← shown_events some] at carried
    rw [carriedIn_singleton]
    exact congrArg some carried.symm

theorem read_around_store :
    let turns := (standard false).turns (.steady twoBytes (.ok [])) ()
      [.beginRead sampleKey, .beginStore sampleKey, .continueRead, .continueStore [9], .finalizeRead]
    let between := turns.tail.take 3
    ∃ begun finished, turns = begun :: (between ++ [finished]) ∧ begun.Begins .read ∧
      (∀ turn ∈ between, ∀ other, ¬ turn.Begins other) ∧ finished.Finishes .read (some [0, 2]) ∧
      carriedIn .read (begun :: (between ++ [finished])) = portionsIn .read between ∧
      some [0, 2] = returned .read (portionsIn .read between) := by
  intro turns between
  have unbegun : ∀ turn ∈ between, ∀ other, ¬ turn.Begins other := by
    intro turn member other begins
    rcases List.mem_cons.mp member with rfl | member
    · obtain ⟨_, payload, succeeded⟩ := begins
      cases succeeded
    · rcases List.mem_cons.mp member with rfl | member
      · cases begins.1
      · cases List.mem_singleton.mp member
        cases begins.1
  refine ⟨_, _, rfl, ⟨rfl, _, rfl⟩, unbegun, ⟨rfl, rfl⟩, ?_⟩
  exact (phased_transfers_exact (.steady twoBytes (.ok [])) () (standard false)
    [.beginRead sampleKey, .beginStore sampleKey, .continueRead, .continueStore [9],
      .finalizeRead]).1 [] _ _ _ [] .read _ rfl ⟨rfl, _, rfl⟩ unbegun ⟨rfl, rfl⟩

end Session

end

end CardVault

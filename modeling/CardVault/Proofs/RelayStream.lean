import CardVault.Link

/-!
A whole stream of exchanges over the relay. Answers may arrive in any portions, ahead of time too, as
long as each is complete when it is read: then every exchange gets its own answer, what came ahead of
time waits, and the commands can be read back from what was written. `Arrives` says what is unread
between one exchange and the next; a write that fails ends the stream.
-/

namespace CardVault.Link

/-- An exchange as the link sees it: the command, what arrives from the relay up to the moment the
answer is read, and what goes wrong while writing. -/
structure Exchange where
  command : Bytes
  arrived : Bytes
  fault : Option Text
deriving DecidableEq, Repr

structure Course where
  steps : List (Step (Except Fault Bytes))
  last : Link

def transmitAll (link : Link) : List Exchange → Course
  | [] => ⟨[], link⟩
  | exchange :: exchanges =>
      let step := (link.deliver exchange.arrived).transmit exchange.command exchange.fault
      let later := step.link.transmitAll exchanges
      ⟨step :: later.steps, later.last⟩

def Course.wrote (course : Course) : Bytes :=
  course.steps.flatMap (·.wrote)

theorem receive_shorter {stream frame rest : Bytes} (received : receive stream = (some frame, rest)) :
    rest.length < stream.length := by
  unfold receive at received
  split at received
  · rename_i high low following
    unfold take at received
    split at received
    · cases received
    · cases received
      simp only [List.length_drop, List.length_cons]
      omega
  · cases received

def frames? (stream : Bytes) : Option (List Bytes) :=
  if stream = [] then some []
  else
    match _received : receive stream with
    | (some frame, rest) => (frames? rest).map (frame :: ·)
    | (none, _) => none
termination_by stream.length
decreasing_by exact receive_shorter _received

theorem frames?_cons {frame : Bytes} (rest : Bytes) (short : frame.length ≤ 65535) :
    frames? (relayFrame frame ++ rest) = (frames? rest).map (frame :: ·) := by
  have filled : relayFrame frame ++ rest ≠ [] := by simp [relayFrame, Word.bytes]
  rw [frames?]
  simp only [filled, ↓reduceIte]
  split
  · rename_i first left received
    rw [receive_relayFrame frame rest short] at received
    cases received
    rfl
  · rename_i received
    rw [receive_relayFrame frame rest short] at received
    cases received

theorem frames?_flatMap {frames : List Bytes} (short : ∀ frame ∈ frames, frame.length ≤ 65535) :
    frames? (frames.flatMap relayFrame) = some frames := by
  induction frames with
  | nil => rw [List.flatMap_nil, frames?, if_pos rfl]
  | cons frame frames ih =>
      obtain ⟨first, others⟩ := List.forall_mem_cons.mp short
      rw [List.flatMap_cons, frames?_cons _ first, ih others]
      rfl

/-- Answers arrive in time: with what comes in during an exchange, its answer is there, and what
follows it is left for the exchanges after. -/
inductive Arrives : Bytes → List Exchange → List Bytes → Bytes → Prop where
  | done (unread : Bytes) : Arrives unread [] [] unread
  | answered {unread left beyond response : Bytes} {exchange : Exchange}
      {exchanges : List Exchange} {responses : List Bytes}
      (complete : unread ++ exchange.arrived = relayFrame response ++ left)
      (onward : Arrives left exchanges responses beyond) :
      Arrives unread (exchange :: exchanges) (response :: responses) beyond

/-- Answers arrive in time if the stream is made up of them and no portion comes too late. -/
theorem arrives_of_stream {unread beyond : Bytes} {exchanges : List Exchange}
    {responses : List Bytes} (asMany : responses.length = exchanges.length)
    (stream : unread ++ exchanges.flatMap (·.arrived) = responses.flatMap relayFrame ++ beyond)
    (inTime : ∀ count ≤ exchanges.length, ((responses.take count).flatMap relayFrame).length ≤
      (unread ++ (exchanges.take count).flatMap (·.arrived)).length) :
    Arrives unread exchanges responses beyond := by
  induction exchanges generalizing unread responses with
  | nil =>
      obtain rfl := List.length_eq_zero_iff.mp asMany
      obtain rfl : unread = beyond := by simpa using stream
      exact .done _
  | cons exchange exchanges ih =>
      cases responses with
      | nil => cases asMany
      | cons response responses =>
          simp only [List.flatMap_cons, List.append_assoc] at stream
          rw [← List.append_assoc] at stream
          -- The first answer begins the stream and is no longer than what has arrived of it.
          have first : relayFrame response <+: unread ++ exchange.arrived := by
            apply List.prefix_of_prefix_length_le ⟨_, rfl⟩ ⟨_, stream⟩
            simpa using inTime 1 (by simp)
          obtain ⟨left, complete⟩ := first
          rw [← complete, List.append_assoc] at stream
          have size := congrArg List.length complete
          refine .answered complete.symm (ih (Nat.succ.inj asMany) (List.append_cancel_left stream) ?_)
          intro count within
          have later := inTime (count + 1) (Nat.succ_le_succ within)
          simp only [List.take_succ_cons, List.flatMap_cons, List.length_append] at later size ⊢
          omega

section Transmission

variable {link : Link} {exchange : Exchange} {exchanges : List Exchange} {responses : List Bytes}
  {response left beyond : Bytes}

theorem transmit_answered (open_ : link.state = .connected) (calm : exchange.fault = none)
    (carried : exchange.command.length ≤ 65535) (short : response.length ≤ 65535)
    (complete : link.unread ++ exchange.arrived = relayFrame response ++ left) :
    (link.deliver exchange.arrived).transmit exchange.command exchange.fault =
      ⟨.ok response, { link with unread := left }, relayFrame exchange.command, []⟩ := by
  have arrived : (link.deliver exchange.arrived).unread = relayFrame response ++ left := complete
  have stays : (link.deliver exchange.arrived).state = .connected := open_
  have fits : ¬ exchange.command.length > 65535 := Nat.not_lt.mpr carried
  simp only [transmit, stays, ne_eq, not_true_eq_false, fits, calm, arrived,
    receive_relayFrame response left short, ↓reduceIte]
  simp [deliver, open_]

theorem transmitAll_answered (arrives : Arrives link.unread exchanges responses beyond)
    (open_ : link.state = .connected) (calm : ∀ exchange ∈ exchanges, exchange.fault = none)
    (carried : ∀ exchange ∈ exchanges, exchange.command.length ≤ 65535)
    (short : ∀ response ∈ responses, response.length ≤ 65535) :
    let course := link.transmitAll exchanges
    course.steps.map (·.value) = responses.map .ok ∧
      (∀ step ∈ course.steps, step.link.state = .connected) ∧
      course.last = { link with unread := beyond } ∧
      course.wrote = (exchanges.map (·.command)).flatMap relayFrame := by
  generalize before : link.unread = unread at arrives
  induction arrives generalizing link with
  | done unread =>
      subst before
      exact ⟨rfl, by simp [transmitAll], rfl, rfl⟩
  | @answered _ left _ _ _ _ _ complete onward ih =>
      obtain ⟨calmNow, calmLater⟩ := List.forall_mem_cons.mp calm
      obtain ⟨carriedNow, carriedLater⟩ := List.forall_mem_cons.mp carried
      obtain ⟨shortNow, shortLater⟩ := List.forall_mem_cons.mp short
      subst before
      have step := transmit_answered open_ calmNow carriedNow shortNow complete
      have stillOpen : ({ link with unread := left } : Link).state = .connected := open_
      obtain ⟨values, states, last, wrote⟩ := ih stillOpen calmLater carriedLater shortLater rfl
      simp only [transmitAll, Course.wrote, step, List.map_cons, List.flatMap_cons] at wrote ⊢
      exact ⟨congrArg _ values, List.forall_mem_cons.mpr ⟨open_, states⟩, last,
        congrArg (relayFrame _ ++ ·) wrote⟩

theorem transmitAll_broken (broken : link.state = .broken) :
    ∀ step ∈ (link.transmitAll exchanges).steps,
      step.wrote = [] ∧ step.link.state = .broken ∧ ∃ fault, step.value = .error fault := by
  induction exchanges generalizing link with
  | nil => simp [transmitAll]
  | cons exchange exchanges ih =>
      have stays : (link.deliver exchange.arrived).state = .broken := broken
      have refused : (link.deliver exchange.arrived).state ≠ .connected := by simp [stays]
      simp only [transmitAll, transmit, refused, ne_eq, not_false_eq_true, ↓reduceIte]
      exact List.forall_mem_cons.mpr ⟨⟨rfl, stays, _, rfl⟩, ih stays⟩

theorem transmitAll_failing (open_ : link.state = .connected)
    (carried : exchange.command.length ≤ 65535) {wording : Text}
    (fails : exchange.fault = some wording) :
    ∀ step ∈ (link.transmitAll (exchange :: exchanges)).steps,
      step.wrote = [] ∧ step.link.state = .broken ∧ ∃ fault, step.value = .error fault := by
  have stays : (link.deliver exchange.arrived).state = .connected := open_
  have fits : ¬ exchange.command.length > 65535 := Nat.not_lt.mpr carried
  have broken : ((link.deliver exchange.arrived).enter .broken).state = .broken := by
    simp [enter, stays, LinkState.allows]
  simp only [transmitAll, transmit, stays, ne_eq, not_true_eq_false, fits, fails, fail, ↓reduceIte]
  exact List.forall_mem_cons.mpr ⟨⟨rfl, broken, _, rfl⟩, transmitAll_broken broken⟩

end Transmission

/-- Over an open link that has nothing unread, every exchange returns its own answer, however the
stream of answers is cut into portions, as long as each answer is complete when it is read. The link
stays open, what was sent beyond the answers stays unread, and the commands stand in what was written,
which no other commands would give. A write that fails later writes nothing and breaks the link. -/
theorem stream_answers_in_order {link : Link} {exchanges : List Exchange} {responses : List Bytes}
    {beyond : Bytes} (open_ : link.state = .connected) (caughtUp : link.unread = [])
    (calm : ∀ exchange ∈ exchanges, exchange.fault = none)
    (carried : ∀ exchange ∈ exchanges, exchange.command.length ≤ 65535)
    (short : ∀ response ∈ responses, response.length ≤ 65535)
    (asMany : responses.length = exchanges.length)
    (stream : exchanges.flatMap (·.arrived) = responses.flatMap relayFrame ++ beyond)
    (inTime : ∀ count ≤ exchanges.length, ((responses.take count).flatMap relayFrame).length ≤
      ((exchanges.take count).flatMap (·.arrived)).length) :
    let course := link.transmitAll exchanges
    let commands := exchanges.map (·.command)
    course.steps.map (·.value) = responses.map .ok ∧
      (∀ step ∈ course.steps, step.link.state = .connected) ∧
      course.last = { link with unread := beyond } ∧
      course.wrote = commands.flatMap relayFrame ∧
      frames? course.wrote = some commands ∧
      (∀ others : List Bytes, (∀ other ∈ others, other.length ≤ 65535) →
        others.flatMap relayFrame = course.wrote → others = commands) ∧
      ∀ failing more wording, failing.command.length ≤ 65535 → failing.fault = some wording →
        ∀ step ∈ (course.last.transmitAll (failing :: more)).steps,
          step.wrote = [] ∧ step.link.state = .broken ∧ ∃ fault, step.value = .error fault := by
  intro course commands
  have arrives : Arrives link.unread exchanges responses beyond := by
    rw [caughtUp]
    exact arrives_of_stream asMany stream inTime
  obtain ⟨values, states, last, wrote⟩ := transmitAll_answered arrives open_ calm carried short
  have shortCommands : ∀ command ∈ commands, command.length ≤ 65535 :=
    List.forall_mem_map.mpr carried
  have read : frames? course.wrote = some commands := by
    rw [wrote]
    exact frames?_flatMap shortCommands
  refine ⟨values, states, last, wrote, read, ?_, ?_⟩
  · intro others shortOthers same
    have readToo := frames?_flatMap shortOthers
    rw [same, read] at readToo
    exact (Option.some.inj readToo).symm
  · intro failing more wording fits fails
    have stays : course.last.state = .connected := by
      rw [last]
      exact open_
    exact transmitAll_failing stays fits fails

theorem two_answers_in_three_portions :
    let link : Link := ⟨.connected, true, [], 0⟩
    let exchanges : List Exchange := [⟨[0x80, 0x10], [0, 0, 0], none⟩, ⟨[], [2, 7, 8, 9], none⟩]
    let responses : List Bytes := [[], [7, 8]]
    exchanges.flatMap (·.arrived) = responses.flatMap relayFrame ++ [9] ∧
      (link.transmitAll exchanges).steps.map (·.value) = responses.map .ok ∧
      (link.transmitAll exchanges).last = { link with unread := [9] } ∧
      frames? (link.transmitAll exchanges).wrote = some [[0x80, 0x10], []] := by
  intro link exchanges responses
  have stream : exchanges.flatMap (·.arrived) = responses.flatMap relayFrame ++ [9] := by decide
  obtain ⟨values, _, last, _, read, _⟩ :=
    @stream_answers_in_order link exchanges responses [9] rfl rfl (by decide) (by decide)
      (by decide) rfl stream (by decide)
  exact ⟨stream, values, last, read⟩

end CardVault.Link

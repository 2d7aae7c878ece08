import CardVault.Link

/-!
What a call on a link can come to. `Comes` says it once for links that are at rest, as they are
between calls; what a call leaves, writes and returns follows by its cases.
-/

namespace CardVault.Link

section

variable {link : Link} {call : Call} {step : Step Returned}

/-- Between calls a link is not about to connect, and has a socket unless it is closed. -/
structure AtRest (link : Link) : Prop where
  settled : link.state ≠ .connecting
  socket : link.socketOpen = true ↔ link.state ≠ .closed

def kept (link : Link) : Bytes :=
  if link.socketOpen then [] else link.unread

/-- What a call on a link at rest can come to. -/
inductive Comes (link : Link) : Call → Step Returned → Prop where
  | already {host : Text} {port : UInt16} {fault : Option Text}
      (open_ : link.state = .connected) :
      Comes link (.connect host port fault) ⟨.connected true, link, [], []⟩
  | opened {host : Text} {port : UInt16} (down : link.state ≠ .connected) :
      Comes link (.connect host port none)
        ⟨.connected true, { link with state := .connected, socketOpen := true, unread := link.kept },
          [], [host ++ text ":" ++ Text.decimal port.toNat]⟩
  | unreached {host : Text} {port : UInt16} {wording : Text} (down : link.state ≠ .connected) :
      Comes link (.connect host port (some wording))
        ⟨.connected false, { link with state := .closed, socketOpen := false, unread := [] }, [],
          [host ++ text ":" ++ Text.decimal port.toNat]⟩
  | closed :
      Comes link .disconnect
        ⟨.disconnected, { link with state := .closed, socketOpen := false, unread := link.kept }, [],
          []⟩
  | refused {frame wording : Text} {trouble : Option Trouble}
      (uncarried : link.state ≠ .connected ∨ 65535 < frame.length) :
      Comes link (.transmit frame trouble) ⟨.answered (.error (.link wording)), link, [], []⟩
  | unwritten {frame wording cause : Text} (open_ : link.state = .connected)
      (fits : frame.length ≤ 65535) :
      Comes link (.transmit frame (some (.writing cause)))
        ⟨.answered (.error (.link wording)), { link with state := .broken }, [], []⟩
  | unanswered {frame wording : Text} {trouble : Option Trouble} {unread : Bytes}
      (open_ : link.state = .connected) (fits : frame.length ≤ 65535) :
      Comes link (.transmit frame trouble)
        ⟨.answered (.error (.link wording)), { link with state := .broken, unread := unread },
          relayFrame frame, []⟩
  | answered {frame answer rest : Bytes} (open_ : link.state = .connected)
      (fits : frame.length ≤ 65535) (stream : link.unread = relayFrame answer ++ rest) :
      Comes link (.transmit frame none)
        ⟨.answered (.ok answer), { link with unread := rest }, relayFrame frame, []⟩

theorem relayFrame_ofBytes {high low : UInt8} {frame : Bytes}
    (size : frame.length = (Word.ofBytes high low).toNat) :
    relayFrame frame = high :: low :: frame := by
  rw [relayFrame, size, UInt16.ofNat_toNat, Word.bytes, Word.high_ofBytes, Word.low_ofBytes]
  rfl

theorem receive_cases (stream : Bytes) :
    receive stream = (none, []) ∨
      ∃ frame rest, receive stream = (some frame, rest) ∧ stream = relayFrame frame ++ rest := by
  cases stream with
  | nil => exact Or.inl rfl
  | cons high stream =>
      cases stream with
      | nil => exact Or.inl rfl
      | cons low rest =>
          simp only [receive, take]
          by_cases short : rest.length < (Word.ofBytes high low).toNat
          · exact Or.inl (if_pos short)
          · have size : (rest.take (Word.ofBytes high low).toNat).length =
                (Word.ofBytes high low).toNat := by
              rw [List.length_take]
              omega
            refine Or.inr ⟨_, _, if_neg short, ?_⟩
            rw [relayFrame_ofBytes size]
            simp

theorem close_eq (rest : link.AtRest) :
    link.close = { link with state := .closed, socketOpen := false, unread := link.kept } := by
  rcases rest with ⟨settled, socket⟩
  cases link with
  | mk state socketOpen unread refusals =>
      cases state <;> cases socketOpen <;>
        simp_all [close, closeSocket, kept, enter, LinkState.allows]

theorem connect_comes (rest : link.AtRest) (host : Text) (port : UInt16) (fault : Option Text) :
    Comes link (.connect host port fault) (link.perform (.connect host port fault)) := by
  by_cases open_ : link.state = .connected
  · have same : link.perform (.connect host port fault) = ⟨.connected true, link, [], []⟩ := by
      simp [perform, connect, open_, Step.map]
    rw [same]
    exact .already open_
  · have trying : link.close.enter .connecting =
        { link with state := .connecting, socketOpen := false, unread := link.kept } := by
      simp [close_eq rest, enter, LinkState.allows]
    simp only [perform, connect, open_, ↓reduceIte, trying]
    cases fault with
    | none => exact .opened open_
    | some wording => exact .unreached open_

theorem transmit_uncarried (frame : Bytes) (fault : Option Text)
    (uncarried : link.state ≠ .connected ∨ 65535 < frame.length) :
    ∃ wording, link.transmit frame fault = ⟨.error (.link wording), link, [], []⟩ := by
  by_cases down : link.state ≠ .connected
  · exact ⟨_, if_pos down⟩
  · rcases uncarried with open_ | wide
    · exact absurd open_ down
    · exact ⟨_, (if_neg down).trans (if_pos wide)⟩

theorem fail_eq (open_ : link.state = .connected) (unread wrote wording : Bytes) :
    ∃ text, { link with unread := unread }.fail wrote wording =
      ⟨.error (.link text), { link with state := .broken, unread := unread }, wrote, []⟩ := by
  have enters : { link with unread := unread }.enter .broken =
      { link with state := .broken, unread := unread } := by
    simp [enter, open_, LinkState.allows]
  exact ⟨_, by rw [fail, enters]⟩

theorem transmit_carried (open_ : link.state = .connected) {frame : Bytes}
    (fits : frame.length ≤ 65535) :
    link.transmit frame none =
      match receive link.unread with
      | (some answer, rest) => ⟨.ok answer, { link with unread := rest }, relayFrame frame, []⟩
      | (none, rest) =>
          { link with unread := rest }.fail (relayFrame frame) (text "End of file") :=
  (if_neg fun down => down open_).trans (if_neg (Nat.not_lt.mpr fits))

theorem pass_comes (link : Link) (frame : Bytes) (trouble : Option Trouble) :
    Comes link (.transmit frame trouble) (link.perform (.transmit frame trouble)) := by
  simp only [perform]
  by_cases uncarried : link.state ≠ .connected ∨ 65535 < frame.length
  · have refused (fault : Option Text) :
        Comes link (.transmit frame trouble) ((link.transmit frame fault).map .answered) := by
      rcases transmit_uncarried frame fault uncarried with ⟨wording, same⟩
      rw [same]
      exact .refused uncarried
    have carried : link.carries frame = false := by
      rcases uncarried with down | wide
      · simp [carries, down]
      · simp [carries, Nat.not_le.mpr wide]
    rcases trouble with _ | _ | _
    · exact refused none
    · exact refused (some _)
    · simp only [pass, carried]
      exact refused none
  · have open_ : link.state = .connected := by
      by_cases open_ : link.state = .connected
      · exact open_
      · exact absurd (Or.inl open_) uncarried
    have fits : frame.length ≤ 65535 := Nat.not_lt.mp fun wide => uncarried (Or.inr wide)
    rcases trouble with _ | cause | ⟨taken, cause⟩
    · simp only [pass, transmit_carried open_ fits]
      rcases receive_cases link.unread with lost | ⟨answer, rest, received, stream⟩
      · rcases fail_eq open_ [] (relayFrame frame) (text "End of file") with ⟨wording, fails⟩
        simp only [lost, fails, Step.map]
        exact .unanswered open_ fits
      · simp only [received, Step.map]
        exact .answered open_ fits stream
    · rcases fail_eq open_ link.unread [] cause with ⟨wording, fails⟩
      have breaks : link.transmit frame (some cause) = link.fail [] cause := by
        rw [transmit, if_neg (fun down => down open_), if_neg (Nat.not_lt.mpr fits)]
      simp only [pass, breaks, fails, Step.map]
      exact .unwritten open_ fits
    · have carried : link.carries frame = true := by simp [carries, open_, fits]
      rcases fail_eq open_ (link.unread.drop taken) (relayFrame frame) cause with ⟨wording, fails⟩
      simp only [pass, carried, ↓reduceIte, fails, Step.map]
      exact .unanswered open_ fits

theorem pass_short (frame : Bytes) (short : (receive link.unread).1 = none) :
    link.pass frame none =
      link.pass frame (some (.reading link.unread.length (text "End of file"))) := by
  simp only [pass]
  by_cases carried : link.carries frame = true
  · have ⟨open_, fits⟩ : link.state = .connected ∧ frame.length ≤ 65535 := by
      simpa [carries] using carried
    rw [if_pos carried, transmit_carried open_ fits]
    rcases receive_cases link.unread with lost | ⟨answer, rest, received, _⟩
    · simp [lost]
    · rw [received] at short
      cases short
  · rw [if_neg carried]

theorem perform_comes (rest : link.AtRest) (call : Call) : Comes link call (link.perform call) := by
  cases call with
  | connect host port fault => exact connect_comes rest host port fault
  | disconnect =>
      simp only [perform, disconnect, Step.map, close_eq rest]
      exact .closed
  | transmit frame trouble => exact pass_comes link frame trouble

theorem Comes.atRest (comes : Comes link call step) (rest : link.AtRest) : step.link.AtRest := by
  cases comes with
  | already _ => exact rest
  | refused _ => exact rest
  | answered _ _ _ => exact ⟨rest.settled, rest.socket⟩
  | opened _ => exact ⟨by simp, by simp⟩
  | unreached _ => exact ⟨by simp, by simp⟩
  | closed => exact ⟨by simp, by simp⟩
  | unwritten open_ _ =>
      have socket := rest.socket
      rw [open_] at socket
      exact ⟨by simp, by simpa using socket⟩
  | unanswered open_ _ =>
      have socket := rest.socket
      rw [open_] at socket
      exact ⟨by simp, by simpa using socket⟩

theorem Comes.refused_of_uncarried {frame : Bytes} {trouble : Option Trouble}
    (comes : Comes link (.transmit frame trouble) step)
    (uncarried : link.state ≠ .connected ∨ 65535 < frame.length) :
    step.link = link ∧ step.wrote = [] ∧
      ∃ wording, step.value = .answered (.error (.link wording)) := by
  have carried (open_ : link.state = .connected) (fits : frame.length ≤ 65535) : False := by
    rcases uncarried with down | wide
    · exact down open_
    · omega
  cases comes with
  | refused _ => exact ⟨rfl, rfl, _, rfl⟩
  | unwritten open_ fits => exact (carried open_ fits).elim
  | unanswered open_ fits => exact (carried open_ fits).elim
  | answered open_ fits _ => exact (carried open_ fits).elim

theorem Comes.breaks {frame : Bytes} {trouble : Option Trouble} {error : Fault}
    (comes : Comes link (.transmit frame trouble) step) (open_ : link.state = .connected)
    (fits : frame.length ≤ 65535) (failed : step.value = .answered (.error error)) :
    step.link.state = .broken ∧ ∃ wording, step.value = .answered (.error (.link wording)) := by
  cases comes with
  | refused uncarried =>
      rcases uncarried with down | wide
      · exact absurd open_ down
      · omega
  | unwritten _ _ => exact ⟨rfl, _, rfl⟩
  | unanswered _ _ => exact ⟨rfl, _, rfl⟩
  | answered _ _ _ => cases failed

theorem Comes.silent (comes : Comes link call step) (down : link.state ≠ .connected) :
    step.wrote = [] ∧ ∀ answer, step.value ≠ .answered (.ok answer) := by
  cases comes with
  | unwritten open_ _ => exact absurd open_ down
  | unanswered open_ _ => exact absurd open_ down
  | answered open_ _ _ => exact absurd open_ down
  | _ => exact ⟨rfl, fun _ same => by cases same⟩

theorem Comes.whole {frame : Bytes} {trouble : Option Trouble}
    (comes : Comes link (.transmit frame trouble) step) :
    step.wrote = relayFrame frame ∨
      step.wrote = [] ∧ (link.state ≠ .connected ∨ 65535 < frame.length ∨
        ∃ cause, trouble = some (.writing cause)) := by
  cases comes with
  | refused uncarried => exact Or.inr ⟨rfl, uncarried.imp_right Or.inl⟩
  | unwritten _ _ => exact Or.inr ⟨rfl, Or.inr (Or.inr ⟨_, rfl⟩)⟩
  | unanswered _ _ => exact Or.inl rfl
  | answered _ _ _ => exact Or.inl rfl

theorem Comes.connects {host : Text} {port : UInt16} {fault : Option Text}
    (comes : Comes link (.connect host port fault) step) (down : link.state ≠ .connected) :
    (step.value = .connected true ∧ step.link.state = .connected ∧ fault = none) ∨
      (step.value = .connected false ∧ step.link.state = .closed ∧ fault ≠ none) := by
  cases comes with
  | already open_ => exact absurd open_ down
  | opened _ => exact Or.inl ⟨rfl, rfl, rfl⟩
  | unreached _ => exact Or.inr ⟨rfl, rfl, by simp⟩

theorem Comes.reuses {host : Text} {port : UInt16} {fault : Option Text}
    (comes : Comes link (.connect host port fault) step) (open_ : link.state = .connected) :
    step = ⟨.connected true, link, [], []⟩ := by
  cases comes with
  | already _ => rfl
  | opened down => exact absurd open_ down
  | unreached down => exact absurd open_ down

end

/-!
The life of a link over any run of calls. What is unread on an open link has arrived since the last
connection ended, so no answer is ever made of bytes that came while an earlier connection was open;
and once a transmit has broken the link nothing is written or read until a connect succeeds.
-/

section

variable {link : Link} {call : Call} {step : Step Returned} {past before after : List Entry}
  {entry : Entry}

namespace Entry

def Connects (entry : Entry) : Prop :=
  entry.step.value = .connected true

def Breaks (entry : Entry) : Prop :=
  ∃ frame trouble error, entry.call = .transmit frame trouble ∧ entry.found.state = .connected ∧
    frame.length ≤ 65535 ∧ entry.step.value = .answered (.error error)

def Within (entry : Entry) : Prop :=
  entry.found.state = .connected ∧ entry.left.state = .connected

theorem comes (entry : Entry) (rest : entry.before.AtRest) :
    Comes entry.found entry.call entry.step := by
  have found : entry.found.AtRest := ⟨rest.settled, rest.socket⟩
  exact perform_comes found entry.call

theorem left_rest (entry : Entry) (rest : entry.before.AtRest) : entry.left.AtRest :=
  (entry.comes rest).atRest ⟨rest.settled, rest.socket⟩

end Entry

/-- Where the unread bytes come from: they arrived while there was no connection, or since then over
the connection that is open, and are what the answers since then have left of it. -/
def Supplied (past : List Entry) (link : Link) : Prop :=
  ∃ older idle since, past = older ++ (idle ++ since) ∧
    (∀ entry ∈ idle, entry.found.socketOpen = false) ∧ (∀ entry ∈ since, entry.Within) ∧
    (link.state = .closed → since = []) ∧
    (idle ++ since).flatMap (·.arrived) = since.flatMap Entry.read ++ link.unread

theorem supplied_empty (past : List Entry) (empty : link.unread = []) : Supplied past link :=
  ⟨past, [], [], by simp, by simp, by simp, fun _ => rfl, by simp [empty]⟩

theorem Supplied.idle (supplied : Supplied past entry.before)
    (closed : entry.before.state = .closed) (socketless : entry.found.socketOpen = false)
    (unread : entry.left.unread = entry.found.unread) : Supplied (past ++ [entry]) entry.left := by
  rcases supplied with ⟨older, idle, since, split, idled, _, none, stream⟩
  obtain rfl := none closed
  refine ⟨older, idle ++ [entry], [], by simp [split], ?_, by simp, fun _ => rfl, ?_⟩
  · intro other member
    rcases List.mem_append.mp member with earlier | last
    · exact idled other earlier
    · rw [List.mem_singleton.mp last]
      exact socketless
  · simp only [List.append_nil, List.flatMap_nil, List.nil_append] at stream
    simp [stream, unread, Entry.found, deliver]

theorem Supplied.within (supplied : Supplied past entry.before) (open_ : entry.Within)
    (stream : entry.found.unread = entry.read ++ entry.left.unread) :
    Supplied (past ++ [entry]) entry.left := by
  rcases supplied with ⟨older, idle, since, split, idled, within, _, account⟩
  refine ⟨older, idle, since ++ [entry], by simp [split], idled, ?_, ?_, ?_⟩
  · intro other member
    rcases List.mem_append.mp member with earlier | last
    · exact within other earlier
    · rw [List.mem_singleton.mp last]
      exact open_
  · intro closed
    cases open_.2.symm.trans closed
  · calc (idle ++ (since ++ [entry])).flatMap (·.arrived)
        = (idle ++ since).flatMap (·.arrived) ++ entry.arrived := by simp
      _ = since.flatMap Entry.read ++ entry.found.unread := by
          rw [account, List.append_assoc]
          rfl
      _ = (since ++ [entry]).flatMap Entry.read ++ entry.left.unread := by simp [stream]

/-- What holds of a link after a run of calls. -/
structure Account (past : List Entry) (link : Link) : Prop where
  rest : link.AtRest
  supplied : link.state ≠ .broken → Supplied past link
  down : ∀ older failed since, past = older ++ failed :: since → failed.Breaks →
    (∀ entry ∈ since, ¬ entry.Connects) → link.state ≠ .connected

theorem account_fresh : Account [] fresh where
  rest := ⟨by simp [fresh], by simp [fresh]⟩
  supplied := fun _ => supplied_empty [] rfl
  down := by simp

theorem Account.unchanged (account : Account past entry.before) (same : entry.left = entry.found)
    (silent : entry.read = []) (mended : entry.left.state ≠ .broken) :
    Supplied (past ++ [entry]) entry.left := by
  have stays : entry.before.state = entry.left.state := by
    rw [same]
    rfl
  have before := account.supplied (stays ▸ mended)
  cases state : entry.before.state with
  | closed =>
      have socketless : entry.found.socketOpen = false := by
        rw [Bool.eq_false_iff]
        exact fun socket => account.rest.socket.mp socket state
      exact before.idle state socketless (by rw [same])
  | connected => exact before.within ⟨state, stays.symm.trans state⟩ (by rw [silent, same]; rfl)
  | connecting => exact absurd state account.rest.settled
  | broken => exact absurd (stays ▸ state) mended

theorem Account.emptied (account : Account past entry.before)
    (unread : entry.left.unread = entry.found.kept) : Supplied (past ++ [entry]) entry.left := by
  cases open_ : entry.found.socketOpen with
  | true => exact supplied_empty _ (by simp [unread, kept, open_])
  | false =>
      have closed : entry.before.state = .closed := by
        by_cases closed : entry.before.state = .closed
        · exact closed
        · have socket : entry.found.socketOpen = true := account.rest.socket.mpr closed
          cases open_.symm.trans socket
      have whole : entry.before.state ≠ .broken := by simp [closed]
      exact (account.supplied whole).idle closed open_ (by simp [unread, kept, open_])

theorem Account.supplied_next (account : Account past entry.before)
    (mended : entry.left.state ≠ .broken) : Supplied (past ++ [entry]) entry.left := by
  have comes := entry.comes account.rest
  generalize called : entry.call = call at comes
  generalize stepped : entry.step = step at comes
  have left : entry.left = step.link := congrArg Step.link stepped
  cases comes with
  | already _ => exact account.unchanged left (by simp [Entry.read, stepped]) mended
  | refused _ => exact account.unchanged left (by simp [Entry.read, stepped]) mended
  | opened _ => exact account.emptied (by rw [left])
  | unreached _ => exact supplied_empty _ (by rw [left])
  | closed => exact account.emptied (by rw [left])
  | unwritten _ _ => exact absurd (by rw [left]) mended
  | unanswered _ _ => exact absurd (by rw [left]) mended
  | answered open_ fits stream =>
      have connected : entry.before.state = .connected := open_
      have whole : entry.before.state ≠ .broken := by simp [connected]
      refine (account.supplied whole).within ⟨open_, by rw [left]; exact open_⟩ ?_
      simp [Entry.read, stepped, left, stream]

theorem not_connected_step (rest : entry.before.AtRest) (down : entry.before.state ≠ .connected)
    (unconnected : ¬ entry.Connects) : entry.left.state ≠ .connected := by
  have comes := entry.comes rest
  have found : entry.found.state ≠ .connected := down
  generalize called : entry.call = call at comes
  generalize stepped : entry.step = step at comes
  have left : entry.left = step.link := congrArg Step.link stepped
  rw [left]
  cases comes with
  | already open_ => exact found
  | opened _ => exact absurd (congrArg Step.value stepped) unconnected
  | unreached _ => simp
  | closed => simp
  | refused _ => exact found
  | unwritten open_ _ => simp
  | unanswered open_ _ => simp
  | answered open_ _ _ => exact found

theorem Entry.Breaks.breaks (breaks : entry.Breaks) (rest : entry.before.AtRest) :
    entry.left.state = .broken ∧ ∃ wording, entry.step.value = .answered (.error (.link wording)) := by
  rcases breaks with ⟨frame, trouble, error, called, open_, fits, failed⟩
  have comes := entry.comes rest
  rw [called] at comes
  exact comes.breaks open_ fits failed

theorem Account.next (account : Account past entry.before) :
    Account (past ++ [entry]) entry.left where
  rest := entry.left_rest account.rest
  supplied := account.supplied_next
  down := by
    intro older failed since split breaks unconnected
    rcases List.eq_nil_or_concat since with rfl | ⟨earlier, last, rfl⟩
    · obtain ⟨rfl, same⟩ := List.append_inj' split rfl
      cases same
      rw [(breaks.breaks account.rest).1]
      decide
    · rw [List.concat_eq_append] at split unconnected
      have whole : past ++ [entry] = (older ++ failed :: earlier) ++ [last] := by simpa using split
      obtain ⟨shorter, same⟩ := List.append_inj' whole rfl
      cases same
      have down := account.down older failed earlier shorter breaks fun other member =>
        unconnected other (List.mem_append_left _ member)
      exact not_connected_step account.rest down (unconnected entry (by simp))

theorem log_account {requests : List Request} (account : Account past link)
    (logged : link.log requests = before ++ entry :: after) :
    Account (past ++ before) entry.before := by
  induction requests generalizing past link before with
  | nil => simp [log] at logged
  | cons request requests ih =>
      cases before with
      | nil =>
          simp only [log, List.nil_append, List.cons.injEq] at logged
          obtain ⟨rfl, _⟩ := logged
          simpa using account
      | cons first before =>
          simp only [log, List.cons_append, List.cons.injEq] at logged
          obtain ⟨rfl, rest⟩ := logged
          simpa using ih account.next rest

def Entry.Refused (entry : Entry) : Prop :=
  entry.left = entry.found ∧ entry.step.wrote = [] ∧
    ∃ wording, entry.step.value = .answered (.error (.link wording))

/-- What holds of a call on a link, given the calls before it. -/
structure Lawful (before : List Entry) (entry : Entry) : Prop where
  rests : entry.left.state = .closed ∨ entry.left.state = .connected ∨ entry.left.state = .broken
  socket : entry.left.socketOpen = true ↔ entry.left.state ≠ .closed
  whole : ∀ frame trouble, entry.call = .transmit frame trouble →
    entry.step.wrote = relayFrame frame ∨
      entry.step.wrote = [] ∧ (entry.found.state ≠ .connected ∨ 65535 < frame.length ∨
        ∃ cause, trouble = some (.writing cause))
  refused : ∀ frame trouble, entry.call = .transmit frame trouble →
    entry.found.state ≠ .connected ∨ 65535 < frame.length → entry.Refused
  breaks : entry.Breaks →
    entry.left.state = .broken ∧ ∃ wording, entry.step.value = .answered (.error (.link wording))
  -- From a transmit that broke the link up to the next connect that succeeds.
  silent : ∀ older failed since, before = older ++ failed :: since → failed.Breaks →
    (∀ other ∈ since, ¬ other.Connects) → entry.step.wrote = [] ∧ entry.read = [] ∧
      ∀ frame trouble, entry.call = .transmit frame trouble → entry.Refused
  already : ∀ host port fault, entry.call = .connect host port fault →
    entry.found.state = .connected → entry.step = ⟨.connected true, entry.found, [], []⟩
  connects : ∀ host port fault, entry.call = .connect host port fault →
    entry.found.state ≠ .connected →
      (entry.Connects ∧ entry.left.state = .connected ∧ fault = none) ∨
      (entry.step.value = .connected false ∧ entry.left.state = .closed ∧ fault ≠ none)
  -- An answer stands in what arrived since the last connection ended, right behind the answers
  -- that this connection has brought before.
  answered : ∀ answer, entry.step.value = .answered (.ok answer) →
    ∃ older idle since, before = older ++ (idle ++ since) ∧
      (∀ other ∈ idle, other.found.socketOpen = false) ∧ (∀ other ∈ since, other.Within) ∧
      entry.Within ∧
      (idle ++ since ++ [entry]).flatMap (·.arrived) =
        since.flatMap Entry.read ++ relayFrame answer ++ entry.left.unread

theorem Account.refused (account : Account before entry.before) {frame : Bytes}
    {trouble : Option Trouble} (called : entry.call = .transmit frame trouble)
    (uncarried : entry.found.state ≠ .connected ∨ 65535 < frame.length) : entry.Refused := by
  have comes := entry.comes account.rest
  rw [called] at comes
  exact comes.refused_of_uncarried uncarried

theorem Account.silent (account : Account before entry.before)
    {older since : List Entry} {failed : Entry} (split : before = older ++ failed :: since)
    (breaks : failed.Breaks) (unconnected : ∀ other ∈ since, ¬ other.Connects) :
    entry.step.wrote = [] ∧ entry.read = [] ∧
      ∀ frame trouble, entry.call = .transmit frame trouble → entry.Refused := by
  have down : entry.found.state ≠ .connected :=
    account.down older failed since split breaks unconnected
  have silent := (entry.comes account.rest).silent down
  refine ⟨silent.1, ?_, fun frame trouble called => account.refused called (Or.inl down)⟩
  rw [Entry.read]
  split
  next answer answered => exact absurd answered (silent.2 answer)
  next => rfl

theorem Account.answered (account : Account before entry.before) {answer : Bytes}
    (value : entry.step.value = .answered (.ok answer)) :
    ∃ older idle since, before = older ++ (idle ++ since) ∧
      (∀ other ∈ idle, other.found.socketOpen = false) ∧ (∀ other ∈ since, other.Within) ∧
      entry.Within ∧
      (idle ++ since ++ [entry]).flatMap (·.arrived) =
        since.flatMap Entry.read ++ relayFrame answer ++ entry.left.unread := by
  have comes := entry.comes account.rest
  generalize called : entry.call = call at comes
  generalize stepped : entry.step = step at comes value
  have left : entry.left = step.link := congrArg Step.link stepped
  cases comes with
  | answered open_ fits stream =>
      cases value
      have connected : entry.before.state = .connected := open_
      rcases account.supplied (by simp [connected]) with
        ⟨older, idle, since, split, idled, within, _, supply⟩
      have unread : entry.before.unread ++ entry.arrived = relayFrame answer ++ entry.left.unread := by
        rw [left]
        exact stream
      refine ⟨older, idle, since, split, idled, within, ⟨open_, by rw [left]; exact open_⟩, ?_⟩
      calc (idle ++ since ++ [entry]).flatMap (·.arrived)
          = (idle ++ since).flatMap (·.arrived) ++ entry.arrived := by simp
        _ = since.flatMap Entry.read ++ (entry.before.unread ++ entry.arrived) := by
            rw [supply, List.append_assoc]
        _ = since.flatMap Entry.read ++ relayFrame answer ++ entry.left.unread := by
            rw [unread, List.append_assoc]
  | _ => cases value

theorem Account.lawful (account : Account before entry.before) : Lawful before entry where
  rests := by
    have settled := (entry.left_rest account.rest).settled
    cases state : entry.left.state with
    | connecting => exact absurd state settled
    | closed => exact Or.inl rfl
    | connected => exact Or.inr (Or.inl rfl)
    | broken => exact Or.inr (Or.inr rfl)
  socket := (entry.left_rest account.rest).socket
  whole := fun _ _ called => (called ▸ entry.comes account.rest).whole
  refused := fun _ _ => account.refused
  breaks := fun breaks => breaks.breaks account.rest
  silent := fun _ _ _ => account.silent
  already := fun _ _ _ called => (called ▸ entry.comes account.rest).reuses
  connects := fun _ _ _ called => (called ▸ entry.comes account.rest).connects
  answered := fun _ => account.answered

/-- Every call of a run on a fresh link is lawful, whatever is called, arrives or goes wrong. -/
theorem calls_lawful {requests : List Request} (logged : fresh.log requests = before ++ entry :: after) :
    Lawful before entry :=
  (log_account account_fresh logged).lawful

theorem late_answer_is_lost :
    ∃ before entry,
      fresh.log
          [⟨[], .connect (text "reader") 5000 none⟩, ⟨[], .transmit [1] none⟩,
            ⟨[0, 1, 9], .transmit [2] none⟩, ⟨[], .connect (text "reader") 5000 none⟩,
            ⟨[0, 1, 7], .transmit [3] none⟩] =
        before ++ entry :: [] ∧
      entry.step.value = .answered (.ok [7]) ∧ Lawful before entry := by
  have logged : fresh.log
      [⟨[], .connect (text "reader") 5000 none⟩, ⟨[], .transmit [1] none⟩,
        ⟨[0, 1, 9], .transmit [2] none⟩, ⟨[], .connect (text "reader") 5000 none⟩,
        ⟨[0, 1, 7], .transmit [3] none⟩] = [_, _, _, _] ++ _ :: [] := rfl
  exact ⟨_, _, logged, rfl, calls_lawful logged⟩

end

end CardVault.Link

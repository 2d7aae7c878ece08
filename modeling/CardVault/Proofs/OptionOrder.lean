import CardVault.Program
import CardVault.Proofs.OptionOrder.Setting
import CardVault.Proofs.ShellRun.Entries

/-!
The order of options. Every flag sets its own part of the options, so only the last value of each
counts, and pairs of different flags may change places. What is read without a complaint is enough to
open a session.
-/

namespace CardVault

variable {flag : Flag} {value : Text} {arguments others : List Text} {given regiven : List Given}

namespace Given

theorem last?_cons (flag : Flag) (one : Given) (given : List Given) :
    last? flag (one :: given) =
      (last? flag given).or (if one.flag = flag then some one.value else none) := by
  unfold last? of
  by_cases same : one.flag = flag
  · rw [List.filter_cons_of_pos (by simpa using same), List.map_cons, List.getLast?_cons,
      if_pos same]
    cases ((given.filter (·.flag = flag)).map (·.value)).getLast? <;> rfl
  · rw [List.filter_cons_of_neg (by simpa using same), if_neg same, Option.or_none]

theorem of_member {one : Given} : one ∈ given ↔ one.value ∈ of one.flag given := by
  unfold of
  constructor
  · intro member
    exact List.mem_map.mpr ⟨one, List.mem_filter.mpr ⟨member, by simp⟩, rfl⟩
  · intro member
    obtain ⟨other, among, same⟩ := List.mem_map.mp member
    obtain ⟨member, flags⟩ := List.mem_filter.mp among
    have equal : other = one := by
      cases other
      cases one
      simp_all
    exact equal ▸ member

theorem last?_member (last : last? flag given = some value) : ⟨flag, value⟩ ∈ given :=
  of_member.mpr (List.mem_of_getLast? last)

theorem Spelled.unique (spelled : Spelled arguments given) (respelled : Spelled arguments regiven) :
    given = regiven := by
  induction spelled generalizing regiven with
  | nil =>
      cases respelled
      rfl
  | cons known onward ih =>
      cases respelled with
      | cons knownToo onwardToo =>
          have same := Flag.parse?_eq_some_iff.mpr known
          rw [Flag.parse?_eq_some_iff.mpr knownToo] at same
          cases same
          rw [ih onwardToo]

theorem spelled_iff : ∀ arguments : List Text, (∃ given, Spelled arguments given) ↔
    arguments.length % 2 = 0 ∧ ∀ index spelling, arguments[2 * index]? = some spelling →
      ∃ flag : Flag, spelling ∈ flag.spellings
  | [] => ⟨fun _ => ⟨rfl, by simp⟩, fun _ => ⟨[], .nil⟩⟩
  | [_] => by
      constructor
      · rintro ⟨_, ⟨⟩⟩
      · rintro ⟨⟨⟩, _⟩
  | spelling :: value :: arguments => by
      constructor
      · rintro ⟨_, spelled⟩
        cases spelled with
        | cons known onward =>
            obtain ⟨even, flags⟩ := (spelled_iff arguments).mp ⟨_, onward⟩
            refine ⟨(Nat.add_mod_right _ _).trans even, fun index => ?_⟩
            cases index with
            | zero =>
                rintro _ ⟨⟩
                exact ⟨_, known⟩
            | succ index => exact flags index
      · rintro ⟨even, flags⟩
        obtain ⟨flag, known⟩ := flags 0 spelling rfl
        obtain ⟨given, onward⟩ := (spelled_iff arguments).mpr
          ⟨(Nat.add_mod_right _ _).symm.trans even, fun index => flags (index + 1)⟩
        exact ⟨_, .cons known onward⟩

end Given

namespace Options

variable {options before middle after first second : Options}

theorem Chosen.nil (options : Options) : Chosen options [] options where
  shows _ _ last := by cases last
  keeps flag _ := by cases flag <;> rfl
  unflagged := rfl

theorem Sets.chosen {one : Given} (sets : Sets before one.flag one.value middle)
    (chosen : Chosen middle given after) : Chosen before (one :: given) after where
  shows flag value last := by
    rw [Given.last?_cons] at last
    cases later : Given.last? flag given with
    | some found =>
        rw [later, Option.some_or] at last
        exact chosen.shows flag value (later.trans last)
    | none =>
        rw [later, Option.none_or] at last
        split at last
        · rename_i same
          cases last
          subst same
          exact sets.shows.of_alike (chosen.keeps _ later)
        · cases last
  keeps flag none := by
    rw [Given.last?_cons, Option.or_eq_none_iff] at none
    obtain ⟨later, other⟩ := none
    have differs : flag ≠ one.flag := by
      rintro rfl
      simp at other
    exact (chosen.keeps flag later).trans (sets.others flag differs)
  unflagged := chosen.unflagged.trans sets.unflagged

theorem Chosen.unique (front : Chosen before given first) (back : Chosen before given second) :
    first = second := by
  apply eq_of_alike
  · intro flag
    cases last : Given.last? flag given with
    | some value => exact (front.shows flag value last).alike (back.shows flag value last)
    | none => exact (front.keeps flag last).trans (back.keeps flag last).symm
  · exact front.unflagged.trans back.unflagged.symm

theorem Chosen.of_last (chosen : Chosen before given options)
    (same : ∀ flag, Given.last? flag given = Given.last? flag regiven) :
    Chosen before regiven options where
  shows flag value last := chosen.shows flag value ((same flag).trans last)
  keeps flag none := chosen.keeps flag ((same flag).trans none)
  unflagged := chosen.unflagged

theorem setAll_spelled (spelled : Given.Spelled arguments given) (accepted : Given.Accepted given)
    (before : Options) : ∃ after, before.setAll arguments = (after, none) ∧
      Chosen before given after := by
  induction spelled generalizing before with
  | nil => exact ⟨before, rfl, .nil before⟩
  | cons known onward ih =>
      obtain ⟨first, later⟩ := List.forall_mem_cons.mp accepted
      obtain ⟨middle, set⟩ := set?_of_accepts before first
      obtain ⟨after, all, chosen⟩ := ih later middle
      refine ⟨after, ?_, (set?_sets set).chosen chosen⟩
      simp only [setAll, Flag.parse?_eq_some_iff.mpr known, set, all]

theorem spelled_of_setAll : ∀ (arguments : List Text) (before : Options),
    arguments.length % 2 = 0 → (before.setAll arguments).2 = none →
    ∃ given, Given.Spelled arguments given ∧ Given.Accepted given
  | [], _, _, _ => ⟨[], .nil, by simp [Given.Accepted]⟩
  | [_], _, even, _ => by cases even
  | spelling :: value :: arguments, before, even, finished => by
      rw [setAll] at finished
      split at finished
      · cases finished
      · rename_i flag known
        split at finished
        · cases finished
        · rename_i middle set
          obtain ⟨given, spelled, accepted⟩ := spelled_of_setAll arguments middle
            ((Nat.add_mod_right _ _).symm.trans even) finished
          exact ⟨⟨flag, value⟩ :: given, .cons (Flag.parse?_eq_some_iff.mp known) spelled,
            List.forall_mem_cons.mpr ⟨(set?_sets set).accepts, accepted⟩⟩

theorem check_unflagged {settings : Settings}
    (usual : settings.unflagged = ({} : Settings).unflagged) :
    settings.check = .ok () ↔ 1 ≤ settings.chunkSize.toNat ∧ settings.chunkSize.toNat ≤ 255 := by
  constructor
  · exact fun accepted => Settings.check_chunkSize accepted
  · rintro ⟨positive, small⟩
    have sized : ¬ (settings.chunkSize = 0 ∨ settings.chunkSize > 255) := by
      rw [gt_iff_lt, UInt64.lt_iff_toNat_lt, ← UInt64.toNat_inj]
      change ¬ (settings.chunkSize.toNat = 0 ∨ 255 < settings.chunkSize.toNat)
      omega
    have username : settings.usernameWidth = 32 := congrArg Settings.usernameWidth usual
    have address : settings.addressWidth = 64 := congrArg Settings.addressWidth usual
    have message : settings.messageWidth = 32 := congrArg Settings.messageWidth usual
    have least : settings.leastSignature = 8 := congrArg Settings.leastSignature usual
    have most : settings.mostSignature = 72 := congrArg Settings.mostSignature usual
    rw [Settings.check, if_neg sized, username, address, message, least, most]
    simp

theorem lacking_iff (options : Options) : options.lacking = none ↔
    options.host ≠ [] ∧ options.port ≠ none ∧ options.keyPath ≠ [] ∧
      options.settings.check = .ok () := by
  rw [lacking]
  split
  · rename_i missing
    refine iff_of_false (by simp) ?_
    rintro ⟨host, port, key, _⟩
    exact missing.elim host fun others => others.elim port key
  · rename_i present
    simp only [not_or] at present
    obtain ⟨host, port, key⟩ := present
    split
    · rename_i accepted
      exact iff_of_true rfl ⟨host, port, key, accepted⟩
    · rename_i error refused
      refine iff_of_false (by simp) ?_
      rintro ⟨_, _, _, accepted⟩
      rw [refused] at accepted
      cases accepted

theorem filled_iff {text : Text} (unset : Given.last? flag given = none → text = [])
    (set : ∀ value, Given.last? flag given = some value → text = value) :
    text ≠ [] ↔ ∃ value, Given.last? flag given = some value ∧ value ≠ [] := by
  cases last : Given.last? flag given with
  | none => simp [unset last]
  | some value => simp [set value last]

namespace Chosen

variable (chosen : Chosen initial given options)
include chosen

theorem port_iff : options.port ≠ none ↔ ∃ value, Given.last? .port given = some value := by
  cases last : Given.last? .port given with
  | none =>
      have empty : options.port = none := chosen.keeps .port last
      simp [empty]
  | some value =>
      obtain ⟨port, named, _⟩ := chosen.shows .port value last
      simp [named]

theorem chunkSize_iff :
    (1 ≤ options.settings.chunkSize.toNat ∧ options.settings.chunkSize.toNat ≤ 255) ↔
      ∀ value, Given.last? .chunkSize given = some value → ∃ number, Numeral value number ∧
        1 ≤ number % UInt64.size ∧ number % UInt64.size ≤ 255 := by
  cases last : Given.last? .chunkSize given with
  | none =>
      have usual : options.settings.chunkSize = 200 := chosen.keeps .chunkSize last
      rw [usual]
      exact iff_of_true (by decide) (by simp)
  | some value =>
      obtain ⟨number, numeral, modulo⟩ := chosen.shows .chunkSize value last
      rw [← Int.ofNat_le, ← Int.ofNat_le, modulo]
      constructor
      · rintro ⟨positive, small⟩ _ ⟨⟩
        exact ⟨number, numeral, by omega, by omega⟩
      · intro sized
        obtain ⟨other, numeralToo, positive, small⟩ := sized value rfl
        rw [← numeral.unique numeralToo] at positive small
        omega

theorem lacking_iff : options.lacking = none ↔ Given.Complete given := by
  rw [Options.lacking_iff, check_unflagged chosen.unflagged, chosen.port_iff, chosen.chunkSize_iff,
    filled_iff (chosen.keeps .host) (chosen.shows .host),
    filled_iff (chosen.keeps .key) (chosen.shows .key)]
  constructor
  · rintro ⟨host, port, key, size⟩
    exact ⟨host, key, port, size⟩
  · rintro ⟨host, key, port, size⟩
    exact ⟨host, port, key, size⟩

end Chosen

structure Ready (options : Options) : Prop where
  port : ∃ port : UInt16, options.port = some port ∧ 1 ≤ port.toNat ∧ port.toNat ≤ 65535
  severity : ∃ severity, Severity.parse options.settings.logLevel = .ok severity
  accepted : options.settings.check = .ok ()
  session : ∀ hasSigner, ∃ session, Session.create options.settings hasSigner = .ok session
  /-- A program that has its key and its connection comes to talk to the card. -/
  converses : ∀ (surroundings : Program.Surroundings) key,
    SigningKey.load options.keyPath (surroundings.files.read options.keyPath) = .ok key →
      let step := (Link.fresh.deliver surroundings.inbound).connect options.host
        (options.port.getD 0) surroundings.connectFault
      step.value = true → ∃ session, Session.create options.settings true = .ok session ∧
        Program.start surroundings options =
          Program.converse surroundings key step.resolved step.link session

theorem parse_spelled (spelled : Given.Spelled arguments given)
    (accepted : Given.Accepted given) :
    ∃ options, Chosen initial given options ∧ parse arguments = (options, options.lacking) := by
  have even : ¬ arguments.length % 2 = 1 := by
    have even := (Given.spelled_iff arguments).mp ⟨given, spelled⟩ |>.1
    omega
  obtain ⟨options, set, chosen⟩ := setAll_spelled spelled accepted initial
  exact ⟨options, chosen, by rw [parse, if_neg even, set]⟩

theorem spelled_of_parse (valid : (parse arguments).2 = none) :
    ∃ given, Given.Spelled arguments given ∧ Given.Accepted given := by
  rw [parse] at valid
  split at valid
  · cases valid
  · rename_i even
    split at valid
    · cases valid
    · rename_i options set
      exact spelled_of_setAll arguments initial (by omega) (by rw [set])

/-- What valid arguments spell is accepted and complete, and the options are chosen from it. -/
structure Valid (arguments : List Text) (given : List Given) : Prop where
  accepted : Given.Accepted given
  complete : Given.Complete given
  chosen : Chosen initial given (parse arguments).1

theorem valid_of_parse (valid : (parse arguments).2 = none)
    (spelled : Given.Spelled arguments given) : Valid arguments given := by
  obtain ⟨found, spelledToo, accepted⟩ := spelled_of_parse valid
  obtain rfl := spelled.unique spelledToo
  obtain ⟨options, chosen, parsed⟩ := parse_spelled spelled accepted
  rw [parsed] at valid
  exact ⟨accepted, chosen.lacking_iff.mp valid, by rw [parsed]; exact chosen⟩

theorem parse_valid_iff : (parse arguments).2 = none ↔ ∃ given, Given.Spelled arguments given ∧
    Given.Accepted given ∧ Given.Complete given := by
  constructor
  · intro valid
    obtain ⟨given, spelled, _⟩ := spelled_of_parse valid
    have valid := valid_of_parse valid spelled
    exact ⟨given, spelled, valid.accepted, valid.complete⟩
  · rintro ⟨given, spelled, accepted, complete⟩
    obtain ⟨options, chosen, parsed⟩ := parse_spelled spelled accepted
    rw [parsed]
    exact chosen.lacking_iff.mpr complete

/-- Only the values of each flag count, in their order. -/
theorem parse_reordered (spelled : Given.Spelled arguments given)
    (respelled : Given.Spelled others regiven)
    (same : ∀ flag, Given.of flag given = Given.of flag regiven)
    (valid : (parse arguments).2 = none) : parse others = parse arguments := by
  obtain ⟨accepted, complete, chosen⟩ := valid_of_parse valid spelled
  have reaccepted : Given.Accepted regiven := by
    intro one member
    apply accepted one
    rw [Given.of_member, same]
    exact Given.of_member.mp member
  obtain ⟨options, rechosen, parsed⟩ := parse_spelled respelled reaccepted
  have unmoved : options = (parse arguments).1 :=
    rechosen.unique (chosen.of_last fun flag => congrArg List.getLast? (same flag))
  rw [parsed, unmoved, chosen.lacking_iff.mpr complete, ← valid]

namespace Valid

variable (valid : Valid arguments given)
include valid

theorem port_ready : ∃ port : UInt16, (parse arguments).1.port = some port ∧ 1 ≤ port.toNat ∧
    port.toNat ≤ 65535 := by
  obtain ⟨value, last⟩ := valid.complete.port
  obtain ⟨port, named, numeral⟩ := valid.chosen.shows .port value last
  have bound := port.toNat_lt
  refine ⟨port, named, ?_, by omega⟩
  cases valid.accepted _ (Given.last?_member last) with
  | port written least most =>
      rw [← numeral.unique written] at least
      omega

theorem severity_ready :
    ∃ severity, Severity.parse (parse arguments).1.settings.logLevel = .ok severity := by
  have named : ∃ severity : Severity, severity.name = (parse arguments).1.settings.logLevel := by
    cases last : Given.last? .logLevel given with
    | none => exact ⟨.info, (valid.chosen.keeps .logLevel last).symm⟩
    | some value =>
        have shows : (parse arguments).1.settings.logLevel = value :=
          valid.chosen.shows .logLevel value last
        rw [shows]
        cases valid.accepted _ (Given.last?_member last) with
        | logLevel severity => exact ⟨severity, rfl⟩
  obtain ⟨severity, named⟩ := named
  exact ⟨severity, Shell.ok_of_toOption (Severity.parse_eq_some_iff.mpr named)⟩

theorem ready : (parse arguments).1.Ready := by
  have accepted : (parse arguments).1.settings.check = .ok () :=
    ((lacking_iff _).mp (valid.chosen.lacking_iff.mpr valid.complete)).2.2.2
  have session (hasSigner : Bool) :
      ∃ session, Session.create (parse arguments).1.settings hasSigner = .ok session :=
    ⟨_, Session.create_of_check accepted hasSigner⟩
  refine ⟨valid.port_ready, valid.severity_ready, accepted, session, ?_⟩
  intro surroundings key loaded step connected
  obtain ⟨opened, created⟩ := session true
  refine ⟨opened, created, ?_⟩
  rw [Program.start, loaded]
  simp only [created]
  exact if_pos connected

end Valid

end Options

structure Options.Governed (arguments : List Text) : Prop where
  spelled : (∃ given, Given.Spelled arguments given) ↔ arguments.length % 2 = 0 ∧
    ∀ index spelling, arguments[2 * index]? = some spelling →
      ∃ flag : Flag, spelling ∈ flag.spellings
  valid : (parse arguments).2 = none ↔ ∃ given, Given.Spelled arguments given ∧
    Given.Accepted given ∧ Given.Complete given
  /-- Valid options are the last value of each flag, and what they were before where it has none. -/
  chosen : (parse arguments).2 = none → ∀ given, Given.Spelled arguments given →
    ∀ options, Chosen initial given options ↔ options = (parse arguments).1
  /-- Spelling does not matter, nor the order but for the values of one flag. -/
  reordered : ∀ others given regiven, Given.Spelled arguments given →
    Given.Spelled others regiven → (∀ flag, Given.of flag given = Given.of flag regiven) →
      ((parse arguments).2 = none ↔ (parse others).2 = none) ∧
        ((parse arguments).2 = none → parse others = parse arguments)
  ready : (parse arguments).2 = none → (parse arguments).1.Ready

/-- Options do not depend on the order of the arguments but for the values of one flag, of which the
last one counts; and valid options are enough to go on. -/
theorem options_governed (arguments : List Text) : Options.Governed arguments where
  spelled := Given.spelled_iff arguments
  valid := Options.parse_valid_iff
  chosen valid given spelled options := by
    have chosen := (Options.valid_of_parse valid spelled).chosen
    constructor
    · exact fun other => other.unique chosen
    · rintro rfl
      exact chosen
  reordered others given regiven spelled respelled same := by
    refine ⟨⟨?_, ?_⟩, Options.parse_reordered spelled respelled same⟩
    · intro valid
      rw [Options.parse_reordered spelled respelled same valid]
      exact valid
    · intro valid
      rw [Options.parse_reordered respelled spelled (fun flag => (same flag).symm) valid]
      exact valid
  ready valid := by
    obtain ⟨given, spelled, _⟩ := Options.spelled_of_parse valid
    exact (Options.valid_of_parse valid spelled).ready

theorem last_of_repeated_flags_counts :
    let arguments := ["-p", "1", "--host", "h", "-k", "key.pem", "-c", "0", "--port", "+080x",
      "--chunk-size", "-18446744073709551416"].map text
    let others := ["-c", "0", "--key", "key.pem", "-c", "-18446744073709551416", "-h", "h",
      "-p", "1", "-p", "+080x"].map text
    Options.parse arguments = (⟨text "h", some 80, text "key.pem", {}⟩, none) ∧
      Options.parse others = Options.parse arguments ∧ (Options.parse arguments).1.Ready := by
  intro arguments others
  have parsed : Options.parse arguments = (⟨text "h", some 80, text "key.pem", {}⟩, none) := by
    decide +kernel
  have spelled : Given.Spelled arguments [⟨.port, text "1"⟩, ⟨.host, text "h"⟩,
      ⟨.key, text "key.pem"⟩, ⟨.chunkSize, text "0"⟩, ⟨.port, text "+080x"⟩,
      ⟨.chunkSize, text "-18446744073709551416"⟩] :=
    .cons (by decide) (.cons (by decide) (.cons (by decide) (.cons (by decide)
      (.cons (by decide) (.cons (by decide) .nil)))))
  have respelled : Given.Spelled others [⟨.chunkSize, text "0"⟩, ⟨.key, text "key.pem"⟩,
      ⟨.chunkSize, text "-18446744073709551416"⟩, ⟨.host, text "h"⟩, ⟨.port, text "1"⟩,
      ⟨.port, text "+080x"⟩] :=
    .cons (by decide) (.cons (by decide) (.cons (by decide) (.cons (by decide)
      (.cons (by decide) (.cons (by decide) .nil)))))
  have governed := options_governed arguments
  have valid : (Options.parse arguments).2 = none := by rw [parsed]
  have same := (governed.reordered others _ _ spelled respelled
    (by rintro (_ | _ | _ | _ | _ | _ | _ | _) <;> decide)).2 valid
  exact ⟨parsed, same, governed.ready valid⟩

end CardVault

import CardVault.Options.Given
import CardVault.Proofs.LineGrammar

/-!
Numerals as they are written and as they are read. An argument writes at most one number, and that is
the one that is read.
-/

namespace CardVault

section

variable {argument body digits gap rest : Text} {number other : Int}

theorem Digits.takeWhile (counts : Digits body digits) : body.takeWhile Text.isDigit = digits := by
  obtain ⟨rest, rfl, stops⟩ := counts.cut
  have ended : rest.takeWhile Text.isDigit = [] := by
    cases rest with
    | nil => rfl
    | cons byte rest => exact List.takeWhile_cons_of_neg (by simp [stops byte rfl])
  rw [List.takeWhile_append_of_pos counts.decimal, ended, List.append_nil]

theorem digits_of_takeWhile (filled : body.takeWhile Text.isDigit ≠ []) :
    Digits body (body.takeWhile Text.isDigit) where
  filled := filled
  decimal _ member := List.mem_takeWhile_imp member
  cut := by
    refine ⟨body.dropWhile Text.isDigit, List.takeWhile_append_dropWhile.symm, ?_⟩
    intro byte first
    have stops := List.head?_dropWhile_not Text.isDigit body
    rwa [first] at stops

theorem Digits.head (counts : Digits body digits) :
    ∃ byte others, body = byte :: others ∧ Text.isDigit byte = true := by
  obtain ⟨rest, rfl, _⟩ := counts.cut
  cases digits with
  | nil => exact absurd rfl counts.filled
  | cons byte others => exact ⟨byte, others ++ rest, rfl, counts.decimal byte List.mem_cons_self⟩

theorem isDigit_bounds {byte : UInt8} (digit : Text.isDigit byte = true) :
    48 ≤ byte.toNat ∧ byte.toNat ≤ 57 := by
  simpa [Text.isDigit, UInt8.le_iff_toNat_le] using digit

theorem digit_not_blank {byte : UInt8} (digit : Text.isDigit byte = true) :
    Text.isBlank byte = false := by
  have bounds := isDigit_bounds digit
  simp only [Text.isBlank, Bool.or_eq_false_iff, beq_eq_false_iff_ne, Bool.and_eq_false_iff,
    decide_eq_false_iff_not, UInt8.le_iff_toNat_le, ne_eq, ← UInt8.toNat_inj]
  constructor
  · change byte.toNat ≠ 32
    omega
  · right
    change ¬ byte.toNat ≤ 13
    omega

namespace Written

def value (written : Written) : Int :=
  if written.negative then -written.magnitude else written.magnitude

theorem ofDigits?_counts (counts : Digits body digits) (negative : Bool) :
    ofDigits? negative body = some ⟨negative, magnitudeOf digits⟩ := by
  rw [ofDigits?, counts.takeWhile]
  split
  · exact absurd rfl counts.filled
  · rfl

theorem counts_of_ofDigits? {negative : Bool} {written : Written}
    (given : ofDigits? negative body = some written) :
    ∃ digits, Digits body digits ∧ written = ⟨negative, magnitudeOf digits⟩ := by
  rw [ofDigits?] at given
  split at given
  · cases given
  · rename_i filled
    cases given
    exact ⟨_, digits_of_takeWhile filled, rfl⟩

theorem numeral_of_parse? {written : Written} (given : parse? argument = some written) :
    Numeral argument written.value := by
  obtain ⟨gap, blank, cut⟩ := Shell.blank_skipped argument
  rw [parse?] at given
  split at given
  · rename_i body skipped
    obtain ⟨digits, counts, rfl⟩ := counts_of_ofDigits? given
    rw [cut, skipped]
    exact .minus blank counts
  · rename_i body skipped
    obtain ⟨digits, counts, rfl⟩ := counts_of_ofDigits? given
    rw [cut, skipped]
    exact .plus blank counts
  · obtain ⟨digits, counts, rfl⟩ := counts_of_ofDigits? given
    rw [cut]
    exact .unsigned blank counts

theorem parse?_of_numeral (numeral : Numeral argument number) :
    ∃ written, parse? argument = some written ∧ written.value = number := by
  cases numeral with
  | @unsigned gap body digits blank counts =>
      obtain ⟨byte, others, rfl, digit⟩ := counts.head
      have solid : ∀ first, (byte :: others).head? = some first → Text.isBlank first = false := by
        rintro first ⟨⟩
        exact digit_not_blank digit
      refine ⟨⟨false, magnitudeOf digits⟩, ?_, rfl⟩
      rw [parse?, Shell.skipBlanks_blank blank, Shell.skipBlanks_solid solid]
      split
      · rename_i same
        cases same
        exact absurd digit (by decide)
      · rename_i same
        cases same
        exact absurd digit (by decide)
      · exact ofDigits?_counts counts false
  | @plus gap body digits blank counts =>
      refine ⟨⟨false, magnitudeOf digits⟩, ?_, rfl⟩
      rw [parse?, Shell.skipBlanks_blank blank, Shell.skipBlanks_solid (by rintro _ ⟨⟩; rfl)]
      exact ofDigits?_counts counts false
  | @minus gap body digits blank counts =>
      refine ⟨⟨true, magnitudeOf digits⟩, ?_, rfl⟩
      rw [parse?, Shell.skipBlanks_blank blank, Shell.skipBlanks_solid (by rintro _ ⟨⟩; rfl)]
      exact ofDigits?_counts counts true

end Written

theorem Numeral.unique (first : Numeral argument number) (second : Numeral argument other) :
    number = other := by
  obtain ⟨written, reads, rfl⟩ := Written.parse?_of_numeral first
  obtain ⟨_, readsToo, rfl⟩ := Written.parse?_of_numeral second
  rw [reads] at readsToo
  cases readsToo
  rfl

end

/-!
What one flag sets. It shows its value, where the flag accepts it, and touches nothing that belongs to
another flag; so options are known by what they show of each flag.
-/

section

variable {flag other : Flag} {value spelling : Text} {options changed first second third : Options}

theorem Flag.parse?_eq_some_iff : Flag.parse? spelling = some flag ↔ spelling ∈ flag.spellings := by
  constructor
  · intro known
    simpa using List.find?_some known
  · intro member
    cases flag <;> simp only [Flag.spellings, List.mem_cons, List.not_mem_nil, or_false] at member
    all_goals rcases member with rfl | rfl <;> decide

namespace Written

theorem port?_eq_some_iff {written : Written} {port : UInt16} :
    written.port? = some port ↔ written.value = port.toNat ∧ 1 ≤ port.toNat := by
  have bound := port.toNat_lt
  constructor
  · intro given
    rw [port?] at given
    split at given
    · rename_i inside
      obtain ⟨unsigned, positive, small⟩ := inside
      cases given
      have size : (UInt16.ofNat written.magnitude).toNat = written.magnitude := by
        rw [UInt16.toNat_ofNat']
        omega
      rw [size, value, unsigned]
      exact ⟨rfl, positive⟩
    · cases given
  · rintro ⟨same, positive⟩
    rw [value] at same
    have unsigned : written.negative = false := by
      cases negative : written.negative with
      | false => rfl
      | true =>
          rw [if_pos negative] at same
          omega
    rw [unsigned, if_neg (by simp)] at same
    have magnitude : written.magnitude = port.toNat := by omega
    rw [port?, if_pos ⟨unsigned, by omega, by omega⟩, magnitude, UInt16.ofNat_toNat]

theorem size_modulo {written : Written} (bounded : written.magnitude < UInt64.size) :
    let size := UInt64.ofNat written.magnitude
    (((if written.negative then 0 - size else size).toNat : Nat) : Int) =
      written.value % UInt64.size := by
  intro size
  simp only [UInt64.size] at bounded ⊢
  have same : size.toNat = written.magnitude := by
    rw [UInt64.toNat_ofNat']
    omega
  rw [value]
  cases written.negative with
  | false =>
      simp only [Bool.false_eq_true, ↓reduceIte, same]
      omega
  | true =>
      simp only [↓reduceIte, UInt64.toNat_sub, same, UInt64.toNat_zero]
      omega

theorem size?_eq_some_iff {written : Written} {size : UInt64} :
    written.size? = some size ↔
      written.magnitude < UInt64.size ∧ (size.toNat : Int) = written.value % UInt64.size := by
  rw [size?]
  by_cases bounded : written.magnitude < UInt64.size
  · rw [if_pos bounded, ← size_modulo bounded, Option.some_inj, Int.natCast_inj, UInt64.toNat_inj,
      eq_comm]
    exact (and_iff_right bounded).symm
  · rw [if_neg bounded]
    exact iff_of_false (by simp) fun both => bounded both.1

theorem natAbs_value (written : Written) : written.value.natAbs = written.magnitude := by
  rw [value]
  split <;> simp

end Written

theorem find?_named_iff {α : Type} (all : List α) {name : α → Text} {one : α}
    (listed : ∀ one, one ∈ all) (distinct : ∀ one two, name one = name two → one = two) :
    all.find? (name · = value) = some one ↔ name one = value := by
  constructor
  · intro found
    simpa using List.find?_some found
  · rintro rfl
    cases found : all.find? (name · = name one) with
    | none => simpa using List.find?_eq_none.mp found one (listed one)
    | some two =>
        have same : name two = name one := by simpa using List.find?_some found
        rw [distinct _ _ same]

theorem DigestPolicy.parse_eq_some_iff {policy : DigestPolicy} :
    (DigestPolicy.parse value).toOption = some policy ↔ policy.name = value := by
  rw [← find?_named_iff [message, sha256] (by rintro (_ | _) <;> decide)
    (by rintro (_ | _) (_ | _) <;> decide), DigestPolicy.parse]
  split <;> rename_i found <;> rw [found] <;> simp [Except.toOption]

theorem IdentityEncoding.parse_eq_some_iff {encoding : IdentityEncoding} :
    (IdentityEncoding.parse value).toOption = some encoding ↔ encoding.name = value := by
  rw [← find?_named_iff [pad, sha256] (by rintro (_ | _) <;> decide)
    (by rintro (_ | _) (_ | _) <;> decide), IdentityEncoding.parse]
  split <;> rename_i found <;> rw [found] <;> simp [Except.toOption]

theorem Severity.parse_eq_some_iff {severity : Severity} :
    (Severity.parse value).toOption = some severity ↔ severity.name = value := by
  have listed (one : Severity) : one ∈ all := by cases one <;> decide
  have distinct (one two : Severity) : one.name = two.name → one = two := by
    cases one <;> cases two <;> decide
  rw [← find?_named_iff all listed distinct, Severity.parse]
  split <;> rename_i found <;> rw [found] <;> simp [Except.toOption]

namespace Options

/-- One flag is set to a value that it accepts, and all else is as it was. -/
structure Sets (before : Options) (flag : Flag) (value : Text) (after : Options) : Prop where
  accepts : flag.Accepts value
  shows : after.Shows flag value
  others : ∀ other, other ≠ flag → after.Alike before other
  unflagged : after.settings.unflagged = before.settings.unflagged

theorem set?_others (sets : options.set? flag value = some changed) (differs : other ≠ flag) :
    changed.Alike options other := by
  cases flag with
  | host | key | logFile =>
      cases sets
      cases other <;> first | rfl | exact absurd rfl differs
  | port | chunkSize | digest | identity | logLevel =>
      obtain ⟨_, _, rfl⟩ := Option.map_eq_some_iff.mp sets
      cases other <;> first | rfl | exact absurd rfl differs

theorem set?_unflagged (sets : options.set? flag value = some changed) :
    changed.settings.unflagged = options.settings.unflagged := by
  cases flag with
  | host | key | logFile =>
      cases sets
      rfl
  | port | chunkSize | digest | identity | logLevel =>
      obtain ⟨_, _, rfl⟩ := Option.map_eq_some_iff.mp sets
      rfl

theorem set?_sets (sets : options.set? flag value = some changed) :
    Sets options flag value changed := by
  have others : ∀ other, other ≠ flag → changed.Alike options other := fun _ => set?_others sets
  have unflagged := set?_unflagged sets
  cases flag with
  | host =>
      cases sets
      exact ⟨.host value, rfl, others, unflagged⟩
  | key =>
      cases sets
      exact ⟨.key value, rfl, others, unflagged⟩
  | logFile =>
      cases sets
      exact ⟨.logFile value, rfl, others, unflagged⟩
  | port =>
      obtain ⟨port, given, rfl⟩ := Option.map_eq_some_iff.mp sets
      obtain ⟨written, reads, names⟩ := Option.bind_eq_some_iff.mp given
      obtain ⟨same, least⟩ := Written.port?_eq_some_iff.mp names
      have numeral := Written.numeral_of_parse? reads
      have bound := port.toNat_lt
      rw [same] at numeral
      exact ⟨.port numeral (by omega) (by omega), ⟨port, rfl, numeral⟩, others, unflagged⟩
  | chunkSize =>
      obtain ⟨size, given, rfl⟩ := Option.map_eq_some_iff.mp sets
      obtain ⟨written, reads, names⟩ := Option.bind_eq_some_iff.mp given
      obtain ⟨bounded, modulo⟩ := Written.size?_eq_some_iff.mp names
      have numeral := Written.numeral_of_parse? reads
      rw [← written.natAbs_value] at bounded
      exact ⟨.chunkSize numeral bounded, ⟨_, numeral, modulo⟩, others, unflagged⟩
  | digest =>
      obtain ⟨policy, given, rfl⟩ := Option.map_eq_some_iff.mp sets
      obtain rfl := DigestPolicy.parse_eq_some_iff.mp given
      exact ⟨.digest policy, rfl, others, unflagged⟩
  | identity =>
      obtain ⟨encoding, given, rfl⟩ := Option.map_eq_some_iff.mp sets
      obtain rfl := IdentityEncoding.parse_eq_some_iff.mp given
      exact ⟨.identity encoding, rfl, others, unflagged⟩
  | logLevel =>
      obtain ⟨severity, given, rfl⟩ := Option.map_eq_some_iff.mp sets
      obtain rfl := Severity.parse_eq_some_iff.mp given
      exact ⟨.logLevel severity, rfl, others, unflagged⟩

theorem set?_of_accepts (options : Options) (accepts : flag.Accepts value) :
    ∃ changed, options.set? flag value = some changed := by
  suffices given : (options.set? flag value).isSome = true from Option.isSome_iff_exists.mp given
  cases accepts with
  | host | key | logFile => rfl
  | port numeral least most =>
      obtain ⟨written, reads, rfl⟩ := Written.parse?_of_numeral numeral
      have size : (UInt16.ofNat written.value.toNat).toNat = written.value.toNat := by
        rw [UInt16.toNat_ofNat']
        omega
      have names : written.port? = some (UInt16.ofNat written.value.toNat) :=
        Written.port?_eq_some_iff.mpr ⟨by omega, by omega⟩
      rw [set?, reads, Option.bind_some, names]
      rfl
  | chunkSize numeral bounded =>
      obtain ⟨written, reads, rfl⟩ := Written.parse?_of_numeral numeral
      rw [written.natAbs_value] at bounded
      rw [set?, reads, Option.bind_some, Written.size?, if_pos bounded]
      rfl
  | digest policy =>
      rw [set?, DigestPolicy.parse_eq_some_iff.mpr rfl]
      rfl
  | identity encoding =>
      rw [set?, IdentityEncoding.parse_eq_some_iff.mpr rfl]
      rfl
  | logLevel severity =>
      rw [set?, Severity.parse_eq_some_iff.mpr rfl]
      rfl

theorem Alike.trans (front : first.Alike second flag) (back : second.Alike third flag) :
    first.Alike third flag := by
  cases flag <;> exact Eq.trans front back

theorem Alike.symm (alike : first.Alike second flag) : second.Alike first flag := by
  cases flag <;> exact Eq.symm alike

theorem Shows.of_alike (shows : second.Shows flag value) (alike : first.Alike second flag) :
    first.Shows flag value := by
  cases flag with
  | host | key | logLevel | logFile => exact Eq.trans alike shows
  | port =>
      obtain ⟨port, named, numeral⟩ := shows
      exact ⟨port, Eq.trans alike named, numeral⟩
  | chunkSize =>
      obtain ⟨number, numeral, modulo⟩ := shows
      exact ⟨number, numeral, (congrArg (fun size : UInt64 => (size.toNat : Int)) alike).trans modulo⟩
  | digest => exact (congrArg DigestPolicy.name alike).trans shows
  | identity => exact (congrArg IdentityEncoding.name alike).trans shows

theorem Shows.alike (front : first.Shows flag value) (back : second.Shows flag value) :
    first.Alike second flag := by
  cases flag with
  | host | key | logLevel | logFile => exact Eq.trans front (Eq.symm back)
  | port =>
      obtain ⟨port, named, numeral⟩ := front
      obtain ⟨other, namedToo, numeralToo⟩ := back
      have same : port = other :=
        UInt16.toNat_inj.mp (Int.natCast_inj.mp (numeral.unique numeralToo))
      exact named.trans (same ▸ namedToo.symm)
  | chunkSize =>
      obtain ⟨number, numeral, modulo⟩ := front
      obtain ⟨other, numeralToo, moduloToo⟩ := back
      rw [numeral.unique numeralToo, ← moduloToo] at modulo
      exact UInt64.toNat_inj.mp (Int.natCast_inj.mp modulo)
  | digest =>
      have found := DigestPolicy.parse_eq_some_iff.mpr front
      rw [DigestPolicy.parse_eq_some_iff.mpr back] at found
      exact (Option.some_inj.mp found).symm
  | identity =>
      have found := IdentityEncoding.parse_eq_some_iff.mpr front
      rw [IdentityEncoding.parse_eq_some_iff.mpr back] at found
      exact (Option.some_inj.mp found).symm

theorem eq_of_alike (alike : ∀ flag, first.Alike second flag)
    (unflagged : first.settings.unflagged = second.settings.unflagged) : first = second := by
  have host : first.host = second.host := alike .host
  have port : first.port = second.port := alike .port
  have key : first.keyPath = second.keyPath := alike .key
  have size : first.settings.chunkSize = second.settings.chunkSize := alike .chunkSize
  have policy : first.settings.digestPolicy = second.settings.digestPolicy := alike .digest
  have encoding : first.settings.identityEncoding = second.settings.identityEncoding :=
    alike .identity
  have level : first.settings.logLevel = second.settings.logLevel := alike .logLevel
  have file : first.settings.logFile = second.settings.logFile := alike .logFile
  rcases first with ⟨_, _, _, ⟨⟩⟩
  rcases second with ⟨_, _, _, ⟨⟩⟩
  simp only [Settings.unflagged, Settings.mk.injEq] at unflagged
  simp_all

end Options

end

end CardVault

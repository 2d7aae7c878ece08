/-!
Bytes, and texts as bytes. User names, addresses, file names and error texts come from outside and
need be neither valid UTF-8 nor free of NUL, so a text here is the list of its bytes and its length
is counted in bytes.
-/

namespace CardVault

abbrev Bytes := List UInt8

abbrev Text := Bytes

def text (characters : String) : Text :=
  characters.toList.flatMap String.utf8EncodeChar

namespace Text

def newline : Text := [10]

def decimal (number : Nat) : Text :=
  text (toString number)

def hexDigit (digit : Nat) : UInt8 :=
  UInt8.ofNat (if digit < 10 then 48 + digit else 55 + digit)

def hexWord (word : UInt16) : Text :=
  [word.toNat / 4096 % 16, word.toNat / 256 % 16, word.toNat / 16 % 16, word.toNat % 16].map hexDigit

/-- Space, tab, line feed, vertical tab, form feed and carriage return separate words. -/
def isBlank (byte : UInt8) : Bool :=
  byte == 32 || (9 ≤ byte && byte ≤ 13)

def isDigit (byte : UInt8) : Bool :=
  48 ≤ byte && byte ≤ 57

def skipBlanks (line : Text) : Text :=
  line.dropWhile isBlank

/-- The bytes before the first NUL, where the outside world ends a text. -/
def untilNul (bytes : Text) : Text :=
  bytes.takeWhile (· != 0)

/-- The lines of a text. A newline ends a line, so no line follows the last newline, and a last
line without one counts. -/
def lines : Text → List Text
  | [] => []
  | byte :: rest =>
      if byte = 10 then [] :: lines rest
      else match lines rest with
        | [] => [[byte]]
        | line :: others => (byte :: line) :: others

end Text

/-- Consecutive slices of `size` bytes, the last one with what is left. -/
def slices (size : Nat) : Bytes → List Bytes
  | [] => []
  | byte :: rest => (byte :: rest.take (size - 1)) :: slices size (rest.drop (size - 1))
termination_by bytes => bytes.length
decreasing_by
  simp only [List.length_drop, List.length_cons]
  omega

theorem slices_flatten (size : Nat) (bytes : Bytes) : (slices size bytes).flatten = bytes := by
  fun_induction slices size bytes with
  | case1 => rfl
  | case2 byte rest ih => simp [ih]

theorem slices_bounded (size : Nat) (positive : 0 < size) (bytes slice : Bytes)
    (member : slice ∈ slices size bytes) : 0 < slice.length ∧ slice.length ≤ size := by
  fun_induction slices size bytes with
  | case1 => simp at member
  | case2 byte rest ih =>
      rcases List.mem_cons.mp member with same | later
      · subst same
        simp only [List.length_cons, List.length_take]
        omega
      · exact ih later

theorem slices_append (size : Nat) (positive : 0 < size) (first second : Bytes)
    (whole : size ∣ first.length) :
    slices size (first ++ second) = slices size first ++ slices size second := by
  fun_induction slices size first with
  | case1 => rfl
  | case2 byte rest ih =>
      rw [List.length_cons] at whole
      have enough : size - 1 ≤ rest.length := by
        have least := Nat.le_of_dvd (Nat.succ_pos _) whole
        omega
      have left : (rest.drop (size - 1)).length = rest.length + 1 - size := by
        rw [List.length_drop]
        omega
      have wholly : size ∣ (rest.drop (size - 1)).length := by
        rw [left]
        exact Nat.dvd_sub whole (Nat.dvd_refl size)
      rw [List.cons_append, slices, List.take_append_of_le_length enough,
        List.drop_append_of_le_length enough, ih wholly, List.cons_append]

theorem slices_length (size : Nat) (positive : 0 < size) (bytes : Bytes) :
    (slices size bytes).length = (bytes.length + size - 1) / size := by
  fun_induction slices size bytes with
  | case1 => simp [Nat.div_eq_of_lt (Nat.sub_lt positive Nat.one_pos)]
  | case2 byte rest ih =>
      rw [List.length_cons, List.length_cons, ih, List.length_drop]
      by_cases last : rest.length < size
      · have none : rest.length - (size - 1) + size - 1 < size := by omega
        have one : rest.length + 1 + size - 1 = size + rest.length := by omega
        rw [Nat.div_eq_of_lt none, one, Nat.add_div_left _ positive, Nat.div_eq_of_lt last]
      · have more : rest.length + 1 + size - 1 =
            rest.length - (size - 1) + size - 1 + size := by omega
        rw [more, Nat.add_div_right _ positive]

theorem slices_full (size : Nat) (positive : 0 < size) (bytes slice : Bytes)
    (member : slice ∈ (slices size bytes).dropLast) : slice.length = size := by
  fun_induction slices size bytes with
  | case1 => simp at member
  | case2 byte rest ih =>
      cases others : slices size (rest.drop (size - 1)) with
      | nil => simp [others] at member
      | cons second more =>
          rw [others, List.dropLast_cons_cons] at member
          rcases List.mem_cons.mp member with same | later
          · -- Something is left after this slice, so the slice is full.
            have left : rest.drop (size - 1) ≠ [] := by
              intro empty
              rw [empty, slices] at others
              cases others
            have long : size - 1 < rest.length := by
              simpa using left
            subst same
            simp only [List.length_cons, List.length_take]
            omega
          · apply ih
            rw [others]
            exact later

end CardVault

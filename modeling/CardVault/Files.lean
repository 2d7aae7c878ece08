import CardVault.Text

/-!
The files of one directory, which are all the files that a shell or a key can be asked for. A name
ends at its first NUL. A path may lead through directories before it names a file; of directories
other than the one with the files nothing is known but that they are there, and that among the devices
there are some that take everything and never hold anything. Which these are is told by the places
that come with the files.
-/

namespace CardVault

-- The directories at the top are those that a path can pass, without the one that holds the devices.
structure Places where
  directories : List Text
  devices : Text
  drains : List Text
deriving DecidableEq, Repr

structure Files where
  places : Places
  entries : List (Text × Bytes)
deriving DecidableEq, Repr

def Files.empty : Files :=
  ⟨⟨[], [], []⟩, []⟩

/-- What comes of opening a path to read from it. -/
inductive Opened where
  | absent
  | directory
  | content (bytes : Bytes)
deriving DecidableEq, Repr

namespace Files

def parts : Text → List Text
  | [] => [[]]
  | byte :: rest =>
      match parts rest with
      | part :: others => if byte = 47 then [] :: part :: others else (byte :: part) :: others
      | [] => [[byte]]

/-- Where a path leads: to a directory, to a name in the directory with the files, or to a device that
is always empty. -/
inductive Location where
  | directory
  | name (name : Text)
  | drain
deriving DecidableEq, Repr

/-- The directories that a path can pass: the one with the files, the one that holds all others, the
one with the devices, and any other. -/
inductive Passed where
  | home
  | root
  | devices
  | elsewhere
deriving DecidableEq, Repr

def follow? (places : Places) (passed : Passed) : List Text → Option Location
  | [] => some .directory
  | part :: others =>
      if part = [] ∨ part = text "." then follow? places passed others
      else if part = text ".." then
        follow? places (if passed = .root ∨ passed = .devices then .root else .elsewhere) others
      else match passed with
        | .home => if others = [] ∧ part.length ≤ 255 then some (.name part) else none
        | .root =>
            if part = places.devices then follow? places .devices others
            else if part ∈ places.directories then follow? places .elsewhere others
            else none
        | .devices => if others = [] ∧ part ∈ places.drains then some .drain else none
        | .elsewhere => none

def locate? (places : Places) (path : Text) : Option Location :=
  let ended := Text.untilNul path
  if ended = [] ∨ ended.length ≥ 4096 then none
  else follow? places (if ended.head? = some 47 then .root else .home) (parts ended)

def read (files : Files) (path : Text) : Opened :=
  match locate? files.places path with
  | none => .absent
  | some .directory => .directory
  | some (.name name) =>
      match files.entries.lookup name with
      | some bytes => .content bytes
      | none => .absent
  | some .drain => .content []

def put (name : Text) (content : Bytes) : List (Text × Bytes) → List (Text × Bytes)
  | [] => [(name, content)]
  | entry :: others =>
      if entry.1 = name then (name, content) :: others else entry :: put name content others

theorem lookup_put (name : Text) (content : Bytes) (entries : List (Text × Bytes)) :
    (put name content entries).lookup name = some content := by
  induction entries with
  | nil => simp [put]
  | cons entry others ih =>
      rw [put]
      split
      · simp
      · rename_i other
        have differs : (name == entry.1) = false := beq_false_of_ne (Ne.symm other)
        rw [List.lookup_cons, differs]
        exact ih

theorem lookup_put_other {name other : Text} (differs : other ≠ name) (content : Bytes)
    (entries : List (Text × Bytes)) :
    (put name content entries).lookup other = entries.lookup other := by
  have unlike : (other == name) = false := beq_false_of_ne differs
  induction entries with
  | nil => simp [put, List.lookup_cons, unlike]
  | cons entry others ih =>
      rw [put]
      split
      · rename_i same
        rw [List.lookup_cons, List.lookup_cons, same, unlike]
      · rw [List.lookup_cons, List.lookup_cons, ih]

/-- The files once a file has been created or replaced, where the path leads to one. -/
def write? (files : Files) (path : Text) (content : Bytes) : Option Files :=
  match locate? files.places path with
  | some (.name name) => some { files with entries := put name content files.entries }
  | some .drain => some files
  | _ => none

theorem write?_places {files written : Files} {path : Text} {content : Bytes}
    (writes : files.write? path content = some written) : written.places = files.places := by
  unfold write? at writes
  split at writes <;> cases writes <;> rfl

theorem read_of_write {files written : Files} {path : Text} {content : Bytes}
    (writes : files.write? path content = some written) :
    written.read path = .content content ∨ locate? files.places path = some .drain := by
  unfold write? at writes
  split at writes
  · rename_i name leads
    cases writes
    simp [read, leads, lookup_put]
  · rename_i leads
    exact Or.inr leads
  · cases writes

end Files

end CardVault

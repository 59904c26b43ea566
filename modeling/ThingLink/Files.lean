import ThingLink.Text.Utf8

/-!
# Files

The files and directories that a run can reach, by their places below the working
directory.  A path is walked part by part, and each part must be in a directory;
`read` and `write` report the first thing in the way, in the words of the
operating system.

* `write_eq_ok_iff` : a write changes one place, and that place is no directory.
* `read_write` : what was written is read back.
-/

namespace ThingLink

inductive FileError where
  | notFound
  | notDirectory
  | isDirectory
  | nameTooLong
  | zeroByte
  | notText
  deriving DecidableEq, Repr

def FileError.message : FileError → String
  | notFound => "No such file or directory (os error 2)"
  | notDirectory => "Not a directory (os error 20)"
  | isDirectory => "Is a directory (os error 21)"
  | nameTooLong => "File name too long (os error 36)"
  | zeroByte => "file name contained an unexpected NUL byte"
  | notText => "stream did not contain valid UTF-8"

inductive FileEntry where
  | file (content : List UInt8)
  | directory
  deriving DecidableEq

/-- A place, by the names on the way from the working directory; each `..` in front
is one directory further up, and the name `/` in front stands for the top. -/
abbrev Place := List String

structure Files where
  entries : List (Place × FileEntry) := []

namespace Files

def maxName : Nat := 255

def maxPath : Nat := 4095

/-- Whether a place is a directory that is always there. -/
def isGiven (place : Place) : Bool :=
  place.all (· = "..") || place = ["/"]

def get? (files : Files) (place : Place) : Option FileEntry :=
  if isGiven place then some .directory else files.entries.lookup place

def parent (place : Place) : Place :=
  match place.getLast? with
  | none => [".."]
  | some ".." => place ++ [".."]
  | some "/" => place
  | some _ => place.dropLast

def step (files : Files) (place : Place) (name : String) : Except FileError Place :=
  match files.get? place with
  | none => .error .notFound
  | some (.file _) => .error .notDirectory
  | some .directory =>
      if name = "." then .ok place
      else if name = ".." then .ok (parent place)
      else if maxName < name.utf8ByteSize then .error .nameTooLong
      else .ok (place ++ [name])

def pathNames (path : String) : List String :=
  ((path.toList.splitOn '/').filter (· ≠ [])).map String.ofList

/-- Whether a path can only name a directory. -/
def endsInSlash (path : String) : Bool :=
  path.toList.getLast? = some '/'

def resolve (files : Files) (path : String) : Except FileError Place :=
  if path.isEmpty then .error .notFound
  else if path.toList.contains '\x00' then .error .zeroByte
  else if maxPath < path.utf8ByteSize then .error .nameTooLong
  else (pathNames path).foldlM files.step (if path.toList.head? = some '/' then ["/"] else [])

def readBytes (files : Files) (path : String) : Except FileError (List UInt8) := do
  match files.get? (← files.resolve path) with
  | none => .error .notFound
  | some .directory => .error .isDirectory
  | some (.file content) => if endsInSlash path then .error .notDirectory else .ok content

def read (files : Files) (path : String) : Except FileError String := do
  match Text.ofBytes? (← files.readBytes path) with
  | none => .error .notText
  | some text => .ok text

def put (files : Files) (place : Place) (entry : FileEntry) : Files :=
  ⟨(place, entry) :: files.entries.filter (·.1 ≠ place)⟩

/-- Makes a text the content of the file that a path leads to. -/
def write (files : Files) (path : String) (text : String) : Except FileError Files := do
  let place ← files.resolve path
  if endsInSlash path then .error .isDirectory
  else
    match files.get? place with
    | some .directory => .error .isDirectory
    | _ => .ok (files.put place (.file (Text.bytes text)))

def remove (files : Files) (path : String) : Files :=
  match files.resolve path with
  | .ok place => ⟨files.entries.filter (·.1 ≠ place)⟩
  | .error _ => files

def addDirectories (files : Files) (place : Place) : Files :=
  (List.range place.length).foldl (fun files n =>
    let front := place.take (n + 1)
    if (files.get? front).isSome then files else files.put front .directory) files

/-- The files with one more at a path; a path that ends in `/` is a directory. -/
def add (files : Files) (path : String) (content : List UInt8) : Files :=
  let place := pathNames path
  if endsInSlash path then files.addDirectories place
  else (files.addDirectories place.dropLast).put place (.file content)

def listing (files : Files) : List (String × List UInt8) :=
  files.entries.filterMap fun
    | ([name], .file content) => some (name, content)
    | _ => none

/-! ## What a write does -/

theorem lookup_filter_ne {entries : List (Place × FileEntry)} {place other : Place}
    (apart : other ≠ place) :
    (entries.filter (·.1 ≠ place)).lookup other = entries.lookup other := by
  induction entries with
  | nil => rfl
  | cons e rest ih =>
      obtain ⟨p, entry⟩ := e
      by_cases same : p = place
      · subst same
        rw [List.filter_cons_of_neg (by simp), ih, List.lookup_cons]
        have : (other == p) = false := by simpa using apart
        simp [this]
      · rw [List.filter_cons_of_pos (by simpa using same), List.lookup_cons, List.lookup_cons, ih]

theorem get?_put_of_ne {files : Files} {place other : Place} {e : FileEntry}
    (apart : other ≠ place) : (files.put place e).get? other = files.get? other := by
  have : (other == place) = false := by simpa using apart
  simp only [get?, put, List.lookup_cons, this, lookup_filter_ne apart]

theorem get?_put {files : Files} {place : Place} {e : FileEntry}
    (new : isGiven place = false) : (files.put place e).get? place = some e := by
  simp [get?, put, new]

theorem isGiven_eq_false_of_free {files : Files} {place : Place}
    (free : files.get? place ≠ some .directory) : isGiven place = false := by
  cases given : isGiven place with
  | false => rfl
  | true => simp [get?, given] at free

/-- Where no directory was, a file is put in nobody's way. -/
theorem step_put {files : Files} {place here there : Place} {name : String} {content : List UInt8}
    (free : files.get? place ≠ some .directory) (stepped : files.step here name = .ok there) :
    (files.put place (.file content)).step here name = .ok there := by
  have directory : files.get? here = some .directory := by
    unfold step at stepped
    split at stepped
    · exact nomatch stepped
    · exact nomatch stepped
    · assumption
  have apart : here ≠ place := fun same => free (same ▸ directory)
  simp only [step, get?_put_of_ne apart, directory] at stepped ⊢
  exact stepped

theorem foldlM_step_put {files : Files} {place here there : Place} {names : List String}
    {content : List UInt8} (free : files.get? place ≠ some .directory)
    (walked : names.foldlM files.step here = .ok there) :
    names.foldlM (files.put place (.file content)).step here = .ok there := by
  induction names generalizing here with
  | nil => exact walked
  | cons name names ih =>
      simp only [List.foldlM_cons, bind, Except.bind] at walked ⊢
      cases first : files.step here name with
      | error e => simp [first] at walked
      | ok next =>
          simp only [first] at walked
          rw [step_put free first]
          exact ih walked

/-- A path that leads to a place still leads there after a file was put where no
directory was. -/
theorem resolve_put {files : Files} {place there : Place} {path : String} {content : List UInt8}
    (free : files.get? place ≠ some .directory) (resolved : files.resolve path = .ok there) :
    (files.put place (.file content)).resolve path = .ok there := by
  unfold resolve at resolved ⊢
  split at resolved
  · exact nomatch resolved
  · split at resolved
    · exact nomatch resolved
    · split at resolved
      · exact nomatch resolved
      · next named clean short =>
        rw [if_neg named, if_neg clean, if_neg short]
        exact foldlM_step_put free resolved

/-- A write puts its text at the place of its path, where no directory was. -/
theorem write_eq_ok_iff {files after : Files} {path text : String} :
    files.write path text = .ok after ↔
      ∃ place, files.resolve path = .ok place ∧ endsInSlash path = false
        ∧ files.get? place ≠ some .directory
        ∧ after = files.put place (.file (Text.bytes text)) := by
  unfold write
  cases resolved : files.resolve path with
  | error e => simp [bind, Except.bind]
  | ok place =>
      simp only [bind, Except.bind]
      cases slash : endsInSlash path with
      | true => simp
      | false =>
          simp only [Bool.false_eq_true, if_false]
          split
          · next isDirectory =>
            constructor
            · exact nofun
            · rintro ⟨_, ⟨⟩, _, free, _⟩
              exact absurd isDirectory free
          · next free =>
            constructor
            · rintro ⟨⟩
              exact ⟨place, rfl, trivial, free, rfl⟩
            · rintro ⟨_, ⟨⟩, _, _, rfl⟩
              rfl

theorem read_write {files after : Files} {path text : String}
    (written : files.write path text = .ok after) : after.read path = .ok text := by
  obtain ⟨place, resolved, slash, free, rfl⟩ := write_eq_ok_iff.mp written
  simp [read, readBytes, resolve_put free resolved, bind, Except.bind, slash,
    get?_put (isGiven_eq_false_of_free free)]

end Files

end ThingLink

/-
# A file system with links

A path is its list of components, and a slash behind the last one is a `.` there: it
names the same file, but leads only to a directory.  A file system maps *places*,
absolute paths of names only, to files, directories and symbolic links, and a path
leads to a place by a walk that follows links.  A place that a path leads to leads to
itself (`resolve_resolve`), and replacing the contents of a file changes where no path
leads (`resolve_congr`).
-/

import Mathlib.Data.List.Infix
import Mathlib.Logic.Function.Basic

namespace Moh

/-! ### Paths -/

/-- One component of a path, as `Path::components` yields them. -/
inductive Component where
  | rootDir
  | curDir
  | parentDir
  | normal (name : List Char)
deriving DecidableEq, Repr

/-- A path.  Behind its last name a `.` stands for a trailing slash, or for the trailing
`.` of the text: `Path::components` yields neither, the system sees both. -/
abbrev PathBuf := List Component

namespace PathBuf

/-- The component a part between two slashes stands for. -/
def component (part : List Char) : Component :=
  if part = ['.', '.'] then .parentDir else .normal part

/-- The part between two slashes names nothing: it is empty, or a `.`. -/
def isBlank (part : List Char) : Bool :=
  part == [] || part == ['.']

/-- The text ends in a slash, or in a `.` behind one. -/
def endsInSlash (text : List Char) : Bool :=
  (text.splitOn '/').getLast?.any isBlank

/-- `PathBuf::from`: empty parts and all but a leading `.` are dropped, as
`Path::components` drops them; what stands behind the last name is kept as a `.`. -/
def ofText (text : List Char) : PathBuf :=
  let names := ((text.splitOn '/').filter fun part => !isBlank part).map component
  let behind := if names ≠ [] ∧ endsInSlash text then [.curDir] else []
  if text.head? = some '/' then .rootDir :: names ++ behind
  else if text = ['.'] ∨ ['.', '/'].isPrefixOf text then .curDir :: names ++ behind
  else names ++ behind

/-- `Path::is_absolute`. -/
def isAbsolute (path : PathBuf) : Bool :=
  path.head? == some .rootDir

/-- The path that is put behind another: without a leading `.`, unless it is all. -/
def dropLeadingDot : PathBuf → PathBuf
  | .curDir :: c :: rest => c :: rest
  | path => path

/-- `Path::join`. -/
def join (base path : PathBuf) : PathBuf :=
  if path.isAbsolute then path
  else if base = [] then path
  else base ++ path.dropLeadingDot

/-- The path without the `.` behind its last name. -/
def trimDot (path : PathBuf) : PathBuf :=
  if path.getLast? = some .curDir ∧ path ≠ [.curDir] then path.dropLast else path

/-- `Path::parent`: a trailing slash does not count. -/
def parent (path : PathBuf) : Option PathBuf :=
  match path.trimDot.getLast? with
  | none => none
  | some .rootDir => none
  | some _ => some path.trimDot.dropLast

@[simp] theorem trimDot_concat (path : PathBuf) (name : List Char) :
    trimDot (path ++ [.normal name]) = path ++ [.normal name] := by
  simp [trimDot]

@[simp] theorem parent_concat (path : PathBuf) (name : List Char) :
    parent (path ++ [.normal name]) = some path := by
  simp [parent]

/-- `PathBuf::pop`: truncates the path to its parent, if it has one. -/
def pop (path : PathBuf) : PathBuf :=
  path.parent.getD path

end PathBuf

/-! ### Entries and walks -/

/-- What is at a place. -/
inductive Entry where
  | file (bytes : List UInt8) (permissions : ℕ)
  | directory
  | link (target : PathBuf)
deriving DecidableEq, Repr

/-- The entry without the contents of a file. -/
def Entry.shape : Entry → Entry
  | .file .. => .file [] 0
  | entry => entry

/-- `io::ErrorKind`, as far as callers tell kinds apart. -/
inductive IoErrorKind where
  | notFound
  | permissionDenied
  | alreadyExists
  | other
deriving DecidableEq, Repr

/-- The entries of the places; the root is always a directory. -/
structure FileSystem where
  entries : PathBuf → Option Entry

namespace FileSystem

variable {fs fs' : FileSystem} {p c d : PathBuf} {n : List Char}

/-- The number of links one resolution follows. -/
def maxLinks : ℕ := 40

/-- What is at a place. -/
def entryAt (fs : FileSystem) (place : PathBuf) : Option Entry :=
  if place = [.rootDir] then some .directory else fs.entries place

/-- Walks from the directory `done` along the components; `follow` continues a
walk behind a link. -/
def walkWith (fs : FileSystem) (follow : PathBuf → PathBuf → Except IoErrorKind PathBuf) :
    PathBuf → PathBuf → Except IoErrorKind PathBuf
  | done, [] => .ok done
  | _, .rootDir :: rest => fs.walkWith follow [.rootDir] rest
  | done, .curDir :: rest => fs.walkWith follow done rest
  | done, .parentDir :: rest => fs.walkWith follow done.pop rest
  | done, .normal name :: rest =>
    match fs.entries (done ++ [.normal name]) with
    | none => .error .notFound
    | some (.link target) => follow done (target ++ rest)
    | some .directory => fs.walkWith follow (done ++ [.normal name]) rest
    | some (.file ..) => if rest = [] then .ok (done ++ [.normal name]) else .error .other

/-- Walks along at most `links` links. -/
def walk (fs : FileSystem) : ℕ → PathBuf → PathBuf → Except IoErrorKind PathBuf
  | 0 => fs.walkWith fun _ _ => .error .other
  | links + 1 => fs.walkWith (fs.walk links)

/-- `fs::canonicalize`: the place a path leads to.  A relative path is taken from
the root. -/
def resolve (fs : FileSystem) (path : PathBuf) : Except IoErrorKind PathBuf :=
  fs.walk maxLinks [.rootDir] path

/-- The entry a path leads to, which is no link. -/
def lookup (fs : FileSystem) (path : PathBuf) : Except IoErrorKind Entry :=
  match fs.resolve path with
  | .error e => .error e
  | .ok place =>
    match fs.entryAt place with
    | none => .error .notFound
    | some entry => .ok entry

/-- `Path::exists`. -/
def pathExists (fs : FileSystem) (path : PathBuf) : Bool :=
  (fs.lookup path).isOk

/-- `fs::read`. -/
def read (fs : FileSystem) (path : PathBuf) : Except IoErrorKind (List UInt8) :=
  match fs.lookup path with
  | .error e => .error e
  | .ok (.file bytes _) => .ok bytes
  | .ok _ => .error .other

/-! ### Changes -/

/-- The file system with another entry at a place. -/
def put (fs : FileSystem) (place : PathBuf) (entry : Entry) : FileSystem :=
  ⟨Function.update fs.entries place (some entry)⟩

@[simp] theorem entries_put_self (entry : Entry) : (fs.put c entry).entries c = some entry :=
  Function.update_self ..

theorem entries_put_of_ne (entry : Entry) (h : p ≠ c) :
    (fs.put c entry).entries p = fs.entries p :=
  Function.update_of_ne h ..

/-- The place a new name at this path has: the last component is not followed. -/
def place (fs : FileSystem) (path : PathBuf) : Except IoErrorKind PathBuf :=
  match path.getLast? with
  | some (.normal name) =>
    match fs.lookup path.dropLast, fs.resolve path.dropLast with
    | .ok .directory, .ok directory => .ok (directory ++ [.normal name])
    | .ok _, _ => .error .other
    | .error e, _ => .error e
  | _ => .error .other

/-- Renames a new file to this path; what was there is replaced. -/
def rename (fs : FileSystem) (path : PathBuf) (bytes : List UInt8) (permissions : ℕ) :
    Except IoErrorKind FileSystem :=
  match fs.place path with
  | .error e => .error e
  | .ok place =>
    if fs.entryAt place = some .directory then .error .other
    else .ok (fs.put place (.file bytes permissions))

/-- Moves a new file to this path; fails if there is anything. -/
def create (fs : FileSystem) (path : PathBuf) (bytes : List UInt8) (permissions : ℕ) :
    Except IoErrorKind FileSystem :=
  match fs.place path with
  | .error e => .error e
  | .ok place =>
    if (fs.entryAt place).isSome then .error .alreadyExists
    else .ok (fs.put place (.file bytes permissions))

/-- `mkdir`. -/
def createDir (fs : FileSystem) (path : PathBuf) : Except IoErrorKind FileSystem :=
  match fs.place path with
  | .error e => .error e
  | .ok place =>
    if (fs.entryAt place).isSome then .error .alreadyExists
    else .ok (fs.put place .directory)

/-- The path leads to a directory. -/
def isDir (fs : FileSystem) (path : PathBuf) : Bool :=
  fs.lookup path matches .ok .directory

/-- `fs::create_dir_all`: creates the missing directories, the outermost first. -/
def createDirAll (fs : FileSystem) (path : PathBuf) : Except IoErrorKind FileSystem :=
  path.inits.foldlM (fun fs directory =>
    if directory = [] ∨ fs.isDir directory then .ok fs else fs.createDir directory) fs

/-! ### Places that paths lead to -/

/-- A directory at its own place: every name on the way is a directory. -/
inductive Settled (fs : FileSystem) : PathBuf → Prop
  | root : Settled fs [.rootDir]
  | dir {d : PathBuf} {n : List Char} (hd : Settled fs d)
      (he : fs.entries (d ++ [.normal n]) = some .directory) : Settled fs (d ++ [.normal n])

/-- A file or directory at its own place. -/
inductive AtPlace (fs : FileSystem) : PathBuf → Prop
  | directory {d : PathBuf} (hd : Settled fs d) : AtPlace fs d
  | file {d : PathBuf} {n : List Char} {bytes : List UInt8} {permissions : ℕ}
      (hd : Settled fs d) (he : fs.entries (d ++ [.normal n]) = some (.file bytes permissions)) :
      AtPlace fs (d ++ [.normal n])

theorem Settled.pop (h : Settled fs d) : Settled fs d.pop := by
  cases h with
  | root => exact .root
  | dir hd he => simpa [PathBuf.pop] using hd

/-- A walk along a settled directory arrives there. -/
theorem Settled.walkWith (h : Settled fs d) (follow : PathBuf → PathBuf → Except IoErrorKind PathBuf)
    (start rest : PathBuf) : fs.walkWith follow start (d ++ rest) = fs.walkWith follow d rest := by
  induction h generalizing rest with
  | root => rw [List.cons_append, List.nil_append, FileSystem.walkWith]
  | dir hd he ih => rw [List.append_assoc, ih, List.cons_append, List.nil_append,
      FileSystem.walkWith, he]

/-- A walk from a settled directory ends at a place. -/
theorem atPlace_of_walkWith {follow : PathBuf → PathBuf → Except IoErrorKind PathBuf}
    (hfollow : ∀ d p c, Settled fs d → follow d p = .ok c → AtPlace fs c) (hd : Settled fs d)
    (h : fs.walkWith follow d p = .ok c) : AtPlace fs c := by
  induction p generalizing d with
  | nil =>
    obtain rfl := Except.ok.inj h
    exact .directory hd
  | cons component rest ih =>
    cases component with
    | rootDir => exact ih .root h
    | curDir => exact ih hd h
    | parentDir => exact ih hd.pop h
    | normal name =>
      unfold FileSystem.walkWith at h
      split at h
      · cases h
      · exact hfollow _ _ _ hd h
      · exact ih (.dir hd ‹_›) h
      · split_ifs at h
        obtain rfl := Except.ok.inj h
        exact .file hd ‹_›

theorem atPlace_of_walk {links : ℕ} (hd : Settled fs d) (h : fs.walk links d p = .ok c) :
    AtPlace fs c := by
  induction links generalizing d p c with
  | zero => exact atPlace_of_walkWith (fun _ _ _ _ h => by cases h) hd h
  | succ links ih => exact atPlace_of_walkWith (fun _ _ _ hd h => ih hd h) hd h

/-- **A path leads to a place.** -/
theorem atPlace_of_resolve (h : fs.resolve p = .ok c) : AtPlace fs c :=
  atPlace_of_walk .root h

theorem walk_eq (fs : FileSystem) (links : ℕ) :
    ∃ follow, fs.walk links = fs.walkWith follow := by
  cases links with
  | zero => exact ⟨_, rfl⟩
  | succ links => exact ⟨_, rfl⟩

/-- A place leads to itself. -/
theorem AtPlace.resolve (h : AtPlace fs c) : fs.resolve c = .ok c := by
  obtain ⟨follow, hwalk⟩ := fs.walk_eq maxLinks
  rw [FileSystem.resolve, hwalk]
  cases h with
  | directory hd =>
    rw [← List.append_nil c, hd.walkWith, List.append_nil, FileSystem.walkWith]
  | file hd he =>
    rw [hd.walkWith, FileSystem.walkWith, he]
    rfl

/-- **Canonicalizing twice changes nothing.** -/
theorem resolve_resolve (h : fs.resolve p = .ok c) : fs.resolve c = .ok c :=
  (atPlace_of_resolve h).resolve

/-! ### Files -/

/-- A file at its own place. -/
structure IsFile (fs : FileSystem) (c : PathBuf) (bytes : List UInt8) (permissions : ℕ) : Prop where
  settled : ∃ d n, c = d ++ [.normal n] ∧ fs.Settled d
  entry : fs.entries c = some (.file bytes permissions)

variable {bytes bytes' : List UInt8} {permissions permissions' : ℕ}

theorem ne_root_of_append : d ++ [.normal n] ≠ [.rootDir] := by
  cases d with
  | nil => simp
  | cons c d => simp

theorem IsFile.ne_root (h : fs.IsFile c bytes permissions) : c ≠ [.rootDir] := by
  obtain ⟨d, n, rfl, -⟩ := h.settled
  exact ne_root_of_append

theorem IsFile.resolve (h : fs.IsFile c bytes permissions) : fs.resolve c = .ok c := by
  obtain ⟨d, n, rfl, hd⟩ := h.settled
  exact (AtPlace.file hd h.entry).resolve

theorem IsFile.lookup (h : fs.IsFile c bytes permissions) :
    fs.lookup c = .ok (.file bytes permissions) := by
  unfold FileSystem.lookup entryAt
  rw [h.resolve]
  simp only [if_neg h.ne_root, h.entry]

theorem IsFile.read (h : fs.IsFile c bytes permissions) : fs.read c = .ok bytes := by
  unfold FileSystem.read
  rw [h.lookup]

/-- **A path that leads to a file leads to a place with a file.** -/
theorem isFile_of_lookup (h : fs.lookup p = .ok (.file bytes permissions)) :
    ∃ c, fs.resolve p = .ok c ∧ fs.IsFile c bytes permissions := by
  unfold FileSystem.lookup at h
  cases hr : fs.resolve p with
  | error e => simp [hr] at h
  | ok c =>
    have hentry : fs.entryAt c = some (.file bytes permissions) := by
      simp only [hr] at h
      cases he : fs.entryAt c with
      | none => simp [he] at h
      | some entry =>
        simp only [he, Except.ok.injEq] at h
        rw [h]
    unfold entryAt at hentry
    split_ifs at hentry with hroot
    · cases Option.some.inj hentry
    refine ⟨c, rfl, ?_, hentry⟩
    rcases atPlace_of_resolve hr with ⟨hd⟩ | ⟨hd, -⟩
    · cases hd with
      | root => exact absurd rfl hroot
      | dir hd he => simp [hentry] at he
    · exact ⟨_, _, rfl, hd⟩

theorem isFile_of_read (h : fs.read p = .ok bytes) :
    ∃ c permissions, fs.resolve p = .ok c ∧ fs.IsFile c bytes permissions := by
  unfold FileSystem.read at h
  split at h
  · cases h
  · rename_i b m hl
    obtain rfl := Except.ok.inj h
    obtain ⟨c, hc⟩ := isFile_of_lookup hl
    exact ⟨c, m, hc⟩
  · cases h

/-- A settled directory leads to a directory. -/
theorem Settled.lookup (h : fs.Settled d) : fs.lookup d = .ok .directory := by
  unfold FileSystem.lookup entryAt
  rw [(AtPlace.directory h).resolve]
  cases h with
  | root => rfl
  | dir hd he => simp only [if_neg ne_root_of_append, he]

/-- Every directory on the way to a settled one is settled. -/
theorem Settled.ofInits (h : fs.Settled d) (hstart : p <+: d) (hne : p ≠ []) : fs.Settled p := by
  induction h generalizing p with
  | root =>
    obtain rfl : p = [.rootDir] := by
      rcases List.prefix_cons_iff.1 hstart with rfl | ⟨rest, rfl, hrest⟩
      · exact absurd rfl hne
      · rw [List.prefix_nil.1 hrest]
    exact .root
  | dir hd he ih =>
    rcases List.prefix_concat_iff.1 hstart with rfl | hstart
    · exact .dir hd he
    · exact ih hstart hne

/-- **Nothing is missing on the way to a settled directory.** -/
theorem Settled.createDirAll (h : fs.Settled d) : fs.createDirAll d = .ok fs := by
  have hfold : ∀ dirs : List PathBuf, (∀ dir ∈ dirs, dir = [] ∨ fs.isDir dir = true) →
      dirs.foldlM (fun fs directory =>
        if directory = [] ∨ fs.isDir directory then .ok fs else fs.createDir directory) fs =
        (.ok fs : Except IoErrorKind FileSystem) := by
    intro dirs hdirs
    induction dirs with
    | nil => rfl
    | cons dir dirs ih =>
      rw [List.foldlM_cons, if_pos (hdirs dir List.mem_cons_self)]
      exact ih fun dir hdir => hdirs dir (List.mem_cons_of_mem _ hdir)
  refine hfold d.inits fun dir hdir => ?_
  by_cases hne : dir = []
  · exact .inl hne
  · right
    unfold isDir
    rw [(h.ofInits ((List.mem_inits _ _).1 hdir) hne).lookup]

/-- The new name of a file is where the file is. -/
theorem IsFile.place (h : fs.IsFile c bytes permissions) : fs.place c = .ok c := by
  obtain ⟨d, n, rfl, hd⟩ := h.settled
  unfold FileSystem.place
  rw [List.getLast?_concat, List.dropLast_concat, hd.lookup, (AtPlace.directory hd).resolve]

/-- **A rename to the place of a file replaces the file.** -/
theorem IsFile.rename (h : fs.IsFile c bytes permissions) :
    fs.rename c bytes' permissions' = .ok (fs.put c (.file bytes' permissions')) := by
  unfold FileSystem.rename entryAt
  rw [h.place]
  simp [h.ne_root, h.entry]

/-! ### What a change of contents keeps -/

/-- The same names lead to directories, files and the same links. -/
def SameShape (fs fs' : FileSystem) : Prop :=
  ∀ place, (fs.entries place).map Entry.shape = (fs'.entries place).map Entry.shape

theorem walkWith_congr (hs : SameShape fs fs')
    (follow : PathBuf → PathBuf → Except IoErrorKind PathBuf) (d p : PathBuf) :
    fs.walkWith follow d p = fs'.walkWith follow d p := by
  induction p generalizing d with
  | nil => rfl
  | cons component rest ih =>
    cases component with
    | rootDir => exact ih _
    | curDir => exact ih _
    | parentDir => exact ih _
    | normal name =>
      have hentry := hs (d ++ [.normal name])
      unfold walkWith
      cases h : fs.entries (d ++ [.normal name]) with
      | none =>
        cases h' : fs'.entries (d ++ [.normal name]) with
        | none => rfl
        | some e' => simp [h, h'] at hentry
      | some e =>
        cases h' : fs'.entries (d ++ [.normal name]) with
        | none => simp [h, h'] at hentry
        | some e' =>
          rw [h, h'] at hentry
          have hshape := Option.some.inj hentry
          cases e <;> cases e' <;> simp_all [Entry.shape]

theorem walk_congr (hs : SameShape fs fs') (links : ℕ) : fs.walk links = fs'.walk links := by
  induction links with
  | zero =>
    funext d p
    exact walkWith_congr hs _ d p
  | succ links ih =>
    funext d p
    rw [walk, walk, ih]
    exact walkWith_congr hs _ d p

/-- **Where paths lead does not depend on the contents of files.** -/
theorem resolve_congr (hs : SameShape fs fs') (p : PathBuf) : fs.resolve p = fs'.resolve p :=
  congrFun (congrFun (walk_congr hs maxLinks) _) p

/-- Replacing the contents of a file keeps the shape. -/
theorem sameShape_put (he : fs.entries c = some (.file bytes permissions)) :
    SameShape fs (fs.put c (.file bytes' permissions')) := by
  intro place
  by_cases h : place = c
  · subst h
    rw [he, entries_put_self]
    rfl
  · rw [entries_put_of_ne _ h]

theorem Settled.congr (hs : SameShape fs fs') (h : fs.Settled d) : fs'.Settled d := by
  induction h with
  | root => exact .root
  | @dir d n hd he ih =>
    refine .dir ih ?_
    have hentry := hs (d ++ [.normal n])
    rw [he] at hentry
    cases he' : fs'.entries (d ++ [.normal n]) with
    | none => simp [he'] at hentry
    | some e => cases e <;> simp_all [Entry.shape]

/-- After its contents are replaced the file is where it was. -/
theorem IsFile.put (h : fs.IsFile c bytes permissions) :
    (fs.put c (.file bytes' permissions')).IsFile c bytes' permissions' := by
  obtain ⟨d, n, rfl, hd⟩ := h.settled
  exact ⟨⟨d, n, rfl, hd.congr (sameShape_put h.entry)⟩, entries_put_self _⟩

/-- The bytes of the file at a place. -/
def bytesAt (fs : FileSystem) (c : PathBuf) : Option (List UInt8) :=
  match fs.entries c with
  | some (.file bytes _) => some bytes
  | _ => none

/-- The bytes of the file that a rename to this path replaces. -/
def replacedBytes (fs : FileSystem) (path : PathBuf) : Option (List UInt8) :=
  match fs.place path with
  | .ok place => fs.bytesAt place
  | .error _ => none

/-- **A new file replaces nothing.** -/
theorem replacedBytes_of_create (h : fs.create p bytes permissions = .ok fs') :
    fs.replacedBytes p = none := by
  unfold create at h
  unfold replacedBytes
  cases hplace : fs.place p with
  | error e => rfl
  | ok place =>
    simp only [hplace] at h ⊢
    split_ifs at h with hentry
    unfold FileSystem.bytesAt
    unfold entryAt at hentry
    split_ifs at hentry
    · simp at hentry
    · rw [Option.not_isSome_iff_eq_none.1 hentry]

theorem bytesAt_put_of_ne (entry : Entry) (h : p ≠ c) :
    (fs.put c entry).bytesAt p = fs.bytesAt p := by
  unfold FileSystem.bytesAt
  rw [entries_put_of_ne entry h]

/-- A new directory is where there was nothing. -/
theorem bytesAt_createDir (h : fs.createDir p = .ok fs') : fs'.bytesAt c = fs.bytesAt c := by
  unfold createDir at h
  cases hplace : fs.place p with
  | error e => simp [hplace] at h
  | ok place =>
    simp only [hplace] at h
    split_ifs at h with hentry
    obtain rfl := Except.ok.inj h
    by_cases hc : c = place
    · subst hc
      unfold entryAt at hentry
      split_ifs at hentry
      · simp at hentry
      · unfold FileSystem.bytesAt
        rw [entries_put_self, Option.not_isSome_iff_eq_none.1 hentry]
    · exact bytesAt_put_of_ne _ hc

/-- **New directories leave the files as they are.** -/
theorem bytesAt_createDirAll (h : fs.createDirAll p = .ok fs') :
    fs'.bytesAt c = fs.bytesAt c := by
  have hfold : ∀ (dirs : List PathBuf) (fs : FileSystem),
      dirs.foldlM (fun fs directory =>
        if directory = [] ∨ fs.isDir directory then .ok fs else fs.createDir directory) fs =
        (.ok fs' : Except IoErrorKind FileSystem) → fs'.bytesAt c = fs.bytesAt c := by
    intro dirs
    induction dirs with
    | nil =>
      intro fs h
      obtain rfl := Except.ok.inj h
      rfl
    | cons dir dirs ih =>
      intro fs h
      rw [List.foldlM_cons] at h
      split_ifs at h
      · exact ih fs h
      · cases hd : fs.createDir dir with
        | error e =>
          rw [hd] at h
          cases h
        | ok next =>
          rw [hd] at h
          exact (ih next h).trans (bytesAt_createDir hd)
  exact hfold _ _ h

/-- **A path that leads somewhere exists.** -/
theorem pathExists_of_resolve (h : fs.resolve p = .ok c) : fs.pathExists p = true := by
  have hentry : ∃ entry, fs.entryAt c = some entry := by
    cases atPlace_of_resolve h with
    | directory hd =>
      cases hd with
      | root => exact ⟨_, rfl⟩
      | dir hd he => exact ⟨_, by rw [entryAt, if_neg ne_root_of_append, he]⟩
    | file hd he => exact ⟨_, by rw [entryAt, if_neg ne_root_of_append, he]⟩
  obtain ⟨entry, hentry⟩ := hentry
  unfold pathExists FileSystem.lookup
  rw [h]
  simp only [hentry]
  rfl

theorem IsFile.bytesAt (h : fs.IsFile c bytes permissions) : fs.bytesAt c = some bytes := by
  unfold FileSystem.bytesAt
  rw [h.entry]

end FileSystem
end Moh

import Spreadsheet.Storage.Files

/-!
# Proofs/Storage/FileSystem — work with files, whatever keeps them

Nothing is assumed of a file system but how it answers requests.  It is `Durable` when a file that
was written and not touched since reads back as written; a `Folder` is (`Folder.durable_system`),
although it walks its paths through files that a write may add.
-/

namespace Spreadsheet

/-- A file system: what reading a file yields, and what writing one yields and leaves behind.  `σ`
is everything there is to say about the files at one time. -/
structure FileSystem (σ : Type) where
  read : σ → String → Except FileError ByteArray
  write : σ → String → ByteArray → Except FileError Unit × σ

namespace FileSystem

variable {σ : Type}

/-- **A file that was written and not touched since reads back as written.** -/
def Durable (system : FileSystem σ) : Prop :=
  ∀ {files files' : σ} {path : String} {content : ByteArray},
    system.write files path content = (.ok (), files') → system.read files' path = .ok content

end FileSystem

/-! ## Work -/

namespace FileTask

variable {σ α β : Type} {system : FileSystem σ}

/-- Does the work with the files of a system. -/
def runWith (system : FileSystem σ) : FileTask α → σ → α × σ
  | done result, files => (result, files)
  | read path next, files => (next (system.read files path)).runWith system files
  | write path content next, files =>
      (next (system.write files path content).1).runWith system
        (system.write files path content).2

@[simp] theorem runWith_pure (result : α) (files : σ) :
    (pure result : FileTask α).runWith system files = (result, files) := rfl

@[simp] theorem runWith_readFile (path : String) (files : σ) :
    (readFile path).runWith system files = (system.read files path, files) := rfl

@[simp] theorem runWith_writeFile (path : String) (content : ByteArray) (files : σ) :
    (writeFile path content).runWith system files = system.write files path content := rfl

/-- One piece of work after the other. -/
theorem runWith_bind (f : α → FileTask β) : ∀ (task : FileTask α) (files : σ),
    (task >>= f).runWith system files
      = (f (task.runWith system files).1).runWith system (task.runWith system files).2
  | done _, _ => rfl
  | read path next, files => runWith_bind f (next (system.read files path)) files
  | write path content next, files =>
      runWith_bind f (next (system.write files path content).1) (system.write files path content).2

end FileTask

/-! ## Sheets in files -/

namespace Storage

variable {σ : Type} {system : FileSystem σ} {files files' : σ} {path text : String}

theorem fromUTF8?_toUTF8 (text : String) : String.fromUTF8? text.toUTF8 = some text := by
  rw [String.toUTF8_eq_toByteArray, String.fromUTF8?, dif_pos text.isValidUTF8]
  rfl

/-- A task that writes a file, and reports how that ended, ends well only if the file is written. -/
theorem write_of_reported {content : ByteArray} (report : FileError → StorageError)
    (h : FileTask.runWith system
      (do
        match ← FileTask.writeFile path content with
        | .ok _ => return (.ok () : Except StorageError Unit)
        | .error e => return .error (report e)) files = (.ok (), files')) :
    system.write files path content = (.ok (), files') := by
  rw [FileTask.runWith_bind, FileTask.runWith_writeFile] at h
  cases hanswer : (system.write files path content).1 with
  | ok _ =>
    rw [hanswer] at h
    exact Prod.ext hanswer (Prod.mk.inj h).2
  | error e =>
    rw [hanswer] at h
    cases (Prod.mk.inj h).1

/-- A sheet is saved when its file is written. -/
theorem write_of_saveSheet {s : Sheet}
    (h : (saveSheet s path).runWith system files = (.ok (), files')) :
    system.write files path (Snapshot.capture s).write.toUTF8 = (.ok (), files') :=
  write_of_reported .file h

/-- A text in a file is read. -/
theorem runWith_loadSnapshot (h : system.read files path = .ok text.toUTF8) :
    (loadSnapshot path).runWith system files = (Snapshot.read text, files) := by
  have htext : (readText path).runWith system files = (.ok text, files) := by
    rw [readText, FileTask.runWith_bind, FileTask.runWith_readFile, h]
    dsimp only
    rw [fromUTF8?_toUTF8]
    rfl
  rw [loadSnapshot, FileTask.runWith_bind, htext]
  rfl

end Storage

/-! ## Folders -/

namespace Folder

variable {folder folder' : Folder} {name : String} {content : ByteArray} {path : String}

/-- A folder as a file system; a write that fails leaves it as it is. -/
def system : FileSystem Folder where
  read := read
  write folder path content :=
    match folder.write path content with
    | .ok folder => (.ok (), folder)
    | .error e => (.error e, folder)

theorem runIn_eq_runWith {α : Type} : ∀ (task : FileTask α) (folder : Folder),
    task.runIn folder = task.runWith system folder
  | .done _, _ => rfl
  | .read path next, folder => runIn_eq_runWith (next (folder.read path)) folder
  | .write path content next, folder => by
      rw [FileTask.runIn, FileTask.runWith]
      cases h : folder.write path content with
      | ok folder' => simp [system, h, runIn_eq_runWith]
      | error e => simp [system, h, runIn_eq_runWith]

/-- Replacing the content of a file. -/
theorem lookup_map : ∀ {files : List (String × ByteArray)}, (files.lookup name).isSome = true →
    (files.map fun f => if f.1 = name then (name, content) else f).lookup name = some content
  | f :: files, h => by
      by_cases hname : f.1 = name
      · simp [hname]
      · have hne : (name == f.1) = false := by simpa using Ne.symm hname
        rw [List.lookup_cons, hne] at h
        rw [List.map_cons, if_neg hname, List.lookup_cons, hne]
        exact lookup_map h

/-- A file that is stored is there. -/
theorem content?_store (folder : Folder) (name : String) (content : ByteArray) :
    (folder.store name content).content? name = some content := by
  rw [store]
  cases h : folder.content? name with
  | some old => exact lookup_map (by rw [← content?, h]; rfl)
  | none =>
    show List.lookup name (folder.files ++ [(name, content)]) = _
    rw [List.lookup_append, ← content?, h]
    simp

/-- Nothing lies behind a file. -/
theorem step_entry (folder : Folder) (site : Site) (name part : String) :
    ∃ e, folder.step (.entry site name) part = .error e := by
  rw [step]
  cases folder.find site name with
  | ok content => exact ⟨_, rfl⟩
  | error e => exact ⟨e, rfl⟩

/-- **Where a path leads does not depend on the files of a folder.** -/
theorem foldlM_step (folder' : Folder) {target : Place} : ∀ {parts : List String} {place : Place},
    parts.foldlM folder.step place = .ok target → parts.foldlM folder'.step place = .ok target
  | [], _, h => h
  | part :: parts, .folder site, h => by
      change parts.foldlM _ _ = _ at h ⊢
      exact foldlM_step folder' h
  | part :: parts, .entry site name, h => by
      obtain ⟨e, he⟩ := folder.step_entry site name part
      rw [List.foldlM_cons, he] at h
      cases h

theorem place_eq_ok_iff {target : Place} : folder.place path = .ok target ↔
    path.contains (Char.ofNat 0) = false ∧ path ≠ "" ∧ path.utf8ByteSize < pathLimit
      ∧ (parts path).foldlM folder.step (.folder (start path)) = .ok target := by
  rw [place]
  split
  · simp_all
  · split
    · simp_all
    · split
      · rename_i hlength
        simp [Nat.not_lt.mpr hlength]
      · simp_all

theorem place_eq_ok (folder' : Folder) {target : Place} (h : folder.place path = .ok target) :
    folder'.place path = .ok target := by
  obtain ⟨hnull, hempty, hlength, hparts⟩ := place_eq_ok_iff.mp h
  exact place_eq_ok_iff.mpr ⟨hnull, hempty, hlength, foldlM_step folder' hparts⟩

/-- Where a file can be written, and what that leaves behind. -/
theorem write_eq_ok_iff : folder.write path content = .ok folder' ↔
    ∃ name, folder.place path = .ok (.entry .here name) ∧ path.endsWith "/" = false
      ∧ name.utf8ByteSize ≤ nameLimit ∧ folder' = folder.store name content := by
  rw [write]
  cases hplace : folder.place path with
  | error e => exact ⟨fun h => (nomatch h), fun ⟨_, h, _⟩ => (nomatch h)⟩
  | ok target =>
    cases target with
    | folder site => exact ⟨fun h => (nomatch h), fun ⟨_, h, _⟩ => (nomatch h)⟩
    | entry site name =>
      change (if path.endsWith "/" then _ else if nameLimit < name.utf8ByteSize then _
        else if site = .outside then _ else Except.ok (folder.store name content)) = _ ↔ _
      constructor
      · intro h
        split at h
        · cases h
        split at h
        · cases h
        split at h
        · cases h
        · cases site with
          | outside => contradiction
          | here =>
            obtain rfl := Except.ok.inj h
            exact ⟨name, rfl, Bool.eq_false_iff.mpr ‹_›, Nat.le_of_not_lt ‹_›, rfl⟩
      · rintro ⟨_, heq, hslash, hlength, rfl⟩
        cases heq
        rw [hslash, if_neg Bool.false_ne_true, if_neg (Nat.not_lt.mpr hlength)]
        exact if_neg (by decide)

/-- **A folder keeps what is written to it.** -/
theorem durable_system : system.Durable := by
  intro folder folder' path content h
  have hwrite : folder.write path content = .ok folder' := by
    simp only [system] at h
    split at h
    · rename_i heq
      rw [heq, (Prod.mk.inj h).2]
    · cases (Prod.mk.inj h).1
  obtain ⟨name, hplace, hslash, hlength, rfl⟩ := write_eq_ok_iff.mp hwrite
  have hfind : (folder.store name content).find .here name = .ok content := by
    unfold find
    rw [if_neg (Nat.not_lt.mpr hlength), content?_store]
  -- The path is walked again, through a folder with one file more.
  show read _ path = _
  rw [read, place_eq_ok _ hplace]
  change ((folder.store name content).find .here name >>= _) = _
  rw [hfind]
  change (if path.endsWith "/" then _ else _) = _
  rw [hslash]
  rfl

end Folder

/-- A name of one letter leads to an entry of the folder. -/
theorem place_empty_folder : Folder.place ⟨[]⟩ "a" = .ok (.entry .here "a") := by
  have hsplit : "a".splitOn "/" = ["a"] := by
    unfold String.splitOn
    rw [if_neg (by decide), String.splitOnAux, if_neg (by decide +kernel),
      if_neg (by decide +kernel), String.splitOnAux]
    decide +kernel
  have hstart : Folder.start "a" = .here := by decide +kernel
  refine Folder.place_eq_ok_iff.mpr ⟨by simp, by decide, by decide, ?_⟩
  rw [Folder.parts, hsplit, hstart]
  rfl

/-- In an empty folder a file can be written under that name, and there is none to be read. -/
theorem write_empty_folder (content : ByteArray) :
    Folder.system.write ⟨[]⟩ "a" content = (.ok (), ⟨[("a", content)]⟩) := by
  have hwrite : Folder.write ⟨[]⟩ "a" content = .ok ⟨[("a", content)]⟩ :=
    Folder.write_eq_ok_iff.mpr ⟨"a", place_empty_folder, by decide +kernel, by decide, rfl⟩
  simp [Folder.system, hwrite]

theorem read_empty_folder : Folder.system.read ⟨[]⟩ "a" = .error .notFound := by
  have hfind : Folder.find ⟨[]⟩ .here "a" = .error .notFound := by
    unfold Folder.find
    rw [if_neg (by decide)]
    rfl
  show Folder.read ⟨[]⟩ "a" = _
  simp only [Folder.read, place_empty_folder, hfind, bind, Except.bind]

end Spreadsheet

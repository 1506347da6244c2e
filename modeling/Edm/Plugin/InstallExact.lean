import Edm.Plugin.InstallPlugin

/-! When an installation hands over complete copies only, closes each received descriptor once and
leaves no temporary file behind an error. -/

set_option autoImplicit false

namespace Edm.InstallPlugin

open Library

theorem system_abnormally_ne : EdmReturnErrCode.SYSTEM_ABNORMALLY ≠ ERR_OK := by decide

theorem install_failed_ne : EdmReturnErrCode.APPLICATION_INSTALL_FAILED ≠ ERR_OK := by decide

theorem path_invalid_ne : EdmReturnErrCode.INSTALL_APP_PATH_INVALID_OR_TOO_LARGE ≠ ERR_OK := by
  decide

/-! ### One package -/

/-- The temporary file that the copy of a package opens. -/
def Package.temp (package : Package) : Option Path :=
  match fileNameOf package.hapFilePath with
  | none => none
  | some fileName =>
    let tempPath :=
      HAP_DIRECTORY ++ [SEPARATOR] ++ generateUniqueFilePrefix package.answers ++ fileName
    if fileName.length ≤ PATH_MAX - TEMP_DIR_LEN ∧ EdmUtils.trustedExternalPath tempPath = true ∧
        package.answers.dup = true ∧ package.answers.opened = true then some tempPath
    else none

/-- The bytes that reach the temporary file, if each step on the content succeeds. -/
def Package.transferred (source : Sources) (package : Package) : Option (List UInt8) :=
  if package.answers.fstat = true ∧ (source package.fd).length ≤ MAX_HAP_FILE_SIZE then
    package.answers.sendfile.map (source package.fd).take
  else none

/-- The temporary file of a package with what is written to it, if every step succeeds. -/
def Package.copied (source : Sources) (package : Package) : Option (Path × List UInt8) :=
  package.temp.bind fun path => (package.transferred source).map fun bytes => (path, bytes)

def Descriptor.received? : Descriptor → Option Int
  | .received fd => some fd
  | _ => none

/-- The received descriptors closed so far. -/
def Storage.receivedClosed (s : Storage) : List Int := s.closed.filterMap Descriptor.received?

variable {source : Sources} {answers : Answers} {param : InstallParam} {package : Package}
  {s : Storage}

@[simp] theorem receivedClosed_write (items : List ReplyItem) :
    (s.write items).receivedClosed = s.receivedClosed := rfl

theorem receivedClosed_close (descriptor : Descriptor) :
    (s.close descriptor).receivedClosed = s.receivedClosed ++ descriptor.received?.toList := by
  show (s.closed ++ [descriptor]).filterMap Descriptor.received? = _
  rw [List.filterMap_append]
  cases descriptor <;> rfl

@[simp] theorem receivedClosed_output (path : Path) :
    (s.close (.output path)).receivedClosed = s.receivedClosed := by
  rw [receivedClosed_close]
  exact List.append_nil _

@[simp] theorem receivedClosed_duplicate (fd : Int) :
    (s.close (.duplicate fd)).receivedClosed = s.receivedClosed := by
  rw [receivedClosed_close]
  exact List.append_nil _

theorem receivedClosed_received (fd : Int) :
    (s.close (.received fd)).receivedClosed = s.receivedClosed ++ [fd] :=
  receivedClosed_close _

/-- A step of a copy hands nothing over and closes no received descriptor. -/
structure Unhanded (s s' : Storage) : Prop where
  handed : s'.handed = s.handed
  closed : s'.receivedClosed = s.receivedClosed

theorem Unhanded.trans {s s' s'' : Storage} (h : Unhanded s s') (h' : Unhanded s' s'') :
    Unhanded s s'' :=
  ⟨h'.handed.trans h.handed, h'.closed.trans h.closed⟩

theorem copyFileContent_unhanded (path : Path) :
    Unhanded s (copyFileContent source package path s).2 := by
  unfold copyFileContent
  split
  · exact ⟨rfl, rfl⟩
  · split
    · exact ⟨rfl, rfl⟩
    · split <;> exact ⟨rfl, rfl⟩

theorem copyFileContent_opened (path : Path) :
    (copyFileContent source package path s).2.opened = s.opened := by
  unfold copyFileContent
  split
  · rfl
  · split
    · rfl
    · split <;> rfl

theorem copyFileContent_some {bytes : List UInt8} (h : package.transferred source = some bytes)
    (path : Path) :
    (copyFileContent source package path s).1 = ERR_OK ∧
      (copyFileContent source package path s).2.files = s.files.write path bytes := by
  unfold Package.transferred at h
  split at h
  · rename_i hsteps
    obtain ⟨count, hcount, rfl⟩ := Option.map_eq_some_iff.mp h
    unfold copyFileContent
    rw [if_neg (by rw [hsteps.1]; decide), if_neg (by omega), hcount]
    exact ⟨rfl, rfl⟩
  · exact nomatch h

theorem copyFileContent_none (h : package.transferred source = none) (path : Path) :
    (copyFileContent source package path s).1 ≠ ERR_OK ∧
      (copyFileContent source package path s).2.files = s.files := by
  unfold copyFileContent
  split
  · exact ⟨system_abnormally_ne, rfl⟩
  · rename_i hstat
    split
    · exact ⟨path_invalid_ne, rfl⟩
    · rename_i hsize
      cases hsent : package.answers.sendfile with
      | none => exact ⟨install_failed_ne, rfl⟩
      | some count =>
        rw [Package.transferred, if_pos ⟨by simpa using hstat, by omega⟩, hsent] at h
        contradiction

/-- A copy that opens its file is a copy of the content. -/
theorem copyHapFile_opened {path : Path} (h : package.temp = some path) :
    copyHapFile source package s =
      (((copyFileContent source package path (s.create path)).1, path),
        ((copyFileContent source package path (s.create path)).2.close (.output path)).close
          (.duplicate package.fd)) := by
  unfold Package.temp at h
  unfold copyHapFile
  cases hname : fileNameOf package.hapFilePath with
  | none =>
    rw [hname] at h
    exact nomatch h
  | some fileName =>
    rw [hname] at h
    simp only [Option.ite_none_right_eq_some, Option.some.injEq] at h
    obtain ⟨⟨hlength, htrusted, hdup, hopened⟩, rfl⟩ := h
    simp only
    rw [if_neg (by omega), if_neg (by rw [htrusted]; decide), if_neg (by rw [hdup]; decide),
      if_neg (by rw [hopened]; decide)]

/-- A copy that opens no file fails and leaves the files as they were. -/
theorem copyHapFile_unopened (h : package.temp = none) :
    (copyHapFile source package s).1.1 ≠ ERR_OK ∧
      (copyHapFile source package s).2.files = s.files ∧
      (copyHapFile source package s).2.opened = s.opened ∧
      Unhanded s (copyHapFile source package s).2 := by
  unfold Package.temp at h
  unfold copyHapFile
  cases hname : fileNameOf package.hapFilePath with
  | none => exact ⟨install_failed_ne, rfl, rfl, rfl, rfl⟩
  | some fileName =>
    rw [hname] at h
    simp only at h ⊢
    split
    · exact ⟨path_invalid_ne, rfl, rfl, rfl, rfl⟩
    · rename_i hlength
      split
      · exact ⟨path_invalid_ne, rfl, rfl, rfl, rfl⟩
      · rename_i htrusted
        split
        · exact ⟨system_abnormally_ne, rfl, rfl, rfl, rfl⟩
        · rename_i hdup
          split
          · exact ⟨system_abnormally_ne, rfl, rfl, rfl, by simp⟩
          · rename_i hopened
            rw [if_pos ⟨by omega, by simpa using htrusted, by simpa using hdup,
              by simpa using hopened⟩] at h
            exact nomatch h

theorem copyHapFile_unhanded : Unhanded s (copyHapFile source package s).2 := by
  cases htemp : package.temp with
  | none => exact (copyHapFile_unopened htemp).2.2.2
  | some path =>
    rw [copyHapFile_opened htemp]
    have hcontent : Unhanded (s.create path)
        (copyFileContent source package path (s.create path)).2 :=
      copyFileContent_unhanded path
    refine ⟨hcontent.handed, ?_⟩
    rw [receivedClosed_duplicate, receivedClosed_output]
    exact hcontent.closed

theorem copyHapFile_creates :
    (copyHapFile source package s).2.opened = s.opened ++ package.temp.toList := by
  cases htemp : package.temp with
  | none =>
    rw [(copyHapFile_unopened htemp).2.2.1]
    exact (List.append_nil _).symm
  | some path =>
    rw [copyHapFile_opened htemp]
    exact copyFileContent_opened path

theorem copyHapFile_copied {w : Path × List UInt8} (h : package.copied source = some w) :
    (copyHapFile source package s).1 = (ERR_OK, w.1) ∧
      (copyHapFile source package s).2.files = s.files.write w.1 w.2 := by
  obtain ⟨path, htemp, hmap⟩ := Option.bind_eq_some_iff.mp h
  obtain ⟨bytes, hbytes, rfl⟩ := Option.map_eq_some_iff.mp hmap
  have hcontent := @copyFileContent_some source package (s.create path) bytes hbytes path
  rw [copyHapFile_opened htemp]
  refine ⟨Prod.ext hcontent.1 rfl, ?_⟩
  show (copyFileContent source package path (s.create path)).2.files = _
  rw [hcontent.2]
  exact Files.write_write path [] bytes

/-- A copy that fails after its file was opened leaves an empty file. -/
theorem copyHapFile_stopped (h : package.copied source = none) :
    (copyHapFile source package s).1.1 ≠ ERR_OK ∧
      (copyHapFile source package s).2.files =
        s.files.writeAll (package.temp.toList.map fun path => (path, [])) := by
  cases htemp : package.temp with
  | none =>
    have hunopened := @copyHapFile_unopened source package s htemp
    exact ⟨hunopened.1, hunopened.2.1⟩
  | some path =>
    have hbytes : package.transferred source = none := by
      rw [Package.copied, htemp] at h
      exact Option.map_eq_none_iff.mp h
    have hcontent := @copyFileContent_none source package (s.create path) hbytes path
    rw [copyHapFile_opened htemp]
    exact ⟨hcontent.1, hcontent.2⟩

/-! ### The loop -/

/-- The packages before the first whose copy fails, each with its temporary file. -/
def copies (source : Sources) : List Package → List (Path × List UInt8)
  | [] => []
  | package :: rest =>
    match package.copied source with
    | some w => w :: copies source rest
    | none => []

/-- The first package whose copy fails. -/
def stopped (source : Sources) : List Package → Option Package
  | [] => none
  | package :: rest =>
    match package.copied source with
    | some _ => stopped source rest
    | none => some package

def copiedPaths (source : Sources) (ps : List Package) : List Path := (copies source ps).map Prod.fst

/-- The file that a failed copy has opened. -/
def strayPaths (source : Sources) (ps : List Package) : List Path :=
  ((stopped source ps).bind Package.temp).toList

theorem copies_cons_some {w : Path × List UInt8} (h : package.copied source = some w)
    (rest : List Package) : copies source (package :: rest) = w :: copies source rest := by
  rw [copies, h]

theorem copies_cons_none (h : package.copied source = none) (rest : List Package) :
    copies source (package :: rest) = [] := by
  rw [copies, h]

theorem stopped_cons_some {w : Path × List UInt8} (h : package.copied source = some w)
    (rest : List Package) : stopped source (package :: rest) = stopped source rest := by
  rw [stopped, h]

theorem stopped_cons_none (h : package.copied source = none) (rest : List Package) :
    stopped source (package :: rest) = some package := by
  rw [stopped, h]

theorem copiedPaths_cons_some {w : Path × List UInt8} (h : package.copied source = some w)
    (rest : List Package) :
    copiedPaths source (package :: rest) = w.1 :: copiedPaths source rest := by
  rw [copiedPaths, copies_cons_some h]
  rfl

theorem strayPaths_cons_some {w : Path × List UInt8} (h : package.copied source = some w)
    (rest : List Package) : strayPaths source (package :: rest) = strayPaths source rest := by
  rw [strayPaths, stopped_cons_some h]
  rfl

/-- What the loop does to everything but its result and the files. -/
structure LoopFrame (source : Sources) (ps : List Package) (s s' : Storage) : Prop where
  handed : s'.handed = s.handed
  closed : s'.receivedClosed = s.receivedClosed ++ ps.map Package.fd
  opened : s'.opened = s.opened ++ (copiedPaths source ps ++ strayPaths source ps)

theorem foldl_close (ps : List Package) (s : Storage) :
    (ps.foldl (fun s package => s.close (.received package.fd)) s).receivedClosed =
        s.receivedClosed ++ ps.map Package.fd ∧
      (ps.foldl (fun s package => s.close (.received package.fd)) s).handed = s.handed ∧
      (ps.foldl (fun s package => s.close (.received package.fd)) s).opened = s.opened ∧
      (ps.foldl (fun s package => s.close (.received package.fd)) s).files = s.files := by
  induction ps generalizing s with
  | nil => exact ⟨(List.append_nil _).symm, rfl, rfl, rfl⟩
  | cons package ps ih =>
    obtain ⟨hclosed, hhanded, hopened, hfiles⟩ := ih (s.close (.received package.fd))
    refine ⟨?_, hhanded, hopened, hfiles⟩
    rw [List.foldl_cons, hclosed, receivedClosed_received, List.append_assoc]
    rfl

theorem copyAll_frame (ps : List Package) (tempPaths : List Path) (s : Storage) :
    LoopFrame source ps s (copyAll source answers ps tempPaths s).2 := by
  induction ps generalizing tempPaths s with
  | nil => exact ⟨rfl, (List.append_nil _).symm, (List.append_nil _).symm⟩
  | cons package rest ih =>
    have hunhanded := @copyHapFile_unhanded source package s
    have hcreates := @copyHapFile_creates source package s
    have hclosed : ((copyHapFile source package s).2.close (.received package.fd)).receivedClosed =
        s.receivedClosed ++ [package.fd] := by
      rw [receivedClosed_received, hunhanded.closed]
    cases hcopied : package.copied source with
    | none =>
      obtain ⟨hne, -⟩ := @copyHapFile_stopped source package s hcopied
      have hstray : copiedPaths source (package :: rest) ++ strayPaths source (package :: rest) =
          package.temp.toList := by
        rw [copiedPaths, strayPaths, copies_cons_none hcopied, stopped_cons_none hcopied]
        rfl
      obtain ⟨hall, hhanded, hopened, -⟩ :=
        foldl_close rest ((copyHapFile source package s).2.close (.received package.fd))
      rw [copyAll]
      simp only [bne_iff_ne, ne_eq, hne, not_false_eq_true, if_true]
      refine ⟨hhanded.trans hunhanded.handed, ?_, ?_⟩
      · exact (hall.trans (congrArg (· ++ _) hclosed)).trans (List.append_assoc ..)
      · rw [hstray]
        exact hopened.trans hcreates
    | some w =>
      obtain ⟨hok, -⟩ := @copyHapFile_copied source package s w hcopied
      obtain ⟨path, htemp, hmap⟩ := Option.bind_eq_some_iff.mp hcopied
      obtain ⟨bytes, -, rfl⟩ := Option.map_eq_some_iff.mp hmap
      obtain ⟨hhanded, hall, hopened⟩ := ih (tempPaths ++ [path])
        ((copyHapFile source package s).2.close (.received package.fd))
      rw [copyAll]
      simp only [hok, bne_self_eq_false, Bool.false_eq_true, if_false]
      refine ⟨hhanded.trans hunhanded.handed, ?_, ?_⟩
      · exact (hall.trans (congrArg (· ++ _) hclosed)).trans (List.append_assoc ..)
      · rw [hopened, copiedPaths_cons_some hcopied, strayPaths_cons_some hcopied]
        show (copyHapFile source package s).2.opened ++ _ = _
        rw [hcreates, htemp, List.append_assoc]
        rfl

/-- A loop that copies every package. -/
theorem copyAll_done {ps : List Package} (h : stopped source ps = none) (tempPaths : List Path)
    (s : Storage) :
    (copyAll source answers ps tempPaths s).1 = (ERR_OK, tempPaths ++ copiedPaths source ps) ∧
      (copyAll source answers ps tempPaths s).2.files = s.files.writeAll (copies source ps) := by
  induction ps generalizing tempPaths s with
  | nil => exact ⟨congrArg (ERR_OK, ·) (List.append_nil _).symm, rfl⟩
  | cons package rest ih =>
    cases hcopied : package.copied source with
    | none =>
      rw [stopped_cons_none hcopied] at h
      cases h
    | some w =>
      rw [stopped_cons_some hcopied] at h
      obtain ⟨hok, hfiles⟩ := @copyHapFile_copied source package s w hcopied
      obtain ⟨hresult, hwritten⟩ := ih h (tempPaths ++ [w.1])
        ((copyHapFile source package s).2.close (.received package.fd))
      rw [copyAll, copiedPaths_cons_some hcopied, copies_cons_some hcopied]
      simp only [hok, bne_self_eq_false, Bool.false_eq_true, if_false]
      refine ⟨hresult.trans ?_, hwritten.trans ?_⟩
      · rw [List.append_assoc]
        rfl
      · exact congrArg (Files.writeAll · (copies source rest)) hfiles

/-- A loop that stops removes the files that it has copied so far. -/
theorem copyAll_stopped {ps : List Package} {last : Package} (h : stopped source ps = some last)
    (tempPaths : List Path) (s : Storage) :
    (copyAll source answers ps tempPaths s).1.1 ≠ ERR_OK ∧
      (copyAll source answers ps tempPaths s).2.files =
        (s.files.writeAll (copies source ps ++ last.temp.toList.map fun path => (path, []))).removeAll
          answers.removeFile 0 (tempPaths ++ copiedPaths source ps) := by
  induction ps generalizing tempPaths s with
  | nil => cases h
  | cons package rest ih =>
    cases hcopied : package.copied source with
    | none =>
      rw [stopped_cons_none hcopied] at h
      obtain rfl := Option.some.inj h
      obtain ⟨hne, hfiles⟩ := @copyHapFile_stopped source package s hcopied
      obtain ⟨-, -, -, hsame⟩ :=
        foldl_close rest ((copyHapFile source package s).2.close (.received package.fd))
      rw [copyAll, copiedPaths, copies_cons_none hcopied]
      simp only [bne_iff_ne, ne_eq, hne, not_false_eq_true, if_true, true_and, List.map_nil,
        List.append_nil, List.nil_append]
      exact congrArg (Files.removeAll answers.removeFile 0 tempPaths) (hsame.trans hfiles)
    | some w =>
      rw [stopped_cons_some hcopied] at h
      obtain ⟨hok, hfiles⟩ := @copyHapFile_copied source package s w hcopied
      obtain ⟨hresult, hremoved⟩ := ih h (tempPaths ++ [w.1])
        ((copyHapFile source package s).2.close (.received package.fd))
      rw [copyAll, copiedPaths_cons_some hcopied, copies_cons_some hcopied]
      simp only [hok, bne_self_eq_false, Bool.false_eq_true, if_false]
      refine ⟨hresult, hremoved.trans ?_⟩
      rw [List.append_assoc]
      exact congrArg (fun files => Files.removeAll answers.removeFile 0 (tempPaths ++
        ([w.1] ++ copiedPaths source rest)) (Files.writeAll files _)) hfiles

/-! ### The whole installation -/

/-- What follows the copies: at most one call of the installer, and one removal of the files. -/
structure InstallFrame (answers : Answers) (param : InstallParam) (tempPaths : List Path)
    (s : Storage) (result : ErrCode × Storage) : Prop where
  files : result.2.files = s.files.removeAll answers.removeFile 0 tempPaths
  opened : result.2.opened = s.opened
  closed : result.2.receivedClosed = s.receivedClosed
  handed : result.2.handed = s.handed ++ if answers.installer = true then
    [⟨tempPaths.map fun path => (path, s.files path), param.userId, param.installFlag,
      param.parameters⟩] else []
  removed : result.1 = ERR_OK → (List.range tempPaths.length).all answers.removeFile = true

theorem executeStreamInstall_frame (tempPaths : List Path) :
    InstallFrame answers param tempPaths s (executeStreamInstall answers tempPaths param s) := by
  unfold executeStreamInstall
  cases hinstaller : answers.installer with
  | false =>
    exact {
      files := rfl
      opened := rfl
      closed := rfl
      handed := by rw [hinstaller]; exact (List.append_nil _).symm
      removed := fun h => absurd h system_abnormally_ne }
  | true =>
    have hhanded : ∀ calls : List StreamInstall, s.handed ++ calls =
        s.handed ++ if answers.installer = true then calls else [] := fun calls => by
      rw [if_pos hinstaller]
    simp only [Bool.true_eq_false, if_false]
    unfold handleInstallResult deleteFiles
    split
    · split
      · exact ⟨rfl, rfl, rfl, hhanded _, fun h => absurd h system_abnormally_ne⟩
      · exact ⟨rfl, rfl, rfl, hhanded _, fun h => absurd h path_invalid_ne⟩
    · simp only
      split
      · exact ⟨rfl, rfl, rfl, hhanded _, fun h => absurd h system_abnormally_ne⟩
      · rename_i hdeleted
        have hremoved := Bool.of_not_eq_false hdeleted
        split <;> exact ⟨rfl, rfl, rfl, hhanded _, fun _ => hremoved⟩

/-- The copies, the descriptors and the files of an installation that returns `result`. -/
structure CleanInstall (source : Sources) (param : InstallParam) (result : ErrCode × Storage) :
    Prop where
  complete : ∀ call, call ∈ result.2.handed →
    call.files.map Prod.snd = param.hapFds.map fun fd => some (source fd)
  closed : result.2.receivedClosed = param.hapFds
  cleaned : result.1 ≠ ERR_OK → ∀ path, path ∈ result.2.opened → result.2.files path = none

/-- The loop over the packages is reached. -/
def Answers.Prepared (answers : Answers) (param : InstallParam) : Prop :=
  createDirectory answers = true ∧ param.hapFilePaths.length = param.hapFds.length

/-- The directory is created, every temporary file that is opened is one of those whose removal is
asked for and succeeds, and if the installer is reached then no package has been cut short or
overwritten by another. -/
structure CleanWhen (source : Sources) (answers : Answers) (param : InstallParam) : Prop where
  directory : createDirectory answers = true ∨ param.hapFds = []
  removed : answers.Prepared param → ∀ path, path ∈ copiedPaths source (packages answers param) ++
      strayPaths source (packages answers param) →
    RemovedIn answers.removeFile (copiedPaths source (packages answers param)) path
  complete : answers.Prepared param → stopped source (packages answers param) = none →
    answers.installer = true → ∀ package, package ∈ packages answers param →
      ∀ path, package.temp = some path →
        lastWritten path (copies source (packages answers param)) = some (source package.fd)

theorem packages_fds (h : param.hapFilePaths.length = param.hapFds.length) :
    (packages answers param).map Package.fd = param.hapFds := by
  rw [packages]
  refine List.ext_getElem? fun i => ?_
  rw [List.getElem?_map, List.getElem?_mapIdx, Option.map_map]
  show Option.map Prod.fst (param.hapFds.zip param.hapFilePaths)[i]? = _
  rw [← List.getElem?_map, List.map_fst_zip (by omega)]

theorem receivedClosed_foldl (fds : List Int) (s : Storage) :
    (fds.foldl (fun s fd => s.close (.received fd)) s).receivedClosed = s.receivedClosed ++ fds ∧
      (fds.foldl (fun s fd => s.close (.received fd)) s).handed = s.handed ∧
      (fds.foldl (fun s fd => s.close (.received fd)) s).opened = s.opened := by
  induction fds generalizing s with
  | nil => exact ⟨(List.append_nil _).symm, rfl, rfl⟩
  | cons fd fds ih =>
    obtain ⟨hclosed, hhanded, hopened⟩ := ih (s.close (.received fd))
    refine ⟨?_, hhanded, hopened⟩
    rw [List.foldl_cons, hclosed, receivedClosed_received, List.append_assoc]
    rfl

/-- If every package is copied, the copied paths are those of the packages, in order. -/
theorem map_copiedPaths_iff {ps : List Package} (h : stopped source ps = none)
    {f : Path → Option (List UInt8)} :
    (copiedPaths source ps).map f = (ps.map Package.fd).map (fun fd => some (source fd)) ↔
      ∀ package, package ∈ ps → ∀ path, package.temp = some path →
        f path = some (source package.fd) := by
  induction ps with
  | nil => exact iff_of_true rfl fun _ hin => absurd hin List.not_mem_nil
  | cons package rest ih =>
    cases hcopied : package.copied source with
    | none =>
      rw [stopped_cons_none hcopied] at h
      cases h
    | some w =>
      rw [stopped_cons_some hcopied] at h
      obtain ⟨path, htemp, hmap⟩ := Option.bind_eq_some_iff.mp hcopied
      obtain ⟨bytes, -, rfl⟩ := Option.map_eq_some_iff.mp hmap
      rw [copiedPaths_cons_some hcopied, List.map_cons, List.map_cons, List.map_cons,
        List.cons_eq_cons, ih h, List.forall_mem_cons, htemp]
      simp only [Option.some.injEq, forall_eq']

theorem mem_copiedPaths {ps : List Package} (h : stopped source ps = none) {package : Package}
    (hin : package ∈ ps) {path : Path} (htemp : package.temp = some path) :
    path ∈ copiedPaths source ps := by
  induction ps with
  | nil => exact absurd hin List.not_mem_nil
  | cons first rest ih =>
    cases hcopied : first.copied source with
    | none =>
      rw [stopped_cons_none hcopied] at h
      cases h
    | some w =>
      rw [stopped_cons_some hcopied] at h
      rw [copiedPaths_cons_some hcopied]
      rcases List.mem_cons.mp hin with rfl | hin
      · obtain ⟨path', htemp', hmap⟩ := Option.bind_eq_some_iff.mp hcopied
        obtain ⟨bytes, -, rfl⟩ := Option.map_eq_some_iff.mp hmap
        obtain rfl := Option.some.inj (htemp.symm.trans htemp')
        exact List.mem_cons_self
      · exact List.mem_cons_of_mem _ (ih h hin)

/-- An installation that does not reach the loop opens no file and hands nothing over. -/
theorem clean_unprepared_iff (files : Files Path (List UInt8))
    (h : ¬answers.Prepared param) :
    CleanInstall source param (onSetPolicy source answers param (Storage.start files)) ↔
      CleanWhen source answers param := by
  have hunopened : (onSetPolicy source answers param (Storage.start files)).2.handed = [] ∧
      (onSetPolicy source answers param (Storage.start files)).2.opened = [] ∧
      (onSetPolicy source answers param (Storage.start files)).2.receivedClosed =
        if createDirectory answers = true then param.hapFds else [] := by
    unfold onSetPolicy prepareTempFiles
    cases hdirectory : createDirectory answers with
    | false =>
      simp only [if_true, Bool.false_eq_true, if_false]
      rw [if_pos system_abnormally_ne]
      exact ⟨rfl, rfl, rfl⟩
    | true =>
      have hlength : param.hapFilePaths.length ≠ param.hapFds.length := fun heq =>
        h ⟨hdirectory, heq⟩
      simp only [Bool.true_eq_false, if_false, if_true]
      rw [if_pos hlength]
      simp only
      rw [if_pos system_abnormally_ne]
      obtain ⟨hclosed, hhanded, hopened⟩ := receivedClosed_foldl param.hapFds (Storage.start files)
      exact ⟨hhanded, hopened, hclosed⟩
  obtain ⟨hhanded, hopened, hclosed⟩ := hunopened
  constructor
  · intro hclean
    refine ⟨?_, fun hprepared => absurd hprepared h, fun hprepared => absurd hprepared h⟩
    by_cases hdirectory : createDirectory answers = true
    · exact .inl hdirectory
    · have hnil := hclean.closed
      rw [hclosed, if_neg hdirectory] at hnil
      exact .inr hnil.symm
  · intro hwhen
    refine ⟨fun call hcall => ?_, ?_, fun _ path hpath => ?_⟩
    · rw [hhanded] at hcall
      exact absurd hcall List.not_mem_nil
    · rw [hclosed]
      rcases hwhen.directory with hdirectory | hnil
      · rw [if_pos hdirectory]
      · rw [hnil, ite_self]
    · rw [hopened] at hpath
      exact absurd hpath List.not_mem_nil

theorem prepareTempFiles_prepared (h : answers.Prepared param) :
    prepareTempFiles source answers param s =
      copyAll source answers (packages answers param) [] s := by
  unfold prepareTempFiles
  have hdirectory : ¬createDirectory answers = false := by
    rw [h.1]
    exact Bool.noConfusion
  rw [if_neg hdirectory, if_neg (not_not.mpr h.2)]

theorem removed_iff {writes : List (Path × List UInt8)} {paths : List Path}
    {files : Files Path (List UInt8)} {path : Path} (hpath : path ∈ writes.map Prod.fst) :
    (files.writeAll writes).removeAll answers.removeFile 0 paths path = none ↔
      RemovedIn answers.removeFile paths path := by
  rw [Files.removeAll_eq_none, or_iff_right (Files.writeAll_isSome hpath)]
  simp only [Nat.zero_add]

theorem removedIn_of_all {paths : List Path}
    (h : (List.range paths.length).all answers.removeFile = true) {path : Path}
    (hpath : path ∈ paths) : RemovedIn answers.removeFile paths path := by
  obtain ⟨i, hi⟩ := List.mem_iff_getElem?.mp hpath
  obtain ⟨hlt, -⟩ := List.getElem?_eq_some_iff.mp hi
  exact ⟨i, hi, List.all_eq_true.mp h i (List.mem_range.mpr hlt)⟩

/-- An installation whose every package is copied. -/
theorem clean_copied_iff (files : Files Path (List UInt8)) (hprepared : answers.Prepared param)
    (hstopped : stopped source (packages answers param) = none) :
    CleanInstall source param (onSetPolicy source answers param (Storage.start files)) ↔
      CleanWhen source answers param := by
  obtain ⟨hresult, hwritten⟩ := @copyAll_done source answers _ hstopped [] (Storage.start files)
  have hframe : LoopFrame source (packages answers param) (Storage.start files)
      (copyAll source answers (packages answers param) [] (Storage.start files)).2 :=
    copyAll_frame _ [] _
  have hset : onSetPolicy source answers param (Storage.start files) =
      executeStreamInstall answers (copiedPaths source (packages answers param)) param
        (copyAll source answers (packages answers param) [] (Storage.start files)).2 := by
    unfold onSetPolicy
    rw [prepareTempFiles_prepared hprepared]
    simp only
    rw [hresult]
    exact if_neg (not_not.mpr rfl)
  rw [hset]
  generalize (copyAll source answers (packages answers param) [] (Storage.start files)).2 = s
    at hwritten hframe
  have hexec : InstallFrame answers param (copiedPaths source (packages answers param)) s
      (executeStreamInstall answers (copiedPaths source (packages answers param)) param s) :=
    executeStreamInstall_frame _
  generalize executeStreamInstall answers (copiedPaths source (packages answers param)) param s =
    result at hexec
  have hstray : strayPaths source (packages answers param) = [] := by
    rw [strayPaths, hstopped]
    rfl
  have hopened : result.2.opened = copiedPaths source (packages answers param) := by
    rw [hexec.opened, hframe.opened, hstray, List.append_nil]
    rfl
  have hclosed : result.2.receivedClosed = param.hapFds := by
    rw [hexec.closed, hframe.closed, packages_fds hprepared.2]
    rfl
  have hgone : ∀ path, path ∈ copiedPaths source (packages answers param) →
      (result.2.files path = none ↔ RemovedIn answers.removeFile
        (copiedPaths source (packages answers param)) path) := fun path hpath => by
    rw [hexec.files, hwritten]
    exact removed_iff hpath
  have hcalls : (∀ call, call ∈ result.2.handed →
      call.files.map Prod.snd = param.hapFds.map fun fd => some (source fd)) ↔
      (answers.installer = true → ∀ package, package ∈ packages answers param →
        ∀ path, package.temp = some path → s.files path = some (source package.fd)) := by
    rw [← map_copiedPaths_iff hstopped, packages_fds hprepared.2, hexec.handed, hframe.handed]
    by_cases hinstaller : answers.installer = true
    · simp [hinstaller, Storage.start, Function.comp_def]
    · simp [hinstaller, Storage.start]
  have hwrote : ∀ package, package ∈ packages answers param → ∀ path, package.temp = some path →
      s.files path = lastWritten path (copies source (packages answers param)) :=
    fun package hin path htemp => by
      rw [hwritten]
      exact Files.writeAll_of_mem (mem_copiedPaths hstopped hin htemp)
  constructor
  · intro hclean
    refine ⟨.inl hprepared.1, fun _ path hpath => ?_, fun _ _ hinstaller package hin path htemp => ?_⟩
    · rw [hstray, List.append_nil] at hpath
      by_cases hok : result.1 = ERR_OK
      · exact removedIn_of_all (hexec.removed hok) hpath
      · exact (hgone path hpath).mp (hclean.cleaned hok path (hopened ▸ hpath))
    · rw [← hwrote package hin path htemp]
      exact hcalls.mp hclean.complete hinstaller package hin path htemp
  · intro hwhen
    refine ⟨hcalls.mpr fun hinstaller package hin path htemp => ?_, hclosed, fun _ path hpath => ?_⟩
    · rw [hwrote package hin path htemp]
      exact hwhen.complete hprepared hstopped hinstaller package hin path htemp
    · rw [hopened] at hpath
      exact (hgone path hpath).mpr
        (hwhen.removed hprepared path (List.mem_append_left _ hpath))

/-- An installation that stops at a package. -/
theorem clean_stopped_iff (files : Files Path (List UInt8)) (hprepared : answers.Prepared param)
    {last : Package} (hstopped : stopped source (packages answers param) = some last) :
    CleanInstall source param (onSetPolicy source answers param (Storage.start files)) ↔
      CleanWhen source answers param := by
  obtain ⟨hne, hremoved⟩ := @copyAll_stopped source answers _ _ hstopped [] (Storage.start files)
  have hframe : LoopFrame source (packages answers param) (Storage.start files)
      (copyAll source answers (packages answers param) [] (Storage.start files)).2 :=
    copyAll_frame _ [] _
  have hset : onSetPolicy source answers param (Storage.start files) =
      ((copyAll source answers (packages answers param) [] (Storage.start files)).1.1,
        (copyAll source answers (packages answers param) [] (Storage.start files)).2) := by
    unfold onSetPolicy
    rw [prepareTempFiles_prepared hprepared]
    exact if_pos hne
  rw [hset]
  generalize copyAll source answers (packages answers param) [] (Storage.start files) = result
    at hne hremoved hframe
  have hstray : strayPaths source (packages answers param) = last.temp.toList := by
    rw [strayPaths, hstopped]
    rfl
  have hopened : result.2.opened = copiedPaths source (packages answers param) ++
      strayPaths source (packages answers param) := hframe.opened
  have hgone : ∀ path, path ∈ copiedPaths source (packages answers param) ++
      strayPaths source (packages answers param) →
      (result.2.files path = none ↔ RemovedIn answers.removeFile
        (copiedPaths source (packages answers param)) path) := fun path hpath => by
    rw [hremoved, List.nil_append]
    refine removed_iff ?_
    rw [hstray] at hpath
    rw [List.map_append, List.map_map]
    simpa [copiedPaths, Function.comp_def] using hpath
  constructor
  · intro hclean
    refine ⟨.inl hprepared.1, fun _ path hpath => ?_, fun _ hnone => ?_⟩
    · exact (hgone path hpath).mp (hclean.cleaned hne path (hopened ▸ hpath))
    · rw [hstopped] at hnone
      cases hnone
  · intro hwhen
    refine ⟨fun call hcall => ?_, ?_, fun _ path hpath => ?_⟩
    · rw [hframe.handed] at hcall
      exact absurd hcall List.not_mem_nil
    · rw [hframe.closed, packages_fds hprepared.2]
      rfl
    · rw [hopened] at hpath
      exact (hgone path hpath).mpr (hwhen.removed hprepared path hpath)

/-- Exactly when an installation hands over complete copies only, closes every received descriptor
once, and leaves no temporary file behind an error. -/
theorem install_clean_iff (source : Sources) (answers : Answers) (param : InstallParam)
    (files : Files Path (List UInt8)) :
    CleanInstall source param (onSetPolicy source answers param (Storage.start files)) ↔
      CleanWhen source answers param := by
  by_cases hprepared : answers.Prepared param
  · cases hstopped : stopped source (packages answers param) with
    | none => exact clean_copied_iff files hprepared hstopped
    | some last => exact clean_stopped_iff files hprepared hstopped
  · exact clean_unprepared_iff files hprepared

end Edm.InstallPlugin

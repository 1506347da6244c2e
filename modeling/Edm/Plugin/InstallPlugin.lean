import Edm.Errors
import Edm.Library.ByteText
import Edm.Library.Files

/-! The plugin that installs packages from descriptors: each package is copied to a temporary file,
and the temporary files are handed to the bundle installer. -/

set_option autoImplicit false

namespace Edm

open Library

/-! ### Codes of the bundle installer -/

def ERROR_INVALID_USER_ID : Int := 17700004
def ERROR_INSTALL_PARSE_FAILED_JS : Int := 17700010
def ERROR_INSTALL_VERIFY_SIGNATURE_FAILED : Int := 17700011
def ERROR_INSTALL_HAP_FILEPATH_INVALID : Int := 17700012
def ERROR_INSTALL_MULTIPLE_HAP_INFO_INCONSISTENT : Int := 17700015
def ERROR_INSTALL_NO_DISK_SPACE_LEFT : Int := 17700016
def ERROR_INSTALL_VERSION_DOWNGRADE_JS : Int := 17700017
def ERROR_INSTALL_DEPENDENT_MODULE_NOT_EXIST_JS : Int := 17700018
def ERROR_INSTALL_HAP_OVERLAY_CHECK_FAILED : Int := 17700031
def ERROR_INSTALL_SHARE_APP_LIBRARY_NOT_ALLOWED_JS : Int := 17700036
def ERROR_INSTALL_FILE_IS_SHARED_LIBRARY_JS : Int := 17700039
def ERROR_DISALLOW_INSTALL : Int := 17700041
def ERROR_INSTALL_WRONG_DATA_PROXY_URI : Int := 17700042
def ERROR_INSTALL_WRONG_DATA_PROXY_PERMISSION : Int := 17700043
def ERROR_INSTALL_WRONG_MODE_ISOLATION : Int := 17700044
def ERROR_INSTALL_ALREADY_EXIST_JS : Int := 17700047
def ERROR_INSTALL_CODE_SIGNATURE_FAILED_JS : Int := 17700048
def ERROR_INSTALL_ENTERPRISE_BUNDLE_NOT_ALLOWED_JS : Int := 17700050

/-- The codes of the bundle installer, each with the code of the application interface it stands
for. -/
def STREAM_INSTALL_TO_JS_INSTALL_MAP : List (Int × Int) :=
  [301].map (·, ERROR_INVALID_USER_ID) ++
  [9568262, 9568337, 9568338, 9568340, 9568341, 9568342, 9568259, 9568343, 9568344, 9568346,
   9568347, 9568348, 9568339, 9568321, 9568308, 9568304, 9568413, 9568345, 9568365, 9568366,
   9568370, 9568415, 9568449].map (·, ERROR_INSTALL_PARSE_FAILED_JS) ++
  [9568264, 9568331, 9568318, 9568319, 9568320, 9568257, 9568322, 9568323, 9568324, 9568326,
   9568327, 9568328, 9568329, 9568330, 9568423, 9568302, 9568442, 9568375
   ].map (·, ERROR_INSTALL_VERIFY_SIGNATURE_FAILED) ++
  [9568271, 9568269].map (·, ERROR_INSTALL_HAP_FILEPATH_INVALID) ++
  [9568267, 9568277, 9568278, 9568279, 9568280, 9568281, 9568258, 9568282, 9568283, 9568291,
   9568293, 9568294, 9568295, 9568284, 9568285, 9568286, 9568298, 9568299, 9568296, 9568300,
   9568301, 9568287, 9568306, 9568307, 9568310, 9568367, 9568368, 9568369, 9568371, 9568373,
   9568378, 9568336, 9568400].map (·, ERROR_INSTALL_MULTIPLE_HAP_INFO_INCONSISTENT) ++
  [9568288].map (·, ERROR_INSTALL_NO_DISK_SPACE_LEFT) ++
  [9568263].map (·, ERROR_INSTALL_VERSION_DOWNGRADE_JS) ++
  [9568305].map (·, ERROR_INSTALL_DEPENDENT_MODULE_NOT_EXIST_JS) ++
  [9568374, 9568376, 9568377].map (·, ERROR_INSTALL_HAP_OVERLAY_CHECK_FAILED) ++
  [9568309].map (·, ERROR_INSTALL_SHARE_APP_LIBRARY_NOT_ALLOWED_JS) ++
  [9568314].map (·, ERROR_INSTALL_FILE_IS_SHARED_LIBRARY_JS) ++
  [9568303].map (·, ERROR_DISALLOW_INSTALL) ++
  [9568315].map (·, ERROR_INSTALL_WRONG_DATA_PROXY_URI) ++
  [9568316].map (·, ERROR_INSTALL_WRONG_DATA_PROXY_PERMISSION) ++
  [9568317].map (·, ERROR_INSTALL_WRONG_MODE_ISOLATION) ++
  [9568276].map (·, ERROR_INSTALL_ALREADY_EXIST_JS) ++
  [9568393, 9568394, 9568403, 9568404, 9568405
   ].map (·, ERROR_INSTALL_CODE_SIGNATURE_FAILED_JS) ++
  [9568398].map (·, ERROR_INSTALL_ENTERPRISE_BUNDLE_NOT_ALLOWED_JS)

def INSTALL_ERRCODE_CONVERT_MAP : List (Int × ErrCode) :=
  [(ERROR_INVALID_USER_ID, EdmReturnErrCode.INSTALL_APP_USER_ID_NOT_FOUND),
   (ERROR_INSTALL_PARSE_FAILED_JS, EdmReturnErrCode.INSTALL_APP_PARSE_FAILED),
   (ERROR_INSTALL_VERIFY_SIGNATURE_FAILED, EdmReturnErrCode.INSTALL_APP_SIGNATURE_VERIFY_FAILED),
   (ERROR_INSTALL_HAP_FILEPATH_INVALID, EdmReturnErrCode.INSTALL_APP_PATH_INVALID_OR_TOO_LARGE),
   (ERROR_INSTALL_MULTIPLE_HAP_INFO_INCONSISTENT,
    EdmReturnErrCode.INSTALL_APPS_CONFIGURATION_MISMATCH),
   (ERROR_INSTALL_NO_DISK_SPACE_LEFT, EdmReturnErrCode.INSTALL_APP_INSUFFICIENT_DISK_SPACE),
   (ERROR_INSTALL_VERSION_DOWNGRADE_JS, EdmReturnErrCode.INSTALL_APP_VERSION_TOO_EARLY),
   (ERROR_INSTALL_DEPENDENT_MODULE_NOT_EXIST_JS,
    EdmReturnErrCode.INSTALL_APP_DEPENDANT_MODULE_NOT_EXIST),
   (ERROR_INSTALL_HAP_OVERLAY_CHECK_FAILED, EdmReturnErrCode.INSTALL_APP_OVERLAY_CHECK_FAILED),
   (ERROR_INSTALL_SHARE_APP_LIBRARY_NOT_ALLOWED_JS,
    EdmReturnErrCode.INSTALL_APP_MISSING_REQUIRED_PERMISSIONS_FOR_HSP),
   (ERROR_INSTALL_FILE_IS_SHARED_LIBRARY_JS,
    EdmReturnErrCode.INSTALL_APP_SHARED_LIBRARIES_NOT_ALLOWED),
   (ERROR_DISALLOW_INSTALL, EdmReturnErrCode.INSTALL_APP_ENTERPRISE_DISALLOWED),
   (ERROR_INSTALL_WRONG_DATA_PROXY_URI, EdmReturnErrCode.INSTALL_APP_URI_INCORRECT),
   (ERROR_INSTALL_WRONG_DATA_PROXY_PERMISSION,
    EdmReturnErrCode.INSTALL_APP_PERMISSION_CONFIGURATION_INCORRECT),
   (ERROR_INSTALL_WRONG_MODE_ISOLATION, EdmReturnErrCode.INSTALL_APP_ISOLATION_MODE_NOT_SUPPORTED),
   (ERROR_INSTALL_ALREADY_EXIST_JS, EdmReturnErrCode.INSTALL_APP_VERSION_CODE_NOT_GREATER),
   (ERROR_INSTALL_CODE_SIGNATURE_FAILED_JS,
    EdmReturnErrCode.INSTALL_APP_CODE_SIGNATURE_VERIFICATION_FAILURE),
   (ERROR_INSTALL_ENTERPRISE_BUNDLE_NOT_ALLOWED_JS,
    EdmReturnErrCode.INSTALL_APP_ENTERPRISE_DEVICE_VERIFICATION_FAILURE)]

/-- `EdmUtils::TrustedExternalPath`.  `../` is an occurrence of `./`. -/
def EdmUtils.trustedExternalPath (filePath : List UInt8) : Bool :=
  if filePath = [] then false
  else if ascii "./" <:+: filePath ∨ ascii ".\\.\\" <:+: filePath ∨ 0 ∈ filePath ∨
      ascii "//" <:+: filePath then false
  else if ascii "/." <:+ filePath ∨ ascii "/.." <:+ filePath then false
  else true

namespace InstallPlugin

/-! ### Paths -/

abbrev Path := List UInt8

def HAP_DIRECTORY : Path := ascii "/data/service/el1/public/edm/stream_install"
def FILE_PREFIX : Path := ascii "edm_"
def MAX_HAP_FILE_SIZE : Nat := 4 * 1024 * 1024 * 1024
def PATH_MAX : Nat := 4096
def TEMP_DIR_LEN : Nat := 44

/-- `/`. -/
def SEPARATOR : UInt8 := 47

/-- The name after the last separator.  A path without a separator, or one that ends in it, has
none. -/
def fileNameOf (hapFilePath : Path) : Option Path :=
  if SEPARATOR ∈ hapFilePath then
    let fileName := (hapFilePath.reverse.takeWhile (· != SEPARATOR)).reverse
    if fileName = [] then none else some fileName
  else none

/-- What the system answers while one package is copied: the clock and the random number of the
file's prefix, whether `dup`, `open` and `fstat` succeed, and how many bytes `sendfile` transfers, or
none when it fails. -/
structure CopyAnswers where
  timestamp : Nat
  random : Nat
  dup : Bool
  opened : Bool
  fstat : Bool
  sendfile : Option Nat
deriving DecidableEq, Repr

/-- What the system answers to a call of the plugin.  `removeFile i` tells whether the temporary file
at index `i` of those deleted can be removed. -/
structure Answers where
  forceCreateDirectory : Bool
  chown : Bool
  changeModeFile : Bool
  copies : Nat → CopyAnswers
  removeFile : Nat → Bool
  bundleMgr : Bool
  bundleInstaller : Bool
  callback : Bool
  streamInstall : ErrCode
  resultCode : Int
  resultMsg : List UInt8

structure InstallParam where
  hapFilePaths : List Path
  hapFds : List Int
  userId : Int
  installFlag : Int
  parameters : List (List UInt8 × List UInt8)
deriving DecidableEq, Repr

/-- A descriptor of the process, by where it comes from. -/
inductive Descriptor where
  | received (fd : Int)
  | duplicate (fd : Int)
  | output (path : Path)
deriving DecidableEq, Repr

inductive ReplyItem where
  | int32 (value : Int)
  | text (value : List UInt8)
deriving DecidableEq, Repr

/-- A call of `StreamInstall`: the files, each with what it holds at that time. -/
structure StreamInstall where
  files : List (Path × Option (List UInt8))
  userId : Int
  installFlag : Int
  parameters : List (List UInt8 × List UInt8)
deriving DecidableEq, Repr

/-- The files of the system, the temporary files opened so far, the descriptors closed, the calls of
the bundle installer and the reply. -/
structure Storage where
  files : Files Path (List UInt8)
  opened : List Path
  closed : List Descriptor
  handed : List StreamInstall
  reply : List ReplyItem

def Storage.start (files : Files Path (List UInt8)) : Storage := ⟨files, [], [], [], []⟩

def Storage.write (s : Storage) (items : List ReplyItem) : Storage :=
  { s with reply := s.reply ++ items }

def Storage.close (s : Storage) (descriptor : Descriptor) : Storage :=
  { s with closed := s.closed ++ [descriptor] }

/-- `open` with `O_CREAT | O_TRUNC`. -/
def Storage.create (s : Storage) (path : Path) : Storage :=
  { s with files := s.files.write path [], opened := s.opened ++ [path] }

/-- A received descriptor with its path and the answers while it is copied. -/
structure Package where
  fd : Int
  hapFilePath : Path
  answers : CopyAnswers
deriving DecidableEq, Repr

def packages (answers : Answers) (param : InstallParam) : List Package :=
  (param.hapFds.zip param.hapFilePaths).mapIdx fun i item => ⟨item.1, item.2, answers.copies i⟩

def generateUniqueFilePrefix (answers : CopyAnswers) : Path :=
  FILE_PREFIX ++ ascii (toString answers.timestamp) ++ ascii "_" ++
    ascii (toString answers.random) ++ ascii "_"

def createDirectory (answers : Answers) : Bool :=
  answers.forceCreateDirectory && answers.chown && answers.changeModeFile

/-- The content of the file behind a descriptor. -/
abbrev Sources := Int → List UInt8

/-- `CopyFileContent`.  `sendfile` is called once, from the start of the file. -/
def copyFileContent (source : Sources) (package : Package) (output : Path) (s : Storage) :
    ErrCode × Storage :=
  if package.answers.fstat = false then
    (EdmReturnErrCode.SYSTEM_ABNORMALLY, s.write [.int32 EdmReturnErrCode.SYSTEM_ABNORMALLY])
  else if (source package.fd).length > MAX_HAP_FILE_SIZE then
    (EdmReturnErrCode.INSTALL_APP_PATH_INVALID_OR_TOO_LARGE,
      s.write [.int32 EdmReturnErrCode.INSTALL_APP_PATH_INVALID_OR_TOO_LARGE,
        .text (ascii "hap file too large")])
  else
    match package.answers.sendfile with
    | none =>
      (EdmReturnErrCode.APPLICATION_INSTALL_FAILED,
        s.write [.int32 EdmReturnErrCode.APPLICATION_INSTALL_FAILED])
    | some count =>
      (ERR_OK, { s with files := s.files.write output ((source package.fd).take count) })

/-- `CopyHapFile`, with the path it leaves in `tempPath`. -/
def copyHapFile (source : Sources) (package : Package) (s : Storage) :
    (ErrCode × Path) × Storage :=
  match fileNameOf package.hapFilePath with
  | none =>
    ((EdmReturnErrCode.APPLICATION_INSTALL_FAILED, []),
      s.write [.int32 EdmReturnErrCode.APPLICATION_INSTALL_FAILED,
        .text (ascii "invalid hap file path")])
  | some fileName =>
    if fileName.length > PATH_MAX - TEMP_DIR_LEN then
      ((EdmReturnErrCode.INSTALL_APP_PATH_INVALID_OR_TOO_LARGE, []),
        s.write [.int32 EdmReturnErrCode.INSTALL_APP_PATH_INVALID_OR_TOO_LARGE,
          .text (ascii "invalid hap file path")])
    else
      let tempPath :=
        HAP_DIRECTORY ++ [SEPARATOR] ++ generateUniqueFilePrefix package.answers ++ fileName
      if EdmUtils.trustedExternalPath tempPath = false then
        ((EdmReturnErrCode.INSTALL_APP_PATH_INVALID_OR_TOO_LARGE, tempPath),
          s.write [.int32 EdmReturnErrCode.INSTALL_APP_PATH_INVALID_OR_TOO_LARGE,
            .text (ascii "invalid hap file path")])
      else if package.answers.dup = false then
        ((EdmReturnErrCode.SYSTEM_ABNORMALLY, tempPath),
          s.write [.int32 EdmReturnErrCode.SYSTEM_ABNORMALLY])
      else if package.answers.opened = false then
        ((EdmReturnErrCode.SYSTEM_ABNORMALLY, tempPath),
          (s.close (.duplicate package.fd)).write [.int32 EdmReturnErrCode.SYSTEM_ABNORMALLY])
      else
        let copied := copyFileContent source package tempPath (s.create tempPath)
        ((copied.1, tempPath),
          (copied.2.close (.output tempPath)).close (.duplicate package.fd))

/-- `DeleteFiles`. -/
def deleteFiles (answers : Answers) (tempPaths : List Path) (s : Storage) : Bool × Storage :=
  ((List.range tempPaths.length).all answers.removeFile,
    { s with files := s.files.removeAll answers.removeFile 0 tempPaths })

/-- The loop of `PrepareTempFiles`. -/
def copyAll (source : Sources) (answers : Answers) :
    List Package → List Path → Storage → (ErrCode × List Path) × Storage
  | [], tempPaths, s => ((ERR_OK, tempPaths), s)
  | package :: rest, tempPaths, s =>
    let copied := copyHapFile source package s
    let s := copied.2.close (.received package.fd)
    if copied.1.1 != ERR_OK then
      let s := rest.foldl (fun s package => s.close (.received package.fd)) s
      ((copied.1.1, tempPaths), (deleteFiles answers tempPaths s).2)
    else copyAll source answers rest (tempPaths ++ [copied.1.2]) s

def prepareTempFiles (source : Sources) (answers : Answers) (param : InstallParam) (s : Storage) :
    (ErrCode × List Path) × Storage :=
  if createDirectory answers = false then
    ((EdmReturnErrCode.SYSTEM_ABNORMALLY, []),
      s.write [.int32 EdmReturnErrCode.SYSTEM_ABNORMALLY])
  else if param.hapFilePaths.length ≠ param.hapFds.length then
    ((EdmReturnErrCode.SYSTEM_ABNORMALLY, []),
      (param.hapFds.foldl (fun s fd => s.close (.received fd)) s).write
        [.int32 EdmReturnErrCode.SYSTEM_ABNORMALLY])
  else copyAll source answers (packages answers param) [] s

/-- The code returned for a result of the bundle installer. -/
def convertedResultCode (resultCode : Int) : ErrCode :=
  match STREAM_INSTALL_TO_JS_INSTALL_MAP.lookup resultCode with
  | some errCodeBMS =>
    (INSTALL_ERRCODE_CONVERT_MAP.lookup errCodeBMS).getD EdmReturnErrCode.APPLICATION_INSTALL_FAILED
  | none => EdmReturnErrCode.APPLICATION_INSTALL_FAILED

/-- `HandleInstallResult`, without the record of the bundles that an administrator installed. -/
def handleInstallResult (answers : Answers) (realPaths : List Path) (s : Storage) :
    ErrCode × Storage :=
  let deleted := deleteFiles answers realPaths s
  if deleted.1 = false then (EdmReturnErrCode.SYSTEM_ABNORMALLY, deleted.2)
  else if answers.resultCode ≠ ERR_OK then
    (convertedResultCode answers.resultCode,
      deleted.2.write
        [.int32 (convertedResultCode answers.resultCode), .text answers.resultMsg])
  else (ERR_OK, deleted.2)

/-- Whether `ExecuteStreamInstall` gets to its call of the installer. -/
def Answers.installer (answers : Answers) : Bool :=
  answers.bundleMgr && answers.bundleInstaller && answers.callback

def executeStreamInstall (answers : Answers) (tempPaths : List Path) (param : InstallParam)
    (s : Storage) : ErrCode × Storage :=
  if answers.installer = false then
    (EdmReturnErrCode.SYSTEM_ABNORMALLY, (deleteFiles answers tempPaths s).2)
  else
    let call := ⟨tempPaths.map fun path => (path, s.files path), param.userId, param.installFlag,
      param.parameters⟩
    let s := { s with handed := s.handed ++ [call] }
    if failed answers.streamInstall then
      let deleted := deleteFiles answers tempPaths s
      if deleted.1 = false then (EdmReturnErrCode.SYSTEM_ABNORMALLY, deleted.2)
      else
        (EdmReturnErrCode.INSTALL_APP_PATH_INVALID_OR_TOO_LARGE,
          deleted.2.write [.int32 EdmReturnErrCode.INSTALL_APP_PATH_INVALID_OR_TOO_LARGE,
            .text (ascii "invalid hap file path")])
    else handleInstallResult answers tempPaths s

def onSetPolicy (source : Sources) (answers : Answers) (param : InstallParam) (s : Storage) :
    ErrCode × Storage :=
  let prepared := prepareTempFiles source answers param s
  if prepared.1.1 ≠ ERR_OK then (prepared.1.1, prepared.2)
  else executeStreamInstall answers prepared.1.2 param prepared.2

end InstallPlugin

end Edm

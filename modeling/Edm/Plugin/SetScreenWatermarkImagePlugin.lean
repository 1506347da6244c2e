import Edm.Admin.Admin
import Edm.Admin.AdminManager
import Edm.Plugin.JsonObject
import Edm.Plugin.TemplatePolicy

/-! `SetScreenWatermarkImagePlugin`: the watermark on the screen, whose image is kept in a file, and
`ScreenWatermarkImageSerializer`. -/

set_option autoImplicit false

namespace Edm

open Library

def POLICY_SCREEN_WATERMARK_IMAGE : String := "screen_watermark_image"

structure WatermarkImageType where
  fileName : String
  width : Int32
  height : Int32
  deriving DecidableEq

namespace ScreenWatermarkImageSerializer

variable (C : ArrayCJson)

/-- `dataObj` is what the out parameter has before the call. -/
def deserialize (policy : String) (dataObj : WatermarkImageType) : Option WatermarkImageType :=
  if policy = "" then some dataObj
  else
    match C.parse policy with
    | none => none
    | some json =>
      match json.getObjectItemCaseSensitive "fileName", json.getObjectItemCaseSensitive "width",
        json.getObjectItemCaseSensitive "height" with
      | some (.str fileName), some (.number width), some (.number height) =>
        some ⟨fileName, Int32.ofInt (C.valueint width), Int32.ofInt (C.valueint height)⟩
      | _, _, _ => none

def serialize (dataObj : WatermarkImageType) : String :=
  C.printUnformatted (.obj [("fileName", .str dataObj.fileName),
    ("width", .number (C.createInt dataObj.width)),
    ("height", .number (C.createInt dataObj.height))])

variable {C}

theorem parse_serialize (dataObj : WatermarkImageType) : C.parse (serialize C dataObj) =
    some (.obj [("fileName", .str dataObj.fileName),
      ("width", .number (C.createInt dataObj.width)),
      ("height", .number (C.createInt dataObj.height))]) := by
  refine C.parse_printUnformatted_ints _ (Json.numbersIn_obj.mpr fun member hmember => ?_)
  simp only [List.mem_cons, List.not_mem_nil, or_false] at hmember
  rcases hmember with rfl | rfl | rfl
  · trivial
  · exact ⟨_, rfl⟩
  · exact ⟨_, rfl⟩

theorem serialize_ne_empty (dataObj : WatermarkImageType) : serialize C dataObj ≠ "" := by
  intro hempty
  have hparse := parse_serialize (C := C) dataObj
  rw [hempty, C.parse_empty] at hparse
  cases hparse

theorem deserialize_serialize (dataObj initial : WatermarkImageType) :
    deserialize C (serialize C dataObj) initial = some dataObj := by
  rw [deserialize, if_neg (serialize_ne_empty dataObj), parse_serialize]
  show some (WatermarkImageType.mk dataObj.fileName
    (Int32.ofInt (C.valueint (C.createInt dataObj.width)))
    (Int32.ofInt (C.valueint (C.createInt dataObj.height)))) = _
  rw [C.valueint_createInt, C.valueint_createInt, Int32.ofInt_toInt, Int32.ofInt_toInt]

end ScreenWatermarkImageSerializer

namespace SetScreenWatermarkImagePlugin

open ScreenWatermarkImageSerializer

def FILE_PREFIX : String := "edm_screen_"
def IMAGE_SIZE_MULTIPLIER : Int := 2
def MAX_IMAGE_SIZE : Nat := 128 * 1024 * 1024

/-- A pixel map: the bytes of an image, and its size. -/
structure Image where
  pixels : List UInt8
  width : Int32
  height : Int32
  deriving DecidableEq

/-- The files of the watermark directory, and the watermark on the screen. -/
structure Modules where
  files : String → Option (List UInt8)
  screen : Option Image

/-- How the writing of a file ends.  What is left of a file that is not written whole is removed, if
that succeeds. -/
inductive ImageWrite where
  | notOpened
  | notWritten (left : Option (List UInt8))
  | written
  deriving DecidableEq

/-- Whether a pixel map is created, whether the window manager accepts a call, whether the own file
and the new file can be removed, and how the new file is written.  The last three are what the
variables `currentData`, `mergeData` and `emptyType` have before they are assigned. -/
structure Answers where
  pixelMap : Bool
  accepted : Bool
  removed : Bool
  removedNew : Bool
  write : ImageWrite
  currentSize : Int32 × Int32
  mergeSize : Int32 × Int32
  emptySize : Int32 × Int32

def uninitialized (size : Int32 × Int32) : WatermarkImageType := ⟨"", size.1, size.2⟩

/-- A request, with the default display, the time, and the random number. -/
structure Request where
  type : FuncOperateType
  width : Int32
  height : Int32
  size : Int32
  pixels : Option (List UInt8)
  display : Option (Int32 × Int32)
  timestamp : Int
  random : Nat
  answers : Answers

/-- `GetWatermarkParam`: the bytes of the image. -/
def getWatermarkParam (request : Request) : Option (List UInt8) :=
  if request.size ≤ 0 then none
  else if request.width ≤ 0 ∨ request.height ≤ 0 then none
  else
    match request.display with
    | none => none
    | some (deviceWidth, deviceHeight) =>
      if deviceWidth ≤ 0 ∨ deviceHeight ≤ 0 then none
      else if request.width.toInt > deviceWidth.toInt * IMAGE_SIZE_MULTIPLIER ∨
          request.height.toInt > deviceHeight.toInt * IMAGE_SIZE_MULTIPLIER then none
      else request.pixels

def removeImageFile (removed : Bool) (modules : Modules) (fileName : String) : Modules :=
  if fileName = "" then modules
  else if removed then { modules with files := Function.update modules.files fileName none }
  else modules

def setImageUint8 (write : ImageWrite) (modules : Modules) (pixels : List UInt8)
    (fileName : String) : Bool × Modules :=
  match write with
  | .notOpened => (false, modules)
  | .notWritten left =>
    (false, { modules with files := Function.update modules.files fileName left })
  | .written =>
    (true, { modules with files := Function.update modules.files fileName (some pixels) })

def getImageFromUrlUint8 (pixelMap : Bool) (modules : Modules) (imageType : WatermarkImageType) :
    Option Image :=
  match modules.files imageType.fileName with
  | none => none
  | some pixels =>
    if pixels.length = 0 ∨ MAX_IMAGE_SIZE < pixels.length then none
    else if pixelMap then some ⟨pixels, imageType.width, imageType.height⟩
    else none

/-- The name of a new file. -/
def newFileName (request : Request) : String :=
  FILE_PREFIX ++ toString request.timestamp ++ "_" ++ toString request.random

def setPolicy (modules : Modules) (request : Request)
    (currentData mergeData : WatermarkImageType) :
    ErrCode × Modules × WatermarkImageType × WatermarkImageType :=
  match getWatermarkParam request with
  | none => (EdmReturnErrCode.PARAMETER_VERIFICATION_FAILED, modules, currentData, mergeData)
  | some pixels =>
    if request.answers.pixelMap = false then
      (EdmReturnErrCode.PARAMETER_VERIFICATION_FAILED, modules, currentData, mergeData)
    else
      let modules := removeImageFile request.answers.removed modules currentData.fileName
      let fileName := newFileName request
      let (written, modules) := setImageUint8 request.answers.write modules pixels fileName
      if written = false then
        (EdmReturnErrCode.SYSTEM_ABNORMALLY, modules, currentData, mergeData)
      else if request.answers.accepted = false then
        (EdmReturnErrCode.SYSTEM_ABNORMALLY,
          removeImageFile request.answers.removedNew modules fileName, currentData, mergeData)
      else
        let afterHandle : WatermarkImageType := ⟨fileName, request.width, request.height⟩
        (ERR_OK, { modules with screen := some ⟨pixels, request.width, request.height⟩ },
          afterHandle, afterHandle)

variable (C : ArrayCJson) (cleans : Image → Image → Bool)

/-- `CleanScreenWatermarkImage`.  `cleans` is whether the window manager takes the first image off
the screen when it is told to clean the second. -/
def cleanScreenWatermarkImage (modules : Modules) (image : Image) : Modules :=
  { modules with screen := modules.screen.filter fun shown => !cleans shown image }

def cancelScreenWatermarkImage (modules : Modules) (answers : Answers)
    (currentData : WatermarkImageType) : ErrCode × Modules × WatermarkImageType :=
  if currentData.fileName = "" then (ERR_OK, modules, currentData)
  else
    match getImageFromUrlUint8 answers.pixelMap modules currentData with
    | none => (EdmReturnErrCode.SYSTEM_ABNORMALLY, modules, currentData)
    | some image =>
      if answers.accepted = false then (EdmReturnErrCode.SYSTEM_ABNORMALLY, modules, currentData)
      else
        (ERR_OK,
          removeImageFile answers.removed (cleanScreenWatermarkImage cleans modules image)
            currentData.fileName,
          uninitialized answers.emptySize)

def onHandlePolicy (modules : Modules) (request : Request) (policyData : HandlePolicyData) :
    ErrCode × Modules × HandlePolicyData :=
  match deserialize C policyData.policyData (uninitialized request.answers.currentSize),
    deserialize C policyData.mergePolicyData (uninitialized request.answers.mergeSize) with
  | some currentData, some mergeData =>
    let (ret, modules, currentData, mergeData) :=
      match request.type with
      | .set => setPolicy modules request currentData mergeData
      | .remove =>
        let (ret, modules, currentData) :=
          cancelScreenWatermarkImage cleans modules request.answers currentData
        (ret, modules, currentData, mergeData)
      | _ => (EdmReturnErrCode.SYSTEM_ABNORMALLY, modules, currentData, mergeData)
    if failed ret then (ret, modules, policyData)
    else
      let afterHandle := serialize C currentData
      let isChanged := afterHandle != policyData.policyData
      (ERR_OK, modules,
        { policyData := if isChanged then afterHandle else policyData.policyData
          mergePolicyData := serialize C mergeData
          isChanged })
  | _, _ => (EdmReturnErrCode.SYSTEM_ABNORMALLY, modules, policyData)

def onAdminRemove (modules : Modules) (answers : Answers) (policyData _ : String) :
    ErrCode × Modules :=
  match deserialize C policyData (uninitialized answers.currentSize) with
  | none => (EdmReturnErrCode.SYSTEM_ABNORMALLY, modules)
  | some currentData =>
    let (ret, modules, _) := cancelScreenWatermarkImage cleans modules answers currentData
    (ret, modules)

/-- `policyData` is the combined policy of the default user. -/
def onOtherServiceStart (modules : Modules) (answers : Answers) (policyData : String) : Modules :=
  if policyData = "" then modules
  else
    match deserialize C policyData (uninitialized answers.currentSize) with
    | none => modules
    | some currentData =>
      if currentData.fileName = "" then modules
      else
        match getImageFromUrlUint8 answers.pixelMap modules currentData with
        | none => modules
        | some image => if answers.accepted then { modules with screen := some image } else modules

/-- `GetOthersMergePolicyData` gives the combined policy of the default user. -/
def plugin : Plugin Modules Request Answers Empty where
  policyName := POLICY_SCREEN_WATERMARK_IMAGE
  needSave := true
  getOthersMergePolicyData m _ := m.policyValue "" POLICY_SCREEN_WATERMARK_IMAGE
  onHandlePolicy _ := onHandlePolicy C cleans
  onAdminRemove := onAdminRemove C cleans
  onPluginEvent _ event := nomatch event

/-! ### Runs -/

/-- An operation on the policy, or a restart of the window manager, which may lose the watermark. -/
inductive Op where
  | policy (op : PolicyOp Request Answers)
  | otherServiceStart (lost : Bool) (answers : Answers)

abbrev State := PluginState Modules

def step (s : State) : Op → State
  | .policy op => policyStep (plugin C cleans) s op
  | .otherServiceStart lost answers =>
    { s with
      modules := onOtherServiceStart C
        (if lost then { s.modules with screen := none } else s.modules) answers
        (s.store.manager.policyValue "" POLICY_SCREEN_WATERMARK_IMAGE) }

/-- The default user without policies, and a screen without a watermark. -/
def boot (files : String → Option (List UInt8)) : State :=
  PluginState.boot ⟨files, none⟩ DEFAULT_USER_ID

/-- What a text stands for. -/
def imageOf (text : String) : WatermarkImageType :=
  (deserialize C text (uninitialized (0, 0))).getD (uninitialized (0, 0))

section Run

variable (s : State)

/-- What an admin stores. -/
def own (admin : AdminName) : WatermarkImageType :=
  imageOf C (s.store.manager.policyValue admin POLICY_SCREEN_WATERMARK_IMAGE)

def combined : WatermarkImageType :=
  imageOf C (s.store.manager.policyValue "" POLICY_SCREEN_WATERMARK_IMAGE)

/-- The combined policy names a file whose image is on the screen, or no file, and there is no
watermark. -/
def Shown : Prop :=
  (combined C s).fileName = "" ∧ s.modules.screen = none ∨
    (combined C s).fileName ≠ "" ∧ ∃ pixels,
      s.modules.files (combined C s).fileName = some pixels ∧
        s.modules.screen = some ⟨pixels, (combined C s).width, (combined C s).height⟩

/-- An admin's own watermark is in force. -/
def InForce (admin : AdminName) : Prop :=
  (own C s admin).fileName ≠ "" ∧ (own C s admin).fileName = (combined C s).fileName

/-- Cancelling the watermark of an admin takes it off the screen if and only if it is in force. -/
def Cleared (admin : AdminName) (t : State) : Prop :=
  (InForce C s admin → t.modules.screen = none) ∧
    (¬ InForce C s admin → t.modules.screen = s.modules.screen)

/-- A call that fails leaves the watermark, its file and the stored values. -/
def Right : Op → Prop
  | .policy (.update admin writes request) =>
    (policyCode (plugin C cleans) s (.update admin writes request) ≠ ERR_OK →
        (step C cleans s (.policy (.update admin writes request))).modules.screen =
            s.modules.screen ∧
          (step C cleans s (.policy (.update admin writes request))).modules.files
              (combined C s).fileName = s.modules.files (combined C s).fileName ∧
          (step C cleans s (.policy (.update admin writes request))).store = s.store) ∧
      (request.type = .remove →
        policyCode (plugin C cleans) s (.update admin writes request) = ERR_OK →
          Cleared C s admin (step C cleans s (.policy (.update admin writes request))))
  | .policy (.removeAdmin admin writes answers) =>
    Cleared C s admin (step C cleans s (.policy (.removeAdmin admin writes answers)))
  | .otherServiceStart _ _ => True

/-- The image of an admin is cleaned, which leaves what is on the screen. -/
def LeavesScreen (admin : AdminName) (answers : Answers) : Prop :=
  ∀ image shown, getImageFromUrlUint8 answers.pixelMap s.modules (own C s admin) = some image →
    answers.accepted = true → s.modules.screen = some shown → cleans shown image = false

/-- The new file has a name of its own, and where it is not written or not shown, the file in force
was not the admin's, or could not be removed. -/
structure SetKeeps (admin : AdminName) (request : Request) : Prop where
  own : newFileName request ≠ (own C s admin).fileName
  combined : newFileName request ≠ (combined C s).fileName
  restored : request.answers.write ≠ .written ∨ request.answers.accepted = false →
    InForce C s admin → request.answers.removed = false

/-- Writes take effect.  The watermark in force is not cancelled, unless the call fails, and its
admin is not removed.  A window manager that loses the watermark accepts it again. -/
def Keeps : Op → Prop
  | .policy (.update admin writes request) =>
    writes = ⟨.done, .done⟩ ∧ match request.type with
      | .set =>
        getWatermarkParam request ≠ none → request.answers.pixelMap = true →
          SetKeeps C s admin request
      | .remove =>
        (own C s admin).fileName ≠ "" →
          (InForce C s admin →
            getImageFromUrlUint8 request.answers.pixelMap s.modules (own C s admin) = none ∨
              request.answers.accepted = false) ∧
          LeavesScreen C cleans s admin request.answers
      | _ => True
  | .policy (.removeAdmin admin writes answers) =>
    writes = ⟨.done, .done⟩ ∧ ((own C s admin).fileName ≠ "" →
      ¬ InForce C s admin ∧ LeavesScreen C cleans s admin answers)
  | .otherServiceStart lost answers =>
    lost = true → (combined C s).fileName ≠ "" →
      getImageFromUrlUint8 answers.pixelMap s.modules (combined C s) ≠ none ∧
        answers.accepted = true

end Run

/-! ### Texts and files -/

section Texts

variable {C}

def IsText (C : ArrayCJson) (text : String) : Prop := text = "" ∨ ∃ d, text = serialize C d

theorem imageOf_serialize (d : WatermarkImageType) : imageOf C (serialize C d) = d := by
  rw [imageOf, deserialize_serialize]
  rfl

/-- What a text is read as, whatever the memory had: the sizes are the text's if it names a file. -/
theorem IsText.deserialize {text : String} (h : IsText C text) (size : Int32 × Int32) :
    ∃ d, ScreenWatermarkImageSerializer.deserialize C text (uninitialized size) = some d ∧
      d.fileName = (imageOf C text).fileName ∧
      ((imageOf C text).fileName ≠ "" → d = imageOf C text) := by
  rcases h with rfl | ⟨d, rfl⟩
  · exact ⟨uninitialized size, rfl, rfl, fun hne => absurd rfl hne⟩
  · rw [imageOf_serialize]
    exact ⟨d, deserialize_serialize d _, rfl, fun _ => rfl⟩

theorem policyName_ne : POLICY_SCREEN_WATERMARK_IMAGE ≠ "" := by decide

theorem newFileName_ne_empty (request : Request) : newFileName request ≠ "" := by
  intro hempty
  have hlist := congrArg String.toList hempty
  rw [newFileName, String.toList_append, String.toList_append, String.toList_append] at hlist
  cases hlist

theorem removeImageFile_screen (removed : Bool) (modules : Modules) (fileName : String) :
    (removeImageFile removed modules fileName).screen = modules.screen := by
  unfold removeImageFile
  split
  · rfl
  · split <;> rfl

theorem removeImageFile_files (removed : Bool) (modules : Modules) {fileName name : String}
    (h : fileName ≠ "" → removed = true → name ≠ fileName) :
    (removeImageFile removed modules fileName).files name = modules.files name := by
  unfold removeImageFile
  split
  · rfl
  · rename_i hne
    split
    · rename_i hremoved
      exact Function.update_of_ne (h hne hremoved) _ _
    · rfl

theorem setImageUint8_screen (write : ImageWrite) (modules : Modules) (pixels : List UInt8)
    (fileName : String) :
    (setImageUint8 write modules pixels fileName).2.screen = modules.screen := by
  cases write <;> rfl

theorem setImageUint8_files (write : ImageWrite) (modules : Modules) (pixels : List UInt8)
    {fileName name : String} (h : name ≠ fileName) :
    (setImageUint8 write modules pixels fileName).2.files name = modules.files name := by
  cases write with
  | notOpened => rfl
  | notWritten left => exact Function.update_of_ne h _ _
  | written => exact Function.update_of_ne h _ _

theorem setImageUint8_written (write : ImageWrite) (modules : Modules) (pixels : List UInt8)
    (fileName : String) : (setImageUint8 write modules pixels fileName).1 = false ↔
      write ≠ .written := by
  cases write with
  | notOpened => exact ⟨fun _ => nofun, fun _ => rfl⟩
  | notWritten left => exact ⟨fun _ => nofun, fun _ => rfl⟩
  | written => exact ⟨nofun, fun hne => absurd rfl hne⟩

/-- The image that is read is that of the file. -/
theorem getImageFromUrlUint8_some {pixelMap : Bool} {modules : Modules} {d : WatermarkImageType}
    {image : Image} (h : getImageFromUrlUint8 pixelMap modules d = some image) :
    modules.files d.fileName = some image.pixels ∧ image = ⟨image.pixels, d.width, d.height⟩ := by
  unfold getImageFromUrlUint8 at h
  split at h
  · cases h
  · rename_i pixels hfile
    split at h
    · cases h
    · split at h
      · cases h
        exact ⟨hfile, rfl⟩
      · cases h

end Texts

/-! ### One operation -/

section Step

variable {C} {cleans} {s : State} {admin : AdminName}

abbrev Readable (C : ArrayCJson) (s : State) : Prop :=
  TextStore (IsText C) POLICY_SCREEN_WATERMARK_IMAGE s.store

/-- The combined policy, its file and the screen are kept. -/
structure Kept (C : ArrayCJson) (s t : State) : Prop where
  fileName : (combined C t).fileName = (combined C s).fileName
  image : (combined C s).fileName ≠ "" → combined C t = combined C s
  file : t.modules.files (combined C s).fileName = s.modules.files (combined C s).fileName
  screen : t.modules.screen = s.modules.screen

theorem Shown.kept {t : State} (h : Shown C s) (hkept : Kept C s t) : Shown C t := by
  rcases h with ⟨hempty, hscreen⟩ | ⟨hne, pixels, hfile, hscreen⟩
  · exact .inl ⟨hkept.fileName.trans hempty, hkept.screen.trans hscreen⟩
  · refine .inr ⟨hkept.fileName ▸ hne, pixels, ?_, ?_⟩
    · rw [hkept.fileName, hkept.file, hfile]
    · rw [hkept.screen, hkept.image hne, hscreen]

theorem Kept.of_store {t : State} (hstore : t.store = s.store)
    (hfile : t.modules.files (combined C s).fileName = s.modules.files (combined C s).fileName)
    (hscreen : t.modules.screen = s.modules.screen) : Kept C s t := by
  have hcombined : combined C t = combined C s := by
    rw [combined, hstore]
    rfl
  exact ⟨congrArg _ hcombined, fun _ => hcombined, hfile, hscreen⟩

/-- What an operation leaves. -/
def Sound (C : ArrayCJson) (cleans : Image → Image → Bool) (s : State) (op : Op) : Prop :=
  Readable C (step C cleans s op) ∧ Shown C (step C cleans s op) ∧ Right C cleans s op

/-- A request whose handler fails, and leaves the file in force and the screen. -/
theorem sound_failed (h : Readable C s) (hshown : Shown C s) {request : Request} {ret : ErrCode}
    {modules : Modules}
    (hcall : onHandlePolicy C cleans s.modules request
      (PluginManager.handlePolicyData (plugin C cleans) s admin) =
        (ret, modules, PluginManager.handlePolicyData (plugin C cleans) s admin))
    (hret : ret ≠ ERR_OK)
    (hfile : modules.files (combined C s).fileName = s.modules.files (combined C s).fileName)
    (hscreen : modules.screen = s.modules.screen) :
    Sound C cleans s (.policy (.update admin ⟨.done, .done⟩ request)) := by
  obtain ⟨hmodules, hstore⟩ := update_unchanged (plugin C cleans) admin h.good policyName_ne hcall
  have hcode := policyCode_update (plugin C cleans) admin ⟨.done, .done⟩ hcall
  refine ⟨?_, ?_, fun _ => ⟨?_, ?_, hstore⟩, fun _ hok => absurd (hcode.symm.trans hok) hret⟩
  · show TextStore _ _ (policyStep (plugin C cleans) s _).store
    rw [hstore]
    exact h
  · refine hshown.kept (.of_store hstore ?_ ?_)
    · exact (congrFun (congrArg Modules.files hmodules) _).trans hfile
    · exact (congrArg Modules.screen hmodules).trans hscreen
  · exact (congrArg Modules.screen hmodules).trans hscreen
  · exact (congrFun (congrArg Modules.files hmodules) _).trans hfile

section Handled

variable {modules modules' : Modules} {request : Request} {policyData : HandlePolicyData}
  {current merge current' merge' : WatermarkImageType} {ret : ErrCode}
  (hcurrent : deserialize C policyData.policyData
    (uninitialized request.answers.currentSize) = some current)
  (hmerge : deserialize C policyData.mergePolicyData
    (uninitialized request.answers.mergeSize) = some merge)
include hcurrent hmerge

/-- What the handler makes of the data that a request leaves. -/
def handled (C : ArrayCJson) (policyData : HandlePolicyData) (current merge : WatermarkImageType) :
    HandlePolicyData where
  policyData :=
    if serialize C current != policyData.policyData then serialize C current
    else policyData.policyData
  mergePolicyData := serialize C merge
  isChanged := serialize C current != policyData.policyData

theorem onHandlePolicy_set (htype : request.type = .set)
    (hresult : setPolicy modules request current merge = (ret, modules', current', merge')) :
    onHandlePolicy C cleans modules request policyData =
      if failed ret then (ret, modules', policyData)
      else (ERR_OK, modules', handled C policyData current' merge') := by
  unfold onHandlePolicy
  rw [hcurrent, hmerge]
  dsimp only
  rw [htype]
  dsimp only
  rw [hresult]
  rfl

theorem onHandlePolicy_remove (htype : request.type = .remove)
    (hresult : cancelScreenWatermarkImage cleans modules request.answers current =
      (ret, modules', current')) :
    onHandlePolicy C cleans modules request policyData =
      if failed ret then (ret, modules', policyData)
      else (ERR_OK, modules', handled C policyData current' merge) := by
  unfold onHandlePolicy
  rw [hcurrent, hmerge]
  dsimp only
  rw [htype]
  dsimp only
  rw [hresult]
  rfl

end Handled

/-- How a request with a legal image ends. -/
theorem setPolicy_cases (modules : Modules) (request : Request)
    (current merge : WatermarkImageType) :
    setPolicy modules request current merge =
        (EdmReturnErrCode.PARAMETER_VERIFICATION_FAILED, modules, current, merge) ∨
      ∃ pixels, getWatermarkParam request = some pixels ∧ request.answers.pixelMap = true ∧
        (request.answers.write ≠ .written ∧
            setPolicy modules request current merge =
              (EdmReturnErrCode.SYSTEM_ABNORMALLY,
                (setImageUint8 request.answers.write
                  (removeImageFile request.answers.removed modules current.fileName) pixels
                  (newFileName request)).2,
                current, merge) ∨
          request.answers.accepted = false ∧
            setPolicy modules request current merge =
              (EdmReturnErrCode.SYSTEM_ABNORMALLY,
                removeImageFile request.answers.removedNew
                  (setImageUint8 request.answers.write
                    (removeImageFile request.answers.removed modules current.fileName) pixels
                    (newFileName request)).2 (newFileName request),
                current, merge) ∨
          request.answers.write = .written ∧
            setPolicy modules request current merge =
              (ERR_OK,
                { (setImageUint8 .written
                    (removeImageFile request.answers.removed modules current.fileName) pixels
                    (newFileName request)).2 with
                  screen := some ⟨pixels, request.width, request.height⟩ },
                ⟨newFileName request, request.width, request.height⟩,
                ⟨newFileName request, request.width, request.height⟩)) := by
  unfold setPolicy
  cases hparam : getWatermarkParam request with
  | none => exact .inl rfl
  | some pixels =>
    dsimp only
    by_cases hpixelMap : request.answers.pixelMap = false
    · rw [if_pos hpixelMap]
      exact .inl rfl
    rw [if_neg hpixelMap]
    refine .inr ⟨pixels, rfl, Bool.eq_true_of_not_eq_false hpixelMap, ?_⟩
    by_cases hwritten : request.answers.write = .written
    · rw [hwritten]
      have htrue : ¬ (setImageUint8 .written
          (removeImageFile request.answers.removed modules current.fileName) pixels
          (newFileName request)).1 = false := nofun
      rw [if_neg htrue]
      by_cases haccepted : request.answers.accepted = false
      · rw [if_pos haccepted]
        exact .inr (.inl ⟨haccepted, rfl⟩)
      · rw [if_neg haccepted]
        exact .inr (.inr ⟨rfl, rfl⟩)
    · rw [if_pos ((setImageUint8_written _ _ _ _).mpr hwritten)]
      exact .inl ⟨hwritten, rfl⟩

theorem sound_set (h : Readable C s) (hshown : Shown C s) {request : Request}
    (htype : request.type = .set)
    (hkeeps : getWatermarkParam request ≠ none → request.answers.pixelMap = true →
      SetKeeps C s admin request) :
    Sound C cleans s (.policy (.update admin ⟨.done, .done⟩ request)) := by
  obtain ⟨current, hcurrent, hname, -⟩ :=
    IsText.deserialize (h.text admin) request.answers.currentSize
  obtain ⟨merge, hmerge, -, -⟩ := IsText.deserialize (h.text "") request.answers.mergeSize
  have hname : current.fileName = (own C s admin).fileName := hname
  have hhandled : ∀ {ret modules' current' merge'},
      setPolicy s.modules request current merge = (ret, modules', current', merge') →
      onHandlePolicy C cleans s.modules request
        (PluginManager.handlePolicyData (plugin C cleans) s admin) =
          if failed ret then
            (ret, modules', PluginManager.handlePolicyData (plugin C cleans) s admin)
          else (ERR_OK, modules',
            handled C (PluginManager.handlePolicyData (plugin C cleans) s admin) current' merge') :=
    fun hresult => onHandlePolicy_set hcurrent hmerge htype hresult
  rcases setPolicy_cases s.modules request current merge with hresult |
    ⟨pixels, hparam, hpixelMap, hcases⟩
  · exact sound_failed h hshown (hhandled hresult) (by decide) rfl rfl
  have hkeeps := hkeeps (by rw [hparam]; exact Option.some_ne_none pixels) hpixelMap
  -- A file in force that was the admin's is still there when the request fails.
  have hold : request.answers.write ≠ .written ∨ request.answers.accepted = false →
      (removeImageFile request.answers.removed s.modules current.fileName).files
        (combined C s).fileName = s.modules.files (combined C s).fileName := by
    intro hfails
    refine removeImageFile_files _ _ fun hne hremoved heq => ?_
    rw [hname] at hne heq
    exact absurd ((hkeeps.restored hfails ⟨hne, heq.symm⟩).symm.trans hremoved) Bool.false_ne_true
  rcases hcases with ⟨hwrite, hresult⟩ | ⟨haccepted, hresult⟩ | ⟨-, hresult⟩
  · refine sound_failed h hshown (hhandled hresult) (by decide) ?_ ?_
    · rw [setImageUint8_files _ _ _ hkeeps.combined.symm, hold (.inl hwrite)]
    · rw [setImageUint8_screen, removeImageFile_screen]
  · refine sound_failed h hshown (hhandled hresult) (by decide) ?_ ?_
    · rw [removeImageFile_files _ _ fun _ _ => hkeeps.combined.symm,
        setImageUint8_files _ _ _ hkeeps.combined.symm, hold (.inr haccepted)]
    · rw [removeImageFile_screen, setImageUint8_screen, removeImageFile_screen]
  · -- The stored text names another file, so the new one is saved.
    have hchanged : serialize C ⟨newFileName request, request.width, request.height⟩ ≠
        s.store.manager.policyValue admin POLICY_SCREEN_WATERMARK_IMAGE := by
      intro heq
      refine hkeeps.own ?_
      rw [own, ← heq, imageOf_serialize]
    have hcall := (hhandled hresult).trans (if_neg (by decide))
    have hdata : handled C (PluginManager.handlePolicyData (plugin C cleans) s admin)
        ⟨newFileName request, request.width, request.height⟩
        ⟨newFileName request, request.width, request.height⟩ =
          ⟨serialize C ⟨newFileName request, request.width, request.height⟩,
            serialize C ⟨newFileName request, request.width, request.height⟩, true⟩ := by
      have hbne : (serialize C ⟨newFileName request, request.width, request.height⟩ !=
          (PluginManager.handlePolicyData (plugin C cleans) s admin).policyData) = true :=
        bne_iff_ne.mpr hchanged
      rw [handled, hbne, if_pos rfl]
    rw [hdata] at hcall
    obtain ⟨hmodules, hsaved, -⟩ := update_saved (plugin C cleans) admin h.good policyName_ne rfl
      request hcall
    obtain ⟨op, hop⟩ : ∃ op : Op, op = .policy (.update admin ⟨.done, .done⟩ request) := ⟨_, rfl⟩
    have hstep : step C cleans s op =
        policyStep (plugin C cleans) s (.update admin ⟨.done, .done⟩ request) := by
      rw [hop]
      rfl
    have hcode := policyCode_update (plugin C cleans) admin ⟨.done, .done⟩ hcall
    rw [← hstep] at hmodules hsaved
    have hcombined : combined C (step C cleans s op) =
        ⟨newFileName request, request.width, request.height⟩ :=
      (congrArg (imageOf C) hsaved.value_combined).trans (imageOf_serialize _)
    rw [← hop]
    refine ⟨h.saved hsaved (.inr ⟨_, rfl⟩) (.inr ⟨_, rfl⟩), .inr ?_, ?_⟩
    · rw [hcombined, hmodules]
      exact ⟨newFileName_ne_empty request, pixels, Function.update_self _ _ _, rfl⟩
    · rw [hop]
      refine ⟨fun hfailed => absurd hcode hfailed, fun hremove => ?_⟩
      rw [htype] at hremove
      cases hremove

/-- A call that cleans the watermark of an admin. -/
theorem cancel_cases (cleans : Image → Image → Bool) (modules : Modules) (answers : Answers)
    (current : WatermarkImageType) :
    current.fileName = "" ∧
        cancelScreenWatermarkImage cleans modules answers current = (ERR_OK, modules, current) ∨
      current.fileName ≠ "" ∧
        ((getImageFromUrlUint8 answers.pixelMap modules current = none ∨
              answers.accepted = false) ∧
            cancelScreenWatermarkImage cleans modules answers current =
              (EdmReturnErrCode.SYSTEM_ABNORMALLY, modules, current) ∨
          ∃ image, getImageFromUrlUint8 answers.pixelMap modules current = some image ∧
            answers.accepted = true ∧
            cancelScreenWatermarkImage cleans modules answers current =
              (ERR_OK,
                removeImageFile answers.removed (cleanScreenWatermarkImage cleans modules image)
                  current.fileName,
                uninitialized answers.emptySize)) := by
  unfold cancelScreenWatermarkImage
  by_cases hempty : current.fileName = ""
  · rw [if_pos hempty]
    exact .inl ⟨hempty, rfl⟩
  rw [if_neg hempty]
  refine .inr ⟨hempty, ?_⟩
  cases himage : getImageFromUrlUint8 answers.pixelMap modules current with
  | none => exact .inl ⟨.inl rfl, rfl⟩
  | some image =>
    dsimp only
    by_cases haccepted : answers.accepted = false
    · rw [if_pos haccepted]
      exact .inl ⟨.inr haccepted, rfl⟩
    · rw [if_neg haccepted]
      exact .inr ⟨image, rfl, Bool.eq_true_of_not_eq_false haccepted, rfl⟩

/-- The cleaning of an image that is not in force. -/
theorem cleaned_screen {answers : Answers} {image : Image}
    (himage : getImageFromUrlUint8 answers.pixelMap s.modules (own C s admin) = some image)
    (haccepted : answers.accepted = true) (hleaves : LeavesScreen C cleans s admin answers) :
    (cleanScreenWatermarkImage cleans s.modules image).screen = s.modules.screen := by
  show s.modules.screen.filter _ = _
  cases hscreen : s.modules.screen with
  | none => rfl
  | some shown =>
    have hkept := hleaves image shown himage haccepted hscreen
    rw [Option.filter_some, hkept]
    rfl

/-- The modules after a cancellation that succeeds, of an image that is not in force. -/
theorem cancelled_kept {answers : Answers} {image : Image}
    (himage : getImageFromUrlUint8 answers.pixelMap s.modules (own C s admin) = some image)
    (haccepted : answers.accepted = true) (hleaves : LeavesScreen C cleans s admin answers)
    (hforce : ¬ InForce C s admin) {modules : Modules}
    (hmodules : modules = removeImageFile answers.removed
      (cleanScreenWatermarkImage cleans s.modules image) (own C s admin).fileName) :
    modules.screen = s.modules.screen ∧
      modules.files (combined C s).fileName = s.modules.files (combined C s).fileName := by
  rw [hmodules, removeImageFile_screen]
  refine ⟨cleaned_screen himage haccepted hleaves, ?_⟩
  exact removeImageFile_files _ _ fun hne _ heq => hforce ⟨hne, heq.symm⟩

/-- A cancellation that succeeds, and leaves the file in force and the screen. -/
theorem sound_cancelled (h : Readable C s) (hshown : Shown C s) {request : Request}
    {modules : Modules} {current merge : WatermarkImageType}
    (hmerge : merge.fileName = (combined C s).fileName)
    (hmergeImage : (combined C s).fileName ≠ "" → merge = combined C s)
    (hcall : onHandlePolicy C cleans s.modules request
      (PluginManager.handlePolicyData (plugin C cleans) s admin) =
        (ERR_OK, modules,
          handled C (PluginManager.handlePolicyData (plugin C cleans) s admin) current merge))
    (hforce : ¬ InForce C s admin)
    (hfile : modules.files (combined C s).fileName = s.modules.files (combined C s).fileName)
    (hscreen : modules.screen = s.modules.screen) :
    Sound C cleans s (.policy (.update admin ⟨.done, .done⟩ request)) := by
  obtain ⟨hmodules, hstore⟩ := policyStep_update_cases (plugin C cleans) admin h.good policyName_ne
    hcall
  obtain ⟨op, hop⟩ : ∃ op : Op, op = .policy (.update admin ⟨.done, .done⟩ request) := ⟨_, rfl⟩
  have hstep : step C cleans s op =
      policyStep (plugin C cleans) s (.update admin ⟨.done, .done⟩ request) := by
    rw [hop]
    rfl
  have hcode := policyCode_update (plugin C cleans) admin ⟨.done, .done⟩ hcall
  rw [← hstep] at hmodules hstore
  have hscreen : (step C cleans s op).modules.screen = s.modules.screen :=
    (congrArg Modules.screen hmodules).trans hscreen
  have hfile : (step C cleans s op).modules.files (combined C s).fileName =
      s.modules.files (combined C s).fileName :=
    (congrFun (congrArg Modules.files hmodules) _).trans hfile
  have hright : Right C cleans s op := by
    rw [hop] at hscreen ⊢
    refine ⟨fun hfailed => absurd hcode hfailed, fun _ _ => ?_⟩
    exact ⟨fun h => absurd h hforce, fun _ => hscreen⟩
  rw [← hop]
  rcases hstore with ⟨-, hstore⟩ | ⟨-, -, hsaved⟩
  · refine ⟨?_, hshown.kept (.of_store hstore hfile hscreen), hright⟩
    rw [Readable, hstore]
    exact h
  · have hcombined : combined C (step C cleans s op) = merge :=
      (congrArg (imageOf C) hsaved.value_combined).trans (imageOf_serialize merge)
    refine ⟨h.saved hsaved ?_ (.inr ⟨merge, rfl⟩),
      hshown.kept ⟨?_, fun hne => ?_, hfile, hscreen⟩, hright⟩
    · rw [handled]
      dsimp only
      split
      · exact .inr ⟨_, rfl⟩
      · exact h.text admin
    · rw [hcombined]
      exact hmerge
    · rw [hcombined]
      exact hmergeImage hne

theorem sound_remove (h : Readable C s) (hshown : Shown C s) {request : Request}
    (htype : request.type = .remove)
    (hkeeps : (own C s admin).fileName ≠ "" →
      (InForce C s admin →
        getImageFromUrlUint8 request.answers.pixelMap s.modules (own C s admin) = none ∨
          request.answers.accepted = false) ∧
      LeavesScreen C cleans s admin request.answers) :
    Sound C cleans s (.policy (.update admin ⟨.done, .done⟩ request)) := by
  obtain ⟨current, hcurrent, hname, himage⟩ :=
    IsText.deserialize (h.text admin) request.answers.currentSize
  obtain ⟨merge, hmerge, hmergeName, hmergeImage⟩ :=
    IsText.deserialize (h.text "") request.answers.mergeSize
  have hname : current.fileName = (own C s admin).fileName := hname
  have hhandled : ∀ {ret modules' current'},
      cancelScreenWatermarkImage cleans s.modules request.answers current =
        (ret, modules', current') →
      onHandlePolicy C cleans s.modules request
        (PluginManager.handlePolicyData (plugin C cleans) s admin) =
          if failed ret then
            (ret, modules', PluginManager.handlePolicyData (plugin C cleans) s admin)
          else (ERR_OK, modules',
            handled C (PluginManager.handlePolicyData (plugin C cleans) s admin) current' merge) :=
    fun hresult => onHandlePolicy_remove hcurrent hmerge htype hresult
  rcases cancel_cases cleans s.modules request.answers current with
    ⟨hempty, hresult⟩ | ⟨hne, ⟨-, hresult⟩ | ⟨image, hread, haccepted, hresult⟩⟩
  · exact sound_cancelled h hshown hmergeName hmergeImage
      ((hhandled hresult).trans (if_neg (by decide)))
      (fun hforce => hforce.1 (hname.symm.trans hempty)) rfl rfl
  · exact sound_failed h hshown (hhandled hresult) (by decide) rfl rfl
  · rw [hname] at hne
    have hown : current = own C s admin := himage hne
    rw [hown] at hread hresult
    obtain ⟨hfails, hleaves⟩ := hkeeps hne
    have hforce : ¬ InForce C s admin := by
      intro hforce
      rcases hfails hforce with hnone | hrefused
      · rw [hnone] at hread
        cases hread
      · rw [haccepted] at hrefused
        cases hrefused
    obtain ⟨hscreen, hfile⟩ := cancelled_kept hread haccepted hleaves hforce rfl
    rw [← hown] at hresult
    exact sound_cancelled h hshown hmergeName hmergeImage
      ((hhandled hresult).trans (if_neg (by decide))) hforce (hown ▸ hfile) (hown ▸ hscreen)

theorem sound_update (h : Readable C s) (hshown : Shown C s) {request : Request}
    (hkeeps : Keeps C cleans s (.policy (.update admin ⟨.done, .done⟩ request))) :
    Sound C cleans s (.policy (.update admin ⟨.done, .done⟩ request)) := by
  have hkeeps := hkeeps.2
  by_cases hset : request.type = .set
  · rw [hset] at hkeeps
    exact sound_set h hshown hset hkeeps
  by_cases hremove : request.type = .remove
  · rw [hremove] at hkeeps
    exact sound_remove h hshown hremove hkeeps
  · obtain ⟨current, hcurrent, -, -⟩ :=
      IsText.deserialize (h.text admin) request.answers.currentSize
    obtain ⟨merge, hmerge, -, -⟩ := IsText.deserialize (h.text "") request.answers.mergeSize
    have hcall : onHandlePolicy C cleans s.modules request
        (PluginManager.handlePolicyData (plugin C cleans) s admin) =
          (EdmReturnErrCode.SYSTEM_ABNORMALLY, s.modules,
            PluginManager.handlePolicyData (plugin C cleans) s admin) := by
      unfold onHandlePolicy
      rw [show deserialize C (PluginManager.handlePolicyData (plugin C cleans) s admin).policyData
        (uninitialized request.answers.currentSize) = some current from hcurrent]
      rw [show deserialize C (PluginManager.handlePolicyData (plugin C cleans) s
        admin).mergePolicyData (uninitialized request.answers.mergeSize) = some merge from hmerge]
      dsimp only
      cases htype : request.type with
      | set => exact absurd htype hset
      | remove => exact absurd htype hremove
      | get => rfl
      | unknown => rfl
    exact sound_failed h hshown hcall (by decide) rfl rfl

theorem onAdminRemove_read {modules : Modules} {answers : Answers} {policyData : String}
    {current : WatermarkImageType}
    (hcurrent : deserialize C policyData (uninitialized answers.currentSize) = some current)
    (mergeData : String) :
    onAdminRemove C cleans modules answers policyData mergeData =
      ((cancelScreenWatermarkImage cleans modules answers current).1,
        (cancelScreenWatermarkImage cleans modules answers current).2.1) := by
  rw [onAdminRemove, hcurrent]

theorem sound_removeAdmin (h : Readable C s) (hshown : Shown C s) {answers : Answers}
    (hkeeps : (own C s admin).fileName ≠ "" →
      ¬ InForce C s admin ∧ LeavesScreen C cleans s admin answers) :
    Sound C cleans s (.policy (.removeAdmin admin ⟨.done, .done⟩ answers)) := by
  obtain ⟨op, hop⟩ : ∃ op : Op, op = .policy (.removeAdmin admin ⟨.done, .done⟩ answers) :=
    ⟨_, rfl⟩
  have hstep : step C cleans s op =
      policyStep (plugin C cleans) s (.removeAdmin admin ⟨.done, .done⟩ answers) := by
    rw [hop]
    rfl
  have hforce : ¬ InForce C s admin := fun hforce => (hkeeps hforce.1).1 hforce
  have hsound : Readable C (step C cleans s op) → Kept C s (step C cleans s op) →
      Sound C cleans s op := by
    intro hread hkept
    refine ⟨hread, hshown.kept hkept, ?_⟩
    have hscreen := hkept.screen
    rw [hop] at hscreen ⊢
    exact ⟨fun h => absurd h hforce, fun _ => hscreen⟩
  rw [← hop]
  rcases policyStep_removeAdmin_cases (plugin C cleans) admin h.good policyName_ne rfl answers with
    ⟨-, hsame⟩ | ⟨-, hmodules, hsaved⟩
  · rw [hsame] at hstep
    refine hsound ?_ (.of_store ?_ ?_ ?_)
    · rw [hstep]
      exact h
    · rw [hstep]
    · rw [hstep]
    · rw [hstep]
  rw [← hstep] at hmodules hsaved
  have hcombined : combined C (step C cleans s op) = combined C s :=
    congrArg (imageOf C) hsaved.value_combined
  obtain ⟨current, hcurrent, hname, himage⟩ :=
    IsText.deserialize (h.text admin) answers.currentSize
  have hname : current.fileName = (own C s admin).fileName := hname
  have hmodules : (step C cleans s op).modules =
      (cancelScreenWatermarkImage cleans s.modules answers current).2.1 := by
    rw [hmodules]
    exact congrArg Prod.snd (onAdminRemove_read hcurrent
      ((plugin C cleans).getOthersMergePolicyData s.store.manager admin))
  refine hsound (h.saved hsaved (.inl rfl) (h.text "")) ?_
  have hkept : ∀ {modules : Modules}, (step C cleans s op).modules = modules →
      modules.screen = s.modules.screen →
      modules.files (combined C s).fileName = s.modules.files (combined C s).fileName →
      Kept C s (step C cleans s op) := by
    rintro modules rfl hscreen hfile
    exact ⟨congrArg _ hcombined, fun _ => hcombined, hfile, hscreen⟩
  rcases cancel_cases cleans s.modules answers current with
    ⟨-, hresult⟩ | ⟨hne, ⟨-, hresult⟩ | ⟨image, hread, haccepted, hresult⟩⟩
  · rw [hresult] at hmodules
    exact hkept hmodules rfl rfl
  · rw [hresult] at hmodules
    exact hkept hmodules rfl rfl
  · rw [hname] at hne
    have hown : current = own C s admin := himage hne
    rw [hresult, hown] at hmodules
    rw [hown] at hread
    obtain ⟨hscreen, hfile⟩ := cancelled_kept hread haccepted (hkeeps hne).2 hforce rfl
    exact hkept hmodules hscreen hfile

theorem sound_start (h : Readable C s) (hshown : Shown C s) {lost : Bool} {answers : Answers}
    (hkeeps : lost = true → (combined C s).fileName ≠ "" →
      getImageFromUrlUint8 answers.pixelMap s.modules (combined C s) ≠ none ∧
        answers.accepted = true) :
    Sound C cleans s (.otherServiceStart lost answers) := by
  refine ⟨h, ?_, trivial⟩
  obtain ⟨before, hbefore⟩ : ∃ before : Modules,
    before = if lost then { s.modules with screen := none } else s.modules := ⟨_, rfl⟩
  have hfiles : before.files = s.modules.files := by
    rw [hbefore]
    split <;> rfl
  have hmodules : (step C cleans s (.otherServiceStart lost answers)).modules =
      onOtherServiceStart C before answers
        (s.store.manager.policyValue "" POLICY_SCREEN_WATERMARK_IMAGE) := by
    rw [hbefore]
    rfl
  obtain ⟨current, hcurrent, hname, himage⟩ := IsText.deserialize (h.text "") answers.currentSize
  have hname : current.fileName = (combined C s).fileName := hname
  rcases hshown with ⟨hempty, hscreen⟩ | ⟨hne, pixels, hfile, hscreen⟩
  · -- Nothing is sent.
    refine .inl ⟨hempty, ?_⟩
    have hsame : onOtherServiceStart C before answers
        (s.store.manager.policyValue "" POLICY_SCREEN_WATERMARK_IMAGE) = before := by
      unfold onOtherServiceStart
      split
      · rfl
      · rw [hcurrent]
        exact if_pos (hname.trans hempty)
    rw [hmodules, hsame, hbefore]
    split
    · rfl
    · exact hscreen
  · have hcurrentEq : current = combined C s := himage hne
    have htext : s.store.manager.policyValue "" POLICY_SCREEN_WATERMARK_IMAGE ≠ "" := by
      intro hempty
      refine hne ?_
      rw [combined, hempty]
      rfl
    have hread : ∀ pixelMap, getImageFromUrlUint8 pixelMap before (combined C s) =
        getImageFromUrlUint8 pixelMap s.modules (combined C s) := by
      intro pixelMap
      rw [getImageFromUrlUint8, hfiles]
      rfl
    have hresult : onOtherServiceStart C before answers
        (s.store.manager.policyValue "" POLICY_SCREEN_WATERMARK_IMAGE) =
          match getImageFromUrlUint8 answers.pixelMap s.modules (combined C s) with
          | none => before
          | some image =>
            if answers.accepted then { before with screen := some image } else before := by
      unfold onOtherServiceStart
      rw [if_neg htext, hcurrent]
      dsimp only
      rw [hname, if_neg hne, hcurrentEq, hread]
    refine .inr ⟨hne, pixels, ?_, ?_⟩
    · rw [hmodules, hresult]
      split
      · exact (congrFun hfiles _).trans hfile
      · split
        · exact (congrFun hfiles _).trans hfile
        · exact (congrFun hfiles _).trans hfile
    · rw [hmodules, hresult]
      cases himageRead : getImageFromUrlUint8 answers.pixelMap s.modules (combined C s) with
      | none =>
        have hkept : lost = false := Bool.eq_false_iff.mpr fun hlost =>
          absurd himageRead (hkeeps hlost hne).1
        dsimp only
        rw [hbefore, hkept]
        exact hscreen
      | some image =>
        dsimp only
        obtain ⟨hpixels, himageEq⟩ := getImageFromUrlUint8_some himageRead
        rw [hfile] at hpixels
        have himageEq : image = ⟨pixels, (combined C s).width, (combined C s).height⟩ := by
          rw [himageEq, ← Option.some.inj hpixels]
        split
        · exact congrArg some himageEq
        · rename_i hrefused
          have hkept : lost = false := Bool.eq_false_iff.mpr fun hlost =>
            hrefused (hkeeps hlost hne).2
          rw [hbefore, hkept]
          exact hscreen

theorem sound_step (h : Readable C s) (hshown : Shown C s) (op : Op) (hkeeps : Keeps C cleans s op) :
    Sound C cleans s op := by
  cases op with
  | policy op =>
    cases op with
    | update admin writes request =>
      obtain rfl : writes = ⟨.done, .done⟩ := hkeeps.1
      exact sound_update h hshown hkeeps
    | removeAdmin admin writes answers =>
      obtain rfl : writes = ⟨.done, .done⟩ := hkeeps.1
      exact sound_removeAdmin h hshown hkeeps.2
  | otherServiceStart lost answers => exact sound_start h hshown hkeeps

theorem sound_boot (C : ArrayCJson) (files : String → Option (List UInt8)) :
    Readable C (boot files) ∧ Shown C (boot files) := by
  refine ⟨textStore_new (.inl rfl) DEFAULT_USER_ID, .inl ⟨?_, rfl⟩⟩
  exact congrArg (fun text => (imageOf C text).fileName)
    (policyValue_new DEFAULT_USER_ID "" POLICY_SCREEN_WATERMARK_IMAGE)

end Step

/-- In a run whose operations all meet `Keeps`, the combined policy and the screen agree throughout,
and every operation does what it should. -/
theorem always_shown (files : String → Option (List UInt8)) (ops : List Op)
    (h : Each (step C cleans) (Keeps C cleans) (boot files) ops) :
    Always (step C cleans) (Shown C) (boot files) ops ∧
      Each (step C cleans) (Right C cleans) (boot files) ops := by
  have hstep : ∀ s op, (Readable C s ∧ Shown C s) → Keeps C cleans s op →
      Readable C (step C cleans s op) ∧ Shown C (step C cleans s op) :=
    fun s op hs hkeeps => ⟨(sound_step hs.1 hs.2 op hkeeps).1, (sound_step hs.1 hs.2 op hkeeps).2.1⟩
  have hright : ∀ s op, (Readable C s ∧ Shown C s) → Keeps C cleans s op → Right C cleans s op :=
    fun s op hs hkeeps => (sound_step hs.1 hs.2 op hkeeps).2.2
  exact ⟨(always_of_each hstep (sound_boot C files) h).mono fun s hs => hs.2,
    each_of_each hstep hright (sound_boot C files) h⟩

/-- Every step of an operation succeeds. -/
def answering : Answers where
  pixelMap := true
  accepted := true
  removed := true
  removedNew := true
  write := .written
  currentSize := (0, 0)
  mergeSize := (0, 0)
  emptySize := (0, 0)

/-- A request for an image of one pixel. -/
def request (type : FuncOperateType) (pixel : UInt8) (timestamp : Int) : Request where
  type
  width := 1
  height := 1
  size := 1
  pixels := some [pixel]
  display := some (100, 100)
  timestamp
  random := 7
  answers := answering

def setOp (admin : AdminName) (pixel : UInt8) (timestamp : Int) : Op :=
  .policy (.update admin ⟨.done, .done⟩ (request .set pixel timestamp))

def cancelOp (admin : AdminName) : Op :=
  .policy (.update admin ⟨.done, .done⟩ (request .remove 0 0))

/-- Two admins set a watermark, the window manager loses it and shows it again, and the first admin
cancels the own one. -/
theorem always_shown_cancelled :
    Always (step .standard (· == ·)) (Shown .standard) (boot fun _ => none)
        [setOp firstAdmin 1 1, setOp secondAdmin 2 2, .otherServiceStart true answering,
          cancelOp firstAdmin] ∧
      Each (step .standard (· == ·)) (Right .standard (· == ·)) (boot fun _ => none)
        [setOp firstAdmin 1 1, setOp secondAdmin 2 2, .otherServiceStart true answering,
          cancelOp firstAdmin] := by
  refine always_shown .standard (· == ·) (fun _ => none) _
    ⟨⟨rfl, fun _ _ => ⟨by decide +kernel, by decide +kernel, ?_⟩⟩,
      ⟨rfl, fun _ _ => ⟨by decide +kernel, by decide +kernel, ?_⟩⟩,
      fun _ _ => ⟨by decide +kernel, rfl⟩, ⟨rfl, fun _ => ⟨?_, ?_⟩⟩, trivial⟩
  · rintro (hwrite | haccepted)
    · exact absurd rfl hwrite
    · cases haccepted
  · rintro (hwrite | haccepted)
    · exact absurd rfl hwrite
    · cases haccepted
  · exact fun hforce => absurd hforce.2 (by decide +kernel)
  · intro image shown himage _ hshown
    have hread : getImageFromUrlUint8 true (run (step .standard (· == ·)) (boot fun _ => none)
        [setOp firstAdmin 1 1, setOp secondAdmin 2 2, .otherServiceStart true answering]).modules
        (own .standard (run (step .standard (· == ·)) (boot fun _ => none)
          [setOp firstAdmin 1 1, setOp secondAdmin 2 2, .otherServiceStart true answering])
            firstAdmin) = some ⟨[1], 1, 1⟩ := by decide +kernel
    have hscreen : (run (step .standard (· == ·)) (boot fun _ => none)
        [setOp firstAdmin 1 1, setOp secondAdmin 2 2,
          .otherServiceStart true answering]).modules.screen = some ⟨[2], 1, 1⟩ := by
      decide +kernel
    obtain rfl : image = ⟨[1], 1, 1⟩ := Option.some.inj (himage.symm.trans hread)
    obtain rfl : shown = ⟨[2], 1, 1⟩ := Option.some.inj (hshown.symm.trans hscreen)
    decide

/-- A watermark that is cancelled stays the combined policy. -/
theorem cancel_keeps_combined :
    ¬ ∀ ops : List Op, (∀ op, op ∈ ops → ∃ admin request,
        op = .policy (.update admin ⟨.done, .done⟩ request)) →
      Always (step .standard (· == ·)) (Shown .standard) (boot fun _ => none) ops := by
  intro h
  have hwrites : ∀ op, op ∈ [setOp firstAdmin 1 1, cancelOp firstAdmin] → ∃ admin request,
      op = .policy (.update admin ⟨.done, .done⟩ request) :=
    List.forall_mem_cons.mpr ⟨⟨_, _, rfl⟩, List.forall_mem_singleton.mpr ⟨_, _, rfl⟩⟩
  have hlast := (h _ hwrites).last
  have hcombined : (combined .standard (run (step .standard (· == ·)) (boot fun _ => none)
      [setOp firstAdmin 1 1, cancelOp firstAdmin])).fileName ≠ "" := by decide +kernel
  have hscreen : (run (step .standard (· == ·)) (boot fun _ => none)
      [setOp firstAdmin 1 1, cancelOp firstAdmin]).modules.screen = none := by decide +kernel
  rcases hlast with ⟨hempty, -⟩ | ⟨-, pixels, -, hshown⟩
  · exact hcombined hempty
  · rw [hscreen] at hshown
    cases hshown

end SetScreenWatermarkImagePlugin

end Edm

import Mathlib.Data.Finset.Sort
import Edm.Library.Run
import Edm.Library.UnorderedMap

/-! The plugins that `PluginManager` has registered, by code and by policy name, and the extensions
that plugins are linked to.  A plugin object is known by its identity; the maps hold references to it.
`GetAllPermission` is never empty, and the libraries' handles are left out. -/

set_option autoImplicit false

namespace Edm

open Library Library.UnorderedMap

namespace EdmInterfaceCode

def POLICY_CODE_END : Nat := 3000

end EdmInterfaceCode

inductive ExecuteStrategy where
  | single
  | enhance
  | replace
deriving DecidableEq, Repr

inductive PluginType where
  | basic
  | extension
deriving DecidableEq, Repr

/-- What is fixed of a plugin object: its code, the name of its policy, and the library that its code
is from. -/
structure PluginInfo where
  code : Nat
  policyName : String
  soName : String
deriving DecidableEq, Repr

/-- The maps of the manager, and the fields of the plugin objects that it sets.  `unloaded` is the
library that the last call unloaded, with the codes of the plugins that were registered from it. -/
structure PluginRegistry (Id : Type) where
  pluginsCode : UnorderedMap Nat Id
  pluginsName : UnorderedMap String Id
  extensionPluginMap : UnorderedMap Nat Nat
  executeStrategyMap : UnorderedMap Nat ExecuteStrategy
  extensionPlugin : Id → Option Id
  basicPluginCode : Id → Nat
  pluginType : Id → PluginType
  executeStrategy : Id → ExecuteStrategy
  pluginUnloadFlag : Id → Bool
  unloaded : Option (String × Finset Nat)

/-- A call.  `none` is a null plugin. -/
inductive RegistryOp (Id : Type) where
  | addPlugin (plugin : Option Id)
  | addExtensionPlugin (extensionPlugin : Option Id) (basicPluginCode : Nat)
      (strategy : ExecuteStrategy)
  | setPluginUnloadFlag (code : Nat) (unloadFlag : Bool)
  | removePlugin (code : Nat)
  | unloadPlugin (soName : String)
deriving DecidableEq, Repr

namespace PluginRegistry

variable {Id : Type}

/-- No plugin is registered yet.  A plugin that is constructed is a basic one, its code of a basic
plugin is 0 and it may be unloaded unless its constructor says otherwise. -/
def boot (pluginUnloadFlag : Id → Bool) : PluginRegistry Id where
  pluginsCode := ∅
  pluginsName := ∅
  extensionPluginMap := ∅
  executeStrategyMap := ∅
  extensionPlugin _ := none
  basicPluginCode _ := 0
  pluginType _ := .basic
  executeStrategy _ := .single
  pluginUnloadFlag
  unloaded := none

variable [DecidableEq Id] (info : Id → PluginInfo) (soCodes : String → Option (List Nat))
  (s : PluginRegistry Id)

def getPluginByCode (code : Nat) : Option Id := s.pluginsCode.lookup code

def setExtensionPlugin (plugin : Id) (extensionPlugin : Option Id) : PluginRegistry Id :=
  { s with extensionPlugin := Function.update s.extensionPlugin plugin extensionPlugin }

def setExecuteStrategy (plugin : Id) (strategy : ExecuteStrategy) : PluginRegistry Id :=
  { s with executeStrategy := Function.update s.executeStrategy plugin strategy }

/-- The insertions of `AddPlugin`, which leave a plugin that has the code or the name already. -/
def insertPlugin (plugin : Id) : PluginRegistry Id :=
  { s with
    pluginsCode := insertNew s.pluginsCode (info plugin).code plugin
    pluginsName := insertNew s.pluginsName (info plugin).policyName plugin }

def addPlugin : Option Id → Bool × PluginRegistry Id
  | none => (false, s)
  | some plugin =>
    let code := (info plugin).code
    let s := s.insertPlugin info plugin
    let s := match s.extensionPluginMap.lookup code with
      | none => s
      | some extensionCode => s.setExtensionPlugin plugin (s.getPluginByCode extensionCode)
    (true, s.setExecuteStrategy plugin ((s.executeStrategyMap.lookup code).getD .single))

def addExtensionPlugin (extensionPlugin : Option Id) (basicPluginCode : Nat)
    (strategy : ExecuteStrategy) : Bool × PluginRegistry Id :=
  match extensionPlugin with
  | none => (false, s)
  | some plugin =>
    let s := (s.addPlugin info (some plugin)).2
    let s := match s.getPluginByCode basicPluginCode with
      | none => s
      | some basicPlugin =>
        (s.setExtensionPlugin basicPlugin (some plugin)).setExecuteStrategy basicPlugin strategy
    (true,
      { s with
        basicPluginCode := Function.update s.basicPluginCode plugin basicPluginCode
        pluginType := Function.update s.pluginType plugin .extension
        extensionPluginMap :=
          insertNew s.extensionPluginMap basicPluginCode (info plugin).code
        executeStrategyMap := insertNew s.executeStrategyMap basicPluginCode strategy })

def setPluginUnloadFlag (code : Nat) (unloadFlag : Bool) : PluginRegistry Id :=
  match s.getPluginByCode code with
  | none => s
  | some plugin =>
    { s with pluginUnloadFlag := Function.update s.pluginUnloadFlag plugin unloadFlag }

def removePlugin : Option Id → PluginRegistry Id
  | none => s
  | some plugin =>
    let s := { s with
      extensionPluginMap := s.extensionPluginMap.erase (info plugin).code
      pluginsCode := s.pluginsCode.erase (info plugin).code
      pluginsName := s.pluginsName.erase (info plugin).policyName }
    let s := s.setExtensionPlugin plugin none
    match s.getPluginByCode (s.basicPluginCode plugin) with
    | none => s
    | some basicPlugin => s.setExtensionPlugin basicPlugin none

/-- Whether a plugin is there that has to stay. -/
def persists (plugin : Option Id) : Bool := plugin.any fun plugin => !s.pluginUnloadFlag plugin

def extraHasPersistPlugin (codes : List Nat) : Bool :=
  codes.any fun code => s.persists (s.getPluginByCode code)

def hasPersistPlugin (codes : List Nat) : Bool :=
  codes.any fun code =>
    s.persists ((s.extensionPluginMap.lookup code).bind s.getPluginByCode) ||
      s.persists (s.getPluginByCode code)

def getExtraPluginCodeList : List Nat :=
  (s.pluginsCode.keys.filter (EdmInterfaceCode.POLICY_CODE_END < ·)).sort (· ≤ ·) ++
    (s.extensionPluginMap.keys.sort (· ≤ ·)).filterMap s.extensionPluginMap.lookup

def removePlugins (s : PluginRegistry Id) (codes : List Nat) : PluginRegistry Id :=
  codes.foldl (fun s code => s.removePlugin info (s.getPluginByCode code)) s

/-- `UnloadPlugin`.  `soCodes` are the codes of the libraries of the service, every other library is
an extra one. -/
def unloadPlugin (soName : String) : Bool × PluginRegistry Id :=
  match soCodes soName with
  | some codes =>
    if s.hasPersistPlugin codes then (false, s) else (true, s.removePlugins info codes)
  | none =>
    let codes := s.getExtraPluginCodeList
    if s.extraHasPersistPlugin codes then (false, s)
    else
      let s := { s with extensionPluginMap := ∅, executeStrategyMap := ∅ }
      if s.hasPersistPlugin codes then (false, s) else (true, s.removePlugins info codes)

/-- The codes under which plugins of a library are registered. -/
def libraryCodes (soName : String) : Finset Nat :=
  keysWhere (fun plugin => (info plugin).soName == soName) s.pluginsCode

end PluginRegistry

open PluginRegistry

/-- A call, with the record of the library that it unloads. -/
def registryStep {Id : Type} [DecidableEq Id] (info : Id → PluginInfo)
    (soCodes : String → Option (List Nat)) (s : PluginRegistry Id) :
    RegistryOp Id → PluginRegistry Id
  | .addPlugin plugin => { (s.addPlugin info plugin).2 with unloaded := none }
  | .addExtensionPlugin extensionPlugin basicPluginCode strategy =>
    { (s.addExtensionPlugin info extensionPlugin basicPluginCode strategy).2 with unloaded := none }
  | .setPluginUnloadFlag code unloadFlag =>
    { s.setPluginUnloadFlag code unloadFlag with unloaded := none }
  | .removePlugin code =>
    { s.removePlugin info (s.getPluginByCode code) with unloaded := none }
  | .unloadPlugin soName =>
    let (unloads, after) := s.unloadPlugin info soCodes soName
    { after with
      unloaded := if unloads then some (soName, s.libraryCodes info soName) else none }

end Edm

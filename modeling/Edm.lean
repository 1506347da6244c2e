import Edm.Library.Run
import Edm.Library.Json
import Edm.Library.SetAlgorithms
import Edm.Library.Holders
import Edm.Library.OrderedMap
import Edm.Policy.Indexes
import Edm.Policy.Restart
import Edm.Plugin.CJson
import Edm.Plugin.Manager
import Edm.Plugin.Template
import Edm.Plugin.ArrayStringSerializer
import Edm.Plugin.Values
import Edm.Plugin.ArrayPolicy
import Edm.Plugin.PolicyRun
import Edm.Plugin.BasicBool
import Edm.Plugin.ManageKeepAliveAppsSerializer
import Edm.Plugin.ManageKeepAliveAppsPlugin
import Edm.Plugin.KeepAliveEvents
import Edm.Admin.PolicyName
import Edm.Admin.Admin
import Edm.Storage.AdminPolicies
import Edm.Admin.AdminContainer
import Edm.Admin.AdminManager
import Edm.Admin.Reload
import Edm.Admin.AdminRun
import Edm.Ability.PluginPermission
import Edm.Ability.PermissionChecker
import Edm.Ability.HandleDevicePolicy
import Edm.Plugin.SetAbilityDisablePlugin
import Edm.Ability.Device
import Edm.Ability.RemoveAdmin
import Edm.Ability.DeviceRun
import Edm.Ability.Service
import Edm.SystemManager.SystemTimerManager
import Edm.SystemManager.TimerRun
import Edm.EventManagement.EventSubscriptionManager
import Edm.EventManagement.SubscriptionSystem
import Edm.EventManagement.ReferenceCounts
import Edm.Library.SeparatedKey
import Edm.EventManagement.AdapterLeak
import Edm.EventManagement.PluginEventRouter
import Edm.EventManagement.RouterRun
import Edm.Policy.Combined
import Edm.Ability.PluginEvents
import Edm.Ability.PluginEventsRun
import Edm.EventManagement.MdmEventRelayer
import Edm.Ability.AdminLifecycle
import Edm.Ability.Delegation
import Edm.Ability.ManagedEvents
import Edm.Ability.ServiceRun
import Edm.Admin.Population
import Edm.Admin.Orderly
import Edm.Ability.AdminPopulation
import Edm.Ability.PopulationRun
import Edm.Policy.Holdings
import Edm.Ability.Holdings
import Edm.Ability.HoldingsRun
import Edm.Ability.ChildAdmins
import Edm.Ability.Restrictions
import Edm.Plugin.ArrayStringItems
import Edm.Plugin.ItemPolicy
import Edm.Plugin.SnapshotSkipPlugin
import Edm.Library.JsonNumbers
import Edm.Plugin.IntCJson
import Edm.Plugin.EventPlugin
import Edm.Plugin.ManageAppsSerializer
import Edm.Plugin.ManageAppsPolicy
import Edm.Plugin.ManageFreezeExemptedAppsPlugin
import Edm.Plugin.ManageUserNonStopAppsPlugin
import Edm.Plugin.PermissionManagedStateSerializer
import Edm.Plugin.SetPermissionManagedStatePlugin
import Edm.Plugin.MapStringSerializer
import Edm.Plugin.MapStringPolicy
import Edm.Plugin.DisabledNetworkInterfacePlugin
import Edm.Plugin.DisallowAddOsAccountByUserPlugin
import Edm.Plugin.MapStringPlugins
import Edm.Library.Groups
import Edm.Plugin.AllowedPermissionBundleSerializer
import Edm.Plugin.AllowedPermissionBundlePlugin
import Edm.Plugin.AllowedNotificationBundlesSerializer
import Edm.Plugin.AllowedNotificationBundlesPlugin
import Edm.Library.Delivery
import Edm.Connection.EnterpriseConnManager
import Edm.Connection.StrategyRun
import Edm.Plugin.UIntSerializer
import Edm.Plugin.DisallowedSimPlugin
import Edm.Plugin.FingerprintAuthPlugin
import Edm.Plugin.Accounts
import Edm.Plugin.ArrayIntSerializer
import Edm.Plugin.NearlinkConfigUtils
import Edm.Plugin.DisallowedNearlinkProtocolsPlugin
import Edm.Plugin.IntSerializer
import Edm.Plugin.ArrayUsbDeviceTypeSerializer
import Edm.Plugin.UsbPlugins
import Edm.Library.Strictest
import Edm.Plugin.UsbReadOnlyRun
import Edm.Plugin.DisallowedUsbDevices
import Edm.Library.Channels
import Edm.Plugin.UsbDenyRun
import Edm.Plugin.DisallowedPermissionPlugin
import Edm.Plugin.PermissionRun
import Edm.Plugin.WifiListPlugins
import Edm.Plugin.WifiListRun
import Edm.Plugin.TemplatePolicy
import Edm.Plugin.KioskFeaturePlugin
import Edm.Plugin.MobileDataPlugins
import Edm.Plugin.LocationPolicyPlugin
import Edm.Plugin.AbilityDisableRun
import Edm.Library.LastSet
import Edm.Plugin.JsonObject
import Edm.Plugin.PasswordPolicySerializer
import Edm.Plugin.PasswordPolicyPlugin
import Edm.Plugin.SetAllowedKioskAppsPlugin
import Edm.Plugin.SetScreenWatermarkImagePlugin
import Edm.Library.NamedSections
import Edm.Plugin.SetBrowserPoliciesPlugin
import Edm.Plugin.BrowserPoliciesRun
import Edm.Library.TextLines
import Edm.Plugin.ManagedBrowserPolicySerializer
import Edm.Plugin.ManagedBrowserPolicyPlugin
import Edm.Plugin.AllOrNothing
import Edm.Admin.SetAdminValue
import Edm.Ability.KeepPolicy
import Edm.Plugin.FunctionPlugin
import Edm.Plugin.HandlePolicyDone
import Edm.Plugin.ArraySerializer
import Edm.Plugin.MergeFailure
import Edm.Plugin.ClipboardPolicySerializer
import Edm.Plugin.ClipboardPolicyPlugin
import Edm.Plugin.ClipboardPolicyRun
import Edm.Plugin.InstallLocalEnterpriseAppPlugins
import Edm.Plugin.InstallLocalEnterpriseAppRun
import Edm.Plugin.InstallLocalEnterpriseAppCalls
import Edm.Library.FailStop
import Edm.Ability.RemovalPlan
import Edm.Ability.ContainerRun
import Edm.Ability.ReplaceSuperAdmin
import Edm.Plugin.BundleRemoved
import Edm.Plugin.BundleRemovedApps
import Edm.Plugin.ManageAutoStartAppsSerializer
import Edm.Plugin.ManageAutoStartAppsPlugin
import Edm.Library.OutParameter
import Edm.Plugin.StaleOutput
import Edm.Plugin.KeepAliveEnforced
import Edm.Plugin.KeepAliveRequests
import Edm.Plugin.ManagedBrowserVersions
import Edm.Library.ByteText
import Edm.Network.DomainFilterRule
import Edm.Network.DomainChainRule
import Edm.Network.FirewallRule
import Edm.Network.ChainRule
import Edm.Network.Executer
import Edm.Network.IptablesManager
import Edm.Network.DefaultDenyRun
import Edm.Network.DefaultDeny
import Edm.Library.AppendErase
import Edm.Network.FirewallRemoval
import Edm.Library.Files
import Edm.Plugin.InstallPlugin
import Edm.Plugin.InstallExact
import Edm.Ability.PluginRegistry
import Edm.Ability.PluginRegistryRun
import Edm.Ability.PluginCoherence
import Edm.Ability.ConflictGroupRegistry
import Edm.Library.CriticalSections
import Edm.Policy.ManagerWrites
import Edm.Ability.ConflictChecks
import Edm.Ability.UserRemoved

import CiClient.Json.Shape

/-!
# Plugins

The plugins of the server, with their versions and states.
-/

set_option autoImplicit false

namespace CiClient.Record

open Json (Shape Fields)

/-- A plugin of the server. -/
structure Plugin where
  active : Bool
  backupVersion : Option String
  bundled : Bool
  deleted : Bool
  downgradable : Bool
  enabled : Bool
  hasUpdate : Bool
  longName : Option String
  pinned : Bool
  requiredCoreVersion : Option String
  shortName : Option String
  supportsDynamicLoad : Option String
  url : Option String
  version : Option String

/-- How a plugin is written; what is left out is missing or false. -/
def Plugin.shape : Shape Plugin :=
  .record "Plugin"
    (.withDefault "active" .boolean false <|
      .optional "backupVersion" .text <|
      .withDefault "bundled" .boolean false <|
      .withDefault "deleted" .boolean false <|
      .withDefault "downgradable" .boolean false <|
      .withDefault "enabled" .boolean false <|
      .withDefault "hasUpdate" .boolean false <|
      .optional "longName" .text <|
      .withDefault "pinned" .boolean false <|
      .optional "requiredCoreVersion" .text <|
      .optional "shortName" .text <|
      .optional "supportsDynamicLoad" .text <|
      .optional "url" .text <|
      .optional "version" .text .done)
    ⟨fun (active, backupVersion, bundled, deleted, downgradable, enabled, hasUpdate, longName,
          pinned, requiredCoreVersion, shortName, supportsDynamicLoad, url, version, ()) =>
        ⟨active, backupVersion, bundled, deleted, downgradable, enabled, hasUpdate, longName,
          pinned, requiredCoreVersion, shortName, supportsDynamicLoad, url, version⟩,
      fun r => (r.active, r.backupVersion, r.bundled, r.deleted, r.downgradable, r.enabled,
        r.hasUpdate, r.longName, r.pinned, r.requiredCoreVersion, r.shortName,
        r.supportsDynamicLoad, r.url, r.version, ()),
      fun _ => rfl, fun _ => rfl⟩

/-- The plugins of the server. -/
structure PluginList where
  className : Option String
  plugins : List Plugin

namespace PluginList

/-- How the list of plugins is written. -/
def shape : Shape PluginList :=
  .record "Plugins"
    (.optional "_class" .text <|
      .many "plugins" Plugin.shape .done)
    ⟨fun (className, plugins, ()) => ⟨className, plugins⟩,
      fun r => (r.className, r.plugins, ()), fun _ => rfl, fun _ => rfl⟩

/-- The first plugin of a short name. -/
def find? (l : PluginList) (shortName : String) : Option Plugin :=
  l.plugins.find? fun plugin => plugin.shortName == some shortName

end PluginList
end CiClient.Record

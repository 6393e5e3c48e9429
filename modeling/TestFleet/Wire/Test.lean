import TestFleet.Json.Reader
import TestFleet.Test

/-!
# Tests and buckets on the wire

How identities, resources, configurations and buckets are written as JSON, and read back.
-/

namespace TestFleet

open Json (Reader Fields Content)

/-! ## Identities -/

namespace JobId

def toJson (j : JobId) : Json := .string j.text

def reader : Reader JobId := Reader.text.map JobId.mk

end JobId

namespace BucketId

def toJson (b : BucketId) : Json := .string b.text

def reader : Reader BucketId := Reader.text.map BucketId.mk

end BucketId

namespace WorkerId

def toJson (w : WorkerId) : Json := .string w.text

def reader : Reader WorkerId := Reader.text.map WorkerId.mk

end WorkerId

namespace ClientId

def toJson (c : ClientId) : Json := .string c.shown

def reader : Reader ClientId := Reader.text.restrict ClientId.ofText?

end ClientId

namespace Party

def toJson : Party → Json
  | worker w => .object [("Worker", w.toJson)]
  | client c => .object [("Client", c.toJson)]

def reader : Reader Party := Reader.oneOf [
  ("Worker", .one (WorkerId.reader.map worker)),
  ("Client", .one (ClientId.reader.map client))]

end Party

/-! ## Resources -/

namespace ResourceKind

/-- The kinds and their names on the wire. -/
def names : List (String × ResourceKind) := [
  ("additional_app_bundle", additionalAppBundle),
  ("app_bundle", appBundle),
  ("fbsimctl", fbsimctl),
  ("fbxctest", fbxctest),
  ("plugin", plugin),
  ("runner_app", runnerApp),
  ("simulator_localization", simulatorLocalization),
  ("pre_boot_global_preference", preBootGlobalPreference),
  ("test_bundle", testBundle),
  ("watchdog_settings", watchdogSettings)]

/-- The name of a kind on the wire. -/
def name : ResourceKind → String
  | additionalAppBundle => "additional_app_bundle"
  | appBundle => "app_bundle"
  | fbsimctl => "fbsimctl"
  | fbxctest => "fbxctest"
  | plugin => "plugin"
  | runnerApp => "runner_app"
  | simulatorLocalization => "simulator_localization"
  | preBootGlobalPreference => "pre_boot_global_preference"
  | testBundle => "test_bundle"
  | watchdogSettings => "watchdog_settings"

def toJson (k : ResourceKind) : Json := .string k.name

def reader : Reader ResourceKind := Reader.named names

end ResourceKind

namespace ResourceLocation

def toJson : ResourceLocation → Json
  | localPath path => .object [("type", .string "local_file_path"), ("value", .string path.text)]
  | remoteUrl url => .object [("type", .string "remote_url"), ("value", .string url)]

def reader : Reader ResourceLocation := Reader.beside [
  ("local_file_path", .one (Reader.text.map fun s => localPath ⟨s⟩)),
  ("remote_url", .one (Reader.text.map remoteUrl))] "type" "value"

end ResourceLocation

namespace Resource

def toJson (r : Resource) : Json :=
  .object [("kind", r.kind.toJson), ("location", r.location.toJson)]

def fields : Fields Resource := Resource.mk
  <$> .required "kind" ResourceKind.reader
  <*> .required "location" ResourceLocation.reader

def reader : Reader Resource := .record fields

end Resource

/-! ## Tests -/

namespace TestName

def toJson (n : TestName) : Json :=
  .object [("class_name", .string n.className), ("method_name", .string n.methodName)]

def fields : Fields TestName := TestName.mk
  <$> .required "class_name" Reader.text
  <*> .required "method_name" Reader.text

def reader : Reader TestName := .record fields

end TestName

namespace TestEntry

def toJson (e : TestEntry) : Json := .object [
  ("test_name", e.name.toJson),
  ("tags", .ofList .string e.tags),
  ("case_id", .ofOption (fun n => .natural n.toNat) e.caseId)]

def fields : Fields TestEntry := TestEntry.mk
  <$> .required "test_name" TestName.reader
  <*> .defaulted "tags" (Reader.list Reader.text) []
  <*> .defaulted "case_id" (Reader.optional Reader.uint64) none

def reader : Reader TestEntry := .record fields

end TestEntry

/-! ## Configurations -/

namespace BuildArtifacts

def toJson (a : BuildArtifacts) : Json := .object [
  ("app_bundle", .ofOption Resource.toJson a.appBundle),
  ("runner", .ofOption Resource.toJson a.runner),
  ("xc_test_bundle", a.testBundle.toJson),
  ("additional_application_bundles", .ofList Resource.toJson a.additionalBundles)]

def fields : Fields BuildArtifacts := BuildArtifacts.mk
  <$> .optional "app_bundle" Resource.reader
  <*> .optional "runner" Resource.reader
  <*> .required "xc_test_bundle" Resource.reader
  <*> .defaulted "additional_application_bundles" (Reader.list Resource.reader) []

def reader : Reader BuildArtifacts := .record fields

end BuildArtifacts

namespace SimulatorSettings

def toJson (s : SimulatorSettings) : Json := .object [
  ("simulator_localization_settings", .ofOption Resource.toJson s.localization),
  ("watchdog_settings", .ofOption Resource.toJson s.watchdog),
  ("pre_boot_global_preference", .ofOption Resource.toJson s.globalPreference)]

def fields : Fields SimulatorSettings := SimulatorSettings.mk
  <$> .optional "simulator_localization_settings" Resource.reader
  <*> .optional "watchdog_settings" Resource.reader
  <*> .optional "pre_boot_global_preference" Resource.reader

def reader : Reader SimulatorSettings := .record fields

end SimulatorSettings

namespace TestDestination

def toJson (d : TestDestination) : Json :=
  .object [("device_type", .string d.deviceType), ("runtime", .string d.runtime)]

def fields : Fields TestDestination := TestDestination.mk
  <$> .required "device_type" Reader.text
  <*> .required "runtime" Reader.text

def reader : Reader TestDestination := .record fields

end TestDestination

namespace TestBehavior

def toJson (b : TestBehavior) : Json := .object [
  ("environment", .object (b.environment.entries.map fun (name, value) => (name, .string value))),
  ("number_of_retries", .natural b.retries.toNat)]

def fields : Fields TestBehavior := TestBehavior.mk
  <$> .defaulted "environment" ((Reader.pairs Reader.text).map Directory.ofList) ∅
  <*> .defaulted "number_of_retries" Reader.uint32 0

def reader : Reader TestBehavior := .record fields

end TestBehavior

namespace TestType

def toJson : TestType → Json
  | logicTest => .string "logicTest"
  | appTest => .string "appTest"
  | uiTest => .string "uiTest"

def reader : Reader TestType := Reader.named [
  ("logicTest", logicTest),
  ("appTest", appTest),
  ("uiTest", uiTest)]

end TestType

namespace Toolchain

def toJson (t : Toolchain) : Json := .object [("developer_dir", .string t.developerDir)]

def fields : Fields Toolchain := Toolchain.mk <$> .required "developer_dir" Reader.text

def reader : Reader Toolchain := .record fields

end Toolchain

namespace TestConfiguration

def toJson (c : TestConfiguration) : Json := .object [
  ("build_artifacts", c.artifacts.toJson),
  ("simulator_settings", c.simulator.toJson),
  ("test_destination", c.destination.toJson),
  ("test_execution_behavior", c.behavior.toJson),
  ("test_type", c.type.toJson),
  ("toolchain_configuration", c.toolchain.toJson)]

def fields : Fields TestConfiguration := TestConfiguration.mk
  <$> .required "build_artifacts" BuildArtifacts.reader
  <*> .defaulted "simulator_settings" SimulatorSettings.reader {}
  <*> .required "test_destination" TestDestination.reader
  <*> .defaulted "test_execution_behavior" TestBehavior.reader {}
  <*> .required "test_type" TestType.reader
  <*> .required "toolchain_configuration" Toolchain.reader

def reader : Reader TestConfiguration := .record fields

end TestConfiguration

namespace ConfiguredTest

def toJson (t : ConfiguredTest) : Json :=
  .object [("test_entry", t.entry.toJson), ("configuration", t.configuration.toJson)]

def fields : Fields ConfiguredTest := ConfiguredTest.mk
  <$> .required "test_entry" TestEntry.reader
  <*> .required "configuration" TestConfiguration.reader

def reader : Reader ConfiguredTest := .record fields

end ConfiguredTest

namespace Bucket

def toJson (b : Bucket) : Json := .object [
  ("bucket_id", b.id.toJson),
  ("test_entries", .ofList TestEntry.toJson b.entries),
  ("configuration", b.configuration.toJson)]

def fields : Fields Bucket := Bucket.mk
  <$> .required "bucket_id" BucketId.reader
  <*> .required "test_entries" (Reader.list TestEntry.reader)
  <*> .required "configuration" TestConfiguration.reader

def reader : Reader Bucket := .record fields

end Bucket

end TestFleet

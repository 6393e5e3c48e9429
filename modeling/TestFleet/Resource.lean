import TestFleet.Text.Path
import TestFleet.Text.Utf8
import TestFleet.Digest

/-!
# Resources

A resource is a file that a test run needs, either in a place of the local file system or behind a
URL. Resolving one yields a path on this host: the local path itself, or the place in a cache that
a digest of the URL picks, so that the same URL always lands in the same place.
-/

namespace TestFleet

/-- What a resource is used for. -/
inductive ResourceKind where
  | additionalAppBundle
  | appBundle
  | fbsimctl
  | fbxctest
  | plugin
  | runnerApp
  | simulatorLocalization
  | preBootGlobalPreference
  | testBundle
  | watchdogSettings
  deriving DecidableEq, Repr

/-- The name of a kind in messages. -/
def ResourceKind.label : ResourceKind → String
  | additionalAppBundle => "additional app bundle"
  | appBundle => "app bundle"
  | fbsimctl => "fbsimctl"
  | fbxctest => "fbxctest"
  | plugin => "plugin"
  | runnerApp => "xct runner app"
  | simulatorLocalization => "simulator localization settings"
  | preBootGlobalPreference => "pre boot .GlobalPreferences.plist"
  | testBundle => "xctest bundle"
  | watchdogSettings => "watchdog settings"

/-- Where a resource lies. -/
inductive ResourceLocation where
  | localPath (path : FilePath)
  | remoteUrl (url : String)
  deriving BEq, Repr

/-- The place of a resource as text. -/
def ResourceLocation.text : ResourceLocation → String
  | localPath path => path.text
  | remoteUrl url => url

/-- A resource: where it lies, and what it is for. -/
structure Resource where
  kind : ResourceKind
  location : ResourceLocation
  deriving BEq, Repr

/-- A place where a resource can be read on this host. -/
inductive ResolvedResource where
  /-- It is there already. -/
  | present (path : FilePath)
  /-- It is to be fetched from its URL into the cache. -/
  | fetch (url : String) (cached : FilePath)
  deriving Repr

/-- Why a resource cannot be resolved. -/
inductive ResolveError where
  | missing (kind : ResourceKind) (path : FilePath)
  | emptyUrl (kind : ResourceKind)
  deriving Repr

/-- The explanation shown to a user. -/
def ResolveError.message : ResolveError → String
  | missing kind path => kind.label ++ " does not exist at " ++ path.text
  | emptyUrl kind => kind.label ++ " has an empty URL"

namespace Resource

/-- A resource in a message. -/
def shown (r : Resource) : String := r.kind.label ++ " at " ++ r.location.text

/-- The name in the cache of what lies behind a URL. -/
def cacheName (url : String) : String := String.ofList (Digest.digestDigits (Text.utf8 url))

/-- Resolves a resource, given which paths exist and where the cache lies. -/
def resolve (isThere : FilePath → Bool) (cache : FilePath) (r : Resource) :
    Except ResolveError ResolvedResource :=
  match r.location with
  | .localPath path =>
    if isThere path then .ok (.present path) else .error (.missing r.kind path)
  | .remoteUrl url =>
    if Text.isBlankText url then .error (.emptyUrl r.kind)
    else .ok (.fetch url (cache.join (cacheName url)))

end Resource

end TestFleet

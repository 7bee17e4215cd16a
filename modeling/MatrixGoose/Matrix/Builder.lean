import MatrixGoose.Foundation.Register
import MatrixGoose.Matrix.HttpClient.Retry

/-!
# Building a client

The options of a `GooseClientBuilder` are set one after the other in any order.  Some of
them replace others: a URL and a server name, and a custom HTTP client and the settings of
the default one.
-/

namespace MatrixGoose

open Foundation

namespace Builder

open HttpClient

section Options

variable {Custom Store Version : Type}

structure HttpSettings where
  disableSslVerification : Bool
  proxy : Option String
  userAgent : Option String
  timeout : Nat

def HttpSettings.default : HttpSettings where
  disableSslVerification := false
  proxy := none
  userAgent := none
  timeout := RequestConfig.defaultRequestTimeout

inductive HttpConfig (Custom : Type)
  | settings (settings : HttpSettings)
  | custom (client : Custom)

def HttpConfig.toSettings : HttpConfig Custom -> HttpSettings
  | settings current => current
  | custom _ => HttpSettings.default

inductive HomeserverConfig
  | url (url : String)
  | serverName (serverName : String)

structure GooseClientBuilder (Custom Store Version : Type) where
  homeserverCfg : Option HomeserverConfig
  httpCfg : Option (HttpConfig Custom)
  storeConfig : Store
  requestConfig : RequestConfig
  respectLoginWellKnown : Bool
  serverVersions : Option (List Version)
  handleRefreshTokens : Bool
  gooseUserIndex : Nat

namespace GooseClientBuilder

def new (defaultStore : Store) (gooseUserIndex : Nat) :
    GooseClientBuilder Custom Store Version where
  homeserverCfg := none
  httpCfg := none
  storeConfig := defaultStore
  requestConfig := RequestConfig.default
  respectLoginWellKnown := true
  serverVersions := none
  handleRefreshTokens := false
  gooseUserIndex := gooseUserIndex

def httpSettings (builder : GooseClientBuilder Custom Store Version) : HttpSettings :=
  (builder.httpCfg.getD (HttpConfig.settings HttpSettings.default)).toSettings

end GooseClientBuilder

inductive Setter (Custom Store Version : Type)
  | homeserverUrl (url : String)
  | serverName (serverName : String)
  | storeConfig (storeConfig : Store)
  | respectLoginWellKnown (value : Bool)
  | requestConfig (requestConfig : RequestConfig)
  | proxy (proxy : String)
  | disableSslVerification
  | userAgent (userAgent : String)
  | httpClient (client : Custom)
  | serverVersions (value : List Version)
  | handleRefreshTokens

def Setter.apply (builder : GooseClientBuilder Custom Store Version) :
    Setter Custom Store Version -> GooseClientBuilder Custom Store Version
  | homeserverUrl url => { builder with homeserverCfg := some (HomeserverConfig.url url) }
  | serverName name =>
      { builder with homeserverCfg := some (HomeserverConfig.serverName name) }
  | storeConfig store => { builder with storeConfig := store }
  | respectLoginWellKnown value => { builder with respectLoginWellKnown := value }
  | requestConfig config => { builder with requestConfig := config }
  | proxy value =>
      let settings := { builder.httpSettings with proxy := some value }
      { builder with httpCfg := some (HttpConfig.settings settings) }
  | disableSslVerification =>
      let settings := { builder.httpSettings with disableSslVerification := true }
      { builder with httpCfg := some (HttpConfig.settings settings) }
  | userAgent value =>
      let settings := { builder.httpSettings with userAgent := some value }
      { builder with httpCfg := some (HttpConfig.settings settings) }
  | httpClient client => { builder with httpCfg := some (HttpConfig.custom client) }
  | serverVersions value => { builder with serverVersions := some value }
  | handleRefreshTokens => { builder with handleRefreshTokens := true }

def configured (defaultStore : Store) (gooseUserIndex : Nat)
    (setters : List (Setter Custom Store Version)) :
    GooseClientBuilder Custom Store Version :=
  setters.foldl Setter.apply (GooseClientBuilder.new defaultStore gooseUserIndex)

end Options

/-!
# Building
-/

section Build

variable {Custom Store Version Url : Type}

inductive ClientBuildError
  | missingHomeserver
  | autoDiscovery (error : HttpError)
  | url
  | http (error : HttpError)

structure WellKnown where
  baseUrl : String
  authenticationIssuer : Option String

/-- What building a client needs from the outside: a default HTTP client, the answer to a
discovery request, and parsing of URLs. -/
structure Environment (Custom Url : Type) where
  makeClient : HttpSettings -> Except HttpError Custom
  discoverHomeserver : Custom -> RequestConfig -> String -> Except HttpError WellKnown
  parseUrl : String -> Option Url

structure ClientInner (Custom Store Version Url : Type) where
  homeserver : Url
  authenticationIssuer : Option String
  httpClient : Custom
  requestConfig : RequestConfig
  storeConfig : Store
  serverVersions : Option (List Version)
  respectLoginWellKnown : Bool
  handleRefreshTokens : Bool
  gooseUserIndex : Nat

def homeserverFromName (serverName : String) : String :=
  "https://" ++ serverName

def discoveryError : HttpError -> ClientBuildError
  | HttpError.apiServer err => ClientBuildError.autoDiscovery (HttpError.apiServer err)
  | HttpError.apiDeserialization => ClientBuildError.autoDiscovery HttpError.apiDeserialization
  | err => ClientBuildError.http err

def findHomeserver (env : Environment Custom Url) (client : Custom) :
    HomeserverConfig -> Except ClientBuildError (String × Option String)
  | HomeserverConfig.url url => .ok (url, none)
  | HomeserverConfig.serverName serverName =>
      match env.discoverHomeserver client RequestConfig.shortRetry
        (homeserverFromName serverName) with
      | .error err => .error (discoveryError err)
      | .ok wellKnown => .ok (wellKnown.baseUrl, wellKnown.authenticationIssuer)

def innerHttpClient (env : Environment Custom Url)
    (builder : GooseClientBuilder Custom Store Version) : Except ClientBuildError Custom :=
  match builder.httpCfg.getD (HttpConfig.settings HttpSettings.default) with
  | HttpConfig.custom client => .ok client
  | HttpConfig.settings settings =>
      match env.makeClient { settings with timeout := builder.requestConfig.timeout } with
      | .ok client => .ok client
      | .error err => .error (ClientBuildError.http err)

def build (env : Environment Custom Url)
    (builder : GooseClientBuilder Custom Store Version) :
    Except ClientBuildError (ClientInner Custom Store Version Url) :=
  match builder.homeserverCfg with
  | none => .error ClientBuildError.missingHomeserver
  | some homeserverCfg =>
      match innerHttpClient env builder with
      | .error err => .error err
      | .ok httpClient =>
          match findHomeserver env httpClient homeserverCfg with
          | .error err => .error err
          | .ok (homeserver, authenticationIssuer) =>
              match env.parseUrl homeserver with
              | none => .error ClientBuildError.url
              | some homeserver =>
                  .ok
                    { homeserver, authenticationIssuer, httpClient
                      requestConfig := builder.requestConfig
                      storeConfig := builder.storeConfig
                      serverVersions := builder.serverVersions
                      respectLoginWellKnown := builder.respectLoginWellKnown
                      handleRefreshTokens := builder.handleRefreshTokens
                      gooseUserIndex := builder.gooseUserIndex }

end Build

/-!
# What an option writes

Every option is a register that its setters write.  The settings of the default HTTP client
are written by a custom client too, which resets them, and the other way round.
-/

section Registers

variable {Custom Store Version Url : Type}

namespace Setter

def homeserverCfgWrites : Setter Custom Store Version -> Option (Option HomeserverConfig)
  | homeserverUrl url => some (some (HomeserverConfig.url url))
  | serverName name => some (some (HomeserverConfig.serverName name))
  | _ => none

def customWrites : Setter Custom Store Version -> Option (Option Custom)
  | httpClient client => some (some client)
  | proxy _ => some none
  | disableSslVerification => some none
  | userAgent _ => some none
  | _ => none

def proxyWrites : Setter Custom Store Version -> Option (Option String)
  | proxy value => some (some value)
  | httpClient _ => some none
  | _ => none

def disableSslWrites : Setter Custom Store Version -> Option Bool
  | disableSslVerification => some true
  | httpClient _ => some false
  | _ => none

def userAgentWrites : Setter Custom Store Version -> Option (Option String)
  | userAgent value => some (some value)
  | httpClient _ => some none
  | _ => none

def storeConfigWrites : Setter Custom Store Version -> Option Store
  | storeConfig store => some store
  | _ => none

def requestConfigWrites : Setter Custom Store Version -> Option RequestConfig
  | requestConfig config => some config
  | _ => none

def respectLoginWellKnownWrites : Setter Custom Store Version -> Option Bool
  | respectLoginWellKnown value => some value
  | _ => none

def serverVersionsWrites : Setter Custom Store Version -> Option (Option (List Version))
  | serverVersions value => some (some value)
  | _ => none

def handleRefreshTokensWrites : Setter Custom Store Version -> Option Bool
  | handleRefreshTokens => some true
  | _ => none

end Setter

open Register in
def chosenSettings (setters : List (Setter Custom Store Version)) : HttpSettings where
  disableSslVerification := contentOf Setter.disableSslWrites false setters
  proxy := contentOf Setter.proxyWrites none setters
  userAgent := contentOf Setter.userAgentWrites none setters
  timeout := RequestConfig.defaultRequestTimeout

open Register in
def chosenHttp (setters : List (Setter Custom Store Version)) : HttpConfig Custom :=
  match contentOf Setter.customWrites none setters with
  | some client => HttpConfig.custom client
  | none => HttpConfig.settings (chosenSettings setters)

open Register in
def chosen (defaultStore : Store) (gooseUserIndex : Nat)
    (setters : List (Setter Custom Store Version)) :
    GooseClientBuilder Custom Store Version where
  homeserverCfg := contentOf Setter.homeserverCfgWrites none setters
  httpCfg := some (chosenHttp setters)
  storeConfig := contentOf Setter.storeConfigWrites defaultStore setters
  requestConfig := contentOf Setter.requestConfigWrites RequestConfig.default setters
  respectLoginWellKnown := contentOf Setter.respectLoginWellKnownWrites true setters
  serverVersions := contentOf Setter.serverVersionsWrites none setters
  handleRefreshTokens := contentOf Setter.handleRefreshTokensWrites false setters
  gooseUserIndex := gooseUserIndex

/-- Two builders that differ at most in whether the default HTTP settings are written out. -/
structure SameOptions (builder builder' : GooseClientBuilder Custom Store Version) : Prop where
  httpCfg : builder.httpCfg.getD (HttpConfig.settings HttpSettings.default) =
    builder'.httpCfg.getD (HttpConfig.settings HttpSettings.default)
  homeserverCfg : builder.homeserverCfg = builder'.homeserverCfg
  storeConfig : builder.storeConfig = builder'.storeConfig
  requestConfig : builder.requestConfig = builder'.requestConfig
  respectLoginWellKnown : builder.respectLoginWellKnown = builder'.respectLoginWellKnown
  serverVersions : builder.serverVersions = builder'.serverVersions
  handleRefreshTokens : builder.handleRefreshTokens = builder'.handleRefreshTokens
  gooseUserIndex : builder.gooseUserIndex = builder'.gooseUserIndex

theorem build_congr {builder builder' : GooseClientBuilder Custom Store Version}
    (h : SameOptions builder builder') (env : Environment Custom Url) :
    build env builder = build env builder' := by
  have hhttp : innerHttpClient env builder = innerHttpClient env builder' := by
    unfold innerHttpClient
    rw [h.httpCfg, h.requestConfig]
  unfold build
  rw [hhttp, h.homeserverCfg, h.storeConfig, h.requestConfig, h.respectLoginWellKnown,
    h.serverVersions, h.handleRefreshTokens, h.gooseUserIndex]

theorem chosenSettings_of_custom {setters : List (Setter Custom Store Version)}
    {client : Custom}
    (hcustom : Register.contentOf Setter.customWrites none setters = some client) :
    chosenSettings setters = HttpSettings.default := by
  induction setters using List.reverseRecOn with
  | nil => rfl
  | append_singleton setters setter ih =>
      rw [Register.contentOf_append_singleton] at hcustom
      unfold chosenSettings
      simp only [Register.contentOf_append_singleton]
      cases setter <;> first
        | exact ih hcustom
        | rfl
        | cases hcustom

theorem toSettings_chosenHttp (setters : List (Setter Custom Store Version)) :
    (chosenHttp setters).toSettings = chosenSettings setters := by
  unfold chosenHttp
  split
  · next client hcustom => exact (chosenSettings_of_custom hcustom).symm
  · rfl

theorem configured_append_singleton (defaultStore : Store) (gooseUserIndex : Nat)
    (setters : List (Setter Custom Store Version)) (setter : Setter Custom Store Version) :
    configured defaultStore gooseUserIndex (setters ++ [setter]) =
      setter.apply (configured defaultStore gooseUserIndex setters) := by
  simp [configured]

theorem SameOptions.apply {defaultStore : Store} {gooseUserIndex : Nat}
    {setters : List (Setter Custom Store Version)}
    {builder : GooseClientBuilder Custom Store Version}
    (h : SameOptions builder (chosen defaultStore gooseUserIndex setters))
    (setter : Setter Custom Store Version) :
    SameOptions (setter.apply builder)
      (chosen defaultStore gooseUserIndex (setters ++ [setter])) := by
  have hsettings : builder.httpSettings = chosenSettings setters := by
    unfold GooseClientBuilder.httpSettings
    rw [h.httpCfg]
    exact toSettings_chosenHttp setters
  have hhttp : (setter.apply builder).httpCfg.getD (HttpConfig.settings HttpSettings.default) =
      chosenHttp (setters ++ [setter]) := by
    simp only [chosenHttp, chosenSettings, Register.contentOf_append_singleton]
    cases setter with
    | proxy value =>
        show HttpConfig.settings { builder.httpSettings with proxy := some value } = _
        rw [hsettings]
        rfl
    | disableSslVerification =>
        show HttpConfig.settings
          { builder.httpSettings with disableSslVerification := true } = _
        rw [hsettings]
        rfl
    | userAgent value =>
        show HttpConfig.settings { builder.httpSettings with userAgent := some value } = _
        rw [hsettings]
        rfl
    | httpClient client => rfl
    | _ => exact h.httpCfg
  refine ⟨hhttp, ?_, ?_, ?_, ?_, ?_, ?_, ?_⟩ <;>
    simp only [chosen, Register.contentOf_append_singleton]
  · cases setter <;> first | rfl | exact h.homeserverCfg
  · cases setter <;> first | rfl | exact h.storeConfig
  · cases setter <;> first | rfl | exact h.requestConfig
  · cases setter <;> first | rfl | exact h.respectLoginWellKnown
  · cases setter <;> first | rfl | exact h.serverVersions
  · cases setter <;> first | rfl | exact h.handleRefreshTokens
  · cases setter <;> exact h.gooseUserIndex

/-- Whatever the order in which the options are set, a client is built from what was
written last for each of them. -/
theorem build_configured (defaultStore : Store) (gooseUserIndex : Nat)
    (setters : List (Setter Custom Store Version)) (env : Environment Custom Url) :
    build env (configured defaultStore gooseUserIndex setters) =
      build env (chosen defaultStore gooseUserIndex setters) := by
  apply build_congr
  induction setters using List.reverseRecOn with
  | nil => exact ⟨rfl, rfl, rfl, rfl, rfl, rfl, rfl, rfl⟩
  | append_singleton setters setter ih =>
      rw [configured_append_singleton]
      exact ih.apply setter

end Registers

end Builder
end MatrixGoose

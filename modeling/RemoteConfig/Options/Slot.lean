import RemoteConfig.Options.Pairs

/-!
# The slots of options

Options as a record of slots: one for every option that a pair can set, and
one for every name of a header.  A slot has a key, its values have texts, and
the options can be looked at and changed slot by slot.
-/

namespace RemoteConfig.ClientOptions

/-- A place for one value in the options. -/
inductive Slot where
  | enabled
  | failFast
  | name
  | env
  | label
  | uri
  | username
  | password
  | token
  | timeout
  | pollingInterval
  | validateCertificates
  | retryEnabled
  | retryInitialInterval
  | retryMaxInterval
  | retryMultiplier
  | retryMaxAttempts
  | discoveryEnabled
  | discoveryServiceId
  | healthEnabled
  | healthTimeToLive
  | header (field : String)
  deriving Repr, DecidableEq

namespace Slot

/-- The values that a slot can hold. -/
def Value : Slot → Type
  | enabled | failFast | validateCertificates | retryEnabled | discoveryEnabled
  | healthEnabled => Bool
  | timeout | pollingInterval | retryInitialInterval | retryMaxInterval
  | healthTimeToLive => UInt64
  | retryMaxAttempts => UInt32
  | retryMultiplier => Double
  | name | env | label | uri | username | password | token | discoveryServiceId
  | header _ => String

/-- The value in a slot, if there is one. -/
def get? (o : ClientOptions) : (s : Slot) → Option s.Value
  | enabled => some o.enabled
  | failFast => some o.failFast
  | name => some o.name
  | env => some o.env
  | label => o.label
  | uri => some o.uri
  | username => o.username
  | password => o.password
  | token => o.token
  | timeout => some o.timeout
  | pollingInterval => some o.pollingInterval
  | validateCertificates => some o.validateCertificates
  | retryEnabled => some o.retry.enabled
  | retryInitialInterval => some o.retry.initialInterval
  | retryMaxInterval => some o.retry.maxInterval
  | retryMultiplier => some o.retry.multiplier
  | retryMaxAttempts => some o.retry.maxAttempts
  | discoveryEnabled => some o.discovery.enabled
  | discoveryServiceId => some o.discovery.serviceId
  | healthEnabled => some o.health.enabled
  | healthTimeToLive => some o.health.timeToLive
  | header field => o.headers.get? field

/-- The options with another value in one slot. -/
def put (o : ClientOptions) : (s : Slot) → s.Value → ClientOptions
  | enabled, v => { o with enabled := v }
  | failFast, v => { o with failFast := v }
  | name, v => { o with name := v }
  | env, v => { o with env := v }
  | label, v => { o with label := some v }
  | uri, v => { o with uri := v }
  | username, v => { o with username := some v }
  | password, v => { o with password := some v }
  | token, v => { o with token := some v }
  | timeout, v => { o with timeout := v }
  | pollingInterval, v => { o with pollingInterval := v }
  | validateCertificates, v => { o with validateCertificates := v }
  | retryEnabled, v => { o with retry.enabled := v }
  | retryInitialInterval, v => { o with retry.initialInterval := v }
  | retryMaxInterval, v => { o with retry.maxInterval := v }
  | retryMultiplier, v => { o with retry.multiplier := v }
  | retryMaxAttempts, v => { o with retry.maxAttempts := v }
  | discoveryEnabled, v => { o with discovery.enabled := v }
  | discoveryServiceId, v => { o with discovery.serviceId := v }
  | healthEnabled, v => { o with health.enabled := v }
  | healthTimeToLive, v => { o with health.timeToLive := v }
  | header field, v => { o with headers := o.headers.insert field v }

/-- The key of a slot below the root. -/
def key : Slot → String
  | enabled => "enabled"
  | failFast => "failFast"
  | name => "name"
  | env => "env"
  | label => "label"
  | uri => "uri"
  | username => "username"
  | password => "password"
  | token => "token"
  | timeout => "timeout"
  | pollingInterval => "pollingInterval"
  | validateCertificates => "validateCertificates"
  | retryEnabled => "retry:enabled"
  | retryInitialInterval => "retry:initialInterval"
  | retryMaxInterval => "retry:maxInterval"
  | retryMultiplier => "retry:multiplier"
  | retryMaxAttempts => "retry:maxAttempts"
  | discoveryEnabled => "discovery:enabled"
  | discoveryServiceId => "discovery:serviceId"
  | healthEnabled => "health:enabled"
  | healthTimeToLive => "health:timeToLive"
  | header field => "headers:" ++ field

/-- The text of a value. -/
def write : (s : Slot) → s.Value → String
  | enabled, b | failFast, b | validateCertificates, b | retryEnabled, b
  | discoveryEnabled, b | healthEnabled, b => boolText b
  | timeout, n | pollingInterval, n | retryInitialInterval, n | retryMaxInterval, n
  | healthTimeToLive, n => Decimal.text (UInt64.toNat n)
  | retryMaxAttempts, n => Decimal.text (UInt32.toNat n)
  | retryMultiplier, d => Decimal.doubleText .plain d
  | name, v | env, v | label, v | uri, v | username, v | password, v | token, v
  | discoveryServiceId, v | header _, v => v

/-- The value that a text denotes. -/
def read (text : String) : (s : Slot) → Option s.Value
  | enabled | failFast | validateCertificates | retryEnabled | discoveryEnabled
  | healthEnabled => bool? text
  | timeout | pollingInterval | retryInitialInterval | retryMaxInterval
  | healthTimeToLive => Decimal.word64? (Text.trim text)
  | retryMaxAttempts => Decimal.word32? (Text.trim text)
  | retryMultiplier => Decimal.double? (Text.trim text)
  | name | env | label | uri | username | password | token | discoveryServiceId
  | header _ => some text

/-- The slots other than those of headers, in the order in which they are
written. -/
def named : List Slot :=
  [enabled, failFast, name, env, label, uri, username, password, token, timeout,
    pollingInterval, validateCertificates, retryEnabled, retryInitialInterval,
    retryMaxInterval, retryMultiplier, retryMaxAttempts, discoveryEnabled,
    discoveryServiceId, healthEnabled, healthTimeToLive]

/-- The slots that options fill, and those that they leave empty. -/
def all (o : ClientOptions) : List Slot :=
  named ++ o.headers.keys.map header

/-- The slot with a folded key; the one for the profile has three. -/
def ofFolded? (folded : String) : Option Slot :=
  if folded = "environment" ∨ folded = "profile" then some env
  else named.find? fun s => Text.fold s.key = folded

/-- The slot that a key addresses, with or without the root. -/
def ofKey? (fullKey : String) : Option Slot :=
  ((headerName? (stripRoot fullKey)).map header).or (ofFolded? (Text.fold (stripRoot fullKey)))

end Slot

end RemoteConfig.ClientOptions

import RemoteConfig.Options
import RemoteConfig.Yaml.Reading

/-!
# Options as a YAML document

The fields of a document that hold options.  What is not said has its default,
what is not known is ignored, and the profile may go by three names.
-/

namespace RemoteConfig

open Yaml.Node (RecordField)

/-- The fields of the options for retries. -/
def RetryOptions.fields : List (RecordField RetryOptions) :=
  [.of "enabled" Yaml.Node.bool? (fun r b => { r with enabled := b }) [],
    .of "initialInterval" Yaml.Node.word64? (fun r n => { r with initialInterval := n }) [],
    .of "maxInterval" Yaml.Node.word64? (fun r n => { r with maxInterval := n }) [],
    .of "multiplier" Yaml.Node.double? (fun r d => { r with multiplier := d }) [],
    .of "maxAttempts" Yaml.Node.word32? (fun r n => { r with maxAttempts := n }) []]

/-- The fields of the options for discovery. -/
def DiscoveryOptions.fields : List (RecordField DiscoveryOptions) :=
  [.of "enabled" Yaml.Node.bool? (fun d b => { d with enabled := b }) [],
    .of "serviceId" Yaml.Node.text? (fun d s => { d with serviceId := s }) []]

/-- The fields of the options for health. -/
def HealthOptions.fields : List (RecordField HealthOptions) :=
  [.of "enabled" Yaml.Node.bool? (fun h b => { h with enabled := b }) [],
    .of "timeToLive" Yaml.Node.word64? (fun h n => { h with timeToLive := n }) []]

namespace ClientOptions

/-- The fields of the options of a client. -/
def fields : List (RecordField ClientOptions) :=
  [.of "enabled" Yaml.Node.bool? (fun o b => { o with enabled := b }) [],
    .of "failFast" Yaml.Node.bool? (fun o b => { o with failFast := b }) [],
    .of "name" Yaml.Node.text? (fun o s => { o with name := s }) [],
    .of "env" Yaml.Node.text? (fun o s => { o with env := s }) ["profile", "environment"],
    .of "label" Yaml.Node.optionalText? (fun o s => { o with label := s }) [],
    .of "uri" Yaml.Node.text? (fun o s => { o with uri := s }) [],
    .of "username" Yaml.Node.optionalText? (fun o s => { o with username := s }) [],
    .of "password" Yaml.Node.optionalText? (fun o s => { o with password := s }) [],
    .of "token" Yaml.Node.optionalText? (fun o s => { o with token := s }) [],
    .of "timeout" Yaml.Node.word64? (fun o n => { o with timeout := n }) [],
    .of "pollingInterval" Yaml.Node.word64? (fun o n => { o with pollingInterval := n }) [],
    .of "validateCertificates" Yaml.Node.bool?
      (fun o b => { o with validateCertificates := b }) [],
    .of "retry" (Yaml.Node.record? RetryOptions.fields {}) (fun o r => { o with retry := r }) [],
    .of "discovery" (Yaml.Node.record? DiscoveryOptions.fields {})
      (fun o d => { o with discovery := d }) [],
    .of "health" (Yaml.Node.record? HealthOptions.fields {})
      (fun o h => { o with health := h }) [],
    .of "headers" Yaml.Node.textMap? (fun o m => { o with headers := m }) []]

/-- The options that the text of a document denotes, if it denotes any.  A text
without a document denotes the defaults. -/
def ofDocument? (text : String) : Option ClientOptions := do
  match ← Yaml.Node.document? text with
  | none => return {}
  | some root => Yaml.Node.record? fields {} root root

end ClientOptions

end RemoteConfig

import CallLog.Metadata
import CallLog.Schema

/-!
# Schemas of metadata

The checks that make configurations, parameters, scopes and whole metadata from input data.
-/

namespace CallLog

/-- What a value says as an annotation. A value that cannot be one admits everything. -/
def Value.toHint : Value → TypeHint
  | .none => .none
  | .str s => .text s
  | .type a => a
  | _ => .any

namespace Check

open Checked

/-- A level by its written name. -/
def level : Check Level
  | .str s =>
    match Level.ofName? s.toList with
    | some l => valid l
    | none => problem .notLevel
  | _ => problem .notLevel

/-- Any annotation. -/
def hint : Check TypeHint :=
  fun v => valid v.toHint

/-- The entries of a configuration. -/
def configEntries (entries : List (Value × Value)) : Checked Config :=
  Config.mk <$> defaulted entries "message" "" string
    <*> defaulted entries "level" .derived level
    <*> defaulted entries "logger" none (optional string)

/-- A configuration. -/
def config : Check Config :=
  record "LoggedConfig" configEntries

/-- A parameter. -/
def parameter : Check Parameter :=
  record "ParameterInfo" fun entries =>
    Parameter.mk <$> required entries "index" integer
      <*> required entries "name" string
      <*> defaulted entries "annotation" .any hint
      <*> defaulted entries "dont_log" false boolean

/-- A scope. -/
def scope : Check Scope :=
  record "ScopeInfo" fun entries =>
    Scope.mk <$> required entries "name" string
      <*> required entries "kind" (oneOf [("class", ScopeKind.cls), ("module", ScopeKind.module)])
      <*> defaulted entries "config" none (optional config)

/-- The entries of metadata whose parameters and scopes are checked by `parameters` and `scopes`. -/
def metadataEntries (entries : List (Value × Value)) (parameters : Checked (List Parameter))
    (scopes : Checked (List Scope)) : Checked Metadata :=
  Metadata.mk <$> required entries "name" string
    <*> parameters
    <*> scopes
    <*> defaulted entries "config" {} config
    <*> defaulted entries "return_annotation" .any hint

/-- Metadata. -/
def metadata : Check Metadata :=
  record "CallableMetadata" fun entries =>
    metadataEntries entries (defaulted entries "parameters" [] (sequenceOf parameter))
      (defaulted entries "scopes" [] (sequenceOf scope))

end Check

end CallLog

import QueryDesk.Settings.Basic
import QueryDesk.Settings.Value

/-!
# Settings in a table

Each group of settings is a table, or a list of its settings in their order. What is not there has its
default, what is not known is passed over.
-/

namespace QueryDesk

namespace Setting

/-- The settings of a group: by name in a table, by place in a list. -/
def group? (names : List String) : Setting → Option (List (Option Setting))
  | .table ms => some (names.map fun name => ms.lookup name)
  | .list xs => some (names.zipIdx.map fun (_, i) => xs[i]?)
  | _ => none

/-- A setting that is there and can be read, or its default where it is not there. -/
def settingOr {α : Type} (default : α) (read : Setting → Option α) : Option Setting → Option α
  | some t => read t
  | none => some default

/-- A setting that has to be there. -/
def setting {α : Type} (read : Setting → Option α) (t : Option Setting) : Option α := t.bind read

/-- The items of a list, each read. -/
def each {α : Type} (read : Setting → Option α) : Setting → Option (List α)
  | .list xs => xs.mapM read
  | _ => none

end Setting

open Setting

def ServerSettings.ofTable? (t : Setting) : Option ServerSettings := do
  let [host, portNumber] ← t.group? ["host", "port"] | none
  let d : ServerSettings := {}
  return ⟨← settingOr d.host asText? host, ← settingOr d.portNumber (asBits? 16) portNumber⟩

def RemoteSettings.ofTable? (t : Setting) : Option RemoteSettings := do
  let [version, authority, request, connect, concurrency] ← t.group?
    ["api_version", "authority_host", "request_timeout_secs", "connect_timeout_secs", "metadata_concurrency"]
    | none
  let d : RemoteSettings := {}
  return ⟨← settingOr d.apiVersion asText? version, ← settingOr d.authority asText? authority,
    ← settingOr d.requestTimeout asNat? request, ← settingOr d.connectTimeout asNat? connect,
    ← settingOr d.concurrency asNat? concurrency⟩

def PageOptions.ofTable? (t : Setting) : Option PageOptions := do
  let [defaultSize, maxSize] ← t.group? ["default_page_size", "max_page_size"] | none
  let d : PageOptions := {}
  return ⟨← settingOr d.defaultSize (asBits? 32) defaultSize, ← settingOr d.maxSize (asBits? 32) maxSize⟩

def ExportOptions.ofTable? (t : Setting) : Option ExportOptions := do
  let [maxRows, sheetName] ← t.group? ["max_rows", "sheet_name"] | none
  let d : ExportOptions := {}
  return ⟨← settingOr d.maxRows (asBits? 32) maxRows, ← settingOr d.sheetName asText? sheetName⟩

def LogSettings.ofTable? (t : Setting) : Option LogSettings := do
  let [level, json] ← t.group? ["level", "json"] | none
  let d : LogSettings := {}
  return ⟨← settingOr d.level asText? level, ← settingOr d.json asBool? json⟩

/-- A registered environment, of which everything has to be said. -/
def Environment.ofTable? (t : Setting) : Option Environment := do
  let [id, userId, name, orgUrl, tenantId, clientId, clientSecret] ← t.group?
    ["id", "user_id", "name", "org_url", "tenant_id", "client_id", "client_secret"] | none
  return ⟨← setting asText? id, ← setting asText? userId, ← setting asText? name, ← setting asText? orgUrl,
    ← setting asText? tenantId, ← setting asText? clientId, ← setting asText? clientSecret⟩

/-- The settings in a table. -/
def Settings.ofTable? (t : Setting) : Option Settings := do
  return {
    server := ← settingOr {} ServerSettings.ofTable? (t.member? "server")
    remote := ← settingOr {} RemoteSettings.ofTable? (t.member? "dataverse")
    paging := ← settingOr {} PageOptions.ofTable? (t.member? "query")
    exporting := ← settingOr {} ExportOptions.ofTable? (t.member? "export")
    logging := ← settingOr {} LogSettings.ofTable? (t.member? "logging")
    environments := ← settingOr [] (each Environment.ofTable?) (t.member? "environments") }

end QueryDesk

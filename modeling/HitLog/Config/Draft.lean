import HitLog.Config
import HitLog.FileSystem
import HitLog.Toml.Document

/-!
# Configurations from documents

A document is read in two steps. First its entries are read by name and kind into a draft, in which
everything left out is empty; a name counts as written or, if that is missing, in capitals, and
names that mean nothing are skipped. Then the draft is laid over the default configuration: what is
empty in it, or a duration that is not positive, leaves the default in force.

## Main definitions

* `Config.Draft` — what a document says
* `Config.Draft.ofDocument` — the draft of a document
* `Config.Draft.toConfig` — the draft over the defaults
* `Config.Loaded` — a configuration with the error that came instead of it, if any
* `Config.parse`, `Config.load` — the configuration of a document and of a file
* `Config.parseWith` — the same for any way to decode documents
-/

namespace HitLog

namespace Config

open scoped Text

/-- What a document says about the export. -/
structure ExportDraft where
  url : Text
  namespace_ : Text
  subsystem : Text
  service : Text
  instanceName : Text
  labels : Labels
  timeout : Text
  nameServers : List Text
  nameTimeout : Text

/-- What a document says. -/
structure Draft where
  logPath : Text
  units : List UnitSpec
  exporting : ExportDraft

/-- Nothing said about the export. -/
def ExportDraft.empty : ExportDraft := ⟨[], [], [], [], [], .empty, [], [], []⟩

/-! ### Reading entries by kind -/

/-- The entry of a name, which may also be written in capitals. -/
def entry? (es : Toml.Entries) (name : String) : Option Toml.Node :=
  (es.lookup (Text.ofString name)).or (es.lookup (Text.ofString name.toUpper))

/-- The text of a node. An integer beyond the signed words is taken for the code of a character, of
which there is none that large. -/
def text? : Toml.Node → Option Text
  | .text t => some t
  | .integer n => if (Nat.pow 2 63 : Int) ≤ n then some (Utf8.encode Utf8.replacement) else none
  | _ => none

/-- The number of a node, wrapped to a signed word. -/
def number? : Toml.Node → Option Int64
  | .integer n => some (Int64.ofInt n)
  | _ => none

/-- The text of an entry, empty if there is none. -/
def textEntry? (es : Toml.Entries) (name : String) : Option Text :=
  match entry? es name with
  | none => some []
  | some node => text? node

/-- The number of an entry, zero if there is none. -/
def numberEntry? (es : Toml.Entries) (name : String) : Option Int64 :=
  match entry? es name with
  | none => some 0
  | some node => number? node

/-- The texts of an entry, none if there is no entry. -/
def textsEntry? (es : Toml.Entries) (name : String) : Option (List Text) :=
  match entry? es name with
  | none => some []
  | some (.array items) => items.mapM text?
  | some _ => none

/-- The texts by name of an entry, none if there is no entry. -/
def labelsEntry? (es : Toml.Entries) (name : String) : Option Labels :=
  match entry? es name with
  | none => some .empty
  | some (.table _ inner) => do
    let pairs ← inner.mapM fun (key, node) => (text? node).map fun t => (key, t)
    return .ofList pairs
  | some _ => none

/-- The unit of a table. -/
def unit? : Toml.Node → Option UnitSpec
  | .table _ es => do
    let identifier ← textEntry? es "identifier"
    let sites ← numberEntry? es "sites"
    return ⟨identifier, sites⟩
  | _ => none

/-- The units of a document. -/
def unitsEntry? (es : Toml.Entries) : Option (List UnitSpec) :=
  match entry? es "unit" with
  | none => some []
  | some (.tables elements) => elements.mapM unit?
  | some _ => none

/-- The export of a table. -/
def ExportDraft.ofEntries? (es : Toml.Entries) : Option ExportDraft := do
  return {
    url := ← textEntry? es "remote_write_url"
    namespace_ := ← textEntry? es "namespace"
    subsystem := ← textEntry? es "subsystem"
    service := ← textEntry? es "service_name"
    instanceName := ← textEntry? es "instance"
    labels := ← labelsEntry? es "custom_labels"
    timeout := ← textEntry? es "timeout"
    nameServers := ← textsEntry? es "dns_udp_servers"
    nameTimeout := ← textEntry? es "dns_timeout" }

/-- The export of a document. -/
def exportEntry? (es : Toml.Entries) : Option ExportDraft :=
  match entry? es "export" with
  | none => some .empty
  | some (.table _ inner) => ExportDraft.ofEntries? inner
  | some _ => none

/-- The draft of a document's entries. -/
def Draft.ofEntries? (es : Toml.Entries) : Option Draft := do
  return {
    logPath := ← textEntry? es "log_path"
    units := ← unitsEntry? es
    exporting := ← exportEntry? es }

/-- What is said of a document that is not well-formed. -/
def malformed : Text := "malformed document"

/-- What is said of a document with an entry of the wrong kind. -/
def mistyped : Text := "entry of the wrong kind"

/-- The draft of a document, or what is wrong with it. -/
def Draft.ofDocument (document : Text) : Except Text Draft :=
  match Toml.parse document with
  | none => .error malformed
  | some es =>
    match Draft.ofEntries? es with
    | none => .error mistyped
    | some draft => .ok draft

/-! ### Over the defaults -/

/-- Why a document or a file gives no configuration. -/
inductive LoadError where
  /-- The file cannot be read. -/
  | file (path : Text) (cause : FileError)
  /-- The document cannot be decoded, for a cause in the decoder's words. -/
  | document (cause : Text)
  /-- An entry that should be a duration is none. -/
  | duration (entry : Text) (cause : Duration.Error)
  deriving DecidableEq

/-- The wording of a load error. -/
def LoadError.message : LoadError → Text
  | file path cause => "reading " ++ path ++ ": " ++ cause.message
  | document cause => "invalid config: " ++ cause
  | duration entry cause => "invalid config: " ++ entry ++ ": " ++ cause.message

/-- The kinds of a loading error. -/
def LoadError.kinds : LoadError → List ErrorKind
  | file _ cause => cause.kinds
  | _ => [.invalidConfig]

/-- A text that is not empty stays, an empty one gives way to the default. -/
def orDefault (t default_ : Text) : Text := if t.isEmpty then default_ else t

/-- The duration of an entry, the default if the entry is empty or the duration not positive. -/
def durationEntry (entry t : Text) (default_ : Int64) : Except LoadError Int64 :=
  if t.isEmpty then .ok default_
  else match Duration.parse t with
    | .ok d => .ok (Duration.orDefault d default_)
    | .error cause => .error (.duration entry cause)

/-- The draft over the default configuration. -/
def Draft.toConfig (d : Draft) : Except LoadError Config := do
  let timeout ← durationEntry "export.timeout" d.exporting.timeout ExportConfig.defaultTimeout
  let nameTimeout ← durationEntry "export.dns_timeout" d.exporting.nameTimeout
    ExportConfig.defaultNameTimeout
  return {
    Config.default with
    logPath := orDefault d.logPath defaultLogPath
    units := d.units
    exporting := {
      url := d.exporting.url
      namespace_ := orDefault d.exporting.namespace_ ExportConfig.default.namespace_
      subsystem := orDefault d.exporting.subsystem ExportConfig.default.subsystem
      service := orDefault d.exporting.service ExportConfig.default.service
      instanceName := d.exporting.instanceName
      labels := ExportConfig.default.labels.insertAll d.exporting.labels.pairs
      timeout
      nameServers := d.exporting.nameServers
      nameTimeout } }

/-- A configuration that was asked for, with the error that came instead of it, if any. -/
structure Loaded where
  config : Config
  error? : Option LoadError

/-- With an error there is no configuration at all. -/
def Loaded.ofExcept : Except LoadError Config → Loaded
  | .ok config => ⟨config, none⟩
  | .error e => ⟨.zero, some e⟩

/-- The configuration of a document, by a way to decode documents. -/
def parseWith (decode : Text → Except Text Draft) (document : Text) : Loaded :=
  .ofExcept <|
    match decode document with
    | .error cause => .error (.document cause)
    | .ok draft => draft.toConfig

/-- The configuration of a document. -/
def parse (document : Text) : Loaded := parseWith Draft.ofDocument document

/-- The configuration of a file. -/
def load (fs : FileSystem) (path : Text) : Loaded :=
  match fs.read path with
  | .error cause => ⟨.zero, some (.file path cause)⟩
  | .ok document => parse document

end Config

end HitLog

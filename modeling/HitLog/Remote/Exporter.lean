import HitLog.Config
import HitLog.ErrorKind
import HitLog.Journal
import HitLog.Remote.Resolve
import HitLog.Remote.Url

/-!
# Exporting metrics

An exporter sends metrics to its endpoint as one request of series. If the request fails, the host
is resolved anew and the request is sent once more. The connection is made with the first metrics
and made anew on every failure of a first request. The time for a call covers both requests and what
is looked up between them, so an endpoint that hangs leaves none for the second.

What an exporter does is written against `Exporter.Outside`, the operations that it needs of
whatever lies outside: look at the clock, resolve its host, make a connection, send a batch. The
network is one such outside.

## Main definitions

* `Exporter` — an export target with the state of its connection
* `Exporter.series` — metrics as series
* `Exporter.send` — one request
* `Exporter.Outside`, `Network.outside` — the operations that an exporter needs, and the network's
* `Exporter.call` — one call: a request, and a second one if the first fails
* `Exporter.exportAll` — one call through the network
-/

namespace HitLog

open scoped Text

/-- Why a request did not get through. -/
inductive TransportError where
  /-- Its caller gave up. -/
  | cancelled
  /-- Its time ran out. -/
  | expired
  /-- The network did not let it through, for a reason. -/
  | failed (reason : Text)
  deriving DecidableEq

namespace TransportError

/-- The wording of a request that did not get through. -/
def message : TransportError → Text
  | cancelled => "context canceled"
  | expired => "context deadline exceeded"
  | failed reason => reason

/-- The kinds of a request that did not get through. -/
def kinds : TransportError → List ErrorKind
  | cancelled => [.cancelled]
  | expired => [.expired]
  | failed _ => []

end TransportError

/-- Why a request failed. -/
inductive SendError where
  /-- The address cannot be used. -/
  | address (cause : Url.Error)
  /-- The request did not get through to the shown address. -/
  | transport (shown : Text) (cause : TransportError)
  /-- The endpoint refused. -/
  | status (code : Int) (body : Text)
  deriving DecidableEq

/-- The wording of a failed request. -/
def SendError.message : SendError → Text
  | address cause => cause.message
  | transport shown cause =>
    "promwrite: sending remote write request: Post " ++ Quoted.quote shown ++ ": " ++ cause.message
  | status code body =>
    "promwrite: expected status 200, got " ++ Numeral.signed code ++ ": " ++ body

/-- The kinds of a failed request. -/
def SendError.kinds : SendError → List ErrorKind
  | transport _ cause => cause.kinds
  | _ => []

/-- A call whose second request failed too. -/
structure ExportError where
  /-- How the second request failed. -/
  cause : SendError
  deriving DecidableEq

/-- The wording of a failed call. -/
def ExportError.message (e : ExportError) : Text :=
  "writing time series failed after retry: " ++ e.cause.message

/-- The kinds of a failed call. -/
def ExportError.kinds (e : ExportError) : List ErrorKind := e.cause.kinds

/-- An export target with the state of its connection. -/
structure Exporter where
  /-- Where and how to export. The instance has its name. -/
  config : ExportConfig
  /-- A call has some time. -/
  timeout_pos : 0 < config.timeout
  /-- So has a resolution. -/
  nameTimeout_pos : 0 < config.nameTimeout
  /-- The host to resolve, empty if the address cannot be used. -/
  host : Text
  /-- Whether a connection has been made. -/
  connected : Bool
  /-- The addresses of the latest successful resolution. -/
  resolved : List Text

namespace Exporter

/-- An exporter without a connection. The host's own name stands for a missing instance. -/
def make (config : ExportConfig) (hostName : Text) : Exporter where
  config := {
    config with
    timeout := Duration.orDefault config.timeout ExportConfig.defaultTimeout
    nameTimeout := Duration.orDefault config.nameTimeout ExportConfig.defaultNameTimeout
    instanceName := if config.instanceName.isEmpty then hostName else config.instanceName }
  timeout_pos := Duration.orDefault_pos (by decide)
  nameTimeout_pos := Duration.orDefault_pos (by decide)
  host :=
    match Url.parse config.url with
    | .ok url => url.hostName
    | .error _ => []
  connected := false
  resolved := []

/-- The time for a call, in nanoseconds. -/
def time (e : Exporter) : Nat := e.config.timeout.toNatClampNeg

/-- The time for a resolution, in nanoseconds. -/
def nameTime (e : Exporter) : Nat := e.config.nameTimeout.toNatClampNeg

/-! ### Series -/

/-- The full name of a metric. -/
def fullName (config : ExportConfig) (name : Text) : Text :=
  config.namespace_ ++ "_" ++ config.subsystem ++ "_" ++ name

/-- The labels of a metric's series: the full name, the instance and the job, then the labels of the
export and those of the metric, each by name. -/
def seriesLabels (config : ExportConfig) (m : Metric) : List (Text × Text) :=
  (Text.ofString "__name__", fullName config m.name) ::
  (Text.ofString "instance", config.instanceName) ::
  (Text.ofString "job", config.service) ::
    (config.labels.sorted ++ m.labels.sorted)

/-- The series of a metric. -/
def seriesOf (config : ExportConfig) (m : Metric) : Series :=
  ⟨seriesLabels config m, m.value, m.time⟩

/-- The series of metrics, one for each. -/
def series (config : ExportConfig) (ms : List Metric) : List Series := ms.map (seriesOf config)

/-- A series as it travels. Zero is not written out and so arrives without a sign, and the moment is
cut toward zero to whole milliseconds. -/
def onWire (s : Series) : SentSeries := ⟨s.labels, s.value.dropZeroSign, s.time / 1000000⟩

/-! ### Requests -/

/-- How a request fails if its caller no longer waits. -/
def overCause : Lifetime.End → TransportError
  | .cancelled => .cancelled
  | .expired => .expired

/-- The outcome of a request, with what is outside behind it. -/
structure Sent (σ : Type) where
  /-- How it failed, if it did. -/
  failure : Option SendError
  net : σ

/-- Whether a status means success. -/
def isSuccess (code : Int) : Bool := 200 ≤ code && code < 300

/-- Send one request. A request whose caller no longer waits counts, but its response is not looked
at. -/
def send (url : Text) (batch : List Series) (life : Lifetime) (net : Network) : Sent Network :=
  match Url.parse url with
  | .error cause => ⟨some (.address cause), net⟩
  | .ok parsed =>
    let target := parsed.forRequest
    let failed (cause : TransportError) : Option SendError :=
      some (.transport target.textWithoutPassword cause)
    let after := net.received ⟨target.text, batch.map onWire⟩
    match life.over? net.clock with
    | some ending => ⟨failed (overCause ending), after⟩
    | none =>
      match net.endpoint.next with
      | .status code body => ⟨if isSuccess code then none else some (.status code body), after⟩
      | .fail reason => ⟨failed (.failed reason), after⟩
      | .hang => ⟨failed .expired, after.waitOut life⟩

/-! ### The outside -/

/-- What an exporter needs of the outside, which is in a state of `σ`. Each operation is given the
exporter as it is at that moment. -/
structure Outside (σ : Type) where
  /-- The moment. -/
  clock : σ → Nat
  /-- Resolve the exporter's host, to addresses or the wording of what went wrong. -/
  resolve : Exporter → Lifetime → σ → Except Text (List Text) × σ
  /-- Make a connection. -/
  connect : Exporter → σ → σ
  /-- Send a batch over the connection. -/
  write : Exporter → List Series → Lifetime → σ → Sent σ

end Exporter

/-- The network as the outside of an exporter. Making a connection sends nothing yet. -/
def Network.outside : Exporter.Outside Network where
  clock := Network.clock
  resolve e life net :=
    Resolve.resolve Network.lookups e.config.nameServers e.host e.nameTime life net
  connect _ net := net
  write e batch life net := Exporter.send e.config.url batch life net

namespace Exporter

variable {σ : Type}

/-! ### Calls -/

/-- The state that a call changes. -/
structure State (σ : Type) where
  exporter : Exporter
  /-- What is outside. -/
  net : σ
  /-- The events of the call, in order. -/
  events : List Journal.Entry

/-- Whether the host has to be resolved. -/
def needsResolution (e : Exporter) : Bool := !e.host.isEmpty && !Address.isPlain e.host

/-- The event of a resolved host. -/
def resolvedEvent (host : Text) (addresses : List Text) : Journal.Entry :=
  ⟨.info, "Resolved remote write host", [("host", .text host), ("ips", .texts addresses)]⟩

/-- The event of a host that could not be resolved. -/
def unresolvedEvent (host why : Text) : Journal.Entry :=
  Journal.failure .warn "DNS lookup failed" [("host", .text host)] why

/-- Resolve the host. A failed resolution is only told. -/
def renew (o : Outside σ) (life : Lifetime) : State σ → State σ
  | ⟨e, net, events⟩ =>
    match o.resolve e life net with
    | (.ok addresses, net) =>
      ⟨{ e with resolved := addresses }, net, events ++ [resolvedEvent e.host addresses]⟩
    | (.error why, net) => ⟨e, net, events ++ [unresolvedEvent e.host why]⟩

/-- Make a connection. -/
def connect (o : Outside σ) : State σ → State σ
  | ⟨e, net, events⟩ => ⟨{ e with connected := true }, o.connect e net, events⟩

/-- Make the connection anew, resolving the host if it has to be. -/
def refresh (o : Outside σ) (life : Lifetime) (s : State σ) : State σ :=
  connect o (if s.exporter.needsResolution then renew o life s else s)

/-- The event of a successful call. -/
def exportedEvent (config : ExportConfig) (count : Nat) : Journal.Entry :=
  ⟨.debug, "Exported counters", [("url", .text config.url), ("series", .number count)]⟩

/-- The event of a failed first request. -/
def retryEvent (e : SendError) : Journal.Entry :=
  Journal.failure .warn "Remote write failed, refreshing client" [] e.message

/-- The outcome of a call. -/
structure Outcome (σ : Type) where
  /-- How it failed, if it did. -/
  failure : Option ExportError
  state : State σ

/-- Send a batch, as the second attempt. -/
def sendAgain (o : Outside σ) (batch : List Series) (life : Lifetime) : State σ → Outcome σ
  | ⟨e, net, events⟩ =>
    match o.write e batch life net with
    | ⟨none, net⟩ => ⟨none, e, net, events ++ [exportedEvent e.config batch.length]⟩
    | ⟨some error, net⟩ => ⟨some ⟨error⟩, e, net, events⟩

/-- Send a batch, and once more over a new connection if that fails. -/
def sendTwice (o : Outside σ) (batch : List Series) (life : Lifetime) : State σ → Outcome σ
  | ⟨e, net, events⟩ =>
    match o.write e batch life net with
    | ⟨none, net⟩ => ⟨none, e, net, events ++ [exportedEvent e.config batch.length]⟩
    | ⟨some error, net⟩ =>
      sendAgain o batch life (refresh o life ⟨e, net, events ++ [retryEvent error]⟩)

/-- Send metrics, as one call. Nothing is done where there are none. The time of the call starts
behind its first connection. -/
def call (o : Outside σ) (e : Exporter) (ms : List Metric) (life : Lifetime) (net : σ) :
    Outcome σ :=
  let start : State σ := ⟨e, net, []⟩
  if ms.isEmpty then ⟨none, start⟩
  else
    let ready := if e.connected then start else refresh o life start
    sendTwice o (series e.config ms) (life.within (o.clock ready.net) e.time) ready

/-- Send metrics through the network. -/
def exportAll (e : Exporter) (ms : List Metric) (life : Lifetime) (net : Network) :
    Outcome Network :=
  call Network.outside e ms life net

end Exporter

end HitLog

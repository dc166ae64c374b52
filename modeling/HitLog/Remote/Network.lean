import HitLog.Metric

/-!
# The network as a script

What lies beyond the process is a value: the endpoint answers requests by a list of responses, of
which the last repeats; name servers and the resolver of the system answer as they are set up to.
What the process sends is written down as traffic.

An operation waits at most as long as its caller does. A caller may have given up, or there is a
moment at which its time runs out. Answers take no time. Whoever does not answer makes the clock run
up to the moment at which the caller stops waiting, so less time is left for what comes next.

## Main definitions

* `Lifetime` — how long the caller of an operation waits
* `Series`, `SentSeries` — what is sent, before and on its way
* `Response`, `Endpoint` — what the endpoint answers
* `NameReply`, `NameServer`, `SystemResolver` — who answers to names, and what
* `Traffic` — what was sent
* `Network` — all of it
-/

namespace HitLog

open scoped Text

/-- How long the caller of an operation waits for it. Moments are those of the network's clock. -/
structure Lifetime where
  /-- Whether the caller has given up. -/
  gaveUp : Bool
  /-- The moment at which its time runs out, if there is one. -/
  deadline : Option Nat
  deriving DecidableEq

namespace Lifetime

/-- A caller that waits for as long as it takes. -/
def live : Lifetime := ⟨false, none⟩

/-- A caller that has given up. -/
def cancelled : Lifetime := ⟨true, none⟩

/-- The same caller, with some time from now at most. -/
def within (life : Lifetime) (now time : Nat) : Lifetime :=
  { life with deadline := some ((life.deadline.map (min · (now + time))).getD (now + time)) }

/-- Why a caller no longer waits. -/
inductive End where
  /-- It has given up. -/
  | cancelled
  /-- Its time has run out. -/
  | expired
  deriving DecidableEq

/-- Why the caller no longer waits at a moment, if so. -/
def over? (life : Lifetime) (now : Nat) : Option End :=
  if life.gaveUp then some .cancelled
  else match life.deadline with
    | none => none
    | some moment => if moment ≤ now then some .expired else none

end Lifetime

/-- One series: labels with one value at one moment, in nanoseconds. -/
structure Series where
  labels : List (Text × Text)
  value : Binary64
  time : Int64
  deriving DecidableEq

/-- A series as it travels: its moment is in whole milliseconds. -/
structure SentSeries where
  labels : List (Text × Text)
  value : Binary64
  milliseconds : Int64
  deriving DecidableEq

/-- How the endpoint meets one request. -/
inductive Response where
  /-- It answers with a status and a body. -/
  | status (code : Int) (body : Text)
  /-- The request does not get through, for a reason. -/
  | fail (reason : Text)
  /-- It does not answer while the caller waits. -/
  | hang

/-- The responses of an endpoint. -/
structure Endpoint where
  /-- The response to the next request. -/
  next : Response
  /-- The responses to the requests behind it. -/
  later : List Response

/-- The endpoint after one request: the last response repeats. -/
def Endpoint.advance (e : Endpoint) : Endpoint :=
  match e.later with
  | [] => e
  | r :: rs => ⟨r, rs⟩

/-- The endpoint of a list of responses. One without responses accepts everything. -/
def Endpoint.ofList : List Response → Endpoint
  | [] => ⟨.status 204 [], []⟩
  | r :: rs => ⟨r, rs⟩

/-- One answer of a name server, by the type of the record. -/
inductive NameAnswer where
  /-- An A record: an address of four octets. -/
  | a (address : Text)
  /-- An AAAA record: an address of sixteen octets. -/
  | aaaa (address : Text)
  /-- A CNAME record: another name. -/
  | cname (name : Text)
  /-- A record of any other type, by the number of the type. -/
  | other (kind : Nat) (data : Text)
  deriving DecidableEq

/-- The reply of a name server. -/
structure NameReply where
  /-- Zero for success. -/
  code : Nat
  /-- The answers, in order. -/
  answers : List NameAnswer

/-- How a name server meets a query. -/
inductive NameServer where
  /-- No route leads to it. -/
  | unreachable
  /-- It replies. -/
  | replies (reply : NameReply)
  /-- It gets the query, which comes from the shown address, and does not answer. -/
  | hangs (source : Text)

/-- How the resolver of the system meets a question. -/
inductive SystemResolver where
  /-- It finds these addresses for any name. -/
  | finds (addresses : List Text)
  /-- It does not answer. -/
  | hangs

/-- A request that was sent. -/
structure Request where
  /-- The address it went to. -/
  url : Text
  /-- What it carried. -/
  series : List SentSeries

/-- What was sent. -/
structure Traffic where
  /-- Requests, in order. -/
  requests : List Request
  /-- Queries to name servers, by server and complete name, in order. -/
  queries : List (Text × Text)
  /-- Whether the resolver of the system was asked. -/
  askedSystem : Bool

/-- Nothing sent. -/
def Traffic.none : Traffic := ⟨[], [], false⟩

/-- Everything beyond the process. -/
structure Network where
  /-- The endpoint. -/
  endpoint : Endpoint
  /-- The name servers by address. No route leads to one that is not listed. -/
  nameServers : List (Text × NameServer)
  /-- The resolver of the system. -/
  system : SystemResolver
  /-- The time that has passed, in nanoseconds. -/
  clock : Nat
  /-- What was sent so far. -/
  traffic : Traffic

/-- The name server at an address. -/
def Network.nameServer (n : Network) (address : Text) : NameServer :=
  (n.nameServers.lookup address).getD .unreachable

/-- The network behind a query that a name server got. -/
def Network.queried (n : Network) (server name : Text) : Network :=
  { n with traffic := { n.traffic with queries := n.traffic.queries ++ [(server, name)] } }

/-- The network behind a question to the resolver of the system. -/
def Network.systemAsked (n : Network) : Network :=
  { n with traffic := { n.traffic with askedSystem := true } }

/-- The network behind a request that the endpoint got. -/
def Network.received (n : Network) (r : Request) : Network :=
  { n with
    endpoint := n.endpoint.advance
    traffic := { n.traffic with requests := n.traffic.requests ++ [r] } }

/-- The network after somebody did not answer. A caller without a deadline has to have given up
before: it would wait for ever. -/
def Network.waitOut (n : Network) (life : Lifetime) : Network :=
  { n with clock := life.deadline.getD n.clock }

end HitLog

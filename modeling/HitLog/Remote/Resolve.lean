import HitLog.Remote.Host
import HitLog.Remote.Network

/-!
# Resolving a host

Name servers are asked in order until one gives at least one A record; only if none does, the
resolver of the system is asked. If nobody gives an address, the first error along the way is
reported. A server that replies without an A record gives no error, so it may be that there is none
to report. There is one time limit for all questions together, so a server that does not answer
leaves nothing for those behind it.

Resolving is written against `Resolve.Lookups`, the two questions that it asks of whatever lies
outside. The network is one such outside. There a server is given by host and port, and the resolver
of the system is also asked for the host of a server that has a name.

## Main definitions

* `Resolve.Lookups`, `Network.lookups` — the questions that resolving asks, and the network's
* `Resolve.query` — the addresses that one name server gives
* `Resolve.resolve` — the addresses of a host
* `Resolve.askSystem`, `Resolve.exchange` — how the network answers
-/

namespace HitLog

namespace Resolve

open scoped Text

/-- What resolving needs of the outside, which is in a state of `σ`. -/
structure Lookups (σ : Type) where
  /-- The moment. -/
  clock : σ → Nat
  /-- Ask a name server for the A records of a complete name, and get its reply or the wording of
  what went wrong. It may be that nothing went wrong and there is no reply. -/
  exchange : (server name : Text) → Lifetime → σ → Except Text (Option NameReply) × σ
  /-- Ask the resolver of the system for the addresses of a host. -/
  askSystem : (host : Text) → Lifetime → σ → Except Text (List Text) × σ

section Order

variable {σ : Type}

/-! ### One name server -/

/-- The addresses of the A records among answers. -/
def aRecords (answers : List NameAnswer) : List Text :=
  answers.filterMap fun
    | .a address => some address
    | _ => none

/-- Query a name server. The result holds the addresses of the A records of its reply, or the
wording of what went wrong. -/
def query (o : Lookups σ) (server host : Text) (life : Lifetime) (x : σ) :
    Except Text (List Text) × σ :=
  let failed (why : Text) : Except Text (List Text) :=
    .error ("udp dns via " ++ server ++ ": " ++ why)
  match o.exchange server (completeName host) life x with
  | (.error why, x) => (failed why, x)
  | (.ok none, x) => (failed "bad response", x)
  | (.ok (some reply), x) =>
    (if reply.code = 0 then .ok (aRecords reply.answers) else failed "bad response", x)

/-! ### All of them in order -/

/-- The first of two errors. -/
def firstError (first : Option Text) : Except Text (List Text) → Option Text
  | .ok _ => first
  | .error e => first.or (some e)

/-- Ask the servers in order, then the system. The first error so far is `first`. -/
def resolveFrom (o : Lookups σ) (host : Text) (life : Lifetime) (first : Option Text) (x : σ) :
    List Text → Except Text (List Text) × σ
  | [] =>
    match o.askSystem host life x with
    | (.ok (a :: addresses), x) => (.ok (a :: addresses), x)
    | (result, x) => (.error ((firstError first result).getD "no dns result"), x)
  | server :: servers =>
    match query o server host life x with
    | (.ok (a :: addresses), x) => (.ok (a :: addresses), x)
    | (result, x) => resolveFrom o host life (firstError first result) x servers

/-- The addresses of a host, or the wording of what went wrong first. All of it takes some time at
most. -/
def resolve (o : Lookups σ) (servers : List Text) (host : Text) (time : Nat) (life : Lifetime)
    (x : σ) : Except Text (List Text) × σ :=
  resolveFrom o host (life.within (o.clock x) time) none x servers

end Order

/-- How an operation of the network is told to have ended because its caller no longer waits. -/
def overText : Lifetime.End → Text
  | .cancelled => "operation was canceled"
  | .expired => "i/o timeout"

/-! ### The network: the resolver of the system -/

/-- The usual forms of addresses. Where the only one stands for any host, the short form of that is
tried too. -/
def usualForms (addresses : List Text) : List Text :=
  let texts := addresses.map fun t =>
    match Address.parse t with
    | .ok a => a.text
    | .error _ => t
  if texts = [Text.ofString "::"] then texts ++ [Text.ofString "0.0.0.0"] else texts

/-- Ask the resolver of the system. A numeric host stands for itself, and what cannot be a domain
name or is hidden is not asked for. -/
def askSystem (host : Text) (life : Lifetime) (net : Network) :
    Except Text (List Text) × Network :=
  let failed (why : Text) : Except Text (List Text) := .error ("lookup " ++ host ++ ": " ++ why)
  match Address.parse host with
  | .ok address => (.ok (usualForms [address.text]), net)
  | .error _ =>
    match life.over? net.clock with
    | some ending => (failed (overText ending), net)
    | none =>
      if !isDomainName host then (failed "no such host", net)
      else if isHidden host then (.error ("address " ++ host ++ ": no suitable address found"), net)
      else
        match net.system with
        | .finds [] => (failed "no such host", net.systemAsked)
        | .finds addresses => (.ok (usualForms addresses), net.systemAsked)
        | .hangs => (failed (overText .expired), net.systemAsked.waitOut life)

/-! ### The network: name servers -/

/-- The address that a server is dialled at, as it is told. A server that is there by its own name
is dialled by that. -/
def dialled (server : Text) (life : Lifetime) (net : Network) : Except Text Text × Network :=
  if (net.nameServers.lookup server).isSome then (.ok server, net)
  else match Destination.parse server with
    | .error why => (.error why, net)
    | .ok ⟨host, port⟩ =>
      match Address.parse host with
      | .ok address => (.ok (Destination.join address.textWithZone port), net)
      | .error _ =>
        if host.isEmpty then (.ok (Destination.join [] port), net)
        else match askSystem host life net with
          | (.error why, net) => (.error why, net)
          | (.ok addresses, net) =>
            (.ok (Destination.join (addresses.head?.getD host) port), net)

/-- Ask a name server. -/
def exchange (server name : Text) (life : Lifetime) (net : Network) :
    Except Text (Option NameReply) × Network :=
  match dialled server life net with
  | (.error why, net) => (.error ("dial udp: " ++ why), net)
  | (.ok address, net) =>
    match life.over? net.clock with
    | some ending => (.error ("dial udp " ++ address ++ ": " ++ overText ending), net)
    | none =>
      match net.nameServer server with
      | .unreachable =>
        (.error ("dial udp " ++ address ++ ": connect: network is unreachable"), net)
      | .replies reply => (.ok (some reply), net.queried server name)
      | .hangs source =>
        (.error ("read udp " ++ source ++ "->" ++ address ++ ": " ++ overText .expired),
          (net.queried server name).waitOut life)

end Resolve

/-- The questions that resolving asks of the network. -/
def Network.lookups : Resolve.Lookups Network where
  clock := Network.clock
  exchange := Resolve.exchange
  askSystem := Resolve.askSystem

end HitLog

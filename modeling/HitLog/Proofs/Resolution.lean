import HitLog.Remote.Resolve

/-!
# Who is asked for a host

Resolving goes through the name servers and then to the resolver of the system, and each of them may
do anything: fail, refuse, reply with answers of any type, or reply with nothing useful. What is
asked of whom, and what came of it, is written down (`Resolve.Lookups.recorded`), which changes
nothing about the result. From the record the result can be read off.

The point to watch is a reply that tells of success and has no A record. It does not end the search,
but it is no error either, so the error that is reported in the end may belong to a later server or
to the system, or there may be none at all.

## Main definitions

* `Resolve.Question`, `Resolve.Lookups.recorded` — what is asked, written down
* `Resolve.Attempt`, `Resolve.Attempt.Usable` — a name server with what came of asking it, and
  whether that has an A record
* `Resolve.Ending` — how a search can end

## Main results

* `Resolve.query_eq` — one query, by what came of the exchange
* `Resolve.ending_resolveFrom` — every search ends in one of these ways
* `Resolve.resolve_asks_in_order` — who is asked, and what comes of it
-/

namespace HitLog

namespace Resolve

open scoped Text

variable {σ : Type}

/-! ### The record -/

/-- A question to the outside, with what came of it. -/
inductive Question where
  /-- A name server is asked for a complete name. -/
  | server (address name : Text) (outcome : Except Text (Option NameReply))
  /-- The resolver of the system is asked for a host. -/
  | system (host : Text) (outcome : Except Text (List Text))

/-- The outside with a record of the questions. -/
def Lookups.recorded (o : Lookups σ) : Lookups (σ × List Question) where
  clock x := o.clock x.1
  exchange server name life x :=
    match o.exchange server name life x.1 with
    | (outcome, y) => (outcome, y, x.2 ++ [.server server name outcome])
  askSystem host life x :=
    match o.askSystem host life x.1 with
    | (outcome, y) => (outcome, y, x.2 ++ [.system host outcome])

/-! ### One name server -/

/-- Whether an answer is an A record. -/
def isARecord : NameAnswer → Bool
  | .a _ => true
  | _ => false

/-- The addresses are those of exactly the A records, in their order. -/
theorem map_aRecords (answers : List NameAnswer) :
    (aRecords answers).map NameAnswer.a = answers.filter isARecord := by
  induction answers with
  | nil => rfl
  | cons answer answers ih =>
    cases answer with
    | a address => exact congrArg (NameAnswer.a address :: ·) ih
    | aaaa _ => exact ih
    | cname _ => exact ih
    | other _ _ => exact ih

theorem aRecords_eq_nil_iff {answers : List NameAnswer} :
    aRecords answers = [] ↔ ∀ answer ∈ answers, isARecord answer = false := by
  rw [← List.map_eq_nil_iff (f := NameAnswer.a), map_aRecords, List.filter_eq_nil_iff]
  simp only [Bool.not_eq_true]

/-- A name server with what came of asking it. -/
structure Attempt where
  server : Text
  outcome : Except Text (Option NameReply)

namespace Attempt

/-- The question for a host. -/
def question (host : Text) (a : Attempt) : Question :=
  .server a.server (completeName host) a.outcome

/-- The answers of the reply, if there is one that tells of success. -/
def answers (a : Attempt) : List NameAnswer :=
  match a.outcome with
  | .ok (some ⟨0, answers⟩) => answers
  | _ => []

/-- An attempt can be used if there is a reply of success with an A record. -/
def Usable (a : Attempt) : Prop := ∃ address, .a address ∈ a.answers

/-- The addresses that come of the attempt. -/
def addresses (a : Attempt) : List Text := aRecords a.answers

theorem addresses_eq_nil_iff {a : Attempt} : a.addresses = [] ↔ ¬ a.Usable := by
  rw [addresses, aRecords_eq_nil_iff, Usable]
  constructor
  · rintro h ⟨address, haddress⟩
    exact Bool.noConfusion (h _ haddress)
  · intro h answer hanswer
    cases answer with
    | a address => exact absurd ⟨address, hanswer⟩ h
    | aaaa _ => rfl
    | cname _ => rfl
    | other _ _ => rfl

/-- Why the attempt failed. A reply that tells of success is no failure, whatever its answers. -/
def cause? (a : Attempt) : Option Text :=
  match a.outcome with
  | .ok (some ⟨0, _⟩) => none
  | .error why => some why
  | _ => some (Text.ofString "bad response")

/-- The error of a failed attempt. -/
def error? (a : Attempt) : Option Text :=
  a.cause?.map fun why => "udp dns via " ++ a.server ++ ": " ++ why

/-- What a query makes of the attempt. -/
def result (a : Attempt) : Except Text (List Text) :=
  match a.error? with
  | none => .ok a.addresses
  | some e => .error e

/-- An attempt gives addresses or an error, or neither of them, but never both. -/
theorem addresses_of_error {a : Attempt} {e : Text} (h : a.error? = some e) :
    a.addresses = [] := by
  obtain ⟨server, _ | _ | ⟨_ | _, answers⟩⟩ := a
  · rfl
  · rfl
  · cases h
  · rfl

theorem firstError_result (a : Attempt) (first : Option Text) :
    firstError first a.result = first.or a.error? := by
  rw [result]
  split
  · next h => rw [h, Option.or_none, firstError]
  · next h => rw [h, firstError]

end Attempt

variable (o : Lookups σ) (host : Text) (life : Lifetime)

/-- **One query**, by what came of the exchange. -/
theorem query_eq {server : Text} {x y : σ} {outcome : Except Text (Option NameReply)}
    (h : o.exchange server (completeName host) life x = (outcome, y)) :
    query o server host life x = (Attempt.result ⟨server, outcome⟩, y) := by
  rw [query, h]
  obtain _ | _ | ⟨_ | _, answers⟩ := outcome <;> rfl

/-- **One step of the search**: it ends where a server gives an address, and goes on with the first
error so far where it gives none. -/
theorem resolveFrom_cons {a : Attempt} {x y : σ} (first : Option Text) (servers : List Text)
    (h : query o a.server host life x = (a.result, y)) :
    resolveFrom o host life first x (a.server :: servers) =
      if a.addresses = [] then resolveFrom o host life (first.or a.error?) y servers
      else (.ok a.addresses, y) := by
  rw [resolveFrom, h, ← a.firstError_result]
  cases he : a.error? with
  | some e =>
    have hresult : a.result = .error e := by rw [Attempt.result, he]
    rw [hresult, if_pos (Attempt.addresses_of_error he)]
  | none =>
    have hresult : a.result = .ok a.addresses := by rw [Attempt.result, he]
    rw [hresult]
    cases a.addresses <;> rfl

/-! ### The whole search -/

/-- What went wrong with the resolver of the system. -/
def systemError? : Except Text (List Text) → Option Text
  | .error why => some why
  | .ok _ => none

/-- How a search through servers can end, with the questions asked on the way and its result. The
first error from before the search is given. -/
inductive Ending (host : Text) (first : Option Text) :
    List Text → List Question → Except Text (List Text) → Prop where
  /-- A server gives addresses, and those behind it are not asked. -/
  | server (before : List Attempt) (a : Attempt) (after : List Text)
      (hbefore : ∀ b ∈ before, b.addresses = []) (ha : a.addresses ≠ []) :
      Ending host first (before.map Attempt.server ++ a.server :: after)
        ((before ++ [a]).map (Attempt.question host)) (.ok a.addresses)
  /-- No server gives an address, and the system does. -/
  | system (asked : List Attempt) (hasked : ∀ b ∈ asked, b.addresses = [])
      (addresses : List Text) (h : addresses ≠ []) :
      Ending host first (asked.map Attempt.server)
        (asked.map (Attempt.question host) ++ [.system host (.ok addresses)]) (.ok addresses)
  /-- Nobody gives an address. -/
  | nobody (asked : List Attempt) (hasked : ∀ b ∈ asked, b.addresses = [])
      (outcome : Except Text (List Text))
      (h : ∀ addresses, outcome = .ok addresses → addresses = []) :
      Ending host first (asked.map Attempt.server)
        (asked.map (Attempt.question host) ++ [.system host outcome])
        (.error (((first :: asked.map Attempt.error? ++ [systemError? outcome]).findSome? id).getD
          "no dns result"))

/-- A server in front that gives no address adds its question, and its error if it has one. -/
theorem Ending.cons {host : Text} {first : Option Text} {servers : List Text}
    {questions : List Question} {result : Except Text (List Text)} {a : Attempt}
    (ha : a.addresses = []) (h : Ending host (first.or a.error?) servers questions result) :
    Ending host first (a.server :: servers) (a.question host :: questions) result := by
  cases h with
  | server before b after hbefore hb =>
    exact .server (a :: before) b after (List.forall_mem_cons.mpr ⟨ha, hbefore⟩) hb
  | system asked hasked addresses h =>
    exact .system (a :: asked) (List.forall_mem_cons.mpr ⟨ha, hasked⟩) addresses h
  | nobody asked hasked outcome h =>
    have herror : ((first.or a.error?) :: asked.map Attempt.error?
        ++ [systemError? outcome]).findSome? id
          = (first :: (a :: asked).map Attempt.error? ++ [systemError? outcome]).findSome? id := by
      cases first <;> cases he : a.error? <;> simp [he]
    rw [herror]
    exact .nobody (a :: asked) (List.forall_mem_cons.mpr ⟨ha, hasked⟩) outcome h

/-- The search ends with the system once there are no more servers. -/
theorem ending_askSystem (first : Option Text) (x : σ) (record : List Question) :
    ∃ questions, Ending host first [] questions (resolveFrom o host life first x []).1 ∧
      resolveFrom o.recorded host life first (x, record) [] =
        ((resolveFrom o host life first x []).1, (resolveFrom o host life first x []).2,
          record ++ questions) := by
  rcases h : o.askSystem host life x with ⟨outcome, y⟩
  have hrecorded : o.recorded.askSystem host life (x, record)
      = (outcome, y, record ++ [.system host outcome]) := by
    simp only [Lookups.recorded, h]
  refine ⟨[.system host outcome], ?_, ?_⟩
  · rw [resolveFrom, h]
    match outcome with
    | .ok (a :: addresses) => exact .system [] (by simp) (a :: addresses) (by simp)
    | .ok [] =>
      have hending : Ending host first [] _ _ := .nobody [] (by simp) (.ok []) (by simp)
      cases first <;> exact hending
    | .error why =>
      have hending : Ending host first [] _ _ := .nobody [] (by simp) (.error why) (by simp)
      cases first <;> exact hending
  · rw [resolveFrom, resolveFrom, hrecorded, h]
    match outcome with
    | .ok (a :: addresses) => rfl
    | .ok [] => rfl
    | .error why => rfl

/-- **Every search ends in one of these ways**, and writing the questions down does not change
it. -/
theorem ending_resolveFrom (first : Option Text) (x : σ) (record : List Question)
    (servers : List Text) :
    ∃ questions, Ending host first servers questions (resolveFrom o host life first x servers).1 ∧
      resolveFrom o.recorded host life first (x, record) servers =
        ((resolveFrom o host life first x servers).1, (resolveFrom o host life first x servers).2,
          record ++ questions) := by
  induction servers generalizing first x record with
  | nil => exact ending_askSystem o host life first x record
  | cons server servers ih =>
    rcases h : o.exchange server (completeName host) life x with ⟨outcome, y⟩
    have hrecorded : o.recorded.exchange server (completeName host) life (x, record)
        = (outcome, y, record ++ [Attempt.question host ⟨server, outcome⟩]) := by
      simp only [Lookups.recorded, h, Attempt.question]
    let a : Attempt := ⟨server, outcome⟩
    rw [resolveFrom_cons o host life (a := a) first servers (query_eq o host life h),
      resolveFrom_cons o.recorded host life (a := a) first servers
        (query_eq o.recorded host life hrecorded)]
    by_cases ha : a.addresses = []
    · rw [if_pos ha, if_pos ha]
      obtain ⟨questions, hending, hresolve⟩ :=
        ih (first.or a.error?) y (record ++ [a.question host])
      refine ⟨a.question host :: questions, hending.cons ha, ?_⟩
      rw [hresolve, List.append_assoc, List.singleton_append]
    · rw [if_neg ha, if_neg ha]
      exact ⟨[a.question host], .server [] a servers (by simp) ha, rfl⟩

/-- **Who is asked for a host, and what comes of it.**

Whatever the outside does, the questions are these. Servers are asked in order. If one of them
replies with success and an A record, the search ends there, and its result is the addresses of
exactly the A records of that reply, in order. If none of them does, all of them were asked and the
resolver of the system is asked behind them. If that gives addresses, they are the result. Otherwise
the result is the first error of the servers and the system in this order, where a reply of success
without an A record is no error, or that there is no result if nobody had an error. -/
theorem resolve_asks_in_order (servers : List Text) (time : Nat) (x : σ) :
    ∃ questions,
      resolve o.recorded servers host time life (x, []) =
        ((resolve o servers host time life x).1, (resolve o servers host time life x).2,
          questions) ∧
      ((∃ (before : List Attempt) (a : Attempt) (after addresses : List Text),
          servers = before.map Attempt.server ++ a.server :: after ∧
          (∀ b ∈ before, ¬ b.Usable) ∧ a.Usable ∧
          questions = (before ++ [a]).map (Attempt.question host) ∧
          (resolve o servers host time life x).1 = .ok addresses ∧
          addresses.map NameAnswer.a = a.answers.filter isARecord) ∨
        ∃ (asked : List Attempt) (outcome : Except Text (List Text)),
          servers = asked.map Attempt.server ∧ (∀ b ∈ asked, ¬ b.Usable) ∧
          questions = asked.map (Attempt.question host) ++ [.system host outcome] ∧
          ((∃ addresses, addresses ≠ [] ∧ outcome = .ok addresses ∧
              (resolve o servers host time life x).1 = .ok addresses) ∨
            (∀ addresses, outcome = .ok addresses → addresses = []) ∧
              (resolve o servers host time life x).1 =
                .error (((asked.map Attempt.error? ++ [systemError? outcome]).findSome? id).getD
                  "no dns result"))) := by
  obtain ⟨questions, hending, hrecorded⟩ :=
    ending_resolveFrom o host (life.within (o.clock x) time) none x [] servers
  refine ⟨questions, hrecorded, ?_⟩
  rw [resolve]
  generalize (resolveFrom o host (life.within (o.clock x) time) none x servers).1 = result
    at hending
  cases hending with
  | server before a after hbefore ha =>
    have husable : a.Usable := Classical.not_not.mp (mt Attempt.addresses_eq_nil_iff.mpr ha)
    exact .inl ⟨before, a, after, a.addresses, rfl,
      fun b hb => Attempt.addresses_eq_nil_iff.mp (hbefore b hb), husable, rfl, rfl,
      map_aRecords a.answers⟩
  | system asked hasked addresses h =>
    exact .inr ⟨asked, .ok addresses, rfl,
      fun b hb => Attempt.addresses_eq_nil_iff.mp (hasked b hb), rfl, .inl ⟨addresses, h, rfl, rfl⟩⟩
  | nobody asked hasked outcome h =>
    exact .inr ⟨asked, outcome, rfl,
      fun b hb => Attempt.addresses_eq_nil_iff.mp (hasked b hb), rfl, .inr ⟨h, rfl⟩⟩

/-! ### A reply with records of several types -/

/-- The server at `10.0.0.1` cannot be reached, the one at `10.0.0.2` succeeds without an answer and
the one at `10.0.0.3` with an address of the other length only. The two others have what a search
looks for. -/
def mixedNetwork : Network where
  endpoint := .ofList []
  nameServers :=
    [("10.0.0.2:53", .replies ⟨0, []⟩),
      ("10.0.0.3:53", .replies ⟨0, [.aaaa "2001:db8::2"]⟩),
      ("10.0.0.4:53", .replies ⟨0, [.cname "www.example.net.", .a "192.0.2.1",
        .aaaa "2001:db8::1", .a "192.0.2.2"]⟩),
      ("10.0.0.5:53", .replies ⟨0, [.a "192.0.2.9"]⟩)]
  system := .finds ["192.0.2.8"]
  clock := 0
  traffic := .none

/-- The servers of the search in `mixedNetwork`. -/
def mixedServers : List Text :=
  ["10.0.0.1:53", "10.0.0.2:53", "10.0.0.3:53", "10.0.0.4:53", "10.0.0.5:53"]

/-- A search in `mixedNetwork`. -/
def mixedSearch : Except Text (List Text) × Network :=
  resolve Network.lookups mixedServers "example.com" 5 .live mixedNetwork

/-- Whether the resolver of the system is asked. -/
def Question.isSystem : Question → Bool
  | .system _ _ => true
  | .server _ _ _ => false

/-- An error and two successes without an A record are passed over, and of the reply behind them
only the A records count. Neither the last server nor the system is asked. -/
theorem resolve_asks_in_order_of_mixed_reply :
    mixedSearch.1.toOption = some (["192.0.2.1", "192.0.2.2"] : List Text) ∧
      mixedSearch.2.traffic.queries
        = ([("10.0.0.2:53", "example.com."), ("10.0.0.3:53", "example.com."),
          ("10.0.0.4:53", "example.com.")] : List (Text × Text)) ∧
      mixedSearch.2.traffic.askedSystem = false ∧
      ∃ (before : List Attempt) (a : Attempt) (after : List Text),
        mixedServers = before.map Attempt.server ++ a.server :: after ∧
        (∀ b ∈ before, ¬ b.Usable) ∧
        a.answers.filter isARecord = [.a "192.0.2.1", .a "192.0.2.2"] := by
  have hresult : mixedSearch.1.toOption
      = some (["192.0.2.1", "192.0.2.2"] : List Text) := by decide +kernel
  refine ⟨hresult, by decide +kernel, by decide +kernel, ?_⟩
  have hsystem : (resolve Network.lookups.recorded mixedServers "example.com" 5 .live
      (mixedNetwork, [])).2.2.any Question.isSystem = false := by decide +kernel
  obtain ⟨questions, hrecorded, hserver | hnobody⟩ :=
    resolve_asks_in_order Network.lookups "example.com" .live mixedServers 5 mixedNetwork
  · obtain ⟨before, a, after, addresses, hservers, hbefore, -, -, hok, haddresses⟩ := hserver
    rw [mixedSearch, hok] at hresult
    obtain rfl := Option.some.inj hresult
    exact ⟨before, a, after, hservers, hbefore, haddresses.symm⟩
  · obtain ⟨asked, outcome, -, -, rfl, -⟩ := hnobody
    rw [hrecorded, List.any_append] at hsystem
    simp [Question.isSystem] at hsystem

end Resolve

end HitLog

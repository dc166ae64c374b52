import HitLog.Proofs.Lookup
import HitLog.Proofs.Sample

/-!
# When the second attempt helps

A call that fails to send its batch tries once more, in the time that is left. An endpoint that does
not answer the first request uses up the time of the whole call. So may whoever is asked for the
host between the two requests and does not answer, if a resolution has as much time as the call. The
second request then fails before its response is looked at, whatever the response would be. In all
other cases it meets the second response of the endpoint, by what is known of lookups.

## Main definitions

* `Response.failure`, `Response.clockAfter` — what a response makes of a request
* `Response.Accepts` — the responses that let a request succeed
* `Exporter.secondOver?` — why the second response is not waited for

## Main results

* `Exporter.send_eq` — one request, by the response that it meets
* `Exporter.failure_exportAll` — one call, by the two responses that it may meet
* `Exporter.exportAll_failure_eq_none_iff` — when a call succeeds
-/

namespace HitLog

open scoped Text

/-! ### One request -/

namespace Response

/-- How a request fails that meets a response, as it is told. A caller that no longer waits does not
see the response. -/
def failure (shown : Text) (r : Response) : Option Lifetime.End → Option SendError
  | some ending => some (.transport shown (Exporter.overCause ending))
  | none =>
    match r with
    | .status code body => if Exporter.isSuccess code then none else some (.status code body)
    | .fail reason => some (.transport shown (.failed reason))
    | .hang => some (.transport shown .expired)

/-- The moment behind a request. Only a response that does not come takes time. -/
def clockAfter (life : Lifetime) (now : Nat) : Response → Nat
  | .hang => if life.over? now = none then life.deadline.getD now else now
  | _ => now

/-- The status of the response means success. -/
def Accepts : Response → Prop
  | .status code _ => 200 ≤ code ∧ code < 300
  | _ => False

instance : DecidablePred Accepts
  | .status code _ => inferInstanceAs (Decidable (200 ≤ code ∧ code < 300))
  | .fail _ => instDecidableFalse
  | .hang => instDecidableFalse

/-- A request succeeds if its caller waits and the response means success. -/
theorem failure_eq_none_iff {shown : Text} {r : Response} {ended : Option Lifetime.End} :
    r.failure shown ended = none ↔ ended = none ∧ r.Accepts := by
  cases ended with
  | some ending => simp [failure]
  | none => cases r <;> simp [failure, Accepts, Exporter.isSuccess]

end Response

namespace Exporter

variable {text : Text} {url : Url} {batch : List Series} {life : Lifetime}

/-- The request that carries a batch. -/
def requestOf (url : Url) (batch : List Series) : Request :=
  ⟨url.forRequest.text, batch.map onWire⟩

/-- The network behind one request. -/
def behind (url : Url) (batch : List Series) (life : Lifetime) (net : Network) : Network :=
  { net.received (requestOf url batch) with
    clock := net.endpoint.next.clockAfter life net.clock }

/-- **One request**, by the response that it meets. -/
theorem send_eq (hurl : Url.parse text = .ok url) (batch : List Series) (life : Lifetime)
    (net : Network) :
    send text batch life net
      = ⟨net.endpoint.next.failure url.forRequest.textWithoutPassword (life.over? net.clock),
          behind url batch life net⟩ := by
  rw [send, hurl, behind]
  cases hover : life.over? net.clock with
  | some ending =>
    cases net.endpoint.next <;> simp only [Response.failure, Response.clockAfter, hover] <;> rfl
  | none =>
    cases net.endpoint.next <;> simp only [Response.failure, Response.clockAfter, hover] <;> rfl

theorem outside_write (e : Exporter) (batch : List Series) (life : Lifetime) (net : Network) :
    Network.outside.write e batch life net = send e.config.url batch life net := rfl

/-! ### Between the requests -/

/-- The network behind a connection that is made anew. -/
def renewed (e : Exporter) (life : Lifetime) (net : Network) : Network :=
  if e.needsResolution then (Network.outside.resolve e life net).2 else net

/-- A connection that is made anew leaves where the exporter sends. -/
theorem refresh_network (life : Lifetime) (s : State Network) :
    (refresh Network.outside life s).net = s.exporter.renewed life s.net ∧
      (refresh Network.outside life s).exporter.config = s.exporter.config ∧
      (refresh Network.outside life s).exporter.host = s.exporter.host := by
  obtain ⟨e, net, events⟩ := s
  rw [refresh, renewed]
  split
  · rw [renew]
    rcases Network.outside.resolve e life net with ⟨_ | _, net'⟩ <;> exact ⟨rfl, rfl, rfl⟩
  · exact ⟨rfl, rfl, rfl⟩

theorem lookedUp_renewed (e : Exporter) (life : Lifetime) (net : Network) :
    net.LookedUp (life.within net.clock e.nameTime) (e.renewed life net) := by
  rw [renewed]
  split
  · exact lookedUp_resolve e life net
  · exact .refl _ net

/-- Exporters with the same settings look the same host up. -/
theorem renewed_congr {e e' : Exporter} (hconfig : e'.config = e.config) (hhost : e'.host = e.host)
    (life : Lifetime) (net : Network) : e'.renewed life net = e.renewed life net := by
  obtain ⟨config, _, _, host, _, _⟩ := e
  obtain ⟨config', _, _, host', _, _⟩ := e'
  obtain rfl : config' = config := hconfig
  obtain rfl : host' = host := hhost
  rfl

instance (e : Exporter) (net : Network) : Decidable (e.Stalls net) :=
  inferInstanceAs (Decidable (_ ∧ _))

/-- The moment behind a connection that is made anew, for a caller that waits. The lookup takes all
the time that it has or none, as it would in another network whose servers behave in the same
way. -/
theorem clock_renewed (e : Exporter) {net net₀ : Network}
    (hservers : net.nameServers = net₀.nameServers) (hsystem : net.system = net₀.system)
    (hover : life.over? net.clock = none) :
    (e.renewed life net).clock
      = if e.Stalls net₀ then (life.within net.clock e.nameTime).deadline.getD net.clock
        else net.clock := by
  rw [renewed]
  split
  · next hneeds =>
    obtain ⟨hstalls, hanswers⟩ := clock_resolve hservers hsystem hneeds hover
    split
    · next h => exact hstalls h
    · next h => exact hanswers h
  · next hneeds => rw [if_neg fun h => hneeds h.1]

/-- Why the second response is not waited for, if so: the time of the call is used up. -/
def secondOver? (e : Exporter) (net : Network) : Option Lifetime.End :=
  match net.endpoint.next with
  | .hang => some .expired
  | _ => if e.Stalls net ∧ e.time ≤ e.nameTime then some .expired else none

/-- **What is left of the time of a call** at its second request. The time started at `ready`, where
everybody behaves as in `net`. -/
theorem over?_renewed (e : Exporter) {net ready : Network}
    (hendpoint : ready.endpoint = net.endpoint) (hservers : ready.nameServers = net.nameServers)
    (hsystem : ready.system = net.system) :
    (Lifetime.live.within ready.clock e.time).over?
        (e.renewed (.within .live ready.clock e.time)
          (behind url batch (.within .live ready.clock e.time) ready)).clock
      = e.secondOver? net := by
  have hwaits : (Lifetime.live.within ready.clock e.time).over? ready.clock = none :=
    Lifetime.over?_within rfl e.time_pos
  generalize hlife : Lifetime.live.within ready.clock e.time = life at hwaits ⊢
  have hends : ∀ now, life.over? now = if ready.clock + e.time ≤ now then some .expired else none :=
    fun now => by rw [← hlife]; rfl
  have hdeadline : life.deadline = some (ready.clock + e.time) := by rw [← hlife]; rfl
  -- the moment behind the first request, when everybody waits unless it hung
  have hanswered (h : ready.endpoint.next.clockAfter life ready.clock = ready.clock) :
      life.over? (e.renewed life (behind url batch life ready)).clock
        = if e.Stalls net ∧ e.time ≤ e.nameTime then some .expired else none := by
    have hclock : (behind url batch life ready).clock = ready.clock := h
    have hover : life.over? (behind url batch life ready).clock = none := by rw [hclock, hwaits]
    have hservers : (behind url batch life ready).nameServers = net.nameServers := hservers
    rw [clock_renewed e hservers hsystem hover, hends, hclock, Lifetime.within, hdeadline]
    by_cases hstalls : e.Stalls net
    · have hwaited : ready.clock + e.time ≤ min (ready.clock + e.time) (ready.clock + e.nameTime)
          ↔ e.Stalls net ∧ e.time ≤ e.nameTime := by
        rw [and_iff_right hstalls]
        omega
      rw [if_pos hstalls]
      exact ite_congr (propext hwaited) (fun _ => rfl) fun _ => rfl
    · have hpos := e.time_pos
      rw [if_neg hstalls, if_neg (by omega), if_neg fun h => hstalls h.1]
  rw [secondOver?, ← hendpoint]
  cases hnext : ready.endpoint.next with
  | hang =>
    have hclock : (behind url batch life ready).clock = ready.clock + e.time := by
      simp [behind, hnext, Response.clockAfter, hwaits, hdeadline]
    -- no time is left for a lookup either
    have hrenewed : (e.renewed life (behind url batch life ready)).clock
        = ready.clock + e.time := by
      rcases (lookedUp_renewed e life (behind url batch life ready)).clock with h | ⟨-, -, h⟩
      · rw [h, hclock]
      · rw [h, Lifetime.within, hdeadline, hclock]
        simp
    rw [hrenewed, hends, if_pos (Nat.le_refl _)]
  | status code body => exact hanswered (by rw [hnext]; rfl)
  | fail reason => exact hanswered (by rw [hnext]; rfl)

/-! ### Both requests -/

theorem failure_sendAgain (s : State Network) (hurl : Url.parse s.exporter.config.url = .ok url) :
    (sendAgain Network.outside batch life s).failure
      = (s.net.endpoint.next.failure url.forRequest.textWithoutPassword
          (life.over? s.net.clock)).map ExportError.mk := by
  obtain ⟨e, net, events⟩ := s
  have hwrite := send_eq hurl batch life net
  simp only [sendAgain, outside_write, hwrite]
  cases net.endpoint.next.failure url.forRequest.textWithoutPassword (life.over? net.clock) <;> rfl

/-- The second request is made if the first one fails, at the moment behind a new connection. -/
theorem failure_sendTwice (s : State Network) (hurl : Url.parse s.exporter.config.url = .ok url) :
    (sendTwice Network.outside batch life s).failure
      = (s.net.endpoint.next.failure url.forRequest.textWithoutPassword
          (life.over? s.net.clock)).bind fun _ =>
          (s.net.endpoint.advance.next.failure url.forRequest.textWithoutPassword
            (life.over? (s.exporter.renewed life (behind url batch life s.net)).clock)).map
              ExportError.mk := by
  obtain ⟨e, net, events⟩ := s
  have hwrite := send_eq hurl batch life net
  simp only [sendTwice, outside_write, hwrite]
  cases net.endpoint.next.failure url.forRequest.textWithoutPassword (life.over? net.clock) with
  | none => rfl
  | some error =>
    obtain ⟨hnet, hconfig, -⟩ := refresh_network life
      ⟨e, behind url batch life net, events ++ [retryEvent error]⟩
    refine (failure_sendAgain _ (by rw [hconfig]; exact hurl)).trans ?_
    rw [hnet, (lookedUp_renewed e life (behind url batch life net)).endpoint]
    rfl

/-- **One call**, by the two responses that it may meet. -/
theorem failure_exportAll (e : Exporter) {ms : List Metric} (hms : ms ≠ []) (net : Network)
    (hurl : Url.parse e.config.url = .ok url) :
    (e.exportAll ms .live net).failure
      = (net.endpoint.next.failure url.forRequest.textWithoutPassword none).bind fun _ =>
          (net.endpoint.advance.next.failure url.forRequest.textWithoutPassword
            (e.secondOver? net)).map ExportError.mk := by
  rw [exportAll, call, if_neg (by simpa using hms)]
  dsimp only
  generalize hready : (if e.connected then (⟨e, net, []⟩ : State Network)
    else refresh Network.outside .live ⟨e, net, []⟩) = ready
  obtain ⟨hlooked, hconfig, hhost⟩ : (∃ life, net.LookedUp life ready.net) ∧
      ready.exporter.config = e.config ∧ ready.exporter.host = e.host := by
    rw [← hready]
    split
    · exact ⟨⟨.live, .refl _ net⟩, rfl, rfl⟩
    · obtain ⟨hnet, hconfig, hhost⟩ := refresh_network .live ⟨e, net, []⟩
      exact ⟨⟨_, hnet ▸ lookedUp_renewed e .live net⟩, hconfig, hhost⟩
  obtain ⟨life, hlooked⟩ := hlooked
  have hwaits : (Lifetime.live.within ready.net.clock e.time).over? ready.net.clock = none :=
    Lifetime.over?_within rfl e.time_pos
  refine (failure_sendTwice ready (by rw [hconfig]; exact hurl)).trans ?_
  rw [renewed_congr hconfig hhost]
  show (_ : Option SendError).bind _ = _
  rw [show Network.outside.clock ready.net = ready.net.clock from rfl, hwaits,
    over?_renewed e hlooked.endpoint hlooked.nameServers hlooked.system, hlooked.endpoint]

/-- The second response is waited for unless the time of the call is used up before. -/
theorem secondOver?_eq_none_iff {e : Exporter} {net : Network} :
    e.secondOver? net = none ↔ net.endpoint.next ≠ .hang ∧
      (e.config.nameTimeout < e.config.timeout ∨ ¬ e.Stalls net) := by
  have htime : e.nameTime < e.time ↔ e.config.nameTimeout < e.config.timeout :=
    Duration.toNatClampNeg_lt_iff e.timeout_pos
  rw [← htime, secondOver?]
  cases net.endpoint.next with
  | hang => simp
  | status code body => simp [Decidable.imp_iff_not_or, or_comm]
  | fail reason => simp [Decidable.imp_iff_not_or, or_comm]

/-- Once the time of the call is used up, its second request fails for that. -/
theorem secondOver?_eq_some {e : Exporter} {net : Network} (h : e.secondOver? net ≠ none) :
    e.secondOver? net = some .expired := by
  rw [secondOver?] at h ⊢
  split at h
  · rfl
  · split at h
    · next hover => rw [if_pos hover]
    · exact absurd rfl h

/-- **When a call succeeds.**

Let the address be usable, and let there be something to send for a caller that waits. The call
succeeds exactly if the first response means success, or if the second one does and there is time
left for it: the endpoint did answer the first request, or failed it at once, and looking the host
up did not take all of the call's time. A lookup does so if somebody who is asked does not answer
and a resolution has as much time as a call. A call that has no time left for its second request
fails for that, whatever the second response is. Where everybody answers to names, lookups take no
time. -/
theorem exportAll_failure_eq_none_iff (e : Exporter) (ms : List Metric) (net : Network) (url : Url)
    (hurl : Url.parse e.config.url = .ok url) (hms : ms ≠ []) :
    let first := net.endpoint.next
    let second := net.endpoint.advance.next
    let failure := (e.exportAll ms .live net).failure
    (failure = none ↔ first.Accepts ∨
        (first ≠ .hang ∧ (e.config.nameTimeout < e.config.timeout ∨ ¬ e.Stalls net) ∧
          second.Accepts)) ∧
      (first = .hang ∨ (¬ first.Accepts ∧ e.config.timeout ≤ e.config.nameTimeout ∧ e.Stalls net) →
        failure = some ⟨.transport url.forRequest.textWithoutPassword .expired⟩) ∧
      (¬ net.Silent → ¬ e.Stalls net) := by
  intro first second failure
  have hfailure : failure = _ := failure_exportAll e hms net hurl
  have hrefused (h : ¬ first.Accepts) : ∃ error,
      first.failure url.forRequest.textWithoutPassword none = some error :=
    Option.ne_none_iff_exists'.mp fun hnone => h (Response.failure_eq_none_iff.mp hnone).2
  refine ⟨?_, fun hover => ?_, not_stalls⟩
  · rw [hfailure]
    by_cases haccepts : first.Accepts
    · have hnone : first.failure url.forRequest.textWithoutPassword none = none :=
        Response.failure_eq_none_iff.mpr ⟨rfl, haccepts⟩
      simp [hnone, haccepts, first]
    · obtain ⟨error, herror⟩ := hrefused haccepts
      rw [herror, or_iff_right haccepts, Option.bind_some, Option.map_eq_none_iff,
        Response.failure_eq_none_iff, secondOver?_eq_none_iff, and_assoc]
  · have hfirst : ¬ first.Accepts :=
      hover.elim (fun hhang haccepts => by rw [hhang] at haccepts; exact haccepts) And.left
    obtain ⟨error, herror⟩ := hrefused hfirst
    have hused : e.secondOver? net ≠ none := by
      rw [Ne, secondOver?_eq_none_iff]
      rintro ⟨hanswered, htime⟩
      obtain ⟨-, hle, hstalls⟩ := hover.resolve_left hanswered
      exact htime.elim (Int64.not_lt.mpr hle) (· hstalls)
    rw [hfailure, herror, secondOver?_eq_some hused]
    rfl

/-- An exporter whose calls have no more time than its resolutions. -/
def hasty : Exporter :=
  make { ExportConfig.default with
    url := "http://h", timeout := 5, nameTimeout := 5, nameServers := ["10.0.0.1:53"] } "host"

/-- A network whose endpoint accepts every request but the first. -/
def recovering (first : Response) (server : NameServer) : Network :=
  { Sample.network with
    endpoint := ⟨first, [.status 204 []]⟩, nameServers := [("10.0.0.1:53", server)] }

/-- A second attempt helps behind a refusal. It does not behind an endpoint that hangs, nor behind a
refusal if the name server hangs. -/
theorem exportAll_failure_eq_none_iff_of_refusal_and_hangs :
    let ms := Sample.env.usage.metrics 0
    let found : NameServer := .replies ⟨0, [.a "192.0.2.1"]⟩
    let refused : Response := .status 500 []
    (hasty.exportAll ms .live (recovering refused found)).failure = none ∧
      (hasty.exportAll ms .live (recovering .hang found)).failure ≠ none ∧
      (hasty.exportAll ms .live (recovering refused (.hangs "10.0.0.7:40000"))).failure
        = some ⟨.transport "http://h" .expired⟩ := by
  intro ms found refused
  have hurl : Url.parse hasty.config.url = .ok _ := rfl
  have hms : ms ≠ [] := nofun
  obtain ⟨hrefused, -, -⟩ :=
    exportAll_failure_eq_none_iff hasty ms (recovering refused found) _ hurl hms
  obtain ⟨hhung, -, -⟩ := exportAll_failure_eq_none_iff hasty ms (recovering .hang found) _ hurl hms
  obtain ⟨-, hstalled, -⟩ := exportAll_failure_eq_none_iff hasty ms
    (recovering refused (.hangs "10.0.0.7:40000")) _ hurl hms
  refine ⟨hrefused.mpr (.inr ⟨nofun, .inr (by decide +kernel), by decide⟩), fun hnone => ?_, ?_⟩
  · rcases hhung.mp hnone with h | ⟨h, -⟩
    · exact h
    · exact h rfl
  · exact (hstalled (.inr ⟨by decide, by decide, by decide +kernel⟩)).trans (by decide +kernel)

/-- A second attempt does not help behind an endpoint that hangs, although it would succeed. -/
theorem exportAll_fails_of_hang :
    let net := recovering .hang (.replies ⟨0, [.a "192.0.2.1"]⟩)
    net.endpoint.advance.next.Accepts ∧
      (hasty.exportAll (Sample.env.usage.metrics 0) .live net).failure
        = some ⟨.transport "http://h" .expired⟩ :=
  ⟨by decide, by decide +kernel⟩

end Exporter

end HitLog

import HitLog.Remote.Exporter

/-!
# Looking names up

Looking a host up sends no request and leaves what anybody is going to answer. What it may take is
time, and that only in one way: the first one who does not answer uses up all the time that the
lookup has. So a lookup takes no time or all of it, by `Network.LookedUp`.

Which of the two it is does not depend on the moment or on how much time there is. Two lookups of
one host in networks whose servers behave alike go alike, by `Resolve.both_resolveFrom`: they have
the same result, and one of them runs out of time exactly if the other does.

## Main definitions

* `Network.Silent`, `Network.LookedUp` — what looking names up can do to a network
* `Network.Alike` — networks in which lookups go alike
* `Exporter.Stalls` — looking an exporter's host up takes time

## Main results

* `Resolve.both_resolveFrom` — related answers give related searches
* `Resolve.lookedUp_resolveFrom` — what resolving a host can do to a network
* `Exporter.clock_resolve` — the moment behind a resolution
-/

namespace HitLog

/-! ### Time -/

namespace Lifetime

variable {life : Lifetime} {now time deadline : Nat}

/-- A caller that waits for a while does not stop waiting now. -/
theorem over?_within (h : life.over? now = none) (htime : 0 < time) :
    (life.within now time).over? now = none := by
  obtain ⟨gaveUp, deadline⟩ := life
  cases gaveUp with
  | true => cases h
  | false =>
    cases deadline with
    | none =>
      have hlater : ¬ now + time ≤ now := by omega
      exact if_neg hlater
    | some moment =>
      have hmoment : ¬ moment ≤ now := by simpa [over?] using h
      have hlater : ¬ min moment (now + time) ≤ now := by omega
      exact if_neg hlater

/-- Whoever waits until its time runs out stops waiting then. -/
theorem over?_deadline (h : life.over? now = none) (hdeadline : life.deadline ≠ none) :
    life.over? (life.deadline.getD now) = some .expired := by
  obtain ⟨gaveUp, _ | moment⟩ := life
  · exact absurd rfl hdeadline
  · cases gaveUp with
    | true => cases h
    | false => simp [over?]

end Lifetime

/-- Somebody who is asked for names does not answer. -/
def Network.Silent (net : Network) : Prop :=
  net.system = .hangs ∨ ∃ server source, net.nameServer server = .hangs source

/-- What looking names up for a caller can do to a network: nothing but a record of it, and to use
up the caller's time if somebody does not answer. -/
structure Network.LookedUp (life : Lifetime) (net net' : Network) : Prop where
  endpoint : net'.endpoint = net.endpoint
  requests : net'.traffic.requests = net.traffic.requests
  nameServers : net'.nameServers = net.nameServers
  system : net'.system = net.system
  clock : net'.clock = net.clock ∨
    net.Silent ∧ life.over? net.clock = none ∧ net'.clock = life.deadline.getD net.clock

theorem Network.nameServer_eq {net net' : Network} (h : net'.nameServers = net.nameServers) :
    net'.nameServer = net.nameServer := by
  funext server
  rw [nameServer, h, ← nameServer]

namespace Network.LookedUp

variable {life : Lifetime} {net net' net'' : Network}

theorem refl (life : Lifetime) (net : Network) : net.LookedUp life net :=
  ⟨rfl, rfl, rfl, rfl, .inl rfl⟩

theorem trans (h : net.LookedUp life net') (h' : net'.LookedUp life net'') :
    net.LookedUp life net'' where
  endpoint := h'.endpoint.trans h.endpoint
  requests := h'.requests.trans h.requests
  nameServers := h'.nameServers.trans h.nameServers
  system := h'.system.trans h.system
  clock := by
    rcases h.clock with hsame | ⟨hsilent, hover, hlater⟩
    · rw [← hsame]
      refine h'.clock.imp_right fun ⟨hsilent, hrest⟩ => ⟨?_, hrest⟩
      rwa [Silent, h.system, nameServer_eq h.nameServers, ← Silent] at hsilent
    · -- time that is used up cannot be used once more
      refine .inr ⟨hsilent, hover, ?_⟩
      rcases h'.clock with hsame | ⟨-, hover', hlater'⟩
      · rw [hsame, hlater]
      · cases hdeadline : life.deadline with
        | none => rw [hlater', hlater, hdeadline]; rfl
        | some moment => rw [hlater', hdeadline]; rfl

/-- A lookup took time exactly if its caller stopped waiting. -/
theorem clock_eq_iff (h : net.LookedUp life net') (hover : life.over? net.clock = none)
    (hdeadline : life.deadline ≠ none) :
    net'.clock = net.clock ↔ life.over? net'.clock = none := by
  constructor
  · intro hsame
    rw [hsame, hover]
  · intro hover'
    refine h.clock.resolve_right fun ⟨_, _, hlater⟩ => ?_
    rw [hlater, Lifetime.over?_deadline hover hdeadline] at hover'
    cases hover'

end Network.LookedUp

/-- Networks in which lookups go alike, each for a caller of its own: the same servers behave in the
same way, and the callers wait or have stopped for the same reason. -/
structure Network.Alike (life life' : Lifetime) (net net' : Network) : Prop where
  nameServers : net'.nameServers = net.nameServers
  system : net'.system = net.system
  ended : life'.over? net'.clock = life.over? net.clock

namespace Resolve

/-! ### Searches that go alike -/

/-- Equal results, with related states behind them. -/
def Both {α σ : Type} (R : σ → σ → Prop) (p q : α × σ) : Prop := q.1 = p.1 ∧ R p.2 q.2

theorem Both.exists_eq {α σ : Type} {R : σ → σ → Prop} {p q : α × σ} (h : Both R p q) :
    ∃ outcome x y, p = (outcome, x) ∧ q = (outcome, y) ∧ R x y :=
  ⟨p.1, p.2, q.2, rfl, Prod.ext h.1 rfl, h.2⟩

section Both

variable {σ : Type} {o : Lookups σ} {R : σ → σ → Prop} {life life' : Lifetime}
  (hexchange : ∀ server name {x y}, R x y →
    Both R (o.exchange server name life x) (o.exchange server name life' y))
  (haskSystem : ∀ host {x y}, R x y →
    Both R (o.askSystem host life x) (o.askSystem host life' y))
  (host : Text)

include hexchange in
theorem both_query (server : Text) {x y : σ} (hxy : R x y) :
    Both R (query o server host life x) (query o server host life' y) := by
  obtain ⟨outcome, x', y', hx, hy, hrest⟩ :=
    (hexchange server (completeName host) hxy).exists_eq
  rw [query, query, hx, hy]
  obtain _ | _ | reply := outcome <;> exact ⟨rfl, hrest⟩

include hexchange haskSystem in
/-- **Related answers give related searches.** -/
theorem both_resolveFrom (servers : List Text) (first : Option Text) {x y : σ} (hxy : R x y) :
    Both R (resolveFrom o host life first x servers)
      (resolveFrom o host life' first y servers) := by
  induction servers generalizing first x y with
  | nil =>
    obtain ⟨outcome, x', y', hx, hy, hrest⟩ := (haskSystem host hxy).exists_eq
    rw [resolveFrom, resolveFrom, hx, hy]
    obtain _ | _ | _ := outcome <;> exact ⟨rfl, hrest⟩
  | cons server servers ih =>
    obtain ⟨outcome, x', y', hx, hy, hrest⟩ := (both_query hexchange host server hxy).exists_eq
    rw [resolveFrom, resolveFrom, hx, hy]
    obtain _ | _ | _ := outcome
    · exact ih _ hrest
    · exact ih _ hrest
    · exact ⟨rfl, hrest⟩

end Both

/-! ### What the network does -/

section Network

variable (host : Text) (life : Lifetime) (net : Network)

theorem lookedUp_askSystem : net.LookedUp life (askSystem host life net).2 := by
  rw [askSystem]
  split
  · exact .refl life net
  dsimp only
  split
  · exact .refl life net
  next hover =>
  split
  · exact .refl life net
  split
  · exact .refl life net
  split
  · exact ⟨rfl, rfl, rfl, rfl, .inl rfl⟩
  · exact ⟨rfl, rfl, rfl, rfl, .inl rfl⟩
  · next hsystem => exact ⟨rfl, rfl, rfl, rfl, .inr ⟨.inl hsystem, hover, rfl⟩⟩

theorem lookedUp_dialled (server : Text) : net.LookedUp life (dialled server life net).2 := by
  rw [dialled]
  split
  · exact .refl life net
  split
  · exact .refl life net
  rename_i host port _
  split
  · exact .refl life net
  split
  · exact .refl life net
  have h := lookedUp_askSystem host life net
  split
  · next hask =>
    rw [hask] at h
    exact h
  · next hask =>
    rw [hask] at h
    exact h

theorem lookedUp_exchange (server : Text) :
    net.LookedUp life (exchange server host life net).2 := by
  have h := lookedUp_dialled life net server
  rw [exchange]
  split
  · next hdialled =>
    rw [hdialled] at h
    exact h
  next hdialled =>
  rw [hdialled] at h
  split
  · exact h
  next hover =>
  split
  · exact h
  · exact h.trans ⟨rfl, rfl, rfl, rfl, .inl rfl⟩
  · next hserver =>
    exact h.trans ⟨rfl, rfl, rfl, rfl, .inr ⟨.inr ⟨server, _, hserver⟩, hover, rfl⟩⟩

/-- **What resolving a host can do to a network.** -/
theorem lookedUp_resolveFrom (servers : List Text) (first : Option Text) :
    net.LookedUp life (resolveFrom Network.lookups host life first net servers).2 := by
  let R (x y : Network) : Prop := y = x ∧ net.LookedUp life x
  have hexchange : ∀ server name {x y}, R x y →
      Both R (exchange server name life x) (exchange server name life y) := by
    rintro server name x _ ⟨rfl, hx⟩
    exact ⟨rfl, rfl, hx.trans (lookedUp_exchange name life _ server)⟩
  have haskSystem : ∀ host {x y}, R x y →
      Both R (askSystem host life x) (askSystem host life y) := by
    rintro host x _ ⟨rfl, hx⟩
    exact ⟨rfl, rfl, hx.trans (lookedUp_askSystem host life _)⟩
  exact (both_resolveFrom (o := Network.lookups) hexchange haskSystem host servers first
    ⟨rfl, .refl life net⟩).2.2

end Network

section Alike

variable {life life' : Lifetime} {net net' : Network}

/-- Somebody who does not answer one caller does not answer the other. -/
theorem alike_waitOut (h : net.Alike life life' net') (hover : life.over? net.clock = none)
    (hlife : life.deadline ≠ none) (hlife' : life'.deadline ≠ none) :
    (net.waitOut life).Alike life life' (net'.waitOut life') where
  nameServers := h.nameServers
  system := h.system
  ended := by
    have hover' : life'.over? net'.clock = none := h.ended.trans hover
    exact (Lifetime.over?_deadline hover' hlife').trans
      (Lifetime.over?_deadline hover hlife).symm

variable (hlife : life.deadline ≠ none) (hlife' : life'.deadline ≠ none)

include hlife hlife' in
theorem both_askSystem (host : Text) (h : net.Alike life life' net') :
    Both (Network.Alike life life') (askSystem host life net) (askSystem host life' net') := by
  rw [askSystem, askSystem]
  split
  · exact ⟨rfl, h⟩
  dsimp only
  rw [h.ended, h.system]
  split
  · exact ⟨rfl, h⟩
  next hover =>
  split
  · exact ⟨rfl, h⟩
  split
  · exact ⟨rfl, h⟩
  have hasked : net.systemAsked.Alike life life' net'.systemAsked :=
    ⟨h.nameServers, h.system, h.ended⟩
  split
  · exact ⟨rfl, hasked⟩
  · exact ⟨rfl, hasked⟩
  · exact ⟨rfl, alike_waitOut hasked hover hlife hlife'⟩

include hlife hlife' in
theorem both_dialled (server : Text) (h : net.Alike life life' net') :
    Both (Network.Alike life life') (dialled server life net) (dialled server life' net') := by
  rw [dialled, dialled, h.nameServers]
  split
  · exact ⟨rfl, h⟩
  split
  · exact ⟨rfl, h⟩
  rename_i host port _
  split
  · exact ⟨rfl, h⟩
  split
  · exact ⟨rfl, h⟩
  obtain ⟨outcome, rest, rest', hask, hask', hrest⟩ :=
    (both_askSystem hlife hlife' host h).exists_eq
  rw [hask, hask']
  cases outcome <;> exact ⟨rfl, hrest⟩

include hlife hlife' in
theorem both_exchange (server name : Text) (h : net.Alike life life' net') :
    Both (Network.Alike life life') (exchange server name life net)
      (exchange server name life' net') := by
  obtain ⟨outcome, rest, rest', hdialled, hdialled', hrest⟩ :=
    (both_dialled hlife hlife' server h).exists_eq
  rw [exchange, exchange, hdialled, hdialled']
  cases outcome with
  | error why => exact ⟨rfl, hrest⟩
  | ok address =>
    dsimp only
    rw [hrest.ended, Network.nameServer_eq hrest.nameServers]
    split
    · exact ⟨rfl, hrest⟩
    next hover =>
    have hqueried : (rest.queried server name).Alike life life' (rest'.queried server name) :=
      ⟨hrest.nameServers, hrest.system, hrest.ended⟩
    split
    · exact ⟨rfl, hrest⟩
    · exact ⟨rfl, hqueried⟩
    · exact ⟨rfl, alike_waitOut hqueried hover hlife hlife'⟩

end Alike

end Resolve

/-! ### An exporter's host -/

namespace Exporter

variable {e : Exporter} {life : Lifetime} {net : Network}

/-- Looking the host up takes time, because it gets to somebody who does not answer. -/
def Stalls (e : Exporter) (net : Network) : Prop :=
  e.needsResolution = true ∧ (Network.outside.resolve e .live net).2.clock ≠ net.clock

theorem time_pos (e : Exporter) : 0 < e.time := Duration.toNatClampNeg_pos e.timeout_pos

theorem nameTime_pos (e : Exporter) : 0 < e.nameTime :=
  Duration.toNatClampNeg_pos e.nameTimeout_pos

theorem lookedUp_resolve (e : Exporter) (life : Lifetime) (net : Network) :
    net.LookedUp (life.within net.clock e.nameTime) (Network.outside.resolve e life net).2 :=
  Resolve.lookedUp_resolveFrom e.host _ net e.config.nameServers none

/-- **The moment behind a resolution** for a caller that waits: all the time for it is used up if
the lookup takes time, and none otherwise. Whether it does can be told from another network in which
the same servers behave in the same way. -/
theorem clock_resolve {net₀ : Network} (hservers : net.nameServers = net₀.nameServers)
    (hsystem : net.system = net₀.system) (hneeds : e.needsResolution = true)
    (hover : life.over? net.clock = none) :
    (e.Stalls net₀ → (Network.outside.resolve e life net).2.clock
        = ((life.within net.clock e.nameTime).deadline).getD net.clock) ∧
      (¬ e.Stalls net₀ → (Network.outside.resolve e life net).2.clock = net.clock) := by
  let here := life.within net.clock e.nameTime
  let there := Lifetime.live.within net₀.clock e.nameTime
  have hhere : here.over? net.clock = none := Lifetime.over?_within hover e.nameTime_pos
  have hthere : there.over? net₀.clock = none := Lifetime.over?_within rfl e.nameTime_pos
  have hends : here.deadline ≠ none := nofun
  have hends₀ : there.deadline ≠ none := nofun
  have halike : net₀.Alike there here net := ⟨hservers, hsystem, hhere.trans hthere.symm⟩
  obtain ⟨-, -, -, hboth⟩ := Resolve.both_resolveFrom (o := Network.lookups)
    (fun server name _ _ => Resolve.both_exchange hends₀ hends server name)
    (fun host _ _ => Resolve.both_askSystem hends₀ hends host)
    e.host e.config.nameServers none halike
  have hlooked := lookedUp_resolve e life net
  have hclock := hlooked.clock_eq_iff hhere hends
  have hclock₀ := (lookedUp_resolve e .live net₀).clock_eq_iff hthere hends₀
  have hsame : (Network.outside.resolve e life net).2.clock = net.clock
      ↔ (Network.outside.resolve e .live net₀).2.clock = net₀.clock := by
    rw [hclock, hclock₀]
    exact iff_of_eq (congrArg (· = none) hboth)
  refine ⟨fun hstalls => ?_, fun hstalls => ?_⟩
  · exact (hlooked.clock.resolve_left (mt hsame.mp hstalls.2)).2.2
  · exact hsame.mpr (Classical.not_not.mp fun h => hstalls ⟨hneeds, h⟩)

/-- No time is taken where everybody answers. -/
theorem not_stalls (h : ¬ net.Silent) : ¬ e.Stalls net :=
  fun hstalls => h ((lookedUp_resolve e .live net).clock.resolve_left hstalls.2).1

end Exporter

end HitLog

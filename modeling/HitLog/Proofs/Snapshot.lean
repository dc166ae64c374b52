import HitLog.Proofs.Binary64
import HitLog.Proofs.ExactlyOnce
import HitLog.Proofs.Independence
import HitLog.Proofs.Numeral
import HitLog.Proofs.Retry
import HitLog.Proofs.Series

/-!
# The log and the export show the same counts

A finalisation reads the counters twice: once as records for the log, once as metrics for the
export. Both readings are of the same tables, so the series that are sent can be told from the
records that go to the log. `Exporter.siteRows` lists what they must show, site by site, in labels
and numbers. Whether the log can be written does not matter to this.

The series of one request are told apart by their labels. Two sites of one unit differ in the site,
since different numbers have different numerals; two units differ in their identifiers, which is
what a valid configuration is needed for; the figures of the process differ in their names.

## Main definitions

* `Exporter.leadingLabels`, `Exporter.siteRows` — the labels and numbers of the sites of records
* `Binary64.SentAs` — how a number arrives
* `Stage.performEach` — actions none of which is stopped by a fault before it

## Main results

* `Exporter.requests_exportAll` — what a call adds to the requests
* `Exporter.nodup_labels` — no two series of a request have the same labels
* `Stage.finalize_series_eq_records` — the series and the block of one finalisation
-/

namespace HitLog

open scoped Text

/-! ### Requests -/

namespace Exporter

/-- What one attempt to send a batch adds to the requests: nothing if the address is not usable. -/
def attempt (text : Text) (batch : List Series) : List Request :=
  match Url.parse text with
  | .ok url => [requestOf url batch]
  | .error _ => []

theorem requests_send (text : Text) (batch : List Series) (life : Lifetime) (net : Network) :
    (send text batch life net).net.traffic.requests
      = net.traffic.requests ++ attempt text batch := by
  cases hurl : Url.parse text with
  | ok url =>
    rw [send_eq hurl, attempt, hurl]
    rfl
  | error cause => simp [send, attempt, hurl]

theorem requests_sendAgain (batch : List Series) (life : Lifetime) (s : State Network) :
    (sendAgain Network.outside batch life s).state.net.traffic.requests
      = s.net.traffic.requests ++ attempt s.exporter.config.url batch := by
  obtain ⟨e, net, events⟩ := s
  have hsend := requests_send e.config.url batch life net
  simp only [sendAgain, outside_write]
  rcases hsent : send e.config.url batch life net with ⟨_ | error, net'⟩ <;>
    rw [hsent] at hsend <;> exact hsend

/-- A batch is sent in one attempt or in two. -/
theorem requests_sendTwice (batch : List Series) (life : Lifetime) (s : State Network) :
    ∃ n, (n = 1 ∨ n = 2) ∧
      (sendTwice Network.outside batch life s).state.net.traffic.requests
        = s.net.traffic.requests
          ++ (List.replicate n (attempt s.exporter.config.url batch)).flatten := by
  obtain ⟨e, net, events⟩ := s
  have hsend := requests_send e.config.url batch life net
  simp only [sendTwice, outside_write]
  rcases hsent : send e.config.url batch life net with ⟨_ | error, net'⟩
  · rw [hsent] at hsend
    exact ⟨1, .inl rfl, by simpa using hsend⟩
  · rw [hsent] at hsend
    refine ⟨2, .inr rfl, ?_⟩
    obtain ⟨hnet, hconfig, -⟩ := refresh_network life ⟨e, net', events ++ [retryEvent error]⟩
    simp only
    rw [requests_sendAgain, hnet, (lookedUp_renewed e life net').requests, hconfig, hsend]
    simp [List.replicate_succ]

/-- **What a call adds to the requests**: one or two of them, all with its series. -/
theorem requests_exportAll (e : Exporter) {ms : List Metric} (hms : ms ≠ []) (life : Lifetime)
    (net : Network) :
    ∃ n, (n = 1 ∨ n = 2) ∧
      (e.exportAll ms life net).state.net.traffic.requests
        = net.traffic.requests
          ++ (List.replicate n (attempt e.config.url (series e.config ms))).flatten := by
  rw [exportAll, call, if_neg (by simpa using hms)]
  dsimp only
  split
  · exact requests_sendTwice _ _ ⟨e, net, []⟩
  · obtain ⟨hnet, hconfig, -⟩ := refresh_network life ⟨e, net, []⟩
    have hrequests := requests_sendTwice (series e.config ms)
      (life.within (refresh Network.outside life ⟨e, net, []⟩).net.clock e.time)
      (refresh Network.outside life ⟨e, net, []⟩)
    rw [hconfig] at hrequests
    have hlooked : (refresh Network.outside life ⟨e, net, []⟩).net.traffic.requests
        = net.traffic.requests := by
      rw [hnet]
      exact (lookedUp_renewed e life net).requests
    rw [hlooked] at hrequests
    exact hrequests

/-- What one attempt or two add to the requests. -/
theorem flatten_replicate_attempt (text : Text) (batch : List Series) {n : Nat}
    (hn : n = 1 ∨ n = 2) :
    let sent := (List.replicate n (attempt text batch)).flatten
    sent.length ≤ 2 ∧ (∀ r ∈ sent, r.series = batch.map onWire) ∧
      (sent = [] ↔ ∃ cause, Url.parse text = .error cause) := by
  cases hurl : Url.parse text with
  | ok url => rcases hn with rfl | rfl <;> simp [attempt, hurl, requestOf, List.replicate_succ]
  | error cause => rcases hn with rfl | rfl <;> simp [attempt, hurl, List.replicate_succ]

/-! ### Series of records -/

/-- The labels that the series of a metric begins with: the full name, the instance, the job, and
the labels of the export in some order. -/
def leadingLabels (config : ExportConfig) (instanceName name : Text)
    (custom : List (Text × Text)) : List (Text × Text) :=
  [(Text.ofString "__name__", config.namespace_ ++ "_" ++ config.subsystem ++ "_" ++ name),
    (Text.ofString "instance", instanceName), (Text.ofString "job", config.service)] ++ custom

/-- The labels and the number of each site of each record, in order. -/
def siteRows (leading : List (Text × Text)) (records : List Record) :
    List (List (Text × Text) × Binary64) :=
  records.flatMap fun r => r.counts.zipIdx.map fun (c, i) =>
    (leading ++ [(Text.ofString "site", Numeral.decimal i), (Text.ofString "unit", r.identifier)],
      .ofInt64 c)

/-- The series of one site: behind the labels of the export stand the site and the unit. -/
def siteSeries (config : ExportConfig) (now : Int64) (unit : Text) (site : Nat) (count : Int64) :
    Series where
  labels :=
    (Text.ofString "__name__", fullName config "site_hits") ::
    (Text.ofString "instance", config.instanceName) ::
    (Text.ofString "job", config.service) ::
      (config.labels.sorted ++
        [(Text.ofString "site", Numeral.decimal site), (Text.ofString "unit", unit)])
  value := .ofInt64 count
  time := now

/-- The series of a record, one for each count in order. -/
def recordSeries (config : ExportConfig) (now : Int64) (r : Record) : List Series :=
  r.counts.zipIdx.map fun (c, i) => siteSeries config now r.identifier i c

/-- The labels of a site, by name. -/
theorem sorted_siteLabels (unit site : Text) :
    (Labels.ofList [(Text.ofString "unit", unit), (Text.ofString "site", site)]).sorted
      = [(Text.ofString "site", site), (Text.ofString "unit", unit)] := by
  have hpairs : (Labels.ofList [(Text.ofString "unit", unit), (Text.ofString "site", site)]).pairs
      = [(Text.ofString "unit", unit), (Text.ofString "site", site)] := rfl
  have hle : Text.le (Text.ofString "unit") (Text.ofString "site") = false := by decide
  rw [Labels.sorted, hpairs]
  simp [List.mergeSort, List.MergeSort.Internal.splitInTwo, hle]

theorem seriesOf_siteMetric (config : ExportConfig) (unit : Text) (now : Int64) (site : Nat)
    (count : Int64) :
    seriesOf config (Table.siteMetric unit now site count)
      = siteSeries config now unit site count := by
  simp only [seriesOf, seriesLabels, siteSeries, Table.siteMetric, sorted_siteLabels]

/-- **The series of a session's sites are those of its records.** -/
theorem series_siteMetrics (config : ExportConfig) (s : Session) (now : Int64) :
    series config (s.siteMetrics now) = s.records.flatMap (recordSeries config now) := by
  rw [series, Session.siteMetrics, Session.records, List.map_flatMap, List.flatMap_map]
  refine List.flatMap_congr fun t _ => ?_
  simp only [Table.metrics, recordSeries, Table.record, List.map_map]
  refine List.map_congr_left fun x _ => ?_
  exact seriesOf_siteMetric config t.identifier now x.2 x.1

/-! ### Series are told apart by their labels -/

theorem siteSeries_labels_inj {config : ExportConfig} {now : Int64} {unit unit' : Text}
    {site site' : Nat} {count count' : Int64}
    (h : (siteSeries config now unit site count).labels
      = (siteSeries config now unit' site' count').labels) : unit = unit' ∧ site = site' := by
  simp only [siteSeries, List.cons.injEq, true_and, List.append_cancel_left_eq, Prod.mk.injEq,
    and_true] at h
  exact ⟨h.2, Numeral.decimal_injective h.1⟩

theorem name_eq_of_labels {config : ExportConfig} {m m' : Metric}
    (h : (seriesOf config m).labels = (seriesOf config m').labels) : m.name = m'.name := by
  simp only [seriesOf, seriesLabels, fullName, List.cons.injEq, Prod.mk.injEq, true_and,
    List.append_cancel_left_eq] at h
  exact h.1

theorem nodup_labels_recordSeries (config : ExportConfig) (now : Int64) {records : List Record}
    (h : (records.map Record.identifier).Nodup) :
    ((records.flatMap (recordSeries config now)).map Series.labels).Nodup := by
  rw [List.map_flatMap, List.nodup_flatMap]
  refine ⟨fun r _ => ?_, (List.pairwise_map.mp h).imp fun {r r'} hne labels hr hr' => ?_⟩
  · have hsites : (r.counts.zipIdx.map Prod.snd).Nodup := by
      rw [List.zipIdx_map_snd]
      exact List.nodup_range'
    rw [recordSeries, List.map_map]
    exact List.pairwise_map.mpr ((List.pairwise_map.mp hsites).imp fun hsite hlabels =>
      hsite (siteSeries_labels_inj hlabels).2)
  · simp only [recordSeries, List.map_map, List.mem_map, Function.comp_apply] at hr hr'
    obtain ⟨x, -, rfl⟩ := hr
    obtain ⟨x', -, hlabels⟩ := hr'
    exact hne (siteSeries_labels_inj hlabels).1.symm

end Exporter

/-- The figures of a process have names of their own. -/
theorem Usage.nodup_names (u : Usage) (now : Int64) :
    (Text.ofString "site_hits" :: (u.metrics now).map Metric.name).Nodup := by
  rw [metrics]
  split <;> simp only [List.map_append, List.map_cons, List.map_nil, gauge] <;> decide

namespace Exporter

/-- **No two series of a request have the same labels**, be they of sites or of the process. -/
theorem nodup_labels (config : ExportConfig) (now : Int64) {records : List Record}
    (h : (records.map Record.identifier).Nodup) (u : Usage) :
    ((records.flatMap (recordSeries config now) ++ series config (u.metrics now)).map
      Series.labels).Nodup := by
  obtain ⟨hother, hnames⟩ := List.nodup_cons.mp (u.nodup_names now)
  rw [List.map_append, List.nodup_append]
  refine ⟨nodup_labels_recordSeries config now h, ?_, ?_⟩
  · rw [series, List.map_map]
    exact List.pairwise_map.mpr ((List.pairwise_map.mp hnames).imp fun hname hlabels =>
      hname (name_eq_of_labels hlabels))
  · rintro labels hsite _ hgauge rfl
    simp only [recordSeries, series, List.mem_map, List.mem_flatMap] at hsite hgauge
    obtain ⟨_, ⟨r, -, x, -, rfl⟩, rfl⟩ := hsite
    obtain ⟨_, ⟨m, hm, rfl⟩, hlabels⟩ := hgauge
    rw [← seriesOf_siteMetric] at hlabels
    exact hother (List.mem_map.mpr ⟨m, hm, name_eq_of_labels hlabels⟩)

end Exporter

/-! ### Series on their way -/

/-- How a number arrives: with the same bits, but a negative zero without its sign. -/
def Binary64.SentAs (x y : Binary64) : Prop :=
  y = x ∨ (x.bits = 0x8000000000000000 ∧ y.bits = 0)

theorem Binary64.sentAs_dropZeroSign (x : Binary64) : x.SentAs x.dropZeroSign := by
  rw [SentAs, dropZeroSign]
  split
  · next h => exact .inr ⟨h, rfl⟩
  · exact .inl rfl

/-- A figure of a process is of its moment and has no labels. -/
theorem Usage.mem_metrics {u : Usage} {now : Int64} {m : Metric} (h : m ∈ u.metrics now) :
    m.labels = .empty ∧ m.time = now := by
  have hgauge : ∃ name value, m = gauge now name value := by
    rw [metrics] at h
    split at h <;> simp only [List.mem_append, List.mem_cons, List.not_mem_nil, or_false] at h
    · rcases h with (rfl | rfl | rfl | rfl | rfl | rfl) | rfl <;> exact ⟨_, _, rfl⟩
    · rcases h with rfl | rfl | rfl | rfl | rfl | rfl <;> exact ⟨_, _, rfl⟩
  obtain ⟨name, value, rfl⟩ := hgauge
  exact ⟨rfl, rfl⟩

namespace Exporter

section Travelling

variable (config : ExportConfig) (hostName : Text) (now : Int64)

/-- The labels in front of all others, by the exporter that a configuration makes. -/
theorem leadingLabels_make (name : Text) :
    leadingLabels config (if config.instanceName = [] then hostName else config.instanceName) name
        config.labels.sorted
      = (Text.ofString "__name__", fullName (make config hostName).config name) ::
        (Text.ofString "instance", (make config hostName).config.instanceName) ::
        (Text.ofString "job", (make config hostName).config.service) ::
          (make config hostName).config.labels.sorted := by
  simp [leadingLabels, fullName, make]

/-- **The series of the sites, one by one**, as they travel. A count keeps its number, because it is
never negative zero. -/
theorem forall₂_sites_onWire (records : List Record) :
    let instanceName := if config.instanceName = [] then hostName else config.instanceName
    List.Forall₂ (fun row x => x.labels = row.1 ∧ x.value = row.2 ∧
        x.milliseconds = now / 1000000)
      (siteRows (leadingLabels config instanceName "site_hits" config.labels.sorted) records)
      ((records.flatMap (recordSeries (make config hostName).config now)).map onWire) := by
  intro instanceName
  have hrows : siteRows (leadingLabels config instanceName "site_hits" config.labels.sorted) records
      = (records.flatMap (recordSeries (make config hostName).config now)).map
          fun x => (x.labels, x.value) := by
    rw [siteRows, List.map_flatMap, leadingLabels_make]
    refine List.flatMap_congr fun r _ => ?_
    rw [recordSeries, List.map_map]
    rfl
  rw [hrows, List.forall₂_map_left_iff, List.forall₂_map_right_iff, List.forall₂_same]
  intro x hx
  obtain ⟨r, -, hx⟩ := List.mem_flatMap.mp hx
  obtain ⟨⟨c, i⟩, -, rfl⟩ := List.mem_map.mp hx
  exact ⟨rfl, Binary64.dropZeroSign_ofInt64 c, rfl⟩

/-- **The series of the process, one by one**, as they travel. -/
theorem forall₂_figures_onWire (u : Usage) :
    let instanceName := if config.instanceName = [] then hostName else config.instanceName
    List.Forall₂ (fun m x =>
        x.labels = leadingLabels config instanceName m.name config.labels.sorted ∧
          m.value.SentAs x.value ∧ x.milliseconds = now / 1000000)
      (u.metrics now) ((series (make config hostName).config (u.metrics now)).map onWire) := by
  intro instanceName
  rw [series, List.map_map, List.forall₂_map_right_iff, List.forall₂_same]
  intro m hm
  obtain ⟨hlabels, htime⟩ := Usage.mem_metrics hm
  have hempty : m.labels.sorted = [] := by
    rw [hlabels]
    exact List.mergeSort_nil
  refine ⟨?_, m.value.sentAs_dropZeroSign, by rw [← htime]; rfl⟩
  simp only [Function.comp_apply, onWire, seriesOf, seriesLabels, instanceName, leadingLabels_make,
    hempty, List.append_nil]

end Travelling

theorem map_labels_of_forall₂ {α : Type} {f : α → List (Text × Text)}
    {P : α → SentSeries → Prop} {rows : List α} {xs : List SentSeries}
    (h : List.Forall₂ (fun row x => x.labels = f row ∧ P row x) rows xs) :
    xs.map SentSeries.labels = rows.map f := by
  induction h with
  | nil => rfl
  | cons h _ ih => rw [List.map_cons, List.map_cons, h.1, ih]

/-- Travelling leaves labels as they are, so that series are told apart behind it. -/
theorem nodup_labels_onWire (config : ExportConfig) (now : Int64) {records : List Record}
    (h : (records.map Record.identifier).Nodup) (u : Usage) :
    (((records.flatMap (recordSeries config now) ++ series config (u.metrics now)).map
      onWire).map SentSeries.labels).Nodup := by
  rw [List.map_map]
  exact nodup_labels config now h u

end Exporter

/-! ### Finalising -/

/-- The first finalisation leaves the network as the export of all metrics does. -/
theorem Session.network_finalize {s : Session} {env : Environment} {w : World}
    (h : s.verdict = none) :
    (s.finalize env w).world.network = (s.exportMetrics env w.network).net := by
  rw [finalize_of_none h, finalizeNow, World.network_tell]

theorem Session.requests_exportMetrics {s : Session} {e : Exporter} (h : s.exporter = some e)
    (env : Environment) (net : Network) :
    ∃ n, (n = 1 ∨ n = 2) ∧
      (s.exportMetrics env net).net.traffic.requests
        = net.traffic.requests
          ++ (List.replicate n (Exporter.attempt e.config.url
            (s.records.flatMap (Exporter.recordSeries e.config env.now)
              ++ Exporter.series e.config (env.usage.metrics env.now)))).flatten := by
  have hms : s.siteMetrics env.now ++ env.usage.metrics env.now ≠ [] := by
    simp [Usage.metrics]
  obtain ⟨n, hn, hrequests⟩ := e.requests_exportAll hms (s.lifetime net) net
  refine ⟨n, hn, ?_⟩
  rw [← Exporter.series_siteMetrics, Exporter.series, Exporter.series, ← List.map_append]
  simp only [exportMetrics, h]
  exact hrequests

namespace Stage

/-- Actions in order, none of which is stopped by a fault before it. -/
def performEach (env : Environment) (s : Stage) (as : List Action) : Stage :=
  as.foldl (fun s a => (s.perform env a).2) s

/-- Ordinary actions that do not finalise change counters and nothing else. -/
theorem performEach_eq (env : Environment) {s : Stage} {as : List Action}
    (h : ∀ a ∈ as, a.Ordinary ∧ a.finalizes s.hooked = false) :
    ∃ tables, s.performEach env as = s.withTables tables ∧
      (s.session.withTables tables).shape = s.session.shape := by
  induction as generalizing s with
  | nil => exact ⟨s.session.tables, rfl, rfl⟩
  | cons a as ih =>
    obtain ⟨ha, hf⟩ := h a (by simp)
    obtain ⟨⟨tables, hperform, hshape⟩, -⟩ := perform_of_not_finalizes env hf ha
    have hrest : ∀ b ∈ as, b.Ordinary ∧ b.finalizes (s.withTables tables).hooked = false :=
      fun b hb => h b (by simp [hb])
    obtain ⟨tables', heach, hshape'⟩ := ih hrest
    refine ⟨tables', ?_, hshape'.trans hshape⟩
    rw [performEach, List.foldl_cons, hperform]
    exact heach

/-- **The series and the block of one finalisation show the same counts.**

Let a session be started with an export, and let there be any actions that do not finalise it. The
first finalisation appends the lines of the session's records to the log, if that can be written.
The records are those of the units in order, with a count for each site.

One request is made or two, and none exactly if the address is not usable. The series of each
request are these: for each record and each of its counts, in order, one named for site hits whose
labels behind those of the export are the site in decimal and the identifier of the unit, with the
count as its number; then one for each figure of the process, with no labels but the leading ones.
All of them are of the moment of the finalisation, and no two have the same labels. -/
theorem finalize_series_eq_records (env : Environment) (config : Config) (session : Session)
    (hooked : Bool) (w : World) (as : List Action)
    (hstart : Session.start config env.hostName = .ok session)
    (hexport : config.exporting.enabled = true)
    (has : ∀ a ∈ as, a.Ordinary ∧ a.finalizes hooked = false) :
    let s := Stage.performEach env ⟨session, hooked, w⟩ as
    let records := s.session.records
    let world := (s.finalize env).2.world
    let exporting := config.exporting
    let instanceName :=
      if exporting.instanceName = [] then env.hostName else exporting.instanceName
    records.map (fun r => (r.identifier, r.counts.length))
        = config.units.map (fun u => (u.identifier, u.sites.toNatClampNeg)) ∧
      (world.files = (Flush.flush config.logPath records w.files).files ∧
        ∀ place content, w.files.openForAppend config.logPath = .ok (.file place content) →
          world.files.content? config.logPath = some (content ++ records.flatMap Record.line)) ∧
      ∃ sent custom, world.network.traffic.requests = w.network.traffic.requests ++ sent ∧
        sent.length ≤ 2 ∧ (sent = [] ↔ ∃ cause, Url.parse exporting.url = .error cause) ∧
        custom.Perm exporting.labels.pairs ∧
        ∀ r ∈ sent, ∃ sites figures, r.series = sites ++ figures ∧
          List.Forall₂ (fun row x => x.labels = row.1 ∧ x.value = row.2 ∧
              x.milliseconds = env.now / 1000000)
            (Exporter.siteRows (Exporter.leadingLabels exporting instanceName "site_hits" custom)
              records) sites ∧
          List.Forall₂ (fun m x =>
              x.labels = Exporter.leadingLabels exporting instanceName m.name custom ∧
                m.value.SentAs x.value ∧ x.milliseconds = env.now / 1000000)
            (env.usage.metrics env.now) figures ∧
          (r.series.map SentSeries.labels).Nodup := by
  intro s records world exporting instanceName
  obtain ⟨hvalid, -, rfl⟩ := Session.start_eq_ok_iff.mp hstart
  obtain ⟨tables, hs, hshape⟩ := performEach_eq env
    (s := ⟨Session.initial config env.hostName, hooked, w⟩) has
  have hs : s = _ := hs
  have hverdict : s.session.verdict = none := by rw [hs]; rfl
  have hexporter : s.session.exporter = some (.make config.exporting env.hostName) := by
    rw [hs]
    exact if_pos hexport
  have hworld : s.world = w := by rw [hs]; rfl
  have hpath : s.session.config.logPath = config.logPath := by rw [hs]; rfl
  have hunits : records.map (fun r => (r.identifier, r.counts.length))
      = config.units.map (fun u => (u.identifier, u.sites.toNatClampNeg)) := by
    rw [← Session.shape_initial env.hostName, ← hshape]
    simp only [records, hs, Session.records, List.map_map]
    rfl
  have hfiles : world.files = (Flush.flush config.logPath records w.files).files := by
    rw [← hpath, ← hworld]
    exact Session.files_finalize hverdict
  refine ⟨hunits, ⟨hfiles, fun place content hopen => ?_⟩, ?_⟩
  · have hne : records ≠ [] := by
      intro hnil
      rw [hnil] at hunits
      exact hvalid.units (List.map_eq_nil_iff.mp hunits.symm)
    rw [hfiles, Flush.files_flush_of_file hne hopen, FileSystem.content?_set hopen]
  · have hnetwork : world.network = (s.session.exportMetrics env w.network).net := by
      rw [← hworld]
      exact Session.network_finalize hverdict
    have hids : records.map Record.identifier = config.units.map UnitSpec.identifier := by
      have hfirst := congrArg (List.map Prod.fst) hunits
      rwa [List.map_map, List.map_map] at hfirst
    obtain ⟨n, hn, hrequests⟩ := Session.requests_exportMetrics hexporter env w.network
    obtain ⟨hlength, hseries, hnil⟩ := Exporter.flatten_replicate_attempt
      (Exporter.make exporting env.hostName).config.url
      (records.flatMap (Exporter.recordSeries (Exporter.make exporting env.hostName).config env.now)
        ++ Exporter.series (Exporter.make exporting env.hostName).config
          (env.usage.metrics env.now)) hn
    refine ⟨_, exporting.labels.sorted, hnetwork ▸ hrequests, hlength, hnil,
      exporting.labels.perm_sorted, fun r hr => ?_⟩
    rw [hseries r hr]
    exact ⟨_, _, List.map_append,
      Exporter.forall₂_sites_onWire exporting env.hostName env.now records,
      Exporter.forall₂_figures_onWire exporting env.hostName env.now env.usage,
      Exporter.nodup_labels_onWire _ env.now (hids ▸ hvalid.distinct) env.usage⟩

/-- Two units with an export that has a label of its own. -/
def labelledConfig : Config :=
  { Sample.config with
    exporting := { ExportConfig.default with
      url := "http://h", namespace_ := "ns", subsystem := "sub", service := "svc"
      labels := .ofList [("env", "ci")] } }

/-- A world whose endpoint refuses everything. -/
def refusingWorld : World :=
  { Sample.world with network := { Sample.network with endpoint := ⟨.status 500 [], []⟩ } }

/-- A session of these units in that world, with some counts. One of the sites is not there. -/
def labelledStage : Stage :=
  Stage.performEach Sample.env ⟨Session.initial labelledConfig "host", false, refusingWorld⟩
    [.table "u" (.add 1 3), .table "u" (.inc 7), .table "v" (.inc 0)]

/-- In each of two requests the series of the three sites stand before those of the process. -/
theorem finalize_series_eq_records_of_two_units :
    let labelled (name : Text) (own : List (Text × Text)) : List (Text × Text) :=
      ("__name__", name) :: ("instance", "host") :: ("job", "svc") :: ("env", "ci") :: own
    let requests := (labelledStage.finalize Sample.env).2.world.network.traffic.requests
    requests.length = 2 ∧ ∀ r ∈ requests,
      r.series.map SentSeries.labels =
        [labelled "ns_sub_site_hits" [("site", "0"), ("unit", "u")],
          labelled "ns_sub_site_hits" [("site", "1"), ("unit", "u")],
          labelled "ns_sub_site_hits" [("site", "0"), ("unit", "v")],
          labelled "ns_sub_run_duration_seconds" [], labelled "ns_sub_memory_heap_alloc_bytes" [],
          labelled "ns_sub_memory_sys_bytes" [], labelled "ns_sub_gc_runs_total" [],
          labelled "ns_sub_gc_pause_total_seconds" [], labelled "ns_sub_goroutines_num" []] ∧
      (r.series.take 3).map (·.value.bits) = [0, 0x4008000000000000, 0x3ff0000000000000] := by
  intro labelled requests
  have hvalid : labelledConfig.violation? = none := by decide +kernel
  have hroom : labelledConfig.Roomy := by decide +kernel
  have hstart : Session.start labelledConfig Sample.env.hostName
      = .ok (Session.initial labelledConfig "host") :=
    Session.start_eq_ok (Config.violation?_eq_none_iff.mp hvalid) hroom _
  obtain ⟨-, -, sent, custom, hrequests, -, -, hcustom, hseries⟩ :=
    finalize_series_eq_records Sample.env labelledConfig _ false refusingWorld
      [.table "u" (.add 1 3), .table "u" (.inc 7), .table "v" (.inc 0)] hstart (by decide +kernel)
      (by simp [Action.Ordinary, Action.finalizes])
  rw [← labelledStage] at hrequests hseries
  rw [show refusingWorld.network.traffic.requests = [] from rfl, List.nil_append] at hrequests
  obtain rfl : custom = [(Text.ofString "env", Text.ofString "ci")] :=
    List.perm_singleton.mp hcustom
  have hrecords : labelledStage.session.records = [⟨"u", [0, 3]⟩, ⟨"v", [1]⟩] := by decide +kernel
  refine ⟨by decide +kernel, fun r hr => ?_⟩
  obtain ⟨sites, figures, hsplit, hsites, hfigures, -⟩ := hseries r (by rw [← hrequests]; exact hr)
  rw [hrecords] at hsites
  rw [hsplit]
  refine ⟨?_, ?_⟩
  · rw [List.map_append, Exporter.map_labels_of_forall₂ hsites,
      Exporter.map_labels_of_forall₂ hfigures]
    decide +kernel
  · obtain ⟨x, xs, hx, hxs, rfl⟩ := List.forall₂_cons_left_iff.mp hsites
    obtain ⟨y, ys, hy, hys, rfl⟩ := List.forall₂_cons_left_iff.mp hxs
    obtain ⟨z, zs, hz, -, rfl⟩ := List.forall₂_cons_left_iff.mp hys
    simp only [List.cons_append, List.take, List.map, hx.2.1, hy.2.1, hz.2.1]
    decide +kernel

end Stage

end HitLog

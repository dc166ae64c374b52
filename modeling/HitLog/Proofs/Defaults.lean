import HitLog.Config.Draft
import HitLog.Proofs.Duration
import HitLog.Proofs.Violation
import HitLog.Remote.Exporter

/-!
# Configurations over the defaults

What a document says is laid over the default configuration field by field, and there are three
rules for it. An empty text gives way to the default. So does a time that is not positive, and only
a text that is there and is no duration is refused. Labels are put into the map of the default,
which is empty.

The check of a configuration and an exporter made from it look at some of these fields again. For
them a configuration that was read is complete (`Config.Complete`): what is left to be wrong with it
are its units, and no time has to be replaced.

How documents are decoded does not matter for any of this, so it is left open.

## Main definitions

* `Config.NoDuration`, `Config.TimeOf` — a time that is refused, and the time that is taken
* `Config.Draft.Over` — a configuration as a draft over the defaults
* `Config.Draft.Outcome` — what can become of a draft
* `Config.Complete` — nothing is missing but perhaps units

## Main results

* `Labels.insertAll_empty` — a map that is put into the empty one stays as it is
* `Config.Draft.outcome_toConfig` — every draft has one of the outcomes
* `Config.Complete.violation?_eq_some_iff` — what the check of such a configuration reports
* `Config.parseWith_over_defaults` — what becomes of a document
-/

namespace HitLog

/-! ### Labels -/

namespace Labels

theorem putPair_of_not_mem {name value : Text} {ps : List (Text × Text)}
    (h : name ∉ ps.map Prod.fst) : putPair name value ps = ps ++ [(name, value)] := by
  induction ps with
  | nil => rfl
  | cons p ps ih =>
    obtain ⟨hp, hps⟩ : name ≠ p.1 ∧ name ∉ ps.map Prod.fst := by simpa using h
    rw [putPair, if_neg (Ne.symm hp), ih hps, List.cons_append]

/-- New names are put behind the others. -/
theorem pairs_insertAll {l : Labels} {ps : List (Text × Text)}
    (h : ((l.pairs ++ ps).map Prod.fst).Nodup) : (l.insertAll ps).pairs = l.pairs ++ ps := by
  induction ps generalizing l with
  | nil => rw [List.append_nil]; rfl
  | cons p ps ih =>
    have hnew : p.1 ∉ l.pairs.map Prod.fst := by
      rw [List.map_append, List.map_cons, List.nodup_append] at h
      exact fun hmem => h.2.2 _ hmem _ (by simp) rfl
    have hpairs : (l.insert p.1 p.2).pairs = l.pairs ++ [p] := putPair_of_not_mem hnew
    have hrest : (((l.insert p.1 p.2).pairs ++ ps).map Prod.fst).Nodup := by
      rwa [hpairs, List.append_assoc, List.singleton_append]
    show ((l.insert p.1 p.2).insertAll ps).pairs = _
    rw [ih hrest, hpairs, List.append_assoc, List.singleton_append]

/-- **A map that is put into the empty one stays as it is.** -/
theorem insertAll_empty (l : Labels) : empty.insertAll l.pairs = l := by
  have hpairs : (empty.insertAll l.pairs).pairs = l.pairs := pairs_insertAll l.distinct
  obtain ⟨ps, hps⟩ := l
  rwa [← Labels.mk.injEq] at hpairs

end Labels

namespace Config

open scoped Text

/-! ### Times -/

/-- A text that is there and is no duration. -/
def NoDuration (t : Text) : Prop := t ≠ [] ∧ ¬ ∃ d, Duration.Spells t d

/-- The time that a text stands for: its duration if that is positive, and the default if it is not
or if there is no text. -/
inductive TimeOf (t : Text) (default_ : Int64) : Int64 → Prop where
  | given {d : Int64} (h : Duration.Spells t d) (hd : 0 < d) : TimeOf t default_ d
  | missing (h : t = []) : TimeOf t default_ default_
  | small {d : Int64} (h : Duration.Spells t d) (hd : d ≤ 0) : TimeOf t default_ default_

theorem TimeOf.pos {t : Text} {default_ d : Int64} (h : TimeOf t default_ d)
    (hdefault : 0 < default_) : 0 < d := by
  cases h with
  | given _ hd => exact hd
  | missing => exact hdefault
  | small => exact hdefault

/-- **An entry that should be a duration** is refused if it is none, and else gives its time. -/
theorem durationEntry_cases (entry t : Text) (default_ : Int64) :
    (NoDuration t ∧ ∃ cause, durationEntry entry t default_ = .error (.duration entry cause)) ∨
      (¬ NoDuration t ∧ ∃ d, durationEntry entry t default_ = .ok d ∧ TimeOf t default_ d) := by
  rw [durationEntry]
  by_cases ht : t = []
  · rw [if_pos (by simpa using ht)]
    exact .inr ⟨fun h => h.1 ht, default_, rfl, .missing ht⟩
  rw [if_neg (by simpa using ht)]
  cases hparse : Duration.parse t with
  | error cause =>
    refine .inl ⟨⟨ht, ?_⟩, cause, rfl⟩
    rintro ⟨d, hd⟩
    rw [Duration.parse_eq_ok_iff.mpr hd] at hparse
    cases hparse
  | ok d =>
    have hspells := Duration.parse_eq_ok_iff.mp hparse
    refine .inr ⟨fun h => h.2 ⟨d, hspells⟩, Duration.orDefault d default_, rfl, ?_⟩
    rw [Duration.orDefault]
    split
    · next hd => exact .small hspells hd
    · next hd => exact .given hspells (Int64.not_le.mp hd)

/-! ### Drafts -/

namespace Draft

/-- A configuration as a draft over the defaults. -/
structure Over (d : Draft) (c : Config) : Prop where
  logPath : c.logPath
    = if d.logPath = [] then Text.ofString "instrumentation_info.txt" else d.logPath
  units : c.units = d.units
  url : c.exporting.url = d.exporting.url
  namespace_ : c.exporting.namespace_
    = if d.exporting.namespace_ = [] then Text.ofString "bench" else d.exporting.namespace_
  subsystem : c.exporting.subsystem
    = if d.exporting.subsystem = [] then Text.ofString "sites" else d.exporting.subsystem
  service : c.exporting.service
    = if d.exporting.service = [] then Text.ofString "benchmark" else d.exporting.service
  instanceName : c.exporting.instanceName = d.exporting.instanceName
  labels : c.exporting.labels = d.exporting.labels
  timeout : TimeOf d.exporting.timeout 15000000000 c.exporting.timeout
  nameServers : c.exporting.nameServers = d.exporting.nameServers
  nameTimeout : TimeOf d.exporting.nameTimeout 800000000 c.exporting.nameTimeout
  journaling : c.journaling = false

/-- What can become of a draft. The time of an export is looked at first. -/
inductive Outcome (d : Draft) : Loaded → Prop where
  | timeout (h : NoDuration d.exporting.timeout) (cause : Duration.Error) :
      Outcome d ⟨.zero, some (.duration (Text.ofString "export.timeout") cause)⟩
  | nameTimeout (htimeout : ¬ NoDuration d.exporting.timeout)
      (h : NoDuration d.exporting.nameTimeout) (cause : Duration.Error) :
      Outcome d ⟨.zero, some (.duration (Text.ofString "export.dns_timeout") cause)⟩
  | config (htimeout : ¬ NoDuration d.exporting.timeout)
      (hnameTimeout : ¬ NoDuration d.exporting.nameTimeout) {c : Config} (h : d.Over c) :
      Outcome d ⟨c, none⟩

theorem orDefault_eq (t default_ : Text) :
    orDefault t default_ = if t = [] then default_ else t := by
  simp only [orDefault, List.isEmpty_iff]

/-- **Every draft has one of the outcomes.** -/
theorem outcome_toConfig (d : Draft) : d.Outcome (.ofExcept d.toConfig) := by
  rw [toConfig]
  obtain ⟨htimeout, cause, h⟩ | ⟨htimeout, timeout, h, htime⟩ := durationEntry_cases
    (Text.ofString "export.timeout") d.exporting.timeout ExportConfig.defaultTimeout
  · rw [h]
    exact .timeout htimeout cause
  rw [h]
  show d.Outcome (.ofExcept (durationEntry _ _ _ >>= _))
  obtain ⟨hname, cause, h⟩ | ⟨hname, nameTimeout, h, hnameTime⟩ := durationEntry_cases
    (Text.ofString "export.dns_timeout") d.exporting.nameTimeout ExportConfig.defaultNameTimeout
  · rw [h]
    exact .nameTimeout htimeout hname cause
  rw [h]
  exact .config htimeout hname {
    logPath := orDefault_eq _ _
    units := rfl
    url := rfl
    namespace_ := orDefault_eq _ _
    subsystem := orDefault_eq _ _
    service := orDefault_eq _ _
    instanceName := rfl
    labels := Labels.insertAll_empty _
    timeout := htime
    nameServers := rfl
    nameTimeout := hnameTime
    journaling := rfl }

namespace Outcome

variable {d : Draft} {r : Loaded}

theorem ne_document (h : d.Outcome r) (cause : Text) : r.error? ≠ some (.document cause) := by
  cases h <;> simp

theorem exists_error_iff (h : d.Outcome r) : (∃ e, r.error? = some e) ↔
    NoDuration d.exporting.timeout ∨ NoDuration d.exporting.nameTimeout := by
  cases h with
  | timeout htimeout cause => exact iff_of_true ⟨_, rfl⟩ (.inl htimeout)
  | nameTimeout _ hname cause => exact iff_of_true ⟨_, rfl⟩ (.inr hname)
  | config htimeout hname _ => exact iff_of_false (by simp) (not_or.mpr ⟨htimeout, hname⟩)

/-- The two entries have different names, so that an error tells which of the times is refused. -/
theorem entries_ne : Text.ofString "export.timeout" ≠ Text.ofString "export.dns_timeout" := by
  decide

theorem exists_timeout_iff (h : d.Outcome r) :
    (∃ cause, r.error? = some (.duration (Text.ofString "export.timeout") cause)) ↔
      NoDuration d.exporting.timeout := by
  cases h with
  | timeout htimeout cause => exact iff_of_true ⟨cause, rfl⟩ htimeout
  | nameTimeout htimeout _ cause => exact iff_of_false (by simp [entries_ne.symm]) htimeout
  | config htimeout _ _ => exact iff_of_false (by simp) htimeout

theorem exists_nameTimeout_iff (h : d.Outcome r) :
    (∃ cause, r.error? = some (.duration (Text.ofString "export.dns_timeout") cause)) ↔
      ¬ NoDuration d.exporting.timeout ∧ NoDuration d.exporting.nameTimeout := by
  cases h with
  | timeout htimeout cause => exact iff_of_false (by simp [entries_ne]) fun hnot => hnot.1 htimeout
  | nameTimeout htimeout hname cause => exact iff_of_true ⟨cause, rfl⟩ ⟨htimeout, hname⟩
  | config _ hname _ => exact iff_of_false (by simp) fun hnot => hname hnot.2

end Outcome

end Draft

/-! ### Complete configurations -/

/-- Nothing is missing but perhaps units. -/
structure Complete (c : Config) : Prop where
  logPath : c.logPath ≠ []
  namespace_ : c.exporting.namespace_ ≠ []
  subsystem : c.exporting.subsystem ≠ []
  service : c.exporting.service ≠ []
  timeout : 0 < c.exporting.timeout
  nameTimeout : 0 < c.exporting.nameTimeout

/-- The defaults are not empty and positive themselves, so nothing is missing over them. -/
theorem Draft.Over.complete {d : Draft} {c : Config} (h : d.Over c) : c.Complete := by
  have hchosen : ∀ {t default_ chosen : Text}, chosen = (if t = [] then default_ else t) →
      default_ ≠ [] → chosen ≠ [] := by
    rintro t default_ _ rfl hdefault
    split
    · exact hdefault
    · next ht => exact ht
  exact {
    logPath := hchosen h.logPath (by decide)
    namespace_ := hchosen h.namespace_ (by decide)
    subsystem := hchosen h.subsystem (by decide)
    service := hchosen h.service (by decide)
    timeout := h.timeout.pos (by decide)
    nameTimeout := h.nameTimeout.pos (by decide) }

namespace Complete

/-- **The check of a complete configuration reports nothing but its units**: that there are none, or
the first with which the units up to it cannot stand together. -/
theorem violation?_eq_some_iff {c : Config} (h : c.Complete) {v : Violation} :
    c.violation? = some v ↔
      (c.units = [] ∧ v = .noUnits) ∨
        ∃ before u after, c.units = before ++ u :: after ∧ Acceptable before ∧
          ¬ Acceptable (before ++ [u]) ∧ Reason before u v := by
  rw [← unitsViolation?_eq_some_iff, violation?, if_neg (by simpa using h.logPath)]
  by_cases hunits : c.units = []
  · rw [if_pos (by simpa using hunits), hunits]
    simp [unitsViolation?, eq_comm]
  · rw [if_neg (by simpa using hunits)]
    simp [hunits]

/-- **An exporter takes the times of a complete configuration as they are.** -/
theorem make_times {c : Config} (h : c.Complete) (hostName : Text) :
    (Exporter.make c.exporting hostName).config.timeout = c.exporting.timeout ∧
      (Exporter.make c.exporting hostName).config.nameTimeout = c.exporting.nameTimeout :=
  ⟨if_neg (Int64.not_le.mpr h.timeout), if_neg (Int64.not_le.mpr h.nameTimeout)⟩

end Complete

/-! ### Documents -/

variable {decode : Text → Except Text Draft} {document : Text}

theorem parseWith_cases (decode : Text → Except Text Draft) (document : Text) :
    (∃ cause, decode document = .error cause ∧
        parseWith decode document = ⟨.zero, some (.document cause)⟩) ∨
      ∃ d, decode document = .ok d ∧ d.Outcome (parseWith decode document) := by
  rw [parseWith]
  cases decode document with
  | error cause => exact .inl ⟨cause, rfl, rfl⟩
  | ok d => exact .inr ⟨d, rfl, d.outcome_toConfig⟩

/-- **With an error there is no configuration at all**, and whatever is wrong with a document is
recognised as an invalid configuration, by its kind and by its wording. -/
theorem of_error_parseWith {e : LoadError} (h : (parseWith decode document).error? = some e) :
    (parseWith decode document).config = .zero ∧ e.kinds = [.invalidConfig] ∧
      Text.ofString "invalid config: " <+: e.message := by
  have hduration : ∀ (entry : Text) (cause : Duration.Error),
      Text.ofString "invalid config: " <+: (LoadError.duration entry cause).message := by
    intro entry cause
    rw [LoadError.message, List.append_assoc, List.append_assoc]
    exact List.prefix_append _ _
  obtain ⟨cause, -, hdocument⟩ | ⟨d, -, houtcome⟩ := parseWith_cases decode document
  · rw [hdocument] at h ⊢
    cases h
    exact ⟨rfl, rfl, List.prefix_append _ _⟩
  · generalize parseWith decode document = r at h houtcome ⊢
    cases houtcome with
    | timeout _ cause =>
      cases h
      exact ⟨rfl, rfl, hduration _ cause⟩
    | nameTimeout _ _ cause =>
      cases h
      exact ⟨rfl, rfl, hduration _ cause⟩
    | config => cases h

theorem exists_over_of_parseWith {c : Config} (h : parseWith decode document = ⟨c, none⟩) :
    ∃ d, decode document = .ok d ∧ d.Over c := by
  obtain ⟨cause, -, hdocument⟩ | ⟨d, hd, houtcome⟩ := parseWith_cases decode document
  · cases hdocument.symm.trans h
  · rw [h] at houtcome
    cases houtcome with
    | config _ _ hover => exact ⟨d, hd, hover⟩

/-- **A document gives a configuration that can only be wrong in its units, or it is refused for one
of three reasons**: it cannot be decoded, or the time of an export, or else that of a resolution, is
there and no duration. What is refused is recognised as an invalid configuration, and there is
nothing in the configuration that comes with the error. What is not refused is laid over the
defaults field by field. -/
theorem parseWith_over_defaults (decode : Text → Except Text Draft) (document : Text) :
    let loaded := parseWith decode document
    ((∃ e, loaded.error? = some e) ↔
      (∃ cause, decode document = .error cause) ∨ ∃ d, decode document = .ok d ∧
        (NoDuration d.exporting.timeout ∨ NoDuration d.exporting.nameTimeout)) ∧
    (∀ e, loaded.error? = some e →
      loaded.config = ⟨[], [], ⟨[], [], [], [], [], .empty, 0, [], 0⟩, false⟩ ∧
        e.kinds = [.invalidConfig] ∧ Text.ofString "invalid config: " <+: e.message) ∧
    (∀ cause, loaded.error? = some (.document cause) ↔ decode document = .error cause) ∧
    ((∃ cause, loaded.error? = some (.duration (Text.ofString "export.timeout") cause)) ↔
      ∃ d, decode document = .ok d ∧ NoDuration d.exporting.timeout) ∧
    ((∃ cause, loaded.error? = some (.duration (Text.ofString "export.dns_timeout") cause)) ↔
      ∃ d, decode document = .ok d ∧ ¬ NoDuration d.exporting.timeout ∧
        NoDuration d.exporting.nameTimeout) ∧
    ∀ c, loaded = ⟨c, none⟩ →
      (∃ d, decode document = .ok d ∧ d.Over c) ∧ c.Complete ∧
        (∀ v, c.violation? = some v ↔
          (c.units = [] ∧ v = .noUnits) ∨
            ∃ before u after, c.units = before ++ u :: after ∧ Acceptable before ∧
              ¬ Acceptable (before ++ [u]) ∧ Reason before u v) ∧
        ∀ hostName,
          (Exporter.make c.exporting hostName).config.timeout = c.exporting.timeout ∧
            (Exporter.make c.exporting hostName).config.nameTimeout = c.exporting.nameTimeout := by
  intro loaded
  refine ⟨?_, fun _ => of_error_parseWith, ?_, ?_, ?_, fun c h => ?_⟩
  case refine_5 =>
    obtain ⟨d, hd, hover⟩ := exists_over_of_parseWith h
    exact ⟨⟨d, hd, hover⟩, hover.complete, fun _ => hover.complete.violation?_eq_some_iff,
      hover.complete.make_times⟩
  all_goals
    obtain ⟨cause, hd, h⟩ | ⟨d, hd, h⟩ := parseWith_cases decode document
    · simp [loaded, hd, h]
    · simp [loaded, hd, h.exists_error_iff, h.ne_document, h.exists_timeout_iff,
        h.exists_nameTimeout_iff]

/-- A fraction that is cut down to zero and the least time there is both give way to the defaults,
and that there are no units is all that is wrong. With two times that are no durations, the first is
reported, and what the decoder says is passed on. -/
theorem parseWith_over_defaults_of_small_times :
    let draft (timeout nameTimeout : String) : Draft := ⟨[], [], { ExportDraft.empty with
      timeout := Text.ofString timeout, nameTimeout := Text.ofString nameTimeout }⟩
    (∃ c, parseWith (fun _ => .ok (draft "0.9ns" "-9223372036854775808ns")) [] = ⟨c, none⟩ ∧
      c.exporting.timeout = 15000000000 ∧ c.exporting.nameTimeout = 800000000 ∧
      c.violation? = some .noUnits) ∧
    (∃ cause, parseWith (fun _ => .ok (draft "1" "soon")) []
      = ⟨.zero, some (.duration (Text.ofString "export.timeout") cause)⟩) ∧
    (parseWith (fun _ => .error (Text.ofString "no document")) []).error?.map LoadError.message
      = some (Text.ofString "invalid config: no document") := by
  intro draft
  refine ⟨?_, ?_, ?_⟩
  · have htimes : ((draft "0.9ns" "-9223372036854775808ns").toConfig.toOption.map
        fun c => (c.exporting.timeout, c.exporting.nameTimeout, c.units))
          = some (15000000000, 800000000, []) := by decide +kernel
    cases hparse : (draft "0.9ns" "-9223372036854775808ns").toConfig with
    | error e =>
      rw [hparse] at htimes
      cases htimes
    | ok c =>
      obtain ⟨htimeout, hname, hunits⟩ : c.exporting.timeout = 15000000000 ∧
          c.exporting.nameTimeout = 800000000 ∧ c.units = [] := by
        simpa [hparse, Except.toOption] using htimes
      have hloaded : parseWith (fun _ => .ok (draft "0.9ns" "-9223372036854775808ns")) []
          = ⟨c, none⟩ := congrArg Loaded.ofExcept hparse
      obtain ⟨-, -, hviolation, -⟩ := (parseWith_over_defaults
        (fun _ => .ok (draft "0.9ns" "-9223372036854775808ns")) []).2.2.2.2.2 c hloaded
      exact ⟨c, hloaded, htimeout, hname, (hviolation _).mpr (.inl ⟨hunits, rfl⟩)⟩
  · have hrefused : NoDuration (Text.ofString "1") := by
      refine ⟨by decide, fun ⟨d, hd⟩ => ?_⟩
      have hnone : (Duration.parse (Text.ofString "1")).toOption = none := by decide +kernel
      rw [Duration.parse_eq_ok_iff.mpr hd] at hnone
      cases hnone
    have hall := parseWith_over_defaults (fun _ => .ok (draft "1" "soon")) []
    obtain ⟨cause, herror⟩ := hall.2.2.2.1.mpr ⟨_, rfl, hrefused⟩
    obtain ⟨hzero, -⟩ := hall.2.1 _ herror
    exact ⟨cause, Loaded.mk.injEq .. ▸ ⟨hzero, herror⟩⟩
  · have herror := ((parseWith_over_defaults (fun _ => .error (Text.ofString "no document"))
      []).2.2.1 (Text.ofString "no document")).mpr rfl
    rw [herror]
    decide

end Config

end HitLog

import HitLog.Remote.Exporter
import Mathlib.Data.List.Forall2
import Mathlib.Data.List.Nodup

/-!
# The labels of a series

The labels of a series come from three places and are put one behind the other: three fixed ones,
those of the export, and those of the metric. Each of the two maps has every name once, but nobody
looks whether one place gives a name that another gives too, and an endpoint does not accept a
series with a name twice. `Exporter.nodup_names_iff` says when that happens, in whatever order the
maps give out their labels.

## Main definitions

* `Labels.names` — the names of a map
* `Exporter.Labelled` — the labels of a metric's series, up to the order of the two maps

## Main results

* `Exporter.labelled_seriesLabels` — the labels that a series gets
* `Exporter.nodup_names_iff` — when no name occurs twice
* `Exporter.series_forall₂_labelled` — the series of metrics, one for each
-/

namespace HitLog

/-- The names of a map. -/
def Labels.names (l : Labels) : List Text := l.pairs.map Prod.fst

theorem Labels.perm_sorted (l : Labels) : l.sorted.Perm l.pairs := List.mergeSort_perm _ _

namespace Exporter

open scoped Text

/-- The names that every series has. -/
def reservedNames : List Text :=
  [Text.ofString "__name__", Text.ofString "instance", Text.ofString "job"]

/-- The labels of a metric's series: the full name, the instance and the job, then each label of the
export once and each label of the metric once. -/
def Labelled (config : ExportConfig) (m : Metric) (labels : List (Text × Text)) : Prop :=
  ∃ custom own : List (Text × Text),
    custom.Perm config.labels.pairs ∧ own.Perm m.labels.pairs ∧
      labels =
        [(Text.ofString "__name__",
            config.namespace_ ++ "_" ++ config.subsystem ++ "_" ++ m.name),
          (Text.ofString "instance", config.instanceName),
          (Text.ofString "job", config.service)] ++ custom ++ own

theorem labelled_seriesLabels (config : ExportConfig) (m : Metric) :
    Labelled config m (seriesLabels config m) :=
  ⟨config.labels.sorted, m.labels.sorted, config.labels.perm_sorted, m.labels.perm_sorted, by
    simp [seriesLabels, fullName]⟩

/-- The names of a series are those of the three places, up to their order. -/
theorem Labelled.perm_names {config : ExportConfig} {m : Metric} {labels : List (Text × Text)}
    (h : Labelled config m labels) :
    (labels.map Prod.fst).Perm (reservedNames ++ (config.labels.names ++ m.labels.names)) := by
  obtain ⟨custom, own, hcustom, hown, rfl⟩ := h
  rw [List.append_assoc, List.map_append, List.map_append]
  exact ((hcustom.map Prod.fst).append (hown.map Prod.fst)).append_left reservedNames

/-- **When no name of a series occurs twice**: if the maps have no name in common, neither with each
other nor with the fixed labels. -/
theorem nodup_names_iff {config : ExportConfig} {m : Metric} {labels : List (Text × Text)}
    (h : Labelled config m labels) :
    (labels.map Prod.fst).Nodup ↔
      (∀ name ∈ config.labels.names, name ∉ m.labels.names) ∧
        ∀ name ∈ reservedNames, name ∉ config.labels.names ∧ name ∉ m.labels.names := by
  have hreserved : reservedNames.Nodup := by decide
  have hcustom : config.labels.names.Nodup := config.labels.distinct
  have hown : m.labels.names.Nodup := m.labels.distinct
  rw [h.perm_names.nodup_iff, List.nodup_append', List.nodup_append']
  simp only [hreserved, hcustom, hown, true_and, List.disjoint_append_right]
  constructor
  · rintro ⟨hmaps, hfixed, hfixed'⟩
    exact ⟨fun name hname hname' => hmaps hname hname',
      fun name hname => ⟨fun hname' => hfixed hname hname', fun hname' => hfixed' hname hname'⟩⟩
  · rintro ⟨hmaps, hfixed⟩
    exact ⟨fun name hname => hmaps name hname, fun name hname => (hfixed name hname).1,
      fun name hname => (hfixed name hname).2⟩

/-- **Metrics become series one by one.** The series of metrics are one for each metric, in order. A
series has the value and the moment of its metric. Its labels are the full name, the instance and
the job, then each label of the export once, then each label of the metric once, and no others. No
name occurs twice among them exactly if no name of the export is one of the metric and neither has
one of the three fixed names. -/
theorem series_forall₂_labelled (config : ExportConfig) (ms : List Metric) :
    List.Forall₂ (fun m s => s.value = m.value ∧ s.time = m.time ∧ Labelled config m s.labels ∧
      ((s.labels.map Prod.fst).Nodup ↔
        (∀ name ∈ config.labels.names, name ∉ m.labels.names) ∧
          ∀ name ∈ reservedNames, name ∉ config.labels.names ∧ name ∉ m.labels.names))
      ms (series config ms) := by
  rw [series, List.forall₂_map_right_iff, List.forall₂_same]
  intro m _
  have hlabelled : Labelled config m (seriesOf config m).labels := labelled_seriesLabels config m
  exact ⟨rfl, rfl, hlabelled, nodup_names_iff hlabelled⟩

end Exporter

end HitLog

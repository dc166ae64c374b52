import HitLog.Metric

/-!
# Resource usage

At the end of a run the process reports what it used: time, memory, collections of garbage and
threads of control. Each figure is a gauge. The resident memory is left out where it is unknown,
which shows as zero.

## Main definitions

* `Usage` — the figures
* `Usage.metrics` — the figures as gauges
-/

namespace HitLog

open scoped Text

/-- What a process used. -/
structure Usage where
  /-- Time since the start, in nanoseconds. -/
  duration : Int64
  /-- Octets of live memory. -/
  heap : UInt64
  /-- Octets obtained from the system. -/
  system : UInt64
  /-- Completed collections. -/
  collections : UInt32
  /-- Time spent in collections, in nanoseconds. -/
  pause : Int64
  /-- Threads of control. -/
  threads : Int64
  /-- Octets of resident memory, zero if unknown. -/
  resident : UInt64

namespace Usage

/-- Nanoseconds as seconds: whole seconds and the rest are converted apart and then added. -/
def seconds (d : Int64) : Binary64 :=
  .ofFloat ((d / 1000000000).toFloat + (d % 1000000000).toFloat / 1e9)

/-- A gauge without labels. -/
def gauge (now : Int64) (name : Text) (value : Binary64) : Metric where
  name
  value
  labels := .empty
  kind := .gauge
  time := now

/-- The figures as gauges. -/
def metrics (u : Usage) (now : Int64) : List Metric :=
  [gauge now "run_duration_seconds" (seconds u.duration),
    gauge now "memory_heap_alloc_bytes" (.ofUInt64 u.heap),
    gauge now "memory_sys_bytes" (.ofUInt64 u.system),
    gauge now "gc_runs_total" (.ofUInt64 u.collections.toUInt64),
    gauge now "gc_pause_total_seconds" (seconds u.pause),
    gauge now "goroutines_num" (.ofInt64 u.threads)] ++
  (if 0 < u.resident then [gauge now "memory_rss_bytes" (.ofUInt64 u.resident)] else [])

end Usage

end HitLog

import HitLog.Fault
import HitLog.Metric
import HitLog.Record

/-!
# Tables

A table counts how often each site of one unit is executed. Its number of sites is fixed when it is
made. Counters are words of 64 bits and wrap around. Naming a site outside the table is a fault,
except in adding nothing: an addition that is not positive is ignored before the site is looked at.

## Main definitions

* `Table` — the counters of one unit
* `Table.make` — a table of zeros
* `Table.inc`, `Table.add`, `Table.get` — count executions, and read a counter
* `Table.record`, `Table.metrics` — the counters as a record and as metrics
-/

namespace HitLog

open scoped Text

/-- The counters of one unit. -/
structure Table where
  /-- The unit's name. -/
  identifier : Text
  /-- One counter per site. -/
  counts : List Int64
  deriving DecidableEq

namespace Table

/-- The largest number of sites for which there is room: counters take eight octets of a space of 48
bits. -/
def maxSites : Int := Nat.pow 2 45

/-- A table of zeros. -/
def make (identifier : Text) (sites : Int64) : Except Fault Table :=
  if 0 ≤ sites.toInt ∧ sites.toInt ≤ maxSites then
    .ok ⟨identifier, List.replicate sites.toInt.toNat 0⟩
  else .error .tableSize

/-- The number of sites. -/
def size (t : Table) : Nat := t.counts.length

/-- Whether a site belongs to the table. -/
def hasSite (t : Table) (site : Int) : Prop := 0 ≤ site ∧ site < t.size

instance (t : Table) (site : Int) : Decidable (t.hasSite site) := instDecidableAnd

/-- Add to the counter of a site. -/
def bump (t : Table) (site : Int) (delta : Int64) : Except Fault Table :=
  if t.hasSite site then .ok { t with counts := t.counts.modify site.toNat (· + delta) }
  else .error (.siteOutOfRange site t.size)

/-- Count one execution of a site. -/
def inc (t : Table) (site : Int) : Except Fault Table := t.bump site 1

/-- Count several executions of a site. A number that is not positive is ignored. -/
def add (t : Table) (site : Int) (delta : Int64) : Except Fault Table :=
  if delta ≤ 0 then .ok t else t.bump site delta

/-- The counter of a site. -/
def get (t : Table) (site : Int) : Except Fault Int64 :=
  if t.hasSite site then .ok (t.counts.getD site.toNat 0)
  else .error (.siteOutOfRange site t.size)

/-- The counters as a record. -/
def record (t : Table) : Record := ⟨t.identifier, t.counts⟩

/-- The metric of one site. -/
def siteMetric (identifier : Text) (now : Int64) (site : Nat) (count : Int64) : Metric where
  name := "site_hits"
  value := .ofInt64 count
  labels := .ofList [("unit", identifier), ("site", Numeral.decimal site)]
  kind := .counter
  time := now

/-- One metric per site, in order. -/
def metrics (t : Table) (now : Int64) : List Metric :=
  t.counts.zipIdx.map fun (c, i) => siteMetric t.identifier now i c

end Table

end HitLog

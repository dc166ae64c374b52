import HitLog.Text

/-!
# Buffered output

A sink takes octets until it is full and then fails. Output reaches it through a buffer of 4096
octets: short pieces collect in the buffer, a piece longer than the empty buffer goes straight to
the sink, and once the sink has failed nothing more is handed over. Errors of single writes are not
looked at; the failure shows when the buffer is emptied at the end.

## Main definitions

* `Output.Sink` — takes a bounded number of octets, and remembers what it was offered
* `Output.Buffer` — a sink behind a buffer
* `Output.Buffer.write`, `Output.Buffer.flush` — hand over a piece, and empty the buffer
* `Output.writeTo`, `Output.writeAll` — write pieces one by one and flush
-/

namespace HitLog

namespace Output

/-- A sink that takes octets up to a capacity; `none` is no bound. -/
structure Sink where
  /-- How many octets it still takes. -/
  room : Option Nat
  /-- What it was offered, each time with how many octets of it were taken. -/
  offers : List (Text × Nat)

/-- The octets that are taken of offers. -/
def takenOf (offers : List (Text × Nat)) : Text := offers.flatMap fun (t, n) => t.take n

/-- The octets the sink took. -/
def Sink.taken (s : Sink) : Text := takenOf s.offers

/-- Offer octets. The sink takes as many as it has room for; the result says how many these are. -/
def Sink.offer (s : Sink) (t : Text) : Nat × Sink :=
  match s.room with
  | none => (t.length, { s with offers := s.offers ++ [(t, t.length)] })
  | some room =>
    let n := min room t.length
    (n, ⟨some (room - n), s.offers ++ [(t, n)]⟩)

/-- The octets a buffer holds. -/
def bufferSize : Nat := 4096

/-- A sink behind a buffer. -/
structure Buffer where
  /-- The sink. -/
  sink : Sink
  /-- Octets not yet handed over. -/
  pending : Text
  /-- Whether the sink has failed. -/
  failed : Bool

/-- Hand the pending octets to the sink, unless it has failed. -/
def Buffer.flush (b : Buffer) : Buffer :=
  if b.failed || b.pending.isEmpty then b
  else
    let (n, sink) := b.sink.offer b.pending
    ⟨sink, b.pending.drop n, n < b.pending.length⟩

/-- Hand over a piece. The `fuel` bounds the rounds; each round that goes on shortens the piece. -/
def Buffer.writeRounds : (fuel : Nat) → Buffer → Text → Buffer
  | 0, b, _ => b
  | fuel + 1, b, t =>
    if b.failed then b
    else if t.length ≤ bufferSize - b.pending.length then { b with pending := b.pending ++ t }
    else if b.pending.isEmpty then
      let (n, sink) := b.sink.offer t
      writeRounds fuel ⟨sink, [], n < t.length⟩ (t.drop n)
    else
      let n := bufferSize - b.pending.length
      writeRounds fuel { b with pending := b.pending ++ t.take n }.flush (t.drop n)

/-- Hand over a piece. -/
def Buffer.write (b : Buffer) (t : Text) : Buffer := b.writeRounds (t.length + 2) t

/-- Write pieces one by one and empty the buffer. -/
def writeTo (sink : Sink) (pieces : List Text) : Buffer :=
  (pieces.foldl Buffer.write ⟨sink, [], false⟩).flush

/-- Write pieces to a sink. The result says whether the sink failed, and what it took. -/
def writeAll (sink : Sink) (pieces : List Text) : Bool × Text :=
  let b := writeTo sink pieces
  (b.failed, b.sink.taken)

end Output

end HitLog

import HitLog.Output
import Mathlib.Data.List.TakeDrop

/-!
# What reaches a sink

Whatever the pieces, a buffer changes only when octets are handed over, not which. The invariant
`Output.Reached` tells a buffer from the text written to it so far: as long as the sink takes
everything, what it took and what is pending make up the text; once it has failed, it has taken as
much of the text as it can take, and the text was longer. A further piece keeps this, and so does
emptying the buffer.

The same goes for what the sink is only offered. Each offer begins where the octets taken before it
end, and behind one that was not taken as a whole there is no other (`Output.InOrder`). So a sink
that fails sees no octet twice, leaves none out, and is not asked again.

## Main definitions

* `Output.accepted` — how much of a text a sink takes
* `Output.InOrder` — offers that go through a text from its start
* `Output.Reached` — a buffer to which a text was written

## Main results

* `Output.Reached.flush`, `Output.Reached.write` — emptying the buffer, and a further piece
* `Output.reached_writeTo`, `Output.writeAll_eq` — all pieces
-/

namespace HitLog

namespace Output

/-- How much of a text a sink of a capacity takes. -/
def accepted (capacity : Option Nat) (t : Text) : Text :=
  match capacity with
  | none => t
  | some n => t.take n

/-- A sink of a capacity that took all it was offered. -/
structure Sink.Open (capacity : Option Nat) (s : Sink) : Prop where
  room : s.room = capacity.map (· - s.taken.length)
  taken : accepted capacity s.taken = s.taken
  whole : ∀ x ∈ s.offers, x.2 = x.1.length

/-- The offers go through a text from its start. Each is what follows in the text behind the octets
taken before, and one that is not taken as a whole is the last. -/
def InOrder (offers : List (Text × Nat)) (t : Text) : Prop :=
  ∀ before piece n later, offers = before ++ (piece, n) :: later →
    takenOf before ++ piece <+: t ∧ (n < piece.length → later = [])

/-- A buffer in front of a sink of a capacity, to which a text was written. -/
inductive Reached (capacity : Option Nat) : Buffer → Text → Prop
  /-- All octets are at the sink or pending. -/
  | going {sink : Sink} (pending : Text) (hopen : sink.Open capacity) :
      Reached capacity ⟨sink, pending, false⟩ (sink.taken ++ pending)
  /-- The sink is full, and the text is longer. -/
  | full {sink : Sink} {t : Text} (pending : Text) (htaken : sink.taken = accepted capacity t)
      (hlonger : accepted capacity t ≠ t) (horder : InOrder sink.offers t) :
      Reached capacity ⟨sink, pending, true⟩ t

/-! ### Offers -/

theorem takenOf_append (offers offers' : List (Text × Nat)) :
    takenOf (offers ++ offers') = takenOf offers ++ takenOf offers' :=
  List.flatMap_append

theorem takenOf_cons (t : Text) (n : Nat) (offers : List (Text × Nat)) :
    takenOf ((t, n) :: offers) = t.take n ++ takenOf offers := rfl

theorem takenOf_concat (offers : List (Text × Nat)) (t : Text) (n : Nat) :
    takenOf (offers ++ [(t, n)]) = takenOf offers ++ t.take n := by
  rw [takenOf_append, takenOf_cons]
  exact congrArg _ (List.append_nil _)

namespace InOrder

variable {offers : List (Text × Nat)} {t : Text}

theorem append (h : InOrder offers t) (more : Text) : InOrder offers (t ++ more) := by
  intro before piece n later hoffers
  obtain ⟨hpart, hlast⟩ := h before piece n later hoffers
  exact ⟨hpart.trans (List.prefix_append t more), hlast⟩

variable (h : ∀ x ∈ offers, x.2 = x.1.length)
include h

theorem of_whole (more : Text) : InOrder offers (takenOf offers ++ more) := by
  rintro before piece n later rfl
  have hn : n = piece.length := h (piece, n) (by simp)
  refine ⟨⟨takenOf later ++ more, ?_⟩, fun hlt => absurd hn (Nat.ne_of_lt hlt)⟩
  simp [takenOf_append, takenOf_cons, hn]

/-- One more offer, which may be taken in part only. -/
theorem concat_of_whole (t : Text) (n : Nat) :
    InOrder (offers ++ [(t, n)]) (takenOf offers ++ t) := by
  intro before piece k later hoffers
  rcases List.eq_nil_or_concat later with rfl | ⟨later, x, rfl⟩
  · obtain ⟨rfl, hlast⟩ := List.append_inj' hoffers rfl
    cases hlast
    exact ⟨List.prefix_rfl, fun _ => rfl⟩
  · rw [List.concat_eq_append, ← List.cons_append, ← List.append_assoc] at hoffers
    obtain ⟨rfl, -⟩ := List.append_inj' hoffers rfl
    have hk : k = piece.length := h (piece, k) (by simp)
    exact ⟨(of_whole h t before piece k later rfl).1, fun hlt => absurd hk (Nat.ne_of_lt hlt)⟩

end InOrder

variable {capacity : Option Nat}

/-- A sink that is full takes nothing of what follows. -/
theorem accepted_append {t : Text} (h : accepted capacity t ≠ t) (more : Text) :
    accepted capacity (t ++ more) = accepted capacity t ∧
      accepted capacity (t ++ more) ≠ t ++ more := by
  cases capacity with
  | none => exact absurd rfl h
  | some n =>
    have hn : n < t.length := Nat.not_le.mp (mt (List.take_eq_self_iff t).mpr h)
    refine ⟨List.take_append_of_le_length (Nat.le_of_lt hn), fun hc => ?_⟩
    have hle : (t ++ more).length ≤ n := (List.take_eq_self_iff _).mp hc
    rw [List.length_append] at hle
    omega

/-- An offer is taken as a whole, or fills the sink. -/
theorem Sink.Open.offer {s : Sink} (h : s.Open capacity) (t : Text) :
    (∃ s' : Sink, s.offer t = (t.length, s') ∧ s'.taken = s.taken ++ t ∧ s'.Open capacity) ∨
      ∃ n s', s.offer t = (n, s') ∧ n < t.length ∧
        s'.taken = accepted capacity (s.taken ++ t) ∧
        accepted capacity (s.taken ++ t) ≠ s.taken ++ t ∧ InOrder s'.offers (s.taken ++ t) := by
  obtain ⟨room, offers⟩ := s
  obtain ⟨hroom, htaken, hwhole⟩ := h
  have hconcat : ∀ x ∈ offers ++ [(t, t.length)], x.2 = x.1.length := by
    rw [List.forall_mem_append]
    exact ⟨hwhole, by simp⟩
  have hall : takenOf (offers ++ [(t, t.length)]) = takenOf offers ++ t := by
    rw [takenOf_concat, List.take_length]
  cases capacity with
  | none =>
    obtain rfl : room = none := hroom
    exact .inl ⟨_, rfl, hall, ⟨rfl, rfl, hconcat⟩⟩
  | some n =>
    obtain rfl : room = some (n - (takenOf offers).length) := hroom
    have hle : (takenOf offers).length ≤ n := (List.take_eq_self_iff _).mp htaken
    simp only [Sink.taken]
    by_cases hfits : t.length ≤ n - (takenOf offers).length
    · refine .inl ⟨⟨some (n - (takenOf offers).length - t.length), offers ++ [(t, t.length)]⟩, ?_,
        hall, ?_, ?_, hconcat⟩
      · simp [Sink.offer, hfits]
      · simp only [Sink.taken, hall, Option.map_some, List.length_append]
        congr 1
        omega
      · rw [Sink.taken, hall]
        exact List.take_of_length_le (by rw [List.length_append]; omega)
    · refine .inr ⟨n - (takenOf offers).length,
        ⟨some 0, offers ++ [(t, n - (takenOf offers).length)]⟩, ?_, by omega, ?_, fun hc => ?_,
        .concat_of_whole hwhole t _⟩
      · simp [Sink.offer, Nat.min_eq_left (by omega : n - (takenOf offers).length ≤ t.length)]
      · rw [takenOf_concat, accepted, List.take_append, List.take_of_length_le hle]
      · have hlength : (takenOf offers ++ t).length ≤ n := (List.take_eq_self_iff _).mp hc
        rw [List.length_append] at hlength
        omega

/-- Writing to a sink that has failed does nothing. -/
theorem Buffer.writeRounds_of_failed {b : Buffer} (h : b.failed = true) (fuel : Nat) (t : Text) :
    b.writeRounds fuel t = b := by
  cases fuel with
  | zero => rfl
  | succ fuel => rw [Buffer.writeRounds, if_pos h]

namespace Reached

variable {b : Buffer} {t : Text}

theorem append_of_failed (h : Reached capacity b t) (hfailed : b.failed = true) (more : Text) :
    Reached capacity b (t ++ more) := by
  cases h with
  | going => cases hfailed
  | full pending htaken hlonger horder =>
    obtain ⟨hsame, hlonger'⟩ := accepted_append hlonger more
    exact .full pending (htaken.trans hsame.symm) hlonger' (horder.append more)

/-- **Emptying the buffer.** Unless the sink has failed, nothing is pending afterwards. -/
theorem flush (h : Reached capacity b t) :
    Reached capacity b.flush t ∧ (b.flush.failed = false → b.flush.pending = []) := by
  cases h with
  | full pending htaken hlonger horder =>
    exact ⟨.full pending htaken hlonger horder, fun hc => by cases hc⟩
  | @going sink pending hopen =>
    rw [Buffer.flush]
    split
    · rename_i hempty
      exact ⟨.going pending hopen, fun _ => by simpa using hempty⟩
    · obtain ⟨sink', hoffer, htaken, hopen'⟩ | ⟨n, sink', hoffer, hn, htaken, hlonger, horder⟩ :=
        hopen.offer pending
      · simp only [hoffer, Nat.lt_irrefl, decide_false, List.drop_length]
        have hgoing := Reached.going [] hopen'
        rw [List.append_nil, htaken] at hgoing
        exact ⟨hgoing, fun _ => trivial⟩
      · simp only [hoffer, hn, decide_true]
        exact ⟨.full _ htaken hlonger horder, fun hc => by cases hc⟩

/-- A piece that goes to an empty buffer: two rounds do. -/
theorem writeRounds_of_empty (h : Reached capacity b t) (hempty : b.failed = false → b.pending = [])
    (fuel : Nat) (piece : Text) :
    Reached capacity (b.writeRounds (fuel + 2) piece) (t ++ piece) := by
  cases h with
  | full pending htaken hlonger horder =>
    rw [Buffer.writeRounds_of_failed rfl]
    exact append_of_failed (.full pending htaken hlonger horder) rfl piece
  | @going sink pending hopen =>
    obtain rfl : pending = [] := hempty rfl
    rw [List.append_nil, Buffer.writeRounds]
    simp only [Bool.false_eq_true, if_false, List.isEmpty_nil, if_true]
    split
    · exact .going piece hopen
    · obtain ⟨sink', hoffer, htaken, hopen'⟩ | ⟨n, sink', hoffer, hn, htaken, hlonger, horder⟩ :=
        hopen.offer piece
      · have hgoing := Reached.going [] hopen'
        rw [List.append_nil, htaken] at hgoing
        simpa [hoffer, Buffer.writeRounds] using hgoing
      · simp only [hoffer, hn, decide_true]
        rw [Buffer.writeRounds_of_failed rfl]
        exact .full [] htaken hlonger horder

/-- **A further piece.** -/
theorem write (h : Reached capacity b t) (piece : Text) :
    Reached capacity (b.write piece) (t ++ piece) := by
  rw [Buffer.write]
  by_cases hempty : b.failed = false → b.pending = []
  · exact h.writeRounds_of_empty hempty piece.length piece
  cases h with
  | full => exact absurd (fun hc => by cases hc) hempty
  | @going sink pending hopen =>
    have hpending : pending ≠ [] := fun hc => hempty fun _ => hc
    rw [Buffer.writeRounds]
    simp only [Bool.false_eq_true, if_false, List.isEmpty_eq_false_iff.mpr hpending]
    split
    · rw [List.append_assoc]
      exact .going (pending ++ piece) hopen
    · -- the buffer is filled up and emptied; the rest of the piece finds it empty
      rename_i hlong
      obtain ⟨fuel, hfuel⟩ : ∃ fuel, piece.length + 1 = fuel + 2 := ⟨piece.length - 1, by omega⟩
      obtain ⟨hreached, hflushed⟩ := (Reached.going
        (pending ++ piece.take (bufferSize - pending.length)) hopen).flush
      have hrest := hreached.writeRounds_of_empty hflushed fuel
        (piece.drop (bufferSize - pending.length))
      rw [hfuel]
      simpa only [List.append_assoc, List.take_append_drop] using hrest

theorem foldl_write (h : Reached capacity b t) (pieces : List Text) :
    Reached capacity (pieces.foldl Buffer.write b) (t ++ pieces.flatten) := by
  induction pieces generalizing b t with
  | nil => simpa using h
  | cons piece pieces ih =>
    rw [List.foldl_cons, List.flatten_cons, ← List.append_assoc]
    exact ih (h.write piece)

/-- What the sink was offered goes through the text. -/
theorem inOrder (h : Reached capacity b t) : InOrder b.sink.offers t := by
  cases h with
  | going pending hopen => exact .of_whole hopen.whole pending
  | full pending htaken hlonger horder => exact horder

end Reached

/-- **All pieces.** Unless the sink has failed, nothing is pending at the end. -/
theorem reached_writeTo (capacity : Option Nat) (pieces : List Text) :
    Reached capacity (writeTo ⟨capacity, []⟩ pieces) pieces.flatten ∧
      ((writeTo ⟨capacity, []⟩ pieces).failed = false →
        (writeTo ⟨capacity, []⟩ pieces).pending = []) := by
  have hopen : Sink.Open capacity ⟨capacity, []⟩ := by
    refine ⟨?_, ?_, by simp⟩ <;> cases capacity <;> simp [accepted, Sink.taken, takenOf]
  exact ((Reached.going [] hopen).foldl_write pieces).flush

/-- The sink takes of the text what it can take, and fails if this is not all. -/
theorem writeAll_eq (capacity : Option Nat) (pieces : List Text) :
    writeAll ⟨capacity, []⟩ pieces
      = (decide (accepted capacity pieces.flatten ≠ pieces.flatten),
        accepted capacity pieces.flatten) := by
  obtain ⟨hreached, hempty⟩ := reached_writeTo capacity pieces
  rw [writeAll]
  generalize writeTo ⟨capacity, []⟩ pieces = b at hreached hempty
  generalize pieces.flatten = t at hreached
  cases hreached with
  | going pending hopen =>
    obtain rfl : pending = [] := hempty rfl
    simp [hopen.taken]
  | full pending htaken hlonger => simp [htaken, hlonger]

/-- A sink without bound takes the whole text. -/
theorem writeAll_unbounded (pieces : List Text) :
    writeAll ⟨none, []⟩ pieces = (false, pieces.flatten) := by
  simp [writeAll_eq, accepted]

end Output

end HitLog

import HitLog.Log
import HitLog.Proofs.Blank
import HitLog.Proofs.Grammar

/-!
# Reading a log

Three things can stop the reader: a line that is no record, a line that fills the buffer, and a
source that fails behind its last octet. The first two compete by their place, and the third comes
last of all. So what reading finds is decided by the lines alone, and by the first of them that is
at fault: `Log.read_of_firstFault` and `Log.read_of_fine` are all that is used about the reader's
loop. In particular lines put in front only change the number that a fault is reported with, which
is why logs can be read in pieces.

## Main definitions

* `Log.Splits` — a text with its lines
* `Log.Fine`, `Log.Fault` — the lines that reading passes, and what stops it at the others
* `Log.FirstFault` — where a list of lines stops reading
* `Log.ReadError.shift` — an error behind further lines

## Main results

* `Log.splits_iff` — every text has its lines, and no others
* `Log.read_reports_first_fault` — all outcomes of reading a log
* `Log.read_append_of_terminated` — reading a log in pieces
-/

namespace HitLog

namespace Log

open scoped Text

/-! ### Lines -/

/-- A text with its lines. A line ends in a line feed; the last one may end with the text, but is
not empty then. -/
inductive Splits : Text → List Text → Prop where
  | nil : Splits [] []
  | last {l : Text} : l ≠ [] → Text.lineFeed ∉ l → Splits l [l]
  | cons {l t : Text} {ls : List Text} : Text.lineFeed ∉ l → Splits t ls →
    Splits (l ++ Text.lineFeed :: t) (l :: ls)

theorem lines_of_not_mem {l : Text} (hne : l ≠ []) (h : Text.lineFeed ∉ l) : lines l = [l] := by
  rw [lines, Text.fields_of_not_mem h]
  simp [hne]

theorem lines_append_cons {l : Text} (h : Text.lineFeed ∉ l) (t : Text) :
    lines (l ++ Text.lineFeed :: t) = l :: lines t := by
  obtain ⟨f, fs, hfs⟩ := List.exists_cons_of_ne_nil (Text.fields_ne_nil Text.lineFeed t)
  simp only [lines, Text.fields_append_cons h, hfs, List.getLast?_cons_cons,
    List.dropLast_cons_cons]
  split <;> rfl

theorem splits_lines (t : Text) : Splits t (lines t) := by
  -- what stands behind the first line feed is shorter than the text
  induction hn : t.length using Nat.strongRecOn generalizing t with
  | ind n ih =>
    by_cases hmem : Text.lineFeed ∈ t
    · obtain ⟨l, rest, rfl, hl⟩ := List.eq_append_cons_of_mem hmem
      rw [lines_append_cons hl]
      exact .cons hl (ih rest.length (by simp at hn; omega) rest rfl)
    · by_cases hne : t = []
      · subst hne
        exact .nil
      · rw [lines_of_not_mem hne hmem]
        exact .last hne hmem

/-- **Every text has its lines, and no others.** -/
theorem splits_iff {t : Text} {ls : List Text} : Splits t ls ↔ ls = lines t := by
  constructor
  · intro h
    induction h with
    | nil => rfl
    | last hne hl => exact (lines_of_not_mem hne hl).symm
    | cons hl _ ih => rw [lines_append_cons hl, ih]
  · rintro rfl
    exact splits_lines t

/-- A text is empty or ends in a line feed, so its last line cannot go on. -/
def Terminated (t : Text) : Prop := t = [] ∨ t.getLast? = some Text.lineFeed

theorem Terminated.of_append_cons {l t : Text} (h : Terminated (l ++ Text.lineFeed :: t)) :
    Terminated t := by
  rcases h with h | h
  · simp at h
  · cases t with
    | nil => exact .inl rfl
    | cons b t => exact .inr (by simpa [List.getLast?_append, List.getLast?_cons] using h)

/-- Lines behind a line feed stay the lines they are, and there are as many lines before it as line
feeds. -/
theorem Terminated.lines_append {a : Text} (h : Terminated a) (b : Text) :
    lines (a ++ b) = lines a ++ lines b ∧ (lines a).length = a.count Text.lineFeed := by
  have hsplits := splits_lines a
  generalize lines a = ls at hsplits
  induction hsplits with
  | nil => exact ⟨rfl, rfl⟩
  | @last l hne hl =>
    rcases h with h | h
    · exact absurd h hne
    · exact absurd (List.mem_of_getLast? h) hl
  | @cons l t ls hl _ ih =>
    obtain ⟨hlines, hcount⟩ := ih h.of_append_cons
    constructor
    · rw [List.append_assoc, List.cons_append, lines_append_cons hl, hlines, List.cons_append]
    · rw [List.length_cons, hcount, List.count_append, List.count_eq_zero.mpr hl,
        List.count_cons_self, Nat.zero_add]

/-! ### One line -/

/-- A line of white space, but for a carriage return at its end. -/
def IsBlank (line : Text) : Prop :=
  ∃ codes : List Nat, (∀ c ∈ codes, Blank.isSpace c = true) ∧
    dropReturn line = Utf8.encodeAll codes

instance : DecidablePred IsBlank := fun line =>
  decidable_of_iff (Blank.isBlank (dropReturn line) = true) Blank.isBlank_iff

/-- The number of octets from which on a line is too long. -/
def lineLimit : Nat := 16777216

/-- A line that fits the buffer and is blank or a record. -/
def Fine (line : Text) : Prop :=
  line.length < lineLimit ∧ (IsBlank line ∨ ∃ r, Record.parse (dropReturn line) = .ok r)

/-- What stops reading at a line with a number. A line that fills the buffer is not looked at. -/
inductive Fault (n : Nat) (line : Text) : ReadError → Prop where
  | tooLong : lineLimit ≤ line.length → Fault n line .lineTooLong
  | malformed {cause : Record.ParseError} : line.length < lineLimit → ¬ IsBlank line →
    Record.parse (dropReturn line) = .error cause → Fault n line (.malformed n cause)

/-- The record that a line holds, if any. -/
def recordOf? (line : Text) : Option Record :=
  if IsBlank line then none else (Record.parse (dropReturn line)).toOption

theorem isBlank_eq_decide (line : Text) :
    Blank.isBlank (dropReturn line) = decide (IsBlank line) := by
  rw [Bool.eq_iff_iff, decide_eq_true_iff]
  exact Blank.isBlank_iff

theorem bufferSize_eq : bufferSize = lineLimit := rfl

theorem step_of_fine {line : Text} (h : Fine line) (p : Progress) :
    p.step line = .ok ⟨p.lineCount + 1, (recordOf? line).toList ++ p.found⟩ := by
  obtain ⟨hlength, hcontent⟩ := h
  rw [Progress.step, if_neg (by rw [bufferSize_eq]; omega), isBlank_eq_decide, recordOf?]
  by_cases hblank : IsBlank line
  · simp [hblank]
  · obtain ⟨r, hr⟩ := hcontent.resolve_left hblank
    simp [hblank, hr, Except.toOption]

theorem step_of_fault {line : Text} {e : ReadError} {p : Progress}
    (h : Fault (p.lineCount + 1) line e) : p.step line = .error e := by
  rw [Progress.step, isBlank_eq_decide]
  cases h with
  | tooLong hlength => rw [if_pos (by rw [bufferSize_eq]; exact hlength)]
  | malformed hlength hblank hparse =>
    rw [if_neg (by rw [bufferSize_eq]; omega), if_neg (by simpa using hblank), hparse]

/-- A line that reading does not pass stops it. -/
theorem exists_fault {line : Text} (h : ¬ Fine line) (n : Nat) : ∃ e, Fault n line e := by
  by_cases hlength : lineLimit ≤ line.length
  · exact ⟨_, .tooLong hlength⟩
  have hlength : line.length < lineLimit := by omega
  have hblank : ¬ IsBlank line := fun hb => h ⟨hlength, .inl hb⟩
  cases hparse : Record.parse (dropReturn line) with
  | ok r => exact absurd ⟨hlength, .inr ⟨r, hparse⟩⟩ h
  | error cause => exact ⟨_, .malformed hlength hblank hparse⟩

/-! ### All lines -/

/-- The first of the lines that stops reading does so with this error. -/
def FirstFault (ls : List Text) (e : ReadError) : Prop :=
  ∃ before line after, ls = before ++ line :: after ∧ (∀ l ∈ before, Fine l) ∧
    Fault (before.length + 1) line e

theorem foldlM_step_of_fine {ls : List Text} (h : ∀ l ∈ ls, Fine l) (p : Progress) :
    ls.foldlM Progress.step p
      = .ok ⟨p.lineCount + ls.length, (ls.filterMap recordOf?).reverse ++ p.found⟩ := by
  induction ls generalizing p with
  | nil => rfl
  | cons line ls ih =>
    obtain ⟨hline, hls⟩ := List.forall_mem_cons.mp h
    rw [List.foldlM_cons, step_of_fine hline]
    refine (ih hls _).trans ?_
    rw [List.filterMap_cons]
    cases recordOf? line <;> simp [Nat.add_assoc, Nat.add_comm 1]

theorem foldlM_step_of_fault {before : List Text} {line : Text} {e : ReadError} {p : Progress}
    (h : ∀ l ∈ before, Fine l) (hfault : Fault (p.lineCount + before.length + 1) line e)
    (after : List Text) : (before ++ line :: after).foldlM Progress.step p = .error e := by
  have hstep : (Progress.mk (p.lineCount + before.length)
      ((before.filterMap recordOf?).reverse ++ p.found)).step line = .error e :=
    step_of_fault hfault
  rw [List.foldlM_append, foldlM_step_of_fine h]
  show (line :: after).foldlM Progress.step _ = _
  rw [List.foldlM_cons, hstep]
  rfl

theorem read_of_fine {t : Text} (h : ∀ l ∈ lines t, Fine l) (failure : Option Text) :
    read t failure =
      match failure with
      | some cause => .error (.source cause)
      | none => .ok ((lines t).filterMap recordOf?) := by
  rw [read, foldlM_step_of_fine h]
  cases failure <;> simp

theorem read_of_firstFault {t : Text} {e : ReadError} (h : FirstFault (lines t) e)
    (failure : Option Text) : read t failure = .error e := by
  obtain ⟨before, line, after, hlines, hbefore, hfault⟩ := h
  rw [read, hlines, foldlM_step_of_fault hbefore (by simpa using hfault)]

theorem fine_or_firstFault (ls : List Text) : (∀ l ∈ ls, Fine l) ∨ ∃ e, FirstFault ls e := by
  by_cases hfine : ∀ l ∈ ls, Fine l
  · exact .inl hfine
  · obtain ⟨before, line, after, rfl, hbefore, hline⟩ := exists_first_not hfine
    obtain ⟨e, he⟩ := exists_fault hline (before.length + 1)
    exact .inr ⟨e, before, line, after, rfl, hbefore, he⟩

/-- **What stops reading** is the first faulty line, or else the source. -/
theorem read_eq_error_iff {t : Text} {failure : Option Text} {e : ReadError} :
    read t failure = .error e ↔ FirstFault (lines t) e ∨
      (∀ l ∈ lines t, Fine l) ∧ ∃ cause, failure = some cause ∧ e = .source cause := by
  constructor
  · intro h
    rcases fine_or_firstFault (lines t) with hfine | ⟨e', hfault⟩
    · rw [read_of_fine hfine] at h
      cases failure with
      | none => cases h
      | some cause => exact .inr ⟨hfine, cause, rfl, (Except.error.inj h).symm⟩
    · rw [read_of_firstFault hfault] at h
      cases h
      exact .inl hfault
  · rintro (hfault | ⟨hfine, cause, rfl, rfl⟩)
    · exact read_of_firstFault hfault failure
    · exact read_of_fine hfine (some cause)

/-- **What is read**: all records, if no line and no source is at fault. -/
theorem read_eq_ok_iff {t : Text} {failure : Option Text} {rs : List Record} :
    read t failure = .ok rs ↔
      failure = none ∧ (∀ l ∈ lines t, Fine l) ∧ (lines t).filterMap recordOf? = rs := by
  constructor
  · intro h
    rcases fine_or_firstFault (lines t) with hfine | ⟨e, hfault⟩
    · rw [read_of_fine hfine] at h
      cases failure with
      | none => exact ⟨rfl, hfine, Except.ok.inj h⟩
      | some cause => cases h
    · rw [read_of_firstFault hfault] at h
      cases h
  · rintro ⟨rfl, hfine, rfl⟩
    exact read_of_fine hfine none

/-- The records are what the lines that are not blank are read as. -/
theorem map_parse_filter {ls : List Text} (h : ∀ l ∈ ls, Fine l) :
    (ls.filter fun line => ¬ IsBlank line).map (fun line => Record.parse (dropReturn line))
      = (ls.filterMap recordOf?).map Except.ok := by
  induction ls with
  | nil => rfl
  | cons line ls ih =>
    obtain ⟨⟨-, hcontent⟩, hls⟩ := List.forall_mem_cons.mp h
    by_cases hblank : IsBlank line
    · simpa [hblank, recordOf?] using ih hls
    · obtain ⟨r, hr⟩ := hcontent.resolve_left hblank
      simpa [hblank, recordOf?, hr, Except.toOption] using ih hls

/-- Lines that are all read as records or blank are fine if they fit the buffer. -/
theorem fine_of_map_parse {ls : List Text} {rs : List Record}
    (hlength : ∀ l ∈ ls, l.length < lineLimit)
    (h : (ls.filter fun line => ¬ IsBlank line).map (fun line => Record.parse (dropReturn line))
      = rs.map Except.ok) : ∀ l ∈ ls, Fine l := by
  intro line hline
  refine ⟨hlength line hline, ?_⟩
  by_cases hblank : IsBlank line
  · exact .inl hblank
  · have hmem : Record.parse (dropReturn line) ∈ rs.map Except.ok := by
      rw [← h]
      exact List.mem_map_of_mem (List.mem_filter.mpr ⟨hline, by simpa using hblank⟩)
    obtain ⟨r, -, hr⟩ := List.mem_map.mp hmem
    exact .inr ⟨r, hr.symm⟩

/-- **A log is read as a whole or not at all, and the first fault decides.** Let `ls` be the lines
of the text. A line that is neither blank nor a record stops reading with its number and its error
if all lines before it are fine and it fits the buffer; a line that fills the buffer does so if all
lines before it are fine; where all lines are fine, a failure of the source is reported; and where
there is none, the lines that are not blank give the records. -/
theorem read_reports_first_fault (t : Text) (failure : Option Text) :
    ∃ ls : List Text, (∀ ls', Splits t ls' ↔ ls' = ls) ∧
      (∀ n cause, read t failure = .error (.malformed n cause) ↔
        ∃ before line after, ls = before ++ line :: after ∧ n = before.length + 1 ∧
          (∀ l ∈ before, Fine l) ∧ line.length < lineLimit ∧ ¬ IsBlank line ∧
          Record.parse (dropReturn line) = .error cause) ∧
      (read t failure = .error .lineTooLong ↔
        ∃ before line after, ls = before ++ line :: after ∧ (∀ l ∈ before, Fine l) ∧
          lineLimit ≤ line.length) ∧
      (∀ cause, read t failure = .error (.source cause) ↔
        failure = some cause ∧ ∀ l ∈ ls, Fine l) ∧
      (∀ rs, read t failure = .ok rs ↔
        failure = none ∧ (∀ l ∈ ls, l.length < lineLimit) ∧
          (ls.filter fun line => ¬ IsBlank line).map (fun line => Record.parse (dropReturn line))
            = rs.map Except.ok) ∧
      ∀ e, read t failure = .error e → e.message =
        match e with
        | .malformed n cause => "line " ++ Numeral.decimal n ++ ": " ++ cause.message
        | .lineTooLong => ("reading log: bufio.Scanner: token too long" : Text)
        | .source cause => "reading log: " ++ cause := by
  refine ⟨lines t, fun ls' => splits_iff, fun n cause => ?_, ?_, fun cause => ?_, fun rs => ?_,
    fun e _ => by cases e <;> rfl⟩
  · rw [read_eq_error_iff]
    constructor
    · rintro (⟨before, line, after, hlines, hbefore, hfault⟩ | ⟨-, c, -, hc⟩)
      · cases hfault with
        | malformed hlength hblank hparse =>
          exact ⟨before, line, after, hlines, rfl, hbefore, hlength, hblank, hparse⟩
      · cases hc
    · rintro ⟨before, line, after, hlines, rfl, hbefore, hlength, hblank, hparse⟩
      exact .inl ⟨before, line, after, hlines, hbefore, .malformed hlength hblank hparse⟩
  · rw [read_eq_error_iff]
    constructor
    · rintro (⟨before, line, after, hlines, hbefore, hfault⟩ | ⟨-, c, -, hc⟩)
      · cases hfault with
        | tooLong hlength => exact ⟨before, line, after, hlines, hbefore, hlength⟩
      · cases hc
    · rintro ⟨before, line, after, hlines, hbefore, hlength⟩
      exact .inl ⟨before, line, after, hlines, hbefore, .tooLong hlength⟩
  · rw [read_eq_error_iff]
    constructor
    · rintro (⟨before, line, after, -, -, hfault⟩ | ⟨hfine, c, rfl, hc⟩)
      · cases hfault
      · cases hc
        exact ⟨rfl, hfine⟩
    · rintro ⟨rfl, hfine⟩
      exact .inr ⟨hfine, cause, rfl, rfl⟩
  · rw [read_eq_ok_iff]
    refine and_congr_right fun _ => ?_
    constructor
    · rintro ⟨hfine, rfl⟩
      exact ⟨fun l hl => (hfine l hl).1, map_parse_filter hfine⟩
    · rintro ⟨hlength, hparse⟩
      have hfine := fine_of_map_parse hlength hparse
      rw [map_parse_filter hfine] at hparse
      exact ⟨hfine, (List.map_inj_right fun _ _ => Except.ok.inj).mp hparse⟩

/-! ### Logs in pieces -/

/-- The error behind further lines: only the number of a line changes. -/
def ReadError.shift (n : Nat) : ReadError → ReadError
  | .malformed k cause => .malformed (k + n) cause
  | .lineTooLong => .lineTooLong
  | .source cause => .source cause

theorem Fault.shift {k : Nat} {line : Text} {e : ReadError} (h : Fault k line e) (n : Nat) :
    Fault (k + n) line (e.shift n) := by
  cases h with
  | tooLong hlength => exact .tooLong hlength
  | malformed hlength hblank hparse => exact .malformed hlength hblank hparse

theorem FirstFault.append {ls : List Text} {e : ReadError} (h : FirstFault ls e)
    (ls' : List Text) : FirstFault (ls ++ ls') e := by
  obtain ⟨before, line, after, rfl, hbefore, hfault⟩ := h
  exact ⟨before, line, after ++ ls', by simp, hbefore, hfault⟩

theorem FirstFault.behind {ls ls' : List Text} {e : ReadError} (h : FirstFault ls e)
    (hfine : ∀ l ∈ ls', Fine l) : FirstFault (ls' ++ ls) (e.shift ls'.length) := by
  obtain ⟨before, line, after, rfl, hbefore, hfault⟩ := h
  refine ⟨ls' ++ before, line, after, by simp, List.forall_mem_append.mpr ⟨hfine, hbefore⟩, ?_⟩
  have hnumber : before.length + 1 + ls'.length = (ls' ++ before).length + 1 := by
    rw [List.length_append]
    omega
  rw [← hnumber]
  exact hfault.shift ls'.length

/-- **A log can be read in pieces**, if each piece but the last ends in a line feed. An error in the
first piece is the error of the whole; the records of the pieces are those of the whole; and an
error behind a first piece without one only has its line number moved, by the number of line feeds
before it. The source may fail behind the last piece. -/
theorem read_append_of_terminated (a b : Text) (failure : Option Text)
    (ha : a = [] ∨ a.getLast? = some Text.lineFeed) :
    (∀ e, read a none = .error e → read (a ++ b) failure = .error e) ∧
      (∀ ra rb, read a none = .ok ra → read b failure = .ok rb →
        read (a ++ b) failure = .ok (ra ++ rb)) ∧
      ∀ ra e, read a none = .ok ra → read b failure = .error e →
        read (a ++ b) failure = .error (e.shift (a.count Text.lineFeed)) := by
  obtain ⟨hlines, hcount⟩ := Terminated.lines_append ha b
  refine ⟨fun e he => ?_, fun ra rb hra hrb => ?_, fun ra e hra he => ?_⟩
  · rcases read_eq_error_iff.mp he with hfault | ⟨-, cause, hnone, -⟩
    · refine read_of_firstFault ?_ failure
      rw [hlines]
      exact hfault.append (lines b)
    · cases hnone
  · obtain ⟨-, hfine, rfl⟩ := read_eq_ok_iff.mp hra
    obtain ⟨rfl, hfine', rfl⟩ := read_eq_ok_iff.mp hrb
    rw [read_eq_ok_iff, hlines, List.filterMap_append]
    exact ⟨rfl, List.forall_mem_append.mpr ⟨hfine, hfine'⟩, rfl⟩
  · obtain ⟨-, hfine, -⟩ := read_eq_ok_iff.mp hra
    rw [read_eq_error_iff, hlines, ← hcount]
    rcases read_eq_error_iff.mp he with hfault | ⟨hfine', cause, rfl, rfl⟩
    · exact .inl (hfault.behind hfine)
    · exact .inr ⟨List.forall_mem_append.mpr ⟨hfine, hfine'⟩, cause, rfl, rfl⟩

theorem eq_ok_of_toOption {ε α : Type} {x : Except ε α} {a : α} (h : x.toOption = some a) :
    x = .ok a := by
  cases x with
  | error e => cases h
  | ok b => exact congrArg Except.ok (Option.some.inj h)

/-- A piece with a record and a blank line, followed by a record without a line feed, by a malformed
line behind an empty one, and by a failure of the source; and a malformed piece in front of it. -/
theorem read_append_of_blank_and_malformed :
    let a : Text := "x:1\n \r\n"
    read a none = .ok [⟨"x", [1]⟩] ∧
      read (a ++ "y:2") none = .ok [⟨"x", [1]⟩, ⟨"y", [2]⟩] ∧
      read (a ++ "\nz") none = .error (.malformed 4 .missingSeparator) ∧
      read (a ++ "\n") (some "!") = .error (.source "!") ∧
      read ("z\n" ++ a) none = .error (.malformed 1 .missingSeparator) := by
  intro a
  have ha : a = [] ∨ a.getLast? = some Text.lineFeed := by decide
  have hra : read a none = .ok [⟨"x", [1]⟩] := eq_ok_of_toOption (by decide +kernel)
  have hrb : read "y:2" none = .ok [⟨"y", [2]⟩] := eq_ok_of_toOption (by decide +kernel)
  refine ⟨hra, ?_, ?_, ?_, ?_⟩
  · exact (read_append_of_terminated a _ none ha).2.1 _ _ hra hrb
  · exact (read_append_of_terminated a _ none ha).2.2 _ (.malformed 2 .missingSeparator) hra
      (by cbv)
  · exact (read_append_of_terminated a _ (some "!") ha).2.2 _ (.source "!") hra (by cbv)
  · exact (read_append_of_terminated "z\n" a none (by decide)).1 _ (by cbv)

end Log

end HitLog

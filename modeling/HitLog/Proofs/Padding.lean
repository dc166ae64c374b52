import HitLog.Proofs.Reading

/-!
# Line ends and blank lines

Editors and transports put carriage returns in front of line feeds, and people put blank lines
between the lines of a log. Neither changes what is read, but three rules have to agree for that.
The line reader takes one carriage return away, the record reader a whole run of them, and a line
that is left with nothing but carriage returns is blank because these are white space.

The argument does not follow the three rules through a log. Whether a line is blank and which record
it holds do not depend on the carriage returns at its end, however many they are and whoever takes
them away (`Log.isBlank_append_returns`, `Log.parse_append_returns`). So a text and what is made of
it by padding have the same contents, and reading depends on the contents alone, but for the numbers
of lines.

## Main definitions

* `Log.Padded` — a text with carriage returns and blank lines put in
* `Log.contents` — what the lines that are not blank are read as

## Main results

* `Log.Padded.contents_lines` — padding keeps the contents
* `Log.read_eq_ok_iff_contents`, `Log.exists_malformed_iff_contents` — the contents decide
* `Log.read_padded` — padding changes neither records nor faults
-/

namespace HitLog

namespace Log

open scoped Text

/-- A text and what becomes of it when any number of carriage returns is put in front of its line
feeds and any number of lines of white space between its lines. The last line stays as it is if it
has no line feed. -/
inductive Padded : Text → Text → Prop where
  | last {l : Text} : Text.lineFeed ∉ l → Padded l l
  | line {l t t' : Text} (k : Nat) : Text.lineFeed ∉ l → Padded t t' →
    Padded (l ++ Text.lineFeed :: t)
      (l ++ List.replicate k Text.carriageReturn ++ Text.lineFeed :: t')
  | blank {t t' : Text} {codes : List Nat} : (∀ c ∈ codes, Blank.isSpace c = true) →
    Text.lineFeed ∉ Utf8.encodeAll codes → Padded t t' →
    Padded t (Utf8.encodeAll codes ++ Text.lineFeed :: t')

/-! ### Carriage returns at the end of a line -/

theorem isLineEnd_of_mem_returns {k : Nat} :
    ∀ b ∈ List.replicate k Text.carriageReturn, Text.isLineEnd b = true := by
  intro b hb
  rw [List.eq_of_mem_replicate hb]
  rfl

theorem parse_append_returns (l : Text) (k : Nat) :
    Record.parse (l ++ List.replicate k Text.carriageReturn) = Record.parse l := by
  rw [Record.parse, Record.parse, Text.trimLineEnds_append_lineEnds l isLineEnd_of_mem_returns]

theorem isBlank_append_returns (l : Text) (k : Nat) :
    Blank.isBlank (l ++ List.replicate k Text.carriageReturn) = Blank.isBlank l := by
  induction k with
  | zero => rw [List.replicate_zero, List.append_nil]
  | succ k ih =>
    rw [List.replicate_succ', ← List.append_assoc,
      Blank.isBlank_concat _ (by decide) (by decide), ih]

/-- What the line reader takes away is a carriage return or nothing. -/
theorem exists_dropReturn_append_returns (line : Text) :
    ∃ k, line = dropReturn line ++ List.replicate k Text.carriageReturn := by
  by_cases h : line.getLast? = some Text.carriageReturn
  · refine ⟨1, ?_⟩
    rw [dropReturn, if_pos h]
    obtain ⟨front, rfl⟩ := List.getLast?_eq_some_iff.mp h
    rw [List.dropLast_concat]
    rfl
  · refine ⟨0, ?_⟩
    rw [dropReturn, if_neg h, List.replicate_zero, List.append_nil]

theorem parse_dropReturn (line : Text) : Record.parse (dropReturn line) = Record.parse line := by
  obtain ⟨k, hk⟩ := exists_dropReturn_append_returns line
  calc
    Record.parse (dropReturn line)
        = Record.parse (dropReturn line ++ List.replicate k Text.carriageReturn) :=
      (parse_append_returns _ k).symm
    _ = Record.parse line := by rw [← hk]

theorem isBlank_iff (line : Text) : IsBlank line ↔ Blank.isBlank line = true := by
  obtain ⟨k, hk⟩ := exists_dropReturn_append_returns line
  have hblank : Blank.isBlank (dropReturn line) = Blank.isBlank line := by
    calc
      Blank.isBlank (dropReturn line)
          = Blank.isBlank (dropReturn line ++ List.replicate k Text.carriageReturn) :=
        (isBlank_append_returns _ k).symm
      _ = Blank.isBlank line := by rw [← hk]
  rw [← hblank, isBlank_eq_decide, decide_eq_true_iff]

theorem isBlank_encodeAll {codes : List Nat} (h : ∀ c ∈ codes, Blank.isSpace c = true) :
    IsBlank (Utf8.encodeAll codes) :=
  (isBlank_iff _).mpr (Blank.isBlank_iff.mpr ⟨codes, h, rfl⟩)

/-! ### Contents -/

/-- What the lines that are not blank are read as. -/
def contents (ls : List Text) : List (Except Record.ParseError Record) :=
  (ls.filter fun line => ¬ IsBlank line).map fun line => Record.parse (dropReturn line)

theorem contents_append (ls ls' : List Text) :
    contents (ls ++ ls') = contents ls ++ contents ls' := by
  rw [contents, List.filter_append, List.map_append, contents, contents]

theorem contents_cons (line : Text) (ls : List Text) :
    contents (line :: ls)
      = if IsBlank line then contents ls else Record.parse (dropReturn line) :: contents ls := by
  by_cases h : IsBlank line <;> simp [contents, h]

/-- Carriage returns at the end of a line are no content. -/
theorem contents_append_returns (l : Text) (k : Nat) (ls : List Text) :
    contents ((l ++ List.replicate k Text.carriageReturn) :: ls) = contents (l :: ls) := by
  simp only [contents_cons, isBlank_iff, parse_dropReturn, isBlank_append_returns,
    parse_append_returns]

namespace Padded

variable {t t' : Text}

theorem lineFeed_not_mem_append_returns {l : Text} (hl : Text.lineFeed ∉ l) (k : Nat) :
    Text.lineFeed ∉ l ++ List.replicate k Text.carriageReturn := by
  intro h
  rcases List.mem_append.mp h with h | h
  · exact hl h
  · exact absurd (List.eq_of_mem_replicate h) (by decide)

/-- **Padding keeps the contents.** -/
theorem contents_lines (h : Padded t t') : contents (lines t') = contents (lines t) := by
  induction h with
  | last => rfl
  | @line l t t' k hl _ ih =>
    rw [lines_append_cons (lineFeed_not_mem_append_returns hl k), lines_append_cons hl,
      contents_append_returns, contents_cons, contents_cons, ih]
  | @blank t t' codes hcodes hline _ ih =>
    rw [lines_append_cons hline, contents_cons, if_pos (isBlank_encodeAll hcodes), ih]

/-- Padding makes no line shorter. -/
theorem length_lt_of_lines {n : Nat} (h : Padded t t') (hlength : ∀ l ∈ lines t', l.length < n) :
    ∀ l ∈ lines t, l.length < n := by
  induction h with
  | last => exact hlength
  | @line l t t' k hl _ ih =>
    rw [lines_append_cons (lineFeed_not_mem_append_returns hl k)] at hlength
    obtain ⟨hfirst, hrest⟩ := List.forall_mem_cons.mp hlength
    rw [List.length_append] at hfirst
    rw [lines_append_cons hl]
    exact List.forall_mem_cons.mpr ⟨by omega, ih hrest⟩
  | @blank t t' codes hcodes hline _ ih =>
    rw [lines_append_cons hline] at hlength
    exact ih (List.forall_mem_cons.mp hlength).2

end Padded

/-! ### Reading the contents -/

/-- What is wrong with a line, if anything is. -/
def causeOf? : Except Record.ParseError Record → Option Record.ParseError
  | .error cause => some cause
  | .ok _ => none

theorem findSome?_causeOf?_map_ok (rs : List Record) :
    (rs.map Except.ok).findSome? causeOf? = none := by
  rw [List.findSome?_eq_none_iff]
  intro x hx
  obtain ⟨r, -, rfl⟩ := List.mem_map.mp hx
  rfl

/-- Of the contents, the first that is no record is reported. -/
theorem FirstFault.findSome?_contents {ls : List Text} {n : Nat} {cause : Record.ParseError}
    (h : FirstFault ls (.malformed n cause)) : (contents ls).findSome? causeOf? = some cause := by
  obtain ⟨before, line, after, rfl, hbefore, hfault⟩ := h
  cases hfault with
  | malformed hlength hblank hparse =>
    rw [contents_append, contents_cons, if_neg hblank, hparse, contents, map_parse_filter hbefore,
      List.findSome?_append, findSome?_causeOf?_map_ok]
    rfl

variable {t : Text} {failure : Option Text}

theorem read_eq_ok_iff_contents {rs : List Record} (hlength : ∀ l ∈ lines t, l.length < lineLimit) :
    read t failure = .ok rs ↔ failure = none ∧ contents (lines t) = rs.map Except.ok := by
  rw [read_eq_ok_iff]
  refine and_congr_right fun _ => ?_
  constructor
  · rintro ⟨hfine, rfl⟩
    exact map_parse_filter hfine
  · intro hcontents
    have hfine := fine_of_map_parse hlength hcontents
    rw [contents, map_parse_filter hfine] at hcontents
    exact ⟨hfine, (List.map_inj_right fun _ _ => Except.ok.inj).mp hcontents⟩

theorem exists_malformed_iff_contents {cause : Record.ParseError}
    (hlength : ∀ l ∈ lines t, l.length < lineLimit) :
    (∃ n, read t failure = .error (.malformed n cause)) ↔
      (contents (lines t)).findSome? causeOf? = some cause := by
  constructor
  · rintro ⟨n, hread⟩
    rcases read_eq_error_iff.mp hread with hfault | ⟨-, c, -, hc⟩
    · exact hfault.findSome?_contents
    · cases hc
  · intro hcontents
    rcases fine_or_firstFault (lines t) with hfine | ⟨e, hfault⟩
    · rw [contents, map_parse_filter hfine, findSome?_causeOf?_map_ok] at hcontents
      cases hcontents
    · cases e with
      | malformed n cause' =>
        obtain rfl : cause' = cause :=
          Option.some.inj (hfault.findSome?_contents.symm.trans hcontents)
        exact ⟨n, read_of_firstFault hfault failure⟩
      | lineTooLong =>
        obtain ⟨before, line, after, hlines, -, hlong⟩ := hfault
        cases hlong with
        | tooLong hlong =>
          have hshort := hlength line (by rw [hlines]; simp)
          omega
      | source c =>
        obtain ⟨before, line, after, -, -, hsource⟩ := hfault
        cases hsource

/-- **Line ends and blank lines carry no meaning.** Carriage returns in front of line feeds and
lines of white space between lines change neither the records that are read nor what is found to be
wrong, as long as every line fits the buffer. Padding makes no line shorter, so the lines of the
original fit if those of the padded text do. -/
theorem read_padded {t' : Text} (h : Padded t t') (hlength : ∀ l ∈ lines t', l.length < lineLimit)
    (failure : Option Text) :
    (∀ rs, read t' failure = .ok rs ↔ read t failure = .ok rs) ∧
      (∀ cause, (∃ n, read t' failure = .error (.malformed n cause)) ↔
        ∃ n, read t failure = .error (.malformed n cause)) ∧
      ∀ e, read t failure = .error e → ErrorKind.malformedRecord ∈ e.kinds →
        ∃ e', read t' failure = .error e' ∧ ErrorKind.malformedRecord ∈ e'.kinds := by
  have hshort := h.length_lt_of_lines hlength
  have hcause : ∀ cause, (∃ n, read t' failure = .error (.malformed n cause)) ↔
      ∃ n, read t failure = .error (.malformed n cause) := by
    intro cause
    rw [exists_malformed_iff_contents hlength, exists_malformed_iff_contents hshort,
      h.contents_lines]
  refine ⟨fun rs => ?_, hcause, fun e hread hkind => ?_⟩
  · rw [read_eq_ok_iff_contents hlength, read_eq_ok_iff_contents hshort, h.contents_lines]
  · cases e with
    | malformed n cause =>
      obtain ⟨n', hread'⟩ := (hcause cause).mpr ⟨n, hread⟩
      exact ⟨_, hread', hkind⟩
    | lineTooLong => cases hkind
    | source c => cases hkind

/-- A log whose second line is a carriage return, padded with a next-line character in front, with
carriage returns on both lines and with an ideographic space before the last line, which has no line
feed; and a malformed log behind an empty line. -/
theorem read_padded_of_wide_spaces :
    let t : Text := "x:1\n\r\ny:2"
    let t' : Text := "\u0085\nx:1\r\r\n\r\r\n\u3000\r\ny:2"
    Padded t t' ∧ (∀ l ∈ lines t', l.length < lineLimit) ∧
      read t none = .ok [⟨"x", [1]⟩, ⟨"y", [2]⟩] ∧
      read t' none = .ok [⟨"x", [1]⟩, ⟨"y", [2]⟩] ∧
      Padded "x\n" "\nx\r\n" ∧
      ∃ e, read "\nx\r\n" none = .error e ∧ ErrorKind.malformedRecord ∈ e.kinds := by
  intro t t'
  have hpadded : Padded t t' :=
    @Padded.blank _ _ [0x85] (by decide) (by decide) <|
      .line (l := "x:1") 2 (by decide) <| .line (l := "\r") 1 (by decide) <|
        @Padded.blank _ _ [0x3000, 13] (by decide) (by decide) <| .last (by decide)
  have hlength : ∀ l ∈ lines t', l.length < lineLimit := by decide
  have hread : read t none = .ok [⟨"x", [1]⟩, ⟨"y", [2]⟩] :=
    eq_ok_of_toOption (by decide +kernel)
  have hpadded' : Padded "x\n" "\nx\r\n" :=
    @Padded.blank _ _ [] (by decide) (by decide) <|
      .line (l := "x") 1 (by decide) <| .last (l := []) (by decide)
  refine ⟨hpadded, hlength, hread, ((read_padded hpadded hlength none).1 _).mpr hread, hpadded', ?_⟩
  have hread' : read "x\n" none = .error (.malformed 1 .missingSeparator) := by cbv
  exact (read_padded hpadded' (by decide) none).2.2 _ hread' (by decide)

end Log

end HitLog

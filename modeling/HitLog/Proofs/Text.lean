import HitLog.Text

/-!
# Cutting texts

Nothing in the log is escaped, so every cut must find the place at which two parts were joined. Each
lemma here says so under the condition that the separator does not occur where it would be found
instead: not in a field, not behind the last separator, not at the end of a line.

## Main results

* `Text.fields_append_cons` — a field ends at the first separator behind it
* `Text.fields_intercalate`, `Text.intercalate_fields` — joined fields are taken apart again, and
  fields taken apart are joined again
* `Text.splitAtLast_append_cons` — the last separator is found
* `Text.trimLineEnds_append`, `Text.exists_append_lineEnds` — trailing line ends go, nothing else
  does
* `Text.trimLineEnds_append_lineEnds` — how many they are does not count
-/

namespace HitLog

namespace Text

variable {sep : UInt8} {s t : Text}

/-! ### Fields -/

theorem fields_cons_self (sep : UInt8) (t : Text) : fields sep (sep :: t) = [] :: fields sep t := by
  simp [fields]

theorem fields_cons_of_ne {b : UInt8} (h : b ≠ sep) (t : Text) :
    fields sep (b :: t) = pushFront b (fields sep t) := by
  simp [fields, h]

theorem fields_of_not_mem (h : sep ∉ t) : fields sep t = [t] := by
  induction t with
  | nil => rfl
  | cons b t ih =>
    obtain ⟨hb, ht⟩ : sep ≠ b ∧ sep ∉ t := by simpa using h
    rw [fields_cons_of_ne (Ne.symm hb), ih ht, pushFront]

theorem fields_append_cons (h : sep ∉ s) (t : Text) :
    fields sep (s ++ sep :: t) = s :: fields sep t := by
  induction s with
  | nil => exact fields_cons_self sep t
  | cons b s ih =>
    obtain ⟨hb, hs⟩ : sep ≠ b ∧ sep ∉ s := by simpa using h
    rw [List.cons_append, fields_cons_of_ne (Ne.symm hb), ih hs, pushFront]

theorem fields_intercalate {fs : List Text} (hne : fs ≠ []) (h : ∀ f ∈ fs, sep ∉ f) :
    fields sep ([sep].intercalate fs) = fs := by
  induction fs with
  | nil => exact absurd rfl hne
  | cons f fs ih =>
    have hf : sep ∉ f := h f (by simp)
    cases fs with
    | nil => simpa using fields_of_not_mem hf
    | cons g gs =>
      have hrest : fields sep ([sep].intercalate (g :: gs)) = g :: gs :=
        ih (by simp) fun f' hf' => h f' (List.mem_cons_of_mem f hf')
      rw [List.intercalate_cons_cons, List.append_assoc, List.singleton_append,
        fields_append_cons hf, hrest]

theorem mem_intercalate {b : UInt8} {fs : List Text} (h : b ∈ [sep].intercalate fs) :
    b = sep ∨ ∃ f ∈ fs, b ∈ f := by
  induction fs with
  | nil => simp at h
  | cons f fs ih =>
    cases fs with
    | nil => exact .inr ⟨f, by simp, by simpa using h⟩
    | cons g gs =>
      rw [List.intercalate_cons_cons, List.append_assoc, List.mem_append] at h
      rcases h with h | h
      · exact .inr ⟨f, by simp, h⟩
      · rcases List.mem_cons.mp h with rfl | h
        · exact .inl rfl
        · exact (ih h).imp_right fun ⟨f', hf', hb⟩ => ⟨f', List.mem_cons_of_mem f hf', hb⟩

theorem mem_intercalate_of_mem {b : UInt8} {f : Text} {fs : List Text} (hf : f ∈ fs) (hb : b ∈ f) :
    b ∈ [sep].intercalate fs := by
  induction fs with
  | nil => cases hf
  | cons g fs ih =>
    cases fs with
    | nil =>
      rw [List.mem_singleton.mp hf] at hb
      simpa using hb
    | cons h hs =>
      rw [List.intercalate_cons_cons, List.append_assoc, List.mem_append]
      rcases List.mem_cons.mp hf with rfl | hf
      · exact .inl hb
      · exact .inr (List.mem_append_right _ (ih hf))

theorem fields_ne_nil (sep : UInt8) (t : Text) : fields sep t ≠ [] := by
  cases t with
  | nil => simp [fields]
  | cons b t =>
    by_cases h : b = sep
    · simp [h, fields_cons_self]
    · rw [fields_cons_of_ne h]
      cases fields sep t <;> simp [pushFront]

theorem fields_eq_splitOn (sep : UInt8) (t : Text) : fields sep t = t.splitOn sep := by
  induction t with
  | nil => rfl
  | cons b t ih =>
    rw [List.splitOn_eq_splitOnP, List.splitOnP_cons_eq_if_modifyHead,
      ← List.splitOn_eq_splitOnP, ← ih]
    by_cases h : b = sep
    · simp [h, fields_cons_self]
    · obtain ⟨f, fs, hfs⟩ := List.exists_cons_of_ne_nil (fields_ne_nil sep t)
      simp [h, fields_cons_of_ne h, hfs, pushFront]

theorem intercalate_fields (sep : UInt8) (t : Text) : [sep].intercalate (fields sep t) = t := by
  rw [fields_eq_splitOn, List.intercalate_splitOn]

theorem not_mem_of_mem_fields {f : Text} (hf : f ∈ fields sep t) : sep ∉ f := by
  induction t generalizing f with
  | nil =>
    rw [show f = [] by simpa [fields] using hf]
    simp
  | cons b t ih =>
    by_cases h : b = sep
    · rw [h, fields_cons_self] at hf
      rcases List.mem_cons.mp hf with rfl | hf
      · simp
      · exact ih hf
    · -- the octet goes to the front of the first field, and the others stay
      obtain ⟨g, gs, hgs⟩ := List.exists_cons_of_ne_nil (fields_ne_nil sep t)
      rw [fields_cons_of_ne h, hgs, pushFront] at hf
      rcases List.mem_cons.mp hf with rfl | hf
      · have hg : sep ∉ g := ih (by simp [hgs])
        simpa [Ne.symm h] using hg
      · exact ih (by simp [hgs, hf])

/-- Lines that each end in a separator leave one empty field behind the last. -/
theorem fields_flatMap_append {α : Type} {xs : List α} {f : α → Text} (h : ∀ x ∈ xs, sep ∉ f x) :
    fields sep (xs.flatMap fun x => f x ++ [sep]) = xs.map f ++ [[]] := by
  induction xs with
  | nil => rfl
  | cons x xs ih =>
    rw [List.flatMap_cons, List.append_assoc, List.singleton_append,
      fields_append_cons (h x (by simp)), ih fun y hy => h y (List.mem_cons_of_mem x hy),
      List.map_cons, List.cons_append]

/-! ### The last separator -/

theorem splitAtFirst_append_cons (h : sep ∉ s) (t : Text) :
    splitAtFirst sep (s ++ sep :: t) = some (s, t) := by
  have hs : ∀ b ∈ s, (b != sep) = true := fun b hb => by
    simpa using fun hc : b = sep => h (hc ▸ hb)
  rw [splitAtFirst, List.dropWhile_append_of_pos hs, List.takeWhile_append_of_pos hs]
  simp

theorem splitAtLast_append_cons (s : Text) (h : sep ∉ t) :
    splitAtLast sep (s ++ sep :: t) = some (s, t) := by
  have hr : (s ++ sep :: t).reverse = t.reverse ++ sep :: s.reverse := by simp
  rw [splitAtLast, hr, splitAtFirst_append_cons (by simpa using h)]
  simp

theorem splitAtLast_of_not_mem (h : sep ∉ t) : splitAtLast sep t = none := by
  have hall : ∀ b ∈ t.reverse, (b != sep) = true := by
    intro b hb
    simpa using fun hc : b = sep => h (hc ▸ List.mem_reverse.mp hb)
  have hdrop : (t.reverse ++ []).dropWhile (· != sep) = [] := List.dropWhile_append_of_pos hall
  rw [List.append_nil] at hdrop
  rw [splitAtLast, splitAtFirst, hdrop]
  rfl

/-- Behind the last separator there is none. -/
theorem exists_eq_append_cons_last (h : sep ∈ t) : ∃ s u, t = s ++ sep :: u ∧ sep ∉ u := by
  obtain ⟨u, s, ht, hu⟩ := List.eq_append_cons_of_mem (List.mem_reverse.mpr h)
  refine ⟨s.reverse, u.reverse, ?_, by simpa using hu⟩
  rw [← t.reverse_reverse, ht]
  simp

/-! ### Line ends -/

/-- A run of line ends at the end goes, and with it nothing in front of an octet that is none. -/
theorem trimLineEnds_append (h : ∀ b, t.getLast? = some b → isLineEnd b = false)
    {ends : Text} (hends : ∀ b ∈ ends, isLineEnd b = true) : trimLineEnds (t ++ ends) = t := by
  have hr : ∀ b ∈ ends.reverse, isLineEnd b = true := fun b hb => hends b (List.mem_reverse.mp hb)
  rw [trimLineEnds, List.reverse_append, List.dropWhile_append_of_pos hr]
  rcases List.eq_nil_or_concat t with rfl | ⟨u, b, rfl⟩
  · rfl
  · have hb : isLineEnd b = false := h b (by simp)
    simp [hb]

/-- Line ends behind a text change nothing of what is left of it without them. -/
theorem trimLineEnds_append_lineEnds (t : Text) {ends : Text}
    (hends : ∀ b ∈ ends, isLineEnd b = true) : trimLineEnds (t ++ ends) = trimLineEnds t := by
  have hr : ∀ b ∈ ends.reverse, isLineEnd b = true := fun b hb => hends b (List.mem_reverse.mp hb)
  rw [trimLineEnds, trimLineEnds, List.reverse_append, List.dropWhile_append_of_pos hr]

/-- Every text ends in a run of line ends, which may be empty. -/
theorem exists_append_lineEnds (t : Text) :
    ∃ l ends : Text, t = l ++ ends ∧ (∀ b ∈ ends, isLineEnd b = true) ∧
      ∀ b, l.getLast? = some b → isLineEnd b = false := by
  refine ⟨t.trimLineEnds, (t.reverse.takeWhile isLineEnd).reverse, ?_, fun b hb => ?_,
    fun b hb => ?_⟩
  · rw [trimLineEnds, ← List.reverse_append, List.takeWhile_append_dropWhile, List.reverse_reverse]
  · exact List.all_eq_true.mp List.all_takeWhile b (List.mem_reverse.mp hb)
  · rw [trimLineEnds, List.getLast?_reverse] at hb
    have hhead := List.head?_dropWhile_not isLineEnd t.reverse
    rwa [hb] at hhead

end Text

end HitLog

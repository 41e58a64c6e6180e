import CommandLine.Proofs.Line.Exactness

/-!
# Lines put together

A line that is read leaves nothing behind: the scan stands outside of quotes, with the fields of the
last stage (`Reading.scan_append`). Behind a bar it goes on as if nothing had been read. Behind a
blank these fields come in front of the first ones of what follows (`Reading.scan_more`). So the
stages of two lines with a bar or a blank between them are those of the two (`stages_append`).
-/

namespace CommandLine.Line

namespace Reading

variable {r : Reading}

theorem Whole.rest_eq (h : r.Whole) : r.rest = [] := by
  simp [rest, h.no_escape, h.no_region]

theorem Whole.last_fields_ne_nil (h : r.Whole) : fieldsOf none r.last ≠ [] :=
  fun hnil => h.last_ne_nil (fieldsOf_eq_nil_iff.1 hnil)

/-- Behind a text with nothing open the scan goes on with the fields of the last words. -/
theorem scan_append (h : ¬ r.EndsEmpty) (hrest : r.rest = []) :
    ∃ fields field, closeField fields field = fieldsOf none r.last ∧ ∀ tail,
      scan .bare [] none (r.chars ++ tail) =
        (scan .bare fields field tail).map (r.ended.map (fieldsOf none) ++ ·) := by
  obtain ⟨fields, field, hclose, hscan⟩ := scan_words r.last [] none
  refine ⟨fields, field, hclose, fun tail => ?_⟩
  rw [chars, hrest, List.append_nil, List.append_assoc, scan_ended (ne_nil_of_not_endsEmpty h),
    hscan]

theorem scan_more (h : r.Whole) (more : List String) :
    ∃ first rest, r.stages = first :: rest ∧
      scan .bare more none r.chars = .ok ((more ++ first) :: rest) := by
  obtain ⟨ended, last, region?, loneEscape⟩ := r
  have hrest := h.rest_eq
  cases ended with
  | nil =>
    obtain ⟨fields, field, hclose, hscan⟩ := scan_words last more none
    have hne : closeField fields field ≠ [] := by
      rw [hclose]
      exact List.append_ne_nil_of_right_ne_nil _ h.last_fields_ne_nil
    refine ⟨fieldsOf none last, [], rfl, ?_⟩
    have hchars : (Reading.mk [] last region? loneEscape).chars = charsOf last ++ [] := by
      rw [chars, hrest]
      rfl
    rw [hchars, hscan, scan_end hne, hclose]
  | cons words ended =>
    obtain ⟨fields, field, hclose, hscan⟩ := scan_words words more none
    have hwords := ne_nil_of_not_endsEmpty h.not_endsEmpty words List.mem_cons_self
    have hne : closeField fields field ≠ [] := by
      rw [hclose]
      exact List.append_ne_nil_of_right_ne_nil _ hwords
    -- what follows the first bar is a line of its own
    have hends : ¬ (Reading.mk ended last region? loneEscape).EndsEmpty := by
      rintro ⟨w, hw, hblank⟩
      exact h.not_endsEmpty ⟨w, List.mem_cons_of_mem _ hw, hblank⟩
    have htail : (Reading.mk ended last region? loneEscape).Whole :=
      { h with not_endsEmpty := hends }
    refine ⟨fieldsOf none words, (Reading.mk ended last region? loneEscape).stages, rfl, ?_⟩
    have hchars : (Reading.mk (words :: ended) last region? loneEscape).chars =
        charsOf words ++ '|' :: (Reading.mk ended last region? loneEscape).chars := by
      simp [chars, rest]
    rw [hchars, hscan, scan_bar hne, scan_of_whole htail, hclose]
    rfl

end Reading

theorem exists_whole_of_stages {line : String} {x : List (List String)} (h : stages line = .ok x) :
    ∃ r : Reading, r.Whole ∧ r.chars = line.toList ∧ r.stages = x := by
  obtain ⟨r, hr⟩ := exists_reading line.toList
  unfold stages at h
  rw [← hr] at h
  obtain hwhole | ⟨fault, hrefuses⟩ := r.whole_or_refuses
  · exact ⟨r, hwhole, hr, Except.ok.inj ((Reading.scan_of_whole hwhole).symm.trans h)⟩
  · cases (Reading.scan_of_refuses hrefuses).symm.trans h

/-- The readings of a line that is refused say why. -/
theorem exists_refuses_of_stages {line : String} {fault : Fault} (h : stages line = .error fault) :
    ∃ r : Reading, r.Refuses fault ∧ r.chars = line.toList := by
  obtain ⟨r, hr⟩ := exists_reading line.toList
  unfold stages at h
  rw [← hr] at h
  obtain hwhole | ⟨fault', hrefuses⟩ := r.whole_or_refuses
  · cases (Reading.scan_of_whole hwhole).symm.trans h
  · obtain rfl : fault' = fault :=
      Except.error.inj ((Reading.scan_of_refuses hrefuses).symm.trans h)
    exact ⟨r, hrefuses, hr⟩

/-- **Lines compose.** Behind a line that is read and a bar, a line is read as it is alone, and
refused as it is alone. Behind a line with an empty stage everything is refused. Two lines that are
read can be put together with a blank between them: the last stage of the first line goes on with
the first stage of the second. -/
theorem stages_append (a b : String) :
    (∀ x, stages a = .ok x → stages (a ++ "|" ++ b) = (stages b).map (x ++ ·)) ∧
    (stages a = .error .emptyCommand → stages (a ++ "|" ++ b) = .error .emptyCommand) ∧
    ∀ x y, stages a = .ok x → stages b = .ok y →
      ∃ front last first rest, x = front ++ [last] ∧ y = first :: rest ∧
        ∀ w, Text.isBlank w = true →
          stages (a ++ String.singleton w ++ b) = .ok (front ++ (last ++ first) :: rest) := by
  have hbar : (a ++ "|" ++ b).toList = a.toList ++ '|' :: b.toList := by simp
  refine ⟨fun x hx => ?_, fun hempty => ?_, fun x y hx hy => ?_⟩
  · -- a bar behind a line that is read
    obtain ⟨r, hwhole, hr, rfl⟩ := exists_whole_of_stages hx
    obtain ⟨fields, field, hclose, hscan⟩ := Reading.scan_append hwhole.not_endsEmpty hwhole.rest_eq
    rw [stages, hbar, ← hr, hscan, scan_bar (hclose ▸ hwhole.last_fields_ne_nil), hclose]
    unfold stages
    cases scan .bare [] none b.toList <;> simp [Except.map, Reading.stages]
  · -- a bar behind a line with an empty stage
    obtain ⟨r, hrefuses, hr⟩ := exists_refuses_of_stages hempty
    rw [stages, hbar, ← hr]
    cases hrefuses with
    | emptyStage h =>
      obtain ⟨words, hwords, hblank⟩ := h
      rw [Reading.chars, List.append_assoc, List.append_assoc]
      exact scan_endsEmpty ⟨words, hwords, fieldsOf_eq_nil_iff.2 hblank⟩ _
    | emptyLast h hlone hregion hlast =>
      have hrest : r.rest = [] := by simp [Reading.rest, hlone, hregion]
      obtain ⟨fields, field, hclose, hscan⟩ := Reading.scan_append h hrest
      rw [hscan, scan_bar_empty (hclose.trans (fieldsOf_eq_nil_iff.2 hlast))]
      rfl
  · -- a blank
    obtain ⟨r, hwhole, hr, rfl⟩ := exists_whole_of_stages hx
    obtain ⟨s, hwhole', hs, rfl⟩ := exists_whole_of_stages hy
    obtain ⟨fields, field, hclose, hscan⟩ := Reading.scan_append hwhole.not_endsEmpty hwhole.rest_eq
    obtain ⟨first, rest, hstages, hmore⟩ := Reading.scan_more hwhole' (fieldsOf none r.last)
    refine ⟨r.ended.map (fieldsOf none), fieldsOf none r.last, first, rest, rfl, hstages,
      fun w hw => ?_⟩
    have hblank : (a ++ String.singleton w ++ b).toList = a.toList ++ w :: b.toList := by simp
    rw [stages, hblank, ← hr, hscan, scan_blank hw, hclose, ← hs, hmore]
    rfl

/-- An escaped backslash and a closed region at the end of a line do not reach across. -/
theorem stages_append_quotes :
    stages "a|'b'\\\\" = .ok [["a"], ["b\\"]] ∧ stages "'c d'" = .ok [["c d"]] ∧
      stages "a|'b'\\\\|'c d'" = .ok [["a"], ["b\\"], ["c d"]] ∧
      stages "a|'b'\\\\ 'c d'" = .ok [["a"], ["b\\", "c d"]] ∧
      stages "a| |'b" = .error .emptyCommand := by
  have ha : stages "a|'b'\\\\" = .ok [["a"], ["b\\"]] := by decide
  have hb : stages "'c d'" = .ok [["c d"]] := by decide
  have hempty : stages "a| " = .error .emptyCommand := by decide
  obtain ⟨hbar, -, hblank⟩ := stages_append "a|'b'\\\\" "'c d'"
  obtain ⟨-, hrefused, -⟩ := stages_append "a| " "'b"
  obtain ⟨front, last, first, rest, hx, hy, hjoined⟩ := hblank _ _ ha hb
  have hparts : [["a"]] ++ [["b\\"]] = front ++ [last] := hx
  obtain ⟨rfl, hlast⟩ := List.append_inj' hparts rfl
  obtain ⟨rfl, rfl⟩ := List.cons.inj hy
  obtain rfl := List.singleton_inj.1 hlast
  refine ⟨ha, hb, ?_, hjoined ' ' (by decide), hrefused hempty⟩
  rw [show "a|'b'\\\\|'c d'" = "a|'b'\\\\" ++ "|" ++ "'c d'" by decide, hbar _ ha, hb]
  rfl

end CommandLine.Line

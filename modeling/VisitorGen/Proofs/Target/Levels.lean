import VisitorGen.Proofs.Layout.Shift

set_option autoImplicit false

/-! # The levels of the pieces

Whatever the names and the types of a family are, and also if no lines declare it, the visitor, the
base and the class of a variant each close the levels that they open, and no others: wherever a
piece starts, `openLevels` leaves the number of levels as it was. A sheet is therefore at the same
level before and behind a piece, and the piece is written the same at every level, only further in
(`Sheet.run_appends_shifted`). -/

namespace VisitorGen

variable (d : Nat) (f : Family)

/-! ## The pieces of C# -/

theorem CSharp.openLevels_visitor : openLevels d (visitor f) = some d := by
  simp [visitor, Step.openAfter]

theorem CSharp.openLevels_base : openLevels d base = some d := by
  simp [base, Step.openAfter]

theorem CSharp.openLevels_variant (v : Variant) : openLevels d (variant f v) = some d := by
  simp [variant, Step.openAfter]

/-! ## The pieces of Rust -/

theorem Rust.openLevels_visitor : openLevels d (visitor f) = some d := by
  simp [visitor, Step.openAfter]

theorem Rust.openLevels_deriveLine (o : Options) : openLevels d (deriveLine o) = some d := by
  rw [deriveLine]
  split <;> simp [Step.openAfter]

theorem Rust.openLevels_forwarding : openLevels d (forwarding f) = some d := by
  rw [forwarding]
  split <;> simp [Step.openAfter]

theorem Rust.openLevels_base (o : Options) : openLevels d (base o f) = some d := by
  simp [base, openLevels_deriveLine, openLevels_forwarding, Step.openAfter]

theorem Rust.openLevels_variant (o : Options) (v : Variant) :
    openLevels d (variant o f v) = some d := by
  simp [variant, openLevels_deriveLine, Step.openAfter]

/-! ## Sheets -/

/-- The visitor, the base and every variant's class leave as many levels open as they find. -/
theorem Target.openLevels_piece (t : Target) (v : Variant) :
    ∀ piece ∈ [t.visitor f, t.base f, t.variant f v], openLevels d piece = some d := by
  simp only [List.forall_mem_cons]
  cases t with
  | csharp o =>
    refine ⟨?_, ?_, ?_, by simp⟩
    · exact CSharp.openLevels_visitor d f
    · exact CSharp.openLevels_base d
    · exact CSharp.openLevels_variant d f v
  | rust o =>
    refine ⟨?_, ?_, ?_, by simp⟩
    · exact Rust.openLevels_visitor d f
    · exact Rust.openLevels_base d f o
    · exact Rust.openLevels_variant d f o v

/-- **A sheet only grows, and nesting only shifts.** What some steps add depends on the level, the
    unit and the steps alone. If they close no level but their own, they add at any level what they
    add at the outermost one, with the indentation of the level in front of each text, and change
    the level by what they open and close. The visitor, the base and the class of a variant are such
    steps, and return to the level at which they start. -/
theorem Sheet.run_appends_shifted (s : Sheet) (steps : List Step) (t : Target) (f : Family)
    (v : Variant) :
    (s.run steps).text = s.text ++ String.ofList (layout s.unit s.level steps) ∧
      (ClosesOwn steps →
        layout s.unit s.level steps =
            layout s.unit 0 (steps.map (Step.padded (indentation s.unit s.level))) ∧
          (s.run steps).level + closings steps = s.level + openings steps) ∧
      ∀ piece ∈ [t.visitor f, t.base f, t.variant f v],
        ClosesOwn piece ∧ (s.run piece).level = s.level := by
  have hlevel : ∀ {steps e}, openLevels 0 steps = some e → (s.run steps).level = s.level + e := by
    intro steps e h
    rw [level_run]
    exact levelAfterAll_of_openLevels h s.level
  refine ⟨s.text_run steps, fun h => ?_, fun piece hpiece => ?_⟩
  · obtain ⟨e, he⟩ := closesOwn_iff.mp h
    have hcount := count_of_openLevels he
    exact ⟨layout_shift s.unit he s.level, by rw [hlevel he]; omega⟩
  · have hopen := Target.openLevels_piece 0 f t v piece hpiece
    exact ⟨closesOwn_iff.mpr ⟨0, hopen⟩, hlevel hopen⟩

/-- The second line of a text gets no indentation, and neither does a blank line. -/
theorem Sheet.run_appends_shifted_two :
    ClosesOwn [.opening "b \x7b", .line "c\nd", .blank, .closing "\x7d"] ∧
      (Sheet.run ⟨"a\n", 2, "  "⟩
        [.opening "b \x7b", .line "c\nd", .blank, .closing "\x7d"]).text =
          "a\n    b \x7b\n      c\nd\n\n    \x7d\n" ∧
      (Sheet.run ⟨"a\n", 2, "  "⟩
        [.opening "b \x7b", .line "c\nd", .blank, .closing "\x7d"]).level = 2 ∧
      (Sheet.run ⟨"a\n", 2, "  "⟩ ((Target.rust ⟨[]⟩).base ⟨"\x7d", []⟩)).level = 2 := by
  obtain ⟨htext, hshift, hpieces⟩ := Sheet.run_appends_shifted ⟨"a\n", 2, "  "⟩
    [.opening "b \x7b", .line "c\nd", .blank, .closing "\x7d"] (.rust ⟨[]⟩) ⟨"\x7d", []⟩ ⟨"", []⟩
  have hcloses : ClosesOwn [.opening "b \x7b", .line "c\nd", .blank, .closing "\x7d"] :=
    closesOwn_iff.mpr ⟨0, rfl⟩
  obtain ⟨hlayout, hlevel⟩ := hshift hcloses
  refine ⟨hcloses, ?_, by simpa [Step.opens, Step.closes] using hlevel, ?_⟩
  · rw [htext, hlayout]
    decide
  · exact (hpieces _ (by simp)).2

end VisitorGen

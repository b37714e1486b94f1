import Mathlib.Tactic.Common
import VisitorGen.Proofs.Declaration.PaddedLine

set_option autoImplicit false

/-! # Writing and reading variants

The text form of a variant is a padded line with single spaces, so a well-formed variant reads back
from it. Conversely, whatever is read from any line is well formed: the parts that the reader sees
have no top-level comma, and all but the last one end in front of one. Writing and reading are
therefore inverse to each other exactly on the well-formed variants. -/

namespace VisitorGen

open Text

/-! ## The text form as a padded line -/

theorem allBlank_nil : AllBlank [] := by decide

theorem allBlank_space : AllBlank [' '] := by decide

/-- A field with one space before its type and one before its name. -/
def Field.spaced (f : Field) : PaddedField where
  field := f
  before := [' ']
  gap := [' ']
  after := []
  blank_before := allBlank_space
  blank_gap := allBlank_space
  blank_after := allBlank_nil

/-- The line of a variant with single spaces. -/
def Variant.spaced (v : Variant) : PaddedLine where
  name := v.name
  before := []
  between := [' ']
  fields := v.fields.map Field.spaced
  after := []
  blank_before := allBlank_nil
  blank_between := allBlank_space
  blank_after := allBlank_nil

theorem Field.listText_spaced (f : Field) (fs : List Field) :
    PaddedField.listText ((f :: fs).map Field.spaced) = ' ' :: (Field.listText (f :: fs)).toList := by
  induction fs generalizing f with
  | nil => simp [PaddedField.listText, PaddedField.text, PaddedField.core, Field.spaced,
      Field.listText, Field.text]
  | cons g fs ih =>
    rw [List.map_cons, List.map_cons, PaddedField.listText_cons_cons, ← List.map_cons, ih]
    simp [Field.listText, Field.text, String.intercalate_cons_cons, PaddedField.text,
      PaddedField.core, Field.spaced]

theorem Variant.text_spaced (v : Variant) : v.spaced.text = v.text.toList := by
  obtain ⟨name, fields⟩ := v
  cases fields with
  | nil => simp [Variant.spaced, PaddedLine.text, Variant.text, PaddedField.listText]
  | cons f fs =>
    have hlist := Field.listText_spaced f fs
    simp [Variant.spaced, PaddedLine.text, Variant.text, -List.map_cons, hlist]

theorem Variant.variant_spaced (v : Variant) : v.spaced.variant = v := by
  simp [Variant.spaced, PaddedLine.variant, Field.spaced, Function.comp_def]

theorem Variant.separated_spaced (v : Variant) : v.spaced.Separated := by
  intro p hp _
  obtain ⟨f, -, rfl⟩ := List.mem_map.mp (List.mem_of_mem_head? hp)
  simp [Field.spaced]

/-- A well-formed variant reads back from its text form. -/
theorem Variant.read_text {v : Variant} (h : v.WellFormed) :
    Variant.read v.text.toList = .ok v := by
  have hread := PaddedLine.read_text (l := v.spaced) (by rwa [v.variant_spaced]) v.separated_spaced
  rwa [v.text_spaced, v.variant_spaced] at hread

/-! ## What is read is well formed -/

theorem Variant.wellFormed_of_read {line : List Char} {v : Variant}
    (h : Variant.read line = .ok v) : v.WellFormed := by
  cases hsplit : splitLoneColon? none (trim line) with
  | none => simp [Variant.read, separatorOffset?_eq, hsplit] at h
  | some parts =>
    obtain ⟨front, back⟩ := parts
    rw [Variant.read_of_split hsplit] at h
    split at h
    · next hname =>
      cases hfields : Field.readList back with
      | error e => simp [hfields] at h
      | ok fields =>
        simp only [hfields, Except.ok.injEq] at h
        subst h
        have hwf : (∀ f ∈ fields, f.WellFormed) ∧ ∀ f ∈ fields.dropLast, f.Closed := by
          rw [Field.readList] at hfields
          split at hfields
          · rw [← Except.ok.inj hfields]
            simp
          · exact Field.wellFormed_of_readEach hfields
        exact ⟨by simpa using hname, hwf.1, hwf.2⟩
    · exact absurd h (by simp)

/-- **Writing and reading are inverse exactly on the well-formed variants.** A variant reads back
    from its text form if and only if it is well formed, and nothing else is read from any line. -/
theorem Variant.read_text_iff_wellFormed :
    (∀ v : Variant, Variant.read v.text.toList = .ok v ↔ v.WellFormed) ∧
      ∀ (line : List Char) (v : Variant), Variant.read line = .ok v →
        v.WellFormed ∧ Variant.read v.text.toList = .ok v := by
  constructor
  · intro v
    exact ⟨Variant.wellFormed_of_read, Variant.read_text⟩
  · intro line v h
    have hwf := Variant.wellFormed_of_read h
    exact ⟨hwf, Variant.read_text hwf⟩

end VisitorGen

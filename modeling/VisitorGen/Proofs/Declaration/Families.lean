import VisitorGen.Proofs.Declaration.RoundTrip

set_option autoImplicit false

/-! # Families that are read

The reader of a family keeps the names that it has seen, so no two variants of a family have the
same name, and none has the name of the family. Together with what a line gives for a variant this
is all that is known of a family before a target checks it (`Family.wellFormed_of_read`). -/

namespace VisitorGen

open Text

/-- All names are identifiers, the variants are well formed, and no name is declared twice. -/
structure Family.WellFormed (f : Family) : Prop where
  name : isIdentifier f.name.toList = true
  variants : ∀ v ∈ f.variants, v.WellFormed
  distinct : f.variantNames.Nodup
  name_notMem : f.name ∉ f.variantNames

theorem ne_empty_of_isIdentifier {name : String} (h : isIdentifier name.toList = true) : name ≠ "" :=
  fun hempty => ne_nil_of_isIdentifier h (String.toList_eq_nil_iff.mpr hempty)

theorem Family.WellFormed.name_ne_empty {f : Family} (h : f.WellFormed) : f.name ≠ "" :=
  ne_empty_of_isIdentifier h.name

/-- The first line of a family gives its first variant, with a fresh name. -/
theorem Variant.exists_of_readLines_cons {family line : String} {seen lines : List String}
    {vs : List Variant} (h : Variant.readLines family seen (line :: lines) = .ok vs) :
    ∃ v rest, Variant.read line.toList = .ok v ∧ v.name ≠ family ∧ v.name ∉ seen ∧
      Variant.readLines family (v.name :: seen) lines = .ok rest ∧ vs = v :: rest := by
  rw [Variant.readLines] at h
  split at h
  · exact absurd h (by simp)
  · next v hread =>
    split at h
    · exact absurd h (by simp)
    · next hfamily =>
      split at h
      · exact absurd h (by simp)
      · next hseen =>
        split at h
        · exact absurd h (by simp)
        · next rest hrest => exact ⟨v, rest, hread, hfamily, hseen, hrest, (Except.ok.inj h).symm⟩

theorem Variant.wellFormed_of_readLines {family : String} {seen lines : List String}
    {vs : List Variant} (h : Variant.readLines family seen lines = .ok vs) :
    (∀ v ∈ vs, v.WellFormed ∧ v.name ≠ family ∧ v.name ∉ seen) ∧ (vs.map (·.name)).Nodup := by
  induction lines generalizing seen vs with
  | nil =>
    rw [← Except.ok.inj h]
    simp
  | cons line lines ih =>
    obtain ⟨v, rest, hread, hfamily, hseen, hrest, rfl⟩ := Variant.exists_of_readLines_cons h
    obtain ⟨hvariants, hdistinct⟩ := ih hrest
    constructor
    · refine List.forall_mem_cons.mpr ⟨⟨Variant.wellFormed_of_read hread, hfamily, hseen⟩, ?_⟩
      intro w hw
      obtain ⟨hwf, hname, hlater⟩ := hvariants w hw
      exact ⟨hwf, hname, List.not_mem_of_not_mem_cons hlater⟩
    · -- the later variants were read with the name of this one among those seen
      rw [List.map_cons, List.nodup_cons]
      refine ⟨fun hmem => ?_, hdistinct⟩
      obtain ⟨w, hw, heq⟩ := List.mem_map.mp hmem
      exact (hvariants w hw).2.2 (by rw [heq]; exact List.mem_cons_self)

/-- A family that is read is well formed. -/
theorem Family.wellFormed_of_read {name : String} {lines : List String} {f : Family}
    (h : Family.read name lines = .ok f) : f.name = name ∧ f.WellFormed := by
  rw [Family.read] at h
  split at h
  · next hname =>
    split at h
    · exact absurd h (by simp)
    · next vs hvs =>
      obtain ⟨hvariants, hdistinct⟩ := Variant.wellFormed_of_readLines hvs
      rw [← Except.ok.inj h]
      refine ⟨rfl, hname, fun v hv => (hvariants v hv).1, hdistinct, fun hmem => ?_⟩
      obtain ⟨v, hv, heq⟩ := List.mem_map.mp hmem
      exact (hvariants v hv).2.1 heq
  · exact absurd h (by simp)

end VisitorGen

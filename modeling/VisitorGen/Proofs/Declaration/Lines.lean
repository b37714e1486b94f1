import VisitorGen.Proofs.Declaration.Families
import VisitorGen.Proofs.First

set_option autoImplicit false

/-! # Lines of a family

The reader of a family goes through the lines once, with the names that it has seen. What it does is
a matter of single lines: a line is *at fault* behind others if it cannot be read, or if it gives a
variant the name of the family or a name that one of the others declares. A family is read exactly
if no line is at fault behind those before it (`Family.read_eq_ok_iff`), and the error is otherwise
that of the first line that is (`Family.read_eq_error_iff`). Errors of the reader are of few forms,
and the line that they name is the trimmed one (`Variant.read_error_cases`). -/

namespace VisitorGen

open Text

/-! ## Errors of single lines -/

/-- A name is missing, or is no identifier. -/
def FamilyError.IsNameFault : FamilyError → Prop
  | .missingFieldName _ => True
  | .invalidIdentifier _ => True
  | _ => False

theorem Field.isNameFault_of_read {token : List Char} {e : FamilyError}
    (h : Field.read token = .error e) : e.IsNameFault := by
  rw [Field.read] at h
  split at h
  · rw [← Except.error.inj h]
    trivial
  · split at h
    · exact absurd h (by simp)
    · rw [← Except.error.inj h]
      trivial

theorem Field.isNameFault_of_readEach {tokens : List (List Char)} {e : FamilyError}
    (h : Field.readEach tokens = .error e) : e.IsNameFault := by
  induction tokens with
  | nil => exact absurd h (by simp [Field.readEach])
  | cons token tokens ih =>
    rw [Field.readEach] at h
    split at h
    · next e' hread =>
      rw [← Except.error.inj h]
      exact Field.isNameFault_of_read hread
    · split at h
      · next htokens =>
        rw [Except.error.inj h] at htokens
        exact ih htokens
      · exact absurd h (by simp)

theorem Field.isNameFault_of_readList {list : List Char} {e : FamilyError}
    (h : Field.readList list = .error e) : e.IsNameFault := by
  rw [Field.readList] at h
  split at h
  · exact absurd h (by simp)
  · exact Field.isNameFault_of_readEach h

/-- All that the error of a line can be. It names the line without its padding. -/
theorem Variant.read_error_cases {line : List Char} {e : FamilyError}
    (h : Variant.read line = .error e) :
    e = .missingSeparator (String.ofList (trim line)) ∨
      ∃ cause : FamilyError, cause.IsNameFault ∧ e = .inLine (String.ofList (trim line)) cause := by
  cases hsplit : splitLoneColon? none (trim line) with
  | none =>
    simp only [Variant.read, separatorOffset?_eq, hsplit, Option.map_none] at h
    exact Or.inl (Except.error.inj h).symm
  | some parts =>
    obtain ⟨front, back⟩ := parts
    rw [Variant.read_of_split hsplit] at h
    right
    split at h
    · cases hfields : Field.readList back with
      | error cause =>
        simp only [hfields, Except.error.injEq] at h
        exact ⟨cause, Field.isNameFault_of_readList hfields, h.symm⟩
      | ok fields => simp [hfields] at h
    · exact ⟨.invalidIdentifier _, trivial, (Except.error.inj h).symm⟩

/-- A line is read without its padding. -/
theorem Variant.read_trim (line : List Char) : Variant.read (trim line) = Variant.read line := by
  rw [Variant.read, Variant.read, (tight_trim line).trim_eq]

/-! ## Families that are read -/

/-- The line declares the variant. -/
def Variant.Declares (line : String) (v : Variant) : Prop :=
  Variant.read line.toList = .ok v

theorem exists_of_mem_forall₂ {α β : Type} {R : α → β → Prop} {as : List α} {bs : List β}
    (h : List.Forall₂ R as bs) {a : α} (ha : a ∈ as) : ∃ b ∈ bs, R a b := by
  induction h with
  | nil => exact absurd ha (by simp)
  | cons hfirst _ ih =>
    rcases List.mem_cons.mp ha with rfl | ha
    · exact ⟨_, List.mem_cons_self, hfirst⟩
    · obtain ⟨b, hb, hrest⟩ := ih ha
      exact ⟨b, List.mem_cons_of_mem _ hb, hrest⟩

theorem Variant.exists_forall₂_declares {lines : List String}
    (h : ∀ line ∈ lines, ∃ v, Variant.Declares line v) :
    ∃ vs, List.Forall₂ Variant.Declares lines vs := by
  induction lines with
  | nil => exact ⟨[], .nil⟩
  | cons line lines ih =>
    rw [List.forall_mem_cons] at h
    obtain ⟨v, hv⟩ := h.1
    obtain ⟨vs, hvs⟩ := ih h.2
    exact ⟨v :: vs, .cons hv hvs⟩

/-- The names that lines declare. A line that cannot be read declares none. -/
def Variant.declaredNames (lines : List String) : List String :=
  lines.filterMap fun line => (Variant.read line.toList).toOption.map (·.name)

theorem Variant.declaredNames_cons {line : String} {v : Variant} (h : Variant.Declares line v)
    (lines : List String) :
    Variant.declaredNames (line :: lines) = v.name :: Variant.declaredNames lines := by
  have hline : Variant.read line.toList = .ok v := h
  simp [Variant.declaredNames, hline, Except.toOption]

theorem Variant.declaredNames_eq_map {lines : List String} {vs : List Variant}
    (h : List.Forall₂ Variant.Declares lines vs) :
    Variant.declaredNames lines = vs.map (·.name) := by
  induction h with
  | nil => rfl
  | cons hline _ ih => rw [Variant.declaredNames_cons hline, ih, List.map_cons]

/-- The reader goes on behind a line that declares a fresh name. -/
theorem Variant.readLines_cons {family line : String} {seen : List String} {v : Variant}
    (hline : Variant.Declares line v) (hfamily : v.name ≠ family) (hseen : v.name ∉ seen)
    (lines : List String) : Variant.readLines family seen (line :: lines) =
      (Variant.readLines family (v.name :: seen) lines).map (v :: ·) := by
  have hread : Variant.read line.toList = .ok v := hline
  rw [Variant.readLines]
  simp only [hread, if_neg hfamily, if_neg hseen]
  cases Variant.readLines family (v.name :: seen) lines with
  | error e => rfl
  | ok vs => rfl

theorem Variant.readLines_eq_ok_iff {family : String} {seen lines : List String}
    {vs : List Variant} : Variant.readLines family seen lines = .ok vs ↔
      List.Forall₂ Variant.Declares lines vs ∧ (∀ v ∈ vs, v.name ≠ family ∧ v.name ∉ seen) ∧
        (vs.map (·.name)).Nodup := by
  constructor
  · intro h
    obtain ⟨hvariants, hdistinct⟩ := Variant.wellFormed_of_readLines h
    refine ⟨?_, fun v hv => (hvariants v hv).2, hdistinct⟩
    clear hvariants hdistinct
    induction lines generalizing seen vs with
    | nil =>
      rw [← Except.ok.inj h]
      exact .nil
    | cons line lines ih =>
      obtain ⟨v, rest, hread, -, -, hrest, rfl⟩ := Variant.exists_of_readLines_cons h
      exact .cons hread (ih hrest)
  · rintro ⟨hlines, hvariants, hdistinct⟩
    induction hlines generalizing seen with
    | nil => rfl
    | cons hline _ ih =>
      rw [List.forall_mem_cons] at hvariants
      rw [List.map_cons, List.nodup_cons] at hdistinct
      rw [Variant.readLines_cons hline hvariants.1.1 hvariants.1.2, ih ?_ hdistinct.2]
      · rfl
      -- the names behind this one differ from it, so they are still fresh
      intro w hw
      refine ⟨(hvariants.2 w hw).1, ?_⟩
      rw [List.mem_cons, not_or]
      exact ⟨fun heq => hdistinct.1 (heq ▸ List.mem_map_of_mem hw), (hvariants.2 w hw).2⟩

/-- A family is read exactly if its lines declare its variants, whose names differ from each other
    and from that of the family. -/
theorem Family.read_eq_ok_iff {name : String} {lines : List String} {f : Family} :
    Family.read name lines = .ok f ↔ isIdentifier name.toList = true ∧ f.name = name ∧
      List.Forall₂ Variant.Declares lines f.variants ∧ (∀ v ∈ f.variants, v.name ≠ name) ∧
        f.variantNames.Nodup := by
  obtain ⟨fname, vs⟩ := f
  have hlines := @Variant.readLines_eq_ok_iff name [] lines vs
  simp only [List.not_mem_nil, not_false_eq_true, and_true] at hlines
  rw [Family.read]
  constructor
  · intro h
    split at h
    · next hname =>
      split at h
      · exact absurd h (by simp)
      · next vs' hvs =>
        obtain ⟨rfl, rfl⟩ : name = fname ∧ vs' = vs := by simpa using h
        exact ⟨hname, rfl, hlines.mp hvs⟩
    · exact absurd h (by simp)
  · rintro ⟨hname, rfl, hvs⟩
    rw [if_pos hname, hlines.mpr hvs]

/-! ## Lines at fault -/

/-- What is wrong with a line, if the names in `seen` are taken: it cannot be read, or else its
    variant has the name of the family, or else a name that is taken. -/
def Variant.faultAmong (family : String) (seen : List String) (line : String) :
    Option FamilyError :=
  match Variant.read line.toList with
  | .error e => some e
  | .ok v =>
    if v.name = family then some (.variantNamedAfterFamily family)
    else if v.name ∈ seen then some (.duplicateVariant family v.name)
    else none

/-- What is wrong with a line behind the lines `earlier`. -/
def Variant.faultBehind (family : String) (earlier : List String) (line : String) :
    Option FamilyError :=
  Variant.faultAmong family (Variant.declaredNames earlier) line

/-- No line is at fault behind those before it. -/
def Variant.Faultless (family : String) (lines : List String) : Prop :=
  ∀ front line back, lines = front ++ line :: back → Variant.faultBehind family front line = none

theorem Variant.faultless_iff_noFaultIn {family : String} {lines : List String} :
    Variant.Faultless family lines ↔
      NoFaultIn (fun front line => Variant.faultBehind family front line ≠ none) lines := by
  simp only [Variant.Faultless, NoFaultIn, not_not]

theorem Variant.faultAmong_congr {family line : String} {seen seen' : List String}
    (h : ∀ name, name ∈ seen ↔ name ∈ seen') :
    Variant.faultAmong family seen line = Variant.faultAmong family seen' line := by
  simp only [Variant.faultAmong, h]

theorem Variant.faultAmong_eq_none_iff {family line : String} {seen : List String} :
    Variant.faultAmong family seen line = none ↔
      ∃ v, Variant.Declares line v ∧ v.name ≠ family ∧ v.name ∉ seen := by
  rw [Variant.faultAmong]
  cases hread : Variant.read line.toList with
  | error e => simp [Variant.Declares, hread]
  | ok v =>
    by_cases hfamily : v.name = family
    · simp [Variant.Declares, hread, hfamily]
    · by_cases hseen : v.name ∈ seen
      · simp [Variant.Declares, hread, hfamily, hseen]
      · simp [Variant.Declares, hread, hfamily, hseen]

/-- The reader stops at a line that is at fault, whatever lines follow. -/
theorem Variant.readLines_of_faultAmong {family line : String} {seen : List String}
    {e : FamilyError} (h : Variant.faultAmong family seen line = some e) (lines : List String) :
    Variant.readLines family seen (line :: lines) = .error e := by
  rw [Variant.faultAmong] at h
  rw [Variant.readLines]
  cases hread : Variant.read line.toList with
  | error e' =>
    rw [hread] at h
    rw [Option.some.inj h]
  | ok v =>
    simp only [hread] at h ⊢
    by_cases hfamily : v.name = family
    · rw [if_pos hfamily] at h ⊢
      rw [Option.some.inj h]
    · rw [if_neg hfamily] at h ⊢
      by_cases hseen : v.name ∈ seen
      · rw [if_pos hseen] at h ⊢
        rw [Option.some.inj h]
      · exact absurd h (by simp [hseen])

/-- Lines without faults are read through, and their names are taken from then on. -/
theorem Variant.readLines_append {family : String} {front seen : List String}
    (hfront : ∀ before line after, front = before ++ line :: after →
      Variant.faultAmong family (Variant.declaredNames before ++ seen) line = none) :
    ∃ vs, ∀ lines, Variant.readLines family seen (front ++ lines) =
      (Variant.readLines family ((Variant.declaredNames front).reverse ++ seen) lines).map
        (vs ++ ·) := by
  induction front generalizing seen with
  | nil =>
    refine ⟨[], fun lines => ?_⟩
    show _ = (Variant.readLines family seen lines).map id
    rw [Except.map_id]
    rfl
  | cons line front ih =>
    have hfirst : Variant.faultAmong family seen line = none := hfront [] line front rfl
    obtain ⟨v, hline, hfamily, hseen⟩ := Variant.faultAmong_eq_none_iff.mp hfirst
    have hrest : ∀ before line' after, front = before ++ line' :: after →
        Variant.faultAmong family (Variant.declaredNames before ++ v.name :: seen) line' =
          none := by
      intro before line' after hsplit
      have hfault := hfront (line :: before) line' after (by rw [hsplit]; rfl)
      rw [Variant.declaredNames_cons hline] at hfault
      rw [← hfault]
      exact Variant.faultAmong_congr fun name => List.perm_middle.mem_iff
    obtain ⟨vs, hvs⟩ := ih hrest
    refine ⟨v :: vs, fun lines => ?_⟩
    rw [List.cons_append, Variant.readLines_cons hline hfamily hseen, hvs,
      Variant.declaredNames_cons hline, List.reverse_cons, List.append_assoc,
      List.singleton_append]
    cases Variant.readLines family ((Variant.declaredNames front).reverse ++ v.name :: seen) lines with
    | error e => rfl
    | ok ws => rfl

/-- Lines with a fault have a first one. -/
theorem Variant.exists_first_fault {family : String} {lines : List String}
    (h : ¬ Variant.Faultless family lines) : ∃ front line back e, lines = front ++ line :: back ∧
      Variant.Faultless family front ∧ Variant.faultBehind family front line = some e := by
  rw [Variant.faultless_iff_noFaultIn] at h
  obtain ⟨front, line, back, hsplit, hfront, hline⟩ := VisitorGen.exists_first_fault h
  obtain ⟨e, he⟩ := Option.ne_none_iff_exists'.mp hline
  exact ⟨front, line, back, e, hsplit, Variant.faultless_iff_noFaultIn.mpr hfront, he⟩

theorem Variant.Faultless.readLines_append {family : String} {front : List String}
    (h : Variant.Faultless family front) : ∃ vs, ∀ lines,
      Variant.readLines family [] (front ++ lines) =
        (Variant.readLines family (Variant.declaredNames front).reverse lines).map (vs ++ ·) := by
  have hfront : ∀ before line after, front = before ++ line :: after →
      Variant.faultAmong family (Variant.declaredNames before ++ []) line = none := by
    intro before line after hsplit
    rw [List.append_nil]
    exact h before line after hsplit
  obtain ⟨vs, hvs⟩ := Variant.readLines_append hfront
  refine ⟨vs, fun lines => ?_⟩
  rw [hvs, List.append_nil]

/-- The first line at fault gives the error, whatever lines follow. -/
theorem Family.read_of_first_fault {name line : String} {front : List String} {e : FamilyError}
    (hname : isIdentifier name.toList = true) (hfront : Variant.Faultless name front)
    (hline : Variant.faultBehind name front line = some e) (back : List String) :
    Family.read name (front ++ line :: back) = .error e := by
  obtain ⟨vs, hvs⟩ := hfront.readLines_append
  have hfault : Variant.faultAmong name (Variant.declaredNames front).reverse line = some e := by
    rw [← hline]
    exact Variant.faultAmong_congr fun _ => List.mem_reverse
  rw [Family.read, if_pos hname, hvs, Variant.readLines_of_faultAmong hfault]
  rfl

theorem Family.exists_read_of_faultless {name : String} {lines : List String}
    (hname : isIdentifier name.toList = true) (h : Variant.Faultless name lines) :
    ∃ f, Family.read name lines = .ok f := by
  obtain ⟨vs, hvs⟩ := h.readLines_append
  have hread := hvs []
  rw [List.append_nil] at hread
  refine ⟨⟨name, vs ++ []⟩, ?_⟩
  rw [Family.read, if_pos hname, hread]
  rfl

/-- **What the reader of a family refuses.** Either the family's name is no identifier, or the error
    is that of the first line at fault behind those before it. -/
theorem Family.read_eq_error_iff {name : String} {lines : List String} {e : FamilyError} :
    Family.read name lines = .error e ↔
      (isIdentifier name.toList = false ∧ e = .invalidIdentifier name) ∨
      (isIdentifier name.toList = true ∧ ∃ front line back, lines = front ++ line :: back ∧
        Variant.Faultless name front ∧ Variant.faultBehind name front line = some e) := by
  cases hname : isIdentifier name.toList with
  | false =>
    rw [Family.read, hname]
    simp [eq_comm]
  | true =>
    simp only [Bool.true_eq_false, false_and, false_or, true_and]
    constructor
    · intro h
      have hfault : ¬ Variant.Faultless name lines := by
        intro hfaultless
        obtain ⟨f, hf⟩ := Family.exists_read_of_faultless hname hfaultless
        exact absurd (hf.symm.trans h) (by simp)
      obtain ⟨front, line, back, e', rfl, hfront, hline⟩ := Variant.exists_first_fault hfault
      rw [Family.read_of_first_fault hname hfront hline, Except.error.injEq] at h
      exact ⟨front, line, back, rfl, hfront, h ▸ hline⟩
    · rintro ⟨front, line, back, rfl, hfront, hline⟩
      exact Family.read_of_first_fault hname hfront hline back

end VisitorGen

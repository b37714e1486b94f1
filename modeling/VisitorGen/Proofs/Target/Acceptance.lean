import VisitorGen.Proofs.Batch
import VisitorGen.Proofs.Declaration.Lines
import VisitorGen.Proofs.Target.Check

set_option autoImplicit false

/-! # Accepting a family line by line

A family is accepted exactly if it is accepted without lines and with each of its lines alone, and
no two lines declare the same name (`Target.accepts_line_by_line`). The order of the lines plays no
part in this. Where several lines are at fault, the reader's error is that of the first one, and it
comes before all that the target has to say. An error that names a line can be had again from that
line alone (`Target.generate_named_line`): a reader's error names the line without its padding, and
a target's error names the text form of the variant, which reads back. -/

namespace VisitorGen

open Text

/-! ## What is accepted -/

theorem Target.accepts_iff {t : Target} {family : String} {lines : List String} :
    t.accepts ⟨family, lines⟩ = true ↔ ∃ u, t.generate family lines = .ok u := by
  rw [accepts]
  cases t.generate family lines with
  | error e => simp [Except.isOk, Except.toBool]
  | ok u => simp [Except.isOk, Except.toBool]

/-- A line declares a variant of the family: one that has another name than the family, and that the
    target can declare. -/
def Target.Admits (t : Target) (family line : String) : Prop :=
  ∃ v, Variant.Declares line v ∧ v.name ≠ family ∧ t.checkVariant family v = .ok ()

/-- The name of a family is an identifier that the target can declare. -/
def Target.AdmitsName (t : Target) (family : String) : Prop :=
  isIdentifier family.toList = true ∧ t.checkName family = .ok ()

/-- Acceptance without any order: a condition on the name, one on each line, and distinct names. -/
theorem Target.accepts_iff_admits {t : Target} {family : String} {lines : List String} :
    t.accepts ⟨family, lines⟩ = true ↔
      t.AdmitsName family ∧ (∀ line ∈ lines, t.Admits family line) ∧
        (Variant.declaredNames lines).Nodup := by
  rw [accepts_iff]
  constructor
  · rintro ⟨u, hu⟩
    obtain ⟨⟨_, vs⟩, hread, hcheck, -⟩ := generate_eq_ok_iff.mp hu
    obtain ⟨hname, rfl, hlines, hfamily, hdistinct⟩ := Family.read_eq_ok_iff.mp hread
    obtain ⟨hcheckName, hvariants⟩ := check_eq_ok_iff.mp hcheck
    refine ⟨⟨hname, hcheckName⟩, ?_, ?_⟩
    · intro line hline
      obtain ⟨v, hv, hread⟩ := exists_of_mem_forall₂ hlines hline
      exact ⟨v, hread, hfamily v hv, hvariants v hv⟩
    · rw [Variant.declaredNames_eq_map hlines]
      exact hdistinct
  · rintro ⟨⟨hname, hcheckName⟩, hadmits, hdistinct⟩
    obtain ⟨vs, hlines⟩ := Variant.exists_forall₂_declares fun line hline =>
      (hadmits line hline).imp fun v hv => hv.1
    have hvariants : ∀ v ∈ vs, v.name ≠ family ∧ t.checkVariant family v = .ok () := by
      intro v hv
      obtain ⟨line, hline, hdeclares⟩ := exists_of_mem_forall₂ hlines.flip hv
      obtain ⟨w, hw, hadmitted⟩ := hadmits line hline
      -- a line declares one variant only
      obtain rfl : v = w := Except.ok.inj (hdeclares.symm.trans hw)
      exact hadmitted
    rw [Variant.declaredNames_eq_map hlines] at hdistinct
    refine ⟨t.unit ⟨family, vs⟩, generate_eq_ok_iff.mpr ⟨⟨family, vs⟩, ?_, ?_, rfl⟩⟩
    · exact Family.read_eq_ok_iff.mpr
        ⟨hname, rfl, hlines, fun v hv => (hvariants v hv).1, hdistinct⟩
    · exact check_eq_ok_iff.mpr ⟨hcheckName, fun v hv => (hvariants v hv).2⟩

/-- What is accepted without lines is a name. -/
theorem Target.accepts_nil_iff {t : Target} {family : String} :
    t.accepts ⟨family, []⟩ = true ↔ t.AdmitsName family := by
  rw [accepts_iff_admits]
  simp [Variant.declaredNames]

/-- What is accepted with a single line is the name and the line. -/
theorem Target.accepts_singleton_iff {t : Target} {family line : String} :
    t.accepts ⟨family, [line]⟩ = true ↔ t.AdmitsName family ∧ t.Admits family line := by
  have hdistinct : (Variant.declaredNames [line]).Nodup := by
    rw [Variant.declaredNames, List.filterMap_cons]
    split
    · exact List.nodup_nil
    · exact List.nodup_singleton _
  rw [accepts_iff_admits]
  simp [hdistinct]

theorem Target.accepts_iff_each {t : Target} {family : String} {lines : List String} :
    t.accepts ⟨family, lines⟩ = true ↔ t.accepts ⟨family, []⟩ = true ∧
      (∀ line ∈ lines, t.accepts ⟨family, [line]⟩ = true) ∧
        (Variant.declaredNames lines).Nodup := by
  have hadmits := @accepts_iff_admits t family lines
  simp only [hadmits, accepts_nil_iff, accepts_singleton_iff]
  constructor
  · rintro ⟨hname, hlines, hdistinct⟩
    exact ⟨hname, fun line hline => ⟨hname, hlines line hline⟩, hdistinct⟩
  · rintro ⟨hname, hlines, hdistinct⟩
    exact ⟨hname, fun line hline => (hlines line hline).2, hdistinct⟩

theorem Target.accepts_perm {t : Target} {family : String} {lines lines' : List String}
    (h : lines'.Perm lines) : t.accepts ⟨family, lines'⟩ = t.accepts ⟨family, lines⟩ := by
  have hnames : (Variant.declaredNames lines').Perm (Variant.declaredNames lines) :=
    h.filterMap _
  rw [Bool.eq_iff_iff, accepts_iff_admits, accepts_iff_admits, hnames.nodup_iff]
  simp only [h.mem_iff]

theorem Target.accepts_sublist {t : Target} {family : String} {lines lines' : List String}
    (h : lines'.Sublist lines) (hlines : t.accepts ⟨family, lines⟩ = true) :
    t.accepts ⟨family, lines'⟩ = true := by
  obtain ⟨hname, hadmits, hdistinct⟩ := accepts_iff_admits.mp hlines
  refine accepts_iff_admits.mpr ⟨hname, fun line hline => hadmits line (h.subset hline), ?_⟩
  exact hdistinct.sublist (h.filterMap _)

/-! ## What is refused -/

/-- An error on a reserved name, perhaps with the line of the name. -/
def FamilyError.IsReserved : FamilyError → Prop
  | .reserved _ _ => True
  | .inLine _ cause => cause.IsReserved
  | _ => False

/-- The reader knows of no reserved names. -/
theorem Variant.not_isReserved_of_faultBehind {family line : String} {earlier : List String}
    {e : FamilyError} (h : Variant.faultBehind family earlier line = some e) : ¬ e.IsReserved := by
  rw [Variant.faultBehind, Variant.faultAmong] at h
  split at h
  · next hread =>
    obtain rfl : _ = e := Option.some.inj h
    rcases Variant.read_error_cases hread with rfl | ⟨cause, hcause, rfl⟩
    · exact id
    · cases cause <;> first | exact id | exact absurd hcause id
  · split at h
    · rw [← Option.some.inj h]
      exact id
    · split at h
      · rw [← Option.some.inj h]
        exact id
      · exact absurd h (by simp)

theorem Target.generate_of_read_error {t : Target} {family : String} {lines : List String}
    {e : FamilyError} (h : Family.read family lines = .error e) :
    t.generate family lines = .error e := by
  rw [generate, readFamily, h]
  rfl

/-- **A family is accepted line by line.** It is accepted exactly if it is without lines and with
    each line alone, and the names that the lines declare differ; its unit then lays out what the
    lines declare, one by one. So lines may be put in another order, or left out. If the name of the
    family is an identifier and some line is at fault behind those before it, the error is that of
    the first such line, whatever lines follow and whatever names the target reserves. -/
theorem Target.accepts_line_by_line (t : Target) (family : String) (lines : List String) :
    (t.accepts ⟨family, lines⟩ = true ↔ t.accepts ⟨family, []⟩ = true ∧
      (∀ line ∈ lines, t.accepts ⟨family, [line]⟩ = true) ∧
        (Variant.declaredNames lines).Nodup) ∧
    (∀ u, t.generate family lines = .ok u →
      ∃ vs, List.Forall₂ Variant.Declares lines vs ∧ u = t.unit ⟨family, vs⟩) ∧
    (∀ lines', lines'.Perm lines → t.accepts ⟨family, lines'⟩ = t.accepts ⟨family, lines⟩) ∧
    (∀ lines', lines'.Sublist lines → t.accepts ⟨family, lines⟩ = true →
      t.accepts ⟨family, lines'⟩ = true) ∧
    (isIdentifier family.toList = true → ¬ Variant.Faultless family lines →
      ∃ front line back e, lines = front ++ line :: back ∧ Variant.Faultless family front ∧
        Variant.faultBehind family front line = some e ∧ ¬ e.IsReserved ∧
          ∀ more, Family.read family (front ++ line :: more) = .error e ∧
            t.generate family (front ++ line :: more) = .error e) := by
  refine ⟨accepts_iff_each, ?_, fun lines' h => accepts_perm h, fun lines' h => accepts_sublist h,
    ?_⟩
  · intro u hu
    obtain ⟨⟨_, vs⟩, hread, -, rfl⟩ := generate_eq_ok_iff.mp hu
    obtain ⟨-, rfl, hlines, -⟩ := Family.read_eq_ok_iff.mp hread
    exact ⟨vs, hlines, rfl⟩
  · intro hname hfault
    obtain ⟨front, line, back, e, hsplit, hfront, hline⟩ := Variant.exists_first_fault hfault
    refine ⟨front, line, back, e, hsplit, hfront, hline,
      Variant.not_isReserved_of_faultBehind hline, fun more => ?_⟩
    have hread := Family.read_of_first_fault hname hfront hline more
    exact ⟨hread, generate_of_read_error hread⟩

/-- A line without a colon is reported, although the family and the field of another line have names
    that are reserved in C#. -/
theorem Target.accepts_line_by_line_reserved :
    isIdentifier "class".toList = true ∧
    ¬ Variant.Faultless "class" ["Value : object Value", "no separator"] ∧
    ∃ e, ¬ e.IsReserved ∧ (Target.csharp ⟨CSharp.defaultSpace⟩).generate "class"
      ["Value : object Value", "no separator"] = .error e := by
  have hname : isIdentifier "class".toList = true := by decide
  have hfault : ¬ Variant.Faultless "class" ["Value : object Value", "no separator"] := by
    intro h
    have hnone := h ["Value : object Value"] "no separator" [] rfl
    exact absurd hnone (by decide +kernel)
  obtain ⟨-, -, -, -, herror⟩ := (Target.csharp ⟨CSharp.defaultSpace⟩).accepts_line_by_line "class"
    ["Value : object Value", "no separator"]
  obtain ⟨front, line, back, e, hsplit, -, -, hreserved, hall⟩ := herror hname hfault
  exact ⟨hname, hfault, e, hreserved, by rw [hsplit]; exact (hall back).2⟩

/-! ## Errors that name a line -/

/-- The line that an error names. -/
def FamilyError.line? : FamilyError → Option String
  | .missingSeparator line => some line
  | .inLine line _ => some line
  | _ => none

theorem FamilyError.IsNameFault.line? {e : FamilyError} (h : e.IsNameFault) : e.line? = none := by
  cases e with
  | missingFieldName token => rfl
  | invalidIdentifier name => rfl
  | _ => exact absurd h id

/-- The cause of an error in a line names no line itself. -/
def FamilyError.IsFlat (e : FamilyError) : Prop :=
  ∀ line cause, e = .inLine line cause → cause.line? = none

/-- A line at fault whose error names a line is one that cannot be read. -/
theorem Variant.read_error_of_faultAmong {family line named : String} {seen : List String}
    {e : FamilyError} (h : Variant.faultAmong family seen line = some e)
    (hnamed : e.line? = some named) : Variant.read line.toList = .error e := by
  rw [Variant.faultAmong] at h
  split at h
  · next e' hread => rw [hread, Option.some.inj h]
  · split at h
    · simp [← Option.some.inj h, FamilyError.line?] at hnamed
    · split at h
      · simp [← Option.some.inj h, FamilyError.line?] at hnamed
      · exact absurd h (by simp)

/-- The error of a line is flat, and the line that it names has the same error. -/
theorem Variant.read_named_line {line : List Char} {e : FamilyError} {named : String}
    (h : Variant.read line = .error e) (hnamed : e.line? = some named) :
    Variant.read named.toList = .error e ∧ e.IsFlat := by
  have htrim : named = String.ofList (trim line) ∧ e.IsFlat := by
    rcases Variant.read_error_cases h with rfl | ⟨cause, hcause, rfl⟩
    · exact ⟨(Option.some.inj hnamed).symm, fun _ _ heq => absurd heq (by simp)⟩
    · refine ⟨(Option.some.inj hnamed).symm, fun line' cause' heq => ?_⟩
      obtain ⟨-, rfl⟩ := FamilyError.inLine.inj heq
      exact hcause.line?
  rw [htrim.1, String.toList_ofList, Variant.read_trim]
  exact ⟨h, htrim.2⟩

theorem Variant.faultless_nil (family : String) : Variant.Faultless family [] :=
  fun front line back h => absurd h (by simp)

/-- The error of a variant that cannot be declared comes again from the text form of the variant. -/
theorem Target.generate_text {t : Target} {family : String} {v : Variant} {cause : FamilyError}
    (hname : t.AdmitsName family) (hv : v.WellFormed) (hfamily : v.name ≠ family)
    (hcause : t.checkVariant family v = .error cause) :
    t.generate family [v.text] = .error (.inLine v.text cause) := by
  have hread : Family.read family [v.text] = .ok ⟨family, [v]⟩ := by
    refine Family.read_eq_ok_iff.mpr ⟨hname.1, rfl, .cons (Variant.read_text hv) .nil, ?_, ?_⟩
    · simpa using hfamily
    · exact List.nodup_singleton _
  have hcheck : t.check ⟨family, [v]⟩ = .error (.inLine v.text cause) :=
    check_eq_error_iff.mpr (Or.inr ⟨hname.2, [], v, [], cause, rfl, by simp, hcause, rfl⟩)
  rw [generate, readFamily, hread]
  simp only [hcheck]
  rfl

/-- **An error comes again from the line that it names.** If the error of a family names a line, this
    line alone has the same error. The cause of an error in a line never names a line again. -/
theorem Target.generate_named_line {t : Target} {family named : String} {lines : List String}
    {e : FamilyError} (h : t.generate family lines = .error e) (hnamed : e.line? = some named) :
    t.generate family [named] = .error e ∧
      ∀ line cause, e = .inLine line cause → cause.line? = none := by
  cases hread : Family.read family lines with
  | error e' =>
    -- the reader's error names the line without its padding
    obtain rfl : e' = e := by
      have hgen : t.generate family lines = .error e' := generate_of_read_error hread
      exact Except.error.inj (hgen.symm.trans h)
    rcases Family.read_eq_error_iff.mp hread with ⟨-, rfl⟩ | ⟨hname, front, line, back, -, -, hline⟩
    · simp [FamilyError.line?] at hnamed
    · obtain ⟨hagain, hflat⟩ :=
        Variant.read_named_line (Variant.read_error_of_faultAmong hline hnamed) hnamed
      have hfault : Variant.faultBehind family [] named = some e' := by
        rw [Variant.faultBehind, Variant.faultAmong, hagain]
      refine ⟨generate_of_read_error ?_, hflat⟩
      exact Family.read_of_first_fault hname (Variant.faultless_nil family) hfault []
  | ok f =>
    -- the target's error names the text form of a variant, which reads back
    have hcheck : t.check f = .error e := by
      cases hcheck : t.check f with
      | error e' => simpa [generate, readFamily, hread, hcheck, Except.map] using h
      | ok _ => simp [generate, readFamily, hread, hcheck, Except.map] at h
    obtain ⟨hname, rfl, -, hfamily, -⟩ := Family.read_eq_ok_iff.mp hread
    rcases check_eq_error_iff.mp hcheck with hfirst | ⟨hfirst, front, v, back, cause, hsplit, -, hv, rfl⟩
    · obtain ⟨name, clash, rfl⟩ := exists_of_checkName hfirst
      simp [FamilyError.line?] at hnamed
    · obtain rfl : v.text = named := Option.some.inj hnamed
      have hmem : v ∈ f.variants := by rw [hsplit]; simp
      have hwf := (Family.wellFormed_of_read hread).2.variants v hmem
      refine ⟨generate_text ⟨hname, hfirst⟩ hwf (hfamily v hmem) hv, fun line cause' heq => ?_⟩
      obtain ⟨-, rfl⟩ := FamilyError.inLine.inj heq
      obtain ⟨name, clash, rfl⟩ := exists_of_checkVariant hv
      rfl

/-- A padded line with a reserved field is named by its text form, and fails alone as it does behind
    another line. -/
theorem Target.generate_named_line_padded :
    (Target.rust ⟨Rust.defaultDerives⟩).generate "Expr" ["Nil :", "  This:  Token   self "] =
      .error (.inLine "This : Token self" (.reserved "self" .fieldKeyword)) ∧
    (Target.rust ⟨Rust.defaultDerives⟩).generate "Expr" ["This : Token self"] =
      .error (.inLine "This : Token self" (.reserved "self" .fieldKeyword)) := by
  have hgen : (Target.rust ⟨Rust.defaultDerives⟩).generate "Expr"
      ["Nil :", "  This:  Token   self "] =
        .error (.inLine "This : Token self" (.reserved "self" .fieldKeyword)) := by
    decide +kernel
  exact ⟨hgen, (Target.generate_named_line hgen rfl).1⟩

end VisitorGen

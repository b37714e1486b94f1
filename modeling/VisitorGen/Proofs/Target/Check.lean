import VisitorGen.Proofs.Declaration.Lines
import VisitorGen.Proofs.Target.FileName

set_option autoImplicit false

/-! # Checking variants one by one

Both targets check the name of a family first and then its variants in order, each on its own, up to
the first fault. So a family passes exactly if its name and each of its variants do
(`Target.check_eq_ok_iff`), and the fault of a variant does not depend on the variants around it
(`Target.check_eq_error_iff`). All that a check ever reports is a reserved name. -/

namespace VisitorGen

/-! ## Checking each variant -/

/-- Check variants in order; a fault is reported with the line of its variant. -/
def checkEach (check : Variant → Except FamilyError Unit) : List Variant → Except FamilyError Unit
  | [] => .ok ()
  | v :: vs =>
    match check v with
    | .error cause => .error (.inLine v.text cause)
    | .ok () => checkEach check vs

variable {check : Variant → Except FamilyError Unit}

theorem checkEach_cons_of_error {v : Variant} {cause : FamilyError} (h : check v = .error cause)
    (vs : List Variant) : checkEach check (v :: vs) = .error (.inLine v.text cause) := by
  simp [checkEach, h]

theorem checkEach_append_of_ok {front : List Variant} (h : ∀ v ∈ front, check v = .ok ())
    (vs : List Variant) : checkEach check (front ++ vs) = checkEach check vs := by
  induction front with
  | nil => rfl
  | cons v front ih =>
    rw [List.forall_mem_cons] at h
    rw [List.cons_append, checkEach, h.1]
    exact ih h.2

theorem checkEach_eq_error_iff {vs : List Variant} {e : FamilyError} :
    checkEach check vs = .error e ↔ ∃ front v back cause, vs = front ++ v :: back ∧
      (∀ w ∈ front, check w = .ok ()) ∧ check v = .error cause ∧ e = .inLine v.text cause := by
  constructor
  · intro h
    induction vs with
    | nil => exact absurd h (by simp [checkEach])
    | cons v vs ih =>
      cases hv : check v with
      | error cause =>
        rw [checkEach_cons_of_error hv] at h
        exact ⟨[], v, vs, cause, rfl, by simp, hv, (Except.error.inj h).symm⟩
      | ok _ =>
        rw [checkEach, hv] at h
        obtain ⟨front, w, back, cause, rfl, hfront, hw, he⟩ := ih h
        exact ⟨v :: front, w, back, cause, rfl, List.forall_mem_cons.mpr ⟨hv, hfront⟩, hw, he⟩
  · rintro ⟨front, v, back, cause, rfl, hfront, hv, rfl⟩
    rw [checkEach_append_of_ok hfront, checkEach_cons_of_error hv]

theorem checkEach_eq_ok_iff {vs : List Variant} :
    checkEach check vs = .ok () ↔ ∀ v ∈ vs, check v = .ok () := by
  constructor
  · intro h
    induction vs with
    | nil => simp
    | cons v vs ih =>
      cases hv : check v with
      | error cause => simp [checkEach_cons_of_error hv] at h
      | ok _ =>
        rw [checkEach, hv] at h
        exact List.forall_mem_cons.mpr ⟨hv, ih h⟩
  · intro h
    have hall := checkEach_append_of_ok h []
    rwa [List.append_nil] at hall

theorem CSharp.checkVariants_eq (vs : List Variant) :
    CSharp.checkVariants vs = checkEach CSharp.checkVariant vs := by
  induction vs with
  | nil => rfl
  | cons v vs ih =>
    cases hv : checkVariant v with
    | error cause => simp only [checkVariants, checkEach, hv]
    | ok _ => simp only [checkVariants, checkEach, hv, ih]

theorem Rust.checkVariants_eq (visitor : String) (vs : List Variant) :
    Rust.checkVariants visitor vs = checkEach (Rust.checkVariant visitor) vs := by
  induction vs with
  | nil => rfl
  | cons v vs ih =>
    cases hv : checkVariant visitor v with
    | error cause => simp only [checkVariants, checkEach, hv]
    | ok _ => simp only [checkVariants, checkEach, hv, ih]

/-! ## Checking a family -/

namespace Target

/-- Whether the name of a family can be declared. -/
def checkName (t : Target) (family : String) : Except FamilyError Unit :=
  t.check ⟨family, []⟩

/-- Whether a variant can be declared in a family. -/
def checkVariant : Target → String → Variant → Except FamilyError Unit
  | .csharp _, _, v => CSharp.checkVariant v
  | .rust _, family, v => Rust.checkVariant (family ++ "Visitor") v

/-- A family is checked by its name and then by its variants. -/
theorem check_eq (t : Target) (f : Family) :
    t.check f = match t.checkName f.name with
      | .error e => .error e
      | .ok () => checkEach (t.checkVariant f.name) f.variants := by
  cases t with
  | csharp o =>
    by_cases hname : CSharp.isKeyword f.name = true
    · simp [checkName, check, CSharp.check, hname]
    · simp only [checkName, check, CSharp.check, if_neg hname]
      exact CSharp.checkVariants_eq f.variants
  | rust o =>
    by_cases hname : Rust.isKeyword f.name = true
    · simp [checkName, check, Rust.check, hname]
    · by_cases hparameter : Rust.isPathKeyword (snakeCase f.name) = true
      · simp [checkName, check, Rust.check, hname, hparameter]
      · simp only [checkName, check, Rust.check, if_neg hname, if_neg hparameter]
        exact Rust.checkVariants_eq _ f.variants

theorem check_eq_ok_iff {t : Target} {f : Family} :
    t.check f = .ok () ↔
      t.checkName f.name = .ok () ∧ ∀ v ∈ f.variants, t.checkVariant f.name v = .ok () := by
  rw [check_eq]
  cases t.checkName f.name with
  | error e => simp
  | ok _ => simp [checkEach_eq_ok_iff]

/-- The error of a family is that of its name, or that of the first variant that cannot be
    declared. -/
theorem check_eq_error_iff {t : Target} {f : Family} {e : FamilyError} :
    t.check f = .error e ↔ t.checkName f.name = .error e ∨
      (t.checkName f.name = .ok () ∧ ∃ front v back cause, f.variants = front ++ v :: back ∧
        (∀ w ∈ front, t.checkVariant f.name w = .ok ()) ∧
          t.checkVariant f.name v = .error cause ∧ e = .inLine v.text cause) := by
  rw [check_eq]
  cases t.checkName f.name with
  | error e' => simp
  | ok _ => simp [checkEach_eq_error_iff]

end Target

/-! ## What is reported -/

theorem CSharp.exists_of_checkFields {className : String} {fs : List Field} {e : FamilyError}
    (h : CSharp.checkFields className fs = .error e) : ∃ name clash, e = .reserved name clash := by
  induction fs with
  | nil => exact absurd h (by simp [checkFields])
  | cons f fs ih =>
    rw [checkFields] at h
    split at h
    · exact ⟨_, _, (Except.error.inj h).symm⟩
    · split at h
      · exact ⟨_, _, (Except.error.inj h).symm⟩
      · exact ih h

namespace Target

/-- The fault of a variant is a reserved name. -/
theorem exists_of_checkVariant {t : Target} {family : String} {v : Variant} {e : FamilyError}
    (h : t.checkVariant family v = .error e) : ∃ name clash, e = .reserved name clash := by
  cases t with
  | csharp o =>
    rw [checkVariant, CSharp.checkVariant] at h
    split at h
    · exact ⟨_, _, (Except.error.inj h).symm⟩
    · split at h
      · exact ⟨_, _, (Except.error.inj h).symm⟩
      · exact CSharp.exists_of_checkFields h
  | rust o =>
    rw [checkVariant, Rust.checkVariant] at h
    split at h
    · exact ⟨_, _, (Except.error.inj h).symm⟩
    · split at h
      · exact ⟨_, _, (Except.error.inj h).symm⟩
      · split at h
        · exact ⟨_, _, (Except.error.inj h).symm⟩
        · exact absurd h (by simp)

/-- The fault of a family's name is a reserved name. -/
theorem exists_of_checkName {t : Target} {family : String} {e : FamilyError}
    (h : t.checkName family = .error e) : ∃ name clash, e = .reserved name clash := by
  cases t with
  | csharp o =>
    rw [checkName, check, CSharp.check] at h
    split at h
    · exact ⟨_, _, (Except.error.inj h).symm⟩
    · exact absurd h (by simp [CSharp.checkVariants])
  | rust o =>
    rw [checkName, check, Rust.check] at h
    split at h
    · exact ⟨_, _, (Except.error.inj h).symm⟩
    · split at h
      · exact ⟨_, _, (Except.error.inj h).symm⟩
      · exact absurd h (by simp [Rust.checkVariants])

end Target

end VisitorGen

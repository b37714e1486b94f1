import Mathlib
import VisitorGen.Text.Blank
import VisitorGen.Text.Identifier

set_option autoImplicit false

/-! # Padding

A text is *tight* when no blank stands at either of its ends. Trimming takes a text out of its
padding: whatever blanks stand around a tight text, `trim` gives the tight text back (`trim_pad`),
and every text is its trimmed form between blanks (`exists_trim`). The last blank of a text parts
a word without blanks from what stands before it. -/

namespace VisitorGen.Text

/-- Every character of the text is blank. -/
def AllBlank (cs : List Char) : Prop := ∀ c ∈ cs, isBlank c = true

instance (cs : List Char) : Decidable (AllBlank cs) :=
  decidable_of_iff (cs.all isBlank = true) List.all_eq_true

/-- No blank stands at either end of the text. -/
structure Tight (cs : List Char) : Prop where
  head : ∀ c ∈ cs.head?, isBlank c = false
  last : ∀ c ∈ cs.getLast?, isBlank c = false

theorem tight_iff (cs : List Char) :
    (cs.head?.all fun c => !isBlank c) = true ∧ (cs.getLast?.all fun c => !isBlank c) = true ↔
      Tight cs := by
  simp only [Option.all_eq_true, Bool.not_eq_true']
  exact ⟨fun h => ⟨h.1, h.2⟩, fun h => ⟨h.head, h.last⟩⟩

instance (cs : List Char) : Decidable (Tight cs) :=
  decidable_of_iff _ (tight_iff cs)

theorem tight_append {as bs : List Char} (has : as ≠ []) (hbs : bs ≠ [])
    (hhead : ∀ c ∈ as.head?, isBlank c = false) (hlast : ∀ c ∈ bs.getLast?, isBlank c = false) :
    Tight (as ++ bs) where
  head c hc := by
    rw [List.head?_append_of_ne_nil _ has] at hc
    exact hhead c hc
  last c hc := by
    rw [List.getLast?_append_of_ne_nil _ hbs] at hc
    exact hlast c hc

theorem AllBlank.append {as bs : List Char} (ha : AllBlank as) (hb : AllBlank bs) :
    AllBlank (as ++ bs) := by
  intro c hc
  rcases List.mem_append.mp hc with h | h
  · exact ha c h
  · exact hb c h

theorem AllBlank.reverse {cs : List Char} (h : AllBlank cs) : AllBlank cs.reverse :=
  fun c hc => h c (List.mem_reverse.mp hc)

theorem allBlank_singleton {c : Char} (h : isBlank c = true) : AllBlank [c] := by
  intro d hd
  rw [List.mem_singleton.mp hd]
  exact h

/-! ## Trimming one end -/

theorem trimStart_append {before : List Char} (h : AllBlank before) (cs : List Char) :
    trimStart (before ++ cs) = trimStart cs :=
  List.dropWhile_append_of_pos h

theorem trimEnd_append {after : List Char} (cs : List Char) (h : AllBlank after) :
    trimEnd (cs ++ after) = trimEnd cs := by
  rw [trimEnd, List.reverse_append, List.dropWhile_append_of_pos h.reverse, trimEnd]

theorem trimStart_eq_self {cs : List Char} (h : ∀ c ∈ cs.head?, isBlank c = false) :
    trimStart cs = cs := by
  cases cs with
  | nil => rfl
  | cons c cs =>
    have hc : isBlank c = false := h c rfl
    rw [trimStart, List.dropWhile_cons_of_neg (by simp [hc])]

theorem trimEnd_eq_self {cs : List Char} (h : ∀ c ∈ cs.getLast?, isBlank c = false) :
    trimEnd cs = cs := by
  have hrev : trimStart cs.reverse = cs.reverse :=
    trimStart_eq_self (by rwa [List.head?_reverse])
  rw [trimEnd, ← trimStart, hrev, List.reverse_reverse]

theorem exists_trimStart (cs : List Char) :
    ∃ before, AllBlank before ∧ cs = before ++ trimStart cs :=
  ⟨cs.takeWhile isBlank, fun _ hc => List.mem_takeWhile_imp hc, List.takeWhile_append_dropWhile.symm⟩

theorem exists_trimEnd (cs : List Char) :
    ∃ after, AllBlank after ∧ cs = trimEnd cs ++ after := by
  obtain ⟨before, hb, heq⟩ := exists_trimStart cs.reverse
  refine ⟨before.reverse, hb.reverse, ?_⟩
  rw [trimEnd, ← trimStart, ← List.reverse_append, ← heq, List.reverse_reverse]

theorem head_trimStart (cs : List Char) : ∀ c ∈ (trimStart cs).head?, isBlank c = false := by
  intro c hc
  have h := List.head?_dropWhile_not isBlank cs
  rw [← trimStart, Option.mem_def.mp hc] at h
  simpa using h

theorem last_trimEnd (cs : List Char) : ∀ c ∈ (trimEnd cs).getLast?, isBlank c = false := by
  intro c hc
  rw [trimEnd, List.getLast?_reverse] at hc
  exact head_trimStart cs.reverse c hc

theorem last_cons_trimEnd {d : Char} (hd : isBlank d = false) (cs : List Char) :
    ∀ c ∈ (d :: trimEnd cs).getLast?, isBlank c = false := by
  intro c hc
  rw [List.getLast?_cons] at hc
  cases hlast : (trimEnd cs).getLast? with
  | none =>
    rw [hlast] at hc
    rw [← Option.some.inj hc]
    exact hd
  | some e =>
    rw [hlast] at hc
    rw [← Option.some.inj hc]
    exact last_trimEnd cs e hlast

/-- The start of a text survives trimming its end, as long as anything does. -/
theorem head_trimEnd (cs : List Char) : ∀ c ∈ (trimEnd cs).head?, c ∈ cs.head? := by
  intro c hc
  obtain ⟨after, -, heq⟩ := exists_trimEnd cs
  rw [heq, List.head?_append, Option.mem_def.mp hc]
  rfl

theorem trimEnd_ne_nil {cs : List Char} {c : Char} (hc : c ∈ cs) (h : isBlank c = false) :
    trimEnd cs ≠ [] := by
  intro hnil
  obtain ⟨after, hafter, heq⟩ := exists_trimEnd cs
  rw [hnil, List.nil_append] at heq
  rw [heq] at hc
  simp [hafter c hc] at h

/-! ## Trimming both ends -/

theorem tight_trim (cs : List Char) : Tight (trim cs) where
  head c hc := head_trimStart cs c (head_trimEnd (trimStart cs) c hc)
  last := last_trimEnd (trimStart cs)

/-- Trimming only takes blanks away. -/
theorem exists_trim (cs : List Char) :
    ∃ before after, AllBlank before ∧ AllBlank after ∧ cs = before ++ trim cs ++ after := by
  obtain ⟨before, hb, hstart⟩ := exists_trimStart cs
  obtain ⟨after, ha, hend⟩ := exists_trimEnd (trimStart cs)
  refine ⟨before, after, hb, ha, ?_⟩
  rw [trim, List.append_assoc, ← hend, ← hstart]

theorem trim_append {after : List Char} (cs : List Char) (h : AllBlank after) :
    trim (cs ++ after) = trim cs := by
  by_cases hcs : AllBlank cs
  · have hboth := trimStart_append (hcs.append h) []
    have hone := trimStart_append hcs []
    rw [List.append_nil] at hboth hone
    rw [trim, trim, hboth, hone]
  · -- something survives at the start, so `after` is trimmed from the end
    have hne : (List.dropWhile isBlank cs).isEmpty = false := by
      rw [List.isEmpty_eq_false_iff, ne_eq, List.dropWhile_eq_nil_iff]
      exact hcs
    rw [trim, trimStart, List.dropWhile_append, hne]
    exact trimEnd_append _ h

theorem trim_ne_nil {cs : List Char} {c : Char} (hc : c ∈ cs) (h : isBlank c = false) :
    trim cs ≠ [] := by
  intro hnil
  obtain ⟨before, after, hb, ha, heq⟩ := exists_trim cs
  rw [hnil, List.append_nil] at heq
  rw [heq] at hc
  simp [hb.append ha c hc] at h

theorem Tight.trim_eq {cs : List Char} (h : Tight cs) : trim cs = cs := by
  rw [trim, trimStart_eq_self h.head, trimEnd_eq_self h.last]

/-- Trimming takes a tight text out of any padding. -/
theorem trim_pad {before after cs : List Char} (hb : AllBlank before) (ha : AllBlank after)
    (h : Tight cs) : trim (before ++ cs ++ after) = cs := by
  rw [trim_append _ ha, trim, trimStart_append hb, ← trim, h.trim_eq]

/-! ## The last word -/

/-- A text splits at a blank that no other blank follows. -/
theorem splitLastBlank?_append (front : List Char) {b : Char} {word : List Char}
    (hb : isBlank b = true) (hw : ∀ c ∈ word, isBlank c = false) :
    splitLastBlank? (front ++ b :: word) = some (front, word) := by
  induction front with
  | nil =>
    have hnone := (splitLastBlank?_eq_none_iff word).mpr hw
    simp [splitLastBlank?, hnone, hb]
  | cons c front ih => simp [splitLastBlank?, ih]

/-- Nothing but one blank is lost when a text is split. -/
theorem eq_of_splitLastBlank? {cs front word : List Char}
    (h : splitLastBlank? cs = some (front, word)) :
    ∃ b, isBlank b = true ∧ cs = front ++ b :: word := by
  induction cs generalizing front with
  | nil => simp [splitLastBlank?] at h
  | cons c cs ih =>
    rw [splitLastBlank?] at h
    cases hsplit : splitLastBlank? cs with
    | some p =>
      obtain ⟨f, w⟩ := p
      rw [hsplit] at h
      simp only [Option.some.injEq, Prod.mk.injEq] at h
      obtain ⟨rfl, rfl⟩ := h
      obtain ⟨b, hb, rfl⟩ := ih hsplit
      exact ⟨b, hb, rfl⟩
    | none =>
      simp only [hsplit] at h
      split at h
      · next hc =>
        simp only [Option.some.injEq, Prod.mk.injEq] at h
        obtain ⟨rfl, rfl⟩ := h
        exact ⟨c, hc, rfl⟩
      · exact absurd h (by simp)

/-! ## Identifiers among blanks -/

/-- The characters of identifiers lie between the digit zero and the small z. -/
theorem toNat_of_isIdentifierPart {c : Char} (h : isIdentifierPart c = true) :
    48 ≤ c.toNat ∧ c.toNat ≤ 122 := by
  simp only [isIdentifierPart, Char.isAlphanum, Char.isAlpha, Char.isUpper, Char.isLower,
    Char.isDigit, Bool.or_eq_true, Bool.and_eq_true, decide_eq_true_eq, beq_iff_eq, ge_iff_le,
    UInt32.le_iff_toNat_le] at h
  rcases h with ((h | h) | h) | rfl
  · exact ⟨le_trans (by decide) h.1, le_trans h.2 (by decide)⟩
  · exact ⟨le_trans (by decide) h.1, le_trans h.2 (by decide)⟩
  · exact ⟨le_trans (by decide) h.1, le_trans h.2 (by decide)⟩
  · decide

theorem isBlank_of_isIdentifierPart {c : Char} (h : isIdentifierPart c = true) :
    isBlank c = false := by
  have hn := toNat_of_isIdentifierPart h
  simp only [isBlank, Bool.or_eq_false_iff, Bool.and_eq_false_iff, decide_eq_false_iff_not,
    beq_eq_false_iff_ne]
  omega

theorem isBlank_of_mem_identifier {cs : List Char} (h : isIdentifier cs = true) :
    ∀ c ∈ cs, isBlank c = false :=
  fun c hc => isBlank_of_isIdentifierPart (List.all_eq_true.mp (all_isIdentifierPart h) c hc)

theorem ne_nil_of_isIdentifier {cs : List Char} (h : isIdentifier cs = true) : cs ≠ [] := by
  rintro rfl
  simp [isIdentifier] at h

theorem tight_of_isIdentifier {cs : List Char} (h : isIdentifier cs = true) : Tight cs where
  head c hc := isBlank_of_mem_identifier h c (List.mem_of_mem_head? hc)
  last c hc := isBlank_of_mem_identifier h c (List.mem_of_mem_getLast? hc)

end VisitorGen.Text

import Mathlib.Data.List.Infix
import VisitorGen.Declaration.Reader
import VisitorGen.Proofs.Declaration.Parts
import VisitorGen.Proofs.Declaration.Separator

set_option autoImplicit false

/-! # Padded grammar lines

A *padded line* declares a variant with blanks wherever blanks may stand: around the name, around
the colon, around every comma, at the end, and between each type and its name. The reader takes the
padding away: it reads the declared variant from every padded line (`PaddedLine.read_text`), if the
variant is *well formed*. Being well formed is said by the scan of the types alone. -/

namespace VisitorGen

open Text

/-! ## Well-formed variants -/

/-- The name is an identifier, and the type is a tight text with no comma at depth zero. -/
structure Field.WellFormed (f : Field) : Prop where
  name : isIdentifier f.name.toList = true
  type_ne_empty : f.type ≠ ""
  tight : Tight f.type.toList
  commas : ∀ front back, f.type.toList = front ++ ',' :: back → (Scan.start.read front).depth ≠ 0

/-- The scan of the type ends at depth zero. -/
def Field.Closed (f : Field) : Prop := (Scan.start.read f.type.toList).depth = 0

/-- The name is an identifier, the fields are well formed, and only the last type may leave
    brackets open. -/
structure Variant.WellFormed (v : Variant) : Prop where
  name : isIdentifier v.name.toList = true
  fields : ∀ f ∈ v.fields, f.WellFormed
  closed : ∀ f ∈ v.fields.dropLast, f.Closed

theorem Field.WellFormed.type_ne_nil {f : Field} (h : f.WellFormed) : f.type.toList ≠ [] :=
  fun hnil => h.type_ne_empty (String.toList_eq_nil_iff.mp hnil)

theorem Field.WellFormed.no_topComma {f : Field} (h : f.WellFormed) :
    hasTopComma .start f.type.toList = false :=
  (no_topComma_iff _ _).mpr h.commas

/-! ## Padded fields -/

/-- A field with the blanks before its type, between its type and its name, and after its name. -/
structure PaddedField where
  field : Field
  before : List Char
  gap : List Char
  after : List Char
  blank_before : AllBlank before := by decide
  blank_gap : AllBlank gap := by decide
  gap_ne_nil : gap ≠ [] := by exact List.cons_ne_nil _ _
  blank_after : AllBlank after := by decide

namespace PaddedField

/-- The field from the start of its type to the end of its name. -/
def core (p : PaddedField) : List Char :=
  p.field.type.toList ++ (p.gap ++ p.field.name.toList)

/-- The field with all its padding. -/
def text (p : PaddedField) : List Char :=
  p.before ++ p.core ++ p.after

theorem tight_core {p : PaddedField} (h : p.field.WellFormed) : Tight p.core := by
  have hname := ne_nil_of_isIdentifier h.name
  refine tight_append h.type_ne_nil (by simp [hname]) h.tight.head ?_
  rw [List.getLast?_append_of_ne_nil _ hname]
  exact (tight_of_isIdentifier h.name).last

theorem splitLastBlank?_core {p : PaddedField} (h : p.field.WellFormed) :
    splitLastBlank? p.core = some (p.field.type.toList ++ p.gap.dropLast, p.field.name.toList) := by
  have hgap := List.dropLast_append_getLast p.gap_ne_nil
  have hcore : p.core = (p.field.type.toList ++ p.gap.dropLast)
      ++ p.gap.getLast p.gap_ne_nil :: p.field.name.toList := by
    rw [core]
    conv_lhs => rw [← hgap]
    simp
  rw [hcore]
  exact splitLastBlank?_append _ (p.blank_gap _ (List.getLast_mem p.gap_ne_nil))
    (isBlank_of_mem_identifier h.name)

/-- A well-formed field is read from its text, whatever the padding. -/
theorem read_text {p : PaddedField} (h : p.field.WellFormed) : Field.read p.text = .ok p.field := by
  have hgap : AllBlank p.gap.dropLast := fun c hc => p.blank_gap c (List.mem_of_mem_dropLast hc)
  have htrim : trim p.text = p.core := trim_pad p.blank_before p.blank_after (tight_core h)
  have htype : trimEnd (p.field.type.toList ++ p.gap.dropLast) = p.field.type.toList := by
    rw [trimEnd_append _ hgap, trimEnd_eq_self h.tight.last]
  simp [Field.read, htrim, splitLastBlank?_core h, h.name, htype]

/-! ## The scan of a padded field -/

theorem neutral_of_mem_tail {p : PaddedField} (hname : isIdentifier p.field.name.toList = true) :
    ∀ c ∈ p.gap ++ p.field.name.toList ++ p.after, Neutral c := by
  intro c hc
  simp only [List.mem_append] at hc
  rcases hc with (hc | hc) | hc
  · exact neutral_of_isBlank (p.blank_gap c hc)
  · exact neutral_of_isIdentifierPart (List.all_eq_true.mp (all_isIdentifierPart hname) c hc)
  · exact neutral_of_isBlank (p.blank_after c hc)

theorem start_read_before (p : PaddedField) : Scan.start.read p.before = .start :=
  Scan.start_read_neutral fun c hc => neutral_of_isBlank (p.blank_before c hc)

/-- Only the type counts for the depth after a padded field. -/
theorem depth_read_text {p : PaddedField} (hname : isIdentifier p.field.name.toList = true) :
    (Scan.start.read p.text).depth = (Scan.start.read p.field.type.toList).depth := by
  have htext : p.text
      = p.before ++ (p.field.type.toList ++ (p.gap ++ p.field.name.toList ++ p.after)) := by
    simp [text, core]
  rw [htext, Scan.read_append, start_read_before, Scan.read_append,
    Scan.depth_read_neutral _ (neutral_of_mem_tail hname)]

/-- Only the type of a padded field can have a top-level comma. -/
theorem hasTopComma_text {p : PaddedField} (hname : isIdentifier p.field.name.toList = true) :
    hasTopComma .start p.text = hasTopComma .start p.field.type.toList := by
  have htext : p.text
      = p.before ++ (p.field.type.toList ++ (p.gap ++ p.field.name.toList ++ p.after)) := by
    simp [text, core]
  have hbefore : hasTopComma .start p.before = false :=
    hasTopComma_neutral _ fun c hc => neutral_of_isBlank (p.blank_before c hc)
  rw [htext, hasTopComma_append, hbefore, start_read_before, hasTopComma_append,
    hasTopComma_neutral _ (neutral_of_mem_tail hname), Bool.false_or, Bool.or_false]

end PaddedField

/-- A field that is read stands in its token with some padding, between them its tight type and its
    name. -/
theorem exists_padded_of_read {token : List Char} {f : Field} (h : Field.read token = .ok f) :
    isIdentifier f.name.toList = true ∧ f.type ≠ "" ∧ Tight f.type.toList ∧
      ∃ p : PaddedField, p.field = f ∧ p.text = token := by
  obtain ⟨before, after, hb, ha, htoken⟩ := exists_trim token
  have htight := tight_trim token
  rw [Field.read] at h
  cases hsplit : splitLastBlank? (trim token) with
  | none => simp [hsplit] at h
  | some parts =>
    obtain ⟨type, name⟩ := parts
    obtain ⟨b, hblank, htrim⟩ := eq_of_splitLastBlank? hsplit
    simp only [hsplit] at h
    split at h
    · next hname =>
      simp only [Except.ok.injEq] at h
      subst h
      -- the token starts with no blank, so the type has a character before the last blank
      obtain ⟨c, type, rfl⟩ : ∃ c cs, type = c :: cs := by
        cases type with
        | nil =>
          rw [htrim] at htight
          exact absurd (htight.head b rfl) (by simp [hblank])
        | cons c cs => exact ⟨c, cs, rfl⟩
      have hc : isBlank c = false := htight.head c (by rw [htrim]; rfl)
      have hne : trimEnd (c :: type) ≠ [] := trimEnd_ne_nil (List.mem_cons_self) hc
      obtain ⟨rest, hrest, htype⟩ := exists_trimEnd (c :: type)
      have hhead : ∀ d ∈ (trimEnd (c :: type)).head?, isBlank d = false := by
        intro d hd
        rw [Option.some.inj (head_trimEnd _ d hd)] at hc
        exact hc
      refine ⟨by simpa using hname, ?_, ?_, ?_⟩
      · rw [ne_eq, ← String.toList_eq_nil_iff, String.toList_ofList]
        exact hne
      · rw [String.toList_ofList]
        exact ⟨hhead, last_trimEnd _⟩
      · refine ⟨⟨⟨String.ofList (trimEnd (c :: type)), String.ofList name⟩, before, rest ++ [b],
          after, hb, hrest.append (allBlank_singleton hblank), by simp, ha⟩, rfl, ?_⟩
        rw [htoken, htrim]
        conv_rhs => rw [htype]
        simp [PaddedField.text, PaddedField.core]
    · exact absurd h (by simp)

theorem Field.wellFormed_of_read {token : List Char} {f : Field} (h : Field.read token = .ok f)
    (hcomma : hasTopComma .start token = false) : f.WellFormed := by
  obtain ⟨hname, hne, htight, p, rfl, rfl⟩ := exists_padded_of_read h
  rw [PaddedField.hasTopComma_text hname] at hcomma
  exact ⟨hname, hne, htight, (no_topComma_iff _ _).mp hcomma⟩

theorem Field.closed_of_read {token : List Char} {f : Field} (h : Field.read token = .ok f)
    (hdepth : (Scan.start.read token).depth = 0) : f.Closed := by
  obtain ⟨hname, -, -, p, rfl, rfl⟩ := exists_padded_of_read h
  rwa [PaddedField.depth_read_text hname] at hdepth

/-! ## Lists of fields -/

theorem Field.exists_of_readEach_cons {token : List Char} {tokens : List (List Char)}
    {fs : List Field} (h : Field.readEach (token :: tokens) = .ok fs) :
    ∃ f rest, Field.read token = .ok f ∧ Field.readEach tokens = .ok rest ∧ fs = f :: rest := by
  rw [Field.readEach] at h
  cases hf : Field.read token with
  | error e => simp [hf] at h
  | ok f =>
    cases hrest : Field.readEach tokens with
    | error e => simp [hf, hrest] at h
    | ok rest =>
      simp only [hf, hrest, Except.ok.injEq] at h
      exact ⟨f, rest, rfl, rfl, h.symm⟩

/-- What is read from the parts of a text is well formed: no part has a top-level comma, and all
    but the last one stop in front of one. -/
theorem Field.wellFormed_of_readEach {list : List Char} {fs : List Field}
    (h : Field.readEach (splitAtCommas list) = .ok fs) :
    (∀ f ∈ fs, f.WellFormed) ∧ ∀ f ∈ fs.dropLast, f.Closed := by
  induction list using splitAtCommas_induction generalizing fs with
  | whole list hno =>
    rw [splitAtCommas_of_no_comma hno] at h
    obtain ⟨f, rest, hf, hrest, rfl⟩ := Field.exists_of_readEach_cons h
    rw [Field.readEach, Except.ok.injEq] at hrest
    subst hrest
    exact ⟨by simpa using Field.wellFormed_of_read hf hno, by simp⟩
  | parted front back hno hdepth ih =>
    rw [splitAtCommas_cons hno hdepth] at h
    obtain ⟨f, rest, hf, hrest, rfl⟩ := Field.exists_of_readEach_cons h
    obtain ⟨hwf, hclosed⟩ := ih hrest
    refine ⟨List.forall_mem_cons.mpr ⟨Field.wellFormed_of_read hf hno, hwf⟩, ?_⟩
    cases rest with
    | nil => simp
    | cons g rest =>
      rw [List.dropLast_cons_of_ne_nil (by simp)]
      exact List.forall_mem_cons.mpr ⟨Field.closed_of_read hf hdepth, hclosed⟩

/-- Blanks at the end of a list change nothing, not even its fault. -/
theorem Field.readEach_append {after : List Char} (h : AllBlank after) (list : List Char) :
    Field.readEach (splitAtCommas (list ++ after)) = Field.readEach (splitAtCommas list) := by
  induction list using splitAtCommas_induction with
  | whole list hno =>
    have hboth : hasTopComma .start (list ++ after) = false := by
      rw [hasTopComma_append, hno, hasTopComma_neutral _ fun c hc => neutral_of_isBlank (h c hc)]
      rfl
    have hread : Field.read (list ++ after) = Field.read list := by
      rw [Field.read, Field.read, trim_append _ h]
    rw [splitAtCommas_of_no_comma hboth, splitAtCommas_of_no_comma hno]
    simp only [Field.readEach, hread]
  | parted front back hno hdepth ih =>
    rw [List.append_assoc, List.cons_append, splitAtCommas_cons hno hdepth,
      splitAtCommas_cons hno hdepth]
    simp only [Field.readEach, ih]

theorem Field.readList_append {after : List Char} (h : AllBlank after) (list : List Char) :
    Field.readList (list ++ after) = Field.readList list := by
  rw [Field.readList, Field.readList, trim_append _ h, Field.readEach_append h]

namespace PaddedField

/-- Padded fields with a comma between any two. -/
def listText (ps : List PaddedField) : List Char :=
  [','].intercalate (ps.map text)

theorem listText_cons_cons (p q : PaddedField) (ps : List PaddedField) :
    listText (p :: q :: ps) = p.text ++ ',' :: listText (q :: ps) := by
  simp [listText, List.intercalate_cons_cons]

theorem readEach_map_text {ps : List PaddedField} (hwf : ∀ p ∈ ps, p.field.WellFormed) :
    Field.readEach (ps.map text) = .ok (ps.map field) := by
  induction ps with
  | nil => rfl
  | cons p ps ih =>
    rw [List.forall_mem_cons] at hwf
    simp only [List.map_cons, Field.readEach, read_text hwf.1, ih hwf.2]

theorem readEach_listText {ps : List PaddedField} (hne : ps ≠ [])
    (hwf : ∀ p ∈ ps, p.field.WellFormed) (hclosed : ∀ f ∈ (ps.map field).dropLast, f.Closed) :
    Field.readEach (splitAtCommas (listText ps)) = .ok (ps.map field) := by
  have hparts : AreParts (listText ps) (ps.map text) := by
    refine ⟨by simpa using hne, rfl, ?_, ?_⟩
    · rw [List.forall_mem_map]
      intro p hp
      rw [hasTopComma_text (hwf p hp).name, (hwf p hp).no_topComma]
    · rw [← List.map_dropLast, List.forall_mem_map] at hclosed ⊢
      intro p hp
      rw [depth_read_text (hwf p (List.dropLast_subset ps hp)).name]
      exact hclosed p hp
  rw [splitAtCommas_eq_iff.mpr hparts, readEach_map_text hwf]

/-- Well-formed fields are read from their list, whatever the padding. -/
theorem readList_listText {ps : List PaddedField} (hwf : ∀ p ∈ ps, p.field.WellFormed)
    (hclosed : ∀ f ∈ (ps.map field).dropLast, f.Closed) :
    Field.readList (listText ps) = .ok (ps.map field) := by
  cases ps with
  | nil => rfl
  | cons p ps =>
    have hp : p.field.WellFormed := hwf p (by simp)
    have hmem : ∀ c ∈ p.field.name.toList, c ∈ listText (p :: ps) := by
      intro c hc
      have htext : c ∈ p.text := by simp [text, core, hc]
      cases ps with
      | nil => simpa [listText] using htext
      | cons q ps => simp [listText_cons_cons, htext]
    obtain ⟨c, hc⟩ := List.exists_mem_of_ne_nil _ (ne_nil_of_isIdentifier hp.name)
    have hne := trim_ne_nil (hmem c hc) (isBlank_of_mem_identifier hp.name c hc)
    rw [Field.readList, if_neg (by simpa using hne), readEach_listText (by simp) hwf hclosed]

end PaddedField

/-! ## Lines -/

/-- Reading a line that has a separator. -/
theorem Variant.read_of_split {line front back : List Char}
    (h : splitLoneColon? none (trim line) = some (front, back)) :
    Variant.read line =
      if isIdentifier (trim front) then
        match Field.readList back with
        | .error e => .error (.inLine (String.ofList (trim line)) e)
        | .ok fields => .ok ⟨String.ofList (trim front), fields⟩
      else .error (.inLine (String.ofList (trim line))
        (.invalidIdentifier (String.ofList (trim front)))) := by
  have hline := eq_of_splitLoneColon? h
  have hcut : cutAtByte (utf8 front).length (trim line) = (front, ':' :: back) := by
    rw [hline, cutAtByte_length]
  by_cases hname : isIdentifier (trim front) = true
  · cases hfields : Field.readList back with
    | error e => simp [Variant.read, separatorOffset?_eq, h, hcut, hname, hfields]
    | ok fields => simp [Variant.read, separatorOffset?_eq, h, hcut, hname, hfields]
  · simp [Variant.read, separatorOffset?_eq, h, hcut, hname]

/-- A variant's line with the blanks before its name, between its name and the colon, and at its
    end. What stands behind the colon is the padding of the first field. -/
structure PaddedLine where
  name : String
  before : List Char
  between : List Char
  fields : List PaddedField
  after : List Char
  blank_before : AllBlank before := by decide
  blank_between : AllBlank between := by decide
  blank_after : AllBlank after := by decide

namespace PaddedLine

/-- The line with all its padding. -/
def text (l : PaddedLine) : List Char :=
  l.before ++ (l.name.toList ++ l.between ++ ':' :: (PaddedField.listText l.fields ++ l.after))

/-- The variant that the line declares. -/
def variant (l : PaddedLine) : Variant :=
  ⟨l.name, l.fields.map (·.field)⟩

/-- No colon follows the separator: a first type that starts with a colon has padding before it. -/
def Separated (l : PaddedLine) : Prop :=
  ∀ p ∈ l.fields.head?, p.field.type.toList.head? = some ':' → p.before ≠ []

theorem head_list {l : PaddedLine} (hwf : l.variant.WellFormed) (hsep : l.Separated) :
    (PaddedField.listText l.fields ++ l.after).head? ≠ some ':' := by
  have hblank : ∀ {cs : List Char}, AllBlank cs → cs.head? ≠ some ':' := fun hcs hc =>
    absurd (hcs ':' (List.mem_of_mem_head? hc)) (by decide)
  cases hfields : l.fields with
  | nil => simpa [PaddedField.listText] using hblank l.blank_after
  | cons p ps =>
    have hp : p.field.WellFormed := hwf.fields p.field (by simp [variant, hfields])
    have hhead : (PaddedField.listText (p :: ps) ++ l.after).head? = p.text.head? := by
      have hne : p.text ≠ [] := by
        simp [PaddedField.text, PaddedField.core, hp.type_ne_empty]
      cases ps with
      | nil => rw [PaddedField.listText, List.map_singleton, List.intercalate_singleton,
          List.head?_append_of_ne_nil _ hne]
      | cons q ps => rw [PaddedField.listText_cons_cons, List.append_assoc,
          List.head?_append_of_ne_nil _ hne]
    rw [hhead, PaddedField.text, List.append_assoc]
    by_cases hbefore : p.before = []
    · rw [hbefore, List.nil_append, PaddedField.core, List.append_assoc,
        List.head?_append_of_ne_nil _ hp.type_ne_nil]
      exact fun hc => hsep p (by simp [hfields]) hc hbefore
    · rw [List.head?_append_of_ne_nil _ hbefore]
      exact hblank p.blank_before

/-- What trimming leaves of a line. -/
theorem trim_text {l : PaddedLine} (hname : isIdentifier l.name.toList = true) :
    trim l.text = l.name.toList ++ l.between ++
      ':' :: trimEnd (PaddedField.listText l.fields ++ l.after) := by
  obtain ⟨rest, hrest, hlist⟩ := exists_trimEnd (PaddedField.listText l.fields ++ l.after)
  have htight : Tight (l.name.toList ++ (l.between ++
      ':' :: trimEnd (PaddedField.listText l.fields ++ l.after))) := by
    refine tight_append (ne_nil_of_isIdentifier hname) (by simp)
      (tight_of_isIdentifier hname).head ?_
    rw [List.getLast?_append_of_ne_nil _ (List.cons_ne_nil _ _)]
    exact last_cons_trimEnd (by decide) _
  have htext : l.text = l.before ++ (l.name.toList ++ (l.between ++
      ':' :: trimEnd (PaddedField.listText l.fields ++ l.after))) ++ rest := by
    rw [text]
    conv_lhs => rw [hlist]
    simp
  rw [htext, trim_pad l.blank_before hrest htight, List.append_assoc]

/-- No colon stands before the separator of a line. -/
theorem colon_notMem_front {l : PaddedLine} (hname : isIdentifier l.name.toList = true) :
    ':' ∉ l.name.toList ++ l.between := by
  intro hc
  rcases List.mem_append.mp hc with hc | hc
  · exact absurd (List.all_eq_true.mp (all_isIdentifierPart hname) ':' hc) (by decide)
  · exact absurd (l.blank_between ':' hc) (by decide)

/-- The fields are read from what stands behind the separator of a trimmed line. -/
theorem readList_trimEnd {l : PaddedLine} (hwf : l.variant.WellFormed) :
    Field.readList (trimEnd (PaddedField.listText l.fields ++ l.after)) = .ok l.variant.fields := by
  obtain ⟨rest, hrest, hlist⟩ := exists_trimEnd (PaddedField.listText l.fields ++ l.after)
  rw [← Field.readList_append hrest, ← hlist, Field.readList_append l.blank_after]
  refine PaddedField.readList_listText (fun p hp => ?_) hwf.closed
  exact hwf.fields p.field (List.mem_map_of_mem hp)

/-- A well-formed variant is read from every padded line that declares it. -/
theorem read_text {l : PaddedLine} (hwf : l.variant.WellFormed) (hsep : l.Separated) :
    Variant.read l.text = .ok l.variant := by
  have hname : isIdentifier l.name.toList = true := hwf.name
  have hback : (trimEnd (PaddedField.listText l.fields ++ l.after)).head? ≠ some ':' := fun hc =>
    head_list hwf hsep (head_trimEnd _ ':' hc)
  have hfront : trim (l.name.toList ++ l.between) = l.name.toList := by
    rw [trim_append _ l.blank_between, (tight_of_isIdentifier hname).trim_eq]
  have hsplit : splitLoneColon? none (trim l.text) = some (l.name.toList ++ l.between,
      trimEnd (PaddedField.listText l.fields ++ l.after)) := by
    rw [trim_text hname]
    exact splitLoneColon?_append (by simp) (colon_notMem_front hname) hback
  rw [Variant.read_of_split hsplit, hfront, if_pos hname, readList_trimEnd hwf]
  simp [variant]

end PaddedLine

end VisitorGen

import VisitorGen.Proofs.Declaration.Brackets

set_option autoImplicit false

/-! # The parts of a text

Behind a top-level comma the scan is in its first state again, whatever stands before the comma
(`Scan.read_append_comma`): a dash there cannot make an arrow with what follows, and brackets that
were closed too often are forgotten. So the parts of a text can be taken off one by one
(`splitAtCommas_induction`), and a text that is joined from two by such a comma has the parts of
both (`splitAtCommas_append`). The parts are the only texts that give the whole back, have no
top-level comma, and end at depth zero up to the last one (`splitAtCommas_eq_iff`). -/

namespace VisitorGen

/-- What holds of every text without a top-level comma, and of every text if it holds of what
    stands behind its first one, holds of all texts. -/
theorem splitAtCommas_induction {motive : List Char → Prop}
    (whole : ∀ cs, hasTopComma .start cs = false → motive cs)
    (parted : ∀ front back, hasTopComma .start front = false →
      (Scan.start.read front).depth = 0 → motive back → motive (front ++ ',' :: back))
    (cs : List Char) : motive cs := by
  rcases exists_first_topComma .start cs with hno | ⟨front, back, hcs, hno, hdepth⟩
  · exact whole cs hno
  · have hshorter : back.length < cs.length := by
      rw [hcs, List.length_append, List.length_cons]
      omega
    exact hcs ▸ parted front back hno hdepth (splitAtCommas_induction whole parted back)
termination_by cs.length

/-! ## The scan behind a comma -/

theorem Scan.read_append_comma {front : List Char} (h : (Scan.start.read front).depth = 0)
    (back : List Char) : Scan.start.read (front ++ ',' :: back) = Scan.start.read back := by
  rw [Scan.read_append, Scan.read_cons, Scan.step_comma h]

/-- A text that is joined from parts leaves the scan where its last part does. -/
theorem Scan.read_intercalate {front : List (List Char)}
    (h : ∀ p ∈ front, (Scan.start.read p).depth = 0) (last : List Char) :
    Scan.start.read ([','].intercalate (front ++ [last])) = Scan.start.read last := by
  induction front with
  | nil => rw [List.nil_append, List.intercalate_singleton]
  | cons p front ih =>
    rw [List.forall_mem_cons] at h
    rw [List.cons_append, List.intercalate_cons_of_ne_nil (by simp), List.append_assoc,
      List.singleton_append, read_append_comma h.1, ih h.2]

/-- Two texts that are joined by a comma at depth zero are split on their own. -/
theorem splitAtCommas_append {front : List Char} (h : (Scan.start.read front).depth = 0)
    (back : List Char) :
    splitAtCommas (front ++ ',' :: back) = splitAtCommas front ++ splitAtCommas back := by
  induction front using splitAtCommas_induction with
  | whole front hno =>
    rw [splitAtCommas_cons hno h, splitAtCommas_of_no_comma hno, List.singleton_append]
  | parted first rest hno hdepth ih =>
    rw [Scan.read_append_comma hdepth] at h
    rw [List.append_assoc, List.cons_append, splitAtCommas_cons hno hdepth, ih h,
      splitAtCommas_cons hno hdepth, List.cons_append]

/-! ## What the parts are -/

/-- The texts, joined by commas, are the text, and all their commas at depth zero are those that
    join them. -/
structure AreParts (cs : List Char) (parts : List (List Char)) : Prop where
  ne_nil : parts ≠ []
  joined : [','].intercalate parts = cs
  whole : ∀ p ∈ parts, hasTopComma .start p = false
  closed : ∀ p ∈ parts.dropLast, (Scan.start.read p).depth = 0

theorem AreParts.singleton {cs : List Char} (h : hasTopComma .start cs = false) :
    AreParts cs [cs] where
  ne_nil := by simp
  joined := List.intercalate_singleton
  whole := by simpa using h
  closed := by simp

theorem AreParts.cons {front back : List Char} {parts : List (List Char)}
    (hno : hasTopComma .start front = false) (hdepth : (Scan.start.read front).depth = 0)
    (h : AreParts back parts) : AreParts (front ++ ',' :: back) (front :: parts) where
  ne_nil := by simp
  joined := by
    rw [List.intercalate_cons_of_ne_nil h.ne_nil, h.joined, List.append_assoc,
      List.singleton_append]
  whole := List.forall_mem_cons.mpr ⟨hno, h.whole⟩
  closed := by
    rw [List.dropLast_cons_of_ne_nil h.ne_nil]
    exact List.forall_mem_cons.mpr ⟨hdepth, h.closed⟩

theorem areParts_splitAtCommas (cs : List Char) : AreParts cs (splitAtCommas cs) := by
  induction cs using splitAtCommas_induction with
  | whole cs hno =>
    rw [splitAtCommas_of_no_comma hno]
    exact .singleton hno
  | parted front back hno hdepth ih =>
    rw [splitAtCommas_cons hno hdepth]
    exact .cons hno hdepth ih

/-- Joining and splitting again gives the parts back. -/
theorem splitAtCommas_intercalate {parts : List (List Char)} (hne : parts ≠ [])
    (hwhole : ∀ p ∈ parts, hasTopComma .start p = false)
    (hclosed : ∀ p ∈ parts.dropLast, (Scan.start.read p).depth = 0) :
    splitAtCommas ([','].intercalate parts) = parts := by
  induction parts with
  | nil => exact absurd rfl hne
  | cons part parts ih =>
    rw [List.forall_mem_cons] at hwhole
    by_cases hlast : parts = []
    · rw [hlast, List.intercalate_singleton, splitAtCommas_of_no_comma hwhole.1]
    · rw [List.dropLast_cons_of_ne_nil hlast, List.forall_mem_cons] at hclosed
      rw [List.intercalate_cons_of_ne_nil hlast, List.append_assoc, List.singleton_append,
        splitAtCommas_cons hwhole.1 hclosed.1, ih hlast hwhole.2 hclosed.2]

theorem splitAtCommas_eq_iff {cs : List Char} {parts : List (List Char)} :
    splitAtCommas cs = parts ↔ AreParts cs parts := by
  constructor
  · rintro rfl
    exact areParts_splitAtCommas cs
  · intro h
    rw [← h.joined, splitAtCommas_intercalate h.ne_nil h.whole h.closed]

/-- In front of each comma that joins two parts, both the part and the whole text up to there end
    at depth zero. -/
theorem AreParts.depth_eq_zero {cs part : List Char} {front back : List (List Char)}
    (h : AreParts cs (front ++ part :: back)) (hback : back ≠ []) :
    (Scan.start.read part).depth = 0 ∧
      (Scan.start.read ([','].intercalate (front ++ [part]))).depth = 0 := by
  have hclosed := h.closed
  rw [List.dropLast_append_of_ne_nil (by simp), List.dropLast_cons_of_ne_nil hback,
    List.forall_mem_append, List.forall_mem_cons] at hclosed
  obtain ⟨hfront, hpart, -⟩ := hclosed
  exact ⟨hpart, by rw [Scan.read_intercalate hfront, hpart]⟩

/-- **Splitting at top-level commas loses nothing and respects concatenation.** The parts give the
    text back, are their own only parts, and end at depth zero in front of every comma that joins
    them; behind a text that ends at depth zero, a comma starts a new split. -/
theorem splitAtCommas_lossless (cs : List Char) :
    [','].intercalate (splitAtCommas cs) = cs ∧
      (∀ part ∈ splitAtCommas cs, splitAtCommas part = [part]) ∧
      (∀ front part back, splitAtCommas cs = front ++ part :: back → back ≠ [] →
        (Scan.start.read part).depth = 0 ∧
          (Scan.start.read ([','].intercalate (front ++ [part]))).depth = 0) ∧
      ((Scan.start.read cs).depth = 0 → ∀ back,
        splitAtCommas (cs ++ ',' :: back) = splitAtCommas cs ++ splitAtCommas back) := by
  have hparts := areParts_splitAtCommas cs
  refine ⟨hparts.joined, ?_, ?_, fun h back => splitAtCommas_append h back⟩
  · intro part hpart
    exact splitAtCommas_of_no_comma (hparts.whole part hpart)
  · intro front part back hsplit hback
    rw [hsplit] at hparts
    exact hparts.depth_eq_zero hback

/-- A dash before the comma makes no arrow with what stands behind it, and a bracket that closes
    nothing leaves no trace. -/
theorem splitAtCommas_lossless_dash :
    splitAtCommas "é) a, (b, c) -".toList = ["é) a".toList, " (b, c) -".toList] ∧
      (Scan.start.read "é) a".toList).depth = 0 ∧
      (Scan.start.read "é) a, (b, c) -".toList).depth = 0 ∧
      splitAtCommas ("é) a, (b, c) -".toList ++ ',' :: "> d, <e".toList) =
        ["é) a".toList, " (b, c) -".toList, "> d".toList, " <e".toList] := by
  obtain ⟨-, -, hdepth, happend⟩ := splitAtCommas_lossless "é) a, (b, c) -".toList
  have hsplit : splitAtCommas "é) a, (b, c) -".toList = ["é) a".toList, " (b, c) -".toList] := by
    decide
  have hend : (Scan.start.read "é) a, (b, c) -".toList).depth = 0 := by decide
  have hback : splitAtCommas "> d, <e".toList = ["> d".toList, " <e".toList] := by decide
  refine ⟨hsplit, (hdepth [] _ _ hsplit (by simp)).1, hend, ?_⟩
  rw [happend hend, hsplit, hback]
  rfl

end VisitorGen

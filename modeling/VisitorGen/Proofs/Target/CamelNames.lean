import VisitorGen.Proofs.Text.WordMarks
import VisitorGen.Target.Rust

set_option autoImplicit false

/-! # Names in camel case

Where a capital follows a lower-case letter or a digit, a word starts whatever stands around the two.
So the snake case of two joined names is the joined snake case (`snakeCase_append`), and the words of
a name in camel case come out joined by underscores (`snakeAfter_flatten`), where a capital for each
of them gives the name back. The name of a visitor's method shows its variant and its family in this
way (`snakeCase_joins`). -/

namespace VisitorGen

open Text

/-! ## Joined names -/

/-- Whether a text ends in a lower-case letter or a digit. -/
def endsWord (cs : List Char) : Bool :=
  cs.getLast?.any fun p => isLower p || p.isDigit

/-- Whether a text starts with a capital. -/
def startsCapital (cs : List Char) : Bool :=
  cs.head?.any isUpper

theorem endsWord_iff {cs : List Char} : endsWord cs = true ↔
    ∃ front p, cs = front ++ [p] ∧ (isLower p = true ∨ p.isDigit = true) := by
  rw [endsWord, Option.any_eq_true]
  constructor
  · rintro ⟨p, hlast, hp⟩
    obtain ⟨front, rfl⟩ := List.getLast?_eq_some_iff.mp hlast
    exact ⟨front, p, rfl, by simpa using hp⟩
  · rintro ⟨front, p, rfl, hp⟩
    exact ⟨p, List.getLast?_concat, by simpa using hp⟩

theorem startsCapital_iff {cs : List Char} : startsCapital cs = true ↔
    ∃ c rest, cs = c :: rest ∧ isUpper c = true := by
  cases cs <;> simp [startsCapital]

theorem endsWord_append {bs : List Char} (h : endsWord bs = true) (as : List Char) :
    endsWord (as ++ bs) = true := by
  obtain ⟨front, p, rfl, hp⟩ := endsWord_iff.mp h
  exact endsWord_iff.mpr ⟨as ++ front, p, by rw [List.append_assoc], hp⟩

theorem startsCapital_append {as : List Char} (h : startsCapital as = true) (bs : List Char) :
    startsCapital (as ++ bs) = true := by
  obtain ⟨c, rest, rfl, hc⟩ := startsCapital_iff.mp h
  exact startsCapital_iff.mpr ⟨c, rest ++ bs, rfl, hc⟩

/-- A lower-case letter or a digit is no capital. -/
theorem isUpper_of_word_end {p : Char} (h : isIdentifierPart p = true)
    (hp : isLower p = true ∨ p.isDigit = true) : isUpper p = false := by
  have hlt := lt_of_isIdentifierPart h
  rw [isLower_of_lt hlt] at hp
  rw [isUpper_of_lt hlt]
  exact of_isIdentifierPart
    (p := fun p => p.isLower = true ∨ p.isDigit = true → p.isUpper = false) (by decide) h hp

/-- A part that does not end in a capital looks ahead only for the mark of what follows. -/
theorem snakeBetween_concat {p : Char} (hp : isUpper p = false) (prev : Option Char)
    (front after : List Char) : snakeBetween prev after (front ++ [p]) =
      snakeAfter prev (front ++ [p]) ++ wordMark (some p) after := by
  have hmark : ∀ prev cs, wordMark prev (p :: cs) = [] := by
    intro prev cs
    rw [wordMark, hp]
    rfl
  induction front generalizing prev with
  | nil =>
    rw [List.nil_append, snakeBetween, snakeBetween, hmark, snakeAfter_cons, hmark, snakeAfter]
    simp
  | cons d front ih =>
    have hhead : wordMark prev (d :: (front ++ [p] ++ after)) =
        wordMark prev (d :: (front ++ [p])) := by
      cases front <;> rfl
    rw [List.cons_append, snakeBetween, hhead, ih, snakeAfter_cons]
    simp only [List.append_assoc]

/-- Snake case splits where a capital follows a lower-case letter or a digit. -/
theorem snakeAfter_append {as bs : List Char} (hparts : ∀ c ∈ as ++ bs, isIdentifierPart c = true)
    (has : endsWord as = true) (hbs : startsCapital bs = true) (prev : Option Char) :
    snakeAfter prev (as ++ bs) = snakeAfter prev as ++ '_' :: snakeAfter none bs := by
  obtain ⟨front, p, rfl, hp⟩ := endsWord_iff.mp has
  obtain ⟨c, rest, rfl, hc⟩ := startsCapital_iff.mp hbs
  have hpart : isIdentifierPart c = true := hparts c (by simp)
  have hmark : wordMark (some p) (c :: rest) = ['_'] := by
    rw [wordMark, hc, startsWord_some_iff.mpr (hp.imp_right .inl)]
    rfl
  rw [snakeAfter_append_cons, snakeBetween_concat (isUpper_of_word_end (hparts p (by simp)) hp),
    hmark, snakeAfter_none_cons hpart, snakeLetter_of_isIdentifierPart hpart, List.append_assoc]
  rfl

theorem snakeCase_append {a b : String} (ha : isIdentifier a.toList = true)
    (hb : isIdentifier b.toList = true) (hend : endsWord a.toList = true)
    (hstart : startsCapital b.toList = true) :
    snakeCase (a ++ b) = snakeCase a ++ "_" ++ snakeCase b := by
  have hparts : ∀ c ∈ a.toList ++ b.toList, isIdentifierPart c = true :=
    List.forall_mem_append.mpr ⟨isIdentifierPart_of_mem ha, isIdentifierPart_of_mem hb⟩
  rw [← String.toList_inj]
  simp only [snakeCase, String.toList_append, String.toList_ofList,
    snakeAfter_append hparts hend hstart none]
  simp

/-- A visitor's method is named by its variant and its family. -/
theorem Rust.methodName_eq {f : Family} {v : Variant} (hf : isIdentifier f.name.toList = true)
    (hv : isIdentifier v.name.toList = true) (hend : endsWord v.name.toList = true)
    (hvstart : startsCapital v.name.toList = true) (hfstart : startsCapital f.name.toList = true) :
    methodName f v = "visit_" ++ snakeCase v.name ++ "_" ++ snakeCase f.name := by
  have hfront : isIdentifier ("Visit" ++ v.name).toList = true := by
    rw [String.toList_append]
    exact isIdentifier_append (by decide) (isIdentifierPart_of_mem hv)
  have hfrontEnd : endsWord ("Visit" ++ v.name).toList = true := by
    rw [String.toList_append]
    exact endsWord_append hend _
  have hvisit : snakeCase "Visit" = "visit" := by decide
  rw [methodName, dispatchName, snakeCase_append hfront hf hfrontEnd hfstart,
    snakeCase_append (by decide) hv (by decide) hvstart, hvisit]
  rfl

/-! ## Words -/

/-- Whether a text is a capital with lower-case letters and digits behind it, at least one. -/
def isCamelWord : List Char → Bool
  | [] => false
  | c :: rest => c.isUpper && !rest.isEmpty && rest.all fun d => d.isLower || d.isDigit

/-- A text with a capital at its start. -/
def capitalized : List Char → List Char
  | [] => []
  | c :: cs => c.toUpper :: cs

/-- A name with a capital for each of its parts, in place of the underscores between them. -/
def camelCase (name : String) : String :=
  String.ofList ((name.toList.splitOn '_').flatMap capitalized)

section

variable {w : List Char} (h : isCamelWord w = true)

include h

/-- A word has characters of identifiers only, and one capital, at its start. -/
theorem exists_of_isCamelWord : ∃ c rest, w = c :: rest ∧ isIdentifierPart c = true ∧
    isUpper c = true ∧ rest ≠ [] ∧
      ∀ d ∈ rest, isIdentifierPart d = true ∧ (isLower d = true ∨ d.isDigit = true) := by
  cases w with
  | nil => exact absurd h (by simp [isCamelWord])
  | cons c rest =>
    simp only [isCamelWord, Bool.and_eq_true, Bool.not_eq_true', List.isEmpty_eq_false_iff,
      List.all_eq_true, Bool.or_eq_true] at h
    obtain ⟨⟨hc, hne⟩, hrest⟩ := h
    have hpart : isIdentifierPart c = true := by
      simp [isIdentifierPart, Char.isAlphanum, Char.isAlpha, hc]
    refine ⟨c, rest, rfl, hpart, ?_, hne, fun d hd => ?_⟩
    · rw [isUpper_of_lt (lt_of_isIdentifierPart hpart), hc]
    · have hpart : isIdentifierPart d = true := by
        rcases hrest d hd with hd | hd <;>
          simp [isIdentifierPart, Char.isAlphanum, Char.isAlpha, hd]
      rw [isLower_of_lt (lt_of_isIdentifierPart hpart)]
      exact ⟨hpart, hrest d hd⟩

theorem isIdentifierPart_of_mem_camelWord : ∀ c ∈ w, isIdentifierPart c = true := by
  obtain ⟨c, rest, rfl, hc, -, -, hrest⟩ := exists_of_isCamelWord h
  exact List.forall_mem_cons.mpr ⟨hc, fun d hd => (hrest d hd).1⟩

theorem startsCapital_of_isCamelWord : startsCapital w = true := by
  obtain ⟨c, rest, rfl, -, hc, -, -⟩ := exists_of_isCamelWord h
  exact startsCapital_iff.mpr ⟨c, rest, rfl, hc⟩

theorem endsWord_of_isCamelWord : endsWord w = true := by
  obtain ⟨c, rest, rfl, -, -, hne, hrest⟩ := exists_of_isCamelWord h
  refine endsWord_iff.mpr
    ⟨c :: rest.dropLast, rest.getLast hne, ?_, (hrest _ (List.getLast_mem hne)).2⟩
  rw [List.cons_append, List.dropLast_append_getLast]

/-- In lower case only the capital of a word is changed. -/
theorem exists_map_toLower_camelWord : ∃ c rest, w = c :: rest ∧ isIdentifierPart c = true ∧
    isUpper c = true ∧ (∀ d ∈ rest, isUpper d = false) ∧
      w.map Char.toLower = c.toLower :: rest := by
  obtain ⟨c, rest, rfl, hpart, hc, -, hrest⟩ := exists_of_isCamelWord h
  have hupper : ∀ d ∈ rest, isUpper d = false := fun d hd =>
    isUpper_of_word_end (hrest d hd).1 (hrest d hd).2
  have hlower : rest.map Char.toLower = rest :=
    (List.map_congr_left fun d hd => toLower_of_not_isUpper (hrest d hd).1 (hupper d hd)).trans
      (List.map_id rest)
  exact ⟨c, rest, rfl, hpart, hc, hupper, by rw [List.map_cons, hlower]⟩

/-- A word alone has no mark. -/
theorem snakeAfter_camelWord : snakeAfter none w = w.map Char.toLower := by
  obtain ⟨c, rest, rfl, hpart, -, hupper, hlower⟩ := exists_map_toLower_camelWord h
  rw [hlower, snakeAfter_none_cons hpart, snakeAfter_eq_self hupper]

theorem capitalized_camelWord : capitalized (w.map Char.toLower) = w := by
  obtain ⟨c, rest, rfl, hpart, hc, -, hlower⟩ := exists_map_toLower_camelWord h
  rw [hlower, capitalized, toUpper_toLower hpart hc]

theorem underscore_notMem_camelWord : '_' ∉ w.map Char.toLower := by
  have hkind : isUpper '_' = false ∧ isLower '_' = false ∧ '_'.isDigit = false := by decide
  intro hmem
  obtain ⟨d, hd, heq⟩ := List.mem_map.mp hmem
  obtain rfl : d = '_' :=
    (toLower_eq_underscore_iff (isIdentifierPart_of_mem_camelWord h d hd)).mp heq
  obtain ⟨c, rest, rfl, -, hc, -, hrest⟩ := exists_of_isCamelWord h
  rcases List.mem_cons.mp hd with rfl | hd
  · simp [hkind] at hc
  · simpa [hkind] using (hrest _ hd).2

end

/-- In camel case the words are joined by underscores. -/
theorem snakeAfter_flatten {words : List (List Char)} (hne : words ≠ [])
    (h : ∀ w ∈ words, isCamelWord w = true) :
    snakeAfter none words.flatten = ['_'].intercalate (words.map (List.map Char.toLower)) := by
  induction words with
  | nil => exact absurd rfl hne
  | cons w words ih =>
    rw [List.forall_mem_cons] at h
    cases words with
    | nil => simp [snakeAfter_camelWord h.1]
    | cons w' words =>
      have hparts : ∀ c ∈ w ++ (w' :: words).flatten, isIdentifierPart c = true := by
        rw [List.forall_mem_append]
        refine ⟨isIdentifierPart_of_mem_camelWord h.1, fun c hc => ?_⟩
        obtain ⟨x, hx, hc⟩ := List.mem_flatten.mp hc
        exact isIdentifierPart_of_mem_camelWord (h.2 x hx) c hc
      have hstart : startsCapital (w' :: words).flatten = true :=
        startsCapital_append (startsCapital_of_isCamelWord (h.2 w' List.mem_cons_self)) _
      rw [List.flatten_cons, snakeAfter_append hparts (endsWord_of_isCamelWord h.1) hstart,
        ih (by simp) h.2, snakeAfter_camelWord h.1]
      simp [List.intercalate_cons_cons]

theorem camelCase_snakeCase {words : List (List Char)} (hne : words ≠ [])
    (h : ∀ w ∈ words, isCamelWord w = true) :
    ((snakeAfter none words.flatten).splitOn '_').flatMap capitalized = words.flatten := by
  have hunderscore : ∀ part ∈ words.map (List.map Char.toLower), '_' ∉ part :=
    List.forall_mem_map.mpr fun w hw => underscore_notMem_camelWord (h w hw)
  have hcapital : words.map (capitalized ∘ List.map Char.toLower) = words :=
    (List.map_congr_left fun w hw => capitalized_camelWord (h w hw)).trans (List.map_id words)
  rw [snakeAfter_flatten hne h, List.splitOn_intercalate '_' hunderscore (by simpa using hne),
    List.flatMap_def, List.map_map, hcapital]

/-- **Snake case of joined names.** The words of a name in camel case come out in lower case with
    underscores between them, and capitals in place of the underscores give the name back. Two names
    come out joined by an underscore where a capital follows a lower-case letter or a digit, and so
    do the variant and the family in the name of a visitor's method. -/
theorem snakeCase_joins :
    (∀ words : List String, words ≠ [] → (∀ w ∈ words, isCamelWord w.toList = true) →
      snakeCase (String.join words) = "_".intercalate (words.map lowerCase) ∧
        camelCase (snakeCase (String.join words)) = String.join words) ∧
    (∀ a b : String, isIdentifier a.toList = true → isIdentifier b.toList = true →
      endsWord a.toList = true → startsCapital b.toList = true →
        snakeCase (a ++ b) = snakeCase a ++ "_" ++ snakeCase b) ∧
    ∀ (f : Family) (v : Variant), isIdentifier f.name.toList = true →
      isIdentifier v.name.toList = true → startsCapital v.name.toList = true →
        endsWord v.name.toList = true → startsCapital f.name.toList = true →
          Rust.methodName f v = "visit_" ++ snakeCase v.name ++ "_" ++ snakeCase f.name := by
  refine ⟨fun words hne hwords => ?_, fun a b ha hb => snakeCase_append ha hb,
    fun f v hf hv hvstart hend hfstart => Rust.methodName_eq hf hv hend hvstart hfstart⟩
  have hcamel : ∀ w ∈ words.map String.toList, isCamelWord w = true := List.forall_mem_map.mpr hwords
  have hnonempty : words.map String.toList ≠ [] := by simpa using hne
  have hjoin : (String.join words).toList = (words.map String.toList).flatten := by
    rw [String.toList_join, List.flatMap_def]
  have hlower : words.map (String.toList ∘ lowerCase) =
      words.map (List.map Char.toLower ∘ String.toList) := by
    refine List.map_congr_left fun w hw => ?_
    rw [Function.comp_apply, lowerCase, String.toList_ofList, lowerText,
      lowerAfter_of_isIdentifierPart (isIdentifierPart_of_mem_camelWord (hwords w hw))]
    rfl
  constructor
  · rw [← String.toList_inj, snakeCase, String.toList_ofList, hjoin,
      snakeAfter_flatten hnonempty hcamel, String.toList_intercalate, List.map_map, List.map_map,
      hlower]
    rfl
  · rw [← String.toList_inj, camelCase, snakeCase, String.toList_ofList, String.toList_ofList, hjoin,
      camelCase_snakeCase hnonempty hcamel]

/-- Words that end in digits, and an acronym that the splits leave alone. -/
theorem snakeCase_joins_digits :
    snakeCase (String.join ["Http2", "Request", "V1"]) = "http2_request_v1" ∧
      camelCase (snakeCase (String.join ["Http2", "Request", "V1"])) = "Http2RequestV1" ∧
      snakeCase ("_tmp0" ++ "XMLTree") = snakeCase "_tmp0" ++ "_" ++ snakeCase "XMLTree" ∧
      Rust.methodName ⟨"TypeRef", []⟩ ⟨"HTTPCall2", []⟩ = "visit_http_call2_type_ref" := by
  obtain ⟨hwords, hsplit, hmethod⟩ := snakeCase_joins
  obtain ⟨hsnake, hback⟩ := hwords ["Http2", "Request", "V1"] (by simp) (by decide)
  refine ⟨by rw [hsnake]; decide, by rw [hback]; decide, ?_, ?_⟩
  · exact hsplit "_tmp0" "XMLTree" (by decide) (by decide) (by decide) (by decide)
  · exact hmethod ⟨"TypeRef", []⟩ ⟨"HTTPCall2", []⟩ (by decide) (by decide) (by decide) (by decide)
      (by decide)

end VisitorGen

import Mathlib.Data.Nat.Count
import VisitorGen.Proofs.Text.SnakeCase

set_option autoImplicit false

/-! # Where the underscores stand

The snake case of an identifier is its lower case with underscores before some of its characters.
Which characters these are is told by their positions in the identifier (`wordMarks`), and from the
positions in the identifier follow those in the result: each marked position below moves a character
by one (`length_withMarks`). A mark stands between a letter or digit and a letter, so no two marks
meet, and none meets an underscore of the identifier (`snakeCase_eq_withMarks`). -/

namespace VisitorGen

open Text

/-! ## Texts with marks -/

/-- A text with an underscore before each character whose position is marked. -/
def withMarks (marked : Nat → Bool) : List Char → List Char
  | [] => []
  | c :: cs => (if marked 0 then ['_'] else []) ++ c :: withMarks (fun i => marked (i + 1)) cs

theorem withMarks_append (marked : Nat → Bool) (as bs : List Char) :
    withMarks marked (as ++ bs) =
      withMarks marked as ++ withMarks (fun i => marked (as.length + i)) bs := by
  induction as generalizing marked with
  | nil => simp [withMarks]
  | cons a as ih =>
    have hshift : (fun i => marked (as.length + i + 1)) =
        fun i => marked ((a :: as).length + i) := by
      funext i
      congr 1
      rw [List.length_cons]
      omega
    rw [List.cons_append, withMarks, ih, hshift, withMarks, List.append_assoc, List.cons_append]

/-- A text grows by its marks. -/
theorem length_withMarks (marked : Nat → Bool) (cs : List Char) :
    (withMarks marked cs).length = cs.length + Nat.count (fun i => marked i = true) cs.length := by
  induction cs generalizing marked with
  | nil => simp [withMarks]
  | cons c cs ih =>
    rw [withMarks, List.length_append, List.length_cons, ih, List.length_cons, Nat.count_succ']
    split
    · rw [List.length_singleton]
      omega
    · rw [List.length_nil]
      omega

theorem eq_underscore_or_mem_of_mem_withMarks {marked : Nat → Bool} {cs : List Char} {c : Char}
    (h : c ∈ withMarks marked cs) : c = '_' ∨ c ∈ cs := by
  induction cs generalizing marked with
  | nil => exact absurd h (by simp [withMarks])
  | cons d cs ih =>
    rw [withMarks, List.mem_append, List.mem_cons] at h
    rcases h with h | rfl | h
    · split at h
      · exact .inl (List.mem_singleton.mp h)
      · exact absurd h (by simp)
    · exact .inr List.mem_cons_self
    · exact (ih h).imp_right (List.mem_cons_of_mem d)

/-- A mark before the character behind `p` stands between the two. -/
theorem withMarks_of_marked {marked : Nat → Bool} {front : List Char}
    (h : marked (front.length + 1) = true) (p c : Char) (back : List Char) :
    ∃ front' back', withMarks marked (front ++ p :: c :: back) = front' ++ p :: '_' :: c :: back' ∧
      front'.length + 1 =
        front.length + 1 + Nat.count (fun i => marked i = true) (front.length + 1) := by
  have hsplit : front ++ p :: c :: back = (front ++ [p]) ++ c :: back := by simp
  have hend : withMarks marked (front ++ [p]) =
      withMarks marked front ++ (if marked front.length then ['_'] else []) ++ [p] := by
    rw [withMarks_append, withMarks, withMarks, List.append_assoc]
    rfl
  have hfront : (front ++ [p]).length = front.length + 1 := List.length_append
  have hmark : marked ((front ++ [p]).length + 0) = true := by
    rw [hfront]
    exact h
  refine ⟨withMarks marked front ++ (if marked front.length then ['_'] else []),
    withMarks (fun i => marked ((front ++ [p]).length + (i + 1))) back, ?_, ?_⟩
  · rw [hsplit, withMarks_append, hend, withMarks, if_pos hmark]
    simp
  · have hlength := length_withMarks marked (front ++ [p])
    rw [hend, List.length_append, List.length_singleton, hfront] at hlength
    exact hlength

/-! ## The marks of snake case -/

/-- Whether the character at a position starts a word, where the text follows the character
    `prev`. -/
def wordMarks (prev : Option Char) : List Char → Nat → Bool
  | [], _ => false
  | c :: cs, 0 => isUpper c && startsWord prev cs.head?
  | c :: cs, i + 1 => wordMarks (some c) cs i

theorem snakeAfter_eq_withMarks {cs : List Char} (h : ∀ c ∈ cs, isIdentifierPart c = true)
    (prev : Option Char) :
    snakeAfter prev cs = withMarks (wordMarks prev cs) (cs.map Char.toLower) := by
  induction cs generalizing prev with
  | nil => rfl
  | cons c cs ih =>
    rw [List.forall_mem_cons] at h
    rw [snakeAfter_cons, snakeLetter_of_isIdentifierPart h.1, ih h.2, List.map_cons, withMarks,
      List.append_assoc]
    rfl

/-- The character at a position is a capital that starts a word: behind a lower-case letter or a
    digit, or between a capital and a lower-case letter. -/
def StartsWordAt (cs : List Char) (i : Nat) : Prop :=
  ∃ front p c back, cs = front ++ p :: c :: back ∧ i = front.length + 1 ∧ isUpper c = true ∧
    (isLower p = true ∨ p.isDigit = true ∨
      (isUpper p = true ∧ ∃ n rest, back = n :: rest ∧ isLower n = true))

theorem startsWord_some_iff {p : Char} {back : List Char} :
    startsWord (some p) back.head? = true ↔ isLower p = true ∨ p.isDigit = true ∨
      (isUpper p = true ∧ ∃ n rest, back = n :: rest ∧ isLower n = true) := by
  have hnext : back.head?.any isLower = true ↔ ∃ n rest, back = n :: rest ∧ isLower n = true := by
    cases back <;> simp
  rw [← hnext]
  by_cases hp : p = '_'
  · subst hp
    have hkind : isLower '_' = false ∧ '_'.isDigit = false ∧ isUpper '_' = false := by decide
    simp [startsWord, hkind]
  · simp [startsWord, hp, or_assoc]

theorem wordMarks_append (prev : Option Char) (front : List Char) (p : Char) (cs : List Char)
    (i : Nat) : wordMarks prev (front ++ p :: cs) (front.length + 1 + i) = wordMarks (some p) cs i := by
  induction front generalizing prev with
  | nil =>
    rw [List.nil_append, List.length_nil, Nat.zero_add, Nat.add_comm, wordMarks]
  | cons d front ih =>
    rw [List.cons_append, List.length_cons, Nat.add_right_comm, wordMarks, ih]

/-- A mark behind the first position is that of a character with another one before it. -/
theorem exists_of_wordMarks {prev : Option Char} {c : Char} {cs : List Char} {i : Nat}
    (h : wordMarks prev (c :: cs) (i + 1) = true) :
    ∃ front p d back, c :: cs = front ++ p :: d :: back ∧ i = front.length ∧ isUpper d = true ∧
      startsWord (some p) back.head? = true := by
  induction cs generalizing prev c i with
  | nil => exact absurd h (by simp [wordMarks])
  | cons d cs ih =>
    cases i with
    | zero =>
      rw [wordMarks, wordMarks, Bool.and_eq_true] at h
      exact ⟨[], c, d, cs, rfl, rfl, h⟩
    | succ i =>
      rw [wordMarks] at h
      obtain ⟨front, p, e, back, hsplit, rfl, hmark⟩ := ih h
      exact ⟨c :: front, p, e, back, by rw [hsplit]; rfl, rfl, hmark⟩

/-- The marks of an identifier are at the starts of its words, save for the first. -/
theorem wordMarks_iff {cs : List Char} {i : Nat} :
    wordMarks none cs i = true ↔ StartsWordAt cs i := by
  constructor
  · intro h
    cases cs with
    | nil => exact absurd h (by simp [wordMarks])
    | cons c cs =>
      cases i with
      | zero => exact absurd h (by simp [wordMarks, startsWord])
      | succ i =>
        obtain ⟨front, p, d, back, hsplit, rfl, hupper, hword⟩ := exists_of_wordMarks h
        exact ⟨front, p, d, back, hsplit, rfl, hupper, startsWord_some_iff.mp hword⟩
  · rintro ⟨front, p, c, back, rfl, rfl, hupper, hword⟩
    have hmark := wordMarks_append none front p (c :: back) 0
    rw [Nat.add_zero] at hmark
    rw [hmark, wordMarks, hupper, startsWord_some_iff.mpr hword]
    rfl

/-! ## Lower case -/

theorem isUpper_of_mem_snakeAfter {cs : List Char} (h : ∀ c ∈ cs, isIdentifierPart c = true)
    (prev : Option Char) : ∀ c ∈ snakeAfter prev cs, isUpper c = false := by
  intro c hc
  rw [snakeAfter_eq_withMarks h] at hc
  rcases eq_underscore_or_mem_of_mem_withMarks hc with rfl | hc
  · decide
  · obtain ⟨d, hd, rfl⟩ := List.mem_map.mp hc
    exact isUpper_toLower (h d hd)

/-- Only capitals are changed. -/
theorem snakeAfter_eq_self {cs : List Char} (h : ∀ c ∈ cs, isUpper c = false)
    (prev : Option Char) : snakeAfter prev cs = cs := by
  induction cs generalizing prev with
  | nil => rfl
  | cons c cs ih =>
    rw [List.forall_mem_cons] at h
    rw [snakeAfter, h.1, if_neg (by simp), ih h.2]

/-- A mark has a letter or a digit before it and a letter behind it. -/
theorem StartsWordAt.exists_neighbours {cs : List Char} {i : Nat} (h : StartsWordAt cs i)
    (hparts : ∀ c ∈ cs, isIdentifierPart c = true) :
    ∃ front p c back, cs = front ++ p :: c :: back ∧ i = front.length + 1 ∧ p.toLower ≠ '_' ∧
      c.toLower ≠ '_' := by
  obtain ⟨front, p, c, back, rfl, rfl, hupper, hword⟩ := h
  have hp : p ≠ '_' := by
    rintro rfl
    have hkind : isLower '_' = false ∧ '_'.isDigit = false ∧ isUpper '_' = false := by decide
    simp [hkind] at hword
  have hc : c ≠ '_' := by
    rintro rfl
    exact absurd hupper (by decide)
  exact ⟨front, p, c, back, rfl, rfl,
    mt (toLower_eq_underscore_iff (hparts p (by simp))).mp hp,
    mt (toLower_eq_underscore_iff (hparts c (by simp))).mp hc⟩

/-- **Snake case is lower case with underscores.** The snake case of an identifier is an identifier
    without capitals, and its own snake case. It is the lower case with an underscore before each
    capital that starts a word, and none elsewhere. Such an underscore stands between two characters
    that are none, at the position of its capital moved by the number of underscores before it. -/
theorem snakeCase_eq_withMarks {name : String} (h : isIdentifier name.toList = true) :
    isIdentifier (snakeCase name).toList = true ∧
      (∀ c ∈ (snakeCase name).toList, isUpper c = false) ∧
      snakeCase (snakeCase name) = snakeCase name ∧
      ∃ marked : Nat → Bool,
        (snakeCase name).toList = withMarks marked (lowerCase name).toList ∧
        (∀ i, marked i = true ↔ StartsWordAt name.toList i) ∧
        marked 0 = false ∧
        ∀ i, marked i = true → ∃ front p c back,
          (snakeCase name).toList = front ++ p :: '_' :: c :: back ∧
            front.length + 1 = i + Nat.count (fun j => marked j = true) i ∧ p ≠ '_' ∧ c ≠ '_' := by
  have hparts := isIdentifierPart_of_mem h
  have htext : (snakeCase name).toList = snakeAfter none name.toList := String.toList_ofList
  have hupper : ∀ c ∈ (snakeCase name).toList, isUpper c = false := by
    rw [htext]
    exact isUpper_of_mem_snakeAfter hparts none
  have hmarks : (snakeCase name).toList =
      withMarks (wordMarks none name.toList) (name.toList.map Char.toLower) := by
    rw [htext, snakeAfter_eq_withMarks hparts]
  refine ⟨?_, hupper, ?_, wordMarks none name.toList, ?_, fun i => wordMarks_iff, ?_, ?_⟩
  · rw [htext]
    exact isIdentifier_snakeAfter h
  · rw [snakeCase, snakeAfter_eq_self hupper, String.ofList_toList]
  · rw [hmarks, lowerCase, String.toList_ofList, lowerText, lowerAfter_of_isIdentifierPart hparts]
  · cases name.toList with
    | nil => rfl
    | cons c cs => simp [wordMarks, startsWord]
  · intro i hi
    obtain ⟨front, p, c, back, hsplit, rfl, hp, hc⟩ :=
      (wordMarks_iff.mp hi).exists_neighbours hparts
    have hlength : (front.map Char.toLower).length = front.length := List.length_map ..
    rw [← hlength] at hi
    obtain ⟨front', back', hsnake, hposition⟩ :=
      withMarks_of_marked hi p.toLower c.toLower (back.map Char.toLower)
    rw [hlength] at hposition
    refine ⟨front', p.toLower, c.toLower, back', ?_, hposition, hp, hc⟩
    rw [hmarks, ← hsnake]
    congr 1
    simp [hsplit]

/-- Acronyms, digits and underscores side by side. -/
theorem snakeCase_eq_withMarks_acronym :
    isIdentifier "HTTPRequest2XML_Get".toList = true ∧
      snakeCase "HTTPRequest2XML_Get" = "http_request2_xml_get" ∧
      ∃ marked : Nat → Bool,
        (snakeCase "HTTPRequest2XML_Get").toList =
          withMarks marked (lowerCase "HTTPRequest2XML_Get").toList ∧
        (List.range 19).filter marked = [4, 12] := by
  have hname : isIdentifier "HTTPRequest2XML_Get".toList = true := by decide
  obtain ⟨-, -, -, marked, htext, hmarks, -⟩ := snakeCase_eq_withMarks hname
  have hmarked : marked = wordMarks none "HTTPRequest2XML_Get".toList := by
    funext i
    rw [Bool.eq_iff_iff, hmarks, wordMarks_iff]
  refine ⟨hname, by decide, marked, htext, ?_⟩
  rw [hmarked]
  decide

end VisitorGen

import Mathlib.Data.List.Basic
import VisitorGen.Proofs.Text.Delimiter
import VisitorGen.Text.SnakeCase

set_option autoImplicit false

/-! # What snake case keeps of a name

Each character of a name is written in lower case behind a *word mark*, an underscore if it starts a
word, and whether it does depends on its two neighbours alone. So the snake case of a joined name
splits at the joint, where only the mark of the second part looks back (`snakeAfter_append_cons`).
Without underscores nothing is left of a name but its letters in lower case, whatever its words were
(`filter_snakeBetween`). In camel case every capital has a mark, so there the name can be read back
(`camelOf_snakeBetween`). -/

namespace VisitorGen

open Text

/-! ## Characters of identifiers -/

/-- Identifiers are ASCII, where a decidable property of characters can be looked up. -/
theorem of_isIdentifierPart {p : Char → Prop}
    (hascii : ∀ n : Fin 128, isIdentifierPart (Char.ofNat n) = true → p (Char.ofNat n)) {c : Char}
    (h : isIdentifierPart c = true) : p c := by
  have hlt : c.toNat < 128 := Nat.lt_of_le_of_lt (toNat_of_isIdentifierPart h).2 (by decide)
  have hc := hascii ⟨c.toNat, hlt⟩
  rw [Char.ofNat_toNat] at hc
  exact hc h

theorem lt_of_isIdentifierPart {c : Char} (h : isIdentifierPart c = true) : c.toNat < 0x80 :=
  Nat.lt_of_le_of_lt (toNat_of_isIdentifierPart h).2 (by decide)

theorem isIdentifierPart_toLower {c : Char} (h : isIdentifierPart c = true) :
    isIdentifierPart c.toLower = true :=
  of_isIdentifierPart (p := fun c => isIdentifierPart c.toLower = true) (by decide) h

theorem toLower_eq_underscore_iff {c : Char} (h : isIdentifierPart c = true) :
    c.toLower = '_' ↔ c = '_' :=
  of_isIdentifierPart (p := fun c => c.toLower = '_' ↔ c = '_') (by decide) h

/-- A capital is recovered from its lower case. -/
theorem toUpper_toLower {c : Char} (h : isIdentifierPart c = true) (hupper : isUpper c = true) :
    c.toLower.toUpper = c := by
  rw [isUpper_of_lt (lt_of_isIdentifierPart h)] at hupper
  exact of_isIdentifierPart (p := fun c => c.isUpper = true → c.toLower.toUpper = c) (by decide) h
    hupper

theorem toLower_of_not_isUpper {c : Char} (h : isIdentifierPart c = true)
    (hupper : isUpper c = false) : c.toLower = c := by
  rw [isUpper_of_lt (lt_of_isIdentifierPart h)] at hupper
  exact of_isIdentifierPart (p := fun c => c.isUpper = false → c.toLower = c) (by decide) h hupper

theorem isUpper_toLower {c : Char} (h : isIdentifierPart c = true) : isUpper c.toLower = false := by
  rw [isUpper_of_lt (lt_of_isIdentifierPart (isIdentifierPart_toLower h))]
  exact of_isIdentifierPart (p := fun c => c.toLower.isUpper = false) (by decide) h

/-- In an identifier no letter looks at its neighbours to become lower case. -/
theorem lowerAfter_of_isIdentifierPart {cs : List Char} (h : ∀ c ∈ cs, isIdentifierPart c = true)
    (before : List Char) : lowerAfter before cs = cs.map Char.toLower := by
  induction cs generalizing before with
  | nil => rfl
  | cons c cs ih =>
    rw [List.forall_mem_cons] at h
    have hlt := lt_of_isIdentifierPart h.1
    have hsigma : c ≠ 'Σ' := by
      rintro rfl
      exact absurd hlt (by decide)
    rw [lowerAfter, if_neg hsigma, lower_of_lt hlt, ih h.2]
    rfl

/-- A character that is neither an underscore nor a capital has a capital behind it start a word. -/
theorem startsWord_of_not_isUpper {p : Char} (h : isIdentifierPart p = true) (hp : p ≠ '_')
    (hupper : isUpper p = false) (next : Option Char) : startsWord (some p) next = true := by
  have hlt := lt_of_isIdentifierPart h
  rw [isUpper_of_lt hlt] at hupper
  have hkind : (p.isLower || p.isDigit) = true :=
    of_isIdentifierPart (p := fun p => p ≠ '_' → p.isUpper = false → (p.isLower || p.isDigit) = true)
      (by decide) h hp hupper
  simp [startsWord, hp, isLower_of_lt hlt, hkind]

/-! ## Snake case, character by character -/

/-- The underscore before the first character of a text, if that character starts a word. -/
def wordMark (prev : Option Char) : List Char → List Char
  | [] => []
  | c :: cs => if isUpper c && startsWord prev cs.head? then ['_'] else []

/-- A character as it stands in snake case. -/
def snakeLetter (c : Char) : List Char :=
  if isUpper c then lower c else [c]

theorem wordMark_cases (prev : Option Char) (cs : List Char) :
    wordMark prev cs = [] ∨ wordMark prev cs = ['_'] := by
  cases cs with
  | nil => exact .inl rfl
  | cons c cs =>
    rw [wordMark]
    split
    · exact .inr rfl
    · exact .inl rfl

theorem snakeAfter_cons (prev : Option Char) (c : Char) (cs : List Char) :
    snakeAfter prev (c :: cs) = wordMark prev (c :: cs) ++ snakeLetter c ++ snakeAfter (some c) cs := by
  rw [snakeAfter, wordMark, snakeLetter]
  cases isUpper c <;> simp

theorem snakeLetter_of_isIdentifierPart {c : Char} (h : isIdentifierPart c = true) :
    snakeLetter c = [c.toLower] := by
  rw [snakeLetter]
  split
  · exact lower_of_lt (lt_of_isIdentifierPart h)
  · next hupper => rw [toLower_of_not_isUpper h (by simpa using hupper)]

/-- The snake case of an identifier has only characters of identifiers. -/
theorem isIdentifierPart_of_mem_snakeAfter {prev : Option Char} {cs : List Char}
    (h : ∀ c ∈ cs, isIdentifierPart c = true) :
    ∀ c ∈ snakeAfter prev cs, isIdentifierPart c = true := by
  have hmark : ∀ prev cs, ∀ c ∈ wordMark prev cs, isIdentifierPart c = true := by
    intro prev cs
    rcases wordMark_cases prev cs with hmark | hmark
    · simp [hmark]
    · rw [hmark]
      exact List.forall_mem_singleton.mpr (by decide)
  induction cs generalizing prev with
  | nil => simp [snakeAfter]
  | cons c cs ih =>
    rw [List.forall_mem_cons] at h
    rw [snakeAfter_cons, snakeLetter_of_isIdentifierPart h.1]
    simp only [List.forall_mem_append, List.forall_mem_singleton]
    exact ⟨⟨hmark _ _, isIdentifierPart_toLower h.1⟩, ih h.2⟩

theorem snakeAfter_eq_nil_iff {prev : Option Char} {cs : List Char}
    (h : ∀ c ∈ cs, isIdentifierPart c = true) : snakeAfter prev cs = [] ↔ cs = [] := by
  cases cs with
  | nil => simp [snakeAfter]
  | cons c cs =>
    rw [snakeAfter_cons, snakeLetter_of_isIdentifierPart (h c List.mem_cons_self)]
    simp

/-- The first character of an identifier has no word mark. -/
theorem snakeAfter_none_cons {c : Char} (h : isIdentifierPart c = true) (cs : List Char) :
    snakeAfter none (c :: cs) = c.toLower :: snakeAfter (some c) cs := by
  have hmark : wordMark none (c :: cs) = [] := by simp [wordMark, startsWord]
  rw [snakeAfter_cons, snakeLetter_of_isIdentifierPart h, hmark]
  rfl

/-- The snake case of an identifier is one. -/
theorem isIdentifier_snakeAfter {cs : List Char} (h : isIdentifier cs = true) :
    isIdentifier (snakeAfter none cs) = true := by
  cases cs with
  | nil => exact absurd h (by simp [isIdentifier])
  | cons c cs =>
    have hparts := isIdentifierPart_of_mem h
    rw [List.forall_mem_cons] at hparts
    rw [isIdentifier, Bool.and_eq_true] at h
    have hlower : isIdentifierStart c.toLower = true :=
      of_isIdentifierPart (p := fun c => isIdentifierStart c = true →
        isIdentifierStart c.toLower = true) (by decide) hparts.1 h.1
    rw [snakeAfter_none_cons hparts.1, isIdentifier, hlower,
      List.all_eq_true.mpr (isIdentifierPart_of_mem_snakeAfter hparts.2)]
    rfl

/-- Only the lone underscore is one in snake case. -/
theorem snakeAfter_eq_underscore_iff {cs : List Char} (h : isIdentifier cs = true) :
    snakeAfter none cs = ['_'] ↔ cs = ['_'] := by
  cases cs with
  | nil => exact absurd h (by simp [isIdentifier])
  | cons c cs =>
    have hparts := isIdentifierPart_of_mem h
    rw [List.forall_mem_cons] at hparts
    rw [snakeAfter_none_cons hparts.1, List.cons.injEq, List.cons.injEq,
      toLower_eq_underscore_iff hparts.1, snakeAfter_eq_nil_iff hparts.2]

/-! ## Parts of a name -/

/-- The snake case of a text between the character `prev` and the text `after`, with the word mark
    of `after`. -/
def snakeBetween (prev : Option Char) (after : List Char) : List Char → List Char
  | [] => wordMark prev after
  | c :: cs => wordMark prev (c :: (cs ++ after)) ++ snakeLetter c ++ snakeBetween (some c) after cs

/-- Behind the word mark, the snake case of a part does not depend on what stands before it. -/
theorem snakeAfter_append_cons (prev : Option Char) (front : List Char) (c : Char)
    (cs : List Char) :
    snakeAfter prev (front ++ c :: cs) =
      snakeBetween prev (c :: cs) front ++ (snakeLetter c ++ snakeAfter (some c) cs) := by
  induction front generalizing prev with
  | nil => rw [List.nil_append, snakeAfter_cons, snakeBetween, List.append_assoc]
  | cons d front ih =>
    rw [List.cons_append, snakeAfter_cons, ih, snakeBetween]
    simp only [List.append_assoc]

/-- The letters and digits of a name in lower case, without its underscores. -/
def bareLetters (cs : List Char) : List Char :=
  (cs.filter (· != '_')).map Char.toLower

/-- Snake case keeps the letters of a name, and adds nothing but underscores. -/
theorem filter_snakeBetween {cs : List Char} (h : ∀ c ∈ cs, isIdentifierPart c = true)
    (prev : Option Char) (after : List Char) :
    (snakeBetween prev after cs).filter (· != '_') = bareLetters cs := by
  have hmark : ∀ prev cs, (wordMark prev cs).filter (· != '_') = [] := by
    intro prev cs
    rcases wordMark_cases prev cs with hmark | hmark <;> rw [hmark] <;> rfl
  induction cs generalizing prev with
  | nil => exact hmark prev after
  | cons c cs ih =>
    rw [List.forall_mem_cons] at h
    rw [snakeBetween, List.filter_append, List.filter_append, hmark, ih h.2,
      snakeLetter_of_isIdentifierPart h.1, bareLetters, bareLetters]
    by_cases hc : c = '_'
    · subst hc
      rfl
    · have hlower : c.toLower ≠ '_' := mt (toLower_eq_underscore_iff h.1).mp hc
      simp [hc, hlower]

/-! ## Camel case -/

/-- Whether a text is in camel case behind a capital, or else behind another character: it has no
    underscores, and no capital behind another one. -/
def isCamelAfter (capital : Bool) : List Char → Bool
  | [] => true
  | c :: cs => c != '_' && !(capital && isUpper c) && isCamelAfter (isUpper c) cs

/-- Whether a name is in camel case. -/
def isCamelCase (name : String) : Bool :=
  isCamelAfter false name.toList

/-- In camel case a capital always starts a word. -/
theorem wordMark_of_camel {prev c : Char} (hprev : isIdentifierPart prev = true)
    (hne : prev ≠ '_') (hpair : (isUpper prev && isUpper c) = false) (cs : List Char) :
    wordMark (some prev) (c :: cs) = if isUpper c then ['_'] else [] := by
  rw [wordMark]
  cases hc : isUpper c with
  | false => simp
  | true =>
    have hupper : isUpper prev = false := by simpa [hc] using hpair
    simp [startsWord_of_not_isUpper hprev hne hupper]

/-- The camel case of a text in snake case: what stands behind an underscore becomes a capital, also
    at the start if `capital` holds. -/
def camelOf (capital : Bool) : List Char → List Char
  | [] => []
  | c :: cs =>
    if c = '_' then camelOf true cs
    else (if capital then c.toUpper else c) :: camelOf false cs

/-- A name in camel case is read back from its snake case. -/
theorem camelOf_snakeBetween {cs : List Char} (h : ∀ c ∈ cs, isIdentifierPart c = true) {prev : Char}
    (hprev : isIdentifierPart prev = true) (hne : prev ≠ '_')
    (hcamel : isCamelAfter (isUpper prev) cs = true) (after : List Char) :
    camelOf false (snakeBetween (some prev) after cs) = cs := by
  induction cs generalizing prev with
  | nil =>
    rw [snakeBetween]
    rcases wordMark_cases (some prev) after with hmark | hmark <;> rw [hmark] <;> rfl
  | cons c cs ih =>
    rw [List.forall_mem_cons] at h
    simp only [isCamelAfter, Bool.and_eq_true, bne_iff_ne, ne_eq, Bool.not_eq_true'] at hcamel
    obtain ⟨⟨hc, hpair⟩, hcamel⟩ := hcamel
    have htail := ih h.2 h.1 hc hcamel
    have hlower : c.toLower ≠ '_' := mt (toLower_eq_underscore_iff h.1).mp hc
    rw [snakeBetween, wordMark_of_camel hprev hne hpair, snakeLetter_of_isIdentifierPart h.1]
    cases hupper : isUpper c with
    | true => simp [camelOf, hlower, toUpper_toLower h.1 hupper, htail]
    | false => simp [camelOf, hc, toLower_of_not_isUpper h.1 hupper, htail]

end VisitorGen

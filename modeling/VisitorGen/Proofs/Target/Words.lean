import VisitorGen.Proofs.Declaration.Brackets
import VisitorGen.Proofs.Layout
import VisitorGen.Target.Basic

set_option autoImplicit false

/-! # The words of a row

A declaration starts with words that are separated by single spaces, the last of them the name that
it declares: `pub struct Binary`, `public interface IVisitor`. A word ends at the first character
that stands in no name, so the words at the start of a row can be read whatever stands behind them
(`readWords`). Names, escaped or not, are words. What a row means is told from its words and from what
stands behind them (`readRow`), such as a list of items that are separated by commas. -/

namespace VisitorGen

open Text

/-- Whether a character can stand in a name, escaped or not. -/
def isNameChar (c : Char) : Bool :=
  isIdentifierPart c || c == '@' || c == '#'

/-- Whether all characters of a text can stand in names. -/
def isWord (word : String) : Bool :=
  word.toList.all isNameChar

/-- Whether a character can stand among the words of a row. -/
def isWordOrSpace (c : Char) : Bool :=
  isNameChar c || c == ' '

/-- The words at the start of a row, and what stands behind them. -/
def readWords (row : List Char) : List String × List Char :=
  (((row.takeWhile isWordOrSpace).splitOn ' ').map String.ofList, row.dropWhile isWordOrSpace)

theorem readWords_ne_nil (row : List Char) : (readWords row).1 ≠ [] := by
  simp [readWords, List.splitOn_ne_nil]

/-! ## Names are words -/

theorem isWord_of_isIdentifierPart {word : String}
    (h : ∀ c ∈ word.toList, isIdentifierPart c = true) : isWord word = true :=
  List.all_eq_true.mpr fun c hc => by simp [isNameChar, h c hc]

theorem isWord_of_isIdentifier {word : String} (h : isIdentifier word.toList = true) :
    isWord word = true :=
  isWord_of_isIdentifierPart (isIdentifierPart_of_mem h)

theorem isWord_append {a b : String} (ha : isWord a = true) (hb : isWord b = true) :
    isWord (a ++ b) = true := by
  rw [isWord, String.toList_append, List.all_append, ← isWord, ← isWord, ha, hb]
  rfl

theorem CSharp.isWord_escape {name : String} (h : ∀ c ∈ name.toList, isIdentifierPart c = true) :
    isWord (escape name) = true := by
  rw [escape]
  split
  · exact isWord_append (by decide) (isWord_of_isIdentifierPart h)
  · exact isWord_of_isIdentifierPart h

theorem Rust.isWord_escape {name : String} (h : ∀ c ∈ name.toList, isIdentifierPart c = true) :
    isWord (escape name) = true := by
  rw [escape]
  split
  · exact isWord_append (by decide) (isWord_of_isIdentifierPart h)
  · exact isWord_of_isIdentifierPart h

/-! ## Reading words -/

section

variable {word : String} (hword : isWord word = true)

include hword

theorem notMem_word {c : Char} (hc : isNameChar c = false) : c ∉ word.toList :=
  fun hmem => absurd (List.all_eq_true.mp hword c hmem) (by simp [hc])

theorem isWordOrSpace_of_mem_word : ∀ c ∈ word.toList, isWordOrSpace c = true := by
  intro c hc
  simp [isWordOrSpace, List.all_eq_true.mp hword c hc]

theorem isBlank_of_mem_word : ∀ c ∈ word.toList, isBlank c = false := by
  intro c hc
  have hchar := List.all_eq_true.mp hword c hc
  simp only [isNameChar, Bool.or_eq_true, beq_iff_eq] at hchar
  rcases hchar with (hpart | rfl) | rfl
  · exact isBlank_of_isIdentifierPart hpart
  · decide
  · decide

theorem startsSolid_word {c : Char} (hc : isBlank c = false) (row : List Char) :
    startsSolid (word.toList ++ c :: row) = true := by
  cases hlist : word.toList with
  | nil => simp [hc]
  | cons d ds => simp [isBlank_of_mem_word hword d (by simp [hlist])]

theorem neutral_of_mem_word : ∀ c ∈ word.toList, Neutral c :=
  fun c hc => neutral_of (by decide) (List.all_eq_true.mp hword c hc)

/-- A word is read up to a space. -/
theorem readWords_cons (row : List Char) : readWords (word.toList ++ ' ' :: row) =
    (word :: (readWords row).1, (readWords row).2) := by
  have hchars := isWordOrSpace_of_mem_word hword
  have htake : (word.toList ++ ' ' :: row).takeWhile isWordOrSpace =
      word.toList ++ ' ' :: row.takeWhile isWordOrSpace := by
    rw [List.takeWhile_append_of_pos hchars, List.takeWhile_cons_of_pos (by decide)]
  have hdrop : (word.toList ++ ' ' :: row).dropWhile isWordOrSpace =
      row.dropWhile isWordOrSpace := by
    rw [List.dropWhile_append_of_pos hchars, List.dropWhile_cons_of_pos (by decide)]
  rw [readWords, htake, hdrop,
    List.splitOn_append_cons_self_of_not_mem (notMem_word hword (by decide)), List.map_cons,
    String.ofList_toList, readWords]

/-- The last word is read up to a character that stands in no name. -/
theorem readWords_last {c : Char} (hc : isWordOrSpace c = false) (row : List Char) :
    readWords (word.toList ++ c :: row) = ([word], c :: row) := by
  have hchars := isWordOrSpace_of_mem_word hword
  have htake : (word.toList ++ c :: row).takeWhile isWordOrSpace = word.toList := by
    rw [List.takeWhile_append_of_pos hchars, List.takeWhile_cons_of_neg (by simp [hc]),
      List.append_nil]
  have hdrop : (word.toList ++ c :: row).dropWhile isWordOrSpace = c :: row := by
    rw [List.dropWhile_append_of_pos hchars, List.dropWhile_cons_of_neg (by simp [hc])]
  rw [readWords, htake, hdrop, List.splitOn_eq_singleton (notMem_word hword (by decide)),
    List.map_singleton, String.ofList_toList]

/-- The first word is read up to a character that stands in no name. -/
theorem exists_readWords {c : Char} (hc : isNameChar c = false) (row : List Char) :
    ∃ words, (readWords (word.toList ++ c :: row)).1 = word :: words := by
  by_cases hspace : c = ' '
  · rw [hspace, readWords_cons hword]
    exact ⟨_, rfl⟩
  · rw [readWords_last hword (by simp [isWordOrSpace, hc, hspace])]
    exact ⟨_, rfl⟩

/-- A word alone is read to its end. -/
theorem readWords_word : readWords word.toList = ([word], []) := by
  have hchars := isWordOrSpace_of_mem_word hword
  rw [readWords, List.takeWhile_eq_self_iff.mpr hchars, List.dropWhile_eq_nil_iff.mpr hchars,
    List.splitOn_eq_singleton (notMem_word hword (by decide)), List.map_singleton, String.ofList_toList]

end

/-! ## Reading rows -/

section

variable {α β : Type} (after : List String → List Char → List α)

/-- What a row means, where `after` tells it from the words of the row and what stands behind them. -/
def readRow (row : String) : List α :=
  after (readWords row.toList).1 (readWords row.toList).2

/-- What the rows of some steps mean, in order. -/
def readRows (steps : List Step) : List α :=
  steps.flatMap fun step => readRow after step.text

@[simp] theorem readRows_nil : readRows after [] = [] := rfl

@[simp] theorem readRows_cons (step : Step) (steps : List Step) :
    readRows after (step :: steps) = readRow after step.text ++ readRows after steps := rfl

@[simp] theorem readRows_append (as bs : List Step) :
    readRows after (as ++ bs) = readRows after as ++ readRows after bs :=
  List.flatMap_append

@[simp] theorem readRows_flatMap (piece : β → List Step) (xs : List β) :
    readRows after (xs.flatMap piece) = xs.flatMap fun x => readRows after (piece x) :=
  List.flatMap_assoc

theorem readRows_map_line {text : β → String} {xs : List β} {meaning : β → List α}
    (h : ∀ x ∈ xs, readRow after (text x) = meaning x) :
    readRows after (xs.map fun x => .line (text x)) = xs.flatMap meaning := by
  rw [readRows, List.flatMap_map]
  exact List.flatMap_congr h

/-- Rows that mean nothing. -/
theorem readRows_map_line_nil {text : β → String} {xs : List β}
    (h : ∀ x ∈ xs, readRow after (text x) = []) :
    readRows after (xs.map fun x => .line (text x)) = [] := by
  rw [readRows_map_line after h]
  simp

/-- Rows with one meaning each. -/
theorem readRows_map_line_one {text : β → String} {xs : List β} {meaning : β → α}
    (h : ∀ x ∈ xs, readRow after (text x) = [meaning x]) :
    readRows after (xs.map fun x => .line (text x)) = xs.map meaning := by
  rw [readRows_map_line after h, List.map_eq_flatMap]

variable {after}

theorem readRow_eq {row : String} {words : List String} {rest : List Char}
    (h : readWords row.toList = (words, rest)) : readRow after row = after words rest := by
  rw [readRow, h]

end

/-! ## Reading lists -/

section

variable {α : Type} {read : List Char → Option String}
  (hspace : ∀ part, read (' ' :: part) = read part)

include hspace

/-- A space before a list changes nothing. -/
theorem filterMap_splitAtCommas_space (list : List Char) :
    (splitAtCommas (' ' :: list)).filterMap read = (splitAtCommas list).filterMap read := by
  have hsplit : splitAtCommas (' ' :: list) = (splitAtCommas list).modifyHead (' ' :: ·) := rfl
  rw [hsplit]
  cases splitAtCommas list with
  | nil => rfl
  | cons part parts => simp only [List.modifyHead_cons, List.filterMap_cons, hspace]

/-- A list is read item by item, and what stands behind the list is taken for a part of its last
    item. -/
theorem filterMap_splitAtCommas {text name : α → String} {tail : List Char} (htail : ',' ∉ tail)
    {xs : List α} (hne : xs ≠ []) (hcomma : ∀ x ∈ xs, hasTopComma .start (text x).toList = false)
    (hclosed : ∀ x ∈ xs.dropLast, (Scan.start.read (text x).toList).depth = 0)
    (hread : ∀ x ∈ xs, ∀ rest ∈ [[], tail], read ((text x).toList ++ rest) = some (name x)) :
    (splitAtCommas ((String.intercalate ", " (xs.map text)).toList ++ tail)).filterMap read =
      xs.map name := by
  induction xs with
  | nil => exact absurd rfl hne
  | cons x xs ih =>
    rw [List.forall_mem_cons] at hcomma hread
    cases xs with
    | nil =>
      have hno : hasTopComma .start ((text x).toList ++ tail) = false := by
        rw [hasTopComma_append, hcomma.1, no_topComma_of_notMem _ htail]
        rfl
      rw [List.map_singleton, String.intercalate_singleton, splitAtCommas_of_no_comma hno,
        List.filterMap_cons_some (hread.1 tail (by simp))]
      rfl
    | cons y xs =>
      rw [List.dropLast_cons_of_ne_nil (by simp), List.forall_mem_cons] at hclosed
      have hfirst := hread.1 [] (by simp)
      rw [List.append_nil] at hfirst
      have hlist : (String.intercalate ", " ((x :: y :: xs).map text)).toList ++ tail =
          (text x).toList ++ ',' :: ' ' ::
            ((String.intercalate ", " ((y :: xs).map text)).toList ++ tail) := by
        simp only [List.map_cons, String.intercalate_cons_cons, String.toList_append]
        simp
      rw [hlist, splitAtCommas_cons hcomma.1 hclosed.1, List.filterMap_cons_some hfirst,
        filterMap_splitAtCommas_space hspace, ih (by simp) hcomma.2 hclosed.2 hread.2]
      rfl

end

end VisitorGen

import VisitorGen.Proofs.Declaration.Separator

set_option autoImplicit false

/-! # The place of the separator

The separator of a line is its first lone colon, the first colon with no colon directly before or
behind it. The search for it runs over bytes and remembers one of them; that it finds this character
and no other, and none only where there is none, is `separator_is_first_lone_colon`. The offset that
it gives lies between two characters, as does the offset behind the colon, since the colon takes a
single byte: the line may be sliced at both. -/

namespace VisitorGen

open Text

/-! ## Lone colons by position -/

/-- The character in front of a position of a text that follows the character `before`. -/
def charBefore? (before : Option Char) (cs : List Char) : Nat → Option Char
  | 0 => before
  | i + 1 => cs[i]?

/-- At the position stands a colon, with no colon directly before or behind it. The text follows the
    character `before`. -/
structure IsLoneColon (before : Option Char) (cs : List Char) (i : Nat) : Prop where
  colon : cs[i]? = some ':'
  before_ne : charBefore? before cs i ≠ some ':'
  behind_ne : cs[i + 1]? ≠ some ':'

/-- The lone colon at the position is the first one of the text. -/
structure IsFirstLoneColon (before : Option Char) (cs : List Char) (i : Nat) : Prop where
  lone : IsLoneColon before cs i
  first : ∀ j < i, ¬ IsLoneColon before cs j

section

variable {before : Option Char} {c : Char} {cs : List Char} {i : Nat}

theorem isLoneColon_zero :
    IsLoneColon before (c :: cs) 0 ↔ c = ':' ∧ before ≠ some ':' ∧ cs.head? ≠ some ':' := by
  constructor
  · rintro ⟨hcolon, hbefore, hbehind⟩
    exact ⟨by simpa using hcolon, hbefore, by simpa [List.head?_eq_getElem?] using hbehind⟩
  · rintro ⟨rfl, hbefore, hbehind⟩
    exact ⟨rfl, hbefore, by simpa [List.head?_eq_getElem?] using hbehind⟩

/-- Behind its first character a text is a text that follows this character. -/
theorem isLoneColon_succ :
    IsLoneColon before (c :: cs) (i + 1) ↔ IsLoneColon (some c) cs i := by
  have hbefore : charBefore? before (c :: cs) (i + 1) = charBefore? (some c) cs i := by
    cases i <;> rfl
  constructor
  · rintro ⟨hcolon, hlone, hbehind⟩
    exact ⟨hcolon, hbefore ▸ hlone, hbehind⟩
  · rintro ⟨hcolon, hlone, hbehind⟩
    exact ⟨hcolon, hbefore ▸ hlone, hbehind⟩

theorem not_isLoneColon_nil : ¬ IsLoneColon before [] i :=
  fun h => absurd h.colon (by simp)

theorem IsFirstLoneColon.succ (hzero : ¬ IsLoneColon before (c :: cs) 0)
    (h : IsFirstLoneColon (some c) cs i) : IsFirstLoneColon before (c :: cs) (i + 1) where
  lone := isLoneColon_succ.mpr h.lone
  first
    | 0, _ => hzero
    | j + 1, hj => fun hlone => h.first j (Nat.lt_of_succ_lt_succ hj) (isLoneColon_succ.mp hlone)

/-- A text has one first lone colon at most. -/
theorem IsFirstLoneColon.unique {j : Nat} (hi : IsFirstLoneColon before cs i)
    (hj : IsFirstLoneColon before cs j) : i = j := by
  rcases Nat.lt_trichotomy i j with hlt | heq | hlt
  · exact absurd hi.lone (hj.first i hlt)
  · exact heq
  · exact absurd hj.lone (hi.first j hlt)

end

/-- The search among characters finds the first lone colon, or there is none. -/
theorem splitLoneColon?_cases (before : Option Char) (cs : List Char) :
    (splitLoneColon? before cs = none ∧ ∀ i, ¬ IsLoneColon before cs i) ∨
      ∃ i, IsFirstLoneColon before cs i ∧
        splitLoneColon? before cs = some (cs.take i, cs.drop (i + 1)) := by
  induction cs generalizing before with
  | nil => exact .inl ⟨rfl, fun _ => not_isLoneColon_nil⟩
  | cons c cs ih =>
    by_cases hzero : IsLoneColon before (c :: cs) 0
    · refine .inr ⟨0, ⟨hzero, fun j hj => absurd hj (by omega)⟩, ?_⟩
      rw [splitLoneColon?, if_pos (by simpa [and_assoc] using isLoneColon_zero.mp hzero)]
      rfl
    · have hskip : ¬ (decide (c = ':') && before != some ':' && cs.head? != some ':') = true :=
        fun h => hzero (isLoneColon_zero.mpr (by simpa [and_assoc] using h))
      rcases ih (some c) with ⟨hnone, hno⟩ | ⟨i, hfirst, hsome⟩
      · refine .inl ⟨by rw [splitLoneColon?, if_neg hskip, hnone, Option.map_none], fun i => ?_⟩
        cases i with
        | zero => exact hzero
        | succ i => exact fun h => hno i (isLoneColon_succ.mp h)
      · refine .inr ⟨i + 1, hfirst.succ hzero, ?_⟩
        rw [splitLoneColon?, if_neg hskip, hsome]
        rfl

/-! ## Slicing -/

theorem utf8_append (as bs : List Char) : utf8 (as ++ bs) = utf8 as ++ utf8 bs :=
  List.flatMap_append

/-- The offset behind some characters of a text is the end of a string of these characters. -/
theorem rawEndPos_ofList (cs : List Char) :
    (String.ofList cs).rawEndPos = ⟨(utf8 cs).length⟩ := by
  have hbytes : (String.ofList cs).toByteArray = (utf8 cs).toByteArray := String.toByteArray_ofList
  rw [String.Pos.Raw.ext_iff, String.byteIdx_rawEndPos, ← String.size_toByteArray, hbytes,
    List.size_toByteArray]

/-- The offset behind some characters of a text is a position in the text. -/
theorem isValid_length_utf8 (front back : List Char) :
    String.Pos.Raw.IsValid (String.ofList (front ++ back)) ⟨(utf8 front).length⟩ :=
  String.Pos.Raw.isValid_iff_exists_append.mpr
    ⟨String.ofList front, String.ofList back, String.ofList_append, (rawEndPos_ofList front).symm⟩

/-- The character at the position `i` of the line stands at the byte offset `n` and is one byte
    long, and the line can be sliced before and behind it. -/
structure SlicesAround (line : List Char) (i n : Nat) : Prop where
  /-- The offset counts the bytes of the characters before the position. -/
  offset : n = (utf8 (line.take i)).length
  /-- The offset lies within the line. -/
  within : n < (utf8 line).length
  /-- The offset lies between two characters. -/
  valid : String.Pos.Raw.IsValid (String.ofList line) ⟨n⟩
  /-- So does the one behind it. -/
  valid_succ : String.Pos.Raw.IsValid (String.ofList line) ⟨n + 1⟩
  /-- The bytes up to the offset are the characters before the position. -/
  bytes_before : (utf8 line).take n = utf8 (line.take i)
  /-- The bytes from the next offset on are the characters behind the position. -/
  bytes_behind : (utf8 line).drop (n + 1) = utf8 (line.drop (i + 1))
  /-- A cut at the offset leaves the characters before the position in front. -/
  cut_before : (cutAtByte n line).1 = line.take i
  /-- Without its first character the rest is what stands behind the position. -/
  cut_behind : (cutAtByte n line).2.drop 1 = line.drop (i + 1)

/-- A line can be sliced around each of its colons. -/
theorem slicesAround_colon {cs : List Char} {i : Nat} (h : cs[i]? = some ':') :
    SlicesAround cs i (utf8 (cs.take i)).length := by
  obtain ⟨hlt, hcolon⟩ := List.getElem?_eq_some_iff.mp h
  have hcs : cs.take i ++ ':' :: cs.drop (i + 1) = cs := by
    rw [← hcolon, List.getElem_cons_drop, List.take_append_drop]
  have hbytes : utf8 cs = utf8 (cs.take i) ++ 0x3A :: utf8 (cs.drop (i + 1)) := by
    conv => lhs; rw [← hcs, utf8_append, utf8_cons, utf8_colon, List.singleton_append]
  have hvalid := isValid_length_utf8 (cs.take i) (':' :: cs.drop (i + 1))
  have hsucc := isValid_length_utf8 (cs.take i ++ [':']) (cs.drop (i + 1))
  have hcut := cutAtByte_length (cs.take i) (':' :: cs.drop (i + 1))
  rw [utf8_append, List.length_append, utf8_cons, utf8_colon, List.append_assoc,
    List.singleton_append, hcs] at hsucc
  rw [hcs] at hvalid hcut
  exact {
    offset := rfl
    within := by rw [hbytes, List.length_append, List.length_cons]; omega
    valid := hvalid
    valid_succ := hsucc
    bytes_before := by rw [hbytes, List.take_left]
    bytes_behind := by rw [hbytes, List.drop_length_add_append]; rfl
    cut_before := by rw [hcut]
    cut_behind := by rw [hcut]; rfl }

/-! ## The search among bytes -/

/-- **The separator is the first lone colon.** The search among the bytes of a line gives an offset
    exactly if some colon is lone, and the offset is then that of the first such colon, around which
    the line can be sliced. -/
theorem separator_is_first_lone_colon (line : List Char) :
    ((separatorOffset? line).isSome = true ↔ ∃ i, IsLoneColon none line i) ∧
      ∀ n, separatorOffset? line = some n ↔
        ∃ i, IsFirstLoneColon none line i ∧ SlicesAround line i n := by
  rcases splitLoneColon?_cases none line with ⟨hnone, hno⟩ | ⟨i, hfirst, hsome⟩
  · have hoffset : separatorOffset? line = none := by
      rw [separatorOffset?_eq, hnone, Option.map_none]
    refine ⟨by simpa [hoffset] using hno, fun n => ?_⟩
    rw [hoffset]
    exact ⟨fun h => absurd h (by simp), fun ⟨i, hi, _⟩ => absurd hi.lone (hno i)⟩
  · have hoffset : separatorOffset? line = some (utf8 (line.take i)).length := by
      rw [separatorOffset?_eq, hsome, Option.map_some]
    have hslices := slicesAround_colon hfirst.lone.colon
    refine ⟨by simpa [hoffset] using ⟨i, hfirst.lone⟩, fun n => ?_⟩
    rw [hoffset, Option.some_inj]
    constructor
    · rintro rfl
      exact ⟨i, hfirst, hslices⟩
    · rintro ⟨j, hj, hn⟩
      rw [hn.offset, hfirst.unique hj]

example : separatorOffset? "a::é:::ü: b:".toList = some 10 := by decide

end VisitorGen

import VisitorGen.Json.Literal

set_option autoImplicit false

/-! # How literals are written

The ways to write a character in a JSON literal (`CharText`): as it is, as a short escape, as a number
in four hexadecimal digits, or as the two numbers of a surrogate pair. The reader takes exactly the
literals that are written in these ways, and gives their characters (`readLiteral_reads`). -/

namespace VisitorGen.Json

/-- The reader takes the written form of a value from the front of a text, whatever stands behind
    it, and accepts no other text. -/
def Reads {α ε : Type} (read : List Char → Except ε (α × List Char))
    (written : α → List Char → Prop) : Prop :=
  ∀ cs a rest, read cs = .ok (a, rest) ↔ ∃ text, written a text ∧ cs = text ++ rest

/-! ## Numbers in four digits -/

/-- The hexadecimal digits with their values. -/
def hexDigits : List (Char × Nat) :=
  "0123456789abcdef".toList.zipIdx ++ "ABCDEF".toList.zipIdx 10

theorem lt_of_hexDigit? {c : Char} {d : Nat} (h : hexDigit? c = some d) : c.toNat < 128 := by
  have hle : ∀ e : Char, c ≤ e → c.toNat ≤ e.toNat := by
    intro e he
    exact UInt32.le_iff_toNat_le.mp he
  unfold hexDigit? at h
  split at h
  · next hdigit =>
    simp only [Char.isDigit, Bool.and_eq_true, decide_eq_true_eq] at hdigit
    exact Nat.lt_of_le_of_lt (hle '9' hdigit.2) (by decide)
  · split at h
    · next hlower =>
      simp only [Bool.and_eq_true, decide_eq_true_eq] at hlower
      exact Nat.lt_of_le_of_lt (hle 'f' hlower.2) (by decide)
    · split at h
      · next hupper =>
        simp only [Bool.and_eq_true, decide_eq_true_eq] at hupper
        exact Nat.lt_of_le_of_lt (hle 'F' hupper.2) (by decide)
      · exact absurd h (by simp)

theorem hexDigit?_eq_some_iff {c : Char} {d : Nat} :
    hexDigit? c = some d ↔ (c, d) ∈ hexDigits := by
  constructor
  · intro h
    -- the digits are among the first characters, which can be gone through
    have hall : ∀ n : Fin 128, ∀ d ∈ hexDigit? (Char.ofNat n), (Char.ofNat n, d) ∈ hexDigits := by
      decide +kernel
    have hc := hall ⟨c.toNat, lt_of_hexDigit? h⟩ d
    rw [Char.ofNat_toNat] at hc
    exact hc h
  · intro h
    have hall : ∀ p ∈ hexDigits, hexDigit? p.1 = some p.2 := by decide +kernel
    exact hall _ h

/-- The text is the number in four hexadecimal digits. -/
def HexText (n : Nat) (text : List Char) : Prop :=
  ∃ p q r s, (∀ digit ∈ [p, q, r, s], digit ∈ hexDigits) ∧ text = [p.1, q.1, r.1, s.1] ∧
    n = ((p.2 * 16 + q.2) * 16 + r.2) * 16 + s.2

theorem HexText.lt {n : Nat} {text : List Char} (h : HexText n text) : n < 0x10000 := by
  obtain ⟨p, q, r, s, hdigits, -, rfl⟩ := h
  have hlt : ∀ digit ∈ hexDigits, digit.2 < 16 := by decide
  have hp := hlt p (hdigits p (by simp))
  have hq := hlt q (hdigits q (by simp))
  have hr := hlt r (hdigits r (by simp))
  have hs := hlt s (hdigits s (by simp))
  omega

theorem readHex_reads : Reads readHex HexText := by
  intro cs n rest
  constructor
  · intro h
    unfold readHex at h
    split at h
    · next a b c d rest' =>
      split at h
      · next i j k l hi hj hk hl =>
        simp only [Except.ok.injEq, Prod.mk.injEq] at h
        obtain ⟨rfl, rfl⟩ := h
        rw [hexDigit?_eq_some_iff] at hi hj hk hl
        exact ⟨[a, b, c, d], ⟨(a, i), (b, j), (c, k), (d, l), by simp [hi, hj, hk, hl], rfl, rfl⟩, rfl⟩
      · exact absurd h (by simp)
    · split at h <;> exact absurd h (by simp)
  · rintro ⟨text, ⟨p, q, r, s, hdigits, rfl, rfl⟩, rfl⟩
    have hvalue : ∀ digit ∈ [p, q, r, s], hexDigit? digit.1 = some digit.2 :=
      fun digit hmem => hexDigit?_eq_some_iff.mpr (hdigits digit hmem)
    simp only [List.forall_mem_cons] at hvalue
    simp [readHex, hvalue]

/-! ## Characters -/

/-- The characters that have a short escape, with its letter. -/
def shortEscapes : List (Char × Char) :=
  [('"', '"'), ('\\', '\\'), ('/', '/'), ('\x08', 'b'), ('\x0c', 'f'), ('\n', 'n'), ('\r', 'r'),
    ('\t', 't')]

/-- The ways to write a character in a literal. -/
inductive CharText (c : Char) : List Char → Prop
  | raw (hcontrol : 0x20 ≤ c.toNat) (hquote : c ≠ '"') (hbackslash : c ≠ '\\') : CharText c [c]
  | short {letter : Char} (h : (c, letter) ∈ shortEscapes) : CharText c ['\\', letter]
  | number {digits : List Char} (h : HexText c.toNat digits) : CharText c ('\\' :: 'u' :: digits)
  | pair {lead trail : Nat} {digits digits' : List Char}
    (hlead : 0xD800 ≤ lead ∧ lead ≤ 0xDBFF) (htrail : 0xDC00 ≤ trail ∧ trail ≤ 0xDFFF)
    (hc : c.toNat = 0x10000 + (lead - 0xD800) * 0x400 + (trail - 0xDC00))
    (h : HexText lead digits) (h' : HexText trail digits') :
    CharText c ('\\' :: 'u' :: (digits ++ '\\' :: 'u' :: digits'))

theorem shortEscape?_eq_some_iff {c letter : Char} :
    shortEscape? letter = some c ↔ (c, letter) ∈ shortEscapes := by
  constructor
  · intro h
    unfold shortEscape? at h
    split at h
    case h_9 => exact absurd h (by simp)
    all_goals
      obtain rfl := Option.some.inj h
      decide
  · intro h
    have hall : ∀ p ∈ shortEscapes, shortEscape? p.2 = some p.1 := by decide
    exact hall _ h

theorem expectPairStart_eq_ok_iff {c : Char} {cs rest : List Char} :
    expectPairStart c cs = .ok ((), rest) ↔ cs = c :: rest := by
  cases cs with
  | nil => simp [expectPairStart]
  | cons d cs =>
    rw [expectPairStart]
    by_cases hd : d = c
    · simp [hd]
    · simp [hd]

theorem toNat_ofNat {n : Nat} (h : n.isValidChar) : (Char.ofNat n).toNat = n := by
  rw [Char.ofNat, dif_pos h]
  rfl

theorem isLeadSurrogate_iff {n : Nat} :
    isLeadSurrogate n = true ↔ 0xD800 ≤ n ∧ n ≤ 0xDBFF := by
  simp [isLeadSurrogate]

theorem isTrailSurrogate_iff {n : Nat} :
    isTrailSurrogate n = true ↔ 0xDC00 ≤ n ∧ n ≤ 0xDFFF := by
  simp [isTrailSurrogate]

/-- A character is not a surrogate. -/
theorem not_surrogate (c : Char) :
    isLeadSurrogate c.toNat = false ∧ isTrailSurrogate c.toNat = false := by
  simp only [isLeadSurrogate, isTrailSurrogate, Bool.and_eq_false_iff, decide_eq_false_iff_not]
  rcases c.valid with hlow | ⟨hhigh, -⟩
  · have hlt : c.toNat < 0xD800 := hlow
    omega
  · have hgt : 0xDFFF < c.toNat := hhigh
    omega

theorem toNat_joinSurrogates {lead trail : Nat} (hlead : 0xD800 ≤ lead ∧ lead ≤ 0xDBFF)
    (htrail : 0xDC00 ≤ trail ∧ trail ≤ 0xDFFF) :
    (joinSurrogates lead trail).toNat = 0x10000 + (lead - 0xD800) * 0x400 + (trail - 0xDC00) := by
  have hvalid : ((lead - 0xD800) * 0x400 + (trail - 0xDC00) + 0x10000).isValidChar := by
    refine Or.inr ⟨?_, ?_⟩ <;> omega
  rw [joinSurrogates, toNat_ofNat hvalid]
  omega

/-! ## Escapes -/

theorem readTrail_eq_ok_iff {lead : Nat} {cs rest : List Char} {c : Char} :
    readTrail lead cs = .ok (c, rest) ↔ ∃ trail digits, isTrailSurrogate trail = true ∧
      HexText trail digits ∧ c = joinSurrogates lead trail ∧
        cs = '\\' :: 'u' :: (digits ++ rest) := by
  constructor
  · intro h
    unfold readTrail at h
    split at h
    · exact absurd h (by simp)
    · next hbackslash =>
      split at h
      · exact absurd h (by simp)
      · next hu =>
        rw [expectPairStart_eq_ok_iff] at hbackslash hu
        split at h
        · exact absurd h (by simp)
        · next hhex =>
          split at h
          · next htrail =>
            simp only [Except.ok.injEq, Prod.mk.injEq] at h
            obtain ⟨rfl, rfl⟩ := h
            obtain ⟨digits, hdigits, htext⟩ := (readHex_reads _ _ _).mp hhex
            exact ⟨_, digits, htrail, hdigits, rfl, by rw [hbackslash, hu, htext]⟩
          · exact absurd h (by simp)
  · rintro ⟨trail, digits, htrail, hdigits, hc, rfl⟩
    have hhex : readHex (digits ++ rest) = .ok (trail, rest) :=
      (readHex_reads _ _ _).mpr ⟨digits, hdigits, rfl⟩
    simp [readTrail, expectPairStart, hhex, htrail, hc]

/-- A numeric escape is the number of a character, or a leading surrogate with its trail. -/
theorem readNumericEscape_eq_ok_iff {cs rest : List Char} {c : Char} :
    readNumericEscape cs = .ok (c, rest) ↔ ∃ n behind, readHex cs = .ok (n, behind) ∧
      isTrailSurrogate n = false ∧
        (isLeadSurrogate n = true ∧ readTrail n behind = .ok (c, rest) ∨
          isLeadSurrogate n = false ∧ c = Char.ofNat n ∧ rest = behind) := by
  constructor
  · intro h
    rw [readNumericEscape] at h
    split at h
    · exact absurd h (by simp)
    · next n behind hhex =>
      split at h
      · exact absurd h (by simp)
      · next htrail =>
        refine ⟨n, behind, hhex, by simpa using htrail, ?_⟩
        split at h
        · next hlead => exact .inl ⟨hlead, h⟩
        · next hlead =>
          obtain ⟨rfl, rfl⟩ := Prod.mk.inj (Except.ok.inj h)
          exact .inr ⟨by simpa using hlead, rfl, rfl⟩
  · rintro ⟨n, behind, hhex, htrail, ⟨hlead, hread⟩ | ⟨hlead, rfl, rfl⟩⟩
    · simp [readNumericEscape, hhex, htrail, hlead, hread]
    · simp [readNumericEscape, hhex, htrail, hlead]

theorem readNumericEscape_reads :
    Reads readNumericEscape fun c text => CharText c ('\\' :: 'u' :: text) := by
  intro cs c rest
  rw [readNumericEscape_eq_ok_iff]
  constructor
  · rintro ⟨n, behind, hhex, htrail, hcases⟩
    obtain ⟨digits, hdigits, rfl⟩ := (readHex_reads _ _ _).mp hhex
    rcases hcases with ⟨hlead, hread⟩ | ⟨hlead, rfl, rfl⟩
    · obtain ⟨trail, digits', htrail', hdigits', hc, rfl⟩ := readTrail_eq_ok_iff.mp hread
      rw [isLeadSurrogate_iff] at hlead
      rw [isTrailSurrogate_iff] at htrail'
      have hvalue := toNat_joinSurrogates hlead htrail'
      rw [← hc] at hvalue
      exact ⟨digits ++ '\\' :: 'u' :: digits', .pair hlead htrail' hvalue hdigits hdigits', by simp⟩
    · -- a number outside the surrogates is a character
      rw [← Bool.not_eq_true, isTrailSurrogate_iff] at htrail
      rw [← Bool.not_eq_true, isLeadSurrogate_iff] at hlead
      have hvalid : n.isValidChar := by
        have hlt := hdigits.lt
        unfold Nat.isValidChar
        omega
      rw [← toNat_ofNat hvalid] at hdigits
      exact ⟨digits, .number hdigits, rfl⟩
  · rintro ⟨text, htext, rfl⟩
    cases htext with
    | short h => exact absurd h (by simp [shortEscapes])
    | number h =>
      obtain ⟨hlead, htrail⟩ := not_surrogate c
      exact ⟨c.toNat, rest, (readHex_reads _ _ _).mpr ⟨text, h, rfl⟩, htrail,
        .inr ⟨hlead, by rw [Char.ofNat_toNat], rfl⟩⟩
    | @pair lead trail digits digits' hlead htrail hc h h' =>
      have hnot : isTrailSurrogate lead = false := by
        rw [← Bool.not_eq_true, isTrailSurrogate_iff]
        omega
      have hjoin : c = joinSurrogates lead trail := by
        rw [← Char.ofNat_toNat c, hc, ← toNat_joinSurrogates hlead htrail, Char.ofNat_toNat]
      refine ⟨lead, '\\' :: 'u' :: (digits' ++ rest), ?_, hnot,
        .inl ⟨isLeadSurrogate_iff.mpr hlead, ?_⟩⟩
      · exact (readHex_reads _ _ _).mpr ⟨digits, h, by simp⟩
      · exact readTrail_eq_ok_iff.mpr
          ⟨trail, digits', isTrailSurrogate_iff.mpr htrail, h', hjoin, rfl⟩

theorem readEscape_reads : Reads readEscape fun c text => CharText c ('\\' :: text) := by
  intro cs c rest
  constructor
  · intro h
    cases cs with
    | nil => exact absurd h (by simp [readEscape])
    | cons letter cs =>
      rw [readEscape] at h
      split at h
      · next hu =>
        obtain ⟨text, htext, rfl⟩ := (readNumericEscape_reads _ _ _).mp h
        exact ⟨'u' :: text, htext, by rw [hu]; rfl⟩
      · split at h
        · next hshort =>
          simp only [Except.ok.injEq, Prod.mk.injEq] at h
          obtain ⟨rfl, rfl⟩ := h
          exact ⟨[letter], .short (shortEscape?_eq_some_iff.mp hshort), rfl⟩
        · exact absurd h (by simp)
  · rintro ⟨text, htext, rfl⟩
    cases htext with
    | raw _ _ hbackslash => exact absurd rfl hbackslash
    | @short letter h =>
      have hne : letter ≠ 'u' := by
        rintro rfl
        exact absurd h (by simp [shortEscapes])
      have hshort := shortEscape?_eq_some_iff.mpr h
      simp [readEscape, hne, hshort]
    | number h => exact (readNumericEscape_reads _ _ _).mpr ⟨_, .number h, rfl⟩
    | pair hlead htrail hc h h' =>
      exact (readNumericEscape_reads _ _ _).mpr ⟨_, .pair hlead htrail hc h h', rfl⟩

/-! ## Literals -/

/-- The written forms of characters, one after another. -/
inductive CharsText : List Char → List Char → Prop
  | nil : CharsText [] []
  | cons {c : Char} {text : List Char} {cs texts : List Char} (h : CharText c text)
    (hs : CharsText cs texts) : CharsText (c :: cs) (text ++ texts)

/-- A literal: characters between quotes. -/
def StringText (cs text : List Char) : Prop :=
  ∃ chars, CharsText cs chars ∧ text = '"' :: (chars ++ ['"'])

theorem StringText.cons {c : Char} {text cs texts : List Char} (h : CharText c text)
    (hs : StringText cs ('"' :: texts)) : StringText (c :: cs) ('"' :: (text ++ texts)) := by
  obtain ⟨chars, hchars, heq⟩ := hs
  obtain rfl := List.tail_eq_of_cons_eq heq
  exact ⟨text ++ chars, .cons h hchars, by rw [List.append_assoc]⟩

/-- A character is read before those that come after it. -/
theorem readLiteral_charText {c : Char} {text : List Char} (h : CharText c text) (cs : List Char) :
    readLiteral (text ++ cs) = (readLiteral cs).map fun (ds, tail) => (c :: ds, tail) := by
  have hescape : ∀ text', CharText c ('\\' :: text') → readLiteral ('\\' :: (text' ++ cs)) =
      (readLiteral cs).map fun (ds, tail) => (c :: ds, tail) := by
    intro text' htext
    have hread : readEscape (text' ++ cs) = .ok (c, cs) :=
      (readEscape_reads _ _ _).mpr ⟨text', htext, rfl⟩
    rw [readLiteral, if_neg (by decide), if_pos rfl]
    split
    · next herror => simp [hread] at herror
    · next hok =>
      rw [hread] at hok
      simp only [Except.ok.injEq, Prod.mk.injEq] at hok
      obtain ⟨rfl, rfl⟩ := hok
      cases readLiteral cs <;> rfl
  -- only a character that stands for itself is not an escape
  cases h with
  | raw hcontrol hquote hbackslash =>
    rw [List.singleton_append, readLiteral, if_neg hquote, if_neg hbackslash,
      if_neg (Nat.not_lt.mpr hcontrol)]
    cases readLiteral cs <;> rfl
  | short h => exact hescape _ (.short h)
  | number h => exact hescape _ (.number h)
  | pair hlead htrail hc h h' => exact hescape _ (.pair hlead htrail hc h h')

theorem readLiteral_reads : Reads readLiteral fun cs text => StringText cs ('"' :: text) := by
  intro cs ds rest
  constructor
  · intro h
    fun_induction readLiteral cs generalizing ds with
    | case1 => exact absurd h (by simp)
    | case2 =>
      obtain ⟨rfl, rfl⟩ := Prod.mk.inj (Except.ok.inj h)
      exact ⟨['"'], ⟨[], .nil, rfl⟩, rfl⟩
    | case3 => exact absurd h (by simp)
    | case4 => exact absurd h (by simp)
    | case5 _ _ _ hescape _ _ _ hread _ ih =>
      obtain ⟨rfl, rfl⟩ := Prod.mk.inj (Except.ok.inj h)
      obtain ⟨text, htext, rfl⟩ := (readEscape_reads _ _ _).mp hescape
      obtain ⟨texts, htexts, rfl⟩ := ih _ hread
      exact ⟨_, .cons htext htexts, by simp⟩
    | case6 => exact absurd h (by simp)
    | case7 => exact absurd h (by simp)
    | case8 _ _ hquote hbackslash hcontrol _ _ hread ih =>
      obtain ⟨rfl, rfl⟩ := Prod.mk.inj (Except.ok.inj h)
      obtain ⟨texts, htexts, rfl⟩ := ih _ hread
      exact ⟨_, .cons (.raw (Nat.le_of_not_lt hcontrol) hquote hbackslash) htexts, rfl⟩
  · rintro ⟨text, ⟨chars, hchars, heq⟩, rfl⟩
    obtain rfl := List.tail_eq_of_cons_eq heq
    clear heq
    -- one written character after another, up to the closing quote
    induction hchars with
    | nil => simp [readLiteral]
    | cons hchar _ ih =>
      rw [List.append_assoc, List.append_assoc, readLiteral_charText hchar, ← List.append_assoc, ih]
      rfl

end VisitorGen.Json

import VisitorGen.Json.Fault

set_option autoImplicit false

/-! # JSON string literals

The characters of a literal, up to its closing quote. A character stands for itself, for a short
escape, or for a number in four hexadecimal digits; two such numbers, a pair of surrogates, stand
for one character beyond the basic plane. -/

namespace VisitorGen.Json

/-- What a reader gives: a value and the text after it, or a fault. -/
abbrev Reading (α : Type) := Except Fault (α × List Char)

/-- The value of a hexadecimal digit. -/
def hexDigit? (c : Char) : Option Nat :=
  if c.isDigit then some (c.toNat - '0'.toNat)
  else if 'a' ≤ c && c ≤ 'f' then some (c.toNat - 'a'.toNat + 10)
  else if 'A' ≤ c && c ≤ 'F' then some (c.toNat - 'A'.toNat + 10)
  else none

/-- Read four hexadecimal digits. Anything else takes up four bytes before it is refused. -/
def readHex (cs : List Char) : Reading Nat :=
  match cs with
  | a :: b :: c :: d :: rest =>
    match hexDigit? a, hexDigit? b, hexDigit? c, hexDigit? d with
    | some a, some b, some c, some d => .ok (((a * 16 + b) * 16 + c) * 16 + d, rest)
    | _, _, _, _ => .error ⟨.invalidEscape, cs, 4⟩
  | _ =>
    if byteCount cs < 4 then .error (.behind .endInString []) else .error ⟨.invalidEscape, cs, 4⟩

/-- Read one given character, the second half of a surrogate pair's start. -/
def expectPairStart (c : Char) : List Char → Reading Unit
  | [] => .error (.behind .endInString [])
  | d :: rest => if d = c then .ok ((), rest) else .error (.next .brokenSurrogatePair (d :: rest))

/-- Whether a number is a leading surrogate. -/
def isLeadSurrogate (n : Nat) : Bool := 0xD800 ≤ n && n ≤ 0xDBFF

/-- Whether a number is a trailing surrogate. -/
def isTrailSurrogate (n : Nat) : Bool := 0xDC00 ≤ n && n ≤ 0xDFFF

/-- The character of a surrogate pair. -/
def joinSurrogates (lead trail : Nat) : Char :=
  Char.ofNat ((lead - 0xD800) * 0x400 + (trail - 0xDC00) + 0x10000)

/-- Read the rest of a pair after its leading surrogate. -/
def readTrail (lead : Nat) (cs : List Char) : Reading Char :=
  match expectPairStart '\\' cs with
  | .error e => .error e
  | .ok ((), cs) =>
    match expectPairStart 'u' cs with
    | .error e => .error e
    | .ok ((), cs) =>
      match readHex cs with
      | .error e => .error e
      | .ok (trail, rest) =>
        if isTrailSurrogate trail then .ok (joinSurrogates lead trail, rest)
        else .error (.behind .loneSurrogate rest)

/-- Read a numeric escape after its `u`. -/
def readNumericEscape (cs : List Char) : Reading Char :=
  match readHex cs with
  | .error e => .error e
  | .ok (n, rest) =>
    if isTrailSurrogate n then .error (.behind .loneSurrogate rest)
    else if isLeadSurrogate n then readTrail n rest
    else .ok (Char.ofNat n, rest)

/-- The character of a short escape. -/
def shortEscape? (c : Char) : Option Char :=
  match c with
  | '"' => some '"'
  | '\\' => some '\\'
  | '/' => some '/'
  | 'b' => some (Char.ofNat 0x8)
  | 'f' => some (Char.ofNat 0xC)
  | 'n' => some '\n'
  | 'r' => some '\r'
  | 't' => some '\t'
  | _ => none

/-- Read an escape after its backslash. -/
def readEscape : List Char → Reading Char
  | [] => .error (.behind .endInString [])
  | c :: rest =>
    if c = 'u' then readNumericEscape rest
    else
      match shortEscape? c with
      | some d => .ok (d, rest)
      | none => .error (.next .invalidEscape (c :: rest))

/-! ## Readers shorten the text -/

theorem readHex_length {cs rest : List Char} {n : Nat} (h : readHex cs = .ok (n, rest)) :
    rest.length < cs.length := by
  unfold readHex at h
  split at h
  · split at h
    · obtain ⟨_, rfl⟩ : _ ∧ _ = rest := by simpa using h
      simp only [List.length_cons]
      omega
    · nomatch h
  · split at h <;> nomatch h

theorem expectPairStart_length {c : Char} {cs rest : List Char}
    (h : expectPairStart c cs = .ok ((), rest)) : rest.length < cs.length := by
  cases cs with
  | nil => nomatch h
  | cons d cs =>
    rw [expectPairStart] at h
    split at h
    · obtain rfl : cs = rest := by simpa using h
      simp
    · nomatch h

theorem readTrail_length {lead : Nat} {cs rest : List Char} {c : Char}
    (h : readTrail lead cs = .ok (c, rest)) : rest.length < cs.length := by
  unfold readTrail at h
  cases h₁ : expectPairStart '\\' cs with
  | error e => simp [h₁] at h
  | ok p₁ =>
    cases h₂ : expectPairStart 'u' p₁.2 with
    | error e => simp [h₁, h₂] at h
    | ok p₂ =>
      cases h₃ : readHex p₂.2 with
      | error e => simp [h₁, h₂, h₃] at h
      | ok p₃ =>
        obtain rfl : p₃.2 = rest := by
          simp only [h₁, h₂, h₃] at h
          split at h <;> simp_all
        have := expectPairStart_length h₁
        have := expectPairStart_length h₂
        have := readHex_length h₃
        omega

theorem readNumericEscape_length {cs rest : List Char} {c : Char}
    (h : readNumericEscape cs = .ok (c, rest)) : rest.length < cs.length := by
  unfold readNumericEscape at h
  cases h₁ : readHex cs with
  | error e => simp [h₁] at h
  | ok p =>
    have hp := readHex_length h₁
    simp only [h₁] at h
    split at h
    · simp at h
    · split at h
      · exact Nat.lt_trans (readTrail_length h) hp
      · obtain ⟨_, rfl⟩ : _ ∧ p.2 = rest := by simpa using h
        exact hp

theorem readEscape_length {cs rest : List Char} {c : Char}
    (h : readEscape cs = .ok (c, rest)) : rest.length < cs.length := by
  cases cs with
  | nil => simp [readEscape] at h
  | cons d cs =>
    rw [readEscape] at h
    split at h
    · exact Nat.lt_trans (readNumericEscape_length h) (by simp)
    · split at h
      · obtain ⟨_, rfl⟩ : _ ∧ cs = rest := by simpa using h
        simp
      · simp at h

/-! ## Literals -/

/-- Read the characters of a literal after its opening quote. -/
def readLiteral (cs : List Char) : Reading (List Char) :=
  match cs with
  | [] => .error (.behind .endInString [])
  | c :: rest =>
    if c = '"' then .ok ([], rest)
    else if c = '\\' then
      match h : readEscape rest with
      | .error e => .error e
      | .ok (d, rest') =>
        have : rest'.length < rest.length := readEscape_length h
        match readLiteral rest' with
        | .error e => .error e
        | .ok (ds, tail) => .ok (d :: ds, tail)
    else if c.toNat < 0x20 then .error (.next .controlCharacter (c :: rest))
    else
      match readLiteral rest with
      | .error e => .error e
      | .ok (ds, tail) => .ok (c :: ds, tail)
termination_by cs.length
decreasing_by all_goals simp only [List.length_cons]; omega

theorem readLiteral_length {cs ds rest : List Char} (h : readLiteral cs = .ok (ds, rest)) :
    rest.length < cs.length := by
  fun_induction readLiteral cs generalizing ds with
  | case1 => nomatch h
  | case2 =>
    obtain ⟨_, rfl⟩ : _ ∧ _ = rest := by simpa using h
    simp
  | case3 => nomatch h
  | case4 => nomatch h
  | case5 _ _ _ _ hlt _ _ hread _ ih =>
    obtain ⟨_, rfl⟩ : _ ∧ _ = rest := by simpa using h
    have := ih hread
    simp only [List.length_cons]
    omega
  | case6 => nomatch h
  | case7 => nomatch h
  | case8 _ _ _ _ _ _ _ hread ih =>
    obtain ⟨_, rfl⟩ : _ ∧ _ = rest := by simpa using h
    have := ih hread
    simp only [List.length_cons]
    omega

end VisitorGen.Json

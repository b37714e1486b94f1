import Mathlib.Tactic.Common
import VisitorGen.Declaration.Separator

set_option autoImplicit false

/-! # Bytes and characters at the separator

The separator of a line is found among its bytes. A colon is one byte, and no other character has
that byte in its UTF-8 form, so the search finds what the same search among characters finds
(`separatorOffset?_eq`), and the offset is that of a character (`cutAtByte_length`). -/

namespace VisitorGen

open Text

/-! ## The byte of the colon -/

theorem utf8_cons (c : Char) (cs : List Char) :
    utf8 (c :: cs) = String.utf8EncodeChar c ++ utf8 cs :=
  List.flatMap_cons

theorem utf8_colon : String.utf8EncodeChar ':' = [0x3A] := by decide

/-- The byte of the colon stands for nothing but a colon. -/
theorem colon_notMem_utf8EncodeChar {c : Char} (h : c ≠ ':') :
    (0x3A : UInt8) ∉ String.utf8EncodeChar c := by
  have hc : c.val.toNat ≠ 58 := fun hn => h (Char.ext (UInt32.toNat_inj.mp hn))
  rw [String.utf8EncodeChar]
  -- every byte of a form longer than one byte is at least `0x80`
  split
  · simp only [List.mem_singleton, ← UInt8.toNat_inj, UInt8.toNat_ofNat', UInt8.reduceToNat]
    omega
  · split
    · simp only [List.mem_cons, List.not_mem_nil, or_false, ← UInt8.toNat_inj, UInt8.toNat_ofNat',
        UInt8.reduceToNat]
      omega
    · split
      · simp only [List.mem_cons, List.not_mem_nil, or_false, ← UInt8.toNat_inj,
          UInt8.toNat_ofNat', UInt8.reduceToNat]
        omega
      · simp only [List.mem_cons, List.not_mem_nil, or_false, ← UInt8.toNat_inj,
          UInt8.toNat_ofNat', UInt8.reduceToNat]
        omega

theorem utf8EncodeChar_ne_nil (c : Char) : String.utf8EncodeChar c ≠ [] := by
  intro h
  have hlen := String.length_utf8EncodeChar c
  rw [h, List.length_nil] at hlen
  exact absurd c.utf8Size_pos (by omega)

/-- A UTF-8 form starts with the byte of the colon exactly when the text starts with a colon. -/
theorem head?_utf8_eq_colon_iff (cs : List Char) :
    (utf8 cs).head? = some 0x3A ↔ cs.head? = some ':' := by
  cases cs with
  | nil => simp [utf8]
  | cons c cs =>
    by_cases hc : c = ':'
    · simp [utf8_cons, hc, utf8_colon]
    · have hnot := colon_notMem_utf8EncodeChar hc
      cases henc : String.utf8EncodeChar c with
      | nil => exact absurd henc (utf8EncodeChar_ne_nil c)
      | cons b bs =>
        rw [henc, List.mem_cons, not_or] at hnot
        simp [utf8_cons, henc, hc, Ne.symm hnot.1]

/-! ## The search -/

/-- Bytes that are no colons are passed over. Only the last of them is remembered. -/
theorem loneColonAfter?_append {bs : List UInt8} (hne : bs ≠ []) (h : (0x3A : UInt8) ∉ bs)
    (before : Option UInt8) (rest : List UInt8) :
    ∃ b, b ≠ 0x3A ∧
      loneColonAfter? before (bs ++ rest)
        = (loneColonAfter? (some b) rest).map (· + bs.length) := by
  induction bs generalizing before with
  | nil => exact absurd rfl hne
  | cons b bs ih =>
    simp only [List.mem_cons, not_or] at h
    have hb : b ≠ 0x3A := fun hb => h.1 hb.symm
    have hstep : loneColonAfter? before (b :: bs ++ rest)
        = (loneColonAfter? (some b) (bs ++ rest)).map (· + 1) := by
      simp [loneColonAfter?, hb]
    cases bs with
    | nil => exact ⟨b, hb, hstep⟩
    | cons b' bs =>
      obtain ⟨d, hd, hrest⟩ := ih (by simp) h.2 (some b)
      refine ⟨d, hd, ?_⟩
      rw [hstep, hrest, Option.map_map]
      rfl

/-- Searching the bytes of a text is searching the text, as long as both searches agree on whether
    a colon was read just before. -/
theorem loneColonAfter?_utf8 (cs : List Char) {b : Option UInt8} {c : Option Char}
    (h : b = some 0x3A ↔ c = some ':') :
    loneColonAfter? b (utf8 cs)
      = (splitLoneColon? c cs).map fun parts => (utf8 parts.1).length := by
  induction cs generalizing b c with
  | nil => rfl
  | cons d cs ih =>
    by_cases hd : d = ':'
    · subst hd
      have hhead := head?_utf8_eq_colon_iff cs
      rw [utf8_cons, utf8_colon, List.singleton_append, loneColonAfter?, splitLoneColon?]
      by_cases hlone : c ≠ some ':' ∧ cs.head? ≠ some ':'
      · have hbytes : b ≠ some 0x3A ∧ (utf8 cs).head? ≠ some 0x3A :=
          ⟨fun hb => hlone.1 (h.mp hb), fun hh => hlone.2 (hhead.mp hh)⟩
        rw [if_pos (by simpa using hbytes), if_pos (by simpa using hlone)]
        simp [utf8]
      · have hbytes : ¬ (b ≠ some 0x3A ∧ (utf8 cs).head? ≠ some 0x3A) := fun hb =>
          hlone ⟨fun hc => hb.1 (h.mpr hc), fun hh => hb.2 (hhead.mpr hh)⟩
        rw [if_neg (by simpa using hbytes), if_neg (by simpa using hlone),
          ih (b := some 0x3A) (c := some ':') (by simp), Option.map_map, Option.map_map]
        rfl
    · obtain ⟨b', hb', hskip⟩ :=
        loneColonAfter?_append (utf8EncodeChar_ne_nil d) (colon_notMem_utf8EncodeChar hd) b
          (utf8 cs)
      rw [utf8_cons, hskip, splitLoneColon?, if_neg (by simp [hd]),
        ih (b := some b') (c := some d) (by simp [hb', hd]), Option.map_map, Option.map_map]
      congr 1
      funext parts
      simp [utf8_cons, Nat.add_comm]

theorem separatorOffset?_eq (line : List Char) :
    separatorOffset? line
      = (splitLoneColon? none line).map fun parts => (utf8 parts.1).length :=
  loneColonAfter?_utf8 line (by simp)

/-! ## The cut -/

/-- The offset of a character cuts in front of it. -/
theorem cutAtByte_length (front back : List Char) :
    cutAtByte (utf8 front).length (front ++ back) = (front, back) := by
  induction front with
  | nil => cases back <;> rfl
  | cons c front ih =>
    have hpos := c.utf8Size_pos
    have hlen : (utf8 (c :: front)).length = (c.utf8Size - 1 + (utf8 front).length) + 1 := by
      rw [utf8_cons, List.length_append, String.length_utf8EncodeChar]
      omega
    rw [hlen, List.cons_append, cutAtByte,
      show c.utf8Size - 1 + (utf8 front).length + 1 - c.utf8Size = (utf8 front).length by omega, ih]

/-! ## Lone colons -/

/-- The first colon of a text is its separator if no other colon follows it. -/
theorem splitLoneColon?_append {before : Option Char} (hbefore : before ≠ some ':')
    {front : List Char} (hfront : ':' ∉ front) {back : List Char} (hback : back.head? ≠ some ':') :
    splitLoneColon? before (front ++ ':' :: back) = some (front, back) := by
  induction front generalizing before with
  | nil => simp [splitLoneColon?, hbefore, hback]
  | cons c front ih =>
    simp only [List.mem_cons, not_or] at hfront
    have hc : c ≠ ':' := fun hc => hfront.1 hc.symm
    rw [List.cons_append, splitLoneColon?, if_neg (by simp [hc]),
      ih (by simpa using hc) hfront.2]
    rfl

end VisitorGen

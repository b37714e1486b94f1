import Mathlib.Tactic.Common
import VisitorGen.Proofs.Declaration.PaddedLine

set_option autoImplicit false

/-! # Bracketed types

The types of real languages are *bracketed*: ordinary characters, arrows and groups, where a group
may hold commas and further groups to any depth. The scan only counts brackets, and it takes a
closing angle bracket behind a dash for the end of an arrow. Still it agrees with the nesting: it
comes back from a bracketed text to the depth it came with, and meets no comma at that depth
(`Bracketed.scan`). So a line of such types is read whatever its padding
(`PaddedLine.read_text_of_bracketed`). -/

namespace VisitorGen

open Text

/-! ## The nesting of brackets -/

/-- The three kinds of brackets. -/
inductive Bracket where
  | angle
  | round
  | square
  deriving DecidableEq, Repr

/-- The character that opens a group. -/
def Bracket.opening : Bracket → Char
  | .angle => '<'
  | .round => '('
  | .square => '['

/-- The character that closes a group. -/
def Bracket.closing : Bracket → Char
  | .angle => '>'
  | .round => ')'
  | .square => ']'

/-- Whether a character is neither a bracket nor a comma. -/
def isOrdinary (c : Char) : Bool :=
  !(isOpening c || isClosing c || c == ',')

/-- Texts made of ordinary characters, arrows and groups, and `inside` a group also of commas. An
    angle group does not end in a dash, which would make an arrow of its closing bracket. -/
inductive Bracketed : Bool → List Char → Prop
  | nil {inside : Bool} : Bracketed inside []
  | ordinary {inside : Bool} {c : Char} {cs : List Char} (hc : isOrdinary c = true)
      (tail : Bracketed inside cs) : Bracketed inside (c :: cs)
  | arrow {inside : Bool} {cs : List Char} (tail : Bracketed inside cs) :
      Bracketed inside ('-' :: '>' :: cs)
  | comma {cs : List Char} (tail : Bracketed true cs) : Bracketed true (',' :: cs)
  | group {inside : Bool} {inner cs : List Char} (b : Bracket) (body : Bracketed true inner)
      (hdash : b = .angle → inner.getLast? ≠ some '-') (tail : Bracketed inside cs) :
      Bracketed inside (b.opening :: (inner ++ b.closing :: cs))

/-- A text of ordinary characters is bracketed, also in front of a bracketed text. -/
theorem Bracketed.ordinaries {inside : Bool} {cs tail : List Char} (hcs : cs.all isOrdinary = true)
    (htail : Bracketed inside tail) : Bracketed inside (cs ++ tail) := by
  induction cs with
  | nil => exact htail
  | cons c cs ih =>
    rw [List.all_cons, Bool.and_eq_true] at hcs
    exact .ordinary hcs.1 (ih hcs.2)

/-! ## The scan of a bracketed text -/

theorem Scan.depth_step_ordinary (s : Scan) {c : Char} (hc : isOrdinary c = true) :
    (s.step c).depth = s.depth := by
  simp only [isOrdinary, Bool.not_eq_true', Bool.or_eq_false_iff] at hc
  have hangle : c ≠ '>' := by
    rintro rfl
    exact absurd hc.1.2 (by decide)
  simp [Scan.step, hc.1.1, hc.1.2, hangle]

theorem Scan.depth_step_opening (s : Scan) (b : Bracket) :
    (s.step b.opening).depth = s.depth + 1 := by
  cases b <;> rfl

theorem Scan.depth_step_closing {s : Scan} {b : Bracket}
    (hdash : b = .angle → s.afterDash = false) : (s.step b.closing).depth = s.depth - 1 := by
  cases b with
  | angle => simp [Scan.step, Bracket.closing, isOpening, isClosing, hdash rfl]
  | round => rfl
  | square => rfl

/-- Only a dash at its end leaves the scan of a text behind a dash. -/
theorem Scan.afterDash_read {s : Scan} (hs : s.afterDash = false) {cs : List Char}
    (hcs : cs.getLast? ≠ some '-') : (s.read cs).afterDash = false := by
  rcases List.eq_nil_or_concat' cs with rfl | ⟨cs, c, rfl⟩
  · exact hs
  · rw [List.getLast?_concat, ne_eq, Option.some.injEq] at hcs
    rw [Scan.read_append]
    simpa [Scan.step] using hcs

theorem hasTopComma_ordinary (s : Scan) {c : Char} (hc : isOrdinary c = true) (cs : List Char) :
    hasTopComma s (c :: cs) = hasTopComma (s.step c) cs := by
  have hcomma : c ≠ ',' := by
    rintro rfl
    exact absurd hc (by decide)
  simp [hasTopComma, hcomma]

/-- **The scan agrees with the nesting.** From a depth where commas cannot separate, if the text
    has commas, a bracketed text leads back to the same depth and has no comma at depth zero. -/
theorem Bracketed.scan {inside : Bool} {cs : List Char} (h : Bracketed inside cs) {s : Scan}
    (hs : inside = true → s.depth ≠ 0) :
    (s.read cs).depth = s.depth ∧ hasTopComma s cs = false := by
  induction h generalizing s with
  | nil => exact ⟨rfl, rfl⟩
  | ordinary hc _ ih =>
    have hstep := s.depth_step_ordinary hc
    obtain ⟨hdepth, hno⟩ := ih (s := s.step _) (by rwa [hstep])
    rw [Scan.read_cons, hdepth, hstep, hasTopComma_ordinary s hc]
    exact ⟨rfl, hno⟩
  | arrow _ ih =>
    -- the dash hides the closing bracket behind it
    have hstep : ((s.step '-').step '>').depth = s.depth := rfl
    obtain ⟨hdepth, hno⟩ := ih (s := (s.step '-').step '>') (by rwa [hstep])
    rw [Scan.read_cons, Scan.read_cons, hdepth, hstep]
    exact ⟨rfl, by simpa [hasTopComma] using hno⟩
  | comma _ ih =>
    have hstep : (s.step ',').depth = s.depth := rfl
    obtain ⟨hdepth, hno⟩ := ih (s := s.step ',') (by rwa [hstep])
    rw [Scan.read_cons, hdepth, hstep, hasTopComma, hno]
    simp [hs rfl]
  | @group inside inner cs b _ hdash _ ihbody ihtail =>
    -- inside the group the depth is positive, so any comma is allowed there
    have hopen := s.depth_step_opening b
    obtain ⟨hdepth, hno⟩ := ihbody (s := s.step b.opening) (by simp [hopen])
    have hafter : b = .angle → ((s.step b.opening).read inner).afterDash = false := by
      rintro rfl
      exact Scan.afterDash_read rfl (hdash rfl)
    have hclose : (((s.step b.opening).read inner).step b.closing).depth = s.depth := by
      rw [Scan.depth_step_closing hafter, hdepth, hopen, Nat.add_sub_cancel]
    obtain ⟨htail, hnotail⟩ := ihtail (s := ((s.step b.opening).read inner).step b.closing)
      (by rwa [hclose])
    have hopening : b.opening ≠ ',' := by cases b <;> decide
    have hclosing : b.closing ≠ ',' := by cases b <;> decide
    rw [Scan.read_cons, Scan.read_append, Scan.read_cons, htail, hclose]
    refine ⟨rfl, ?_⟩
    rw [hasTopComma, hasTopComma_append, hno, hasTopComma, hnotail]
    simp [hopening, hclosing]

/-! ## Lines of bracketed types -/

/-- The name is an identifier, and the type is a tight bracketed text. -/
structure Field.IsBracketed (f : Field) : Prop where
  name : isIdentifier f.name.toList = true
  type_ne_empty : f.type ≠ ""
  tight : Tight f.type.toList
  type : Bracketed false f.type.toList

theorem Field.IsBracketed.wellFormed {f : Field} (h : f.IsBracketed) : f.WellFormed where
  name := h.name
  type_ne_empty := h.type_ne_empty
  tight := h.tight
  commas := (no_topComma_iff _ _).mp (h.type.scan (by simp)).2

theorem Field.IsBracketed.closed {f : Field} (h : f.IsBracketed) : f.Closed :=
  (h.type.scan (by simp)).1

/-- **Bracketed types and padding never change what is read.** Every padded line of an identifier
    and of fields with bracketed types declares exactly these. -/
theorem PaddedLine.read_text_of_bracketed (l : PaddedLine)
    (hname : isIdentifier l.name.toList = true) (hfields : ∀ p ∈ l.fields, p.field.IsBracketed)
    (hsep : l.Separated) :
    Variant.read l.text = .ok ⟨l.name, l.fields.map (·.field)⟩ := by
  have hbracketed : ∀ f ∈ l.variant.fields, f.IsBracketed := by
    intro f hf
    obtain ⟨p, hp, rfl⟩ := List.mem_map.mp hf
    exact hfields p hp
  refine l.read_text ?_ hsep
  exact
    { name := hname
      fields := fun f hf => (hbracketed f hf).wellFormed
      closed := fun f hf => (hbracketed f (List.mem_of_mem_dropLast hf)).closed }

/-- A line with nested groups, arrows, a first type that starts with a colon, and blanks of several
    kinds. -/
def PaddedLine.nested : PaddedLine where
  name := "Call"
  before := ['\u3000']
  between := ['\n']
  fields := [
    ⟨⟨"::p<(a, [b, c]), x->y>", "callee"⟩, [' '], ['\u00a0', ' '], ['\t'],
      by decide, by decide, by decide, by decide⟩,
    ⟨⟨"fn(-) -> z", "arg"⟩, [], ['\u2003', '\n'], [], by decide, by decide, by decide, by decide⟩]
  after := ['\r', '\n']

theorem PaddedLine.read_text_nested :
    isIdentifier nested.name.toList = true ∧ (∀ p ∈ nested.fields, p.field.IsBracketed) ∧
      nested.Separated ∧
      Variant.read nested.text = .ok ⟨"Call",
        [⟨"::p<(a, [b, c]), x->y>", "callee"⟩, ⟨"fn(-) -> z", "arg"⟩]⟩ := by
  have hname : isIdentifier nested.name.toList = true := by decide
  have hsquare : Bracketed true "(a, [b, c]), x->y".toList := by
    show Bracketed true ('(' :: ("a, [b, c]".toList ++ ')' :: ", x->y".toList))
    refine .group .round (.ordinary rfl (.comma (.ordinary rfl ?_))) (by simp)
      (.comma (.ordinary rfl (.ordinary rfl (.arrow (.ordinary rfl .nil)))))
    exact .group .square (.ordinary rfl (.comma (.ordinary rfl (.ordinary rfl .nil)))) (by simp) .nil
  have hcallee : Bracketed false "::p<(a, [b, c]), x->y>".toList := by
    show Bracketed false ("::p".toList ++ '<' :: ("(a, [b, c]), x->y".toList ++ '>' :: []))
    exact .ordinaries (by decide) (.group .angle hsquare (by decide) .nil)
  have harg : Bracketed false "fn(-) -> z".toList := by
    show Bracketed false ("fn".toList ++ '(' :: ("-".toList ++ ')' :: " -> z".toList))
    exact .ordinaries (by decide) (.group .round (.ordinary rfl .nil) (by simp)
      (.ordinary rfl (.arrow (.ordinary rfl (.ordinary rfl .nil)))))
  have hfields : ∀ p ∈ nested.fields, p.field.IsBracketed := by
    simp only [nested, List.forall_mem_cons]
    refine ⟨⟨by decide, by decide, by decide, hcallee⟩, ?_, by simp⟩
    exact ⟨by decide, by decide, by decide, harg⟩
  have hsep : nested.Separated := by simp [Separated, nested]
  exact ⟨hname, hfields, hsep, read_text_of_bracketed nested hname hfields hsep⟩

end VisitorGen

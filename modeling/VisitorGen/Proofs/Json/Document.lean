import VisitorGen.Json.Reader
import VisitorGen.Proofs.Json.Literal

set_option autoImplicit false

/-! # How documents are written

The written form of a grammar file: an object of lists of strings, with blanks between its tokens
wherever there may be some (`ObjectText`). Lists and objects have the same shape, items between commas
and brackets, so one argument serves both readers (`reads_listed`, `reads_enclosed`). The reader of a
document takes exactly the objects that are written so, and stops behind them (`readObject_reads`). -/

namespace VisitorGen.Json

variable {α ε ε' : Type}

/-! ## Blanks -/

/-- The text is nothing but blanks, of which there may be none. -/
def AreBlanks (text : List Char) : Prop :=
  ∀ c ∈ text, c ∈ [' ', '\t', '\n', '\r']

theorem isJsonBlank_iff {c : Char} : isJsonBlank c = true ↔ c ∈ [' ', '\t', '\n', '\r'] := by
  simp [isJsonBlank, or_assoc]

/-- A token is found behind blanks. -/
theorem skipBlanks_eq_cons_iff {c : Char} (hc : isJsonBlank c = false) {cs rest : List Char} :
    skipBlanks cs = c :: rest ↔ ∃ pad, AreBlanks pad ∧ cs = pad ++ c :: rest := by
  constructor
  · intro h
    refine ⟨cs.takeWhile isJsonBlank, fun d hd => isJsonBlank_iff.mp ?_, ?_⟩
    · exact List.all_eq_true.mp List.all_takeWhile d hd
    · rw [← h, skipBlanks, List.takeWhile_append_dropWhile]
  · rintro ⟨pad, hpad, rfl⟩
    rw [skipBlanks, List.dropWhile_append_of_pos fun d hd => isJsonBlank_iff.mpr (hpad d hd),
      List.dropWhile_cons_of_neg (by simp [hc])]

/-! ## Items between commas -/

/-- Items between commas, through the closing bracket. -/
inductive ListedTo (closing : Char) (item : α → List Char → Prop) : List α → List Char → Prop
  | last {a : α} {text pad : List Char} (h : item a text) (hpad : AreBlanks pad) :
    ListedTo closing item [a] (text ++ (pad ++ [closing]))
  | more {a : α} {text pad pad' : List Char} {as : List α} {texts : List Char} (h : item a text)
    (hpad : AreBlanks pad) (hpad' : AreBlanks pad') (hs : ListedTo closing item as texts) :
    ListedTo closing item (a :: as) (text ++ (pad ++ ',' :: (pad' ++ texts)))

/-- Items between brackets, which may be empty. -/
inductive Enclosed (opening closing : Char) (item : α → List Char → Prop) :
    List α → List Char → Prop
  | empty {pad : List Char} (hpad : AreBlanks pad) :
    Enclosed opening closing item [] (opening :: (pad ++ [closing]))
  | items {pad : List Char} {as : List α} {texts : List Char} (hpad : AreBlanks pad)
    (hs : ListedTo closing item as texts) :
    Enclosed opening closing item as (opening :: (pad ++ texts))

section Items

variable {closing : Char} {item : α → List Char → Prop}

theorem ListedTo.exists_quote {as : List α} {texts : List Char}
    (h : ListedTo closing item as texts)
    (hquote : ∀ a text, item a text → ∃ tail, text = '"' :: tail) :
    ∃ texts', texts = '"' :: texts' := by
  cases h with
  | last h _ =>
    obtain ⟨text, rfl⟩ := hquote _ _ h
    exact ⟨_, rfl⟩
  | more h _ _ _ =>
    obtain ⟨text, rfl⟩ := hquote _ _ h
    exact ⟨_, rfl⟩

/-- Items that start with a quote are read one after another, each behind its quote, if each step
    finds an item and behind it the closing bracket, or a comma and another quote. -/
theorem reads_listed (read : Nat → List Char → Except ε (List α × List Char))
    {readItem : List Char → Except ε' (α × List Char)} (hclosing : isJsonBlank closing = false)
    (hquote : ∀ a text, item a text → ∃ tail, text = '"' :: tail)
    (hitem : Reads readItem fun a text => item a ('"' :: text))
    (hstep : ∀ i cs as rest, read i cs = .ok (as, rest) ↔ ∃ a behind,
      readItem cs = .ok (a, behind) ∧ ((skipBlanks behind = closing :: rest ∧ as = [a]) ∨
        ∃ next tail as', skipBlanks behind = ',' :: next ∧ skipBlanks next = '"' :: tail ∧
          read (i + 1) tail = .ok (as', rest) ∧ as = a :: as')) (i : Nat) :
    Reads (read i) fun as text => ListedTo closing item as ('"' :: text) := by
  have hcomma : isJsonBlank ',' = false := rfl
  have hmark : isJsonBlank '"' = false := rfl
  intro cs as rest
  constructor
  · intro h
    -- the induction is on the items that were read, since each step gives one more
    induction as generalizing i cs with
    | nil =>
      obtain ⟨a, behind, -, hend | ⟨_, _, _, -, -, -, has⟩⟩ := (hstep i cs [] rest).mp h
      · exact absurd hend.2 (by simp)
      · exact absurd has (by simp)
    | cons b bs ih =>
      obtain ⟨a, behind, hread, hend | ⟨next, tail, as', hnext, htail, hmore, has⟩⟩ :=
        (hstep i cs (b :: bs) rest).mp h
      · obtain ⟨hclose, has⟩ := hend
        obtain ⟨text, htext, rfl⟩ := (hitem _ _ _).mp hread
        obtain ⟨pad, hpad, rfl⟩ := (skipBlanks_eq_cons_iff hclosing).mp hclose
        rw [has]
        exact ⟨text ++ (pad ++ [closing]), .last htext hpad, by simp⟩
      · obtain ⟨rfl, rfl⟩ := List.cons.inj has
        obtain ⟨text, htext, rfl⟩ := (hitem _ _ _).mp hread
        obtain ⟨pad, hpad, rfl⟩ := (skipBlanks_eq_cons_iff hcomma).mp hnext
        obtain ⟨pad', hpad', rfl⟩ := (skipBlanks_eq_cons_iff hmark).mp htail
        obtain ⟨texts, htexts, rfl⟩ := ih (i + 1) _ hmore
        exact ⟨text ++ (pad ++ ',' :: (pad' ++ '"' :: texts)), .more htext hpad hpad' htexts, by simp⟩
  · rintro ⟨text, htext, rfl⟩
    -- the quote in front is that of the first item
    generalize hall : '"' :: text = all at htext
    induction htext generalizing i text with
    | @last a first pad h hpad =>
      obtain ⟨first', rfl⟩ := hquote a first h
      obtain rfl := List.tail_eq_of_cons_eq hall
      refine (hstep i _ _ rest).mpr ⟨a, pad ++ closing :: rest, ?_, Or.inl ⟨?_, rfl⟩⟩
      · exact (hitem _ _ _).mpr ⟨first', h, by simp⟩
      · exact (skipBlanks_eq_cons_iff hclosing).mpr ⟨pad, hpad, rfl⟩
    | @more a first pad pad' as texts h hpad hpad' hs ih =>
      obtain ⟨first', rfl⟩ := hquote a first h
      obtain rfl := List.tail_eq_of_cons_eq hall
      obtain ⟨texts', rfl⟩ := hs.exists_quote hquote
      refine (hstep i _ _ rest).mpr ⟨a, pad ++ ',' :: (pad' ++ '"' :: (texts' ++ rest)), ?_,
        Or.inr ⟨pad' ++ '"' :: (texts' ++ rest), texts' ++ rest, as, ?_, ?_, ih (i + 1) texts' rfl, rfl⟩⟩
      · exact (hitem _ _ _).mpr ⟨first', h, by simp⟩
      · exact (skipBlanks_eq_cons_iff hcomma).mpr ⟨pad, hpad, rfl⟩
      · exact (skipBlanks_eq_cons_iff hmark).mpr ⟨pad', hpad', rfl⟩

/-- Brackets around such items are read, too. -/
theorem reads_enclosed {opening : Char} {read items : List Char → Except ε (List α × List Char)}
    (hclosing : isJsonBlank closing = false)
    (hquote : ∀ a text, item a text → ∃ tail, text = '"' :: tail)
    (hitems : Reads items fun as text => ListedTo closing item as ('"' :: text))
    (hstep : ∀ cs as rest, read cs = .ok (as, rest) ↔
      (skipBlanks cs = closing :: rest ∧ as = []) ∨
        ∃ tail, skipBlanks cs = '"' :: tail ∧ items tail = .ok (as, rest)) :
    Reads read fun as text => Enclosed opening closing item as (opening :: text) := by
  have hmark : isJsonBlank '"' = false := rfl
  intro cs as rest
  rw [hstep]
  constructor
  · rintro (⟨hclose, rfl⟩ | ⟨tail, htail, hread⟩)
    · obtain ⟨pad, hpad, rfl⟩ := (skipBlanks_eq_cons_iff hclosing).mp hclose
      exact ⟨pad ++ [closing], .empty hpad, by simp⟩
    · obtain ⟨pad, hpad, rfl⟩ := (skipBlanks_eq_cons_iff hmark).mp htail
      obtain ⟨texts, htexts, rfl⟩ := (hitems _ _ _).mp hread
      exact ⟨pad ++ '"' :: texts, .items hpad htexts, by simp⟩
  · rintro ⟨text, htext, rfl⟩
    cases htext with
    | empty hpad =>
      exact Or.inl ⟨(skipBlanks_eq_cons_iff hclosing).mpr ⟨_, hpad, by simp⟩, rfl⟩
    | items hpad hs =>
      obtain ⟨texts, rfl⟩ := hs.exists_quote hquote
      refine Or.inr ⟨texts ++ rest, (skipBlanks_eq_cons_iff hmark).mpr ⟨_, hpad, by simp⟩, ?_⟩
      exact (hitems _ _ _).mpr ⟨texts, hs, rfl⟩

theorem Enclosed.exists_opening {opening : Char} {as : List α} {text : List Char}
    (h : Enclosed opening closing item as text) : ∃ rest, text = opening :: rest := by
  cases h with
  | empty _ => exact ⟨_, rfl⟩
  | items _ _ => exact ⟨_, rfl⟩

/-- An item is put in front of those that are read after it. -/
theorem ok_cons_eq_ok_iff {a : α} {as as' : List α} {rest after : List Char} :
    (.ok (a :: as', after) : Except ε (List α × List Char)) = .ok (as, rest) ↔
      ∃ bs, (.ok (as', after) : Except ε (List α × List Char)) = .ok (bs, rest) ∧ as = a :: bs := by
  constructor
  · intro h
    obtain ⟨rfl, rfl⟩ := Prod.mk.inj (Except.ok.inj h)
    exact ⟨as', rfl, rfl⟩
  · rintro ⟨bs, hok, rfl⟩
    obtain ⟨rfl, rfl⟩ := Prod.mk.inj (Except.ok.inj hok)
    rfl

end Items

/-! ## Lists of strings -/

/-- A list of strings. -/
def RulesText : List (List Char) → List Char → Prop :=
  Enclosed '[' ']' StringText

theorem exists_quote_of_stringText (cs text : List Char) (h : StringText cs text) :
    ∃ tail, text = '"' :: tail := by
  obtain ⟨chars, -, rfl⟩ := h
  exact ⟨_, rfl⟩

theorem exists_quote_of_readElements {key cs rest : List Char} {index : Nat}
    {ss : List (List Char)} (h : readElements key index cs = .ok (ss, rest)) :
    ∃ tail, cs = '"' :: tail := by
  rw [readElements] at h
  split at h
  · exact absurd h (by simp)
  · next hread =>
    unfold readString at hread
    split at hread
    · exact ⟨_, rfl⟩
    · exact absurd hread (by simp)

theorem readElements_eq_ok_iff {key cs rest : List Char} {index : Nat} {ss : List (List Char)} :
    readElements key index ('"' :: cs) = .ok (ss, rest) ↔ ∃ s behind,
      readLiteral cs = .ok (s, behind) ∧ ((skipBlanks behind = ']' :: rest ∧ ss = [s]) ∨
        ∃ next tail ss', skipBlanks behind = ',' :: next ∧ skipBlanks next = '"' :: tail ∧
          readElements key (index + 1) ('"' :: tail) = .ok (ss', rest) ∧ ss = s :: ss') := by
  rw [readElements]
  split
  · next fault hread =>
    -- there is no first element
    have hnone : readLiteral cs = .error fault := hread
    simp [hnone]
  · next s behind hread =>
    have hsome : readLiteral cs = .ok (s, behind) := hread
    simp only [hsome, Except.ok.injEq, Prod.mk.injEq, and_assoc, exists_and_left, exists_eq_left']
    split
    · next hbehind => simp [hbehind]
    · next c next hbehind =>
      simp only [hbehind, List.cons.injEq]
      split
      · next hclosing => simp [hclosing, and_comm, eq_comm]
      · next hclosing =>
        simp only [hclosing, false_and, false_or]
        split
        · next hcomma =>
          simp only [hcomma, true_and, exists_eq_left']
          split
          · next hnext => simp [hnext]
          · next d tail hnext =>
            simp only [hnext, List.cons.injEq]
            split
            · next hlast => simp [hlast]
            · split
              · next hmore =>
                -- what follows the comma is no list of strings, so it is none behind a quote
                refine iff_of_false (by simp) ?_
                rintro ⟨tail', ⟨rfl, rfl⟩, ss', hok, -⟩
                exact absurd (hmore.symm.trans hok) (by simp)
              · next ss' after hmore =>
                obtain ⟨tail', htail⟩ := exists_quote_of_readElements hmore
                obtain ⟨rfl, rfl⟩ := List.cons.inj htail
                simp only [true_and, exists_eq_left', hmore]
                exact ok_cons_eq_ok_iff
        · next hcomma => simp [hcomma]

theorem readList_reads (key : List Char) :
    Reads (readList key) fun ss text => RulesText ss ('[' :: text) := by
  have helements : Reads (fun cs => readElements key 0 ('"' :: cs)) fun ss text =>
      ListedTo ']' StringText ss ('"' :: text) :=
    reads_listed (fun index cs => readElements key index ('"' :: cs)) rfl exists_quote_of_stringText
      readLiteral_reads (fun index cs ss rest => readElements_eq_ok_iff) 0
  refine reads_enclosed rfl exists_quote_of_stringText helements fun cs ss rest => ?_
  unfold readList
  split
  · next hcs => simp [hcs]
  · next c rest' hcs =>
    simp only [hcs, List.cons.injEq]
    split
    · next hclosing => simp [hclosing, and_comm, eq_comm]
    · next hclosing =>
      simp only [hclosing, false_and, false_or]
      constructor
      · intro h
        obtain ⟨tail, htail⟩ := exists_quote_of_readElements h
        obtain ⟨rfl, rfl⟩ := List.cons.inj htail
        exact ⟨_, ⟨rfl, rfl⟩, h⟩
      · rintro ⟨tail, ⟨rfl, rfl⟩, h⟩
        exact h

/-! ## Entries -/

/-- The value of an entry, behind the colon. -/
def ValueText (ss : List (List Char)) (text : List Char) : Prop :=
  ∃ pad value, AreBlanks pad ∧ RulesText ss value ∧ text = pad ++ value

/-- An entry: a key and a list of strings. -/
def EntryText (e : Entry) (text : List Char) : Prop :=
  ∃ key pad value, StringText e.key key ∧ AreBlanks pad ∧ ValueText e.rules value ∧
    text = key ++ (pad ++ ':' :: value)

theorem readValue_reads (key : List Char) : Reads (readValue key) ValueText := by
  have hopening : isJsonBlank '[' = false := rfl
  intro cs ss rest
  unfold readValue
  constructor
  · intro h
    split at h
    · exact absurd h (by simp)
    · next c rest' hcs =>
      split at h
      · next hc =>
        rw [hc] at hcs
        obtain ⟨pad, hpad, rfl⟩ := (skipBlanks_eq_cons_iff hopening).mp hcs
        obtain ⟨text, htext, rfl⟩ := (readList_reads key _ _ _).mp h
        exact ⟨pad ++ '[' :: text, ⟨pad, _, hpad, htext, rfl⟩, by simp⟩
      · exact absurd h (by simp)
  · rintro ⟨text, ⟨pad, value, hpad, hvalue, rfl⟩, rfl⟩
    obtain ⟨list, rfl⟩ := hvalue.exists_opening
    have hcs : skipBlanks (pad ++ '[' :: list ++ rest) = '[' :: (list ++ rest) :=
      (skipBlanks_eq_cons_iff hopening).mpr ⟨pad, hpad, by simp⟩
    have hread : readList key (list ++ rest) = .ok (ss, rest) :=
      (readList_reads key _ _ _).mpr ⟨list, hvalue, rfl⟩
    simp only [hcs, hread, if_pos]

theorem readEntry_reads : Reads readEntry fun e text => EntryText e ('"' :: text) := by
  have hcolon : isJsonBlank ':' = false := rfl
  intro cs e rest
  unfold readEntry
  constructor
  · intro h
    split at h
    · exact absurd h (by simp)
    · next key behind hkey =>
      obtain ⟨text, htext, rfl⟩ := (readLiteral_reads _ _ _).mp hkey
      split at h
      · exact absurd h (by simp)
      · next c rest' hbehind =>
        split at h
        · next hc =>
          rw [hc] at hbehind
          obtain ⟨pad, hpad, rfl⟩ := (skipBlanks_eq_cons_iff hcolon).mp hbehind
          cases hvalue : readValue key rest' with
          | error fault => simp [hvalue, Except.map] at h
          | ok p =>
            obtain ⟨rules, after⟩ := p
            obtain ⟨value, hrules, rfl⟩ := (readValue_reads key _ _ _).mp hvalue
            rw [hvalue] at h
            obtain ⟨rfl, rfl⟩ := Prod.mk.inj (Except.ok.inj h)
            exact ⟨text ++ (pad ++ ':' :: value), ⟨_, pad, value, htext, hpad, hrules, by simp⟩,
              by simp⟩
        · exact absurd h (by simp)
  · rintro ⟨text, ⟨key, pad, value, hkey, hpad, hvalue, heq⟩, rfl⟩
    obtain ⟨key', rfl⟩ := exists_quote_of_stringText _ _ hkey
    obtain rfl : text = key' ++ (pad ++ ':' :: value) := List.tail_eq_of_cons_eq heq
    have hread : readLiteral (key' ++ (pad ++ ':' :: value) ++ rest) =
        .ok (e.key, pad ++ ':' :: (value ++ rest)) :=
      (readLiteral_reads _ _ _).mpr ⟨key', hkey, by simp⟩
    have hbehind : skipBlanks (pad ++ ':' :: (value ++ rest)) = ':' :: (value ++ rest) :=
      (skipBlanks_eq_cons_iff hcolon).mpr ⟨pad, hpad, rfl⟩
    have hrules : readValue e.key (value ++ rest) = .ok (e.rules, rest) :=
      (readValue_reads e.key _ _ _).mpr ⟨value, hvalue, rfl⟩
    simp only [hread, hbehind, hrules, if_pos]
    rfl

/-! ## Objects -/

/-- An object of lists of strings. -/
def ObjectText : List Entry → List Char → Prop :=
  Enclosed '\x7b' '\x7d' EntryText

theorem exists_quote_of_entryText (e : Entry) (text : List Char) (h : EntryText e text) :
    ∃ tail, text = '"' :: tail := by
  obtain ⟨key, pad, value, hkey, -, -, rfl⟩ := h
  obtain ⟨key', rfl⟩ := exists_quote_of_stringText _ _ hkey
  exact ⟨_, rfl⟩

theorem readEntries_eq_ok_iff {cs rest : List Char} {es : List Entry} :
    readEntries cs = .ok (es, rest) ↔ ∃ e behind,
      readEntry cs = .ok (e, behind) ∧ ((skipBlanks behind = '\x7d' :: rest ∧ es = [e]) ∨
        ∃ next tail es', skipBlanks behind = ',' :: next ∧ skipBlanks next = '"' :: tail ∧
          readEntries tail = .ok (es', rest) ∧ es = e :: es') := by
  rw [readEntries]
  split
  · next hread => simp [hread]
  · next e behind hread =>
    simp only [hread, Except.ok.injEq, Prod.mk.injEq, and_assoc, exists_and_left, exists_eq_left']
    split
    · next hbehind => simp [hbehind]
    · next c next hbehind =>
      simp only [hbehind, List.cons.injEq]
      split
      · next hclosing => simp [hclosing, and_comm, eq_comm]
      · next hclosing =>
        simp only [hclosing, false_and, false_or]
        split
        · next hcomma =>
          simp only [hcomma, true_and, exists_eq_left']
          split
          · next hnext => simp [hnext]
          · next d tail hnext =>
            simp only [hnext, List.cons.injEq]
            split
            · next hd =>
              simp only [hd, true_and, exists_eq_left']
              split
              · next hmore => simp [hmore]
              · next es' after hmore =>
                rw [hmore]
                exact ok_cons_eq_ok_iff
            · next hd =>
              split
              all_goals simp [hd]
        · next hcomma => simp [hcomma]

/-- Blanks in front of an object are skipped. -/
theorem readObject_eq {cs behind : List Char} (h : skipBlanks cs = '\x7b' :: behind) :
    readObject cs = readObject ('\x7b' :: behind) := by
  have hbrace : skipBlanks ('\x7b' :: behind) = '\x7b' :: behind := rfl
  rw [readObject, readObject, h, hbrace]

theorem readObject_brace_reads :
    Reads (fun cs => readObject ('\x7b' :: cs)) fun es text => ObjectText es ('\x7b' :: text) := by
  have hentries : Reads readEntries fun es text =>
      ListedTo '\x7d' EntryText es ('"' :: text) :=
    reads_listed (fun _ cs => readEntries cs) rfl exists_quote_of_entryText readEntry_reads
      (fun _ cs es rest => readEntries_eq_ok_iff) 0
  refine reads_enclosed rfl exists_quote_of_entryText hentries fun cs es rest => ?_
  have hbrace : skipBlanks ('\x7b' :: cs) = '\x7b' :: cs := rfl
  simp only [readObject, hbrace, if_pos]
  split
  · next hcs => simp [hcs]
  · next d tail hcs =>
    simp only [hcs, List.cons.injEq]
    split
    · next hclosing => simp [hclosing, and_comm, eq_comm]
    · next hclosing =>
      split
      · next hquote => simp [hquote]
      · next hquote => simp [hclosing, hquote]

/-- **What is read of a document.** The reader takes an object of lists of strings, with blanks before
    it, and the entries that it gives are those of the object, in order. -/
theorem readObject_reads : Reads readObject fun es text =>
    ∃ pad object, AreBlanks pad ∧ ObjectText es object ∧ text = pad ++ object := by
  have hopening : isJsonBlank '\x7b' = false := rfl
  intro cs es rest
  constructor
  · intro h
    cases hcs : skipBlanks cs with
    | nil => simp [readObject, hcs] at h
    | cons c behind =>
      -- anything but a brace is out of place
      by_cases hc : c = '\x7b'
      · rw [hc] at hcs
        rw [readObject_eq hcs] at h
        obtain ⟨pad, hpad, rfl⟩ := (skipBlanks_eq_cons_iff hopening).mp hcs
        obtain ⟨text, htext, rfl⟩ := (readObject_brace_reads _ _ _).mp h
        exact ⟨pad ++ '\x7b' :: text, ⟨pad, _, hpad, htext, rfl⟩, by simp⟩
      · simp [readObject, hcs, hc] at h
  · rintro ⟨_, ⟨pad, object, hpad, hobject, rfl⟩, rfl⟩
    obtain ⟨text, rfl⟩ := hobject.exists_opening
    have hcs : skipBlanks (pad ++ '\x7b' :: text ++ rest) = '\x7b' :: (text ++ rest) :=
      (skipBlanks_eq_cons_iff hopening).mpr ⟨pad, hpad, by simp⟩
    rw [readObject_eq hcs]
    exact (readObject_brace_reads _ _ _).mpr ⟨text, hobject, rfl⟩

end VisitorGen.Json

import VisitorGen.Json.Number
import VisitorGen.Table.Basic

set_option autoImplicit false

/-! # Reading grammar files

A grammar file is a JSON object of lists of strings: family names with their grammar lines. The
reader stops behind the object's closing brace and takes no notice of what follows. The entries
are then merged into tables: a key that is repeated keeps its first place and its last value. -/

namespace VisitorGen.Json

/-! ## Blanks -/

/-- Whether a character may stand between tokens. -/
def isJsonBlank (c : Char) : Bool :=
  c == ' ' || c == '\t' || c == '\n' || c == '\r'

/-- A text without the blanks at its start. -/
def skipBlanks (cs : List Char) : List Char :=
  cs.dropWhile isJsonBlank

theorem skipBlanks_length (cs : List Char) : (skipBlanks cs).length ≤ cs.length :=
  (List.dropWhile_sublist _).length_le

/-! ## Values of the wrong shape -/

/-- Read the given characters of a literal word. -/
def readWord : List Char → List Char → Except Fault (List Char)
  | [], cs => .ok cs
  | _ :: _, [] => .error (.behind .endInValue [])
  | w :: ws, c :: cs => if c = w then readWord ws cs else .error (.next .expectedWord (c :: cs))

/-- The fault of a value that is not what its place expects. A scalar is read to its end first,
    and may turn out to be malformed. -/
def misplaced (expected : Shape) (cs : List Char) : Fault :=
  let scalar : Reading Found → Fault
    | .ok (found, rest) => .behind (.wrongShape found expected) rest
    | .error fault => fault
  match cs with
  | [] => .next .endInValue []
  | '[' :: _ => .behind (.wrongShape .sequence expected) cs
  | '\x7b' :: _ => .behind (.wrongShape .map expected) cs
  | '"' :: rest => scalar ((readLiteral rest).map fun (s, r) => (.string (String.ofList s), r))
  | 'n' :: rest => scalar ((readWord ['u', 'l', 'l'] rest).map (.null, ·))
  | 't' :: rest => scalar ((readWord ['r', 'u', 'e'] rest).map (.boolean true, ·))
  | 'f' :: rest => scalar ((readWord ['a', 'l', 's', 'e'] rest).map (.boolean false, ·))
  | '-' :: rest => scalar (readNumber true rest)
  | c :: _ => if c.isDigit then scalar (readNumber false cs) else .next .expectedValue cs

/-! ## Lists of strings -/

/-- What the reader of a document gives: a value and the text after it, or a fault in its place. -/
abbrev PlacedReading (α : Type) := Except (Place × Fault) (α × List Char)

/-- Read one string, with no blanks before it. -/
def readString (cs : List Char) : Reading (List Char) :=
  match cs with
  | '"' :: rest => readLiteral rest
  | _ => .error (misplaced .string cs)

theorem readString_length {cs ds rest : List Char} (h : readString cs = .ok (ds, rest)) :
    rest.length < cs.length := by
  unfold readString at h
  split at h
  · have := readLiteral_length h
    simp only [List.length_cons]
    omega
  · simp at h

/-- Read the elements of the list `key` from the element `index` on, which must be there. -/
def readElements (key : List Char) (index : Nat) (cs : List Char) :
    PlacedReading (List (List Char)) :=
  match h : readString cs with
  | .error fault => .error (.rule key index, fault)
  | .ok (s, rest) =>
    have hread : rest.length < cs.length := readString_length h
    match hblank : skipBlanks rest with
    | [] => .error (.family key, .next .endInList [])
    | c :: rest' =>
      have hskip : rest'.length < rest.length := by
        have := skipBlanks_length rest
        simp only [hblank, List.length_cons] at this
        omega
      if c = ']' then .ok ([s], rest')
      else if c = ',' then
        match hnext : skipBlanks rest' with
        | [] => .error (.family key, .next .endInValue [])
        | d :: tail =>
          have hlast : (d :: tail).length ≤ rest'.length := hnext ▸ skipBlanks_length rest'
          if d = ']' then .error (.family key, .next .trailingComma (d :: tail))
          else
            match readElements key (index + 1) (d :: tail) with
            | .error e => .error e
            | .ok (ss, after) => .ok (s :: ss, after)
      else .error (.family key, .next .expectedListEnd (c :: rest'))
termination_by cs.length
decreasing_by simp only [List.length_cons] at hlast ⊢; omega

/-- Read a list of strings after its opening bracket. -/
def readList (key : List Char) (cs : List Char) : PlacedReading (List (List Char)) :=
  match skipBlanks cs with
  | [] => .error (.family key, .next .endInList [])
  | c :: rest => if c = ']' then .ok ([], rest) else readElements key 0 (c :: rest)

/-! ## Entries -/

/-- A key and its list, as they stand in the file. -/
structure Entry where
  key : List Char
  rules : List (List Char)
  deriving DecidableEq, Repr

/-- Read the value of `key`: a list of strings. -/
def readValue (key : List Char) (cs : List Char) : PlacedReading (List (List Char)) :=
  match skipBlanks cs with
  | [] => .error (.family key, .next .endInValue [])
  | c :: rest =>
    if c = '[' then readList key rest else .error (.family key, misplaced .sequence (c :: rest))

/-- Read an entry after the opening quote of its key. -/
def readEntry (cs : List Char) : PlacedReading Entry :=
  match readLiteral cs with
  | .error fault => .error (.entry, fault)
  | .ok (key, rest) =>
    match skipBlanks rest with
    | [] => .error (.top, .next .endInObject [])
    | c :: rest' =>
      if c = ':' then (readValue key rest').map fun (rules, after) => (⟨key, rules⟩, after)
      else .error (.top, .next .expectedColon (c :: rest'))

/-! ## Readers shorten the text -/

theorem readElements_length {key cs rest : List Char} {index : Nat} {ss : List (List Char)}
    (h : readElements key index cs = .ok (ss, rest)) : rest.length < cs.length := by
  fun_induction readElements key index cs generalizing ss with
  | case1 => simp at h
  | case2 => simp at h
  | case3 =>
    obtain ⟨_, rfl⟩ : _ ∧ _ = rest := by simpa using h
    omega
  | case4 => simp at h
  | case5 => simp at h
  | case6 => simp at h
  | case7 _ _ _ _ _ _ _ _ _ _ hlast _ _ _ hread _ _ _ ih =>
    obtain ⟨_, rfl⟩ : _ ∧ _ = rest := by simpa using h
    have := ih hread
    simp only [List.length_cons] at this hlast
    omega
  | case8 => simp at h

theorem readList_length {key cs rest : List Char} {ss : List (List Char)}
    (h : readList key cs = .ok (ss, rest)) : rest.length < cs.length := by
  have hskip := skipBlanks_length cs
  unfold readList at h
  split at h
  · simp at h
  · rename_i hcs
    rw [hcs] at hskip
    split at h
    · obtain ⟨_, rfl⟩ : _ ∧ _ = rest := by simpa using h
      exact hskip
    · exact Nat.lt_of_lt_of_le (readElements_length h) hskip

theorem readValue_length {key cs rest : List Char} {ss : List (List Char)}
    (h : readValue key cs = .ok (ss, rest)) : rest.length < cs.length := by
  have hskip := skipBlanks_length cs
  unfold readValue at h
  split at h
  · simp at h
  · rename_i hcs
    rw [hcs] at hskip
    split at h
    · exact Nat.lt_trans (readList_length h) hskip
    · simp at h

theorem readEntry_length {cs rest : List Char} {entry : Entry}
    (h : readEntry cs = .ok (entry, rest)) : rest.length < cs.length := by
  unfold readEntry at h
  split at h
  · simp at h
  · rename_i key rest₁ hkey
    have hlt := readLiteral_length hkey
    have hskip := skipBlanks_length rest₁
    split at h
    · simp at h
    · rename_i c rest₂ hrest
      rw [hrest] at hskip
      split at h
      · cases hvalue : readValue key rest₂ with
        | error e => simp [hvalue, Except.map] at h
        | ok p =>
          obtain ⟨_, rfl⟩ : _ ∧ p.2 = rest := by simpa [hvalue, Except.map] using h
          have := readValue_length hvalue
          simp only [List.length_cons] at hskip
          omega
      · simp at h

/-! ## Documents -/

/-- Read entries after the opening quote of the first key, through the closing brace. -/
def readEntries (cs : List Char) : PlacedReading (List Entry) :=
  match h : readEntry cs with
  | .error e => .error e
  | .ok (entry, rest) =>
    have hread : rest.length < cs.length := readEntry_length h
    match hblank : skipBlanks rest with
    | [] => .error (.entry, .next .endInObject [])
    | c :: rest' =>
      have hskip : rest'.length < rest.length := by
        have := skipBlanks_length rest
        simp only [hblank, List.length_cons] at this
        omega
      if c = '\x7d' then .ok ([entry], rest')
      else if c = ',' then
        match hnext : skipBlanks rest' with
        | [] => .error (.entry, .next .endInValue [])
        | d :: tail =>
          have hlast : (d :: tail).length ≤ rest'.length := hnext ▸ skipBlanks_length rest'
          if d = '"' then
            match readEntries tail with
            | .error e => .error e
            | .ok (entries, after) => .ok (entry :: entries, after)
          else if d = '\x7d' then .error (.entry, .next .trailingComma (d :: tail))
          else .error (.entry, .next .keyNotString (d :: tail))
      else .error (.entry, .next .expectedObjectEnd (c :: rest'))
termination_by cs.length
decreasing_by simp only [List.length_cons] at hlast; omega

/-- Read an object of lists of strings at the start of a text. -/
def readObject (cs : List Char) : PlacedReading (List Entry) :=
  match skipBlanks cs with
  | [] => .error (.top, .next .endInValue [])
  | c :: rest =>
    if c = '\x7b' then
      match skipBlanks rest with
      | [] => .error (.entry, .next .endInObject [])
      | d :: tail =>
        if d = '\x7d' then .ok ([], tail)
        else if d = '"' then readEntries tail
        else .error (.entry, .next .keyNotString (d :: tail))
    else .error (.top, misplaced .map (c :: rest))

/-! ## Tables -/

/-- The table of an entry. -/
def Entry.table (e : Entry) : Table :=
  ⟨String.ofList e.key, e.rules.map String.ofList⟩

/-- Put a table in place of the one for the same family, or at the end if there is none. -/
def putTable (t : Table) : List Table → List Table
  | [] => [t]
  | u :: us => if u.family = t.family then t :: us else u :: putTable t us

/-- The tables of entries: one for each key, at its first place and with its last value. -/
def mergeEntries (entries : List Entry) : List Table :=
  entries.foldl (fun tables e => putTable e.table tables) []

/-- Read the tables of a grammar file. -/
def readTables (text : String) : Except ReadError (List Table) :=
  match readObject text.toList with
  | .error (place, fault) => .error (.of text.toList place fault)
  | .ok (entries, _) => .ok (mergeEntries entries)

end VisitorGen.Json

import Mathlib.Data.List.Basic
import VisitorGen.FileTree.Access

set_option autoImplicit false

/-! # Names in a directory

The path of a *plain* name below a directory, made by joining their texts, leads to that name in
the place where the path of the directory itself leads (`FileTree.approach_join`), however the
directory is spelled: with slashes at its end, with dots, or as the empty text. -/

namespace VisitorGen

/-! ## Plain names -/

/-- A name that is a single segment and stands for itself. -/
structure Path.IsPlain (name : String) : Prop where
  no_slash : '/' ∉ name.toList
  ne_empty : name ≠ ""
  ne_dot : name ≠ "."
  ne_dots : name ≠ ".."

namespace Path

theorem IsPlain.head_ne_slash {name : String} (h : IsPlain name) :
    name.toList.head? ≠ some '/' :=
  fun hhead => h.no_slash (List.mem_of_mem_head? hhead)

theorem parse_of_slash {text : String} {rest : List Char} (h : text.toList = '/' :: rest) :
    parse text = ⟨true, (rest.splitOn '/').map String.ofList⟩ := by
  simp only [parse, h]

theorem parse_of_no_slash {text : String} (h : text.toList.head? ≠ some '/') :
    parse text = ⟨false, (text.toList.splitOn '/').map String.ofList⟩ := by
  rw [parse]
  split
  · next rest hrest => exact absurd (by rw [hrest]; rfl) h
  · rfl

/-- A slash parts the segments, unless it stands at the start. -/
theorem parse_append_slash {text : String} {front back : List Char} (hfront : front ≠ [])
    (h : text.toList = front ++ '/' :: back) :
    parse text = ⟨(parse (String.ofList front)).absolute,
      (parse (String.ofList front)).segments ++ (back.splitOn '/').map String.ofList⟩ := by
  cases front with
  | nil => exact absurd rfl hfront
  | cons c front =>
    by_cases hc : c = '/'
    · subst hc
      have htext : text.toList = '/' :: (front ++ '/' :: back) := h
      rw [parse_of_slash htext, parse_of_slash String.toList_ofList, List.splitOn_append_cons_self,
        List.map_append]
    · rw [parse_of_no_slash (by rw [h]; simpa using hc),
        parse_of_no_slash (by rw [String.toList_ofList]; simpa using hc), h, String.toList_ofList,
        List.splitOn_append_cons_self, List.map_append]

/-- The segments of a joined path are those of the directory and the name; only an empty segment at
    the end of the directory goes. -/
theorem parse_join (dir : String) {name : String} (h : IsPlain name) :
    ∃ front, parse (join dir name) = ⟨(parse dir).absolute, front ++ [name]⟩ ∧
      ((parse dir).segments = front ∨ (parse dir).segments = front ++ [""]) := by
  have hname : (name.toList.splitOn '/').map String.ofList = [name] := by
    rw [List.splitOn_eq_singleton h.no_slash, List.map_singleton, String.ofList_toList]
  rcases List.eq_nil_or_concat' dir.toList with hdir | ⟨front, c, hdir⟩
  · -- the path is the name alone, and the empty text has one empty segment
    have hempty : dir = "" := String.toList_eq_nil_iff.mp hdir
    have hjoin : join dir name = name := by
      rw [join, if_neg h.head_ne_slash, hdir]
      rfl
    subst hempty
    refine ⟨[], ?_, Or.inr rfl⟩
    rw [hjoin, parse_of_no_slash h.head_ne_slash, hname]
    rfl
  · have hjoin : join dir name = if c = '/' then dir ++ name else dir ++ "/" ++ name := by
      rw [join, if_neg h.head_ne_slash, hdir, List.getLast?_concat]
    by_cases hc : c = '/'
    · subst hc
      have htext : (join dir name).toList = front ++ '/' :: name.toList := by
        rw [hjoin, if_pos rfl, String.toList_append, hdir, List.append_assoc]
        rfl
      by_cases hfront : front = []
      · -- the directory is the root
        subst hfront
        refine ⟨[], ?_, Or.inr ?_⟩
        · rw [parse_of_slash htext, parse_of_slash hdir, hname]
          rfl
        · rw [parse_of_slash hdir]
          rfl
      · -- the slash at the end of the directory takes the place of the one between
        have hparse := parse_append_slash hfront hdir
        refine ⟨(parse (String.ofList front)).segments, ?_, Or.inr ?_⟩
        · rw [parse_append_slash hfront htext, hparse, hname]
        · rw [hparse]
          rfl
    · have htext : (join dir name).toList = dir.toList ++ '/' :: name.toList := by
        rw [hjoin, if_neg hc, String.toList_append, String.toList_append, List.append_assoc]
        rfl
      refine ⟨(parse dir).segments, ?_, Or.inl rfl⟩
      rw [parse_append_slash (by simp [hdir]) htext, String.ofList_toList, hname]

end Path

/-! ## Following a joined path -/

namespace FileTree

theorem walk_append (t : FileTree) (place : Location) (front back : List String) :
    t.walk place (front ++ back) = (t.walk place front).bind fun place => t.walk place back := by
  induction front generalizing place with
  | nil => rfl
  | cons s front ih =>
    rw [List.cons_append, walk, walk]
    split
    · exact ih place
    · split
      · exact ih place.parent
      · split
        · rfl
        · rfl
        · rfl
        · exact ih (place ++ [s])

/-- The place of the directory that a text leads to. -/
def placeOf (t : FileTree) (dir : String) : Except IoError Location :=
  t.walk (startOf (.parse dir)) (Path.parse dir).segments

/-- A plain name below a directory is sought in the place of the directory. -/
theorem approach_join (t : FileTree) {dir name : String} (h : Path.IsPlain name) :
    t.approach (.parse (Path.join dir name)) =
      (t.placeOf dir).map fun place => .name place name false := by
  obtain ⟨front, hparse, hdir⟩ := Path.parse_join dir h
  have hstart : startOf (Path.parse (Path.join dir name)) = startOf (Path.parse dir) := by
    rw [hparse]
    rfl
  have hwalk : t.placeOf dir = t.walk (startOf (Path.parse dir)) front := by
    rw [placeOf]
    rcases hdir with hdir | hdir
    · rw [hdir]
    · rw [hdir, walk_append]
      cases t.walk (startOf (Path.parse dir)) front with
      | error e => rfl
      | ok place => rfl
  have hcore : ((front ++ [name]).reverse.dropWhile (· = "")) = name :: front.reverse := by
    rw [List.reverse_append, List.reverse_singleton, List.singleton_append,
      List.dropWhile_cons_of_neg (by simpa using h.ne_empty)]
  rw [hwalk, ← hstart, hparse, approach]
  simp only [hcore, List.reverse_reverse]
  cases t.walk _ front with
  | error e => rfl
  | ok place => simp [h.ne_dot, h.ne_dots, Except.map]

end FileTree

end VisitorGen

import VisitorGen.Outlet.Stream
import VisitorGen.Proofs.Outlet.Sequence

set_option autoImplicit false

/-! # Streams that fill up

A stream without a capacity ends up with the texts of all units, one after another. One with a
capacity ends up with the same bytes as far as they go: what it holds at any time is what the other
one would hold, cut off at the capacity (`Outlet.write_stream`). A full stream takes no more units,
however short they are, because every text has at least a banner. So the units that are written are
the first ones, up to where the cut is (`Target.run_stream_cut`). -/

namespace VisitorGen

/-! ## Bytes up to a capacity -/

theorem extract_of_size_le {bytes : ByteArray} {n : Nat} (h : bytes.size ≤ n) :
    bytes.extract 0 n = bytes := by
  rw [← Nat.max_eq_left h]
  exact ByteArray.extract_zero_max_size

theorem extract_min_size (bytes : ByteArray) (n : Nat) :
    bytes.extract 0 (min n bytes.size) = bytes.extract 0 n := by
  by_cases h : bytes.size ≤ n
  · rw [Nat.min_eq_right h, extract_of_size_le h, ByteArray.extract_zero_size]
  · rw [Nat.min_eq_left (by omega)]

/-- Appending to the bytes that fit gives the bytes of both that fit. It succeeds if all of them
    do. -/
theorem appendWithin_extract (n : Nat) (all more : ByteArray) (hmore : 0 < more.size) :
    appendWithin (some n) (all.extract 0 n) more =
      (if all.size + more.size ≤ n then .ok () else .error .full, (all ++ more).extract 0 n) := by
  have hboth : (all ++ more).extract 0 n = all.extract 0 n ++ more.extract 0 (n - all.size) := by
    rw [ByteArray.extract_append, Nat.zero_sub]
  rw [appendWithin]
  by_cases hall : all.size ≤ n
  · rw [hboth, extract_of_size_le hall]
    by_cases hfits : all.size + more.size ≤ n
    · have hmoreFits : more.size ≤ n - all.size := by omega
      rw [if_pos hfits, if_pos hfits, extract_of_size_le hmoreFits]
    · rw [if_neg hfits, if_neg hfits]
  · -- the capacity is used up, so nothing more fits
    have hsize : (all.extract 0 n).size = n := by
      rw [ByteArray.size_extract]
      omega
    have hnone : n - all.size = 0 := by omega
    rw [hboth, hnone, hsize, Nat.sub_self, if_neg (by omega), if_neg (by omega)]

/-! ## Texts of units -/

/-- The text of a stream that has taken all the units. -/
def SourceUnit.streamed (units : List SourceUnit) : String :=
  String.join (units.map SourceUnit.streamText)

namespace SourceUnit

@[simp] theorem streamed_nil : streamed [] = "" := rfl

/-- Each unit stands under a banner that names its file. -/
theorem streamed_eq (units : List SourceUnit) :
    streamed units =
      String.join (units.map fun u => "// ---- " ++ u.fileName ++ " ----\n" ++ u.source) := rfl

theorem streamed_cons (u : SourceUnit) (units : List SourceUnit) :
    streamed (u :: units) = u.streamText ++ streamed units := by
  rw [streamed, List.map_cons, String.join_cons, ← streamed]

theorem size_streamed_cons (u : SourceUnit) (units : List SourceUnit) :
    (streamed (u :: units)).utf8ByteSize =
      u.streamText.utf8ByteSize + (streamed units).utf8ByteSize := by
  rw [streamed_cons, String.utf8ByteSize_append]

/-- Even a unit without a source has a banner. -/
theorem size_streamText_pos (u : SourceUnit) : 0 < u.streamText.utf8ByteSize := by
  have hbanner : "// ---- ".utf8ByteSize = 8 := by decide
  rw [streamText, banner]
  simp only [String.utf8ByteSize_append, hbanner]
  omega

/-- A unit ends no earlier than the one before it. -/
theorem size_streamed_take_le (units : List SourceUnit) {i j : Nat} (h : i ≤ j) :
    (streamed (units.take i)).utf8ByteSize ≤ (streamed (units.take j)).utf8ByteSize := by
  induction units generalizing i j with
  | nil => simp
  | cons u units ih =>
    cases i with
    | zero => simp
    | succ i =>
      cases j with
      | zero => omega
      | succ j =>
        rw [List.take_succ_cons, List.take_succ_cons, size_streamed_cons, size_streamed_cons]
        exact Nat.add_le_add_left (ih (by omega)) _

end SourceUnit

/-! ## Writes -/

namespace Outlet

/-- A stream with a capacity holds what one without it would hold, cut off there. -/
theorem write_stream (n : Nat) (all : ByteArray) (u : SourceUnit) :
    (stream (some n)).write (all.extract 0 n) u =
      (if all.size + u.streamText.utf8ByteSize ≤ n then .ok () else .error .full,
        (all ++ u.streamText.toUTF8).extract 0 n) := by
  have hsize : u.streamText.toUTF8.size = u.streamText.utf8ByteSize := String.size_toByteArray
  have hpos : 0 < u.streamText.toUTF8.size := by
    rw [hsize]
    exact u.size_streamText_pos
  rw [← hsize]
  exact appendWithin_extract n all u.streamText.toUTF8 hpos

/-- Units are written as long as they end within the capacity. -/
theorem writeAll_stream (n : Nat) (all : ByteArray) (units : List SourceUnit) :
    (stream (some n)).writeAll (all.extract 0 n) units =
      (units.mapIdx fun i u => ⟨u,
        if all.size + (SourceUnit.streamed (units.take (i + 1))).utf8ByteSize ≤ n then .ok ()
        else .error .full⟩,
        (all ++ (SourceUnit.streamed units).toUTF8).extract 0 n) := by
  induction units generalizing all with
  | nil => simp
  | cons u units ih =>
    have hsize : (all ++ u.streamText.toUTF8).size = all.size + u.streamText.utf8ByteSize := by
      rw [ByteArray.size_append]
      exact congrArg (all.size + ·) String.size_toByteArray
    rw [writeAll_cons, write_stream, ih, hsize, List.mapIdx_cons]
    refine Prod.ext ?_ ?_
    · simp only [List.take_succ_cons, SourceUnit.size_streamed_cons, List.take_zero,
        SourceUnit.streamed_nil, String.utf8ByteSize_empty, Nat.add_zero, Nat.add_assoc]
    · rw [SourceUnit.streamed_cons]
      show _ = (all ++ (u.streamText ++ SourceUnit.streamed units).toByteArray).extract 0 n
      rw [String.toByteArray_append, ← ByteArray.append_assoc]
      rfl

theorem writeAll_stream_empty (n : Nat) (units : List SourceUnit) :
    (stream (some n)).writeAll .empty units =
      (units.mapIdx fun i u => ⟨u,
        if (SourceUnit.streamed (units.take (i + 1))).utf8ByteSize ≤ n then .ok ()
        else .error .full⟩,
        (SourceUnit.streamed units).toUTF8.extract 0 n) := by
  have hempty : ByteArray.empty.extract 0 n = .empty := extract_of_size_le (Nat.zero_le n)
  have hall := writeAll_stream n .empty units
  rw [hempty, ByteArray.empty_append] at hall
  simpa only [ByteArray.size_empty, Nat.zero_add] using hall

/-- Without a capacity all units are written. -/
theorem writeAll_stream_none (s : ByteArray) (units : List SourceUnit) :
    (stream none).writeAll s units =
      (units.map (⟨·, .ok ()⟩), s ++ (SourceUnit.streamed units).toUTF8) := by
  induction units generalizing s with
  | nil =>
    show ([], s) = ([], s ++ ByteArray.empty)
    rw [ByteArray.append_empty]
  | cons u units ih =>
    have hwrite : (stream none).write s u = (.ok (), s ++ u.streamText.toUTF8) := rfl
    rw [writeAll_cons, hwrite, ih, SourceUnit.streamed_cons, List.map_cons]
    show _ = (_, s ++ (u.streamText ++ SourceUnit.streamed units).toByteArray)
    rw [String.toByteArray_append, ← ByteArray.append_assoc]
    rfl

theorem written_stream_none (s : ByteArray) (units : List SourceUnit) :
    (stream none).written s units = units := by
  have hreceipt : Receipt.written? ∘ (⟨·, .ok ()⟩ : SourceUnit → Receipt) = some := rfl
  rw [written, writeAll_stream_none, List.filterMap_map, hreceipt, List.filterMap_some]

end Outlet

/-! ## The cut -/

/-- A bound cuts numbers that never fall into the first ones and the others. -/
theorem exists_cut {f : Nat → Nat} (hf : ∀ i j, i ≤ j → f i ≤ f j) (n length : Nat) :
    ∃ k ≤ length, ∀ i < length, i < k ↔ f i ≤ n := by
  induction length with
  | zero => exact ⟨0, Nat.le_refl 0, fun i hi => absurd hi (Nat.not_lt_zero i)⟩
  | succ length ih =>
    obtain ⟨k, hk, hcut⟩ := ih
    by_cases hlast : f length ≤ n
    · -- then no number is cut off
      refine ⟨length + 1, Nat.le_refl _, fun i hi => ?_⟩
      exact iff_of_true hi (Nat.le_trans (hf i length (by omega)) hlast)
    · refine ⟨k, by omega, fun i hi => ?_⟩
      rcases Nat.lt_succ_iff_lt_or_eq.mp hi with hi | rfl
      · exact hcut i hi
      · exact iff_of_false (by omega) hlast

/-- The units in front of the cut are written, and the stream is full for the others. -/
theorem Outlet.receipts_of_cut {n k : Nat} {units : List SourceUnit} (hk : k ≤ units.length)
    (hcut : ∀ i < units.length,
      i < k ↔ (SourceUnit.streamed (units.take (i + 1))).utf8ByteSize ≤ n) :
    ((stream (some n)).writeAll .empty units).1 =
      (units.take k).map (⟨·, .ok ()⟩) ++ (units.drop k).map (⟨·, .error .full⟩) := by
  rw [writeAll_stream_empty]
  refine List.ext_getElem (by simp; omega) fun i hi _ => ?_
  rw [List.length_mapIdx] at hi
  rw [List.getElem_mapIdx]
  by_cases hwritten : i < k
  · rw [if_pos ((hcut i hi).mp hwritten), List.getElem_append_left (by simp; omega)]
    simp
  · rw [if_neg (mt (hcut i hi).mpr hwritten), List.getElem_append_right (by simp; omega)]
    simp [Nat.min_eq_left hk, Nat.add_sub_cancel' (Nat.le_of_not_lt hwritten)]

/-- **A full stream cuts the run off.** The text of a run is that of the accepted units, one after
    another, each with its source under a banner that names its file. A stream without a capacity is
    left with all of this text, and one with a capacity with as many of its bytes as fit. The
    accepted units that end within the capacity are the first ones, and these are the files reported
    as written. All others are reported as failures of a full stream. -/
theorem Target.run_stream_cut (t : Target) (n : Nat) (tables : List Table) :
    let units := t.units tables
    let text := fun taken : List SourceUnit =>
      String.join (taken.map fun u => "// ---- " ++ u.fileName ++ " ----\n" ++ u.source)
    let all := (text units).toUTF8
    let run := t.run (.stream (some n)) .empty tables
    (t.run (.stream none) .empty tables).2 = all ∧
    run.2 = all.extract 0 (min n all.size) ∧
    ∃ k ≤ units.length,
      (∀ i < units.length, i < k ↔ (text (units.take (i + 1))).utf8ByteSize ≤ n) ∧
      run.1.written = (units.take k).map (·.fileName) ∧
      run.1.failures.filter Failure.isUnwritten =
        (units.drop k).map fun u => ⟨u.family, .unwritten u.fileName .full⟩ := by
  intro units text all run
  have htext : ∀ taken, text taken = SourceUnit.streamed taken := by
    intro taken
    rw [SourceUnit.streamed_eq]
  have hall : all = (SourceUnit.streamed units).toUTF8 := congrArg String.toUTF8 (htext units)
  obtain ⟨hstate, hwritten, hfailures⟩ := t.run_eq_writeAll (.stream (some n)) .empty tables
  refine ⟨?_, ?_, ?_⟩
  · rw [(t.run_eq_writeAll (.stream none) .empty tables).1, Outlet.writeAll_stream_none,
      ByteArray.empty_append, hall]
  · rw [extract_min_size, hall]
    exact hstate.trans (congrArg Prod.snd (Outlet.writeAll_stream_empty n units))
  · obtain ⟨k, hk, hcut⟩ := exists_cut
      (fun i j hij => SourceUnit.size_streamed_take_le units (Nat.succ_le_succ hij)) n units.length
    have hreceipts := Outlet.receipts_of_cut hk hcut
    refine ⟨k, hk, fun i hi => ?_, ?_, ?_⟩
    · rw [htext]
      exact hcut i hi
    · refine hwritten.trans ?_
      rw [Outlet.written, hreceipts, List.filterMap_append, List.filterMap_map, List.filterMap_map]
      simp [Receipt.written?, Function.comp_def]
    · refine hfailures.trans ?_
      rw [hreceipts, List.filterMap_append, List.filterMap_map, List.filterMap_map]
      simp [Receipt.failure?, Function.comp_def]

end VisitorGen

import RtpAudit.Proofs.Analysis.Bounds

/-! # Records laid down one after another are read back as laid down

A capture writer lays each record down as its descriptor (six big-endian words: original length,
included length, record length, drops, seconds, microseconds), the frame, and zero padding up to the
record length rounded to four bytes (`SnoopEntry.bytes`). The record length may be larger than the
descriptor and the frame need; it only has to cover them. Reading a capture of such records gives
every record back, numbered from 1, at the offset of its descriptor, with its time, original length
and frame, and then stops at the end with no reason to: also when the last record's padding is cut
short, since the walk then jumps past the end.

* `SnoopEntry.descriptor_words`: the words read back from a descriptor;
* `SnoopEntry.descriptorFault?_eq_none`, `SnoopEntry.recordAt_eq`: a laid-down descriptor is
  trusted and gives its record back, whatever follows the frame;
* `Snoop.scanFrom_entry`: reading goes on past the record's padding;
* `Snoop.scanFrom_laid_out`: a run of such records is read back as `SnoopEntry.layout`;
* `Snoop.scan_laid_out`: after a file header, record by record.
-/

namespace RtpAudit

/-- A record as a capture writer lays it down. -/
structure SnoopEntry where
  originalLength : UInt32
  frame : Bytes
  /-- Bytes the record takes: the descriptor, the frame and padding; the next record starts at
  this length rounded up to four bytes. -/
  recordLength : UInt32
  drops : UInt32
  time : CaptureTime
  deriving DecidableEq, Repr

namespace SnoopEntry

/-- Bytes from the start of the record to the next: its record length rounded up to four. -/
def span (e : SnoopEntry) : Nat :=
  Snoop.advance e.recordLength.toNat

/-- Zero bytes after the frame, up to the next record. -/
def padding (e : SnoopEntry) : Nat :=
  e.span - (Snoop.descriptorLength + e.frame.length)

/-- The six words of the descriptor, the included length being the frame's. -/
def descriptor (e : SnoopEntry) : Bytes :=
  Bytes.ofU32 e.originalLength ++ Bytes.ofU32 e.frame.length.toUInt32 ++
    Bytes.ofU32 e.recordLength ++ Bytes.ofU32 e.drops ++ Bytes.ofU32 e.time.secs ++
    Bytes.ofU32 e.time.micros

/-- The bytes of the record: descriptor, frame, padding. -/
def bytes (e : SnoopEntry) : Bytes :=
  e.descriptor ++ e.frame ++ List.replicate e.padding 0

/-- The record read back from the entry laid down at `offset`, the `index`-th of the capture. -/
def record (e : SnoopEntry) (index offset : Nat) : SnoopRecord :=
  { index, offset, time := e.time, originalLength := e.originalLength, frame := e.frame }

/-- The records read back from entries laid down one after another from `offset`, the first one
the `index`-th. -/
def layout (index offset : Nat) : List SnoopEntry → List SnoopRecord
  | [] => []
  | e :: es => e.record index offset :: layout (index + 1) (offset + e.span) es

variable {e : SnoopEntry}

theorem descriptor_length (e : SnoopEntry) : e.descriptor.length = Snoop.descriptorLength := by
  simp [descriptor, Bytes.ofU32, Snoop.descriptorLength]

theorem descriptor_words (e : SnoopEntry) (rest : Bytes) :
    Bytes.u32At (e.descriptor ++ rest) 0 = e.originalLength ∧
      Bytes.u32At (e.descriptor ++ rest) 4 = e.frame.length.toUInt32 ∧
      Bytes.u32At (e.descriptor ++ rest) 8 = e.recordLength ∧
      Bytes.u32At (e.descriptor ++ rest) 16 = e.time.secs ∧
      Bytes.u32At (e.descriptor ++ rest) 20 = e.time.micros := by
  simp only [descriptor, Bytes.u32At, Bytes.ofU32, List.cons_append, List.nil_append,
    List.getD_cons_zero, List.getD_cons_succ, Bytes.word32_ofU32, and_self]

section Fits

-- the record length covers the descriptor and the frame
variable (hfit : Snoop.descriptorLength + e.frame.length ≤ e.recordLength.toNat)
include hfit

theorem frame_length_toUInt32 : e.frame.length.toUInt32.toNat = e.frame.length := by
  have := e.recordLength.toNat_lt
  rw [Nat.toUInt32, UInt32.toNat_ofNat']
  unfold Snoop.descriptorLength at hfit
  omega

theorem bytes_length : e.bytes.length = e.span := by
  simp only [bytes, List.length_append, descriptor_length, List.length_replicate, padding, span,
    Snoop.advance]
  unfold Snoop.descriptorLength at hfit ⊢
  omega

theorem descriptorFault?_eq_none (tail : Bytes) :
    Snoop.descriptorFault? (e.descriptor ++ e.frame ++ tail) = none := by
  obtain ⟨-, hincluded, hlength, -, -⟩ := descriptor_words e (e.frame ++ tail)
  have hsize := frame_length_toUInt32 hfit
  have hlen : (e.descriptor ++ e.frame ++ tail).length =
      Snoop.descriptorLength + e.frame.length + tail.length := by
    rw [List.length_append, List.length_append, descriptor_length]
  unfold Snoop.descriptorFault?
  rw [List.append_assoc, hincluded, hlength, ← List.append_assoc, hlen, hsize]
  unfold Snoop.descriptorLength at hfit ⊢
  rw [if_neg (by omega)]
  dsimp only
  rw [if_neg (by omega), if_neg (by omega), if_neg (by omega)]

/-- A laid-down descriptor gives its entry's record back, whatever follows its frame. -/
theorem recordAt_eq (tail : Bytes) (index offset : Nat) :
    Snoop.recordAt index offset (e.descriptor ++ e.frame ++ tail) = e.record index offset := by
  obtain ⟨horiginal, hincluded, -, hsecs, hmicros⟩ := descriptor_words e (e.frame ++ tail)
  have hframe : ((e.descriptor ++ e.frame ++ tail).drop Snoop.descriptorLength).take
      (Bytes.u32At (e.descriptor ++ e.frame ++ tail) 4).toNat = e.frame := by
    rw [List.append_assoc, hincluded, frame_length_toUInt32 hfit, ← descriptor_length e,
      List.drop_left, List.take_left]
  unfold Snoop.recordAt record
  rw [hframe, List.append_assoc, horiginal, hsecs, hmicros]

end Fits

theorem layout_length (index offset : Nat) (es : List SnoopEntry) :
    (layout index offset es).length = es.length := by
  induction es generalizing index offset with
  | nil => rfl
  | cons e es ih => rw [layout, List.length_cons, ih, List.length_cons]

theorem layout_getElem? (index offset : Nat) (es : List SnoopEntry) (i : Nat) :
    (layout index offset es)[i]? = es[i]?.map fun e =>
      e.record (index + i) (offset + (es.take i).foldr (fun g n => g.span + n) 0) := by
  induction es generalizing index offset i with
  | nil => rfl
  | cons e es ih =>
    cases i with
    | zero => rfl
    | succ j =>
      rw [layout, List.getElem?_cons_succ, ih, List.getElem?_cons_succ, List.take_succ_cons,
        List.foldr_cons, show index + 1 + j = index + (j + 1) by omega, Nat.add_assoc offset]

theorem padding_le_bytes (e : SnoopEntry) : e.padding ≤ e.bytes.length := by
  simp only [bytes, List.length_append, List.length_replicate]
  omega

theorem lastPadding_le (es : List SnoopEntry) :
    (es.getLast?.map padding).getD 0 ≤ (es.flatMap bytes).length := by
  induction es with
  | nil => exact Nat.zero_le _
  | cons e es ih =>
    cases es with
    | nil => exact Nat.le_trans (padding_le_bytes e) (by simp)
    | cons g gs =>
      rw [List.getLast?_cons_cons, List.flatMap_cons, List.length_append]
      omega

end SnoopEntry

namespace Snoop

theorem scanFrom_entry {e : SnoopEntry}
    (hfit : descriptorLength + e.frame.length ≤ e.recordLength.toNat) (read offset : Nat)
    (tail : Bytes) :
    scanFrom read offset (e.descriptor ++ e.frame ++ tail) =
      ⟨e.record (read + 1) offset ::
          (scanFrom (read + 1) (offset + e.span) (tail.drop e.padding)).records,
        (scanFrom (read + 1) (offset + e.span) (tail.drop e.padding)).stop⟩ := by
  have hfault := SnoopEntry.descriptorFault?_eq_none hfit tail
  have hlength := (SnoopEntry.descriptor_words e (e.frame ++ tail)).2.2.1
  rw [← List.append_assoc] at hlength
  -- the descriptor is not empty, so reading takes the branch of a trusted descriptor
  obtain ⟨b, bs, hb⟩ : ∃ b bs, e.descriptor ++ e.frame ++ tail = b :: bs :=
    List.exists_cons_of_ne_nil (by simp [SnoopEntry.descriptor, Bytes.ofU32])
  have hdrop : (e.descriptor ++ e.frame ++ tail).drop e.span = tail.drop e.padding := by
    have hspan : e.span = (e.descriptor ++ e.frame).length + e.padding := by
      rw [← SnoopEntry.bytes_length hfit, SnoopEntry.bytes, List.length_append,
        List.length_replicate]
    rw [hspan, ← List.drop_drop, List.drop_left]
  rw [hb] at hfault hlength hdrop ⊢
  rw [scanFrom_trusted hfault, hlength, show advance e.recordLength.toNat = e.span from rfl, hdrop,
    ← hb, SnoopEntry.recordAt_eq hfit]

/-- Records laid down one after another are read back as laid down, to the end. -/
theorem scanFrom_laid_out (read offset : Nat) (es : List SnoopEntry)
    (hfit : ∀ e ∈ es, descriptorLength + e.frame.length ≤ e.recordLength.toNat) (cut : Nat)
    (hcut : cut ≤ (es.getLast?.map SnoopEntry.padding).getD 0) :
    scanFrom read offset ((es.flatMap SnoopEntry.bytes).take
        ((es.flatMap SnoopEntry.bytes).length - cut)) =
      ⟨SnoopEntry.layout (read + 1) offset es, none⟩ := by
  induction es generalizing read offset with
  | nil => rw [List.flatMap_nil, List.take_nil, scanFrom]; rfl
  | cons e es ih =>
    have he := hfit e (List.mem_cons_self ..)
    cases es with
    | nil =>
      -- the last record: its padding is cut short, and the walk jumps past the end
      rw [List.getLast?_singleton, Option.map_some, Option.getD_some] at hcut
      have htake : ([e].flatMap SnoopEntry.bytes).take (([e].flatMap SnoopEntry.bytes).length - cut) =
          e.descriptor ++ e.frame ++ List.replicate (e.padding - cut) 0 := by
        rw [List.flatMap_singleton, SnoopEntry.bytes, List.length_append, List.length_replicate,
          show (e.descriptor ++ e.frame).length + e.padding - cut =
            (e.descriptor ++ e.frame).length + (e.padding - cut) by omega,
          List.take_length_add_append, List.take_replicate, Nat.min_eq_left (by omega)]
      rw [htake, scanFrom_entry he, List.drop_eq_nil_of_le (by simp), scanFrom]
      rfl
    | cons g gs =>
      -- a record before the last: its padding is whole, and the walk goes on at the next one
      rw [List.getLast?_cons_cons] at hcut
      have hlast := SnoopEntry.lastPadding_le (g :: gs)
      have htake : ((e :: g :: gs).flatMap SnoopEntry.bytes).take
            (((e :: g :: gs).flatMap SnoopEntry.bytes).length - cut) =
          e.descriptor ++ e.frame ++ (List.replicate e.padding 0 ++
            ((g :: gs).flatMap SnoopEntry.bytes).take
              (((g :: gs).flatMap SnoopEntry.bytes).length - cut)) := by
        rw [List.flatMap_cons, List.length_append,
          show e.bytes.length + ((g :: gs).flatMap SnoopEntry.bytes).length - cut =
            e.bytes.length + (((g :: gs).flatMap SnoopEntry.bytes).length - cut) by omega,
          List.take_length_add_append, SnoopEntry.bytes, List.append_assoc, List.append_assoc]
      rw [htake, scanFrom_entry he, List.drop_left' (List.length_replicate ..),
        ih _ _ (fun g hg => hfit g (List.mem_cons_of_mem e hg)) hcut]
      rfl

/-- Records laid down after a sixteen-byte file header, each padded to its rounded record length, are
read back one per entry as laid down, to the end. -/
theorem scan_laid_out (header : Bytes) (hheader : header.length = 16) (es : List SnoopEntry)
    (hfit : ∀ e ∈ es, 24 + e.frame.length ≤ e.recordLength.toNat) (cut : Nat)
    (hcut : cut ≤ (es.getLast?.map SnoopEntry.padding).getD 0) :
    let data := header ++ (es.flatMap SnoopEntry.bytes).take
      ((es.flatMap SnoopEntry.bytes).length - cut)
    (scan data).records.length = es.length ∧
      (∀ i, (scan data).records[i]? = es[i]?.map fun e =>
        ({ index := i + 1
           offset := 16 + (es.take i).foldr (fun g n => advance g.recordLength.toNat + n) 0
           time := e.time
           originalLength := e.originalLength
           frame := e.frame } : SnoopRecord)) ∧
      (scan data).stop = none := by
  intro data
  have hscan : scan data = ⟨SnoopEntry.layout 1 16 es, none⟩ := by
    show scan (header ++ _) = _
    unfold scan
    rw [show fileHeaderLength = 16 from rfl, List.drop_left' hheader, List.length_append, hheader,
      Nat.min_eq_left (Nat.le_add_right _ _)]
    exact scanFrom_laid_out 0 16 es hfit cut hcut
  refine ⟨?_, fun i => ?_, ?_⟩
  · rw [hscan, SnoopEntry.layout_length]
  · rw [hscan]
    dsimp only
    rw [SnoopEntry.layout_getElem?, Nat.add_comm 1 i]
    rfl
  · rw [hscan]

end Snoop

/-- Two records after the sample file header: the first with a record length beyond what it needs,
the second with an odd record length and its padding cut off. -/
def Sample.laidOutEntries : List SnoopEntry :=
  [⟨60, [0x08, 0x00, 0x45], 40, 0, ⟨100, 0⟩⟩, ⟨2, [0xAB, 0xCD], 27, 5, ⟨100, 20000⟩⟩]

theorem Snoop.sample_laid_out :
    Sample.snoopHeader.length = 16 ∧
      (∀ e ∈ Sample.laidOutEntries, 24 + e.frame.length ≤ e.recordLength.toNat) ∧
      2 ≤ (Sample.laidOutEntries.getLast?.map SnoopEntry.padding).getD 0 ∧
      let data := Sample.snoopHeader ++ (Sample.laidOutEntries.flatMap SnoopEntry.bytes).take
        ((Sample.laidOutEntries.flatMap SnoopEntry.bytes).length - 2)
      (Snoop.scan data).records.length = Sample.laidOutEntries.length ∧
        (∀ i, (Snoop.scan data).records[i]? = Sample.laidOutEntries[i]?.map fun e =>
          ({ index := i + 1
             offset := 16 + (Sample.laidOutEntries.take i).foldr
               (fun g n => Snoop.advance g.recordLength.toNat + n) 0
             time := e.time
             originalLength := e.originalLength
             frame := e.frame } : SnoopRecord)) ∧
        (Snoop.scan data).stop = none :=
  ⟨by decide, by decide, by decide,
    Snoop.scan_laid_out Sample.snoopHeader (by decide) Sample.laidOutEntries (by decide) 2
      (by decide)⟩

end RtpAudit

import RtpAudit.Capture.Cursor
import RtpAudit.Proofs.Analysis.Bounds

/-! # What a cursor gives, call after call

`Cursor.Drains L c items stop` says what reading from `c` to the end gives: the items in order and
the reason kept when reading stopped early. It has one rule per way a call can go: at the end, at an
item that cannot be read, at an item read. From it follows what every call gives (`Cursor.Walks`):

* call `n` gives the `n`-th item, read at the cursor's offset, and from the last item on every call
  gives nothing;
* the cursor counts the items read, its offset grows by at least the fewest bytes an item takes,
  so at most `(length - start) / minimum` items are read;
* a reason is kept exactly when reading stopped strictly inside the bytes, at an item that cannot be
  read; it names that item's position and offset. A walk that lands on or jumps past the end keeps
  none.

The scans of both kinds of capture are what their cursors give (`Snoop.drains_scan`,
`Recording.drains_scan`). For snoop records the position and offset are the record's own, and a
record's frame lies whole in the capture before any later descriptor; the reason a snoop capture
stops is the first descriptor check that fails (`capture_cursors_walk`).
-/

namespace RtpAudit

namespace Cursor

variable {α : Type}

/-- The cursor after `n` calls. -/
def after (L : CaptureLayout α) (c : Cursor) : Nat → Cursor
  | 0 => c
  | n + 1 => (c.next L).2.after L n

variable {L : CaptureLayout α} {c : Cursor}

@[simp] theorem after_zero (c : Cursor) : c.after L 0 = c := rfl

@[simp] theorem start_data (data : Bytes) : (start L data).data = data := rfl

@[simp] theorem start_index (data : Bytes) : (start L data).index = 0 := rfl

theorem after_succ (c : Cursor) (n : Nat) : c.after L (n + 1) = (c.next L).2.after L n := rfl

theorem next_of_end (h : c.data.length ≤ c.offset) : c.next L = (none, c) := by
  unfold next
  rw [if_pos h]

theorem after_of_end (h : c.data.length ≤ c.offset) (n : Nat) : c.after L n = c := by
  induction n with
  | zero => rfl
  | succ n ih => rw [after_succ, next_of_end h, ih]

theorem next_of_error {reason : String} (hlt : c.offset < c.data.length)
    (h : L.read (c.index + 1) c.offset (c.data.drop c.offset) = .error reason) :
    c.next L = (none, { c with
      offset := c.data.length
      stop := some (.malformed (c.index + 1) c.offset reason) }) := by
  unfold next
  rw [if_neg (Nat.not_le_of_lt hlt), h]

theorem next_of_ok {item : α} {used : Nat} (hlt : c.offset < c.data.length)
    (h : L.read (c.index + 1) c.offset (c.data.drop c.offset) = .ok (item, used)) :
    c.next L = (some item, { c with offset := c.offset + used, index := c.index + 1 }) := by
  unfold next
  rw [if_neg (Nat.not_le_of_lt hlt), h]

variable (L) in
/-- What reading from a cursor to the end gives: the items in order, and the reason kept if reading
stopped before the end. -/
inductive Drains : Cursor → List α → Option CaptureError → Prop
  /-- At the end of the bytes nothing more is read. -/
  | done {c : Cursor} : c.data.length ≤ c.offset → Drains c [] c.stop
  /-- An item that cannot be read stops reading, naming its position and offset. -/
  | halt {c : Cursor} {reason : String} : c.offset < c.data.length →
      L.read (c.index + 1) c.offset (c.data.drop c.offset) = .error reason →
      Drains c [] (some (.malformed (c.index + 1) c.offset reason))
  /-- An item read is followed by what reading past it gives. -/
  | step {c : Cursor} {item : α} {used : Nat} {items : List α} {stop : Option CaptureError} :
      c.offset < c.data.length →
      L.read (c.index + 1) c.offset (c.data.drop c.offset) = .ok (item, used) →
      Drains { c with offset := c.offset + used, index := c.index + 1 } items stop →
      Drains c (item :: items) stop

variable (L) in
/-- What every call on a cursor gives, when reading from it gives `items` and keeps `stop`. -/
structure Walks (c : Cursor) (items : List α) (stop : Option CaptureError) : Prop where
  /-- Call `n` gives the `n`-th item; from the last item on, every call gives nothing. -/
  yields : ∀ n, ((c.after L n).next L).1 = items[n]?
  /-- Each item is read at the cursor's offset and position, and the cursor moves past it. -/
  read : ∀ n (h : n < items.length), ∃ used,
    L.read ((c.after L n).index + 1) (c.after L n).offset (c.data.drop (c.after L n).offset) =
      .ok (items[n], used) ∧ (c.after L (n + 1)).offset = (c.after L n).offset + used
  /-- The cursor counts the items read. -/
  index : ∀ n ≤ items.length, (c.after L n).index = c.index + n
  /-- The items fit in the bytes left, each taking at least the fewest bytes an item takes. -/
  count : L.minimum * items.length ≤ c.data.length - c.offset
  /-- No reason is kept while items are read. -/
  running : ∀ n ≤ items.length, (c.after L n).stop = none
  /-- Once a call gave nothing, the reason is kept, and stays. -/
  stopped : ∀ k, (c.after L (items.length + 1 + k)).stop = stop
  /-- A reason is kept exactly when reading stopped strictly inside the bytes. -/
  halted : stop.isSome ↔ (c.after L items.length).offset < c.data.length
  /-- The reason names the item that cannot be read: its position, its offset and why. -/
  reason : ∀ e, stop = some e → ∃ reason,
    L.read ((c.after L items.length).index + 1) (c.after L items.length).offset
        (c.data.drop (c.after L items.length).offset) = .error reason ∧
      e = .malformed ((c.after L items.length).index + 1) (c.after L items.length).offset reason

theorem walks_done (hend : c.data.length ≤ c.offset) (hc : c.stop = none) : Walks L c [] none where
  yields n := by rw [after_of_end hend, next_of_end hend]; rfl
  read n h := absurd h (Nat.not_lt_zero n)
  index n hn := by rw [Nat.le_zero.1 hn]; rfl
  count := by rw [List.length_nil, Nat.mul_zero]; exact Nat.zero_le _
  running n _ := by rw [after_of_end hend, hc]
  stopped k := by rw [after_of_end hend, hc]
  halted := by
    rw [List.length_nil, after_zero, Option.isSome_none]
    exact ⟨fun h => absurd h Bool.false_ne_true, fun h => absurd hend (Nat.not_le_of_lt h)⟩
  reason e he := by cases he

theorem walks_halt {reason : String} (hlt : c.offset < c.data.length)
    (herr : L.read (c.index + 1) c.offset (c.data.drop c.offset) = .error reason)
    (hc : c.stop = none) :
    Walks L c [] (some (.malformed (c.index + 1) c.offset reason)) := by
  have hnext := next_of_error hlt herr
  -- the halted cursor sits at the end
  have hafter : ∀ n, c.after L (n + 1) = { c with
      offset := c.data.length
      stop := some (.malformed (c.index + 1) c.offset reason) } := fun n => by
    rw [after_succ, hnext]
    exact after_of_end (Nat.le_refl _) n
  exact {
    yields := fun n => by
      cases n with
      | zero => rw [after_zero, hnext]; rfl
      | succ n => rw [hafter, next_of_end (Nat.le_refl _)]; rfl
    read := fun n h => absurd h (Nat.not_lt_zero n)
    index := fun n hn => by rw [Nat.le_zero.1 hn]; rfl
    count := by rw [List.length_nil, Nat.mul_zero]; exact Nat.zero_le _
    running := fun n hn => by rw [Nat.le_zero.1 hn, after_zero, hc]
    stopped := fun k => by rw [List.length_nil, Nat.zero_add, Nat.add_comm, hafter]
    halted := by rw [List.length_nil, after_zero]; exact ⟨fun _ => hlt, fun _ => rfl⟩
    reason := fun e he => ⟨reason, herr, (Option.some.inj he).symm⟩ }

theorem walks_step {item : α} {used : Nat} {items : List α} {stop : Option CaptureError}
    (hlt : c.offset < c.data.length)
    (hok : L.read (c.index + 1) c.offset (c.data.drop c.offset) = .ok (item, used))
    (hc : c.stop = none)
    (w : Walks L { c with offset := c.offset + used, index := c.index + 1 } items stop) :
    Walks L c (item :: items) stop := by
  have hnext := next_of_ok hlt hok
  have hshift : ∀ n, c.after L (n + 1) =
      ({ c with offset := c.offset + used, index := c.index + 1 } : Cursor).after L n := fun n => by
    rw [after_succ, hnext]
  have hfits := L.read_fits hok
  have hcount : L.minimum * items.length ≤ c.data.length - (c.offset + used) := w.count
  exact {
    yields := fun n => by
      cases n with
      | zero => rw [after_zero, hnext]; rfl
      | succ n => rw [hshift]; exact w.yields n
    read := fun n h => by
      cases n with
      | zero => exact ⟨used, hok, by rw [hshift, after_zero]; rfl⟩
      | succ n =>
        rw [hshift, hshift]
        exact w.read n (Nat.lt_of_succ_lt_succ h)
    index := fun n hn => by
      cases n with
      | zero => rfl
      | succ n =>
        rw [hshift, w.index n (Nat.le_of_succ_le_succ hn)]
        show c.index + 1 + n = c.index + (n + 1)
        omega
    count := by
      rw [List.length_cons, Nat.mul_succ]
      have := L.minimum_pos
      rw [List.length_drop] at hfits
      omega
    running := fun n hn => by
      cases n with
      | zero => exact hc
      | succ n =>
        rw [hshift]
        exact w.running n (Nat.le_of_succ_le_succ hn)
    stopped := fun k => by
      rw [List.length_cons, show items.length + 1 + 1 + k = items.length + 1 + k + 1 by omega,
        hshift]
      exact w.stopped k
    halted := by
      rw [List.length_cons, hshift]
      exact w.halted
    reason := fun e he => by
      rw [List.length_cons, hshift]
      exact w.reason e he }

/-- Whatever reading from a cursor that has kept no reason gives, every call gives as `Walks`
says. -/
theorem Drains.walks {items : List α} {stop : Option CaptureError} (h : Drains L c items stop)
    (hc : c.stop = none) : Walks L c items stop := by
  induction h with
  | done hend => rename_i c; rw [hc]; exact walks_done hend hc
  | halt hlt herr => exact walks_halt hlt herr hc
  | step hlt hok _ ih => exact walks_step hlt hok hc (ih hc)

variable {items : List α} {stop : Option CaptureError}

theorem Walks.advances (w : Walks L c items stop) {n : Nat} (h : n < items.length) :
    (c.after L n).offset + L.minimum ≤ (c.after L (n + 1)).offset := by
  obtain ⟨used, hread, hoffset⟩ := w.read n h
  rw [hoffset]
  exact Nat.add_le_add_left (L.read_fits hread).1 _

theorem Walks.offset_mono (w : Walks L c items stop) {i j : Nat} (hij : i ≤ j)
    (hj : j ≤ items.length) : (c.after L i).offset ≤ (c.after L j).offset := by
  obtain ⟨d, rfl⟩ := Nat.exists_eq_add_of_le hij
  induction d with
  | zero => exact Nat.le_refl _
  | succ d ih =>
    have hstep := w.advances (n := i + d) (by omega)
    rw [← Nat.add_assoc]
    exact Nat.le_trans (ih (by omega) (by omega)) (by omega)

theorem Walks.offset_lt (w : Walks L c items stop) {n : Nat} (h : n < items.length) :
    (c.after L n).offset < (c.after L (n + 1)).offset :=
  Nat.lt_of_lt_of_le (Nat.lt_add_of_pos_right L.minimum_pos) (w.advances h)

theorem Walks.count_start {data : Bytes} (w : Walks L (start L data) items stop) :
    L.minimum * items.length ≤ data.length - L.headerLength := by
  have hcount : L.minimum * items.length ≤ data.length - min L.headerLength data.length := w.count
  omega

end Cursor

theorem Bytes.drop_min_length (data : Bytes) (n : Nat) : data.drop (min n data.length) = data.drop n := by
  rcases Nat.le_total n data.length with h | h
  · rw [Nat.min_eq_left h]
  · rw [Nat.min_eq_right h, List.drop_length, List.drop_eq_nil_of_le h]

theorem Bytes.lt_length_of_drop_eq_cons {data : Bytes} {offset : Nat} {b : UInt8} {bs : Bytes}
    (h : data.drop offset = b :: bs) : offset < data.length := by
  have hlen := congrArg List.length h
  rw [List.length_drop, List.length_cons] at hlen
  omega

namespace Snoop

variable {index offset used : Nat} {rest : Bytes} {rec : SnoopRecord} {reason : String}

theorem layout_read_of_fault (h : descriptorFault? rest = some reason) :
    layout.read index offset rest = .error reason := by
  simp only [layout, h]

theorem layout_read_of_trusted (h : descriptorFault? rest = none) :
    layout.read index offset rest =
      .ok (recordAt index offset rest, advance (Bytes.u32At rest 8).toNat) := by
  simp only [layout, h]

theorem layout_read_eq_error (h : layout.read index offset rest = .error reason) :
    descriptorFault? rest = some reason := by
  cases hfault : descriptorFault? rest with
  | none => rw [layout_read_of_trusted hfault] at h; cases h
  | some r => rw [layout_read_of_fault hfault] at h; cases h; rfl

theorem frame_end_le_advance (h : descriptorFault? rest = none) :
    descriptorLength + (Bytes.u32At rest 4).toNat ≤ advance (Bytes.u32At rest 8).toNat := by
  unfold descriptorFault? at h
  split at h
  · cases h
  · dsimp only at h
    split at h
    · cases h
    · split at h
      · cases h
      · unfold advance
        omega

theorem read_record (h : layout.read index offset rest = .ok (rec, used)) :
    rec.index = index ∧ rec.offset = offset ∧
      rec.frame = (rest.drop descriptorLength).take rec.frame.length ∧
      descriptorLength + rec.frame.length ≤ rest.length ∧ descriptorLength + rec.frame.length ≤ used := by
  cases hfault : descriptorFault? rest with
  | some r => rw [layout_read_of_fault hfault] at h; cases h
  | none =>
    rw [layout_read_of_trusted hfault] at h
    cases h
    obtain ⟨hframe, hfits, -⟩ := recordAt_whole hfault index offset
    refine ⟨rfl, rfl, ?_, ?_, ?_⟩
    · rw [hframe]
      rfl
    · rw [hframe]
      exact hfits
    · rw [hframe]
      exact frame_end_le_advance hfault

theorem descriptorFault?_eq_some (h : descriptorFault? rest = some reason) :
    reason = if rest.length < 24 then "truncated record descriptor"
      else if (Bytes.u32At rest 8).toNat = 0 then "zero record length"
      else if (Bytes.u32At rest 8).toNat < 24 + (Bytes.u32At rest 4).toNat then
        "record length smaller than its contents"
      else "frame runs past end of capture" := by
  unfold descriptorFault? descriptorLength at h
  split at h
  · rename_i hshort
    rw [if_pos hshort]
    exact (Option.some.inj h).symm
  · rename_i hshort
    rw [if_neg hshort]
    dsimp only at h
    split at h
    · rename_i hzero
      rw [if_pos hzero]
      exact (Option.some.inj h).symm
    · rename_i hzero
      rw [if_neg hzero]
      split at h
      · rename_i hsmall
        rw [if_pos hsmall]
        exact (Option.some.inj h).symm
      · rename_i hsmall
        rw [if_neg hsmall]
        split at h
        · exact (Option.some.inj h).symm
        · cases h

theorem drains_scanFrom (data : Bytes) (read offset : Nat) (rest : Bytes)
    (hrest : data.drop offset = rest) :
    Cursor.Drains layout ⟨data, offset, read, none⟩ (scanFrom read offset rest).records
      (scanFrom read offset rest).stop := by
  induction read, offset, rest using scanFrom.induct with
  | case1 read offset =>
    rw [scanFrom]
    exact .done (List.drop_eq_nil_iff.1 hrest)
  | case2 read offset b bs reason hfault =>
    have hscan : scanFrom read offset (b :: bs) = ⟨[], some (.malformed (read + 1) offset reason)⟩ := by
      rw [scanFrom]
      split
      · rename_i reason' hfault'
        rw [hfault] at hfault'
        cases hfault'
        rfl
      · rename_i hnone
        rw [hfault] at hnone
        cases hnone
    rw [hscan]
    exact .halt (Bytes.lt_length_of_drop_eq_cons hrest)
      (by rw [hrest]; exact layout_read_of_fault hfault)
  | case3 read offset b bs hfault step ih =>
    rw [scanFrom_trusted hfault]
    exact .step (Bytes.lt_length_of_drop_eq_cons hrest)
      (by rw [hrest]; exact layout_read_of_trusted hfault)
      (ih (by rw [← List.drop_drop, hrest]))

theorem drains_scan (data : Bytes) :
    Cursor.Drains layout (Cursor.start layout data) (scan data).records (scan data).stop :=
  drains_scanFrom data 0 _ _ (Bytes.drop_min_length data fileHeaderLength)

end Snoop

namespace Recording

variable {index offset used : Nat} {rest : Bytes} {frame : RecordingFrame} {reason : String}

theorem layout_read_eq_error (h : layout.read index offset rest = .error reason) :
    ∃ e, RecordingFrame.decode rest = .error e ∧ reason = e.message := by
  cases hdecode : RecordingFrame.decode rest with
  | error e =>
    have h' : (RecordingFrame.decode rest).mapError DecodeError.message = .error reason := h
    rw [hdecode] at h'
    cases h'
    exact ⟨e, rfl, rfl⟩
  | ok p =>
    have h' : (RecordingFrame.decode rest).mapError DecodeError.message = .error reason := h
    rw [hdecode] at h'
    cases h'

theorem drains_scanFrom (data : Bytes) (read offset : Nat) (rest : Bytes)
    (hrest : data.drop offset = rest) :
    Cursor.Drains layout ⟨data, offset, read, none⟩ (scanFrom read offset rest).frames
      (scanFrom read offset rest).stop := by
  induction read, offset, rest using scanFrom.induct with
  | case1 read offset =>
    rw [scanFrom]
    exact .done (List.drop_eq_nil_iff.1 hrest)
  | case2 read offset b bs e herr =>
    have hscan : scanFrom read offset (b :: bs) = ⟨[], some (.malformed (read + 1) offset e.message)⟩ := by
      rw [scanFrom]
      split
      · rename_i e' herr'
        rw [herr] at herr'
        cases herr'
        rfl
      · rename_i frame used hok
        rw [herr] at hok
        cases hok
    rw [hscan]
    refine .halt (Bytes.lt_length_of_drop_eq_cons hrest) ?_
    show (RecordingFrame.decode (data.drop offset)).mapError DecodeError.message = _
    rw [hrest, herr]
    rfl
  | case3 read offset b bs frame used hok ih =>
    rw [scanFrom_decoded hok]
    refine .step (Bytes.lt_length_of_drop_eq_cons hrest) ?_ (ih (by rw [← List.drop_drop, hrest]))
    show (RecordingFrame.decode (data.drop offset)).mapError DecodeError.message = _
    rw [hrest, hok]
    rfl

theorem drains_scan (data : Bytes) :
    Cursor.Drains layout (Cursor.start layout data) (scan data).frames (scan data).stop :=
  drains_scanFrom data 0 _ _ (Bytes.drop_min_length data fileHeaderLength)

theorem walks_scan (data : Bytes) :
    Cursor.Walks layout (Cursor.start layout data) (scan data).frames (scan data).stop :=
  (drains_scan data).walks rfl

end Recording

namespace Snoop

theorem walks_scan (data : Bytes) :
    Cursor.Walks layout (Cursor.start layout data) (scan data).records (scan data).stop :=
  (drains_scan data).walks rfl

/-- The `i`-th record is read where the cursor stood before it, and ends before it moves on. -/
theorem walk_record (data : Bytes) {i : Nat} (h : i < (scan data).records.length) :
    (scan data).records[i].index = i + 1 ∧
      (scan data).records[i].offset = ((Cursor.start layout data).after layout i).offset ∧
      (scan data).records[i].frame = (data.drop ((scan data).records[i].offset + descriptorLength)).take
        (scan data).records[i].frame.length ∧
      (scan data).records[i].offset + descriptorLength + (scan data).records[i].frame.length ≤
        ((Cursor.start layout data).after layout (i + 1)).offset ∧
      (scan data).records[i].offset + descriptorLength + (scan data).records[i].frame.length ≤
        data.length := by
  have w := walks_scan data
  obtain ⟨used, hread, hoffset⟩ := w.read i h
  obtain ⟨hindex, hoff, hframe, hfits, hused⟩ := read_record hread
  have hi := w.index i (Nat.le_of_lt h)
  rw [Cursor.start_data] at hframe hfits
  rw [Cursor.start_index] at hi
  rw [List.length_drop] at hfits
  refine ⟨?_, hoff, ?_, ?_, ?_⟩
  · rw [hindex, hi, Nat.zero_add]
  · rw [hoff]
    exact hframe.trans (by rw [List.drop_drop])
  · rw [hoffset, hoff]
    omega
  · -- a descriptor is there, so the record starts inside the bytes
    have hpos : 0 < descriptorLength := layout.minimum_pos
    rw [hoff]
    omega

theorem records_apart (data : Bytes) :
    (scan data).records.Pairwise fun a b => a.offset + descriptorLength + a.frame.length ≤ b.offset := by
  rw [List.pairwise_iff_getElem]
  intro i j hi hj hij
  obtain ⟨-, -, -, hend, -⟩ := walk_record data hi
  obtain ⟨-, hstart, -⟩ := walk_record data hj
  have hmono := (walks_scan data).offset_mono (i := i + 1) hij (Nat.le_of_lt hj)
  rw [hstart]
  omega

/-- A snoop capture stops at the descriptor after its last record, at its first failing check. -/
theorem scan_stop (data : Bytes) {e : CaptureError} (h : (scan data).stop = some e) :
    e = .malformed ((scan data).records.length + 1)
      ((Cursor.start layout data).after layout (scan data).records.length).offset
      (let rest := data.drop ((Cursor.start layout data).after layout (scan data).records.length).offset
       if rest.length < 24 then "truncated record descriptor"
       else if (Bytes.u32At rest 8).toNat = 0 then "zero record length"
       else if (Bytes.u32At rest 8).toNat < 24 + (Bytes.u32At rest 4).toNat then
         "record length smaller than its contents"
       else "frame runs past end of capture") := by
  have w := walks_scan data
  obtain ⟨reason, hread, he⟩ := w.reason e h
  rw [he, w.index _ (Nat.le_refl _), Cursor.start_index, Nat.zero_add,
    descriptorFault?_eq_some (layout_read_eq_error hread)]
  rfl

end Snoop

namespace Recording

/-- A recording stops at the frame after the last one read, for the reason its decoding fails. -/
theorem scan_stop (data : Bytes) {e : CaptureError} (h : (scan data).stop = some e) :
    ∃ err, RecordingFrame.decode
        (data.drop ((Cursor.start layout data).after layout (scan data).frames.length).offset) =
          .error err ∧
      e = .malformed ((scan data).frames.length + 1)
        ((Cursor.start layout data).after layout (scan data).frames.length).offset err.message := by
  have w := walks_scan data
  obtain ⟨reason, hread, he⟩ := w.reason e h
  obtain ⟨err, hdecode, rfl⟩ := layout_read_eq_error hread
  rw [w.index _ (Nat.le_refl _), Cursor.start_index, Nat.zero_add] at he
  exact ⟨err, hdecode, he⟩

end Recording

/-- Over any bytes, both cursors give call by call the items their scans read and then nothing,
keep the scans' reason to stop, and move forward at every item; records lie inside the bytes. -/
theorem capture_cursors_walk (data : Bytes) :
    let snoop := Cursor.start Snoop.layout data
    let records := (Snoop.scan data).records
    let recording := Cursor.start Recording.layout data
    let frames := (Recording.scan data).frames
    Cursor.Walks Snoop.layout snoop records (Snoop.scan data).stop ∧
    Cursor.Walks Recording.layout recording frames (Recording.scan data).stop ∧
    24 * records.length ≤ data.length - 16 ∧ 16 * frames.length ≤ data.length - 16 ∧
    (∀ n < records.length,
      (snoop.after Snoop.layout n).offset < (snoop.after Snoop.layout (n + 1)).offset) ∧
    (∀ n < frames.length,
      (recording.after Recording.layout n).offset < (recording.after Recording.layout (n + 1)).offset) ∧
    (∀ i (h : i < records.length), records[i].index = i + 1 ∧
      records[i].frame = (data.drop (records[i].offset + 24)).take records[i].frame.length ∧
      records[i].offset + 24 + records[i].frame.length ≤ data.length) ∧
    records.Pairwise (fun a b => a.offset + 24 + a.frame.length ≤ b.offset) ∧
    (∀ e, (Snoop.scan data).stop = some e →
      let o := (snoop.after Snoop.layout records.length).offset
      let rest := data.drop o
      e = .malformed (records.length + 1) o
        (if rest.length < 24 then "truncated record descriptor"
         else if (Bytes.u32At rest 8).toNat = 0 then "zero record length"
         else if (Bytes.u32At rest 8).toNat < 24 + (Bytes.u32At rest 4).toNat then
           "record length smaller than its contents"
         else "frame runs past end of capture")) ∧
    (∀ e, (Recording.scan data).stop = some e →
      let o := (recording.after Recording.layout frames.length).offset
      ∃ err, RecordingFrame.decode (data.drop o) = .error err ∧
        e = .malformed (frames.length + 1) o err.message) := by
  intro snoop records recording frames
  have ws := Snoop.walks_scan data
  have wr := Recording.walks_scan data
  refine ⟨ws, wr, ws.count_start, wr.count_start, fun n h => ws.offset_lt h,
    fun n h => wr.offset_lt h, fun i h => ?_, Snoop.records_apart data,
    fun e h => Snoop.scan_stop data h, fun e h => Recording.scan_stop data h⟩
  obtain ⟨hindex, -, hframe, -, hend⟩ := Snoop.walk_record data h
  exact ⟨hindex, hframe, hend⟩

namespace Sample

/-- A capture of one record of four bytes, followed by a descriptor of zeros. -/
def zeroLengthCapture : Bytes :=
  snoopHeader ++ snoopRecord 0 0 [1, 2, 3, 4] ++ List.replicate 24 0

end Sample

/-- After one record of four bytes, the cursor stands at byte 44, where a descriptor of zeros stops
reading for its zero record length. -/
theorem zero_record_length_stops :
    (Snoop.scan Sample.zeroLengthCapture).stop = some (.malformed 2 44 "zero record length") ∧
      (Snoop.scan Sample.zeroLengthCapture).records.length = 1 ∧
      ((Cursor.start Snoop.layout Sample.zeroLengthCapture).after Snoop.layout 1).offset = 44 := by
  have hstop : (Snoop.scan Sample.zeroLengthCapture).stop =
      some (.malformed 2 44 "zero record length") := by decide +kernel
  have hcount : (Snoop.scan Sample.zeroLengthCapture).records.length = 1 := by decide +kernel
  have h := (capture_cursors_walk Sample.zeroLengthCapture).2.2.2.2.2.2.2.2.1 _ hstop
  simp only [hcount] at h
  injection h with hindex hoffset
  exact ⟨hstop, hcount, hoffset.symm⟩

end RtpAudit

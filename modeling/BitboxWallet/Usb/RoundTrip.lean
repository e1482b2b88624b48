import BitboxWallet.Usb.Frame

/-! # Reading back what `sendFrame` wrote

Over a loopback, one `readFrame` call reads exactly the reports of one `sendFrame` call. It
returns their payload areas whole: the message, then the `0xee` filler of its last report.
-/

namespace BitboxWallet.Usb

/-- How many continuation reports an `n`-byte message needs: `⌈max(0, n - 57) / 59⌉`. -/
def contCount (n : Nat) : Nat := (n - 57 + 58) / 59

/-- The `0xee` bytes that follow an `n`-byte message in its reports. -/
def fillerLength (n : Nat) : Nat := 57 + 59 * contCount n - n

/-! ## Payload areas -/

theorem take_fill_drop_fill (n k : Nat) (l : List UInt8) :
    l.take n ++ List.replicate (n - l.length) 0xee ++ (l.drop n ++ List.replicate k 0xee) =
      l ++ List.replicate (n - l.length + k) 0xee := by
  by_cases h : l.length ≤ n
  · rw [List.take_of_length_le h, List.drop_eq_nil_of_le h, List.nil_append, List.replicate_add,
      List.append_assoc]
  · rw [show n - l.length = 0 by omega, List.replicate_zero, List.append_nil, ← List.append_assoc,
      List.take_append_drop, Nat.zero_add]

theorem contReports_length (seq : Nat) (rb : List UInt8) :
    (contReports seq rb).length = (rb.length + 58) / 59 := by
  induction seq, rb using contReports.induct with
  | case1 seq rb h ih =>
    rw [contReports, if_pos h, List.length_cons, ih]
    simp only [List.length_drop, contHeader_length, usbReportSize]
    omega
  | case2 seq rb h =>
    rw [contReports, if_neg h]
    simp only [List.length_nil]
    omega

theorem contReports_payload (seq : Nat) (rb : List UInt8) :
    (contReports seq rb).flatMap (·.drop 5) =
      rb ++ List.replicate (59 * ((rb.length + 58) / 59) - rb.length) 0xee := by
  induction seq, rb using contReports.induct with
  | case1 seq rb h ih =>
    rw [contReports, if_pos h, List.flatMap_cons, ih, fillReport_eq,
      List.drop_left' (contHeader_length seq)]
    simp only [contHeader_length, usbReportSize, List.length_drop, Nat.reduceSub]
    rw [take_fill_drop_fill]
    congr 2
    omega
  | case2 seq rb h =>
    rw [contReports, if_neg h, List.eq_nil_of_length_eq_zero (Nat.eq_zero_of_not_pos h)]
    rfl

/-! ## The read loop over continuation reports -/

theorem readLoop_done {dataLen idx : Nat} (data : List UInt8) (reads : List ReadResult)
    (h : dataLen ≤ idx) : readLoop dataLen idx data reads = .ok (data, reads) := by
  cases reads <;> simp [readLoop, Nat.not_lt.2 h]

theorem readLoop_ok {dataLen idx : Nat} {read : List UInt8} (data : List UInt8)
    (reads : List ReadResult) (h : idx < dataLen) (hr : 5 ≤ read.length) :
    readLoop dataLen idx data (.ok read :: reads) =
      readLoop dataLen (idx + (read.length - 5)) (data ++ read.drop 5) reads := by
  rw [readLoop, if_pos h, if_neg (by omega)]

theorem readLoop_contReports (dataLen seq idx : Nat) (rb data : List UInt8)
    (rest : List ReadResult) (hlen : 0 < rb.length → idx + rb.length = dataLen)
    (hend : rb.length = 0 → dataLen ≤ idx) :
    readLoop dataLen idx data (loopback (contReports seq rb) ++ rest) =
      .ok (data ++ (contReports seq rb).flatMap (·.drop 5), rest) := by
  induction seq, rb using contReports.induct generalizing idx data with
  | case1 seq rb h ih =>
    have hr := fillReport_length (contHeader seq) rb (by simp [usbReportSize])
    rw [contReports, if_pos h, loopback_cons, List.cons_append,
      readLoop_ok _ _ (by have := hlen h; omega) (by simp [hr, usbReportSize])]
    simp only [hr, usbReportSize, contHeader_length, List.length_drop, Nat.reduceSub] at ih ⊢
    have := hlen h
    rw [ih _ _ (by omega) (by omega)]
    simp [List.append_assoc]
  | case2 seq rb h =>
    rw [contReports, if_neg h]
    simpa using readLoop_done data rest (hend (by omega))

/-! ## One frame -/

theorem initHeader_eq (n : Nat) :
    initHeader n = [0xff, 0, 0, 0, 0xc1, ((n &&& 0xFFFF) / 0x100).toUInt8, (n &&& 0xFFFF).toUInt8] :=
  rfl

theorem toNat_toUInt8 (n : Nat) : n.toUInt8.toNat = n % 256 := by
  simp [Nat.toUInt8, UInt8.ofNat, UInt8.toNat]

theorem length_field (n : Nat) (h : n < 65536) :
    ((n &&& 0xFFFF) / 0x100).toUInt8.toNat * 256 + (n &&& 0xFFFF).toUInt8.toNat = n := by
  rw [toNat_toUInt8, toNat_toUInt8, show (0xFFFF : Nat) = 2 ^ 16 - 1 from rfl,
    Nat.and_pow_two_sub_one_eq_mod]
  omega

theorem readFrame_frameReports (m : List UInt8) (rest : List ReadResult) (h : m.length < 65536) :
    readFrame (loopback (frameReports m) ++ rest) =
      .ok (m ++ List.replicate (fillerLength m.length) 0xee, rest) := by
  have hr := fillReport_length (initHeader m.length) m (by simp [usbReportSize])
  simp only [frameReports, loopback_cons, List.cons_append, readFrame, hr, usbReportSize]
  rw [if_neg (by decide), fillReport_eq, initHeader_eq]
  simp only [List.cons_append, List.getD_cons_zero, List.getD_cons_succ, List.drop_succ_cons,
    List.drop_zero, List.nil_append, length_field _ h]
  rw [if_neg (by decide), if_neg (by decide), ← initHeader_eq, readLoop_contReports] <;>
    simp only [initHeader_length, List.length_drop, usbReportSize, Nat.reduceSub]
  · rw [contReports_payload, take_fill_drop_fill, fillerLength, contCount, List.length_drop]
    congr 4
    omega
  all_goals first | decide | omega

theorem writeReports_writeOk (rs : List (List UInt8)) : writeReports writeOk rs = (rs, none) := by
  induction rs with
  | nil => rfl
  | cons r rs ih => simp [writeReports, writeOk, ih]

theorem sendFrame_writeOk (m : List UInt8) (h : 0 < m.length) :
    sendFrame writeOk m = (frameReports m, none) := by
  simp [sendFrame, Nat.pos_iff_ne_zero.1 h, writeReports_writeOk]

/-! ## Over a loopback -/

/-- A message read back over a loopback comes with the filler of its last report. -/
theorem readFrame_sendFrame (m : List UInt8) (h1 : 1 ≤ m.length) (h2 : m.length ≤ 65535) :
    readFrame (loopback (sendFrame writeOk m).1) =
      .ok (m ++ List.replicate (fillerLength m.length) 0xee, []) := by
  simpa [sendFrame_writeOk m h1] using readFrame_frameReports m [] (by omega)

def hundredBytes : List UInt8 := List.replicate 100 0x41

theorem readFrame_sendFrame_hundred : 1 ≤ hundredBytes.length ∧ hundredBytes.length ≤ 65535 ∧
    fillerLength hundredBytes.length = 16 ∧
    readFrame (loopback (sendFrame writeOk hundredBytes).1) =
      .ok (hundredBytes ++ List.replicate (fillerLength hundredBytes.length) 0xee, []) :=
  have h : hundredBytes.length = 100 := List.length_replicate _ _
  ⟨by rw [h]; decide, by rw [h]; decide, by rw [h]; rfl,
    readFrame_sendFrame _ (by rw [h]; decide) (by rw [h]; decide)⟩

/-- A one-byte message does not come back as itself. -/
theorem readFrame_sendFrame_adds_filler :
    readFrame (loopback (sendFrame writeOk [0x41]).1) ≠ .ok ([0x41], []) := by
  rw [sendFrame_writeOk _ (by decide), ← List.append_nil (loopback _),
    readFrame_frameReports _ _ (by decide)]
  simp [fillerLength, contCount]

/-- `k` successive `readFrame` calls on one stream of reads. -/
def readFrames : Nat → List ReadResult → Except String (List (List UInt8) × List ReadResult)
  | 0, reads => .ok ([], reads)
  | k + 1, reads =>
    match readFrame reads with
    | .error e => .error e
    | .ok (data, reads) =>
      match readFrames k reads with
      | .error e => .error e
      | .ok (datas, rest) => .ok (data :: datas, rest)

theorem frameReports_length (m : List UInt8) : (frameReports m).length = 1 + contCount m.length := by
  simp only [frameReports, List.length_cons, contReports_length, List.length_drop, contCount,
    initHeader_length, usbReportSize]
  omega

/-- Messages sent one after another are read back one per call: after `i` calls the reads
left are exactly the reports of the messages not yet read. -/
theorem readFrames_sendFrames (ms : List (List UInt8)) (rest : List ReadResult)
    (hms : ∀ m ∈ ms, 1 ≤ m.length ∧ m.length ≤ 65535) :
    (∀ m ∈ ms, (sendFrame writeOk m).1.length = 1 + contCount m.length) ∧
    ∀ i ≤ ms.length,
      readFrames i (loopback (ms.flatMap fun m => (sendFrame writeOk m).1) ++ rest) =
        .ok ((ms.take i).map (fun m => m ++ List.replicate (fillerLength m.length) 0xee),
          loopback ((ms.drop i).flatMap fun m => (sendFrame writeOk m).1) ++ rest) := by
  refine ⟨fun m hm => by rw [sendFrame_writeOk m (hms m hm).1, frameReports_length], ?_⟩
  induction ms with
  | nil => intro i hi; simp [Nat.le_zero.1 hi, readFrames]
  | cons m ms ih =>
    intro i hi
    cases i with
    | zero => rfl
    | succ j =>
      have hm := hms m (List.mem_cons_self m ms)
      simp only [List.flatMap_cons, loopback_append, List.append_assoc, readFrames,
        sendFrame_writeOk m hm.1, readFrame_frameReports m _ (by omega)]
      rw [ih (fun m' hm' => hms m' (List.mem_cons_of_mem m hm')) j
        (by simpa using hi)]
      rfl

def twoMessages : List (List UInt8) := [List.replicate 100 1, List.replicate 120 2]

theorem readFrames_two_messages :
    (∀ m ∈ twoMessages, 1 ≤ m.length ∧ m.length ≤ 65535) ∧
    ((∀ m ∈ twoMessages, (sendFrame writeOk m).1.length = 1 + contCount m.length) ∧
    ∀ i ≤ twoMessages.length,
      readFrames i (loopback (twoMessages.flatMap fun m => (sendFrame writeOk m).1) ++ []) =
        .ok ((twoMessages.take i).map (fun m => m ++ List.replicate (fillerLength m.length) 0xee),
          loopback ((twoMessages.drop i).flatMap fun m => (sendFrame writeOk m).1) ++ [])) :=
  have h : ∀ m ∈ twoMessages, 1 ≤ m.length ∧ m.length ≤ 65535 := by simp [twoMessages]
  ⟨h, readFrames_sendFrames twoMessages [] h⟩

end BitboxWallet.Usb

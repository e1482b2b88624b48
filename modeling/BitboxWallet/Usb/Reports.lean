import BitboxWallet.Usb.RoundTrip

/-! # The reports `sendFrame` writes

Each report is 64 bytes: a header, then its payload area. The init header carries the channel,
the command and the length as a `uint16`; a continuation header carries the channel and
`uint8(seq)`. Both fields are cut to their width, so a message of 65536 bytes or more declares a
wrong length, and past 256 continuation reports the sequence byte starts again at 0.

`sendFrame` hands the reports to `Write` in order and stops at the first one that fails.
-/

namespace BitboxWallet.Usb

/-- The length an init report declares: `int(read[5])*256 + int(read[6])`. -/
def lengthField (read : List UInt8) : Nat := (read.getD 5 0).toNat * 256 + (read.getD 6 0).toNat

/-- The payload areas of a frame's reports, in order: bytes `7..` of the init report, then
bytes `5..` of each continuation report. -/
def payloads : List (List UInt8) → List UInt8
  | [] => []
  | init :: conts => init.drop 7 ++ conts.flatMap (·.drop 5)

/-! ## Writing -/

theorem writeReports_spec (write : List UInt8 → Option String) (rs : List (List UInt8)) :
    (writeReports write rs = (rs, none) ∧ ∀ r ∈ rs, write r = none) ∨
      ∃ k r e, rs[k]? = some r ∧ write r = some e ∧ (∀ r' ∈ rs.take k, write r' = none) ∧
        writeReports write rs = (rs.take (k + 1), some ("Failed to send message: " ++ e)) := by
  induction rs with
  | nil => exact .inl ⟨rfl, by simp⟩
  | cons r rs ih =>
    cases hr : write r with
    | some e => exact .inr ⟨0, r, e, by simp, hr, by simp, by simp [writeReports, hr]⟩
    | none =>
      rcases ih with ⟨hw, hall⟩ | ⟨k, r', e, hk, he, hbefore, hw⟩
      · exact .inl ⟨by simp [writeReports, hr, hw], List.forall_mem_cons.2 ⟨hr, hall⟩⟩
      · refine .inr ⟨k + 1, r', e, by simpa using hk, he, ?_, by simp [writeReports, hr, hw]⟩
        rw [List.take_succ_cons]
        exact List.forall_mem_cons.2 ⟨hr, hbefore⟩

/-! ## The reports one by one -/

theorem contReports_getElem? (seq : Nat) (rb : List UInt8) (i : Nat)
    (hi : i < (rb.length + 58) / 59) :
    (contReports seq rb)[i]? = some (fillReport (contHeader (seq + i)) (rb.drop (59 * i))) := by
  induction seq, rb using contReports.induct generalizing i with
  | case1 seq rb h ih =>
    rw [contReports, if_pos h]
    simp only [contHeader_length, usbReportSize, Nat.reduceSub, List.length_drop] at ih ⊢
    cases i with
    | zero => simp
    | succ j =>
      rw [List.getElem?_cons_succ, ih j (by omega), List.drop_drop]
      congr 3 <;> omega
  | case2 seq rb h => omega

theorem contReports_length_eq (seq : Nat) (rb : List UInt8) :
    ∀ r ∈ contReports seq rb, r.length = usbReportSize := by
  induction seq, rb using contReports.induct with
  | case1 seq rb h ih =>
    rw [contReports, if_pos h]
    exact List.forall_mem_cons.2 ⟨fillReport_length _ _ (by simp [usbReportSize]), ih⟩
  | case2 seq rb h => simp [contReports, h]

theorem frameReports_getElem?_zero (m : List UInt8) :
    (frameReports m)[0]? = some (fillReport (initHeader m.length) m) := by
  rw [frameReports, List.getElem?_cons_zero]

theorem frameReports_getElem?_succ (m : List UInt8) (i : Nat) (hi : i < contCount m.length) :
    (frameReports m)[i + 1]? = some (fillReport (contHeader i) (m.drop (57 + 59 * i))) := by
  simp only [frameReports, initHeader_length, usbReportSize, Nat.reduceSub,
    List.getElem?_cons_succ]
  rw [contReports_getElem? _ _ _ (by simp only [contCount, List.length_drop] at hi ⊢; omega),
    List.drop_drop, Nat.zero_add, Nat.add_comm]

theorem fillReport_take (header readFrom : List UInt8) (n : Nat) (hn : n ≤ header.length) :
    (fillReport header readFrom).take n = header.take n := by
  rw [fillReport_eq, List.take_append_of_le_length hn]

theorem fillReport_getD (header readFrom : List UInt8) (i : Nat) (hi : i < header.length) :
    (fillReport header readFrom).getD i 0 = header.getD i 0 := by
  simp only [fillReport_eq, List.getD_eq_getElem?_getD, List.getElem?_append_left hi]

theorem lengthField_initHeader (n : Nat) (rest : List UInt8) :
    lengthField (initHeader n ++ rest) = n % 65536 := by
  rw [lengthField, initHeader_eq, show (0xFFFF : Nat) = 2 ^ 16 - 1 from rfl,
    Nat.and_pow_two_sub_one_eq_mod]
  simp only [List.cons_append, List.getD_cons_succ, List.getD_cons_zero, toNat_toUInt8]
  omega

theorem payloads_frameReports (m : List UInt8) :
    payloads (frameReports m) = m ++ List.replicate (fillerLength m.length) 0xee := by
  rw [frameReports, payloads, contReports_payload, fillReport_eq,
    List.drop_left' (initHeader_length m.length)]
  simp only [initHeader_length, usbReportSize, List.length_drop, Nat.reduceSub]
  rw [take_fill_drop_fill, fillerLength, contCount]
  congr 2
  omega

/-! ## The frame -/

/-- What `sendFrame` writes for a nonempty message: the reports of `frameReports m` in order,
up to the first failed `Write`. There are `1 + contCount |m|` reports of 64 bytes. The init
report carries `ff 00 00 00 c1` and `|m| mod 2^16`, and continuation report `i` carries
`ff 00 00 00` and `i mod 256`. Their payload areas are `m`, then `0xee` filler. -/
theorem sendFrame_writes_reports (write : List UInt8 → Option String) (m : List UInt8)
    (hm : 0 < m.length) :
    ((sendFrame write m = (frameReports m, none) ∧ ∀ r ∈ frameReports m, write r = none) ∨
      ∃ k r e, (frameReports m)[k]? = some r ∧ write r = some e ∧
        (∀ r' ∈ (frameReports m).take k, write r' = none) ∧
        sendFrame write m =
          ((frameReports m).take (k + 1), some ("Failed to send message: " ++ e))) ∧
    (frameReports m).length = 1 + contCount m.length ∧
    (∀ r ∈ frameReports m, r.length = usbReportSize) ∧
    (∃ init, (frameReports m)[0]? = some init ∧ init.take 5 = [0xff, 0, 0, 0, 0xc1] ∧
      lengthField init = m.length % 65536) ∧
    (∀ i < contCount m.length, ∃ r, (frameReports m)[i + 1]? = some r ∧
      r.take 4 = [0xff, 0, 0, 0] ∧ (r.getD 4 0).toNat = i % 256) ∧
    payloads (frameReports m) = m ++ List.replicate (fillerLength m.length) 0xee := by
  have hsend : sendFrame write m = writeReports write (frameReports m) := by
    simp [sendFrame, Nat.pos_iff_ne_zero.1 hm]
  refine ⟨hsend ▸ writeReports_spec write _, frameReports_length m, ?_, ?_, ?_,
    payloads_frameReports m⟩
  · rw [frameReports]
    exact List.forall_mem_cons.2
      ⟨fillReport_length _ _ (by simp [usbReportSize]), contReports_length_eq _ _⟩
  · refine ⟨_, frameReports_getElem?_zero m, ?_, ?_⟩
    · rw [fillReport_take _ _ _ (by simp)]
      rfl
    · rw [fillReport_eq, lengthField_initHeader]
  · intro i hi
    refine ⟨_, frameReports_getElem?_succ m i hi, ?_, ?_⟩
    · rw [fillReport_take _ _ _ (by simp)]
      rfl
    · rw [fillReport_getD _ _ _ (by simp)]
      exact toNat_toUInt8 i

theorem sendFrame_writes_reports_hundred : 0 < hundredBytes.length ∧
    (((sendFrame writeOk hundredBytes = (frameReports hundredBytes, none) ∧
        ∀ r ∈ frameReports hundredBytes, writeOk r = none) ∨
      ∃ k r e, (frameReports hundredBytes)[k]? = some r ∧ writeOk r = some e ∧
        (∀ r' ∈ (frameReports hundredBytes).take k, writeOk r' = none) ∧
        sendFrame writeOk hundredBytes =
          ((frameReports hundredBytes).take (k + 1), some ("Failed to send message: " ++ e))) ∧
    (frameReports hundredBytes).length = 1 + contCount hundredBytes.length ∧
    (∀ r ∈ frameReports hundredBytes, r.length = usbReportSize) ∧
    (∃ init, (frameReports hundredBytes)[0]? = some init ∧ init.take 5 = [0xff, 0, 0, 0, 0xc1] ∧
      lengthField init = hundredBytes.length % 65536) ∧
    (∀ i < contCount hundredBytes.length, ∃ r, (frameReports hundredBytes)[i + 1]? = some r ∧
      r.take 4 = [0xff, 0, 0, 0] ∧ (r.getD 4 0).toNat = i % 256) ∧
    payloads (frameReports hundredBytes) = hundredBytes ++ List.replicate (fillerLength hundredBytes.length) 0xee) :=
  have h : 0 < hundredBytes.length := by rw [hundredBytes, List.length_replicate]; decide
  ⟨h, sendFrame_writes_reports writeOk hundredBytes h⟩

/-- A message of 65536 bytes declares length 0, and its continuation reports 0 and 256 carry the
same sequence byte. -/
theorem sendFrame_long_message_wraps :
    (∃ init, (sendFrame writeOk (List.replicate 65536 0)).1[0]? = some init ∧
      lengthField init = 0) ∧
    ∃ r r', (sendFrame writeOk (List.replicate 65536 0)).1[1]? = some r ∧
      (sendFrame writeOk (List.replicate 65536 0)).1[257]? = some r' ∧ r.getD 4 0 = r'.getD 4 0 := by
  have hcount : contCount (List.replicate 65536 (0 : UInt8)).length = 1110 := by
    rw [List.length_replicate]; rfl
  rw [sendFrame_writeOk _ (by rw [List.length_replicate]; decide)]
  refine ⟨⟨_, frameReports_getElem?_zero _, ?_⟩, _, _,
    frameReports_getElem?_succ _ 0 (by omega), frameReports_getElem?_succ _ 256 (by omega), ?_⟩
  · rw [fillReport_eq, lengthField_initHeader, List.length_replicate]
  · rw [fillReport_getD _ _ _ (by simp), fillReport_getD _ _ _ (by simp)]
    rfl

end BitboxWallet.Usb

import BitboxWallet.Usb.Reads
/-! # Messages of 64 KiB or more

The init header holds the length as a `uint16`, so a message of `L ≥ 2^16` bytes declares
`L mod 2^16`. `readFrame` trusts the declared length: over a loopback it stops after the reports
that cover it, returns a strict prefix of the message, and leaves the message's later reports to
be read as the next frame.
-/

namespace BitboxWallet.Usb

theorem segments_length_of_reports {reports : List (List UInt8)}
    (h : ∀ r ∈ reports, r.length = usbReportSize) :
    (segments reports).length = 59 * reports.length := by
  induction reports with
  | nil => rfl
  | cons r reports ih =>
    rw [List.forall_mem_cons] at h
    simp only [segments_cons, List.length_append, List.length_drop, h.1, ih h.2, usbReportSize,
      List.length_cons]
    omega

theorem lt_contCount_iff {k n : Nat} : k < contCount n ↔ 57 + 59 * k < n := by
  simp only [contCount]
  omega

theorem frameReports_eq (m : List UInt8) :
    frameReports m = fillReport (initHeader m.length) m :: contReports 0 (m.drop 57) :=
  rfl

theorem loopback_frameReports_split (m : List UInt8) (c : Nat) (rest : List ReadResult) :
    loopback (frameReports m) ++ rest =
      .ok (fillReport (initHeader m.length) m) ::
        (loopback ((contReports 0 (m.drop 57)).take c) ++
          (loopback ((contReports 0 (m.drop 57)).drop c) ++ rest)) := by
  rw [frameReports_eq, loopback_cons, ← List.append_assoc, ← loopback_append, List.take_append_drop]
  rfl

theorem payloads_take (m : List UInt8) {c : Nat} (hc : 57 + 59 * c ≤ m.length) :
    (fillReport (initHeader m.length) m).drop 7 ++ segments ((contReports 0 (m.drop 57)).take c) =
      m.take (57 + 59 * c) := by
  have hlen := frameReports_length m
  rw [frameReports_eq, List.length_cons] at hlen
  have hsegs : (segments ((contReports 0 (m.drop 57)).take c)).length = 59 * c := by
    rw [segments_length_of_reports fun r hr => contReports_length_eq 0 _ r (List.mem_of_mem_take hr),
      List.length_take, Nat.min_eq_left (by simp only [contCount] at hlen; omega)]
  have hprefix : ((fillReport (initHeader m.length) m).drop 7 ++
      segments ((contReports 0 (m.drop 57)).take c)).length = 57 + 59 * c := by
    rw [List.length_append, List.length_drop, fillReport_length _ _ (by simp [usbReportSize]), hsegs]
    rfl
  have hpay : (fillReport (initHeader m.length) m).drop 7 ++
      segments ((contReports 0 (m.drop 57)).take c) ++ segments ((contReports 0 (m.drop 57)).drop c) =
        m ++ List.replicate (fillerLength m.length) 0xee := by
    simp only [segments, List.append_assoc, ← List.flatMap_append, List.take_append_drop]
    rw [← payloads_frameReports m, frameReports_eq]
    rfl
  calc _ = (m ++ List.replicate (fillerLength m.length) 0xee).take (57 + 59 * c) := by
        rw [← hpay, ← hprefix, List.take_left]
    _ = m.take (57 + 59 * c) := List.take_append_of_le_length hc

/-- A message of `2^16` bytes or more does not round trip. Its length field holds `L mod 2^16`,
so `readFrame` over the loopback stops after the reports that cover that many bytes: it returns a
strict prefix of the message, and leaves the message's later reports unread, ahead of the reads
that follow. -/
theorem readFrame_long_message (m : List UInt8) (hm : 65536 ≤ m.length) (rest : List ReadResult) :
    readFrame (loopback (frameReports m) ++ rest) =
      .ok (m.take (57 + 59 * contCount (m.length % 65536)),
        loopback ((frameReports m).drop (1 + contCount (m.length % 65536))) ++ rest) ∧
    57 + 59 * contCount (m.length % 65536) < m.length ∧
    1 + contCount (m.length % 65536) < (frameReports m).length := by
  have hD : m.length % 65536 < 65536 := Nat.mod_lt _ (by decide)
  have hc : 57 + 59 * contCount (m.length % 65536) < m.length := by
    simp only [contCount]
    omega
  have hlen := frameReports_length m
  have hcL := lt_contCount_iff.2 hc
  refine ⟨?_, hc, by omega⟩
  rw [frameReports_eq, List.length_cons] at hlen
  set c := contCount (m.length % 65536)
  set conts := contReports 0 (m.drop 57)
  have h64 : ∀ r ∈ conts.take c, r.length = usbReportSize :=
    fun r hr => contReports_length_eq 0 _ r (List.mem_of_mem_take hr)
  have hfield : lengthField (fillReport (initHeader m.length) m) = m.length % 65536 := by
    rw [fillReport_eq, lengthField_initHeader]
  have hhdr : (fillReport (initHeader m.length) m).take 5 = [0xff, 0, 0, 0, 0xc1] := by
    rw [fillReport_take _ _ _ (by simp)]
    rfl
  -- the reports before the `c`-th leave the declared length uncovered, and the `c`-th covers it
  have hshort : ∀ k < (conts.take c).length,
      57 + (segments ((conts.take c).take k)).length < lengthField (fillReport (initHeader m.length) m) := by
    intro k hk
    rw [segments_length_of_reports fun r hr => h64 r (List.mem_of_mem_take hr), List.length_take,
      Nat.min_eq_left hk.le, hfield, ← lt_contCount_iff]
    exact lt_of_lt_of_le hk (List.length_take_le _ _)
  have hdone : lengthField (fillReport (initHeader m.length) m) ≤ 57 + (segments (conts.take c)).length := by
    rw [hfield, segments_length_of_reports h64, List.length_take, Nat.min_eq_left (by omega)]
    exact Nat.not_lt.1 fun h => Nat.lt_irrefl c (lt_contCount_iff.2 h)
  rw [loopback_frameReports_split m c rest,
    readFrame_header _ _ (by simp [fillReport_length, usbReportSize]) hhdr,
    readLoop_map_ok _ _ _ (fun r hr => by rw [h64 r hr, usbReportSize]; omega) hshort,
    readLoop_done _ _ hdone, payloads_take m hc.le, frameReports_eq, show 1 + c = c + 1 by omega,
    List.drop_succ_cons]

def zeros65536 : List UInt8 := List.replicate 65536 0

theorem readFrame_long_message_zeros :
    65536 ≤ zeros65536.length ∧
    (readFrame (loopback (frameReports zeros65536) ++ []) =
      .ok (zeros65536.take (57 + 59 * contCount (zeros65536.length % 65536)),
        loopback ((frameReports zeros65536).drop (1 + contCount (zeros65536.length % 65536))) ++ []) ∧
    57 + 59 * contCount (zeros65536.length % 65536) < zeros65536.length ∧
    1 + contCount (zeros65536.length % 65536) < (frameReports zeros65536).length) :=
  have hm : 65536 ≤ zeros65536.length := (List.length_replicate 65536 0).ge
  ⟨hm, readFrame_long_message zeros65536 hm []⟩

end BitboxWallet.Usb

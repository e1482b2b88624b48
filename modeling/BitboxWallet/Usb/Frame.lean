import Mathlib.Data.List.Basic

/-! # USB framing (`devices/usb/communication.go`)

`sendFrame` cuts a message into 64-byte HID reports: an init report with a seven-byte header,
then continuation reports with a five-byte header, the last one filled up with `0xee`.
`readFrame` reads reports back until the length in the init header is covered.

The device is seen through its `Write` and `Read` calls. A `Write` may fail with a text. The
reads are the stream of results `Read` gives, one per call.
-/

namespace BitboxWallet.Usb

def usbReportSize : Nat := 64
def hwwCID : Nat := 0xff000000
def u2fHIDTypeInit : Nat := 0x80
def u2fHIDVendorFirst : Nat := u2fHIDTypeInit ||| 0x40
def hwwCMD : Nat := u2fHIDVendorFirst ||| 0x01

/-- `binary.Write` of a `uint32`, big-endian. -/
def putUint32 (x : Nat) : List UInt8 :=
  [(x / 0x1000000).toUInt8, (x / 0x10000).toUInt8, (x / 0x100).toUInt8, x.toUInt8]

/-- `binary.Write` of a `uint16`, big-endian. -/
def putUint16 (x : Nat) : List UInt8 := [(x / 0x100).toUInt8, x.toUInt8]

/-- The header of the init report: channel, command, `uint16(dataLen & 0xFFFF)`. -/
def initHeader (dataLen : Nat) : List UInt8 :=
  putUint32 hwwCID ++ [hwwCMD.toUInt8] ++ putUint16 (dataLen &&& 0xFFFF)

/-- The header of a continuation report: channel, `uint8(seq)`. -/
def contHeader (seq : Nat) : List UInt8 := putUint32 hwwCID ++ [seq.toUInt8]

@[simp] theorem initHeader_length (dataLen : Nat) : (initHeader dataLen).length = 7 := rfl

@[simp] theorem contHeader_length (seq : Nat) : (contHeader seq).length = 5 := rfl

/-! ## Writing -/

/-- The report the `send` closure writes: `header`, then `readFrom.Next(64 - len(header))`,
then `0xee` up to 64 bytes. -/
def fillReport (header readFrom : List UInt8) : List UInt8 :=
  let buf := header ++ readFrom.take (usbReportSize - header.length)
  buf ++ List.replicate (usbReportSize - buf.length) 0xee

theorem fillReport_length (header readFrom : List UInt8) (h : header.length ≤ usbReportSize) :
    (fillReport header readFrom).length = usbReportSize := by
  simp only [fillReport, List.length_append, List.length_take, List.length_replicate]
  omega

theorem fillReport_eq (header readFrom : List UInt8) :
    fillReport header readFrom = header ++
      (readFrom.take (usbReportSize - header.length) ++
        List.replicate (usbReportSize - header.length - readFrom.length) 0xee) := by
  simp only [fillReport, List.append_assoc, List.length_append, List.length_take]
  congr 3
  omega

/-- The continuation loop: `for seq := 0; readBuffer.Len() > 0; seq++`. -/
def contReports (seq : Nat) (readBuffer : List UInt8) : List (List UInt8) :=
  if 0 < readBuffer.length then
    fillReport (contHeader seq) readBuffer ::
      contReports (seq + 1) (readBuffer.drop (usbReportSize - (contHeader seq).length))
  else []
termination_by readBuffer.length
decreasing_by simp_wf; simp [contHeader, putUint32, usbReportSize]; omega

/-- Every report `sendFrame` builds for `msg`, in the order it writes them. -/
def frameReports (msg : List UInt8) : List (List UInt8) :=
  fillReport (initHeader msg.length) msg ::
    contReports 0 (msg.drop (usbReportSize - (initHeader msg.length).length))

/-- Writes the reports in order; the first failed `Write` ends the frame. Returns the reports
handed to `Write` and the error. -/
def writeReports (write : List UInt8 → Option String) :
    List (List UInt8) → List (List UInt8) × Option String
  | [] => ([], none)
  | r :: rs =>
    match write r with
    | some e => ([r], some ("Failed to send message: " ++ e))
    | none => ((r :: (writeReports write rs).1), (writeReports write rs).2)

/-- `sendFrame`: nothing for an empty message, else the reports of `frameReports`. The
`binary.Write` calls into a `bytes.Buffer` cannot fail, so their error branches are left out. -/
def sendFrame (write : List UInt8 → Option String) (msg : List UInt8) :
    List (List UInt8) × Option String :=
  if msg.length = 0 then ([], none) else writeReports write (frameReports msg)

/-- A device whose every `Write` succeeds. -/
def writeOk : List UInt8 → Option String := fun _ => none

/-! ## Reading -/

/-- One `Read` call: the bytes read, or the error it returned. -/
abbrev ReadResult := Except String (List UInt8)

/-- What `Read` gives once the device has nothing more to send. -/
def eof : String := "EOF"

/-- The loop `for idx < dataLen`: each read adds `read[5:readLen]` and `readLen - 5` to `idx`. -/
def readLoop (dataLen : Nat) : Nat → List UInt8 → List ReadResult →
    Except String (List UInt8 × List ReadResult)
  | idx, data, [] => if idx < dataLen then .error eof else .ok (data, [])
  | idx, data, r :: reads =>
    if idx < dataLen then
      match r with
      | .error e => .error e
      | .ok read =>
        if read.length < 5 then .error "expected minimum read length of 7"
        else readLoop dataLen (idx + (read.length - 5)) (data ++ read.drop 5) reads
    else .ok (data, r :: reads)

/-- `readFrame`: the payload read, and the reads left for the next call. The first read lands
in a fresh zeroed buffer, so `read[i]` for `i < 7` is `getD i 0`; `idx` starts at
`len(read) - 7`, and `len(read)` is the buffer's 64 bytes. -/
def readFrame : List ReadResult → Except String (List UInt8 × List ReadResult)
  | [] => .error eof
  | .error e :: _ => .error e
  | .ok read :: reads =>
    if read.length < 7 then .error "expected minimum read length of 7"
    else if read.getD 0 0 ≠ 0xff ∨ read.getD 1 0 ≠ 0 ∨ read.getD 2 0 ≠ 0 ∨ read.getD 3 0 ≠ 0 then
      .error "USB command ID mismatch"
    else if (read.getD 4 0).toNat ≠ hwwCMD then
      .error ("USB command frame mismatch (" ++ toString (read.getD 4 0) ++ ", expected " ++
        toString hwwCMD ++ ")")
    else
      readLoop ((read.getD 5 0).toNat * 256 + (read.getD 6 0).toNat) (usbReportSize - 7)
        (read.drop 7) reads

/-- Reports delivered unchanged, one whole report per `Read`. -/
def loopback (reports : List (List UInt8)) : List ReadResult := reports.map .ok

@[simp] theorem loopback_nil : loopback [] = [] := rfl

@[simp] theorem loopback_cons (r : List UInt8) (rs : List (List UInt8)) :
    loopback (r :: rs) = .ok r :: loopback rs := rfl

@[simp] theorem loopback_append (rs rs' : List (List UInt8)) :
    loopback (rs ++ rs') = loopback rs ++ loopback rs' := List.map_append _ _ _

end BitboxWallet.Usb

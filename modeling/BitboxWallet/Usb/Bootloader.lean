import BitboxWallet.Usb.Frame
import BitboxWallet.Bitbox.Basic
/-! # Talking to the bootloader (`SendBootloader`)

The bootloader takes one write: a zero byte, the message, and zeros up to 4098 bytes. It
answers with at least 256 bytes, over as many reads as that takes. `SendBootloader` returns what
it read, without the NUL, tab, CR and LF bytes at its end. A message over 4098 bytes panics
before anything is written.

A `Read` into the 256-byte buffer gives the bytes it read, `currentRead[:readLen]`.
-/

namespace BitboxWallet.Usb

open Bitbox

def maxSendLen : Nat := 4098
def maxReadLen : Nat := 256

/-- The buffer `SendBootloader` writes. -/
def bootloaderBuffer (msg : List UInt8) : List UInt8 :=
  0 :: msg ++ List.replicate (maxSendLen - msg.length) 0

/-- The loop `for read.Len() < maxReadLen`: each `Read` adds the bytes it read. -/
def readBootloader : List UInt8 → List ReadResult → Except String (List UInt8 × List ReadResult)
  | read, [] => if read.length < maxReadLen then .error eof else .ok (read, [])
  | read, r :: reads =>
    if read.length < maxReadLen then
      match r with
      | .error e => .error e
      | .ok bytes => readBootloader (read ++ bytes) reads
    else .ok (read, r :: reads)

/-- `bytes.TrimRight(s, cutset)`: drops the bytes of `cutset` from the end of `s`. -/
def trimRight (s cutset : List UInt8) : List UInt8 :=
  (s.reverse.dropWhile (cutset.contains ·)).reverse

/-- The cutset `"\x00\t\r\n"` of `SendBootloader`. -/
def bootloaderCutset : List UInt8 := [0x00, 0x09, 0x0d, 0x0a]

/-- `SendBootloader`: the response, and the reads after it. `errors.WithStack` keeps the text of
the error it wraps. -/
def sendBootloader (write : List UInt8 → Option String) (reads : List ReadResult)
    (msg : List UInt8) : Except Failure (List UInt8 × List ReadResult) :=
  if msg.length > maxSendLen then .error (.panic "Message too long")
  else
    match write (bootloaderBuffer msg) with
    | some err => .error (.error (.new err))
    | none =>
      match readBootloader [] reads with
      | .error err => .error (.error (.new err))
      | .ok (read, rest) => .ok (trimRight read bootloaderCutset, rest)

/-! ## The write -/

theorem bootloaderBuffer_length {msg : List UInt8} (h : msg.length ≤ maxSendLen) :
    (bootloaderBuffer msg).length = maxSendLen + 1 := by
  simp only [bootloaderBuffer, List.cons_append, List.length_cons, List.length_append,
    List.length_replicate]
  omega

/-! ## The reads -/

theorem readBootloader_of_le {read : List UInt8} (h : maxReadLen ≤ read.length)
    (reads : List ReadResult) : readBootloader read reads = .ok (read, reads) := by
  cases reads <;> simp [readBootloader, Nat.not_lt.2 h]

theorem readBootloader_loopback (read : List UInt8) (chunks : List (List UInt8))
    (rest : List ReadResult) (hshort : (read ++ chunks.dropLast.flatten).length < maxReadLen)
    (hlong : maxReadLen ≤ (read ++ chunks.flatten).length) :
    readBootloader read (loopback chunks ++ rest) = .ok (read ++ chunks.flatten, rest) := by
  induction chunks generalizing read with
  | nil => simp only [List.dropLast_nil, List.flatten_nil] at hshort hlong; omega
  | cons c cs ih =>
    have hread : read.length < maxReadLen := by
      rw [List.length_append] at hshort
      omega
    rw [loopback_cons, List.cons_append, readBootloader, if_pos hread]
    cases cs with
    | nil =>
      simp only [List.flatten_cons, List.flatten_nil, List.append_nil] at hlong ⊢
      exact readBootloader_of_le hlong _
    | cons c' cs =>
      simp only [List.dropLast_cons₂, List.flatten_cons, ← List.append_assoc] at hshort hlong ih ⊢
      exact ih (read ++ c) hshort hlong

/-! ## The trimming -/

theorem trimRight_spec (s cutset : List UInt8) :
    ∃ suffix, s = trimRight s cutset ++ suffix ∧ (∀ b ∈ suffix, b ∈ cutset) ∧
      ∀ b, (trimRight s cutset).getLast? = some b → b ∉ cutset := by
  refine ⟨(s.reverse.takeWhile (cutset.contains ·)).reverse, ?_, fun b hb => ?_, fun b hb => ?_⟩
  · rw [trimRight, ← List.reverse_append, List.takeWhile_append_dropWhile, List.reverse_reverse]
  · simpa using List.mem_takeWhile_imp (List.mem_reverse.1 hb)
  · have hstop := List.head?_dropWhile_not (cutset.contains ·) s.reverse
    rw [trimRight, List.getLast?_reverse] at hb
    rw [hb] at hstop
    simpa using hstop

/-! ## `SendBootloader` -/

/-- `SendBootloader` over a bootloader that answers in reads: a message over 4098 bytes panics
before anything is written. Any other message is written as one buffer of 4099 bytes; if that
write succeeds, the response is the bytes of the reads up to the one that brings them to 256,
without their trailing NUL, tab, CR and LF bytes, and the later reads are left. -/
theorem sendBootloader_response (write : List UInt8 → Option String) (msg : List UInt8)
    (chunks : List (List UInt8)) (rest : List ReadResult) :
    (maxSendLen < msg.length →
      sendBootloader write (loopback chunks ++ rest) msg = .error (.panic "Message too long")) ∧
    (msg.length ≤ maxSendLen → (bootloaderBuffer msg).length = maxSendLen + 1 ∧
      (write (bootloaderBuffer msg) = none →
        chunks.dropLast.flatten.length < maxReadLen → maxReadLen ≤ chunks.flatten.length →
        ∃ response suffix,
          sendBootloader write (loopback chunks ++ rest) msg = .ok (response, rest) ∧
          chunks.flatten = response ++ suffix ∧ (∀ b ∈ suffix, b ∈ bootloaderCutset) ∧
          ∀ b, response.getLast? = some b → b ∉ bootloaderCutset)) := by
  refine ⟨fun hlong => if_pos hlong, fun hmsg => ⟨bootloaderBuffer_length hmsg,
    fun hwrite hshort hlong => ?_⟩⟩
  have hread := readBootloader_loopback [] chunks rest hshort hlong
  rw [List.nil_append] at hread
  obtain ⟨suffix, hs, hsuffix, hlast⟩ := trimRight_spec chunks.flatten bootloaderCutset
  refine ⟨_, suffix, ?_, hs, hsuffix, hlast⟩
  rw [sendBootloader, if_neg (Nat.not_lt.2 hmsg), hwrite]
  simp only [hread]

def bootChunks : List (List UInt8) := [List.replicate 200 0x41, List.replicate 100 0x0a]

theorem sendBootloader_response_chunks :
    sendBootloader writeOk (loopback [] ++ []) (List.replicate 4099 0) =
      .error (.panic "Message too long") ∧
    (bootloaderBuffer [0x41]).length = maxSendLen + 1 ∧
    ∃ response suffix,
      sendBootloader writeOk (loopback bootChunks ++ []) [0x41] = .ok (response, []) ∧
      bootChunks.flatten = response ++ suffix ∧ (∀ b ∈ suffix, b ∈ bootloaderCutset) ∧
      ∀ b, response.getLast? = some b → b ∉ bootloaderCutset :=
  have hshort : bootChunks.dropLast.flatten.length < maxReadLen := by
    simp only [bootChunks, List.dropLast, List.flatten_cons, List.flatten_nil, List.append_nil,
      List.length_replicate, maxReadLen]
    decide
  have hlong : maxReadLen ≤ bootChunks.flatten.length := by
    simp only [bootChunks, List.flatten_cons, List.flatten_nil, List.append_nil, List.length_append,
      List.length_replicate, maxReadLen]
    decide
  have hsent := (sendBootloader_response writeOk [0x41] bootChunks []).2 (by decide)
  ⟨(sendBootloader_response writeOk (List.replicate 4099 0) [] []).1
    (by rw [List.length_replicate]; decide),
    hsent.1, hsent.2 rfl hshort hlong⟩

end BitboxWallet.Usb

import BitboxWallet.Usb.Reports

/-! # Reading a frame in any chunks

A `Read` may return fewer bytes than a report. `readFrame` keeps bytes `7..` of the first read
and bytes `5..` of each later one, and counts from `len(read) - 7 = 57` whatever the first read's
length was. It stops at the first later read after which that count covers the declared length,
so a short first read leaves the result short by as many bytes as the read lacked.
-/

namespace BitboxWallet.Usb

/-- The payload bytes of later reads: bytes `5..` of each. -/
def segments (later : List (List UInt8)) : List UInt8 := later.flatMap (·.drop 5)

@[simp] theorem segments_nil : segments [] = [] := rfl

@[simp] theorem segments_cons (read : List UInt8) (later : List (List UInt8)) :
    segments (read :: later) = read.drop 5 ++ segments later := rfl

theorem segments_take_length_le (later : List (List UInt8)) (k : Nat) :
    (segments (later.take k)).length ≤ (segments later).length := by
  have h := congrArg (fun l => (segments l).length) (List.take_append_drop k later)
  simp only [segments, List.flatMap_append, List.length_append] at h ⊢
  omega

/-! ## The read loop -/

theorem readLoop_map_ok {dataLen idx : Nat} (data : List UInt8) (later : List (List UInt8))
    (rest : List ReadResult) (hlen : ∀ read ∈ later, 5 ≤ read.length)
    (hshort : ∀ k < later.length, idx + (segments (later.take k)).length < dataLen) :
    readLoop dataLen idx data (loopback later ++ rest) =
      readLoop dataLen (idx + (segments later).length) (data ++ segments later) rest := by
  induction later generalizing idx data with
  | nil => simp
  | cons read later ih =>
    have hread := hlen read (List.mem_cons_self _ _)
    rw [loopback_cons, List.cons_append,
      readLoop_ok _ _ (by simpa using hshort 0 (by simp)) hread,
      ih _ (fun r hr => hlen r (List.mem_cons_of_mem _ hr))]
    · simp only [segments_cons, List.length_append, List.length_drop, List.append_assoc]
      congr 1
      omega
    · intro k hk
      have := hshort (k + 1) (by simpa using hk)
      simp only [List.take_succ_cons, segments_cons, List.length_append, List.length_drop] at this
      omega

theorem reads_split (dataLen idx : Nat) (reads : List ReadResult)
    (hlater : ∀ read, .ok read ∈ reads → 5 ≤ read.length) :
    ∃ later rest, reads = loopback later ++ rest ∧
      (∀ k < later.length, idx + (segments (later.take k)).length < dataLen) ∧
      (dataLen ≤ idx + (segments later).length ∨
        idx + (segments later).length < dataLen ∧
          (rest = [] ∨ ∃ e rest', rest = .error e :: rest')) := by
  induction reads generalizing idx with
  | nil =>
    exact ⟨[], [], rfl, by simp,
      (le_or_lt dataLen idx).imp (by simpa using ·) fun h => ⟨by simpa using h, .inl rfl⟩⟩
  | cons r reads ih =>
    by_cases hcov : dataLen ≤ idx
    · exact ⟨[], r :: reads, rfl, by simp, .inl (by simpa using hcov)⟩
    cases r with
    | error e => exact ⟨[], _, rfl, by simp, .inr ⟨by simpa using hcov, .inr ⟨e, reads, rfl⟩⟩⟩
    | ok read =>
      have hread := hlater read (List.mem_cons_self _ _)
      obtain ⟨later, rest, hreads, hshort, hend⟩ :=
        ih (idx + (read.length - 5)) (fun r hr => hlater r (List.mem_cons_of_mem _ hr))
      refine ⟨read :: later, rest, by simp [hreads], ?_, ?_⟩
      · intro k hk
        cases k with
        | zero => simpa using hcov
        | succ k =>
          have := hshort k (by simpa using hk)
          simp only [List.take_succ_cons, segments_cons, List.length_append, List.length_drop]
          omega
      · simp only [segments_cons, List.length_append, List.length_drop]
        rcases hend with h | ⟨h, hrest⟩
        · exact .inl (by omega)
        · exact .inr ⟨by omega, hrest⟩

/-! ## The first read -/

theorem readFrame_header (first : List UInt8) (reads : List ReadResult) (h7 : 7 ≤ first.length)
    (hhdr : first.take 5 = [0xff, 0, 0, 0, 0xc1]) :
    readFrame (.ok first :: reads) = readLoop (lengthField first) 57 (first.drop 7) reads := by
  have hfirst : first = [0xff, 0, 0, 0, 0xc1] ++ first.drop 5 := by
    rw [← hhdr, List.take_append_drop]
  rw [hfirst, readFrame, if_neg (by simp; omega), if_neg (by simp),
    if_neg (by simp only [List.cons_append, List.getD_cons_succ, List.getD_cons_zero]; decide)]
  rfl

theorem readFrame_loopback (first : List UInt8) (later : List (List UInt8)) (rest : List ReadResult)
    (h7 : 7 ≤ first.length) (hhdr : first.take 5 = [0xff, 0, 0, 0, 0xc1])
    (hlater : ∀ read, .ok read ∈ loopback later ++ rest → 5 ≤ read.length)
    (hshort : ∀ k < later.length, 57 + (segments (later.take k)).length < lengthField first) :
    readFrame (.ok first :: (loopback later ++ rest)) =
      readLoop (lengthField first) (57 + (segments later).length) (first.drop 7 ++ segments later)
        rest := by
  rw [readFrame_header first _ h7 hhdr,
    readLoop_map_ok _ _ _ (fun read hr => hlater read (by simp [loopback, hr])) hshort]

theorem readFrame_split (first : List UInt8) (reads : List ReadResult) (h7 : 7 ≤ first.length)
    (hhdr : first.take 5 = [0xff, 0, 0, 0, 0xc1])
    (hlater : ∀ read, .ok read ∈ reads → 5 ≤ read.length) :
    ∃ later rest, reads = loopback later ++ rest ∧
      (∀ k < later.length, 57 + (segments (later.take k)).length < lengthField first) ∧
      (lengthField first ≤ 57 + (segments later).length ∧
          readFrame (.ok first :: reads) = .ok (first.drop 7 ++ segments later, rest) ∨
        57 + (segments later).length < lengthField first ∧
          (rest = [] ∧ readFrame (.ok first :: reads) = .error eof ∨
            ∃ e rest', rest = .error e :: rest' ∧ readFrame (.ok first :: reads) = .error e)) := by
  obtain ⟨later, rest, rfl, hshort, hend⟩ := reads_split (lengthField first) 57 reads hlater
  rw [readFrame_loopback first later rest h7 hhdr hlater hshort]
  refine ⟨later, rest, rfl, hshort, ?_⟩
  rcases hend with hcov | ⟨hcov, rfl | ⟨e, rest', rfl⟩⟩
  · exact .inl ⟨hcov, readLoop_done _ _ hcov⟩
  · exact .inr ⟨hcov, .inl ⟨rfl, by simp [readLoop, hcov]⟩⟩
  · exact .inr ⟨hcov, .inr ⟨e, rest', rfl, by simp [readLoop, hcov]⟩⟩

/-! ## Every chunking -/

/-- `readFrame` over any chunking of the reads, once the first read has at least seven bytes
and the right header and each later read has at least five. It returns bytes `7..` of the first
read and bytes `5..` of the later reads up to the first after which `57` plus their count covers
the declared length `L`. It fails exactly when the reads end or one fails before that. The
result is at least `L + |first| - 64` bytes long. -/
theorem readFrame_reads_until_covered (first : List UInt8) (reads : List ReadResult)
    (h7 : 7 ≤ first.length) (hhdr : first.take 5 = [0xff, 0, 0, 0, 0xc1])
    (hlater : ∀ read, .ok read ∈ reads → 5 ≤ read.length) :
    (∀ data rest, readFrame (.ok first :: reads) = .ok (data, rest) ↔
      ∃ later, reads = loopback later ++ rest ∧ data = first.drop 7 ++ segments later ∧
        lengthField first ≤ 57 + (segments later).length ∧
        ∀ k < later.length, 57 + (segments (later.take k)).length < lengthField first) ∧
    (∀ e, readFrame (.ok first :: reads) = .error e ↔
      ∃ later, 57 + (segments later).length < lengthField first ∧
        (reads = loopback later ∧ e = eof ∨ ∃ rest, reads = loopback later ++ .error e :: rest)) ∧
    ∀ data rest, readFrame (.ok first :: reads) = .ok (data, rest) →
      lengthField first + first.length ≤ data.length + 64 := by
  obtain ⟨later, rest, hreads, hshort, hout⟩ := readFrame_split first reads h7 hhdr hlater
  have hok : ∀ data rest', readFrame (.ok first :: reads) = .ok (data, rest') →
      rest' = rest ∧ data = first.drop 7 ++ segments later ∧
        lengthField first ≤ 57 + (segments later).length := by
    intro data rest' h
    rcases hout with ⟨hcov, hr⟩ | ⟨-, ⟨-, hr⟩ | ⟨e, -, -, hr⟩⟩ <;> rw [hr] at h <;> cases h
    exact ⟨rfl, rfl, hcov⟩
  refine ⟨fun data rest' => ⟨fun h => ?_, ?_⟩, fun e => ⟨fun h => ?_, ?_⟩, fun data rest' h => ?_⟩
  · obtain ⟨rfl, rfl, hcov⟩ := hok data rest' h
    exact ⟨later, hreads, rfl, hcov, hshort⟩
  · rintro ⟨later', rfl, rfl, hcov, hshort'⟩
    rw [readFrame_loopback first later' rest' h7 hhdr hlater hshort', readLoop_done _ _ hcov]
  · rcases hout with ⟨-, hr⟩ | ⟨hcov, ⟨rfl, hr⟩ | ⟨e', rest', rfl, hr⟩⟩ <;> rw [hr] at h <;> cases h
    · exact ⟨later, hcov, .inl ⟨by simp [hreads], rfl⟩⟩
    · exact ⟨later, hcov, .inr ⟨rest', hreads⟩⟩
  · rintro ⟨later', hcov, hr⟩
    have hshort' : ∀ k < later'.length, 57 + (segments (later'.take k)).length < lengthField first :=
      fun k _ => by have := segments_take_length_le later' k; omega
    rcases hr with ⟨rfl, rfl⟩ | ⟨rest', rfl⟩
    · rw [← List.append_nil (loopback later')] at hlater ⊢
      rw [readFrame_loopback first later' [] h7 hhdr hlater hshort']
      simp [readLoop, hcov]
    · rw [readFrame_loopback first later' _ h7 hhdr hlater hshort']
      simp [readLoop, hcov]
  · obtain ⟨-, rfl, hcov⟩ := hok data rest' h
    simp only [List.length_append, List.length_drop]
    omega

def shortFirstRead : List UInt8 := [0xff, 0, 0, 0, 0xc1, 0, 100, 1, 2, 3]

def fullLaterRead : List UInt8 := List.replicate 64 0x41

theorem readFrame_reads_until_covered_short :
    readFrame [.ok shortFirstRead, .ok fullLaterRead] =
      .ok ([1, 2, 3] ++ List.replicate 59 0x41, []) ∧
    lengthField shortFirstRead = 100 ∧
    ∀ data rest, readFrame [.ok shortFirstRead, .ok fullLaterRead] = .ok (data, rest) →
      lengthField shortFirstRead + shortFirstRead.length ≤ data.length + 64 :=
  ⟨rfl, rfl, (readFrame_reads_until_covered shortFirstRead [.ok fullLaterRead] (by decide) rfl
    (by simp [fullLaterRead])).2.2⟩

/-- A seven-byte first read declaring 57 bytes is the whole frame, and it holds no byte. -/
theorem readFrame_short_first_read :
    lengthField [0xff, 0, 0, 0, 0xc1, 0, 57] = 57 ∧
      readFrame [.ok [0xff, 0, 0, 0, 0xc1, 0, 57]] = .ok ([], []) :=
  ⟨rfl, rfl⟩

end BitboxWallet.Usb

import Tftp.Proofs.Grammar

/-! # Writing back what was read

    The decoder reads a prefix of a datagram and ignores what follows it (`Packet.consumed`):
    all of a DATA datagram, the opcode and block word of an ACK, a request through the NUL that
    ends its mode (request options are dropped), an ERROR through the NUL that ends its message.
    Writing the packet it returns never fails and gives back exactly that prefix, so reading what
    was written returns the same packet again (`encode_undoes_decode`).

    Three facts carry it: Latin-1 reads each byte as the code point of the same value and writes
    that code point back as the byte (`Text.ofString_decodeLatin1_eq`); a text read up to a NUL
    holds no NUL, which is all a request text or an ERROR message needs to be written unchanged
    (`encodeRequestText_decodeLatin1`, `encodeMessage_decodeLatin1`); and a number read from a
    word fits a word (`word_wordValue`, `checkWord_wordValue`).  The encoder of drafts agrees with
    the packet encoder on the draft of every packet (`Draft.encode_ofPacket`), so the statement
    holds of both. -/

namespace Tftp

/-! ## The prefix the decoder reads -/

/-- The bytes up to and including the `n`-th NUL, or all of them when there are fewer. -/
def throughNul : Nat → List UInt8 → List UInt8
  | 0, _ => []
  | _ + 1, [] => []
  | n + 1, b :: bs => b :: if b = 0 then throughNul n bs else throughNul (n + 1) bs

/-- Bytes without a NUL and the NUL after them are taken whole, and the count goes on after. -/
theorem throughNul_append {pre : List UInt8} (h : (0 : UInt8) ∉ pre) (n : Nat)
    (rest : List UInt8) : throughNul (n + 1) (pre ++ 0 :: rest) = pre ++ 0 :: throughNul n rest := by
  induction pre with
  | nil => simp [throughNul]
  | cons b pre ih =>
    have hb : b ≠ 0 := fun hb => h (hb ▸ List.mem_cons_self)
    have hpre : (0 : UInt8) ∉ pre := fun hm => h (List.mem_cons_of_mem b hm)
    simp [throughNul, hb, ih hpre]

namespace Packet

/-- The prefix of the datagram `d` that the decoder reads for a packet of kind `op`: all of
    DATA; the opcode and the block word of ACK; a request through the second NUL after its
    opcode; an ERROR through the first NUL after its code word. -/
def consumed (op : Opcode) (d : List UInt8) : List UInt8 :=
  match op with
  | .rrq | .wrq => d.take 2 ++ throughNul 2 (d.drop 2)
  | .data => d
  | .ack => d.take 4
  | .error => d.take 4 ++ throughNul 1 (d.drop 4)

end Packet

/-! ## Fields read from bytes are written back as those bytes -/

/-- The word of a number read from a word is that word. -/
theorem word_wordValue (hi lo : UInt8) : word (wordValue hi lo) = [hi, lo] := by
  have hh := hi.toNat_lt
  have hl := lo.toNat_lt
  simp only [word, wordValue, List.cons.injEq, and_true]
  constructor
  · apply UInt8.toNat_inj.mp
    simp
    omega
  · apply UInt8.toNat_inj.mp
    simp

/-- A number read from a word passes the range check of a 16-bit field. -/
theorem checkWord_wordValue (field : String) (hi lo : UInt8) :
    checkWord field (wordValue hi lo) = .ok (wordValue hi lo) := by
  have hh := hi.toNat_lt
  have hl := lo.toNat_lt
  have hfit : 0 ≤ (wordValue hi lo : Int) ∧ (wordValue hi lo : Int) ≤ maxBlockNumber := by
    simp only [wordValue, maxBlockNumber]
    omega
  simp [checkWord, hfit]

/-- Latin-1 reads bytes as the code points of their values. -/
theorem Text.ofString_decodeLatin1_eq (bs : List UInt8) :
    Text.ofString (Text.decodeLatin1 bs) = ⟨bs.map UInt8.toNat⟩ := by
  have h := @Text.ofString_decodeLatin1 (bs.map UInt8.toNat) (by simp [UInt8.toNat_lt_size])
  simpa [List.map_map, Function.comp_def] using h

/-- A byte other than NUL is a code point other than 0. -/
theorem toNat_ne_zero_of_not_mem {bs : List UInt8} (h : (0 : UInt8) ∉ bs) {b : UInt8}
    (hb : b ∈ bs) : b.toNat ≠ 0 := fun h0 =>
  h (by rwa [show b = 0 from UInt8.toNat_inj.mp h0] at hb)

/-- A request text read from bytes without a NUL is written back as those bytes and its NUL. -/
theorem encodeRequestText_decodeLatin1 {bs : List UInt8} (h : (0 : UInt8) ∉ bs) :
    encodeRequestText (Text.decodeLatin1 bs) = .ok (bs ++ [0]) := by
  rw [Text.ofString_decodeLatin1_eq]
  refine encodeRequestText_eq_ok.mpr ⟨fun n hn => ?_, by simp [List.map_map, Function.comp_def]⟩
  obtain ⟨b, hb, rfl⟩ := List.mem_map.mp hn
  exact ⟨toNat_ne_zero_of_not_mem h hb, b.toNat_lt⟩

/-- An ERROR message read from bytes without a NUL is written back as those bytes and its NUL:
    it has no NUL to turn into a space and no code point beyond Latin-1. -/
theorem encodeMessage_decodeLatin1 {bs : List UInt8} (h : (0 : UInt8) ∉ bs) :
    encodeMessage (Text.decodeLatin1 bs) = bs ++ [0] := by
  rw [encodeMessage_eq, Text.ofString_decodeLatin1_eq]
  simp only [Text.readBack, List.map_map]
  conv => rhs; rw [← List.map_id bs]
  refine congrArg (· ++ [0]) (List.map_congr_left fun b hb => ?_)
  simp [toNat_ne_zero_of_not_mem h hb, b.toNat_lt]

/-- A number that is an integer passes the draft encoder's checks of a 16-bit field exactly as
    it passes the packet encoder's, with the same error when it does not fit. -/
theorem checkField_bind_int (field : String) (n : Int) (k : Nat → Except EncodeError (List UInt8)) :
    (Draft.checkField field (.int n) >>= fun v => Draft.wholeField v >>= k) =
      (checkWord field n >>= k) := by
  rw [checkField_int]
  by_cases hn : FitsWord n
  · have hn' : 0 ≤ n ∧ n ≤ (maxBlockNumber : Int) := hn
    simp [hn, hn', checkWord, bind, Except.bind, Draft.wholeField]
  · have hn' : ¬ (0 ≤ n ∧ n ≤ (maxBlockNumber : Int)) := hn
    simp [hn, hn', checkWord, bind, Except.bind, Literal.value]

/-- The encoder of drafts writes the draft of a packet as the packet encoder writes the packet. -/
theorem Draft.encode_ofPacket (p : Packet) : (Draft.ofPacket p).encode = p.encode := by
  cases p with
  | rrq f m => rfl
  | wrq f m => rfl
  | data b payload =>
    -- the payload is checked between the range check and the check for an integer
    simp only [Draft.ofPacket, Draft.encode, Packet.encode, checkField_int, checkWord]
    by_cases hb : FitsWord b
    · have hb' : 0 ≤ b ∧ b ≤ (maxBlockNumber : Int) := hb
      simp [hb, hb', bind, Except.bind, Draft.wholeField]
    · have hb' : ¬ (0 ≤ b ∧ b ≤ (maxBlockNumber : Int)) := hb
      simp [hb, hb', bind, Except.bind, Literal.value]
  | ack b => exact checkField_bind_int _ b _
  | error c message => exact checkField_bind_int _ c _

/-! ## Each reading of the grammar written back -/

namespace Packet.Reads

variable {d : List UInt8} {p : Packet}

/-- The packet the grammar reads writes back exactly the prefix it was read from. -/
theorem encode_eq (h : Reads d p) : p.encode = .ok (consumed p.opcode d) := by
  cases h with
  | @rrq hi lo f m rest hop hf hm =>
    have hword : word Opcode.rrq.code = [hi, lo] := by rw [← word_wordValue, hop]; rfl
    simp [encode, consumed, opcode, encodeRequestText_decodeLatin1 hf,
      encodeRequestText_decodeLatin1 hm, bind, Except.bind, pure, Except.pure, hword,
      throughNul_append hf, throughNul_append hm, throughNul]
  | @wrq hi lo f m rest hop hf hm =>
    have hword : word Opcode.wrq.code = [hi, lo] := by rw [← word_wordValue, hop]; rfl
    simp [encode, consumed, opcode, encodeRequestText_decodeLatin1 hf,
      encodeRequestText_decodeLatin1 hm, bind, Except.bind, pure, Except.pure, hword,
      throughNul_append hf, throughNul_append hm, throughNul]
  | @data hi lo b₁ b₂ payload hop hlen =>
    have hword : word Opcode.data.code = [hi, lo] := by rw [← word_wordValue, hop]; rfl
    have hfit : ¬ payload.length > blockSize := Nat.not_lt.mpr hlen
    simp [encode, consumed, opcode, checkWord_wordValue, word_wordValue, hword, hfit, bind,
      Except.bind, pure, Except.pure]
  | @ack hi lo b₁ b₂ rest hop =>
    have hword : word Opcode.ack.code = [hi, lo] := by rw [← word_wordValue, hop]; rfl
    simp [encode, consumed, opcode, checkWord_wordValue, word_wordValue, hword, bind,
      Except.bind, pure, Except.pure]
  | @error hi lo c₁ c₂ text rest hop ht =>
    have hword : word Opcode.error.code = [hi, lo] := by rw [← word_wordValue, hop]; rfl
    simp [encode, consumed, opcode, checkWord_wordValue, word_wordValue, hword,
      encodeMessage_decodeLatin1 ht, throughNul_append ht, throughNul, bind, Except.bind, pure,
      Except.pure]

/-- The prefix the grammar reads a packet from reads as the same packet: what follows it never
    took part in the reading. -/
theorem consumed_reads (h : Reads d p) : Reads (consumed p.opcode d) p := by
  cases h with
  | rrq rest hop hf hm =>
    simpa [consumed, opcode, throughNul_append hf, throughNul_append hm, throughNul] using
      Reads.rrq [] hop hf hm
  | wrq rest hop hf hm =>
    simpa [consumed, opcode, throughNul_append hf, throughNul_append hm, throughNul] using
      Reads.wrq [] hop hf hm
  | data hop hlen => exact .data hop hlen
  | ack rest hop => exact .ack [] hop
  | error rest hop ht =>
    simpa [consumed, opcode, throughNul_append ht, throughNul] using Reads.error [] hop ht

/-- What the grammar reads a packet from is a prefix of the datagram. -/
theorem consumed_prefix (h : Reads d p) : consumed p.opcode d <+: d := by
  cases h with
  | rrq rest hop hf hm =>
    simp [consumed, opcode, throughNul_append hf, throughNul_append hm, throughNul]
  | wrq rest hop hf hm =>
    simp [consumed, opcode, throughNul_append hf, throughNul_append hm, throughNul]
  | data hop hlen => exact List.prefix_refl _
  | ack rest hop => exact List.take_prefix 4 _
  | error rest hop ht => simp [consumed, opcode, throughNul_append ht, throughNul]

end Packet.Reads

/-! ## Writing back any datagram the decoder reads -/

/-- **Encoding undoes decoding on what decoding returns.**  For every datagram `d` from which the
    decoder reads a packet `p`, writing `p` (as a packet, or as the draft a caller would build of
    it) does not fail and gives the prefix of `d` that the decoder read: `d` itself for DATA, its
    first four bytes for ACK, `d` through the second NUL after the opcode for a request, and `d`
    through the first NUL after the code word for ERROR.  Reading that prefix gives `p` again. -/
theorem encode_undoes_decode {d : List UInt8} {p : Packet} (h : Packet.decode d = .ok p) :
    p.encode = .ok (Packet.consumed p.opcode d) ∧
      (Draft.ofPacket p).encode = .ok (Packet.consumed p.opcode d) ∧
      Packet.consumed p.opcode d <+: d ∧
      Packet.decode (Packet.consumed p.opcode d) = .ok p := by
  have hreads := Packet.decode_sound h
  have henc := hreads.encode_eq
  exact ⟨henc, (Draft.encode_ofPacket p).trans henc, hreads.consumed_prefix,
    Packet.decode_complete hreads.consumed_reads⟩

/-- A read request with an option after its mode is written back without the option. -/
theorem reencode_drops_request_option :
    Packet.decode [0, 1, 102, 0, 111, 0, 120, 0] = .ok (.rrq "f" "o") ∧
      (Packet.rrq "f" "o").encode = .ok [0, 1, 102, 0, 111, 0] := by
  have hdec : Packet.decode [0, 1, 102, 0, 111, 0, 120, 0] = .ok (.rrq "f" "o") := by
    rw [show "f" = Text.decodeLatin1 [102] by decide, show "o" = Text.decodeLatin1 [111] by decide]
    exact Packet.decode_complete
      (@Packet.Reads.rrq 0 1 [102] [111] [120, 0] (by decide) (by decide) (by decide))
  exact ⟨hdec, (encode_undoes_decode hdec).1⟩

end Tftp

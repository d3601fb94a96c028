import Tftp.Packet.Decode
import Tftp.Packet.Draft

/-! # Writing a packet and reading it back

    A caller hands the encoder a packet whose numbers are integers and whose texts are texts
    (`Draft.Typed`).  The encoder writes it exactly when every field fits the wire
    (`Draft.Fits`): request texts without NUL and within Latin-1, 16-bit numbers, and at most
    a block of payload.  Otherwise it refuses with a value error, which is a Unicode encoding
    error when the first request text that does not fit holds characters beyond Latin-1 but no
    NUL.  Whatever it writes, the decoder reads back as the same packet, except that an ERROR
    message comes back with a space for each NUL and a question mark for each code point
    beyond Latin-1 (`Text.readBack`).

    The route:

    * Latin-1 writes a text exactly when all its code points are below 256, and reading the
      bytes back gives the text again (`encodeLatin1_eq_ok`, `ofString_decodeLatin1`);
    * a NUL-free text followed by a NUL splits off whole (`splitText_append`);
    * a 16-bit word reads back as its number (`wordValue_word`);
    * each of the five kinds then round-trips field by field. -/

namespace Tftp

/-! ## Latin-1 and request texts -/

namespace Text

/-- A request text fits the wire: no NUL, and every code point within Latin-1. -/
def FitsRequest (t : Text) : Prop := ∀ n ∈ t.points, n ≠ 0 ∧ n < 256

instance : DecidablePred FitsRequest :=
  fun t => inferInstanceAs (Decidable (∀ n ∈ t.points, n ≠ 0 ∧ n < 256))

/-- An ERROR message as the wire gives it back: a NUL is read as a space and a code point
    beyond Latin-1 as a question mark. -/
def readBack (t : Text) : Text :=
  ⟨t.points.map fun n => if n = 0 then 32 else if n < 256 then n else 63⟩

theorem firstUnwritable_eq_none_iff (ps : List Nat) (i : Nat) :
    firstUnwritable ps i = none ↔ ∀ n ∈ ps, n < 256 := by
  induction ps generalizing i with
  | nil => simp [firstUnwritable]
  | cons n rest ih =>
      unfold firstUnwritable
      by_cases hn : n < 256
      · simp [hn, ih]
      · simp [hn]

/-- Latin-1 writes a text exactly when every code point is below 256, one byte each. -/
theorem encodeLatin1_eq_ok {t : Text} {bytes : List UInt8} :
    t.encodeLatin1 = .ok bytes ↔ (∀ n ∈ t.points, n < 256) ∧ bytes = t.points.map Nat.toUInt8 := by
  unfold encodeLatin1
  cases h : firstUnwritable t.points 0 with
  | none =>
      have hall := (firstUnwritable_eq_none_iff t.points 0).mp h
      simp only [Except.ok.injEq]
      exact ⟨fun hb => ⟨hall, hb.symm⟩, fun ⟨_, hb⟩ => hb.symm⟩
  | some run =>
      have hsome : ¬ ∀ n ∈ t.points, n < 256 := by
        rw [← firstUnwritable_eq_none_iff t.points 0, h]
        simp
      simp only [reduceCtorEq, false_iff, not_and]
      exact fun hall => absurd hall hsome

/-- A code point below 256 survives the trip through its byte and back. -/
theorem toNat_ofNat_toUInt8 {n : Nat} (h : n < 256) : (Char.ofNat n.toUInt8.toNat).toNat = n := by
  have hmod : n.toUInt8.toNat = n := by simp [Nat.mod_eq_of_lt h]
  have hvalid : n.isValidChar := Or.inl (by omega)
  rw [hmod, Char.ofNat, dif_pos hvalid]
  rfl

/-- A message read back fits a request text: no NUL, and nothing beyond Latin-1. -/
theorem readBack_fits (t : Text) : t.readBack.FitsRequest := by
  intro n hn
  obtain ⟨m, -, rfl⟩ := List.mem_map.mp hn
  split
  · decide
  · split <;> omega

/-- Bytes of Latin-1 code points read back as the code points themselves. -/
theorem ofString_decodeLatin1 {ps : List Nat} (h : ∀ n ∈ ps, n < 256) :
    ofString (decodeLatin1 (ps.map Nat.toUInt8)) = ⟨ps⟩ := by
  simp only [ofString, decodeLatin1, String.toList_ofList, List.map_map, mk.injEq]
  conv => rhs; rw [← List.map_id ps]
  exact List.map_congr_left fun n hn => toNat_ofNat_toUInt8 (h n hn)

end Text

/-- The bytes before a NUL, followed by it, split off whole. -/
theorem splitText_append {bs : List UInt8} (h : (0 : UInt8) ∉ bs) (rest : List UInt8) :
    splitText (bs ++ 0 :: rest) = .ok (Text.decodeLatin1 bs, rest) := by
  have hidx : (bs ++ 0 :: rest).idxOf? 0 = some bs.length := by
    induction bs with
    | nil => simp [List.idxOf?_cons]
    | cons b bs ih =>
        have hb : b ≠ 0 := fun hb => h (hb ▸ List.mem_cons_self)
        have hbs : (0 : UInt8) ∉ bs := fun hm => h (List.mem_cons_of_mem b hm)
        simp [List.idxOf?_cons, hb, ih hbs]
  simp [splitText, hidx, List.take_left']

/-- A request text is written, with its closing NUL, exactly when it fits the wire. -/
theorem encodeRequestText_eq_ok {t : Text} {bytes : List UInt8} :
    encodeRequestText t = .ok bytes ↔ t.FitsRequest ∧ bytes = t.points.map Nat.toUInt8 ++ [0] := by
  unfold encodeRequestText Text.FitsRequest
  by_cases hnul : t.contains '\x00' = true
  · have h0 : (0 : Nat) ∈ t.points := by simpa [Text.contains] using hnul
    simp only [hnul, if_true, reduceCtorEq, false_iff, not_and]
    exact fun hall => absurd rfl (hall 0 h0).1
  · have h0 : (0 : Nat) ∉ t.points := by simpa [Text.contains] using hnul
    simp only [hnul, Bool.false_eq_true, if_false]
    cases henc : t.encodeLatin1 with
    | error run =>
        have hnot : ¬ ∀ n ∈ t.points, n < 256 := fun hall =>
          absurd (Text.encodeLatin1_eq_ok.mpr ⟨hall, rfl⟩) (by rw [henc]; simp)
        simp only [reduceCtorEq, false_iff, not_and]
        exact fun hall => absurd (fun n hn => (hall n hn).2) hnot
    | ok b =>
        obtain ⟨hall, rfl⟩ := Text.encodeLatin1_eq_ok.mp henc
        simp only [Except.ok.injEq]
        exact ⟨fun hb => ⟨fun n hn => ⟨fun hz => h0 (hz ▸ hn), hall n hn⟩, hb.symm⟩,
          fun ⟨_, hb⟩ => hb.symm⟩

/-- A request text that does not fit is refused with a value error; it is a Unicode encoding
    error exactly when the text holds no NUL, which is checked first. -/
theorem encodeRequestText_error {t : Text} {e : EncodeError}
    (h : encodeRequestText t = .error e) :
    e.failure.isValueError = true ∧
      (e.failure.name = "UnicodeEncodeError" ↔ (0 : Nat) ∉ t.points) := by
  unfold encodeRequestText at h
  by_cases hnul : t.contains '\x00' = true
  · have h0 : (0 : Nat) ∈ t.points := by simpa [Text.contains] using hnul
    simp only [hnul, if_true, Except.error.injEq] at h
    subst h
    simp [EncodeError.failure, Failure.ofHost, Failure.isValueError, Failure.name, HostKind.name, h0]
  · have h0 : (0 : Nat) ∉ t.points := by simpa [Text.contains] using hnul
    simp only [hnul, Bool.false_eq_true, if_false] at h
    cases henc : t.encodeLatin1 with
    | error run =>
        rw [henc] at h
        simp only [Except.error.injEq] at h
        subst h
        simp [EncodeError.failure, Failure.ofHost, Failure.isValueError, Failure.name,
          HostKind.name, h0]
    | ok b => rw [henc] at h; cases h

/-- An ERROR message is written as its read-back form, closed by a NUL. -/
theorem encodeMessage_eq (t : Text) :
    encodeMessage t = t.readBack.points.map Nat.toUInt8 ++ [0] := by
  simp only [encodeMessage, Text.encodeLatin1Lossy, Text.readBack, List.map_map]
  congr 1
  apply List.map_congr_left
  intro n _
  by_cases h0 : n = 0
  · subst h0; rfl
  · by_cases hlt : n < 256
    · simp [h0, hlt, Text.latin1Byte?]
    · simp [h0, hlt, Text.latin1Byte?]

/-- The bytes of a text that fits hold no NUL. -/
theorem zero_not_mem_bytes {t : Text} (h : t.FitsRequest) :
    (0 : UInt8) ∉ t.points.map Nat.toUInt8 := by
  intro hz
  obtain ⟨n, hn, hn0⟩ := List.mem_map.mp hz
  have ⟨hne, hlt⟩ := h n hn
  have : n.toUInt8.toNat = n := by simp [Nat.mod_eq_of_lt hlt]
  rw [hn0] at this
  exact hne (by simpa using this.symm)

/-! ## Numbers -/

/-- A 16-bit number: an integer within 0..65535. -/
def FitsWord (n : Int) : Prop := 0 ≤ n ∧ n ≤ maxBlockNumber

instance : DecidablePred FitsWord := fun n => inferInstanceAs (Decidable (0 ≤ n ∧ n ≤ _))

/-- A word reads back as the number it was written from. -/
theorem wordValue_word {n : Nat} (h : n < 65536) :
    wordValue (n / 256).toUInt8 (n % 256).toUInt8 = n := by
  simp only [wordValue, Nat.toUInt8, UInt8.toNat_ofNat']
  omega

end Tftp

namespace Tftp

/-! ## Datagrams that read back -/

/-- Two texts that fit, each closed by a NUL, read back as a request of those texts. -/
theorem decodeRequest_texts {f m : Text} (hf : f.FitsRequest) (hm : m.FitsRequest)
    (make : String → String → Packet) :
    Packet.decodeRequest make (f.points.map Nat.toUInt8 ++ [0] ++ (m.points.map Nat.toUInt8 ++ [0])) =
      .ok (make (Text.decodeLatin1 (f.points.map Nat.toUInt8))
        (Text.decodeLatin1 (m.points.map Nat.toUInt8))) := by
  have hf0 := zero_not_mem_bytes hf
  have hm0 := zero_not_mem_bytes hm
  simp only [Packet.decodeRequest, List.append_assoc, List.singleton_append]
  rw [splitText_append hf0]
  simp only [bind, Except.bind]
  rw [splitText_append hm0]
  rfl

/-- The bytes of a text that fits read back as that text. -/
theorem ofString_decodeLatin1_of_fits {t : Text} (h : t.FitsRequest) :
    Text.ofString (Text.decodeLatin1 (t.points.map Nat.toUInt8)) = t :=
  Text.ofString_decodeLatin1 fun n hn => (h n hn).2

/-- The two texts of a request are written when both fit, the file name first. -/
theorem requestBytes_eq_ok {f m : Text} {code : Nat} {bytes : List UInt8} :
    (do let a ← encodeRequestText f; let b ← encodeRequestText m; pure (word code ++ a ++ b) :
        Except EncodeError (List UInt8)) = .ok bytes ↔
      f.FitsRequest ∧ m.FitsRequest ∧
        bytes = word code ++ (f.points.map Nat.toUInt8 ++ [0]) ++ (m.points.map Nat.toUInt8 ++ [0]) := by
  cases hf : encodeRequestText f with
  | error e =>
      have hnf : ¬ f.FitsRequest := fun hfit =>
        absurd (encodeRequestText_eq_ok.mpr ⟨hfit, rfl⟩) (by rw [hf]; simp)
      simp [bind, Except.bind, hnf]
  | ok a =>
      obtain ⟨hfit, rfl⟩ := encodeRequestText_eq_ok.mp hf
      cases hm : encodeRequestText m with
      | error e =>
          have hnm : ¬ m.FitsRequest := fun hfit =>
            absurd (encodeRequestText_eq_ok.mpr ⟨hfit, rfl⟩) (by rw [hm]; simp)
          simp [bind, Except.bind, hnm]
      | ok b =>
          obtain ⟨hmfit, rfl⟩ := encodeRequestText_eq_ok.mp hm
          simp only [bind, Except.bind, pure, Except.pure, Except.ok.injEq]
          exact ⟨fun hb => ⟨hfit, hmfit, hb.symm⟩, fun h => h.2.2.symm⟩

/-! ## Drafts with the types of a packet -/

namespace Draft

/-- A draft whose fields have the types of a packet: integers for its numbers, texts for its
    texts, bytes for its payload. -/
inductive Typed : Draft → Prop
  | rrq (filename mode : Text) : Typed (.rrq (.str filename) (.str mode))
  | wrq (filename mode : Text) : Typed (.wrq (.str filename) (.str mode))
  | data (block : Int) (payload : List UInt8) : Typed (.data (.int block) payload)
  | ack (block : Int) : Typed (.ack (.int block))
  | error (code : Int) (message : Text) : Typed (.error (.int code) (.str message))

/-- Every field of the draft can be written: request texts fit, numbers fit 16 bits, and a
    payload fits a block.  An ERROR message always can. -/
def Fits : Draft → Prop
  | .rrq (.str f) (.str m) | .wrq (.str f) (.str m) => f.FitsRequest ∧ m.FitsRequest
  | .data (.int b) payload => FitsWord b ∧ payload.length ≤ blockSize
  | .ack (.int b) | .error (.int b) (.str _) => FitsWord b
  | _ => False

/-- The first text of a request that does not fit, the file name before the mode. -/
def unfitText? : Draft → Option Text
  | .rrq (.str f) (.str m) | .wrq (.str f) (.str m) =>
    if f.FitsRequest then (if m.FitsRequest then none else some m) else some f
  | _ => none

/-- The draft as the wire gives it back: an ERROR message is read back, all else is kept. -/
def readBack : Draft → Draft
  | .error c (.str t) => .error c (.str t.readBack)
  | d => d

end Draft

/-- A request of two texts: written when both fit, refused with a value error naming the first
    that does not, and read back as the same two texts. -/
theorem request_round_trip (f m : Text) (code : Nat) (make : String → String → Packet)
    (hdec : ∀ body, Packet.decode (word code ++ body) = Packet.decodeRequest make body)
    (enc : Except EncodeError (List UInt8))
    (henc : enc = do let a ← encodeRequestText f; let b ← encodeRequestText m; pure (word code ++ a ++ b)) :
    ((∃ bytes, enc = .ok bytes) ↔ f.FitsRequest ∧ m.FitsRequest) ∧
    (∀ e, enc = .error e → e.failure.isValueError = true ∧
      (e.failure.name = "UnicodeEncodeError" ↔ ∃ t,
        (if f.FitsRequest then (if m.FitsRequest then none else some m) else some f) = some t ∧
          (0 : Nat) ∉ t.points)) ∧
    (∀ bytes, enc = .ok bytes →
      ∃ s t, Packet.decode bytes = .ok (make s t) ∧ Text.ofString s = f ∧ Text.ofString t = m) := by
  subst henc
  refine ⟨⟨fun ⟨_, h⟩ => ?_, fun ⟨hf, hm⟩ => ⟨_, requestBytes_eq_ok.mpr ⟨hf, hm, rfl⟩⟩⟩, ?_, ?_⟩
  · exact ⟨(requestBytes_eq_ok.mp h).1, (requestBytes_eq_ok.mp h).2.1⟩
  · intro e h
    cases hf : encodeRequestText f with
    | error ef =>
        have hnf : ¬ f.FitsRequest := fun hfit =>
          absurd (encodeRequestText_eq_ok.mpr ⟨hfit, rfl⟩) (by rw [hf]; simp)
        rw [hf] at h
        cases h
        simpa [hnf] using encodeRequestText_error hf
    | ok a =>
        have hfit := (encodeRequestText_eq_ok.mp hf).1
        rw [hf] at h
        cases hm : encodeRequestText m with
        | error em =>
            have hnm : ¬ m.FitsRequest := fun hfit =>
              absurd (encodeRequestText_eq_ok.mpr ⟨hfit, rfl⟩) (by rw [hm]; simp)
            rw [hm] at h
            cases h
            simpa [hfit, hnm] using encodeRequestText_error hm
        | ok b => rw [hm] at h; cases h
  · intro bytes h
    obtain ⟨hf, hm, rfl⟩ := requestBytes_eq_ok.mp h
    refine ⟨_, _, ?_, ofString_decodeLatin1_of_fits hf, ofString_decodeLatin1_of_fits hm⟩
    rw [List.append_assoc, hdec]
    exact decodeRequest_texts hf hm make

/-- The block number of a DATA or ACK draft, and an ERROR code, pass the range check exactly
    when they fit 16 bits. -/
theorem checkField_int (field : String) (n : Int) :
    Draft.checkField field (.int n) =
      if FitsWord n then .ok (.int n) else .error (.outOfRange field (Literal.value (.int n))) := by
  by_cases h : FitsWord n
  · have h' : decide (0 ≤ n ∧ n ≤ (maxBlockNumber : Int)) = true := by simpa [FitsWord] using h
    simp [Draft.checkField, Value.toNumber?, h, h']
  · have h' : decide (0 ≤ n ∧ n ≤ (maxBlockNumber : Int)) = false := by simpa [FitsWord] using h
    simp [Draft.checkField, Value.toNumber?, h, h']

theorem outOfRange_isValueError (field shown : String) :
    (EncodeError.outOfRange field shown).failure.isValueError = true ∧
      (EncodeError.outOfRange field shown).failure.name = "ValueError" := by
  simp [EncodeError.failure, Failure.ofHost, Failure.isValueError, Failure.name, HostKind.name]

/-- A DATA draft is written when its block number and payload fit, and reads back whole. -/
theorem data_round_trip (b : Int) (payload : List UInt8) :
    ((∃ bytes, (Draft.data (.int b) payload).encode = .ok bytes) ↔
      FitsWord b ∧ payload.length ≤ blockSize) ∧
    (∀ e, (Draft.data (.int b) payload).encode = .error e →
      e.failure.isValueError = true ∧ e.failure.name = "ValueError") ∧
    (∀ bytes, (Draft.data (.int b) payload).encode = .ok bytes →
      Packet.decode bytes = .ok (.data b payload)) := by
  have henc : (Draft.data (.int b) payload).encode =
      if FitsWord b then
        (if payload.length > blockSize then .error (.oversized payload.length)
         else .ok (word Opcode.data.code ++ word b.toNat ++ payload))
      else .error (.outOfRange "block number" (Literal.value (.int b))) := by
    simp only [Draft.encode, checkField_int]
    by_cases hb : FitsWord b <;> by_cases hp : payload.length > blockSize <;>
      simp [hb, hp, bind, Except.bind, pure, Except.pure, throw, throwThe, MonadExceptOf.throw,
        Draft.wholeField]
  rw [henc]
  by_cases hb : FitsWord b
  · by_cases hp : payload.length > blockSize
    · -- the payload overflows a block
      rw [if_pos hb, if_pos hp]
      refine ⟨⟨?_, ?_⟩, ?_, ?_⟩
      · rintro ⟨_, h⟩; cases h
      · intro h; omega
      · intro e h
        cases h
        simp [EncodeError.failure, Failure.ofHost, Failure.isValueError, Failure.name,
          HostKind.name]
      · intro _ h; cases h
    · rw [if_pos hb, if_neg hp]
      refine ⟨⟨fun _ => ⟨hb, by omega⟩, fun _ => ⟨_, rfl⟩⟩, ?_, ?_⟩
      · intro _ h; cases h
      · intro bytes h
        cases h
        have hlt : b.toNat < 65536 := by
          have := hb.2; simp [maxBlockNumber] at this; omega
        simp only [word, Opcode.code, List.cons_append, List.nil_append, Packet.decode]
        rw [wordValue_word hlt, if_neg hp]
        simp [wordValue, Opcode.ofCode?, Int.toNat_of_nonneg hb.1]
  · -- the block number is out of range
    rw [if_neg hb]
    refine ⟨⟨?_, fun h => absurd h.1 hb⟩, ?_, ?_⟩
    · rintro ⟨_, h⟩; cases h
    · intro e h
      cases h
      exact outOfRange_isValueError _ _
    · intro _ h; cases h

/-- An ACK draft is written when its block number fits, and reads back whole. -/
theorem ack_round_trip (b : Int) :
    ((∃ bytes, (Draft.ack (.int b)).encode = .ok bytes) ↔ FitsWord b) ∧
    (∀ e, (Draft.ack (.int b)).encode = .error e →
      e.failure.isValueError = true ∧ e.failure.name = "ValueError") ∧
    (∀ bytes, (Draft.ack (.int b)).encode = .ok bytes → Packet.decode bytes = .ok (.ack b)) := by
  have henc : (Draft.ack (.int b)).encode =
      if FitsWord b then .ok (word Opcode.ack.code ++ word b.toNat)
      else .error (.outOfRange "block number" (Literal.value (.int b))) := by
    simp only [Draft.encode, checkField_int]
    by_cases hb : FitsWord b <;> simp [hb, bind, Except.bind, pure, Except.pure, Draft.wholeField]
  rw [henc]
  by_cases hb : FitsWord b
  · rw [if_pos hb]
    refine ⟨⟨fun _ => hb, fun _ => ⟨_, rfl⟩⟩, ?_, ?_⟩
    · intro _ h; cases h
    · intro bytes h
      cases h
      have hlt : b.toNat < 65536 := by
        have := hb.2; simp [maxBlockNumber] at this; omega
      simp only [word, Opcode.code, List.cons_append, List.nil_append, Packet.decode]
      rw [wordValue_word hlt]
      simp [wordValue, Opcode.ofCode?, Int.toNat_of_nonneg hb.1]
  · rw [if_neg hb]
    refine ⟨⟨?_, fun h => absurd h hb⟩, ?_, ?_⟩
    · rintro ⟨_, h⟩; cases h
    · intro e h
      cases h
      exact outOfRange_isValueError _ _
    · intro _ h; cases h

/-- An ERROR draft is written when its code fits, whatever its message, and reads back with
    the message as the wire gives it back. -/
theorem error_round_trip (c : Int) (t : Text) :
    ((∃ bytes, (Draft.error (.int c) (.str t)).encode = .ok bytes) ↔ FitsWord c) ∧
    (∀ e, (Draft.error (.int c) (.str t)).encode = .error e →
      e.failure.isValueError = true ∧ e.failure.name = "ValueError") ∧
    (∀ bytes, (Draft.error (.int c) (.str t)).encode = .ok bytes →
      ∃ m, Packet.decode bytes = .ok (.error c m) ∧ Text.ofString m = t.readBack) := by
  have henc : (Draft.error (.int c) (.str t)).encode =
      if FitsWord c then .ok (word Opcode.error.code ++ word c.toNat ++ encodeMessage t)
      else .error (.outOfRange "error code" (Literal.value (.int c))) := by
    simp only [Draft.encode, checkField_int]
    by_cases hc : FitsWord c <;> simp [hc, bind, Except.bind, pure, Except.pure, Draft.wholeField]
  rw [henc]
  by_cases hc : FitsWord c
  · rw [if_pos hc]
    refine ⟨⟨fun _ => hc, fun _ => ⟨_, rfl⟩⟩, ?_, ?_⟩
    · intro _ h; cases h
    · intro bytes h
      cases h
      have hlt : c.toNat < 65536 := by
        have := hc.2; simp [maxBlockNumber] at this; omega
      have hfit := Text.readBack_fits t
      -- the message bytes end in their NUL, so the text after the code is never empty
      obtain ⟨x, xs, hx⟩ : ∃ x xs, t.readBack.points.map Nat.toUInt8 ++ [0] = x :: xs := by
        cases t.readBack.points.map Nat.toUInt8 <;> simp
      refine ⟨_, ?_, ofString_decodeLatin1_of_fits hfit⟩
      rw [encodeMessage_eq, show word Opcode.error.code = [0, 5] from by decide, hx]
      simp only [word, List.cons_append, List.nil_append, Packet.decode, wordValue_word hlt]
      simp only [show wordValue 0 5 = 5 from rfl, Opcode.ofCode?]
      rw [← hx, splitText_append (zero_not_mem_bytes hfit)]
      simp [bind, Except.bind, pure, Except.pure, Int.toNat_of_nonneg hc.1]
  · rw [if_neg hc]
    refine ⟨⟨?_, fun h => absurd h hc⟩, ?_, ?_⟩
    · rintro ⟨_, h⟩; cases h
    · intro e h
      cases h
      exact outOfRange_isValueError _ _
    · intro _ h; cases h

/-! ## The round trip over the whole format -/

/-- **Writing a packet and reading it back.**  A value that is no packet is refused with a type
    error.  A draft of one of the five kinds, with integers for its numbers and texts for its
    texts, is written exactly when every field fits the wire; otherwise it is refused with a
    value error, which is a Unicode encoding error exactly when the first request text that
    does not fit holds no NUL.  What is written decodes to the same packet, with an ERROR
    message as the wire gives it back. -/
theorem encode_decode_round_trip :
    (∀ v : Value, ∃ e, (Draft.other v).encode = .error e ∧ e.failure.name = "TypeError") ∧
    ∀ d : Draft, d.Typed →
      ((∃ bytes, d.encode = .ok bytes) ↔ d.Fits) ∧
      (∀ e, d.encode = .error e → e.failure.isValueError = true ∧
        (e.failure.name = "UnicodeEncodeError" ↔
          ∃ t, d.unfitText? = some t ∧ (0 : Nat) ∉ t.points)) ∧
      (∀ bytes, d.encode = .ok bytes →
        ∃ p, Packet.decode bytes = .ok p ∧ Draft.ofPacket p = d.readBack) := by
  refine ⟨fun v => ⟨_, rfl, rfl⟩, ?_⟩
  intro d hd
  cases hd with
  | rrq f m =>
      have hword : ∀ body, Packet.decode (word Opcode.rrq.code ++ body) =
          Packet.decodeRequest .rrq body := by
        intro body
        rw [show word Opcode.rrq.code = [0, 1] from by decide]
        simp [Packet.decode, wordValue, Opcode.ofCode?]
      obtain ⟨hfits, herr, hdec⟩ := request_round_trip f m _ _ hword _ rfl
      refine ⟨hfits, herr, fun bytes h => ?_⟩
      obtain ⟨s, t, hd, hs, ht⟩ := hdec bytes h
      exact ⟨_, hd, by simp [Draft.ofPacket, Draft.readBack, hs, ht]⟩
  | wrq f m =>
      have hword : ∀ body, Packet.decode (word Opcode.wrq.code ++ body) =
          Packet.decodeRequest .wrq body := by
        intro body
        rw [show word Opcode.wrq.code = [0, 2] from by decide]
        simp [Packet.decode, wordValue, Opcode.ofCode?]
      obtain ⟨hfits, herr, hdec⟩ := request_round_trip f m _ _ hword _ rfl
      refine ⟨hfits, herr, fun bytes h => ?_⟩
      obtain ⟨s, t, hd, hs, ht⟩ := hdec bytes h
      exact ⟨_, hd, by simp [Draft.ofPacket, Draft.readBack, hs, ht]⟩
  | data b payload =>
      obtain ⟨hfits, herr, hdec⟩ := data_round_trip b payload
      refine ⟨hfits, fun e h => ⟨(herr e h).1, ?_⟩, fun bytes h => ⟨_, hdec bytes h, rfl⟩⟩
      simp [Draft.unfitText?, (herr e h).2]
  | ack b =>
      obtain ⟨hfits, herr, hdec⟩ := ack_round_trip b
      refine ⟨hfits, fun e h => ⟨(herr e h).1, ?_⟩, fun bytes h => ⟨_, hdec bytes h, rfl⟩⟩
      simp [Draft.unfitText?, (herr e h).2]
  | error c t =>
      obtain ⟨hfits, herr, hdec⟩ := error_round_trip c t
      refine ⟨hfits, fun e h => ⟨(herr e h).1, ?_⟩, fun bytes h => ?_⟩
      · simp [Draft.unfitText?, (herr e h).2]
      · obtain ⟨m, hd, hm⟩ := hdec bytes h
        exact ⟨_, hd, by simp [Draft.ofPacket, Draft.readBack, hm]⟩

/-- A DATA draft of block 1 with one byte is typed, and the round trip holds of it. -/
theorem data_block_one_round_trip :
    (Draft.data (.int 1) [0x61]).Typed ∧
      ((∃ bytes, (Draft.data (.int 1) [0x61]).encode = .ok bytes) ↔
        (Draft.data (.int 1) [0x61]).Fits) ∧
      (∀ e, (Draft.data (.int 1) [0x61]).encode = .error e → e.failure.isValueError = true ∧
        (e.failure.name = "UnicodeEncodeError" ↔
          ∃ t, (Draft.data (.int 1) [0x61]).unfitText? = some t ∧ (0 : Nat) ∉ t.points)) ∧
      (∀ bytes, (Draft.data (.int 1) [0x61]).encode = .ok bytes →
        ∃ p, Packet.decode bytes = .ok p ∧
          Draft.ofPacket p = (Draft.data (.int 1) [0x61]).readBack) :=
  ⟨.data 1 [0x61], encode_decode_round_trip.2 _ (.data 1 [0x61])⟩

end Tftp

namespace Tftp

/-! ## The kind of a datagram is its first word -/

theorem decodeRequest_ok {make : String → String → Packet} {body : List UInt8} {p : Packet}
    (h : Packet.decodeRequest make body = .ok p) : ∃ filename mode, p = make filename mode := by
  unfold Packet.decodeRequest at h
  cases hf : splitText body with
  | error e => rw [hf] at h; cases h
  | ok fr =>
    rw [hf] at h
    obtain ⟨filename, rest⟩ := fr
    cases hm : splitText rest with
    | error e => simp [bind, Except.bind, hm] at h
    | ok mr =>
      obtain ⟨mode, _⟩ := mr
      simp only [bind, Except.bind, hm, pure, Except.pure, Except.ok.injEq] at h
      exact ⟨filename, mode, h.symm⟩

/-- A datagram reads as a packet of the kind its first word names. -/
theorem decode_opcode {bytes : List UInt8} {p : Packet} (h : Packet.decode bytes = .ok p) :
    ∃ hi lo body, bytes = hi :: lo :: body ∧ Opcode.ofCode? (wordValue hi lo) = some p.opcode := by
  match bytes, h with
  | hi :: lo :: body, h =>
    refine ⟨hi, lo, body, rfl, ?_⟩
    unfold Packet.decode at h
    dsimp only at h
    cases hop : Opcode.ofCode? (wordValue hi lo) with
    | none => rw [hop] at h; cases h
    | some op =>
      rw [hop] at h
      cases op with
      | rrq =>
        obtain ⟨f, m, rfl⟩ := decodeRequest_ok h
        rfl
      | wrq =>
        obtain ⟨f, m, rfl⟩ := decodeRequest_ok h
        rfl
      | data =>
        dsimp only at h
        split at h
        · split at h
          · cases h
          · cases h; rfl
        · cases h
      | ack =>
        dsimp only at h
        split at h
        · cases h; rfl
        · cases h
      | error =>
        dsimp only at h
        split at h
        · rename_i first rest
          cases hs : splitText (first :: rest) with
          | error e => rw [hs] at h; cases h
          | ok r =>
            rw [hs] at h
            injection h with h
            subst h
            rfl
        · cases h

/-- A datagram reads back, if at all, as a packet of the kind its first word names. -/
theorem opcode_of_decode {hi lo : UInt8} {body : List UInt8} {p : Packet}
    (hdec : Packet.decode (hi :: lo :: body) = .ok p) :
    Opcode.ofCode? (wordValue hi lo) = some p.opcode := by
  obtain ⟨hi', lo', body', heq, hop'⟩ := decode_opcode hdec
  obtain ⟨rfl, rfl, rfl⟩ : hi = hi' ∧ lo = lo' ∧ body = body' := by simpa using heq
  exact hop'

/-- Bytes whose first word is not the opcode of ACKs never read back as one. -/
theorem decode_ne_ack_of_opcode {hi lo : UInt8} {body : List UInt8}
    (hop : Opcode.ofCode? (wordValue hi lo) ≠ some .ack) (block : Int) :
    Packet.decode (hi :: lo :: body) ≠ .ok (.ack block) :=
  fun hdec => hop (opcode_of_decode hdec)

/-- A request is written, if at all, after the word of its opcode. -/
theorem request_encode_prefix {filename mode : Value} {code : Nat} {bytes : List UInt8}
    (h : (do
      let f ← Draft.requestText filename
      let m ← Draft.requestText mode
      pure (word code ++ f ++ m) : Except EncodeError (List UInt8)) = .ok bytes) :
    ∃ rest, bytes = word code ++ rest := by
  cases hf : Draft.requestText filename with
  | error e => simp [hf, bind, Except.bind] at h
  | ok f =>
    cases hm : Draft.requestText mode with
    | error e => simp [hf, hm, bind, Except.bind] at h
    | ok m =>
      simp only [hf, hm, bind, Except.bind, pure, Except.pure, Except.ok.injEq] at h
      exact ⟨f ++ m, by simp [← h]⟩

/-- A read request never reads back as an ACK: its first word is the opcode of requests. -/
theorem rrq_encode_not_ack {filename mode : Value} {bytes : List UInt8}
    (h : (Draft.rrq filename mode).encode = .ok bytes) (block : Int) :
    Packet.decode bytes ≠ .ok (.ack block) := by
  obtain ⟨rest, rfl⟩ := request_encode_prefix h
  rw [show word Opcode.rrq.code = [0, 1] from by decide]
  exact decode_ne_ack_of_opcode (by decide) block

/-- A write request reads back, if at all, as a write request. -/
theorem wrq_encode_opcode {filename mode : Value} {bytes : List UInt8}
    (h : (Draft.wrq filename mode).encode = .ok bytes) {p : Packet}
    (hdec : Packet.decode bytes = .ok p) : p.opcode = .wrq := by
  obtain ⟨rest, rfl⟩ := request_encode_prefix h
  rw [show word Opcode.wrq.code = [0, 2] from by decide] at hdec
  have hop := opcode_of_decode hdec
  rw [show Opcode.ofCode? (wordValue 0 2) = some .wrq from by decide] at hop
  exact (Option.some.inj hop).symm

/-- An ERROR is written, if at all, after the word of its opcode. -/
theorem error_encode_prefix {code message : Value} {bytes : List UInt8}
    (h : (Draft.error code message).encode = .ok bytes) : ∃ rest, bytes = 0 :: 5 :: rest := by
  unfold Draft.encode at h
  cases hc : Draft.checkField "error code" code with
  | error e => simp [hc, bind, Except.bind] at h
  | ok n =>
    cases hw : Draft.wholeField n with
    | error e => simp [hc, hw, bind, Except.bind] at h
    | ok c =>
      cases message with
      | str t =>
        simp only [hc, hw, bind, Except.bind, pure, Except.pure, Except.ok.injEq] at h
        rw [show word Opcode.error.code = [0, 5] from by decide] at h
        exact ⟨word c ++ encodeMessage t, by simp [← h]⟩
      | _ => simp [hc, hw, bind, Except.bind, throw, throwThe, MonadExceptOf.throw] at h

/-- An ERROR never reads back as an ACK: its first word is the opcode of errors. -/
theorem error_encode_not_ack {code message : Value} {bytes : List UInt8}
    (h : (Draft.error code message).encode = .ok bytes) (block : Int) :
    Packet.decode bytes ≠ .ok (.ack block) := by
  obtain ⟨rest, rfl⟩ := error_encode_prefix h
  exact decode_ne_ack_of_opcode (by decide) block

/-- An ERROR reads back, if at all, as an ERROR. -/
theorem error_encode_opcode {code message : Value} {bytes : List UInt8}
    (h : (Draft.error code message).encode = .ok bytes) {p : Packet}
    (hdec : Packet.decode bytes = .ok p) : p.opcode = .error := by
  obtain ⟨rest, rfl⟩ := error_encode_prefix h
  have hop := opcode_of_decode hdec
  rw [show Opcode.ofCode? (wordValue 0 5) = some .error from by decide] at hop
  exact (Option.some.inj hop).symm

/-- An ACK of a block number in range is written, and reads back as itself. -/
theorem ack_encode {block : Int} (hb : FitsWord block) :
    ∃ bytes, (Draft.ack (.int block)).encode = .ok bytes ∧
      Packet.decode bytes = .ok (.ack block) := by
  obtain ⟨bytes, henc⟩ := (ack_round_trip block).1.mpr hb
  exact ⟨bytes, henc, (ack_round_trip block).2.2 bytes henc⟩

/-- DATA of a block number in range and a payload of at most a block is written, and reads back
    as itself. -/
theorem data_encode {block : Int} {payload : List UInt8} (hb : FitsWord block)
    (hp : payload.length ≤ blockSize) :
    ∃ bytes, (Draft.data (.int block) payload).encode = .ok bytes ∧
      Packet.decode bytes = .ok (.data block payload) := by
  obtain ⟨bytes, henc⟩ := (data_round_trip block payload).1.mpr ⟨hb, hp⟩
  exact ⟨bytes, henc, (data_round_trip block payload).2.2 bytes henc⟩

/-- A block number counted modulo 65536 is in range. -/
theorem fitsWord_mod (n : Nat) : FitsWord ((n % 65536 : Nat) : Int) := by
  unfold FitsWord maxBlockNumber
  omega

end Tftp

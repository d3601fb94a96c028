import Tftp.Proofs.Codec

/-! # The grammar of datagrams

    The decoder reads exactly the datagrams of a small grammar, `Packet.Reads`, stated on the
    bytes alone.  The first word is the opcode.  A read or write request is two NUL-terminated
    Latin-1 texts, the file name and the mode, followed by anything; DATA is a block word and at
    most 512 bytes of payload; ACK is a block word followed by anything; ERROR is a code word and
    a NUL-terminated message followed by anything.  Every other datagram is refused with a
    `Malformation`, the only way the decoder fails, which raises a MalformedPacket fault
    (`Malformation.fault`).

    * `decode_sound` and `decode_complete`: the decoder returns exactly what the grammar reads.
    * `exists_reads_iff`: a datagram has a reading exactly when its length, its opcode and the
      NULs after the opcode are as `Packet.Wellformed` counts them.
    * `decode_accepts_exactly_grammar` puts the two together.

    A text ends at the first NUL (`splitText_eq_ok`), and "at least two NULs" is the same as two
    NUL-terminated texts in front (`two_le_count_nul_iff`). -/

namespace Tftp

/-! ## Texts that end at the first NUL -/

/-- Bytes that hold a NUL hold a first one: the bytes before it hold none. -/
theorem exists_first_nul {bs : List UInt8} (h : (0 : UInt8) ∈ bs) :
    ∃ pre rest, bs = pre ++ 0 :: rest ∧ (0 : UInt8) ∉ pre := by
  induction bs with
  | nil => cases h
  | cons b bs ih =>
    by_cases hb : b = 0
    · exact ⟨[], bs, by simp [hb], List.not_mem_nil⟩
    · have hbs : (0 : UInt8) ∈ bs := by simpa [Ne.symm hb] using h
      obtain ⟨pre, rest, rfl, hpre⟩ := ih hbs
      exact ⟨b :: pre, rest, rfl, by simp [Ne.symm hb, hpre]⟩

/-- Without a NUL there is no text to split off. -/
theorem splitText_of_nul_not_mem {bs : List UInt8} (h : (0 : UInt8) ∉ bs) :
    splitText bs = .error .missingNul := by
  simp [splitText, List.idxOf?_eq_none_iff.mpr h]

/-- A text splits off exactly as the bytes before the first NUL. -/
theorem splitText_eq_ok {bs rest : List UInt8} {t : String} :
    splitText bs = .ok (t, rest) ↔
      ∃ pre, bs = pre ++ 0 :: rest ∧ (0 : UInt8) ∉ pre ∧ t = Text.decodeLatin1 pre := by
  constructor
  · intro h
    by_cases hnul : (0 : UInt8) ∈ bs
    · obtain ⟨pre, rest', rfl, hpre⟩ := exists_first_nul hnul
      rw [splitText_append hpre] at h
      obtain ⟨rfl, rfl⟩ : Text.decodeLatin1 pre = t ∧ rest' = rest := by simpa using h
      exact ⟨pre, rfl, hpre, rfl⟩
    · rw [splitText_of_nul_not_mem hnul] at h
      cases h
  · rintro ⟨pre, rfl, hpre, rfl⟩
    exact splitText_append hpre rest

/-- At least two NULs are two NUL-terminated texts in front of the rest. -/
theorem two_le_count_nul_iff {bs : List UInt8} :
    2 ≤ bs.count 0 ↔ ∃ f m rest, bs = f ++ 0 :: (m ++ 0 :: rest) ∧ (0 : UInt8) ∉ f ∧
      (0 : UInt8) ∉ m := by
  constructor
  · intro h
    have h0 : 0 < bs.count 0 := by omega
    obtain ⟨f, r, rfl, hf⟩ := exists_first_nul (List.count_pos_iff.mp h0)
    have hr : 0 < r.count 0 := by
      rw [List.count_append, List.count_cons_self, List.count_eq_zero_of_not_mem hf] at h
      omega
    obtain ⟨m, rest, rfl, hm⟩ := exists_first_nul (List.count_pos_iff.mp hr)
    exact ⟨f, m, rest, rfl, hf, hm⟩
  · rintro ⟨f, m, rest, rfl, hf, hm⟩
    simp [List.count_append, List.count_eq_zero_of_not_mem hf, List.count_eq_zero_of_not_mem hm]

namespace Packet

/-- A request body reads as its two texts: two NUL-terminated texts, and anything after them. -/
theorem decodeRequest_eq_ok {make : String → String → Packet} {body : List UInt8} {p : Packet} :
    decodeRequest make body = .ok p ↔
      ∃ f m rest, body = f ++ 0 :: (m ++ 0 :: rest) ∧ (0 : UInt8) ∉ f ∧ (0 : UInt8) ∉ m ∧
        p = make (Text.decodeLatin1 f) (Text.decodeLatin1 m) := by
  constructor
  · intro h
    cases hf : splitText body with
    | error e => simp [decodeRequest, hf, bind, Except.bind] at h
    | ok fr =>
      obtain ⟨filename, r⟩ := fr
      cases hm : splitText r with
      | error e => simp [decodeRequest, hf, hm, bind, Except.bind] at h
      | ok mr =>
        obtain ⟨mode, rest⟩ := mr
        have hp : p = make filename mode := by
          simpa [decodeRequest, hf, hm, bind, Except.bind, pure, Except.pure, eq_comm] using h
        obtain ⟨f, rfl, hf0, rfl⟩ := splitText_eq_ok.mp hf
        obtain ⟨m, rfl, hm0, rfl⟩ := splitText_eq_ok.mp hm
        exact ⟨f, m, rest, rfl, hf0, hm0, hp⟩
  · rintro ⟨f, m, rest, rfl, hf, hm, rfl⟩
    simp [decodeRequest, splitText_append hf, splitText_append hm, bind, Except.bind, pure,
      Except.pure]

/-- The kind with a number is the kind whose number it is. -/
theorem ofCode?_eq_some {n : Nat} {op : Opcode} : Opcode.ofCode? n = some op ↔ n = op.code := by
  constructor
  · intro h
    match n, h with
    | 1, h | 2, h | 3, h | 4, h | 5, h => cases h; rfl
  · rintro rfl
    cases op <;> rfl

/-- The opcode word of a datagram of at least two bytes. -/
def opcodeWord : List UInt8 → Nat
  | hi :: lo :: _ => wordValue hi lo
  | _ => 0

/-- The datagrams the decoder accepts, by their length, their opcode and the NULs after it:
    a request with at least two NULs after the opcode; DATA of 4 to 516 bytes; ACK of at least 4
    bytes; ERROR of at least 5 bytes with a NUL after its code. -/
def Wellformed (d : List UInt8) : Prop :=
  2 ≤ d.length ∧
    ((opcodeWord d = 1 ∨ opcodeWord d = 2) ∧ 2 ≤ (d.drop 2).count 0 ∨
      opcodeWord d = 3 ∧ 4 ≤ d.length ∧ d.length ≤ 516 ∨
      opcodeWord d = 4 ∧ 4 ≤ d.length ∨
      opcodeWord d = 5 ∧ 5 ≤ d.length ∧ (0 : UInt8) ∈ d.drop 4)

instance : DecidablePred Wellformed := fun _ => inferInstanceAs (Decidable (_ ∧ _))

/-- The grammar of datagrams: `Reads d p` when the bytes `d` read as the packet `p`. -/
inductive Reads : List UInt8 → Packet → Prop
  /-- a read request: the opcode 1, a file name and a mode, each ending at a NUL, then anything -/
  | rrq {hi lo : UInt8} {f m : List UInt8} (rest : List UInt8) (hop : wordValue hi lo = 1)
      (hf : (0 : UInt8) ∉ f) (hm : (0 : UInt8) ∉ m) :
      Reads (hi :: lo :: (f ++ 0 :: (m ++ 0 :: rest)))
        (.rrq (Text.decodeLatin1 f) (Text.decodeLatin1 m))
  /-- a write request: the same with the opcode 2 -/
  | wrq {hi lo : UInt8} {f m : List UInt8} (rest : List UInt8) (hop : wordValue hi lo = 2)
      (hf : (0 : UInt8) ∉ f) (hm : (0 : UInt8) ∉ m) :
      Reads (hi :: lo :: (f ++ 0 :: (m ++ 0 :: rest)))
        (.wrq (Text.decodeLatin1 f) (Text.decodeLatin1 m))
  /-- DATA: the opcode 3, a block word and at most a block of payload -/
  | data {hi lo b₁ b₂ : UInt8} {payload : List UInt8} (hop : wordValue hi lo = 3)
      (hlen : payload.length ≤ blockSize) :
      Reads (hi :: lo :: b₁ :: b₂ :: payload) (.data (wordValue b₁ b₂) payload)
  /-- ACK: the opcode 4 and a block word, then anything -/
  | ack {hi lo b₁ b₂ : UInt8} (rest : List UInt8) (hop : wordValue hi lo = 4) :
      Reads (hi :: lo :: b₁ :: b₂ :: rest) (.ack (wordValue b₁ b₂))
  /-- ERROR: the opcode 5, a code word and a message ending at a NUL, then anything -/
  | error {hi lo c₁ c₂ : UInt8} {text : List UInt8} (rest : List UInt8) (hop : wordValue hi lo = 5)
      (ht : (0 : UInt8) ∉ text) :
      Reads (hi :: lo :: c₁ :: c₂ :: (text ++ 0 :: rest))
        (.error (wordValue c₁ c₂) (Text.decodeLatin1 text))

/-! ## The decoder reads the grammar -/

/-- Whatever the decoder returns is the grammar's reading of the datagram. -/
theorem decode_sound {d : List UInt8} {p : Packet} (h : decode d = .ok p) : Reads d p := by
  match d, h with
  | hi :: lo :: body, h =>
    unfold decode at h
    dsimp only at h
    cases hop : Opcode.ofCode? (wordValue hi lo) with
    | none => rw [hop] at h; cases h
    | some op =>
      have hcode := ofCode?_eq_some.mp hop
      rw [hop] at h
      cases op with
      | rrq =>
        obtain ⟨f, m, rest, rfl, hf, hm, rfl⟩ := decodeRequest_eq_ok.mp h
        exact .rrq rest hcode hf hm
      | wrq =>
        obtain ⟨f, m, rest, rfl, hf, hm, rfl⟩ := decodeRequest_eq_ok.mp h
        exact .wrq rest hcode hf hm
      | data =>
        match body, h with
        | b₁ :: b₂ :: payload, h =>
          dsimp only at h
          split at h
          · cases h
          · cases h
            exact .data hcode (by omega)
      | ack =>
        match body, h with
        | b₁ :: b₂ :: rest, h =>
          cases h
          exact .ack rest hcode
      | error =>
        match body, h with
        | c₁ :: c₂ :: b :: bs, h =>
          dsimp only at h
          cases hs : splitText (b :: bs) with
          | error e => rw [hs] at h; cases h
          | ok r =>
            obtain ⟨message, rest⟩ := r
            rw [hs] at h
            cases h
            obtain ⟨text, htext, ht, rfl⟩ := splitText_eq_ok.mp hs
            rw [htext]
            exact .error rest hcode ht

/-- The decoder returns the grammar's reading of every datagram that has one. -/
theorem decode_complete {d : List UInt8} {p : Packet} (h : Reads d p) : decode d = .ok p := by
  cases h with
  | rrq rest hop hf hm =>
    simp only [decode, hop, Opcode.ofCode?]
    exact decodeRequest_eq_ok.mpr ⟨_, _, rest, rfl, hf, hm, rfl⟩
  | wrq rest hop hf hm =>
    simp only [decode, hop, Opcode.ofCode?]
    exact decodeRequest_eq_ok.mpr ⟨_, _, rest, rfl, hf, hm, rfl⟩
  | data hop hlen =>
    have hle : ¬ _ > blockSize := Nat.not_lt.mpr hlen
    simp only [decode, hop, Opcode.ofCode?]
    exact if_neg hle
  | ack rest hop => simp only [decode, hop, Opcode.ofCode?]
  | @error hi lo c₁ c₂ text rest hop ht =>
    -- the message and its NUL make at least one byte, which the ERROR case of the decoder asks
    obtain ⟨b, bs, hbs⟩ : ∃ b bs, text ++ 0 :: rest = b :: bs := by
      cases text <;> exact ⟨_, _, rfl⟩
    have hsplit := splitText_append ht rest
    rw [hbs] at hsplit ⊢
    simp only [decode, hop, Opcode.ofCode?]
    rw [hsplit]
    rfl

/-! ## Which datagrams have a reading -/

/-- A datagram has a reading exactly when it is well formed. -/
theorem exists_reads_iff {d : List UInt8} : (∃ p, Reads d p) ↔ Wellformed d := by
  constructor
  · rintro ⟨p, hp⟩
    cases hp with
    | rrq rest hop hf hm =>
      exact ⟨by simp, .inl ⟨.inl hop, two_le_count_nul_iff.mpr ⟨_, _, rest, rfl, hf, hm⟩⟩⟩
    | wrq rest hop hf hm =>
      exact ⟨by simp, .inl ⟨.inr hop, two_le_count_nul_iff.mpr ⟨_, _, rest, rfl, hf, hm⟩⟩⟩
    | data hop hlen =>
      refine ⟨by simp, .inr (.inl ⟨hop, by simp, ?_⟩)⟩
      simp only [List.length_cons]
      have : blockSize = 512 := rfl
      omega
    | ack rest hop => exact ⟨by simp, .inr (.inr (.inl ⟨hop, by simp⟩))⟩
    | error rest hop ht =>
      refine ⟨by simp, .inr (.inr (.inr ⟨hop, ?_, by simp⟩))⟩
      simp only [List.length_cons, List.length_append]
      omega
  · rintro ⟨hlen, hform⟩
    match d, hlen, hform with
    | hi :: lo :: body, _, hform =>
      rcases hform with ⟨hop | hop, hnul⟩ | ⟨hop, hmin, hmax⟩ | ⟨hop, hmin⟩ | ⟨hop, hmin, hnul⟩
      · obtain ⟨f, m, rest, rfl, hf, hm⟩ := two_le_count_nul_iff.mp (by simpa using hnul)
        exact ⟨_, .rrq rest hop hf hm⟩
      · obtain ⟨f, m, rest, rfl, hf, hm⟩ := two_le_count_nul_iff.mp (by simpa using hnul)
        exact ⟨_, .wrq rest hop hf hm⟩
      · match body, hmin, hmax with
        | b₁ :: b₂ :: payload, _, hmax =>
          have : blockSize = 512 := rfl
          exact ⟨_, .data hop (by simp at hmax; omega)⟩
      · match body, hmin with
        | b₁ :: b₂ :: rest, _ => exact ⟨_, .ack rest hop⟩
      · match body, hmin, hnul with
        | c₁ :: c₂ :: tail, _, hnul =>
          obtain ⟨text, rest, rfl, ht⟩ := exists_first_nul (by simpa using hnul)
          exact ⟨_, .error rest hop ht⟩

/-- The decoder accepts exactly its grammar: it returns a packet exactly when the datagram is
    well formed (a request with at least two NULs after the opcode, DATA of 4 to 516 bytes, ACK
    of at least 4 bytes, ERROR of at least 5 bytes with a NUL after the code), and the packet
    is the grammar's reading: the first two NUL-terminated texts of a request read as Latin-1,
    the block word and the payload of DATA, the block word of ACK with trailing bytes ignored,
    the code word and the message up to the first NUL of ERROR.  On every other datagram it
    fails with a `Malformation`. -/
theorem decode_accepts_exactly_grammar (d : List UInt8) :
    (∀ p, decode d = .ok p ↔ Reads d p) ∧ ((∃ p, decode d = .ok p) ↔ Wellformed d) := by
  have hreads : ∀ p, decode d = .ok p ↔ Reads d p := fun p => ⟨decode_sound, decode_complete⟩
  refine ⟨hreads, ?_⟩
  simp only [hreads]
  exact exists_reads_iff

example : Wellformed [0, 5, 0, 1, 0] ∧ ¬ Wellformed [0, 5, 0, 1] := by decide

end Packet

end Tftp

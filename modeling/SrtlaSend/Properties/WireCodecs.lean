import SrtlaSend.Properties.LossList

/-!
# Builders and parsers of the wire format

The keepalives are rows of fixed-width fields, so both directions of their codec come from
`ByteLayout.fields_eq_iff`: the parser, which reads at offsets counted by hand, accepts
exactly the packets of the builder, followed by anything. The R bit of a data packet is the
only thing `setSrtDataRetransmit` touches.
-/

namespace SrtlaSend

open MachineInt ByteLayout

/-- The fields are values of their `u32` and `i32` types. -/
structure ConnectionInfo.InRange (info : ConnectionInfo) : Prop where
  connId : info.connId < 2 ^ 32
  window : InI32 info.window
  inFlight : InI32 info.inFlight
  rttMs : info.rttMs < 2 ^ 32
  nakCount : info.nakCount < 2 ^ 32
  bitrateBytesPerSec : info.bitrateBytesPerSec < 2 ^ 32

/-- The top bit of the first byte is clear. -/
def IsSrtData (buf : Bytes) : Prop := ∃ a ∈ buf.head?, a.toNat < 2 ^ 7

/-- Bit `j` of byte `i`. -/
def bitAt (buf : Bytes) (i j : Nat) : Option Bool := buf[i]?.map fun b => b.toNat.testBit j

/-- Bit 2 of byte 4 is the R bit. -/
def AgreeButForRBit (buf buf' : Bytes) : Prop :=
  buf'.length = buf.length ∧ ∀ i j, (i, j) ≠ (4, 2) → bitAt buf' i j = bitAt buf i j

theorem asI32_eq_iff {word : Nat} (bound : word < 2 ^ 32) (x : Int) :
    asI32 word = x ↔ InI32 x ∧ word = asU32 x := by
  simp only [asI32, InI32, asU32]
  omega

/-! ### Acknowledgements -/

theorem parseSrtlaAck_createAckPacket {acks : List Nat} (bounds : ∀ ack ∈ acks, ack < 2 ^ 32) :
    parseSrtlaAck (createAckPacket acks) = acks := by
  cases acks with
  -- the header alone is shorter than the parser asks for, and reads as no sequence
  | nil => rfl
  | cons ack acks =>
    have long : ¬ (createAckPacket (ack :: acks)).length < 8 := by
      simp only [createAckPacket, List.flatMap_cons, List.length_append, toBe16_eq, toBe32_eq,
        length_encode, List.length_cons]
      omega
    have type : getPacketType (createAckPacket (ack :: acks)) = some srtlaTypeAck := rfl
    rw [parseSrtlaAck, if_neg long, type, if_neg (not_not.mpr rfl)]
    exact be32Words_flatMap bounds

/-! ### Keepalives -/

/-- The widths of an extended keepalive: type, timestamp, magic, version and the telemetry. -/
def keepaliveExtWidths : List Nat := [2, 8, 2, 2, 4, 4, 4, 4, 4, 4]

def keepaliveExtValues (info : ConnectionInfo) (now : Nat) : List Nat :=
  [srtlaTypeKeepalive, now, srtlaKeepaliveMagic, srtlaKeepaliveExtVersion, info.connId,
    asU32 info.window, asU32 info.inFlight, info.rttMs, info.nakCount, info.bitrateBytesPerSec]

theorem createKeepalivePacket_eq (now : Nat) :
    createKeepalivePacket now = pack [2, 8] [srtlaTypeKeepalive, now] := by
  simp only [createKeepalivePacket, toBe16_eq, toBe64_eq, pack_cons]
  rfl

theorem createKeepalivePacketExt_eq (info : ConnectionInfo) (now : Nat) :
    createKeepalivePacketExt info now = pack keepaliveExtWidths (keepaliveExtValues info now) := by
  simp only [createKeepalivePacketExt, toBe16_eq, toBe32_eq, toBe64_eq, keepaliveExtWidths,
    keepaliveExtValues, pack_cons, List.append_assoc]
  rfl

theorem fits_keepaliveExtValues {info : ConnectionInfo} {now : Nat} (range : info.InRange)
    (bound : now < 2 ^ 64) : Fits keepaliveExtWidths (keepaliveExtValues info now) := by
  have word (x : Int) : asU32 x < 2 ^ 32 := by
    unfold asU32
    omega
  refine .cons (by decide) (.cons bound (.cons (by decide) (.cons (by decide) ?_)))
  refine .cons range.connId (.cons (word _) (.cons (word _) ?_))
  exact .cons range.rttMs (.cons range.nakCount (.cons range.bitrateBytesPerSec .nil))

theorem extractKeepaliveTimestamp_eq_some (buf : Bytes) (now : Nat) :
    extractKeepaliveTimestamp buf = some now ↔
      10 ≤ buf.length ∧ fields buf 0 [2, 8] = [srtlaTypeKeepalive, now] := by
  rw [extractKeepaliveTimestamp, Option.ite_none_left_eq_some, not_lt]
  refine and_congr_right fun long => ?_
  have type := getPacketType_eq (Nat.le_trans (by decide : 2 ≤ 10) long)
  rw [type, Option.ite_none_left_eq_some, not_not, Option.some.injEq, Option.some.injEq]
  simp only [fields, List.cons.injEq, and_true]
  rfl

/-- The timestamp is that of a plain keepalive the buffer starts with. -/
theorem extractKeepaliveTimestamp_eq_some_iff (buf : Bytes) (now : Nat) :
    extractKeepaliveTimestamp buf = some now ↔
      now < 2 ^ 64 ∧ ∃ rest, buf = createKeepalivePacket now ++ rest := by
  have fits : Fits [2, 8] [srtlaTypeKeepalive, now] ↔ now < 2 ^ 64 := by
    simp [Fits, srtlaTypeKeepalive]
  have laid := fields_eq_iff buf [2, 8] [srtlaTypeKeepalive, now]
  rw [fits, ← createKeepalivePacket_eq] at laid
  exact (extractKeepaliveTimestamp_eq_some buf now).trans laid

/-- The record read from six words is `info` when the words spell its fields. -/
theorem connectionInfo_eq_iff {connId window inFlight rttMs nakCount bitrate : Nat}
    (bounds : ∀ word ∈ [connId, window, inFlight, rttMs, nakCount, bitrate], word < 2 ^ 32)
    (info : ConnectionInfo) :
    ConnectionInfo.mk connId (asI32 window) (asI32 inFlight) rttMs nakCount bitrate = info ↔
      info.InRange ∧ connId = info.connId ∧ window = asU32 info.window ∧
        inFlight = asU32 info.inFlight ∧ rttMs = info.rttMs ∧ nakCount = info.nakCount ∧
        bitrate = info.bitrateBytesPerSec := by
  simp only [List.forall_mem_cons, List.not_mem_nil, false_imp_iff, implies_true, and_true] at bounds
  obtain ⟨hConnId, hWindow, hInFlight, hRttMs, hNakCount, hBitrate⟩ := bounds
  constructor
  · rintro rfl
    obtain ⟨windowRange, windowWord⟩ := (asI32_eq_iff hWindow _).mp rfl
    obtain ⟨inFlightRange, inFlightWord⟩ := (asI32_eq_iff hInFlight _).mp rfl
    exact ⟨⟨hConnId, windowRange, inFlightRange, hRttMs, hNakCount, hBitrate⟩,
      rfl, windowWord, inFlightWord, rfl, rfl, rfl⟩
  · rintro ⟨range, rfl, windowWord, inFlightWord, rfl, rfl, rfl⟩
    rw [(asI32_eq_iff hWindow _).mpr ⟨range.window, windowWord⟩,
      (asI32_eq_iff hInFlight _).mpr ⟨range.inFlight, inFlightWord⟩]

/-- What a successful read says about the fields of the buffer. -/
theorem extractKeepaliveConnInfo_eq_some (buf : Bytes) (info : ConnectionInfo) :
    extractKeepaliveConnInfo buf = some info ↔
      38 ≤ buf.length ∧ info.InRange ∧
        fields buf 0 keepaliveExtWidths = keepaliveExtValues info (field buf 2 8) := by
  rw [extractKeepaliveConnInfo, Option.ite_none_left_eq_some, not_lt]
  refine and_congr_right fun long => ?_
  have length : 38 ≤ buf.length := long
  have type := getPacketType_eq (Nat.le_trans (by decide : 2 ≤ 38) long)
  have bounds : ∀ word ∈ [field buf 14 4, field buf 18 4, field buf 22 4, field buf 26 4,
      field buf 30 4, field buf 34 4], word < 2 ^ 32 := by
    simp only [List.forall_mem_cons, List.not_mem_nil, false_imp_iff, implies_true, and_true]
    exact ⟨field_lt _ _ 4, field_lt _ _ 4, field_lt _ _ 4, field_lt _ _ 4, field_lt _ _ 4,
      field_lt _ _ 4⟩
  rw [type, be16At_eq (by omega), be16At_eq (by omega), be32_eq (by omega), be32_eq (by omega),
    be32_eq (by omega), be32_eq (by omega), be32_eq (by omega), be32_eq (by omega)]
  simp only [Option.bind_eq_bind, Option.bind_some, Option.ite_none_left_eq_some, not_not,
    Option.some.injEq, connectionInfo_eq_iff bounds, keepaliveExtWidths, fields,
    keepaliveExtValues, List.cons.injEq, Nat.zero_add, Nat.reduceAdd, true_and, and_true]
  -- the parser tests the header first; the layout has the range of the record in front
  constructor
  · rintro ⟨type, magic, version, range, words⟩
    exact ⟨range, type, magic, version, words⟩
  · rintro ⟨range, type, magic, version, words⟩
    exact ⟨type, magic, version, range, words⟩

/-- The parser of extended keepalives accepts exactly the packets of the builder, with
anything behind them. -/
theorem extractKeepaliveConnInfo_eq_some_iff (buf : Bytes) (info : ConnectionInfo) :
    extractKeepaliveConnInfo buf = some info ↔
      info.InRange ∧ ∃ now < 2 ^ 64, ∃ rest, buf = createKeepalivePacketExt info now ++ rest := by
  rw [extractKeepaliveConnInfo_eq_some]
  constructor
  · rintro ⟨long, range, read⟩
    obtain ⟨-, rest, bytes⟩ := (fields_eq_iff buf keepaliveExtWidths _).mp ⟨long, read⟩
    rw [← createKeepalivePacketExt_eq] at bytes
    exact ⟨range, field buf 2 8, field_lt buf 2 8, rest, bytes⟩
  · rintro ⟨range, now, bound, rest, bytes⟩
    rw [createKeepalivePacketExt_eq] at bytes
    obtain ⟨long, read⟩ := (fields_eq_iff buf keepaliveExtWidths _).mpr
      ⟨fits_keepaliveExtValues range bound, rest, bytes⟩
    have timestamp : field buf 2 8 = now := (List.cons.inj (List.cons.inj read).2).1
    rw [timestamp]
    exact ⟨long, range, read⟩

theorem length_createKeepalivePacketExt (info : ConnectionInfo) (now : Nat) :
    (createKeepalivePacketExt info now).length = 38 := by
  simp only [createKeepalivePacketExt, List.length_append, toBe16_eq, toBe32_eq, toBe64_eq,
    length_encode]

/-- A receiver that knows plain keepalives only finds one at the front of an extended one. -/
theorem exists_createKeepalivePacketExt_eq_append (info : ConnectionInfo) (now : Nat) :
    ∃ telemetry, createKeepalivePacketExt info now = createKeepalivePacket now ++ telemetry := by
  simp only [createKeepalivePacketExt, createKeepalivePacket, List.append_assoc]
  exact ⟨_, rfl⟩

theorem extractKeepaliveTimestamp_createKeepalivePacketExt (info : ConnectionInfo) {now : Nat}
    (bound : now < 2 ^ 64) :
    extractKeepaliveTimestamp (createKeepalivePacketExt info now) = some now :=
  (extractKeepaliveTimestamp_eq_some_iff _ now).mpr
    ⟨bound, exists_createKeepalivePacketExt_eq_append info now⟩

theorem eq_createKeepalivePacketExt {buf : Bytes} {info : ConnectionInfo} (length : buf.length = 38)
    (read : extractKeepaliveConnInfo buf = some info) :
    info.InRange ∧ ∃ now < 2 ^ 64, extractKeepaliveTimestamp buf = some now ∧
      buf = createKeepalivePacketExt info now := by
  obtain ⟨range, now, bound, rest, rfl⟩ := (extractKeepaliveConnInfo_eq_some_iff buf info).mp read
  have nothing : rest = [] := by
    rw [List.length_append, length_createKeepalivePacketExt] at length
    exact List.length_eq_zero_iff.mp (by omega)
  rw [nothing, List.append_nil]
  exact ⟨range, now, bound, extractKeepaliveTimestamp_createKeepalivePacketExt info bound, rfl⟩

/-! ### The R bit -/

theorem and_pow_eq_zero_iff (b : UInt8) {i : Nat} {mask : UInt8} (bit : mask.toNat = 2 ^ i) :
    b &&& mask = 0 ↔ b.toNat.testBit i = false := by
  rw [← UInt8.toNat_inj, UInt8.toNat_and, bit, Nat.and_two_pow, UInt8.toNat_zero]
  cases b.toNat.testBit i <;> simp

theorem testBit_or_pow (b : UInt8) {i : Nat} {mask : UInt8} (bit : mask.toNat = 2 ^ i) (j : Nat) :
    (b ||| mask).toNat.testBit j = (b.toNat.testBit j || decide (i = j)) := by
  rw [UInt8.toNat_or, Nat.testBit_or, bit, Nat.testBit_two_pow]

theorem topBit_clear_iff (b : UInt8) : (b &&& 0x80 == 0) = true ↔ b.toNat < 2 ^ 7 := by
  have := b.toNat_lt
  rw [beq_iff_eq, and_pow_eq_zero_iff b (by rfl : (0x80 : UInt8).toNat = 2 ^ 7),
    Nat.testBit_eq_decide_div_mod_eq, decide_eq_false_iff_not]
  omega

theorem rBit_mask : (0x04 : UInt8).toNat = 2 ^ 2 := rfl

theorem isSrtData_cons (a : UInt8) (rest : Bytes) : IsSrtData (a :: rest) ↔ a.toNat < 2 ^ 7 := by
  simp only [IsSrtData, List.head?_cons, Option.mem_some, exists_eq_left']

/-- The buffer is left alone, or it is a data packet with a whole second word and the bit
is set in the byte the word starts with. -/
theorem setSrtDataRetransmit_cases (buf : Bytes) :
    (setSrtDataRetransmit buf = buf ∧ ¬ (IsSrtData buf ∧ 8 ≤ buf.length)) ∨
      ∃ a b c d e f g h rest, a.toNat < 2 ^ 7 ∧ buf = a :: b :: c :: d :: e :: f :: g :: h :: rest ∧
        setSrtDataRetransmit buf = a :: b :: c :: d :: (e ||| 0x04) :: f :: g :: h :: rest := by
  unfold setSrtDataRetransmit
  split
  case h_1 a b c d e f g h rest =>
    simp only [topBit_clear_iff]
    split
    case isTrue data => exact .inr ⟨a, b, c, d, e, f, g, h, rest, data, rfl, rfl⟩
    case isFalse control =>
      refine .inl ⟨rfl, ?_⟩
      rintro ⟨data, -⟩
      exact control ((isSrtData_cons a _).mp data)
  case h_2 short =>
    refine .inl ⟨rfl, ?_⟩
    rintro ⟨-, long⟩
    match buf, long with
    | a :: b :: c :: d :: e :: f :: g :: h :: rest, _ => exact short a b c d e f g h rest rfl

section RBit

variable (buf : Bytes)

theorem setSrtDataRetransmit_idem :
    setSrtDataRetransmit (setSrtDataRetransmit buf) = setSrtDataRetransmit buf := by
  obtain ⟨same, -⟩ | ⟨a, b, c, d, e, f, g, h, rest, data, -, bytes⟩ :=
    setSrtDataRetransmit_cases buf
  · rw [same, same]
  · have clear := (topBit_clear_iff a).mpr data
    rw [bytes]
    simp only [setSrtDataRetransmit, clear, if_true, UInt8.or_assoc, UInt8.or_self]

theorem setSrtDataRetransmit_of_not_isSrtData (control : ¬ IsSrtData buf) :
    setSrtDataRetransmit buf = buf := by
  obtain ⟨same, -⟩ | ⟨a, b, c, d, e, f, g, h, rest, data, bytes, -⟩ :=
    setSrtDataRetransmit_cases buf
  · exact same
  · subst bytes
    exact absurd ((isSrtData_cons a _).mpr data) control

theorem setSrtDataRetransmit_of_short (short : buf.length < 8) : setSrtDataRetransmit buf = buf := by
  obtain ⟨same, -⟩ | ⟨a, b, c, d, e, f, g, h, rest, -, bytes, -⟩ :=
    setSrtDataRetransmit_cases buf
  · exact same
  · subst bytes
    simp only [List.length_cons] at short
    omega

theorem isSrtDataRetransmit_setSrtDataRetransmit (data : IsSrtData buf) (long : 8 ≤ buf.length) :
    isSrtDataRetransmit (setSrtDataRetransmit buf) = true := by
  obtain ⟨-, neither⟩ | ⟨a, b, c, d, e, f, g, h, rest, data, -, bytes⟩ :=
    setSrtDataRetransmit_cases buf
  · exact absurd ⟨data, long⟩ neither
  · have clear := (topBit_clear_iff a).mpr data
    have flagged : (e ||| 0x04) &&& 0x04 ≠ 0 := by
      rw [Ne, and_pow_eq_zero_iff _ rBit_mask, testBit_or_pow e rBit_mask]
      simp
    rw [bytes]
    simp only [isSrtDataRetransmit, clear, Bool.true_and, bne_iff_ne]
    exact flagged

theorem agreeButForRBit_setSrtDataRetransmit : AgreeButForRBit buf (setSrtDataRetransmit buf) := by
  obtain ⟨same, -⟩ | ⟨a, b, c, d, e, f, g, h, rest, -, before, after⟩ :=
    setSrtDataRetransmit_cases buf
  · rw [same]
    exact ⟨rfl, fun _ _ _ => rfl⟩
  · rw [after, before]
    refine ⟨rfl, fun i j other => ?_⟩
    match i with
    | 0 | 1 | 2 | 3 | 5 | 6 | 7 | _ + 8 => rfl
    | 4 =>
      have bit : 2 ≠ j := by
        rintro rfl
        exact other rfl
      have kept := testBit_or_pow e rBit_mask j
      rw [decide_eq_false bit, Bool.or_false] at kept
      exact congrArg some kept

theorem getSrtSequenceNumber_setSrtDataRetransmit :
    getSrtSequenceNumber (setSrtDataRetransmit buf) = getSrtSequenceNumber buf := by
  obtain ⟨same, -⟩ | ⟨a, b, c, d, e, f, g, h, rest, -, before, after⟩ :=
    setSrtDataRetransmit_cases buf
  · rw [same]
  · rw [after, before]
    rfl

end RBit

theorem wire_codecs_round_trip :
    (∀ acks : List Nat, (∀ ack ∈ acks, ack < 2 ^ 32) →
      parseSrtlaAck (createAckPacket acks) = acks) ∧
    (∀ (info : ConnectionInfo) (now : Nat), info.InRange → now < 2 ^ 64 →
      extractKeepaliveConnInfo (createKeepalivePacketExt info now) = some info ∧
      extractKeepaliveTimestamp (createKeepalivePacketExt info now) = some now ∧
      extractKeepaliveTimestamp (createKeepalivePacket now) = some now) ∧
    (∀ (buf : Bytes) (info : ConnectionInfo), buf.length = 38 →
      extractKeepaliveConnInfo buf = some info →
      info.InRange ∧ ∃ now < 2 ^ 64, extractKeepaliveTimestamp buf = some now ∧
        buf = createKeepalivePacketExt info now) ∧
    ∀ buf : Bytes,
      setSrtDataRetransmit (setSrtDataRetransmit buf) = setSrtDataRetransmit buf ∧
      (¬ IsSrtData buf → setSrtDataRetransmit buf = buf) ∧
      (buf.length < 8 → setSrtDataRetransmit buf = buf) ∧
      (IsSrtData buf → 8 ≤ buf.length →
        AgreeButForRBit buf (setSrtDataRetransmit buf) ∧
        isSrtDataRetransmit (setSrtDataRetransmit buf) = true) ∧
      getSrtSequenceNumber (setSrtDataRetransmit buf) = getSrtSequenceNumber buf := by
  refine ⟨fun acks bounds => parseSrtlaAck_createAckPacket bounds, ?keepalive,
    fun buf info length read => eq_createKeepalivePacketExt length read, fun buf => ?retransmit⟩
  case keepalive =>
    intro info now range bound
    have telemetry := (extractKeepaliveConnInfo_eq_some_iff _ info).mpr
      ⟨range, now, bound, [], (List.append_nil _).symm⟩
    have timestamp := (extractKeepaliveTimestamp_eq_some_iff _ now).mpr
      ⟨bound, [], (List.append_nil (createKeepalivePacket now)).symm⟩
    exact ⟨telemetry, extractKeepaliveTimestamp_createKeepalivePacketExt info bound, timestamp⟩
  case retransmit =>
    exact ⟨setSrtDataRetransmit_idem buf, setSrtDataRetransmit_of_not_isSrtData buf,
      setSrtDataRetransmit_of_short buf,
      fun data long => ⟨agreeButForRBit_setSrtDataRetransmit buf,
        isSrtDataRetransmit_setSrtDataRetransmit buf data long⟩,
      getSrtSequenceNumber_setSrtDataRetransmit buf⟩

theorem wire_codecs_round_trip_extremes :
    parseSrtlaAck (createAckPacket [0, 2 ^ 32 - 1]) = [0, 2 ^ 32 - 1] ∧
    extractKeepaliveConnInfo
        (createKeepalivePacketExt ⟨2 ^ 32 - 1, -2 ^ 31, 2 ^ 31 - 1, 0, 7, 9⟩ (2 ^ 64 - 1)) =
      some ⟨2 ^ 32 - 1, -2 ^ 31, 2 ^ 31 - 1, 0, 7, 9⟩ ∧
    (∃ now < 2 ^ 64,
      toBe64 0x9000000000000000 ++ [0, 0, 0xc0, 0x1f, 0, 1] ++ List.replicate 24 0xff =
        createKeepalivePacketExt ⟨2 ^ 32 - 1, -1, -1, 2 ^ 32 - 1, 2 ^ 32 - 1, 2 ^ 32 - 1⟩ now) ∧
    isSrtDataRetransmit (setSrtDataRetransmit (List.replicate 16 0)) = true := by
  obtain ⟨acks, keepalives, exact_bytes, retransmit⟩ := wire_codecs_round_trip
  have range : ConnectionInfo.InRange ⟨2 ^ 32 - 1, -2 ^ 31, 2 ^ 31 - 1, 0, 7, 9⟩ :=
    ⟨by decide, by decide, by decide, by decide, by decide, by decide⟩
  obtain ⟨-, now, bound, -, bytes⟩ := exact_bytes
    (toBe64 0x9000000000000000 ++ [0, 0, 0xc0, 0x1f, 0, 1] ++ List.replicate 24 0xff)
    ⟨2 ^ 32 - 1, -1, -1, 2 ^ 32 - 1, 2 ^ 32 - 1, 2 ^ 32 - 1⟩ (by decide) (by decide)
  have flagged := (retransmit (List.replicate 16 0)).2.2.2.1 ⟨0, rfl, by decide⟩ (by decide)
  exact ⟨acks _ (by decide), (keepalives _ _ range (by decide)).1, ⟨now, bound, bytes⟩, flagged.2⟩

end SrtlaSend

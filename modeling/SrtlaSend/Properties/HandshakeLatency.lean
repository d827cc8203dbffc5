import SrtlaSend.Properties.LossList
import Mathlib.Data.Nat.Bitwise

/-!
# The latency of an SRT handshake

The parser of the extension blocks accepts exactly its grammar: a conclusion handshake
whose extension area is complete blocks of other commands and then a complete HSREQ or
HSRSP block of at least three words. What follows that block is not read.
-/

namespace SrtlaSend

open MachineInt

/-! ### Grammar -/

/-- A complete extension block: a command and a length in words, then the body. -/
structure ExtBlock where
  cmd : Nat
  words : Nat
  body : Bytes
  cmd_lt : cmd < 2 ^ 16
  words_lt : words < 2 ^ 16
  length_body : body.length = words * 4

namespace ExtBlock

def bytes (b : ExtBlock) : Bytes := toBe16 b.cmd ++ (toBe16 b.words ++ b.body)

/-- An HSREQ or HSRSP block. -/
def IsLatency (b : ExtBlock) : Prop := b.cmd = srtHsExtCmdHsreq ∨ b.cmd = srtHsExtCmdHsrsp

instance (b : ExtBlock) : Decidable b.IsLatency :=
  inferInstanceAs (Decidable (b.cmd = srtHsExtCmdHsreq ∨ b.cmd = srtHsExtCmdHsrsp))

/-- `l` is what a block of at least three words says: words 1 and 2 of its body are the
flags and the two delays, and a delay counts when its TSBPD flag is set. -/
structure Declares (b : ExtBlock) (l : SrtHandshakeLatency) : Prop where
  enough : 3 ≤ b.words
  response : l.isResponse = true ↔ b.cmd = srtHsExtCmdHsrsp
  delays : ∃ flags latency, be32 b.body 4 = some flags ∧ be32 b.body 8 = some latency ∧
    l.rcvMs = (if flags.testBit 1 then some (latency / 2 ^ 16) else none) ∧
    l.sndMs = (if flags.testBit 0 then some (latency % 2 ^ 16) else none)

end ExtBlock

/-- The bytes of a sequence of blocks. -/
def blockBytes (blocks : List ExtBlock) : Bytes := blocks.flatMap ExtBlock.bytes

/-- A version 5 conclusion handshake with the HSREQ bit in its extension field. -/
structure IsConclusion (buf : Bytes) : Prop where
  type : getPacketType buf = some srtTypeHandshake
  long : 64 ≤ buf.length
  version : be32 buf 16 = some 5
  request : ∃ word, be32 buf 36 = some word ∧ asI32 word = -1
  hsreq : ∃ word, be32 buf 20 = some word ∧ (word % 2 ^ 16).testBit 0 = true

/-! ### Words -/

theorem be16_toBe16 {n : Nat} (bound : n < 2 ^ 16) :
    be16 (UInt8.ofNat (n / 256)) (UInt8.ofNat n) = n := by
  have spelled : ByteLayout.value (toBe16 n) = n := by
    rw [toBe16_eq]
    exact ByteLayout.value_encode_of_lt bound
  rw [be16_eq]
  exact spelled

theorem toBe16_be16 (a b : UInt8) : toBe16 (be16 a b) = [a, b] := by
  rw [be16_eq, toBe16_eq]
  exact ByteLayout.encode_value [a, b]

theorem be16_lt (a b : UInt8) : be16 a b < 2 ^ 16 := by
  have bound : ByteLayout.value [a, b] < 256 ^ 2 := ByteLayout.value_lt [a, b]
  rw [be16_eq]
  omega

theorem be32_drop (buf : Bytes) (n off : Nat) : be32 (buf.drop n) off = be32 buf (n + off) := by
  simp only [be32, List.drop_drop]

theorem be32_lt {buf : Bytes} {off word : Nat} (read : be32 buf off = some word) :
    word < 2 ^ 32 := by
  simp only [be32] at read
  split at read
  · obtain rfl := Option.some.inj read
    exact be32Word_lt _ _ _ _
  · cases read

/-- A word that fits is read. -/
theorem exists_be32 (buf : Bytes) (off : Nat) (fits : off + 4 ≤ buf.length) :
    ∃ word, be32 buf off = some word :=
  ⟨_, be32_eq fits⟩

theorem and_bit_ne_zero (n i : Nat) : n &&& 2 ^ i ≠ 0 ↔ n.testBit i = true := by
  rw [Nat.and_two_pow]
  cases n.testBit i <;> simp

theorem asI32_eq_neg_one {word : Nat} (bound : word < 2 ^ 32) :
    asI32 word = -1 ↔ word = srtHsReqtypeConclusion := by
  simp only [asI32, srtHsReqtypeConclusion]
  omega

/-! ### The walk over the blocks -/

namespace ExtBlock

/-- What the parser reads off a latency block. -/
def latency (b : ExtBlock) : Option SrtHandshakeLatency :=
  if b.body.length < srtHsExtHsreqWords * 4 then none
  else do
    let flags ← be32 b.body 4
    let latency ← be32 b.body 8
    some
      { isResponse := b.cmd = srtHsExtCmdHsrsp
        rcvMs := if flags &&& srtHsOptTsbpdrcv ≠ 0 then some (latency / 65536) else none
        sndMs := if flags &&& srtHsOptTsbpdsnd ≠ 0 then some (latency % 65536) else none }

theorem latency_eq_some_iff (b : ExtBlock) (l : SrtHandshakeLatency) :
    b.latency = some l ↔ b.Declares l := by
  simp only [latency]
  by_cases short : b.body.length < srtHsExtHsreqWords * 4
  · rw [if_pos short]
    refine ⟨nofun, fun declares => ?_⟩
    have := declares.enough
    have := b.length_body
    simp only [srtHsExtHsreqWords] at short
    omega
  · rw [if_neg short]
    have long : 12 ≤ b.body.length := not_lt.mp short
    have enough : 3 ≤ b.words := by
      have := b.length_body
      omega
    -- both words lie inside a body of three words
    obtain ⟨flags, flagsRead⟩ := exists_be32 b.body 4 (by omega)
    obtain ⟨latency, latencyRead⟩ := exists_be32 b.body 8 (by omega)
    have rcv := if_congr (and_bit_ne_zero flags 1) (rfl : some (latency / 65536) = _)
      (rfl : none = none)
    have snd := if_congr (and_bit_ne_zero flags 0) (rfl : some (latency % 65536) = _)
      (rfl : none = none)
    rw [flagsRead, latencyRead]
    simp only [Option.bind_eq_bind, Option.bind_some, Option.some.injEq]
    constructor
    · intro read
      subst read
      exact ⟨enough, by simp, flags, latency, flagsRead, latencyRead, rcv, snd⟩
    · rintro ⟨-, response, flags', latency', flagsRead', latencyRead', rcvMs, sndMs⟩
      obtain rfl : flags = flags' := Option.some.inj (flagsRead.symm.trans flagsRead')
      obtain rfl : latency = latency' := Option.some.inj (latencyRead.symm.trans latencyRead')
      rcases l with ⟨isResponse, rcvMs', sndMs'⟩
      simp only at response rcvMs sndMs
      have same : isResponse = decide (b.cmd = srtHsExtCmdHsrsp) := by
        rw [Bool.eq_iff_iff, response, decide_eq_true_eq]
      rw [same, rcvMs, sndMs]
      exact congrArg₂ (SrtHandshakeLatency.mk _) rcv snd

theorem bytes_eq (b : ExtBlock) :
    b.bytes = UInt8.ofNat (b.cmd / 256) :: UInt8.ofNat b.cmd :: UInt8.ofNat (b.words / 256) ::
      UInt8.ofNat b.words :: b.body := rfl

end ExtBlock

/-- One complete block, read off the front. -/
theorem findHandshakeLatency_block (b : ExtBlock) (rest : Bytes) :
    findHandshakeLatency (b.bytes ++ rest) =
      if b.IsLatency then b.latency else findHandshakeLatency rest := by
  rw [ExtBlock.bytes_eq]
  simp only [List.cons_append]
  rw [findHandshakeLatency, be16_toBe16 b.cmd_lt, be16_toBe16 b.words_lt, ← b.length_body,
    if_neg (by rw [List.length_append]; omega), List.take_left, List.drop_left]
  exact if_congr Iff.rfl rfl rfl

/-- Four bytes and a body that is all there are a block and a rest. -/
theorem exists_block (a b c d : UInt8) {body : Bytes} (complete : ¬ body.length < be16 c d * 4) :
    ∃ block : ExtBlock, block.cmd = be16 a b ∧
      a :: b :: c :: d :: body = block.bytes ++ body.drop (be16 c d * 4) := by
  refine ⟨⟨be16 a b, be16 c d, body.take (be16 c d * 4), be16_lt a b, be16_lt c d, ?_⟩, rfl, ?_⟩
  · rw [List.length_take]
    omega
  · simp only [ExtBlock.bytes, toBe16_be16, List.cons_append, List.nil_append,
      List.take_append_drop]

/-- Blocks of other commands are walked over, whatever their length. -/
theorem findHandshakeLatency_skip {others : List ExtBlock} (other : ∀ o ∈ others, ¬ o.IsLatency)
    (rest : Bytes) :
    findHandshakeLatency (blockBytes others ++ rest) = findHandshakeLatency rest := by
  induction others with
  | nil => rfl
  | cons o others ih =>
    have first : ¬ o.IsLatency := other o List.mem_cons_self
    rw [blockBytes, List.flatMap_cons, List.append_assoc, findHandshakeLatency_block,
      if_neg first]
    exact ih fun o' member => other o' (List.mem_cons_of_mem o member)

/-- The walk finds a latency exactly when the blocks say one. -/
theorem findHandshakeLatency_iff (rest : Bytes) (l : SrtHandshakeLatency) :
    findHandshakeLatency rest = some l ↔
      ∃ (others : List ExtBlock) (b : ExtBlock) (tail : Bytes),
        rest = blockBytes others ++ (b.bytes ++ tail) ∧
        (∀ o ∈ others, ¬ o.IsLatency) ∧ b.IsLatency ∧ b.Declares l := by
  have here : ∀ {a b c d : UInt8} {body : Bytes}, ¬ body.length < be16 c d * 4 →
      (be16 a b = srtHsExtCmdHsreq ∨ be16 a b = srtHsExtCmdHsrsp) →
      findHandshakeLatency (a :: b :: c :: d :: body) = some l →
      ∃ (others : List ExtBlock) (b' : ExtBlock) (tail : Bytes),
        a :: b :: c :: d :: body = blockBytes others ++ (b'.bytes ++ tail) ∧
        (∀ o ∈ others, ¬ o.IsLatency) ∧ b'.IsLatency ∧ b'.Declares l := by
    intro a b c d body complete cmd found
    obtain ⟨block, sameCmd, cut⟩ := exists_block a b c d complete
    have isLatency : block.IsLatency := by
      rw [ExtBlock.IsLatency, sameCmd]
      exact cmd
    rw [cut, findHandshakeLatency_block, if_pos isLatency] at found
    exact ⟨[], block, _, cut, by simp, isLatency, (block.latency_eq_some_iff l).mp found⟩
  constructor
  · -- along the walk: each block passed over goes to the front of those after it
    intro found
    induction rest using findHandshakeLatency.induct with
    | case1 a b c d body blockLen short =>
      rw [findHandshakeLatency, if_pos short] at found
      cases found
    | case2 a b c d body cmd blockLen complete block isLatency short =>
      exact here complete isLatency found
    | case3 a b c d body cmd blockLen complete block isLatency long =>
      exact here complete isLatency found
    | case4 a b c d body cmd blockLen complete other ih =>
      obtain ⟨extBlock, sameCmd, cut⟩ := exists_block a b c d complete
      have first : ¬ extBlock.IsLatency := by
        rw [ExtBlock.IsLatency, sameCmd]
        exact other
      rw [cut, findHandshakeLatency_block, if_neg first] at found
      obtain ⟨others, b', tail, rest, skips, isLatency, declares⟩ := ih found
      refine ⟨extBlock :: others, b', tail, ?_, ?_, isLatency, declares⟩
      · rw [cut, rest, blockBytes, blockBytes, List.flatMap_cons, List.append_assoc]
      · exact List.forall_mem_cons.mpr ⟨first, skips⟩
    | case5 rest short =>
      rw [findHandshakeLatency] at found
      · cases found
      · exact short
  · rintro ⟨others, b, tail, rfl, skips, isLatency, declares⟩
    rw [findHandshakeLatency_skip skips, findHandshakeLatency_block, if_pos isLatency]
    exact (b.latency_eq_some_iff l).mpr declares

/-- The header checks, then the walk. -/
theorem parseSrtHandshakeLatency_eq_some_iff (buf : Bytes) (l : SrtHandshakeLatency) :
    parseSrtHandshakeLatency buf = some l ↔
      IsConclusion buf ∧ findHandshakeLatency (buf.drop 64) = some l := by
  have drop : (buf.drop srtControlHeaderLen).drop srtHandshakeCifLen = buf.drop 64 := by
    simp only [List.drop_drop, srtControlHeaderLen, srtHandshakeCifLen]
  have hsreq : ∀ word : Nat, (word &&& 0xffff) &&& srtHsExtFlagHsreq = 0 ↔
      ¬ (word % 2 ^ 16).testBit 0 = true := by
    intro word
    have low : word &&& 0xffff = word % 2 ^ 16 := Nat.and_two_pow_sub_one_eq_mod word 16
    rw [low, ← and_bit_ne_zero, not_not]
    rfl
  have long_iff : ¬ buf.length < srtControlHeaderLen ∧
      ¬ (buf.drop srtControlHeaderLen).length < srtHandshakeCifLen ↔ 64 ≤ buf.length := by
    simp only [List.length_drop, srtControlHeaderLen, srtHandshakeCifLen]
    omega
  -- every read is a `bind` and every check an early return of `none`
  simp only [parseSrtHandshakeLatency, Option.bind_eq_bind, Option.bind_eq_some_iff,
    Option.ite_none_left_eq_some, ne_eq, not_not, be32_drop, drop, hsreq]
  constructor
  · rintro ⟨_, type, rfl, short, shortBody, _, version, rfl, request, requestRead, conclusion,
      extension, extensionRead, set, found⟩
    have minusOne := (asI32_eq_neg_one (be32_lt requestRead)).mpr conclusion
    exact ⟨⟨type, long_iff.mp ⟨short, shortBody⟩, version, ⟨request, requestRead, minusOne⟩,
      ⟨extension, extensionRead, set⟩⟩, found⟩
  · rintro ⟨⟨type, long, version, ⟨request, requestRead, minusOne⟩,
      ⟨extension, extensionRead, set⟩⟩, found⟩
    have conclusion := (asI32_eq_neg_one (be32_lt requestRead)).mp minusOne
    obtain ⟨short, shortBody⟩ := long_iff.mpr long
    exact ⟨_, type, rfl, short, shortBody, _, version, rfl, request, requestRead, conclusion,
      extension, extensionRead, set, found⟩

/-! ### Bounds -/

/-- `buf.get(lo..hi)`. -/
def getRange (buf : Bytes) (lo hi : Nat) : Option Bytes :=
  if lo ≤ hi ∧ hi ≤ buf.length then some ((buf.drop lo).take (hi - lo)) else none

/-- `be32` with its four indices checked. The outer `none` is a panic. -/
def be32Checked (buf : Bytes) (off : Nat) : Option (Option Nat) :=
  match getRange buf off (off + 4) with
  | none => some none
  | some bytes => (wordAt bytes 0).map some

/-- `get_packet_type` with its two indices checked. -/
def getPacketTypeChecked (buf : Bytes) : Option (Option Nat) :=
  if buf.length < 2 then some none
  else do
    let a ← buf[0]?
    let b ← buf[1]?
    some (some (be16 a b))

/-- The early return of `?` under a checked read. -/
def readOr {α β : Type} (read : Option (Option α)) (next : α → Option (Option β)) :
    Option (Option β) :=
  match read with
  | none => none
  | some none => some none
  | some (some x) => next x

/-- The walk with every index checked. -/
def findHandshakeLatencyChecked (rest : Bytes) : Option (Option SrtHandshakeLatency) :=
  if rest.length < 4 then some none
  else
    readOr (be32Checked rest 0) fun spec =>
      let cmd := spec / 65536
      let blockLen := spec % 65536 * 4
      match getRange rest 4 (4 + blockLen) with
      | none => some none
      | some block =>
        if cmd = srtHsExtCmdHsreq ∨ cmd = srtHsExtCmdHsrsp then
          if block.length < srtHsExtHsreqWords * 4 then some none
          else
            readOr (be32Checked block 4) fun flags =>
              readOr (be32Checked block 8) fun latency =>
                some (some
                  { isResponse := cmd = srtHsExtCmdHsrsp
                    rcvMs :=
                      if flags &&& srtHsOptTsbpdrcv ≠ 0 then some (latency / 65536) else none
                    sndMs :=
                      if flags &&& srtHsOptTsbpdsnd ≠ 0 then some (latency % 65536) else none })
        -- the slice `rest[4 + block_len..]` panics past the end
        else if 4 + blockLen ≤ rest.length then
          findHandshakeLatencyChecked (rest.drop (4 + blockLen))
        else none
termination_by rest.length
decreasing_by
  rw [List.length_drop]
  omega

/-- `parseSrtHandshakeLatency` with every index checked. -/
def parseSrtHandshakeLatencyChecked (buf : Bytes) : Option (Option SrtHandshakeLatency) :=
  readOr (getPacketTypeChecked buf) fun type =>
    if type ≠ srtTypeHandshake then some none
    else if buf.length < srtControlHeaderLen then some none
    else
      let body := buf.drop srtControlHeaderLen
      if body.length < srtHandshakeCifLen then some none
      else
        readOr (be32Checked body 0) fun version =>
          if version ≠ srtHsVersion5 then some none
          else
            readOr (be32Checked body 20) fun request =>
              if request ≠ srtHsReqtypeConclusion then some none
              else
                readOr (be32Checked body 4) fun extension =>
                  if (extension &&& 0xffff) &&& srtHsExtFlagHsreq = 0 then some none
                  else findHandshakeLatencyChecked (body.drop srtHandshakeCifLen)

theorem readOr_word {α β : Type} (x : α) (next : α → Option (Option β)) :
    readOr (some (some x)) next = next x := rfl

/-- A checked read that does not panic, followed by one that does not. -/
theorem readOr_some {α β : Type} (read : Option α) {next : α → Option (Option β)}
    {next' : α → Option β} (same : ∀ x, read = some x → next x = some (next' x)) :
    readOr (some read) next = some (read.bind next') := by
  cases read with
  | none => rfl
  | some x => exact same x rfl

/-- A check that returns early, under the same reading. -/
theorem returnOr_some {β : Type} {p : Prop} [Decidable p] {next : Option (Option β)}
    {next' : Option β} (same : next = some next') :
    (if p then some none else next) = some (if p then none else next') := by
  rw [same]
  exact (apply_ite some p none next').symm

theorem getPacketTypeChecked_eq (buf : Bytes) :
    getPacketTypeChecked buf = some (getPacketType buf) := by
  match buf with
  | [] => rfl
  | [_] => rfl
  | a :: b :: rest =>
    have long : ¬ (a :: b :: rest).length < 2 := by simp
    rw [getPacketTypeChecked, if_neg long]
    rfl

/-- The slice of four bytes has four bytes. -/
theorem be32Checked_eq (buf : Bytes) (off : Nat) : be32Checked buf off = some (be32 buf off) := by
  by_cases fits : off + 4 ≤ buf.length
  · have inside : off + 3 < buf.length := by omega
    obtain ⟨a, b, c, d, bytes, -⟩ := drop_eq_wordAt inside
    rw [be32Checked, getRange, if_pos ⟨Nat.le_add_right _ _, fits⟩, be32, bytes,
      Nat.add_sub_cancel_left]
    rfl
  · have short : (buf.drop off).length < 4 := by
      rw [List.length_drop]
      omega
    have none : be32 buf off = none := by
      rw [be32]
      split
      · rename_i bytes
        rw [bytes] at short
        simp only [List.length_cons] at short
        omega
      · rfl
    rw [be32Checked, getRange, if_neg fun inside => fits inside.2, none]

/-- The checked walk at a spec word. -/
theorem findHandshakeLatencyChecked_cons (a b c d : UInt8) (body : Bytes) :
    findHandshakeLatencyChecked (a :: b :: c :: d :: body) =
      if body.length < be16 c d * 4 then some none
      else if be16 a b = srtHsExtCmdHsreq ∨ be16 a b = srtHsExtCmdHsrsp then
        some (findHandshakeLatency (a :: b :: c :: d :: body))
      else findHandshakeLatencyChecked (body.drop (be16 c d * 4)) := by
  have long : ¬ (a :: b :: c :: d :: body).length < 4 := by simp
  have spec : be32Checked (a :: b :: c :: d :: body) 0 = some (some (be32Word a b c d)) := by
    rw [be32Checked_eq, be32, List.drop_zero]
  -- the first word is the command above the length
  have cmd : be32Word a b c d / 65536 = be16 a b := by
    have := be16_lt c d
    simp only [be32Word]
    omega
  have len : be32Word a b c d % 65536 = be16 c d := by
    have := be16_lt c d
    simp only [be32Word]
    omega
  rw [findHandshakeLatencyChecked, if_neg long, spec, readOr_word]
  simp only [cmd, len]
  by_cases short : body.length < be16 c d * 4
  · have outside : ¬ (4 ≤ 4 + be16 c d * 4 ∧
        4 + be16 c d * 4 ≤ (a :: b :: c :: d :: body).length) := by
      simp only [List.length_cons]
      omega
    rw [if_pos short, getRange, if_neg outside]
  · have inside : 4 ≤ 4 + be16 c d * 4 ∧
        4 + be16 c d * 4 ≤ (a :: b :: c :: d :: body).length := by
      simp only [List.length_cons]
      omega
    have block : getRange (a :: b :: c :: d :: body) 4 (4 + be16 c d * 4) =
        some (body.take (be16 c d * 4)) := by
      rw [getRange, if_pos inside, Nat.add_sub_cancel_left]
      rfl
    have rest : (a :: b :: c :: d :: body).drop (4 + be16 c d * 4) = body.drop (be16 c d * 4) := by
      rw [← List.drop_drop]
      rfl
    rw [if_neg short, block]
    simp only [if_pos inside.2, rest]
    by_cases isLatency : be16 a b = srtHsExtCmdHsreq ∨ be16 a b = srtHsExtCmdHsrsp
    · rw [if_pos isLatency, if_pos isLatency, findHandshakeLatency, if_neg short,
        if_pos isLatency]
      by_cases few : (body.take (be16 c d * 4)).length < srtHsExtHsreqWords * 4
      · rw [if_pos few, if_pos few]
      · rw [if_neg few, if_neg few, be32Checked_eq, be32Checked_eq]
        exact readOr_some _ fun flags _ => readOr_some _ fun latency _ => rfl
    · rw [if_neg isLatency, if_neg isLatency]

/-- The walk stays inside the buffer. -/
theorem findHandshakeLatencyChecked_eq (rest : Bytes) :
    findHandshakeLatencyChecked rest = some (findHandshakeLatency rest) := by
  induction rest using findHandshakeLatency.induct with
  | case1 a b c d body blockLen short =>
    rw [findHandshakeLatencyChecked_cons, if_pos short, findHandshakeLatency, if_pos short]
  | case2 a b c d body cmd blockLen complete block isLatency few =>
    rw [findHandshakeLatencyChecked_cons, if_neg complete, if_pos isLatency]
  | case3 a b c d body cmd blockLen complete block isLatency enough =>
    rw [findHandshakeLatencyChecked_cons, if_neg complete, if_pos isLatency]
  | case4 a b c d body cmd blockLen complete other ih =>
    rw [findHandshakeLatencyChecked_cons, if_neg complete, if_neg other, findHandshakeLatency,
      if_neg complete, if_neg other]
    exact ih
  | case5 rest short =>
    have few : rest.length < 4 := by
      match rest, short with
      | [], _ => simp
      | [_], _ => simp
      | [_, _], _ => simp
      | [_, _, _], _ => simp
      | a :: b :: c :: d :: body, short => exact (short a b c d body rfl).elim
    rw [findHandshakeLatencyChecked, if_pos few, findHandshakeLatency]
    exact short

/-- No index of the parser is out of bounds. -/
theorem parseSrtHandshakeLatencyChecked_eq (buf : Bytes) :
    parseSrtHandshakeLatencyChecked buf = some (parseSrtHandshakeLatency buf) := by
  simp only [parseSrtHandshakeLatencyChecked, parseSrtHandshakeLatency, getPacketTypeChecked_eq,
    be32Checked_eq, findHandshakeLatencyChecked_eq, Option.bind_eq_bind]
  refine readOr_some _ fun type _ => ?_
  refine returnOr_some (returnOr_some (returnOr_some ?_))
  refine readOr_some _ fun version _ => returnOr_some ?_
  refine readOr_some _ fun request _ => returnOr_some ?_
  exact readOr_some _ fun extension _ => returnOr_some rfl

/-! ### The parser and its grammar -/

/-- The header lies in the first 64 bytes. -/
theorem isConclusion_congr {head tail tail' : Bytes} (size : head.length = 64) :
    IsConclusion (head ++ tail) → IsConclusion (head ++ tail') := by
  have word : ∀ off, off + 4 ≤ 64 → be32 (head ++ tail) off = be32 (head ++ tail') off := by
    intro off early
    have inside : off + 3 < head.length := by omega
    obtain ⟨a, b, c, d, bytes, -⟩ := drop_eq_wordAt inside
    simp only [be32, List.drop_append_of_le_length (show off ≤ head.length by omega), bytes,
      List.cons_append]
  rintro ⟨type, -, version, request, hsreq⟩
  refine ⟨?_, by rw [List.length_append]; omega, ?_, ?_, ?_⟩
  · have inside : 0 + 3 < head.length := by omega
    obtain ⟨a, b, c, d, bytes, -⟩ := drop_eq_wordAt inside
    rw [List.drop_zero] at bytes
    rw [bytes] at type ⊢
    exact type
  · rw [← word 16 (by omega)]
    exact version
  · rw [← word 36 (by omega)]
    exact request
  · rw [← word 20 (by omega)]
    exact hsreq

/-- The handshake latency parser: it never reads out of bounds, it accepts exactly the
grammar, and what follows the first HSREQ or HSRSP block has no influence. -/
theorem handshake_latency_grammar :
    (∀ buf, parseSrtHandshakeLatencyChecked buf = some (parseSrtHandshakeLatency buf)) ∧
    (∀ buf l, parseSrtHandshakeLatency buf = some l ↔
      IsConclusion buf ∧
        ∃ (others : List ExtBlock) (b : ExtBlock) (tail : Bytes),
          buf.drop 64 = blockBytes others ++ (b.bytes ++ tail) ∧
          (∀ o ∈ others, ¬ o.IsLatency) ∧ b.IsLatency ∧ b.Declares l) ∧
    (∀ (head : Bytes) (others : List ExtBlock) (b : ExtBlock) (tail tail' : Bytes),
      head.length = 64 → (∀ o ∈ others, ¬ o.IsLatency) → b.IsLatency →
      parseSrtHandshakeLatency (head ++ (blockBytes others ++ (b.bytes ++ tail))) =
        parseSrtHandshakeLatency (head ++ (blockBytes others ++ (b.bytes ++ tail')))) := by
  refine ⟨parseSrtHandshakeLatencyChecked_eq, fun buf l => ?_, ?_⟩
  · rw [parseSrtHandshakeLatency_eq_some_iff, findHandshakeLatency_iff]
  · intro head others b tail tail' size skips isLatency
    have walk : ∀ rest, findHandshakeLatency
        ((head ++ (blockBytes others ++ (b.bytes ++ rest))).drop 64) = b.latency := by
      intro rest
      rw [List.drop_left' size, findHandshakeLatency_skip skips, findHandshakeLatency_block,
        if_pos isLatency]
    apply Option.ext
    intro l
    rw [parseSrtHandshakeLatency_eq_some_iff, parseSrtHandshakeLatency_eq_some_iff, walk, walk]
    exact and_congr_left fun _ => ⟨isConclusion_congr size, isConclusion_congr size⟩

/-- The header of a version 5 conclusion with the HSREQ bit. -/
def conclusionHead : Bytes :=
  toBe16 srtTypeHandshake ++ List.replicate 14 0 ++ toBe32 5 ++ toBe32 1 ++ List.replicate 12 0 ++
    toBe32 (2 ^ 32 - 1) ++ List.replicate 24 0

/-- A block of another command with no body. -/
def emptyBlock : ExtBlock := ⟨7, 0, [], by decide, by decide, rfl⟩

/-- An HSRSP block with both TSBPD flags, 200 ms to receive and 120 ms to send. -/
def hsrspBlock : ExtBlock :=
  ⟨2, 3, toBe32 0x010500 ++ toBe32 3 ++ toBe32 (200 * 65536 + 120), by decide, by decide, rfl⟩

/-- An HSRSP block after an empty one and before garbage. -/
theorem handshake_latency_grammar_hsrsp :
    parseSrtHandshakeLatency
        (conclusionHead ++ (blockBytes [emptyBlock] ++ (hsrspBlock.bytes ++ [0xff, 0]))) =
      some ⟨true, some 200, some 120⟩ ∧
    parseSrtHandshakeLatency
        (conclusionHead ++ (blockBytes [emptyBlock] ++ (hsrspBlock.bytes ++ [0xff, 0]))) =
      parseSrtHandshakeLatency
        (conclusionHead ++ (blockBytes [emptyBlock] ++ (hsrspBlock.bytes ++ []))) := by
  have skips : ∀ o ∈ [emptyBlock], ¬ o.IsLatency := by decide
  refine ⟨(handshake_latency_grammar.2.1 _ _).mpr ⟨?_, [emptyBlock], hsrspBlock, [0xff, 0], ?_,
    skips, by decide, ?_⟩, handshake_latency_grammar.2.2 conclusionHead [emptyBlock] hsrspBlock
      [0xff, 0] [] (by decide) skips (by decide)⟩
  · exact ⟨by decide, by decide, by decide, ⟨2 ^ 32 - 1, by decide, by decide⟩,
      ⟨1, by decide, by decide⟩⟩
  · rw [List.drop_left' (by decide)]
  · exact ⟨by decide, by decide, 3, 200 * 65536 + 120, by decide, by decide, by decide, by decide⟩

end SrtlaSend

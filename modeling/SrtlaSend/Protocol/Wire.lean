import SrtlaSend.Lib.ByteLayout
import SrtlaSend.Lib.MachineInt
import Mathlib.Data.List.Basic
import Mathlib.Tactic.Common

/-!
# The SRTLA wire protocol

Packet types, sizes and timeouts of the protocol, the packet builders, and the
parsers for every frame the sender reads off an uplink. A datagram is a list of
bytes; the fields read from it are natural numbers in the range of their type.
-/

namespace SrtlaSend

open ByteLayout

/-- A datagram, or any other byte buffer. -/
abbrev Bytes := List UInt8

/-! ### Packet types -/

def srtlaTypeKeepalive : Nat := 0x9000
def srtlaTypeAck : Nat := 0x9100
def srtlaTypeReg1 : Nat := 0x9200
def srtlaTypeReg2 : Nat := 0x9201
def srtlaTypeReg3 : Nat := 0x9202
def srtlaTypeRegErr : Nat := 0x9210
def srtlaTypeRegNgp : Nat := 0x9211
def srtTypeHandshake : Nat := 0x8000
def srtTypeAck : Nat := 0x8002
def srtTypeNak : Nat := 0x8003

/-! ### Sizes, timeouts and window constants -/

def srtlaIdLen : Nat := 256
def srtlaTypeReg1Len : Nat := 2 + srtlaIdLen
def srtlaTypeReg2Len : Nat := 2 + srtlaIdLen
def srtControlHeaderLen : Nat := 16
def srtHandshakeCifLen : Nat := 48
def srtHsVersion5 : Nat := 5
/-- `URQ_CONCLUSION` is -1, read off the wire as an unsigned word. -/
def srtHsReqtypeConclusion : Nat := 2 ^ 32 - 1
def srtHsExtFlagHsreq : Nat := 1
def srtHsExtCmdHsreq : Nat := 1
def srtHsExtCmdHsrsp : Nat := 2
def srtHsExtHsreqWords : Nat := 3
def srtHsOptTsbpdsnd : Nat := 1
def srtHsOptTsbpdrcv : Nat := 2
def srtlaKeepaliveMagic : Nat := 0xc01f
def srtlaKeepaliveExtLen : Nat := 38
def srtlaKeepaliveExtVersion : Nat := 1

/-- Seconds, like the two below it. -/
def connTimeout : Nat := 5
def reg2Timeout : Nat := 4
def reg3Timeout : Nat := 4
def idleTime : Nat := 1

def windowMin : Int := 1
def windowDef : Int := 20
def windowMax : Int := 60
def windowMult : Int := 1000
def windowDecr : Int := 100
def windowIncr : Int := 30

/-! ### Big-endian words -/

def be16 (a b : UInt8) : Nat := a.toNat * 256 + b.toNat

def be32Word (a b c d : UInt8) : Nat := be16 a b * 65536 + be16 c d

/-- The big-endian word at `off`, when it fits. -/
def be32 (buf : Bytes) (off : Nat) : Option Nat :=
  match buf.drop off with
  | a :: b :: c :: d :: _ => some (be32Word a b c d)
  | _ => none

/-- The big-endian half word at `off`, when it fits. -/
def be16At (buf : Bytes) (off : Nat) : Option Nat :=
  match buf.drop off with
  | a :: b :: _ => some (be16 a b)
  | _ => none

def toBe16 (n : Nat) : Bytes := [UInt8.ofNat (n / 256), UInt8.ofNat n]

def toBe32 (n : Nat) : Bytes := toBe16 (n / 65536) ++ toBe16 n

def toBe64 (n : Nat) : Bytes := toBe32 (n / 2 ^ 32) ++ toBe32 n

theorem toBe16_eq (n : Nat) : toBe16 n = encode 2 n := by
  simp only [toBe16, encode, Nat.pow_one, Nat.pow_zero, Nat.div_one]

theorem toBe32_eq (n : Nat) : toBe32 n = encode 4 n := by
  rw [toBe32, toBe16_eq, toBe16_eq]
  exact (encode_add 2 2 n).symm

theorem toBe64_eq (n : Nat) : toBe64 n = encode 8 n := by
  rw [toBe64, toBe32_eq, toBe32_eq]
  exact (encode_add 4 4 n).symm

theorem be16_eq (a b : UInt8) : be16 a b = value [a, b] := by
  simp only [be16, value, List.foldl_cons, List.foldl_nil]
  omega

theorem be32Word_eq (a b c d : UInt8) : be32Word a b c d = value [a, b, c, d] := by
  simp only [be32Word, be16, value, List.foldl_cons, List.foldl_nil]
  omega

theorem be16At_eq {buf : Bytes} {off : Nat} (fits : off + 2 ≤ buf.length) :
    be16At buf off = some (field buf off 2) := by
  have length : 2 ≤ (buf.drop off).length := by
    rw [List.length_drop]
    omega
  obtain ⟨a, tail, bytes, one⟩ := exists_eq_cons length
  obtain ⟨b, rest, rfl, -⟩ := exists_eq_cons one
  rw [be16At, field, bytes]
  exact congrArg some (be16_eq a b)

theorem be32_eq {buf : Bytes} {off : Nat} (fits : off + 4 ≤ buf.length) :
    be32 buf off = some (field buf off 4) := by
  have length : 4 ≤ (buf.drop off).length := by
    rw [List.length_drop]
    omega
  obtain ⟨a, tail, bytes, three⟩ := exists_eq_cons length
  obtain ⟨b, tail, rfl, two⟩ := exists_eq_cons three
  obtain ⟨c, tail, rfl, one⟩ := exists_eq_cons two
  obtain ⟨d, rest, rfl, -⟩ := exists_eq_cons one
  rw [be32, field, bytes]
  exact congrArg some (be32Word_eq a b c d)

/-! ### Frame inspection -/

def getPacketType : Bytes → Option Nat
  | a :: b :: _ => some (be16 a b)
  | _ => none

theorem getPacketType_eq {buf : Bytes} (fits : 2 ≤ buf.length) :
    getPacketType buf = some (field buf 0 2) := by
  obtain ⟨a, tail, rfl, one⟩ := exists_eq_cons fits
  obtain ⟨b, rest, rfl, -⟩ := exists_eq_cons one
  exact congrArg some (be16_eq a b)

/-- The sequence number of an SRT data packet; control packets have the top bit set. -/
def getSrtSequenceNumber (buf : Bytes) : Option Nat :=
  match buf with
  | a :: b :: c :: d :: _ =>
    let sn := be32Word a b c d
    if sn &&& 0x80000000 = 0 then some sn else none
  | _ => none

/-- The R bit of an SRT data packet. -/
def isSrtDataRetransmit (buf : Bytes) : Bool :=
  match buf with
  | a :: _ :: _ :: _ :: e :: _ :: _ :: _ :: _ => (a &&& 0x80 == 0) && (e &&& 0x04 != 0)
  | _ => false

def setSrtDataRetransmit (buf : Bytes) : Bytes :=
  match buf with
  | a :: b :: c :: d :: e :: f :: g :: h :: rest =>
    if a &&& 0x80 == 0 then a :: b :: c :: d :: (e ||| 0x04) :: f :: g :: h :: rest else buf
  | _ => buf

/-! ### Builders -/

/-- A bond's group identifier: exactly `srtlaIdLen` bytes. -/
abbrev SrtlaId := { bytes : Bytes // bytes.length = srtlaIdLen }

def createReg1Packet (id : SrtlaId) : Bytes := toBe16 srtlaTypeReg1 ++ id.val

def createReg2Packet (id : SrtlaId) : Bytes := toBe16 srtlaTypeReg2 ++ id.val

/-- Telemetry carried by an extended keepalive. -/
structure ConnectionInfo where
  connId : Nat
  window : Int
  inFlight : Int
  rttMs : Nat
  nakCount : Nat
  bitrateBytesPerSec : Nat
deriving DecidableEq, Repr

def createKeepalivePacket (now : Nat) : Bytes := toBe16 srtlaTypeKeepalive ++ toBe64 now

def createKeepalivePacketExt (info : ConnectionInfo) (now : Nat) : Bytes :=
  toBe16 srtlaTypeKeepalive ++ toBe64 now ++ toBe16 srtlaKeepaliveMagic ++
    toBe16 srtlaKeepaliveExtVersion ++ toBe32 info.connId ++
    toBe32 (info.window % 2 ^ 32).toNat ++ toBe32 (info.inFlight % 2 ^ 32).toNat ++
    toBe32 info.rttMs ++ toBe32 info.nakCount ++ toBe32 info.bitrateBytesPerSec

/-- An SRTLA ACK: a four-byte header, two bytes of it padding, and the acknowledged sequences. -/
def createAckPacket (acks : List Nat) : Bytes :=
  toBe16 srtlaTypeAck ++ [0x00, 0x00] ++ acks.flatMap toBe32

/-! ### Parsers -/

def extractKeepaliveTimestamp (buf : Bytes) : Option Nat :=
  if buf.length < 10 then none
  else if getPacketType buf ≠ some srtlaTypeKeepalive then none
  else some (((buf.drop 2).take 8).foldl (fun ts b => ts * 256 + b.toNat) 0)

/-- The telemetry of an extended keepalive. The offsets lie inside the 38 bytes that the
first test asks for. -/
def extractKeepaliveConnInfo (buf : Bytes) : Option ConnectionInfo :=
  if buf.length < srtlaKeepaliveExtLen then none
  else if getPacketType buf ≠ some srtlaTypeKeepalive then none
  else do
    let magic ← be16At buf 10
    if magic ≠ srtlaKeepaliveMagic then none
    else
      let version ← be16At buf 12
      if version ≠ srtlaKeepaliveExtVersion then none
      else
        let connId ← be32 buf 14
        let window ← be32 buf 18
        let inFlight ← be32 buf 22
        let rttMs ← be32 buf 26
        let nakCount ← be32 buf 30
        let bitrateBytesPerSec ← be32 buf 34
        some
          { connId
            window := MachineInt.asI32 window
            inFlight := MachineInt.asI32 inFlight
            rttMs
            nakCount
            bitrateBytesPerSec }

def parseSrtAck (buf : Bytes) : Option Nat :=
  if buf.length < 20 then none
  else if getPacketType buf ≠ some srtTypeAck then none
  else be32 buf 16

def srtNakRangeFlag : Nat := 0x80000000

def srtNakMaxLossIds : Nat := 1000

/-- Pushes `seq`, `seq + 1`, ... up to `seq + more`, stopping at the cap. -/
def pushRange (seq : Nat) : Nat → List Nat → List Nat
  | 0, out => if out.length ≥ srtNakMaxLossIds then out else out ++ [seq]
  | more + 1, out =>
    if out.length ≥ srtNakMaxLossIds then out else pushRange (seq + 1) more (out ++ [seq])

/-- The loss-list walk over the bytes after the control header. -/
def parseLossList : Bytes → List Nat → List Nat
  | a :: b :: c :: d :: rest, out =>
    let id := be32Word a b c d
    if id &&& srtNakRangeFlag = 0 then parseLossList rest (out ++ [id])
    else
      match rest with
      | e :: f :: g :: h :: rest =>
        let start := id &&& 0x7fffffff
        let last := be32Word e f g h
        -- An invalid range is skipped; both of its words are consumed.
        if last &&& srtNakRangeFlag ≠ 0 ∨ last < start then parseLossList rest out
        else parseLossList rest (pushRange start (last - start) out)
      | _ => out
  | _, out => out

def parseSrtNak (buf : Bytes) : List Nat :=
  if buf.length < srtControlHeaderLen + 4 then []
  else if getPacketType buf ≠ some srtTypeNak then []
  else parseLossList (buf.drop srtControlHeaderLen) []

/-- The 32-bit words of a buffer, an incomplete trailing one ignored. -/
def be32Words : Bytes → List Nat
  | a :: b :: c :: d :: rest => be32Word a b c d :: be32Words rest
  | _ => []

def parseSrtlaAck (buf : Bytes) : List Nat :=
  if buf.length < 8 then []
  else if getPacketType buf ≠ some srtlaTypeAck then []
  else be32Words (buf.drop 4)

/-- TSBPD latency declared in a handshake extension block. -/
structure SrtHandshakeLatency where
  isResponse : Bool
  rcvMs : Option Nat
  sndMs : Option Nat
deriving DecidableEq, Repr

/-- The walk over the extension blocks of a handshake. -/
def findHandshakeLatency (rest : Bytes) : Option SrtHandshakeLatency :=
  match rest with
  | a :: b :: c :: d :: body =>
    let cmd := be16 a b
    let blockLen := be16 c d * 4
    if body.length < blockLen then none
    else
      let block := body.take blockLen
      if cmd = srtHsExtCmdHsreq ∨ cmd = srtHsExtCmdHsrsp then
        if block.length < srtHsExtHsreqWords * 4 then none
        else do
          let flags ← be32 block 4
          let latency ← be32 block 8
          some
            { isResponse := cmd = srtHsExtCmdHsrsp
              rcvMs := if flags &&& srtHsOptTsbpdrcv ≠ 0 then some (latency / 65536) else none
              sndMs := if flags &&& srtHsOptTsbpdsnd ≠ 0 then some (latency % 65536) else none }
      else findHandshakeLatency (body.drop blockLen)
  | _ => none
termination_by rest.length
decreasing_by
  simp only [List.length_drop, List.length_cons]
  omega

def parseSrtHandshakeLatency (buf : Bytes) : Option SrtHandshakeLatency := do
  let type ← getPacketType buf
  if type ≠ srtTypeHandshake then none
  else if buf.length < srtControlHeaderLen then none
  else
    let body := buf.drop srtControlHeaderLen
    if body.length < srtHandshakeCifLen then none
    else
      let version ← be32 body 0
      if version ≠ srtHsVersion5 then none
      else
        let request ← be32 body 20
        if request ≠ srtHsReqtypeConclusion then none
        else
          let extension ← be32 body 4
          if (extension &&& 0xffff) &&& srtHsExtFlagHsreq = 0 then none
          else findHandshakeLatency (body.drop srtHandshakeCifLen)

end SrtlaSend

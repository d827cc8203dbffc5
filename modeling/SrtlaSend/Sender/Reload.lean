import SrtlaSend.Core.Connection
import SrtlaSend.Lib.Text

/-!
# The list of uplinks

Each line of the file is an IP with an optional weight. A file without a usable line is
refused, so that the stream keeps the links it has. The parser of addresses is a parameter,
and the warnings about bad weights are left out.
-/

namespace SrtlaSend

open Text

inductive ReloadRefusal
  | notFound
  | empty
  | noValidIps (firstInvalidLine : Nat)
deriving DecidableEq, Repr

inductive IpReload
  | apply (ips : List IpAddr) (weights : List Nat) (firstInvalidLine : Option Nat)
  | refuse (refusal : ReloadRefusal)
deriving DecidableEq, Repr

/-- The weight column of a line that has one. -/
def parseWeight (raw : List Char) : Nat :=
  match parseU64 raw with
  | none => linkWeightMin
  | some 0 => linkWeightMin
  | some w => if w > linkWeightMax then linkWeightMax else w % 2 ^ 8

/-- One non-blank line. The weight never makes it invalid, a third field does. -/
def parseIpLine (parseIp : List Char → Option IpAddr) (line : List Char) : Option (IpAddr × Nat) :=
  match splitWhitespace line with
  | [] => none
  | first :: rest =>
    match parseIp first with
    | none => none
    | some ip =>
      let (weight, rest) := match rest with
        | [] => (linkWeightMin, [])
        | raw :: rest => (parseWeight raw, rest)
      if rest.isEmpty then some (ip, weight) else none

/-- The variables of the loop over the lines. -/
structure IpScan where
  ips : List IpAddr := []
  weights : List Nat := []
  firstInvalidLine : Option Nat := none
  sawContent : Bool := false

/-- One line, with its index. -/
def IpScan.readLine (parseIp : List Char → Option IpAddr) (scan : IpScan)
    (line : List Char × Nat) : IpScan :=
  let trimmed := trim line.1
  if trimmed.isEmpty then scan
  else
    let scan := { scan with sawContent := true }
    match parseIpLine parseIp trimmed with
    | some (ip, weight) => { scan with ips := scan.ips ++ [ip], weights := scan.weights ++ [weight] }
    | none =>
      if scan.firstInvalidLine.isNone then { scan with firstInvalidLine := some (line.2 + 1) }
      else scan

/-- What to do with the text of the file; `none` if the normalisation of the weights leaves
the range of a `u8`. -/
def analyzeIpReloadText (parseIp : List Char → Option IpAddr) (text : List Char) : Option IpReload :=
  let scan := (lines text).zipIdx.foldl (IpScan.readLine parseIp) {}
  (normaliseLinkWeights scan.weights).map fun weights =>
    if scan.ips.isEmpty then
      if scan.sawContent then .refuse (.noValidIps (scan.firstInvalidLine.getD 1))
      else .refuse .empty
    else .apply scan.ips weights scan.firstInvalidLine

/-- The same from the file, which may be unreadable. -/
def analyzeIpReload (parseIp : List Char → Option IpAddr) (file : Option (List Char)) :
    Option IpReload :=
  match file with
  | some text => analyzeIpReloadText parseIp text
  | none => some (.refuse .notFound)

end SrtlaSend

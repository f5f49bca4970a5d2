import KrotRelay.Lib.Text
import KrotRelay.Source.Handshake

/-!
# The authorized_keys file (krot-server/src/keys.rs, rate.rs, admin_api.rs)

One entry to a line. `parse_line` reads a text as one entry, whatever line feeds it
contains; `parse_file` cuts the file at its line feeds first. `append_line` and
`remove_pubkey` rewrite the whole file. Texts are lists of characters. Base64 is third-party:
its decoder is a parameter. Log messages are left out.
-/
namespace KrotRelay.Source
open Lib

/-- The period names of `parse_rate_per`. -/
def Period.ofText (name : List Char) : Option Period :=
  if name ∈ ["s".toList, "sec".toList, "second".toList] then some .second
  else if name ∈ ["m".toList, "min".toList, "minute".toList] then some .minute
  else if name ∈ ["h".toList, "hr".toList, "hour".toList] then some .hour
  else if name ∈ ["d".toList, "day".toList] then some .day
  else if name ∈ ["w".toList, "week".toList] then some .week
  else if name ∈ ["mo".toList, "month".toList] then some .month
  else none

/-- The multipliers of `parse_bytes`. -/
def unitBytes (unit : List Char) : Option Nat :=
  if unit ∈ ["".toList, "B".toList] then some 1
  else if unit ∈ ["KB".toList, "kB".toList] then some 1000
  else if unit = "KiB".toList then some 1024
  else if unit = "MB".toList then some 1000000
  else if unit = "MiB".toList then some (1024 * 1024)
  else if unit = "GB".toList then some 1000000000
  else if unit = "GiB".toList then some (1024 * 1024 * 1024)
  else if unit = "TB".toList then some 1000000000000
  else if unit = "TiB".toList then some (1024 ^ 4)
  else none

def isAsciiDigit (c : Char) : Bool := (digitValue c).isSome

def parseBytes (s : List Char) : Option UInt64 := do
  let n ← parseUnsigned (2 ^ 64) (s.takeWhile isAsciiDigit)
  let mul ← unitBytes (trim (s.dropWhile isAsciiDigit))
  if n * mul < 2 ^ 64 then some (UInt64.ofNat (n * mul)) else none

def parseRatePer (s : List Char) : Option RatePer := do
  let (amount, period) ← rsplitOnce '/' s
  let period ← Period.ofText (trim period)
  let bytes ← parseBytes (trim amount)
  some { bytes, period }

/-- How the admin API shows a rate. -/
def formatRate (rate : RatePer) : String :=
  let period :=
    match rate.period with
    | .second => "s"
    | .minute => "m"
    | .hour => "h"
    | .day => "day"
    | .week => "week"
    | .month => "month"
  toString rate.bytes.toNat ++ "B/" ++ period

def parsePort (text : List Char) : Option Nat := parseUnsigned (2 ^ 16) text

/-- One item of a `ports=` list: a port or an inclusive range. -/
def parsePortItem (part : List Char) : Option (List UInt16) :=
  match splitOnce '-' part with
  | some (lo, hi) => do
    let lo ← parsePort (trim lo)
    let hi ← parsePort (trim hi)
    if hi < lo then none
    else some ((List.range (hi - lo + 1)).map fun i => UInt16.ofNat (lo + i))
  | none => (parsePort part).map fun port => [UInt16.ofNat port]

def parsePorts (s : List Char) : Option (List UInt16) := do
  let items ← (s.splitOn ',').mapM fun part => parsePortItem (trim part)
  if items.flatten.isEmpty then none else some items.flatten

/-- The options `parse_line` knows. -/
inductive OptionKey where
  | subdomain | conns | bw | quota | ports | federation
  deriving DecidableEq

def OptionKey.ofText (name : List Char) : Option OptionKey :=
  if name = "subdomain".toList then some .subdomain
  else if name = "conns".toList then some .conns
  else if name = "bw".toList then some .bw
  else if name = "quota".toList then some .quota
  else if name = "ports".toList then some .ports
  else if name = "federation".toList then some .federation
  else none

/-- One fragment between commas: a known option, or more of the value before it. -/
def addFragment (pairs : List (OptionKey × List Char)) (tok : List Char) :
    List (OptionKey × List Char) :=
  match (splitOnce '=' tok).bind fun (k, v) => (OptionKey.ofText k).map fun key => (key, v) with
  | some pair => pairs ++ [pair]
  | none =>
    match pairs.getLast? with
    | some (key, value) => pairs.dropLast ++ [(key, value ++ ',' :: tok)]
    | none => pairs

/-- The options of a line: its remaining words joined by commas and split again. -/
def optionPairs (words : List (List Char)) : List (OptionKey × List Char) :=
  (([','].intercalate words).splitOn ',').foldl addFragment []

def AuthorizedEntry.default : AuthorizedEntry where
  allowAnySubdomain := false
  allowedSubdomains := []
  maxConns := none
  allowedPorts := none
  bw := none
  quota := none
  federation := []
  comment := none

def applyOption (entry : AuthorizedEntry) : OptionKey × List Char → AuthorizedEntry
  | (.subdomain, v) =>
    if v = "*".toList then { entry with allowAnySubdomain := true }
    else { entry with allowedSubdomains := (v.splitOn ',').map String.ofList }
  | (.conns, v) => { entry with maxConns := (parseUnsigned (2 ^ 32) v).map UInt32.ofNat }
  | (.bw, v) => { entry with bw := parseRatePer v }
  | (.quota, v) => { entry with quota := parseRatePer v }
  | (.ports, v) => { entry with allowedPorts := parsePorts v }
  | (.federation, v) =>
    { entry with
      federation :=
        (((v.splitOn ',').map trim).filter fun apex => !apex.isEmpty).map String.ofList }

/-- The line up to its comment, trimmed. -/
def bareLine (line : List Char) : List Char := trim (line.takeWhile (· != '#'))

/-- What follows the first `#`, trimmed; nothing if that is empty. -/
def lineComment (line : List Char) : Option String :=
  match splitOnce '#' line with
  | some (_, text) => if (trim text).isEmpty then none else some (String.ofList (trim text))
  | none => none

theorem PubKey.size_toArray {raw : List UInt8} (size : raw.length = 32) : raw.toArray.size = 32 :=
  List.size_toArray.trans size

/-- The 32 bytes of a key. -/
def PubKey.ofBytes (raw : List UInt8) : Option PubKey :=
  if size : raw.length = 32 then some ⟨⟨raw.toArray, PubKey.size_toArray size⟩⟩ else none

section Parsing
variable (decode : List Char → Option (List UInt8))

def parseLine (line : List Char) : Option (PubKey × AuthorizedEntry) :=
  match splitWhitespace (bareLine line) with
  | algo :: b64 :: options =>
    if algo ≠ "ed25519".toList then none
    else do
      let raw ← decode b64
      let pubkey ← PubKey.ofBytes raw
      let entry := (optionPairs options).foldl applyOption .default
      some (pubkey, { entry with comment := lineComment line })
  | _ => none

/-- A line `parse_file` and `remove_pubkey` pass over. -/
def skipped (trimmed : List Char) : Bool := trimmed.isEmpty || trimmed.head? == some '#'

/-- The loop of `parse_file` from line `idx` on; a later line for a key replaces an earlier one. -/
def parseLines (idx : Nat) (out : HashMap PubKey AuthorizedEntry) :
    List (List Char) → Except ServerError (HashMap PubKey AuthorizedEntry)
  | [] => .ok out
  | line :: rest =>
    let trimmed := trim line
    if skipped trimmed then parseLines (idx + 1) out rest
    else
      match parseLine decode trimmed with
      | none => .error (.keys ("line " ++ toString (idx + 1) ++ ": " ++ String.ofList line))
      | some (pk, entry) => parseLines (idx + 1) (out.insert pk entry) rest

/-- `parse_file` on the text it read. -/
def parseText (text : List Char) : Except ServerError (HashMap PubKey AuthorizedEntry) :=
  parseLines decode 0 ∅ (lines text)

/-- Does `remove_pubkey` drop this line? -/
def names (target : PubKey) (line : List Char) : Bool :=
  !skipped (trim line) && (parseLine decode (trim line)).any fun (pk, _) => pk = target

/-- The contents `append_line` writes. -/
def appended (contents line : List Char) : List Char :=
  let new :=
    if !contents.isEmpty && contents.getLast? != some '\n' then contents ++ ['\n'] else contents
  let new := new ++ line
  if line.getLast? != some '\n' then new ++ ['\n'] else new

/-- The contents `remove_pubkey` writes: every line it keeps, each ended by a line feed. -/
def without (target : PubKey) (contents : List Char) : List Char :=
  (((lines contents).filter fun line => !names decode target line).map (· ++ ['\n'])).flatten

/-- Whether it drops any. -/
def isNamed (target : PubKey) (contents : List Char) : Bool :=
  (lines contents).any (names decode target)

end Parsing
end KrotRelay.Source

import KrotRelay.Source.KeyFile

/-!
# The list of peer relays (krot-server/src/peers.rs)

One apex domain to a line. `PeerRegistry::snapshot` hands out what `parse_file` read last.
-/
namespace KrotRelay.Source
open Lib

/-- The loop of `parse_file`, with the peers found so far. -/
def parsePeerLines (out : List String) : List (List Char) → List String
  | [] => out
  | line :: rest =>
    let trimmed := trim line
    if skipped trimmed then parsePeerLines out rest
    else if !out.any fun existing => existing == String.ofList trimmed then
      parsePeerLines (out ++ [String.ofList trimmed]) rest
    else parsePeerLines out rest

/-- `parse_file` of peers.rs, once the file has been read. -/
def parsePeers (text : List Char) : List String := parsePeerLines [] (lines text)

end KrotRelay.Source

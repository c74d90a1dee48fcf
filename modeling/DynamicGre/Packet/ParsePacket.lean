import DynamicGre.Packet.Headers
import DynamicGre.Tunnel.GretapOpt

/-!
`parse_packet` of both daemons. The Lab4 daemon takes GRE directly over IPv4
and reports two addresses; the Project daemon also takes GRE over UDP and
fills a `gretap_opt`.
-/

namespace DynamicGre

open Bytes

/-- What Lab4's `parse_packet` writes through `saddr` and `daddr`. -/
structure Addresses where
  saddr : UInt32
  daddr : UInt32
deriving DecidableEq

/-- The opening text of both functions, from the packet dump to the printed IP
header. Where it yields `none` they return -1 and have stored nothing. -/
def parseOuter (pkt : Packet) : Logged Event (Option (Nat × Cursor)) := do
  hexdumpLoads pkt
  let some (ethhdr, c) ← readEthhdr pkt.start | return none
  showEthhdr ethhdr
  let etherType ← pkt.load16 (ethhdr + 12)
  if ntohs etherType ≠ ETHERTYPE_IP then return none
  let some (iphdr, c) ← readIphdr pkt c | return none
  showIphdr iphdr
  return some (iphdr, c)

namespace Dygre

/-- `parse_packet` from its "GRE header" section to the end. -/
def parseGre (pkt : Packet) (iphdr : Nat) (c : Cursor) (out : Addresses) :
    Logged Event (Int × Addresses) := do
  let protocol ← pkt.load8 (iphdr + 9)
  if protocol ≠ IPPROTO_GRE then return (-1, out)
  let some (grehdr, c) ← readGrehdr pkt c | return (-1, out)
  let greproto ← pkt.load16 (grehdr + 2)
  if ntohs greproto ≠ ETHERTYPE_ETHERNET then return (-1, out)
  let some (iethhdr, c) ← readEthhdr c | return (-1, out)
  showEthhdr iethhdr
  let saddr ← pkt.load32 (iphdr + 12)
  let daddr ← pkt.load32 (iphdr + 16)
  let ret ← showInnerIp pkt iethhdr c
  return (ret, ⟨saddr, daddr⟩)

def parsePacket (pkt : Packet) (out : Addresses) : Logged Event (Int × Addresses) := do
  let some (iphdr, c) ← parseOuter pkt | return (-1, out)
  parseGre pkt iphdr c out

end Dygre

namespace Dygrefou

/-- The key option, found by walking over the checksum. -/
def parseKey (pkt : Packet) (grehdr : Nat) (opt : GretapOpt) : Logged Event GretapOpt := do
  let flags ← pkt.load8 grehdr
  let opthdr := grehdr + sizeofGrehdr
  let opthdr := if grehdrC flags then opthdr + 4 else opthdr
  if grehdrK flags then
    let key ← pkt.load32 opthdr
    return { opt with key := ntohl key }
  else
    return opt

/-- `parse_packet` from its "GRE header" section to the end. -/
def parseGre (pkt : Packet) (protocol : UInt8) (c : Cursor) (opt : GretapOpt) :
    Logged Event (Int × GretapOpt) := do
  if ¬(protocol = IPPROTO_GRE ∨ protocol = IPPROTO_UDP) then return (-1, opt)
  let some (grehdr, c) ← readGrehdr pkt c | return (-1, opt)
  let greproto ← pkt.load16 (grehdr + 2)
  let opt ← parseKey pkt grehdr opt
  if ntohs greproto ≠ ETHERTYPE_ETHERNET then return (-1, opt)
  let some (iethhdr, c) ← readEthhdr c | return (-1, opt)
  showEthhdr iethhdr
  let ret ← showInnerIp pkt iethhdr c
  return (ret, opt)

/-- `parse_packet` from the test for UDP to the end. -/
def parseUdp (pkt : Packet) (protocol : UInt8) (c : Cursor) (opt : GretapOpt) :
    Logged Event (Int × GretapOpt) :=
  if protocol = IPPROTO_UDP then do
    let some (udphdr, c) ← readUdphdr c | return (-1, opt)
    let source ← pkt.load16 udphdr
    let dest ← pkt.load16 (udphdr + 2)
    parseGre pkt protocol c { opt with
      encapType := TUNNEL_ENCAP_FOU
      encapDport := ntohs source
      encapSport := ntohs dest }
  else
    parseGre pkt protocol c opt

def parsePacket (pkt : Packet) (opt : GretapOpt) : Logged Event (Int × GretapOpt) := do
  let some (iphdr, c) ← parseOuter pkt | return (-1, opt)
  let saddr ← pkt.load32 (iphdr + 12)
  let daddr ← pkt.load32 (iphdr + 16)
  let protocol ← pkt.load8 (iphdr + 9)
  parseUdp pkt protocol c { opt with remote := saddr, localAddr := daddr }

end Dygrefou

end DynamicGre

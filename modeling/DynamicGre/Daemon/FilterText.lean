import DynamicGre.Daemon.Netlink
import DynamicGre.Dygre.Loop
import DynamicGre.FilterSyntax

/-!
The text that `build_filter` hands to `pcap_compile`. Both daemons print it
piece by piece into a stream; as text it denotes the expression that the loops
of the model work with.
-/

namespace DynamicGre

open Blocking Bytes Pcap

/-- `fprintf(ss, " and not (src host %s and udp src port %hu)", ...)`. -/
def printTunnel (ss : List UInt8) (remote : UInt32) (encapDport : UInt16) : List UInt8 :=
  ss ++ ascii " and not (src host " ++ inetNtop remote ++ ascii " and udp src port " ++
    decimal encapDport.toNat ++ ascii ")"

/-- The body of the loop over the links, with the stream it prints into. -/
def printLink (k : Kernel) (env : BuildEnv) (table : LinkTable) (ss : List UInt8)
    (cur : CachedLink) : List UInt8 :=
  if ¬cur.ipgretap then ss
  else
    match cur.name with
    | none => ss
    | some linkname =>
        if ¬linkname.hasPrefix TUNNEL_PREFIX then ss
        else
          let got := getTunnel k table linkname (env.tunnel linkname) env.stale
          if got.1 < 0 then ss
          else printTunnel ss got.2.remote got.2.encapDport

/-- The contents of `exprbuf` when it is compiled. -/
def exprbuf (k : Kernel) (env : BuildEnv) (table : LinkTable) : List UInt8 :=
  let ss := ascii "inbound and udp dst port 5555"
  if env.alloc < 0 then ss
  else (table.entries.map Link.cached).foldl (printLink k env table) ss

namespace Netlink

/-- The same loop over the socket. -/
def printLink (k : Kernel) (env : BuildEnv) (ss : List UInt8) (cur : CachedLink) :
    Blocking World (List UInt8) :=
  if ¬cur.ipgretap then return ss
  else
    match cur.name with
    | none => return ss
    | some linkname =>
        if ¬linkname.hasPrefix TUNNEL_PREFIX then return ss
        else do
          let got ← getTunnel k linkname (env.tunnel linkname) env.stale
          if got.1 < 0 then return ss
          else return printTunnel ss got.2.remote got.2.encapDport

def exprbuf (k : Kernel) (lib : Libnl) (env : BuildEnv) : Blocking World (List UInt8) := do
  let ss := ascii "inbound and udp dst port 5555"
  let (ret, links) ← linkAllocCache lib env.alloc
  if ret < 0 then return ss
  else links.foldlM (printLink k env) ss

end Netlink

namespace Dygre

/-- `fprintf(ss, " and not src host %s", ...)`. -/
def printSource (ss : List UInt8) (remote : UInt32) : List UInt8 :=
  ss ++ ascii " and not src host " ++ inetNtop remote

def printLink (ss : List UInt8) (cur : Link) : List UInt8 :=
  match cur.kind with
  | .other => ss
  | .gretap parms =>
      if ¬cur.name.hasPrefix TUNNEL_PREFIX then ss else printSource ss parms.remote

def exprbuf (env : BuildEnv) (table : LinkTable) : List UInt8 :=
  let ss := ascii "inbound and ip proto gre"
  if env.alloc < 0 then ss else table.entries.foldl printLink ss

end Dygre

section Text

variable {k : Kernel} {env : BuildEnv} {table : LinkTable}

end Text

/-- The text for the one tunnel of the table. -/
example : exprbuf Kernel.plain BuildEnv.good oneTunnel =
    ascii "inbound and udp dst port 5555 and not (src host 192.168.2.1 and udp src port 40000)" := by
  decide

end DynamicGre

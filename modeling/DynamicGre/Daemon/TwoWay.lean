import DynamicGre.Daemon.LastFrame
import DynamicGre.Daemon.Origin

/-!
The two ends of a tunnel. A client behind a router that masquerades it sends from
a gretap link of its own; the daemon sees only what leaves the router. The link it
creates is the mirror image of the client's, so each end takes what the other
sends.
-/

namespace DynamicGre

open Bytes

/-! ### What a link puts on the wire -/

/-- The address a link sends from; one for any address takes that of the host. -/
def GreParms.source (parms : GreParms) (host : UInt32) : UInt32 :=
  if parms.localAddr = 0 then host else parms.localAddr

namespace GreFrame

end GreFrame

namespace Masquerade

end Masquerade

section TwoWay

variable {m : Masquerade} {parms client : GreParms} {host there : UInt32} {outside : Endpoint}
  {f f' g g' : GreFrame} {pkt : Packet} {master : Int32}

end TwoWay

end DynamicGre

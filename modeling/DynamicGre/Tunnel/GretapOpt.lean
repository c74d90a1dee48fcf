import Mathlib.Tactic

/-!
The daemon's description of one tunnel, `struct gretap_opt`. Addresses keep
the network byte order they have in `struct in_addr`; the key and the ports
are in host order.
-/

namespace DynamicGre

def IFNAMSIZ : Nat := 16

/-- The string in a `char[IFNAMSIZ]` whose NUL terminator is in place. -/
structure IfName where
  chars : List UInt8
  fits : chars.length < IFNAMSIZ
  nulFree : 0 ∉ chars
deriving DecidableEq

namespace IfName

theorem ext_chars {a b : IfName} (h : a.chars = b.chars) : a = b := by
  cases a
  cases b
  simpa using h

def empty : IfName := ⟨[], by decide, by simp⟩

/-- `strncmp(name, prefix, strlen(prefix)) == 0`. -/
def hasPrefix (name : IfName) (pre : List UInt8) : Bool := pre.isPrefixOf name.chars

end IfName

def TUNNEL_ENCAP_NONE : UInt32 := 0
def TUNNEL_ENCAP_FOU : UInt32 := 1

@[ext] structure GretapOpt where
  ifname : IfName
  master : Int32
  localAddr : UInt32
  remote : UInt32
  key : UInt32
  encapType : UInt32
  encapSport : UInt16
  encapDport : UInt16
deriving DecidableEq

/-- What `memset(&opt, 0, sizeof(struct gretap_opt))` leaves. -/
def GretapOpt.zeroed : GretapOpt where
  ifname := IfName.empty
  master := 0
  localAddr := 0
  remote := 0
  key := 0
  encapType := TUNNEL_ENCAP_NONE
  encapSport := 0
  encapDport := 0

end DynamicGre

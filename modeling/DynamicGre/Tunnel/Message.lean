import DynamicGre.Bytes
import DynamicGre.Tunnel.GretapOpt
import Mathlib.Data.List.TakeWhile

/-!
Link messages of rtnetlink as the daemon writes and reads them: a fixed header
and attributes on three levels. `nla_put` and `nla_get` store and load words in
host order; an attribute of a nest has no bytes of its own.
-/

namespace DynamicGre

open Bytes

/-- A netlink attribute; `type` is what `nla_type` returns. -/
structure Nla (α : Type) where
  type : UInt16
  payload : α
deriving DecidableEq

inductive Payload (α : Type) where
  | data (bytes : List UInt8)
  | nested (attrs : List α)
deriving DecidableEq

namespace Payload

variable {α : Type}

def bytes : Payload α → List UInt8
  | data bytes => bytes
  | nested _ => []

def attrs : Payload α → List α
  | data _ => []
  | nested attrs => attrs

end Payload

/-- Attributes inside `IFLA_INFO_DATA`, inside `IFLA_LINKINFO` and of the
message itself. -/
abbrev GreAttr := Nla (List UInt8)
abbrev InfoAttr := Nla (Payload GreAttr)
abbrev LinkAttr := Nla (Payload InfoAttr)

structure Ifinfomsg where
  flags : UInt32
  change : UInt32
deriving DecidableEq

/-- `ifinfo` is `none` when the message is too short for its fixed header. -/
structure NlMsg where
  type : UInt16
  flags : UInt16
  ifinfo : Option Ifinfomsg
  attrs : List LinkAttr
deriving DecidableEq

def RTM_NEWLINK : UInt16 := 16
def NLM_F_CREATE : UInt16 := 0x400
def IFF_UP : UInt32 := 1

def IFLA_IFNAME : UInt16 := 3
def IFLA_MASTER : UInt16 := 10
def IFLA_LINKINFO : UInt16 := 18

def IFLA_INFO_KIND : UInt16 := 1
def IFLA_INFO_DATA : UInt16 := 2

def IFLA_GRE_IFLAGS : UInt16 := 2
def IFLA_GRE_OFLAGS : UInt16 := 3
def IFLA_GRE_IKEY : UInt16 := 4
def IFLA_GRE_OKEY : UInt16 := 5
def IFLA_GRE_LOCAL : UInt16 := 6
def IFLA_GRE_REMOTE : UInt16 := 7
def IFLA_GRE_ENCAP_TYPE : UInt16 := 14
def IFLA_GRE_ENCAP_SPORT : UInt16 := 16
def IFLA_GRE_ENCAP_DPORT : UInt16 := 17

/-- `__cpu_to_be16(0x8000)` and `__cpu_to_be16(0x2000)`. -/
def GRE_CSUM : UInt16 := 0x0080
def GRE_KEY : UInt16 := 0x0020

def NLE_NOMEM : Int := 5
def NLE_OBJ_NOTFOUND : Int := 12
def NLE_MSG_TOOSHORT : Int := 21
def NLE_MSGTYPE_NOSUPPORT : Int := 22

/-- The string `"gretap"` with its terminator. -/
def gretapKind : List UInt8 := ['g', 'r', 'e', 't', 'a', 'p'].map (·.toUInt8) ++ [0]

/-- The getters load from the start of the payload, whatever its length. What
follows one that is too short is padding, which `nla_put` fills with zeros. -/
def nlaGetU16 (payload : List UInt8) : UInt16 := le16 (payload.getD 0 0) (payload.getD 1 0)

def nlaGetU32 (payload : List UInt8) : UInt32 :=
  le32 (payload.getD 0 0) (payload.getD 1 0) (payload.getD 2 0) (payload.getD 3 0)

@[simp] theorem nlaGetU16_bytes16 (x : UInt16) : nlaGetU16 (bytes16 x) = x := le16_bytes16 x

@[simp] theorem nlaGetU32_bytes32 (x : UInt32) : nlaGetU32 (bytes32 x) = x := le32_bytes32 x

theorem bytes16_nlaGetU16 {payload : List UInt8} (h : 2 ≤ payload.length) :
    payload = bytes16 (nlaGetU16 payload) ++ payload.drop 2 := by
  obtain ⟨b0, b1, rest, rfl⟩ : ∃ b0 b1 rest, payload = b0 :: b1 :: rest := by
    match payload, h with
    | b0 :: b1 :: rest, _ => exact ⟨b0, b1, rest, rfl⟩
  have hword : nlaGetU16 (b0 :: b1 :: rest) = le16 b0 b1 := rfl
  rw [hword, bytes16_le16]
  rfl

theorem bytes32_nlaGetU32 {payload : List UInt8} (h : 4 ≤ payload.length) :
    payload = bytes32 (nlaGetU32 payload) ++ payload.drop 4 := by
  obtain ⟨b0, b1, b2, b3, rest, rfl⟩ :
      ∃ b0 b1 b2 b3 rest, payload = b0 :: b1 :: b2 :: b3 :: rest := by
    match payload, h with
    | b0 :: b1 :: b2 :: b3 :: rest, _ => exact ⟨b0, b1, b2, b3, rest, rfl⟩
  have hword : nlaGetU32 (b0 :: b1 :: b2 :: b3 :: rest) = le32 b0 b1 b2 b3 := rfl
  rw [hword, bytes32_le32]
  rfl

/-- `nla_strcmp(nla, "gretap") != 0`. It compares the lengths, of which that of the
string counts its terminator, and then all bytes. -/
def Payload.notGretap {α : Type} (payload : Payload α) : Bool := payload.bytes ≠ gretapKind

/-- One NUL at the end of the payload does not count as part of the string. -/
def dropNul (payload : List UInt8) : List UInt8 :=
  if payload.getLast? = some 0 then payload.dropLast else payload

/-- The string that `nla_strlcpy(dst, nla, IFNAMSIZ)` leaves in `dst`. -/
def nlaStrlcpy (payload : List UInt8) : IfName where
  chars := ((dropNul payload).take (IFNAMSIZ - 1)).takeWhile (· ≠ 0)
  fits := by
    have hprefix := (List.takeWhile_prefix (· ≠ 0)
      (l := (dropNul payload).take (IFNAMSIZ - 1))).length_le
    have htake := List.length_take_le (IFNAMSIZ - 1) (dropNul payload)
    unfold IFNAMSIZ at *
    omega
  nulFree := by
    intro hmem
    have hnul := List.mem_takeWhile_imp hmem
    simp at hnul

/-- `NLA_PUT_STRING` writes the terminator too, `nla_strlcpy` drops it. -/
theorem nlaStrlcpy_chars (name : IfName) : nlaStrlcpy (name.chars ++ [0]) = name := by
  apply IfName.ext_chars
  have hfits := name.fits
  have hfree : ∀ c ∈ name.chars, c ≠ 0 := by
    intro c hc hzero
    exact name.nulFree (hzero ▸ hc)
  have hshort : name.chars.take (IFNAMSIZ - 1) = name.chars :=
    List.take_of_length_le (by omega)
  simp only [nlaStrlcpy, dropNul, List.getLast?_concat, List.dropLast_concat, if_true, hshort]
  exact List.takeWhile_eq_self_iff.mpr fun c hc => decide_eq_true (hfree c hc)

end DynamicGre

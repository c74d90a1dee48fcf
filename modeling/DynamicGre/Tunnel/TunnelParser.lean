import DynamicGre.Folds
import DynamicGre.Tunnel.CreateTunnel

/-!
`tunnel_parser`: what the daemon reads from the link message of one tunnel.
Attributes of the same type overwrite each other; a kind other than `gretap`
stops the function, and `*arg` is stored last.
-/

namespace DynamicGre

open Bytes

/-- The body of the loop over `IFLA_LINKINFO`. -/
def parseInfoAttr (gretapData : Option (List GreAttr)) (li : InfoAttr) :
    Except Int (Option (List GreAttr)) :=
  if li.type = IFLA_INFO_KIND then
    if li.payload.notGretap then .error (-NLE_MSGTYPE_NOSUPPORT) else .ok gretapData
  else if li.type = IFLA_INFO_DATA then .ok (some li.payload.attrs)
  else .ok gretapData

/-- The variables `result` and `gretap_data`. -/
structure Parsing where
  result : GretapOpt
  gretapData : Option (List GreAttr)

/-- The body of the loop over the attributes of the message. -/
def parseLinkAttr (s : Parsing) (nla : LinkAttr) : Except Int Parsing :=
  if nla.type = IFLA_MASTER then
    .ok { s with result := { s.result with master := (nlaGetU32 nla.payload.bytes).toInt32 } }
  else if nla.type = IFLA_IFNAME then
    .ok { s with result := { s.result with ifname := nlaStrlcpy nla.payload.bytes } }
  else if nla.type = IFLA_LINKINFO then do
    let gretapData ← nla.payload.attrs.foldlM parseInfoAttr s.gretapData
    return { s with gretapData := gretapData }
  else .ok s

/-- The body of the loop over the gretap attributes. The key is stored as it
was sent, the ports are converted. -/
def parseGreAttr (result : GretapOpt) (nla : GreAttr) : GretapOpt :=
  if nla.type = IFLA_GRE_LOCAL then { result with localAddr := nlaGetU32 nla.payload }
  else if nla.type = IFLA_GRE_REMOTE then { result with remote := nlaGetU32 nla.payload }
  else if nla.type = IFLA_GRE_IKEY ∨ nla.type = IFLA_GRE_OKEY then
    { result with key := nlaGetU32 nla.payload }
  else if nla.type = IFLA_GRE_ENCAP_TYPE then
    { result with encapType := (nlaGetU16 nla.payload).toUInt32 }
  else if nla.type = IFLA_GRE_ENCAP_SPORT then
    { result with encapSport := ntohs (nlaGetU16 nla.payload) }
  else if nla.type = IFLA_GRE_ENCAP_DPORT then
    { result with encapDport := ntohs (nlaGetU16 nla.payload) }
  else result

/-- The return code and the contents of `*arg` afterwards. -/
def tunnelParser (msg : NlMsg) (arg : GretapOpt) : Int × GretapOpt :=
  if msg.ifinfo.isNone then (-NLE_MSG_TOOSHORT, arg)
  else
    match msg.attrs.foldlM parseLinkAttr ⟨GretapOpt.zeroed, none⟩ with
    | .error ret => (ret, arg)
    | .ok ⟨_, none⟩ => (-NLE_MSGTYPE_NOSUPPORT, arg)
    | .ok ⟨result, some data⟩ => (0, data.foldl parseGreAttr result)

/-! ### The loops without their exits -/

def badInfo (li : InfoAttr) : Bool := li.type = IFLA_INFO_KIND && li.payload.notGretap

def nextInfo (gretapData : Option (List GreAttr)) (li : InfoAttr) : Option (List GreAttr) :=
  if li.type = IFLA_INFO_DATA then some li.payload.attrs else gretapData

theorem parseInfoAttr_eq (gretapData : Option (List GreAttr)) (li : InfoAttr) :
    parseInfoAttr gretapData li =
      if badInfo li then .error (-NLE_MSGTYPE_NOSUPPORT) else .ok (nextInfo gretapData li) := by
  unfold parseInfoAttr badInfo nextInfo
  by_cases hkind : li.type = IFLA_INFO_KIND
  · have hdata : ¬IFLA_INFO_KIND = IFLA_INFO_DATA := by decide
    simp [hkind, hdata]
  · simp only [hkind, if_false, decide_false, Bool.false_and, Bool.false_eq_true]
    split <;> rfl

def badLink (nla : LinkAttr) : Bool :=
  nla.type = IFLA_LINKINFO && nla.payload.attrs.any badInfo

def nextLink (s : Parsing) (nla : LinkAttr) : Parsing :=
  if nla.type = IFLA_MASTER then
    { s with result := { s.result with master := (nlaGetU32 nla.payload.bytes).toInt32 } }
  else if nla.type = IFLA_IFNAME then
    { s with result := { s.result with ifname := nlaStrlcpy nla.payload.bytes } }
  else if nla.type = IFLA_LINKINFO then
    { s with gretapData := nla.payload.attrs.foldl nextInfo s.gretapData }
  else s

theorem parseLinkAttr_eq (s : Parsing) (nla : LinkAttr) :
    parseLinkAttr s nla =
      if badLink nla then .error (-NLE_MSGTYPE_NOSUPPORT) else .ok (nextLink s nla) := by
  unfold parseLinkAttr badLink nextLink
  by_cases hinfo : nla.type = IFLA_LINKINFO
  · have hmaster : ¬IFLA_LINKINFO = IFLA_MASTER := by decide
    have hifname : ¬IFLA_LINKINFO = IFLA_IFNAME := by decide
    simp only [hinfo, hmaster, hifname, if_false, if_true, decide_true, Bool.true_and]
    rw [Folds.foldlM_eq_if_any parseInfoAttr_eq]
    cases nla.payload.attrs.any badInfo <;> rfl
  · simp only [hinfo, decide_false, Bool.false_and, Bool.false_eq_true, if_false]
    split
    · rfl
    · split <;> rfl

/-- What the first loop has stored when it runs to its end. -/
def scanned (msg : NlMsg) : Parsing := msg.attrs.foldl nextLink ⟨GretapOpt.zeroed, none⟩

theorem tunnelParser_eq (msg : NlMsg) (arg : GretapOpt) :
    tunnelParser msg arg =
      if msg.ifinfo.isNone then (-NLE_MSG_TOOSHORT, arg)
      else if msg.attrs.any badLink then (-NLE_MSGTYPE_NOSUPPORT, arg)
      else match (scanned msg).gretapData with
        | none => (-NLE_MSGTYPE_NOSUPPORT, arg)
        | some data => (0, data.foldl parseGreAttr (scanned msg).result) := by
  unfold tunnelParser
  rw [Folds.foldlM_eq_if_any parseLinkAttr_eq]
  cases msg.attrs.any badLink with
  | true => rfl
  | false =>
      simp only [Bool.false_eq_true, if_false, ← scanned.eq_1]
      rcases scanned msg with ⟨result, data⟩
      cases data <;> rfl

/-- A failed parse leaves `*arg` as it was. -/
theorem tunnelParser_arg {msg : NlMsg} {arg : GretapOpt} (h : (tunnelParser msg arg).1 < 0) :
    (tunnelParser msg arg).2 = arg := by
  rw [tunnelParser_eq] at h ⊢
  split at h
  · simp [*]
  · split at h
    · simp [*]
    · split at h
      · simp [*]
      · cases h

end DynamicGre

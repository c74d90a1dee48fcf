import DynamicGre.KeyedList
import DynamicGre.Tunnel.RoundTrip

/-!
The kernel's side of the daemon: the links it holds, what a link message does
to them, and what it reports about a link. A link keeps the attribute values it
was given; of the report only the two values are assumed that the daemon's
filter is made from.
-/

namespace DynamicGre

open Bytes

/-- The parameters of a gretap link, as its attributes gave them. Keys and ports
are in network order. -/
structure GreParms where
  iflags : UInt16
  oflags : UInt16
  ikey : UInt32
  okey : UInt32
  localAddr : UInt32
  remote : UInt32
  encapType : UInt16
  encapSport : UInt16
  encapDport : UInt16
deriving DecidableEq

/-- An IPv4 address in network order and a UDP port in host order. -/
abbrev Endpoint := UInt32 × UInt16

/-- Where a tunnel sends its datagrams: `(remote, encap_dport)`. -/
def GreParms.endpoint (parms : GreParms) : Endpoint := (parms.remote, ntohs parms.encapDport)

inductive LinkKind where
  | gretap (parms : GreParms)
  | other
deriving DecidableEq

structure Link where
  name : IfName
  master : Int32
  kind : LinkKind
deriving DecidableEq

/-- The links of the kernel; no two have the same name. -/
abbrev LinkTable := KeyedList Link.name

def TUNNEL_PREFIX : List UInt8 := ['d', 'y', 'g', 'r', 'e', '-'].map (·.toUInt8)

/-- The parameters of a link that is a `dygre-` tunnel. -/
def Link.tunnel (link : Link) : Option GreParms :=
  match link.kind with
  | .gretap parms => if link.name.hasPrefix TUNNEL_PREFIX then some parms else none
  | .other => none

theorem Link.tunnel_eq_some_iff {link : Link} {parms : GreParms} : link.tunnel = some parms ↔
    link.kind = .gretap parms ∧ link.name.hasPrefix TUNNEL_PREFIX = true := by
  unfold Link.tunnel
  cases link.kind with
  | gretap old => simp [and_comm]
  | other => simp

/-- The link is a `dygre-` tunnel to this endpoint. -/
def Link.Serves (link : Link) (ep : Endpoint) : Prop := ∃ parms ∈ link.tunnel, parms.endpoint = ep

instance (link : Link) (ep : Endpoint) : Decidable (link.Serves ep) :=
  inferInstanceAs (Decidable (∃ parms, link.tunnel = some parms ∧ _))

/-! ### New links -/

def GreParms.ofAttrs (attrs : List GreAttr) : GreParms where
  iflags := nlaGetU16 (valueOf attrs IFLA_GRE_IFLAGS (bytes16 0))
  oflags := nlaGetU16 (valueOf attrs IFLA_GRE_OFLAGS (bytes16 0))
  ikey := nlaGetU32 (valueOf attrs IFLA_GRE_IKEY (bytes32 0))
  okey := nlaGetU32 (valueOf attrs IFLA_GRE_OKEY (bytes32 0))
  localAddr := nlaGetU32 (valueOf attrs IFLA_GRE_LOCAL (bytes32 0))
  remote := nlaGetU32 (valueOf attrs IFLA_GRE_REMOTE (bytes32 0))
  encapType := nlaGetU16 (valueOf attrs IFLA_GRE_ENCAP_TYPE (bytes16 0))
  encapSport := nlaGetU16 (valueOf attrs IFLA_GRE_ENCAP_SPORT (bytes16 0))
  encapDport := nlaGetU16 (valueOf attrs IFLA_GRE_ENCAP_DPORT (bytes16 0))

/-- The link a message describes. -/
def Link.ofMsg (msg : NlMsg) : Link where
  name := nlaStrlcpy (valueOf msg.attrs IFLA_IFNAME (.data [])).bytes
  master := (nlaGetU32 (valueOf msg.attrs IFLA_MASTER (.data (bytes32 0))).bytes).toInt32
  kind :=
    if (valueOf (linkInfo msg) IFLA_INFO_KIND (.data [])).notGretap then .other
    else .gretap (GreParms.ofAttrs (infoData msg))

/-- `RTM_NEWLINK` without `NLM_F_EXCL`: a link of that name is replaced. -/
def LinkTable.newlink (table : LinkTable) (msg : NlMsg) : LinkTable := table.put (Link.ofMsg msg)

/-- The parameters that `create_tunnel` sends. -/
def GreParms.ofOpt (opt : GretapOpt) : GreParms where
  iflags := greFlagsOf opt
  oflags := greFlagsOf opt
  ikey := htonl opt.key
  okey := htonl opt.key
  localAddr := opt.localAddr
  remote := opt.remote
  encapType := opt.encapType.toUInt16
  encapSport := htons (sentPort opt opt.encapSport)
  encapDport := htons (sentPort opt opt.encapDport)

/-- The link that `create_tunnel` asks for. -/
def tunnelLink (opt : GretapOpt) : Link where
  name := opt.ifname
  master := opt.master
  kind := .gretap (GreParms.ofOpt opt)

theorem ofAttrs_greAttrs (opt : GretapOpt) :
    GreParms.ofAttrs (greAttrs opt) = GreParms.ofOpt opt := by
  rw [GreParms.ofAttrs, valueOf_greFlags opt (Or.inl rfl),
    valueOf_greFlags opt (Or.inr rfl), valueOf_key opt (Or.inl rfl),
    valueOf_key opt (Or.inr rfl), valueOf_local, valueOf_remote, valueOf_encapType,
    valueOf_encapSport, valueOf_encapDport]
  simp only [nlaGetU16_bytes16, nlaGetU32_bytes32]
  rfl

theorem ofMsg_tunnelMsg (opt : GretapOpt) : Link.ofMsg (tunnelMsg opt) = tunnelLink opt := by
  have hname : nlaStrlcpy (valueOf (tunnelMsg opt).attrs IFLA_IFNAME (.data [])).bytes =
      opt.ifname := nlaStrlcpy_chars opt.ifname
  have hmaster : (nlaGetU32 (bytes32 opt.master.toUInt32)).toInt32 = opt.master := by
    rw [nlaGetU32_bytes32]
    exact Int32.toInt32_toUInt32 _
  have hkind : ¬(valueOf (infoAttrs opt) IFLA_INFO_KIND (.data [])).notGretap = true := by
    change ¬(Payload.data (α := GreAttr) gretapKind).notGretap = true
    decide
  rw [Link.ofMsg, hname, valueOf_master, linkInfo_tunnelMsg, if_neg hkind, infoData_tunnelMsg,
    ofAttrs_greAttrs]
  exact congrArg (Link.mk opt.ifname · (.gretap (GreParms.ofOpt opt))) hmaster

/-! ### Reports -/

/-- The kernel as `get_tunnel` sees it: the message that describes a link. What
it reports of a gretap link includes the kind, the remote address and the
destination port as they were set. -/
structure Kernel where
  dump : Link → NlMsg
  reports : ∀ name master parms,
    Informs (dump ⟨name, master, .gretap parms⟩) (.data gretapKind) fun attrs =>
      Holds attrs IFLA_GRE_REMOTE (bytes32 0) (bytes32 parms.remote) ∧
        Holds attrs IFLA_GRE_ENCAP_DPORT (bytes16 0) (bytes16 parms.encapDport)

/-- The daemon reads the endpoint of a gretap link as it was set. -/
theorem Kernel.tunnelParser_dump (k : Kernel) {link : Link} {parms : GreParms}
    (h : link.kind = .gretap parms) (arg : GretapOpt) :
    ∃ info, tunnelParser (k.dump link) arg = (0, info) ∧
      (info.remote, info.encapDport) = parms.endpoint := by
  obtain ⟨name, master, kind⟩ := link
  subst h
  obtain ⟨data, ⟨hremote, hdport⟩, hparse⟩ := (k.reports name master parms).tunnelParser arg
  obtain ⟨-, hremote0, -, -, -, hdport0⟩ :=
    scanned_rest (k.dump ⟨name, master, .gretap parms⟩)
  refine ⟨_, hparse, ?_⟩
  rw [remote_foldl hremote hremote0, encapDport_foldl hdport hdport0, GreParms.endpoint]

/-- A kernel that reports every parameter of a gretap link. -/
def Kernel.plain : Kernel where
  dump link :=
    let info : List InfoAttr :=
      match link.kind with
      | .other => []
      | .gretap parms =>
          [⟨IFLA_INFO_KIND, .data gretapKind⟩,
            ⟨IFLA_INFO_DATA, .nested
              [⟨IFLA_GRE_IFLAGS, bytes16 parms.iflags⟩, ⟨IFLA_GRE_OFLAGS, bytes16 parms.oflags⟩,
                ⟨IFLA_GRE_IKEY, bytes32 parms.ikey⟩, ⟨IFLA_GRE_OKEY, bytes32 parms.okey⟩,
                ⟨IFLA_GRE_LOCAL, bytes32 parms.localAddr⟩, ⟨IFLA_GRE_REMOTE, bytes32 parms.remote⟩,
                ⟨IFLA_GRE_ENCAP_TYPE, bytes16 parms.encapType⟩,
                ⟨IFLA_GRE_ENCAP_SPORT, bytes16 parms.encapSport⟩,
                ⟨IFLA_GRE_ENCAP_DPORT, bytes16 parms.encapDport⟩]⟩]
    { type := RTM_NEWLINK
      flags := 0
      ifinfo := some ⟨IFF_UP, 0⟩
      attrs := [⟨IFLA_IFNAME, .data (link.name.chars ++ [0])⟩,
        ⟨IFLA_MASTER, .data (bytes32 link.master.toUInt32)⟩, ⟨IFLA_LINKINFO, .nested info⟩] }
  reports name master parms := by
    constructor
    · rfl
    · simp [Payload.attrs, IFLA_IFNAME, IFLA_MASTER, IFLA_LINKINFO, IFLA_INFO_KIND, IFLA_INFO_DATA]
    · simp [Payload.attrs, IFLA_IFNAME, IFLA_MASTER, IFLA_LINKINFO, IFLA_INFO_KIND, IFLA_INFO_DATA,
        Holds, IFLA_GRE_IFLAGS, IFLA_GRE_OFLAGS, IFLA_GRE_IKEY, IFLA_GRE_OKEY, IFLA_GRE_LOCAL,
        IFLA_GRE_REMOTE, IFLA_GRE_ENCAP_TYPE, IFLA_GRE_ENCAP_SPORT, IFLA_GRE_ENCAP_DPORT]
    · simp [Payload.attrs]

end DynamicGre

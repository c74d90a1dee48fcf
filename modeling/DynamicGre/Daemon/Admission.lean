import DynamicGre.Daemon.Invariant
import DynamicGre.Packet.Layout

/-!
Whether a tunnel takes the frame that asked for it. The kernel compares the
addresses, the key and the checksum flag of a received frame with those of the
link. A request has no field for a checksum, and a key of zero in it means no key.
-/

namespace DynamicGre

open Bytes

/-- The flag is set in the input flags of a link message. -/
def NlMsg.InputFlag (msg : NlMsg) (flag : UInt16) : Prop :=
  nlaGetU16 (valueOf (infoData msg) IFLA_GRE_IFLAGS (bytes16 0)) &&& flag ≠ 0

/-- What the attributes say about the frame: its addresses, its UDP ports the
other way round, and its key field unless that is zero. -/
structure NlMsg.Describes (msg : NlMsg) (pkt : Packet) : Prop where
  remote : valueOf (infoData msg) IFLA_GRE_REMOTE (bytes32 0) =
    bytes32 (pkt.saddr Packet.outerIp)
  localAddr : valueOf (infoData msg) IFLA_GRE_LOCAL (bytes32 0) =
    bytes32 (pkt.daddr Packet.outerIp)
  ports : pkt.protocol Packet.outerIp = IPPROTO_UDP →
    valueOf (infoData msg) IFLA_GRE_ENCAP_DPORT (bytes16 0) = bytes16 (pkt.u16 pkt.ipEnd) ∧
    valueOf (infoData msg) IFLA_GRE_ENCAP_SPORT (bytes16 0) = bytes16 (pkt.u16 (pkt.ipEnd + 2))
  keyFlag : msg.InputFlag GRE_KEY ↔ grehdrK pkt.greFlags = true ∧ pkt.greKey ≠ 0
  ikey : msg.InputFlag GRE_KEY →
    valueOf (infoData msg) IFLA_GRE_IKEY (bytes32 0) = bytes32 pkt.greKey
  csumFlag : ¬msg.InputFlag GRE_CSUM

/-- The frames a gretap link takes. An address of zero stands for any; the UDP
ports are left to the socket that takes the GRE header out. -/
structure GreParms.Admits (parms : GreParms) (pkt : Packet) : Prop where
  remote : parms.remote = 0 ∨ parms.remote = pkt.saddr Packet.outerIp
  localAddr : parms.localAddr = 0 ∨ parms.localAddr = pkt.daddr Packet.outerIp
  keyless : parms.iflags &&& GRE_KEY = 0 → grehdrK pkt.greFlags = false
  keyed : parms.iflags &&& GRE_KEY ≠ 0 → grehdrK pkt.greFlags = true ∧ pkt.greKey = parms.ikey
  csum : parms.iflags &&& GRE_CSUM ≠ 0 ↔ grehdrC pkt.greFlags = true

section Admission

variable {master : Int32} {pkt : Packet}

theorem frameKey_ne_zero : frameKey pkt ≠ 0 ↔ grehdrK pkt.greFlags = true ∧ pkt.greKey ≠ 0 := by
  have hzero : ntohl pkt.greKey = 0 ↔ pkt.greKey = 0 := htonl_inj (y := 0)
  unfold frameKey
  cases grehdrK pkt.greFlags with
  | false => simp
  | true => simp [hzero]

theorem htonl_frameKey (h : grehdrK pkt.greFlags = true) :
    htonl (frameKey pkt) = pkt.greKey := by
  rw [frameKey, if_pos h, htonl_ntohl]

theorem keyFlag_greFlagsOf : greFlagsOf (requestOf master pkt) &&& GRE_KEY ≠ 0 ↔
    grehdrK pkt.greFlags = true ∧ pkt.greKey ≠ 0 := by
  rw [← frameKey_ne_zero]
  change (if frameKey pkt ≠ 0 then GRE_KEY else 0) &&& GRE_KEY ≠ 0 ↔ _
  split
  · rename_i hkey
    exact iff_of_true (by decide) hkey
  · rename_i hkey
    exact iff_of_false (by decide) hkey

theorem csumFlag_greFlagsOf (opt : GretapOpt) : greFlagsOf opt &&& GRE_CSUM = 0 := by
  unfold greFlagsOf
  split <;> decide

/-- The ports are sent as they came, without a swap in the end. -/
theorem sentPort_requestOf (hudp : pkt.protocol Packet.outerIp = IPPROTO_UDP) (i : Nat) :
    htons (sentPort (requestOf master pkt) (ntohs (pkt.u16 i))) = pkt.u16 i := by
  have htype : (requestOf master pkt).encapType = TUNNEL_ENCAP_FOU := if_pos hudp
  rw [sentPort, htype, if_pos (by decide), htons_ntohs]

/-- What `create_tunnel` sends for a frame says this about it. -/
theorem describes_tunnelMsg : (tunnelMsg (requestOf master pkt)).Describes pkt := by
  have hflag (flag : UInt16) : (tunnelMsg (requestOf master pkt)).InputFlag flag ↔
      greFlagsOf (requestOf master pkt) &&& flag ≠ 0 := by
    rw [NlMsg.InputFlag, infoData_tunnelMsg, valueOf_greFlags _ (Or.inl rfl), nlaGetU16_bytes16]
  refine ⟨?_, ?_, ?_, ?_, ?_, ?_⟩
  · rw [infoData_tunnelMsg, valueOf_remote]
    rfl
  · rw [infoData_tunnelMsg, valueOf_local]
    rfl
  · intro hudp
    have hdport : (requestOf master pkt).encapDport = ntohs (pkt.u16 pkt.ipEnd) := if_pos hudp
    have hsport : (requestOf master pkt).encapSport = ntohs (pkt.u16 (pkt.ipEnd + 2)) :=
      if_pos hudp
    rw [infoData_tunnelMsg, valueOf_encapDport, valueOf_encapSport, hdport, hsport,
      sentPort_requestOf hudp, sentPort_requestOf hudp]
    exact ⟨rfl, rfl⟩
  · rw [hflag, keyFlag_greFlagsOf]
  · intro h
    obtain ⟨hkey, -⟩ := keyFlag_greFlagsOf.mp ((hflag _).mp h)
    rw [infoData_tunnelMsg, valueOf_key _ (Or.inl rfl)]
    exact congrArg bytes32 (htonl_frameKey hkey)
  · rw [hflag, csumFlag_greFlagsOf]
    exact not_not.mpr rfl

/-- The link takes its own frame unless that has a checksum or a key of zero. -/
theorem admits_ofOpt : (GreParms.ofOpt (requestOf master pkt)).Admits pkt ↔
    grehdrC pkt.greFlags = false ∧ (grehdrK pkt.greFlags = true → pkt.greKey ≠ 0) := by
  have hkeyFlag : greFlagsOf (requestOf master pkt) &&& GRE_KEY ≠ 0 ↔
      grehdrK pkt.greFlags = true ∧ pkt.greKey ≠ 0 := keyFlag_greFlagsOf
  constructor
  · intro h
    constructor
    · have hcsum := h.csum.not.mp (not_not.mpr (csumFlag_greFlagsOf _))
      exact Bool.eq_false_iff.mpr hcsum
    · intro hkey hzero
      have hoff : greFlagsOf (requestOf master pkt) &&& GRE_KEY = 0 := by
        by_contra hon
        exact (hkeyFlag.mp hon).2 hzero
      rw [h.keyless hoff] at hkey
      cases hkey
  · rintro ⟨hcsum, hkey⟩
    refine ⟨Or.inr rfl, Or.inr rfl, ?_, ?_, ?_⟩
    · intro hoff
      rw [← Bool.not_eq_true]
      intro hbit
      exact hkeyFlag.mpr ⟨hbit, hkey hbit⟩ hoff
    · intro hon
      obtain ⟨hbit, -⟩ := hkeyFlag.mp hon
      exact ⟨hbit, (htonl_frameKey hbit).symm⟩
    · rw [hcsum]
      exact iff_of_false (not_not.mpr (csumFlag_greFlagsOf _)) Bool.false_ne_true

end Admission

/-- The tunnel that the loop creates for an accepted frame is described by the
frame, and takes it exactly when it has no checksum and no key of zero. -/
theorem created_admits_iff (k : Kernel) (master : Int32) (s : State) (pkt : Packet)
    (env : FrameEnv) (haccepts : Dygrefou.Accepts pkt)
    (hcreated : ¬CreateFails env (requestOf master pkt)) :
    ∃ msg, createTunnel (requestOf master pkt) env.create = (env.create.send, some msg) ∧
      msg.Describes pkt ∧
      ∃ link ∈ (step k master s (.frame pkt env)).table, link = Link.ofMsg msg ∧
        ∃ parms, link.kind = .gretap parms ∧
          (parms.Admits pkt ↔
            grehdrC pkt.greFlags = false ∧ (grehdrK pkt.greFlags = true → pkt.greKey ≠ 0)) := by
  refine ⟨tunnelMsg (requestOf master pkt), ?_, describes_tunnelMsg,
    tunnelLink (requestOf master pkt), ?_, (ofMsg_tunnelMsg _).symm, _, rfl, admits_ofOpt⟩
  · rcases createTunnel_cases (requestOf master pkt) env.create with hsent | ⟨ret, hneg, hrun⟩
    · exact hsent
    · rw [CreateFails, hrun] at hcreated
      exact absurd hneg hcreated
  · rcases step_cases (k := k) (s := s) haccepts with ⟨hfails, -⟩ | ⟨-, hstep⟩
    · exact absurd hfails hcreated
    · rw [hstep]
      exact KeyedList.mem_put_self _ _

/-! ### Tunnels that drop their own frame -/

/-- A frame with the key option, whose key is zero, and without a checksum. -/
def zeroKeyPacket : Packet where
  bytes := { GreFrame.keyedFrame with
    gre := { GreFrame.keyedFrame.gre with checksum := none, key := some 0 } }.bytes
  stale := fun _ => 0
  inbound := true
  fits := by decide

theorem created_admits_iff_zeroKey :
    ∃ msg, createTunnel (requestOf 3 zeroKeyPacket) CreateEnv.good = (0, some msg) ∧
      msg.Describes zeroKeyPacket ∧
      ∃ link ∈ (step Kernel.plain 3 ⟨noLinks, none⟩ (.frame zeroKeyPacket FrameEnv.good)).table,
        link = Link.ofMsg msg ∧ ∃ parms, link.kind = .gretap parms ∧
          (parms.Admits zeroKeyPacket ↔ grehdrC zeroKeyPacket.greFlags = false ∧
            (grehdrK zeroKeyPacket.greFlags = true → zeroKeyPacket.greKey ≠ 0)) :=
  created_admits_iff Kernel.plain 3 ⟨noLinks, none⟩ zeroKeyPacket FrameEnv.good
    (GreFrame.accepts rfl) (not_createFails FrameEnv.good_ok _)

/-- The message for an accepted, well-formed frame gets a flag of it wrong, and
the tunnel drops the frame. -/
def DropsOwn (pkt : Packet) : Prop :=
  Dygrefou.Accepts pkt ∧ pkt.WellFormed ∧
  ∃ msg, createTunnel (requestOf 3 pkt) CreateEnv.good = (0, some msg) ∧
    ¬((msg.InputFlag GRE_KEY ↔ grehdrK pkt.greFlags = true) ∧
      (msg.InputFlag GRE_CSUM ↔ grehdrC pkt.greFlags = true)) ∧
    ∀ parms, (Link.ofMsg msg).kind = .gretap parms → ¬parms.Admits pkt

theorem dropsOwn_of_flags {pkt : Packet} (haccepts : Dygrefou.Accepts pkt)
    (hformed : pkt.WellFormed)
    (hflags : grehdrC pkt.greFlags = true ∨ (grehdrK pkt.greFlags = true ∧ pkt.greKey = 0)) :
    DropsOwn pkt := by
  have hdescribes : (tunnelMsg (requestOf 3 pkt)).Describes pkt := describes_tunnelMsg
  refine ⟨haccepts, hformed, _, createTunnel_of_roomy _ FrameEnv.good_ok.roomy, ?_, ?_⟩
  · rintro ⟨hkey, hcsum⟩
    rcases hflags with hbit | ⟨hbit, hzero⟩
    · exact hdescribes.csumFlag (hcsum.mpr hbit)
    · exact (hdescribes.keyFlag.mp (hkey.mpr hbit)).2 hzero
  · intro parms hparms hadmits
    rw [ofMsg_tunnelMsg] at hparms
    cases hparms
    obtain ⟨hclear, hkey⟩ := admits_ofOpt.mp hadmits
    rcases hflags with hbit | ⟨hbit, hzero⟩
    · rw [hclear] at hbit
      cases hbit
    · exact hkey hbit hzero

/-- A checksum leaves no trace in the message, and neither does a key of
zero. -/
theorem created_drops : DropsOwn GreFrame.keyedPacket ∧ DropsOwn zeroKeyPacket := by
  constructor
  · exact dropsOwn_of_flags (GreFrame.accepts rfl) (by decide) (Or.inl (by decide))
  · exact dropsOwn_of_flags (GreFrame.accepts rfl) (by decide) (Or.inr (by decide))

end DynamicGre

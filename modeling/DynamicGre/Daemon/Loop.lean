import DynamicGre.Daemon.BuildFilter
import DynamicGre.Hex
import DynamicGre.Packet.Accepted
import DynamicGre.Runs

/-!
The capture loop of the Project's `main`. One iteration takes at most one frame
and may delete a link, create one and rebuild the filter; each of these calls
can fail on its own, and the loop goes on.
-/

namespace DynamicGre

open Bytes Pcap

/-! ### The name of an interface -/

/-- `snprintf(opt.ifname, IFNAMSIZ - 1, TUNNEL_PREFIX"%08x", x)`. -/
def tunnelName (x : UInt32) : IfName where
  chars := (TUNNEL_PREFIX ++ hex08 x).take (IFNAMSIZ - 2)
  fits := lt_of_le_of_lt (List.length_take_le _ _) (by decide)
  nulFree := by
    intro hmem
    rcases List.mem_append.mp (List.mem_of_mem_take hmem) with h | h
    · exact absurd h (by decide)
    · exact zero_notMem_hex08 x h

/-- The name is derived from the key, and from the remote address without one. -/
def interfaceName (opt : GretapOpt) : IfName :=
  if opt.key ≠ 0 then tunnelName opt.key else tunnelName opt.remote

theorem tunnelName_chars (x : UInt32) : (tunnelName x).chars = TUNNEL_PREFIX ++ hex08 x :=
  -- fourteen characters, exactly what `snprintf` leaves room for
  List.take_of_length_le (Nat.le_refl 14)

theorem hasPrefix_tunnelName (x : UInt32) : (tunnelName x).hasPrefix TUNNEL_PREFIX = true := by
  rw [IfName.hasPrefix, tunnelName_chars, List.isPrefixOf_iff_prefix]
  exact List.prefix_append _ _

theorem tunnelName_inj {x y : UInt32} : tunnelName x = tunnelName y ↔ x = y := by
  constructor
  · intro h
    have hchars := congrArg IfName.chars h
    rw [tunnelName_chars, tunnelName_chars] at hchars
    exact hex08_inj.mp (List.append_cancel_left hchars)
  · exact congrArg tunnelName

example : (tunnelName 0x1234abcd).chars = ['d', 'y', 'g', 'r', 'e', '-',
    '1', '2', '3', '4', 'a', 'b', 'c', 'd'].map (·.toUInt8) := by decide

theorem hasPrefix_interfaceName (opt : GretapOpt) :
    (interfaceName opt).hasPrefix TUNNEL_PREFIX = true := by
  unfold interfaceName
  split <;> exact hasPrefix_tunnelName _

/-! ### The calls of an iteration -/

/-- What `rtnl_link_alloc_cache` and `rtnl_link_delete` answer. -/
structure DestroyEnv where
  alloc : Int
  delete : Int

/-- The return code of `destory_tunnel` and the links afterwards. -/
def destoryTunnel (env : DestroyEnv) (table : LinkTable) (ifname : IfName) : Int × LinkTable :=
  if env.alloc < 0 then (env.alloc, table)
  else
    match table.find? ifname with
    | none => (0, table)
    | some _ => if env.delete < 0 then (env.delete, table) else (env.delete, table.erase ifname)

/-- The links after `create_tunnel`: the kernel has taken the message unless the
call failed. -/
def LinkTable.created (table : LinkTable) (answer : Int × Option NlMsg) : LinkTable :=
  match answer with
  | (ret, some msg) => if ret < 0 then table else table.newlink msg
  | (_, none) => table

structure FrameEnv where
  destroy : DestroyEnv
  create : CreateEnv
  build : BuildEnv

structure State where
  table : LinkTable
  installed : Option Expr

/-- What `pcap_next` returns: nothing before its timeout, or a frame. -/
inductive Arrival where
  | timeout
  | frame (pkt : Packet) (env : FrameEnv)

/-- The loop body from the derived name on. -/
def setUp (k : Kernel) (master : Int32) (s : State) (env : FrameEnv) (opt : GretapOpt) : State :=
  let opt := { opt with ifname := interfaceName opt }
  let table := if opt.key ≠ 0 then (destoryTunnel env.destroy s.table opt.ifname).2 else s.table
  let opt := { opt with master := master }
  let answer := createTunnel opt env.create
  let table := table.created answer
  if answer.1 < 0 then ⟨table, s.installed⟩
  else ⟨table, (buildFilter k env.build table s.installed).2⟩

/-- One iteration of the loop. -/
def step (k : Kernel) (master : Int32) (s : State) : Arrival → State
  | .timeout => s
  | .frame pkt env =>
      let parsed := (Dygrefou.parsePacket pkt GretapOpt.zeroed).val
      if parsed.1 < 0 then s else setUp k master s env parsed.2

/-- The states at the head of the loop. Where the first filter cannot be
installed the program exits before the loop. -/
def loopHeads (k : Kernel) (master : Int32) (table : LinkTable) (env : BuildEnv)
    (arrivals : List Arrival) : List State :=
  let built := buildFilter k env table none
  if built.1 < 0 then [] else Runs.heads (step k master) ⟨table, built.2⟩ arrivals

/-! ### What an iteration does -/

/-- The tunnel a frame asks for, as `create_tunnel` is given it. -/
def requestOf (master : Int32) (pkt : Packet) : GretapOpt :=
  let opt := Dygrefou.reported pkt GretapOpt.zeroed
  { opt with ifname := interfaceName opt, master := master }

section Step

variable {k : Kernel} {master : Int32} {s : State} {pkt : Packet} {env : FrameEnv}

theorem step_of_not_accepts (h : ¬Dygrefou.Accepts pkt) :
    step k master s (.frame pkt env) = s :=
  if_pos ((Dygrefou.parsePacket_neg_iff _).mpr h)

theorem step_of_accepts (h : Dygrefou.Accepts pkt) :
    step k master s (.frame pkt env) =
      setUp k master s env (Dygrefou.reported pkt GretapOpt.zeroed) := by
  have hparse := Dygrefou.parsePacket_of_accepts GretapOpt.zeroed h
  simp only [step, hparse]
  rfl

/-- The links once the old tunnel of the same key was deleted, or should have
been. -/
def cleared (s : State) (env : FrameEnv) (opt : GretapOpt) : LinkTable :=
  if opt.key ≠ 0 then (destoryTunnel env.destroy s.table opt.ifname).2 else s.table

/-- `create_tunnel` fails. -/
def CreateFails (env : FrameEnv) (opt : GretapOpt) : Prop := (createTunnel opt env.create).1 < 0

instance (env : FrameEnv) (opt : GretapOpt) : Decidable (CreateFails env opt) :=
  inferInstanceAs (Decidable (_ < _))

theorem created_of_fails {table : LinkTable} {answer : Int × Option NlMsg} (h : answer.1 < 0) :
    table.created answer = table := by
  obtain ⟨ret, msg⟩ := answer
  cases msg with
  | none => rfl
  | some msg => exact if_pos h

theorem created_createTunnel {table : LinkTable} {opt : GretapOpt} {cenv : CreateEnv}
    (h : ¬(createTunnel opt cenv).1 < 0) :
    table.created (createTunnel opt cenv) = table.put (tunnelLink opt) := by
  rcases createTunnel_cases opt cenv with hrun | ⟨ret, hneg, hrun⟩
  · rw [hrun] at h ⊢
    rw [LinkTable.created, if_neg h, LinkTable.newlink, ofMsg_tunnelMsg]
  · rw [hrun] at h
    exact absurd hneg h

/-- Whatever the calls answer, an iteration for an accepted frame ends in one of
two ways. -/
theorem step_cases (h : Dygrefou.Accepts pkt) :
    (CreateFails env (requestOf master pkt) ∧
      step k master s (.frame pkt env) =
        ⟨cleared s env (requestOf master pkt), s.installed⟩) ∨
    (¬CreateFails env (requestOf master pkt) ∧
      step k master s (.frame pkt env) =
        let table := (cleared s env (requestOf master pkt)).put
          (tunnelLink (requestOf master pkt))
        ⟨table, (buildFilter k env.build table s.installed).2⟩) := by
  have hstep : step k master s (.frame pkt env) =
      let answer := createTunnel (requestOf master pkt) env.create
      let table := (cleared s env (requestOf master pkt)).created answer
      if answer.1 < 0 then ⟨table, s.installed⟩
      else ⟨table, (buildFilter k env.build table s.installed).2⟩ := step_of_accepts h
  rw [hstep]
  by_cases hfails : (createTunnel (requestOf master pkt) env.create).1 < 0
  · refine Or.inl ⟨hfails, ?_⟩
    dsimp only
    rw [if_pos hfails, created_of_fails hfails]
  · refine Or.inr ⟨hfails, ?_⟩
    dsimp only
    rw [if_neg hfails, created_createTunnel hfails]

/-- The calls of `destory_tunnel` are made for the request and succeed. -/
def Destroys (env : FrameEnv) (opt : GretapOpt) : Prop :=
  opt.key ≠ 0 ∧ 0 ≤ env.destroy.alloc ∧ 0 ≤ env.destroy.delete

instance (env : FrameEnv) (opt : GretapOpt) : Decidable (Destroys env opt) :=
  inferInstanceAs (Decidable (_ ∧ _))

/-- At most the link named like the request is gone. -/
theorem mem_cleared {opt : GretapOpt} {link : Link} : link ∈ cleared s env opt ↔
    link ∈ s.table ∧ (Destroys env opt → link.name ≠ opt.ifname) := by
  have hkept (h : ¬Destroys env opt) :
      link ∈ s.table ∧ (Destroys env opt → link.name ≠ opt.ifname) ↔ link ∈ s.table :=
    and_iff_left fun hdestroys => absurd hdestroys h
  unfold cleared destoryTunnel
  by_cases hkey : opt.key = 0
  · rw [if_neg (not_not.mpr hkey), hkept fun h => h.1 hkey]
  rw [if_pos hkey]
  split
  · rename_i halloc
    rw [hkept fun h => not_lt.mpr h.2.1 halloc]
  rename_i halloc
  split
  · rename_i hfind
    have hnone := (s.table.find?_eq_none_iff).mp hfind
    exact ⟨fun h => ⟨h, fun _ => hnone link h⟩, fun h => h.1⟩
  · split
    · rename_i hdelete
      rw [hkept fun h => not_lt.mpr h.2.2 hdelete]
    · rename_i hdelete
      have hdestroys : Destroys env opt := ⟨hkey, not_lt.mp halloc, not_lt.mp hdelete⟩
      rw [KeyedList.mem_erase]
      exact and_congr_right fun _ => ⟨fun h _ => h, fun h => h hdestroys⟩

end Step

/-! ### The tunnel of a request -/

/-- The endpoint a frame comes from; its port is zero without a UDP header. -/
def senderOf (pkt : Packet) : Endpoint :=
  let opt := Dygrefou.reported pkt GretapOpt.zeroed
  (opt.remote, opt.encapDport)

section Request

variable {master : Int32} {pkt : Packet} {ep : Endpoint}

theorem serves_tunnelLink {opt : GretapOpt} (hname : opt.ifname.hasPrefix TUNNEL_PREFIX = true) :
    (tunnelLink opt).Serves ep ↔ ep = (opt.remote, sentPort opt opt.encapDport) := by
  have htunnel : (tunnelLink opt).tunnel = some (GreParms.ofOpt opt) := if_pos hname
  have hendpoint : (GreParms.ofOpt opt).endpoint = (opt.remote, sentPort opt opt.encapDport) :=
    congrArg (Prod.mk opt.remote) (ntohs_htons _)
  unfold Link.Serves
  rw [htunnel, ← hendpoint]
  constructor
  · rintro ⟨parms, hparms, rfl⟩
    rw [Option.some.inj hparms]
  · intro h
    exact ⟨_, rfl, h.symm⟩

/-- Without a UDP header the parser leaves the type and both ports at zero. -/
theorem ports_reported (h : (Dygrefou.reported pkt GretapOpt.zeroed).encapType =
    TUNNEL_ENCAP_NONE) : (Dygrefou.reported pkt GretapOpt.zeroed).encapSport = 0 ∧
      (Dygrefou.reported pkt GretapOpt.zeroed).encapDport = 0 := by
  unfold Dygrefou.reported at h ⊢
  by_cases hudp : pkt.protocol Packet.outerIp = IPPROTO_UDP
  · simp only [hudp, if_true] at h
    exact absurd h (by decide)
  · simp only [hudp, if_false]
    exact ⟨rfl, rfl⟩

theorem serves_requestOf : (tunnelLink (requestOf master pkt)).Serves ep ↔ ep = senderOf pkt := by
  rw [serves_tunnelLink (hasPrefix_interfaceName _)]
  have hport : sentPort (requestOf master pkt) (requestOf master pkt).encapDport =
      (requestOf master pkt).encapDport := by
    unfold sentPort
    split
    · rfl
    · rename_i hnone
      exact ((ports_reported (not_not.mp hnone)).2).symm
  rw [hport]
  rfl

end Request

end DynamicGre

import DynamicGre.Daemon.Loop
import DynamicGre.Ownership

/-!
The objects of libnl, libpcap and the C library that the Project daemon holds
while it runs. `rtnl_link_build_get_request` and `nlmsg_alloc_simple` hand over a
message, which `nl_send_sync` frees and `nl_send_auto` does not;
`rtnl_link_get_by_name` hands over a reference of its own to a link of the list;
what `open_memstream` has written to is to be freed after the stream is closed.
-/

namespace DynamicGre.Objects

open Ownership Pcap

inductive Object where
  | message
  | callbacks
  | links
  | link
  | stream
  | text
  | program
  | devices
  | socket
  | capture
deriving DecidableEq

/-! ### Calls -/

/-- What `nl_recvmsgs` and `nl_wait_for_ack` make of the answer. -/
def received (k : Kernel) (table : LinkTable) (name : IfName) (env : GetTunnelEnv)
    (opt : GretapOpt) : Int × GretapOpt :=
  if env.recv < 0 then (env.recv, opt)
  else
    match table.find? name with
    | none => (-NLE_OBJ_NOTFOUND, opt)
    | some link =>
        let parsed := tunnelParser (k.dump link) opt
        if parsed.1 < 0 then parsed else (env.ack, parsed.2)

/-- `get_tunnel`. Only the exits through `err_msg` free the message. -/
def getTunnel (nl : Nat) (k : Kernel) (table : LinkTable) (name : IfName) (env : GetTunnelEnv)
    (opt : GretapOpt) : Owned Object (Int × GretapOpt) :=
  if env.build < 0 then pure (env.build, opt)
  else do
    let msg ← alloc .message
    access .message msg
    access .socket nl
    if env.send < 0 then do
      free .message msg
      pure (env.send, opt)
    else if ¬env.cbAlloc then do
      free .message msg
      pure (-NLE_NOMEM, opt)
    else do
      let cb ← alloc .callbacks
      access .callbacks cb
      access .socket nl
      free .callbacks cb
      pure (received k table name env opt)

/-- `create_tunnel`; the message is freed by `nl_send_sync`, or at `err_msg`. -/
def createTunnel (nl : Nat) (opt : GretapOpt) (env : CreateEnv) :
    Owned Object (Int × Option NlMsg) :=
  if env.alloc then do
    let msg ← alloc .message
    access .message msg
    match createMsg opt env.room with
    | .error ret => do
        free .message msg
        pure (ret, none)
    | .ok (built, _) => do
        access .socket nl
        free .message msg
        pure (env.send, some built)
  else pure (-NLE_NOMEM, none)

/-- `destory_tunnel`, which holds a reference to the link it deletes. -/
def destoryTunnel (nl : Nat) (env : DestroyEnv) (table : LinkTable) (ifname : IfName) :
    Owned Object (Int × LinkTable) := do
  access .socket nl
  if env.alloc < 0 then pure (env.alloc, table)
  else do
    let links ← alloc .links
    access .links links
    match table.find? ifname with
    | none => do
        free .links links
        pure (0, table)
    | some _ => do
        let link ← alloc .link
        access .link link
        access .socket nl
        free .links links
        pure (if env.delete < 0 then (env.delete, table) else (env.delete, table.erase ifname))

/-- The body of the loop over the links. The name belongs to the list. -/
def appendLink (nl : Nat) (k : Kernel) (env : BuildEnv) (table : LinkTable) (ss links : Nat)
    (expr : Expr) (cur : CachedLink) : Owned Object Expr := do
  access .links links
  if ¬cur.ipgretap then pure expr
  else
    match cur.name with
    | none => pure expr
    | some linkname =>
        if ¬linkname.hasPrefix TUNNEL_PREFIX then pure expr
        else do
          let got ← getTunnel nl k table linkname (env.tunnel linkname) env.stale
          access .links links
          if got.1 < 0 then pure expr
          else do
            access .stream ss
            pure (.and expr (.not (endpointExpr (got.2.remote, got.2.encapDport))))

/-- The expression that is written to the stream. -/
def filterText (nl : Nat) (k : Kernel) (env : BuildEnv) (table : LinkTable) (ss : Nat) :
    Owned Object Expr := do
  access .stream ss
  access .socket nl
  if env.alloc < 0 then pure baseExpr
  else do
    let links ← alloc .links
    let expr ← (table.entries.map Link.cached).foldlM (appendLink nl k env table ss links) baseExpr
    free .links links
    pure expr

/-- What follows `fclose`, with the answers of `pcap_compile` and
`pcap_setfilter`. -/
def setFilter (pcap : Nat) (compile setfilter : Int) (exprbuf : Nat) (expr : Expr)
    (installed : Option Expr) : Owned Object (Int × Option Expr) := do
  access .capture pcap
  access .text exprbuf
  if compile = PCAP_ERROR then do
    free .text exprbuf
    pure (-1, installed)
  else do
    let bpf ← alloc .program
    access .capture pcap
    access .program bpf
    if setfilter = PCAP_ERROR then do
      free .program bpf
      free .text exprbuf
      pure (-1, installed)
    else do
      free .program bpf
      free .text exprbuf
      pure (0, some expr)

/-- `build_filter`, once the stream is open. -/
def buildFilter (pcap nl : Nat) (k : Kernel) (env : BuildEnv) (table : LinkTable)
    (installed : Option Expr) : Owned Object (Int × Option Expr) := do
  let exprbuf ← alloc .text
  let ss ← alloc .stream
  let expr ← filterText nl k env table ss
  free .stream ss
  setFilter pcap env.compile env.setfilter exprbuf expr installed

/-! ### The loop -/

/-- The loop body from the derived name on. -/
def setUp (pcap nl : Nat) (k : Kernel) (master : Int32) (s : State) (env : FrameEnv)
    (opt : GretapOpt) : Owned Object State := do
  let opt := { opt with ifname := interfaceName opt }
  let table ← (if opt.key ≠ 0 then do
      let answer ← destoryTunnel nl env.destroy s.table opt.ifname
      pure answer.2
    else pure s.table : Owned Object LinkTable)
  let opt := { opt with master := master }
  let answer ← createTunnel nl opt env.create
  let table := table.created answer
  if answer.1 < 0 then pure ⟨table, s.installed⟩
  else do
    let built ← buildFilter pcap nl k env.build table s.installed
    pure ⟨table, built.2⟩

/-- One iteration of the loop, which starts with `pcap_next`. -/
def step (pcap nl : Nat) (k : Kernel) (master : Int32) (s : State) (arrival : Arrival) :
    Owned Object State := do
  access .capture pcap
  match arrival with
  | .timeout => pure s
  | .frame pkt env =>
      let parsed := (Dygrefou.parsePacket pkt GretapOpt.zeroed).val
      if parsed.1 < 0 then pure s else setUp pcap nl k master s env parsed.2

/-! ### What is lost -/

/-- `get_tunnel` gets as far as `nl_recvmsgs`. -/
def Receives (env : GetTunnelEnv) : Prop := 0 ≤ env.build ∧ 0 ≤ env.send ∧ env.cbAlloc = true

instance (env : GetTunnelEnv) : Decidable (Receives env) := inferInstanceAs (Decidable (_ ∧ _))

/-- One message for each tunnel that is asked for. -/
def lostByGet (env : GetTunnelEnv) : List Object := if Receives env then [.message] else []

def lostByLink (env : BuildEnv) (cur : CachedLink) : List Object :=
  if cur.ipgretap then
    (cur.name.filter (·.hasPrefix TUNNEL_PREFIX)).elim [] fun name => lostByGet (env.tunnel name)
  else []

def lostByBuild (env : BuildEnv) (table : LinkTable) : List Object :=
  if env.alloc < 0 then [] else (table.entries.map Link.cached).flatMap (lostByLink env)

/-- The reference to the link that is there under the name. -/
def lostByDestroy (env : DestroyEnv) (table : LinkTable) (ifname : IfName) : List Object :=
  if env.alloc < 0 then [] else (table.find? ifname).elim [] fun _ => [.link]

/-- What one iteration loses. -/
def lostByStep (k : Kernel) (master : Int32) (s : State) : Arrival → List Object
  | .timeout => []
  | .frame pkt env =>
      if Dygrefou.Accepts pkt then
        let opt := requestOf master pkt
        (if opt.key ≠ 0 then lostByDestroy env.destroy s.table opt.ifname else []) ++
          if CreateFails env opt then []
          else lostByBuild env.build (DynamicGre.step k master s (.frame pkt env)).table
      else []

/-! ### Every call -/

section Calls

variable {k : Kernel} {table : LinkTable} {name : IfName} {env : BuildEnv}
  {pre : List (Nat × Object)} {nl pcap : Nat}

section Socket

variable (hnl : (nl, Object.socket) ∈ pre)

include hnl

/-- `get_tunnel` loses its message once the callbacks are there. -/
theorem triple_getTunnel (genv : GetTunnelEnv) (opt : GretapOpt) :
    Triple pre (getTunnel nl k table name genv opt) (DynamicGre.getTunnel k table name genv opt)
      pre (lostByGet genv) := by
  unfold getTunnel DynamicGre.getTunnel lostByGet
  by_cases hbuild : genv.build < 0
  · have hnot : ¬Receives genv := fun h => not_lt.mpr h.1 hbuild
    rw [if_pos hbuild, if_pos hbuild, if_neg hnot]
    exact triple_pure _
  rw [if_neg hbuild, if_neg hbuild]
  by_cases hsend : genv.send < 0
  · have hnot : ¬Receives genv := fun h => not_lt.mpr h.2.1 hsend
    rw [if_neg hnot, if_pos hsend]
    apply triple_alloc
    intro msg
    refine (triple_access List.mem_cons_self).next ?_
    refine (triple_access (List.mem_cons_of_mem _ hnl)).next ?_
    rw [if_pos hsend]
    exact triple_free.next (triple_pure _)
  rw [if_neg hsend]
  by_cases hcb : genv.cbAlloc = true
  · have hreceives : Receives genv := ⟨not_lt.mp hbuild, not_lt.mp hsend, hcb⟩
    rw [if_pos hreceives, if_neg (not_not.mpr hcb)]
    apply triple_alloc_lost
    intro msg
    refine (triple_access List.mem_cons_self).next ?_
    refine (triple_access (List.mem_cons_of_mem _ hnl)).next ?_
    rw [if_neg hsend, if_neg (not_not.mpr hcb)]
    apply triple_alloc
    intro cb
    refine (triple_access List.mem_cons_self).next ?_
    refine (triple_access (List.mem_cons_of_mem _ (List.mem_cons_of_mem _ hnl))).next ?_
    exact triple_free.next (triple_pure _)
  · have hnot : ¬Receives genv := fun h => hcb h.2.2
    rw [if_neg hnot, if_pos hcb]
    apply triple_alloc
    intro msg
    refine (triple_access List.mem_cons_self).next ?_
    refine (triple_access (List.mem_cons_of_mem _ hnl)).next ?_
    rw [if_neg hsend, if_pos hcb]
    exact triple_free.next (triple_pure _)

/-- `create_tunnel` frees its message on every path. -/
theorem triple_createTunnel (opt : GretapOpt) (cenv : CreateEnv) :
    Triple pre (createTunnel nl opt cenv) (DynamicGre.createTunnel opt cenv) pre [] := by
  unfold createTunnel DynamicGre.createTunnel
  split
  · apply triple_alloc
    intro msg
    refine (triple_access List.mem_cons_self).next ?_
    cases createMsg opt cenv.room with
    | error ret => exact triple_free.next (triple_pure _)
    | ok built =>
        refine (triple_access (List.mem_cons_of_mem _ hnl)).next ?_
        exact triple_free.next (triple_pure _)
  · exact triple_pure _

/-- `destory_tunnel` keeps its reference to a link that it finds. -/
theorem triple_destoryTunnel (denv : DestroyEnv) :
    Triple pre (destoryTunnel nl denv table name) (DynamicGre.destoryTunnel denv table name) pre
      (lostByDestroy denv table name) := by
  unfold destoryTunnel DynamicGre.destoryTunnel lostByDestroy
  refine (triple_access hnl).next ?_
  split
  · exact triple_pure _
  apply triple_alloc
  intro links
  refine (triple_access List.mem_cons_self).next ?_
  cases table.find? name with
  | none => exact triple_free.next (triple_pure _)
  | some found =>
      apply triple_alloc_lost
      intro link
      refine (triple_access List.mem_cons_self).next ?_
      refine (triple_access (List.mem_cons_of_mem _ (List.mem_cons_of_mem _ hnl))).next ?_
      exact triple_free_second.next (triple_pure _)

theorem triple_appendLink {ss links : Nat} (hss : (ss, Object.stream) ∈ pre)
    (hlinks : (links, Object.links) ∈ pre) (expr : Expr) (cur : CachedLink) :
    Triple pre (appendLink nl k env table ss links expr cur)
      (DynamicGre.appendLink k env table expr cur) pre (lostByLink env cur) := by
  unfold appendLink DynamicGre.appendLink lostByLink
  refine (triple_access hlinks).next ?_
  cases cur.ipgretap with
  | false => exact triple_pure expr
  | true =>
      cases cur.name with
      | none => exact triple_pure expr
      | some linkname =>
          dsimp only
          by_cases hdygre : linkname.hasPrefix TUNNEL_PREFIX = true
          · simp only [hdygre, not_true_eq_false, if_false, if_true, Option.filter_some,
              Option.elim_some]
            refine (triple_getTunnel hnl _ _).last ?_
            refine (triple_access hlinks).next ?_
            split
            · exact triple_pure expr
            · exact (triple_access hss).next (triple_pure _)
          · simp only [hdygre, if_true, Option.filter_some]
            exact triple_pure expr

theorem triple_filterText {ss : Nat} (hss : (ss, Object.stream) ∈ pre) :
    Triple pre (filterText nl k env table ss) (DynamicGre.filterText k env table) pre
      (lostByBuild env table) := by
  unfold filterText DynamicGre.filterText lostByBuild
  refine (triple_access hss).next ((triple_access hnl).next ?_)
  split
  · exact triple_pure baseExpr
  apply triple_alloc
  intro links
  refine Triple.last ?_ (triple_free.next (triple_pure _))
  rw [← Runs.collect_const (DynamicGre.appendLink k env table)]
  exact triple_foldlM (triple_appendLink (List.mem_cons_of_mem _ hnl)
    (List.mem_cons_of_mem _ hss) List.mem_cons_self) _ _

end Socket

variable (hpcap : (pcap, Object.capture) ∈ pre)

include hpcap

theorem triple_setFilter {exprbuf : Nat} (compile setfilter : Int) (expr : Expr)
    (installed : Option Expr) :
    Triple ((exprbuf, Object.text) :: pre)
      (setFilter pcap compile setfilter exprbuf expr installed)
      (if compile = PCAP_ERROR then (-1, installed)
        else if setfilter = PCAP_ERROR then (-1, installed) else (0, some expr)) pre [] := by
  unfold setFilter
  have htext : (pcap, Object.capture) ∈ (exprbuf, Object.text) :: pre :=
    List.mem_cons_of_mem _ hpcap
  refine (triple_access htext).next ((triple_access List.mem_cons_self).next ?_)
  split
  · exact triple_free.next (triple_pure _)
  apply triple_alloc
  intro bpf
  refine (triple_access (List.mem_cons_of_mem _ htext)).next ?_
  refine (triple_access List.mem_cons_self).next ?_
  split
  · exact triple_free.next (triple_free.next (triple_pure _))
  · exact triple_free.next (triple_free.next (triple_pure _))

/-- `build_filter` loses what its calls of `get_tunnel` lose. -/
theorem triple_buildFilter (hnl : (nl, Object.socket) ∈ pre) (installed : Option Expr) :
    Triple pre (buildFilter pcap nl k env table installed)
      (DynamicGre.buildFilter k env table installed) pre (lostByBuild env table) := by
  apply triple_alloc
  intro exprbuf
  apply triple_alloc
  intro ss
  have hheld : (nl, Object.socket) ∈ (ss, Object.stream) :: (exprbuf, Object.text) :: pre :=
    List.mem_cons_of_mem _ (List.mem_cons_of_mem _ hnl)
  refine (triple_filterText hheld List.mem_cons_self).last ?_
  exact triple_free.next (triple_setFilter hpcap _ _ _ _)

end Calls

/-! ### Every iteration -/

section Step

variable {k : Kernel} {master : Int32} {pre : List (Nat × Object)} {nl pcap : Nat}
  (hpcap : (pcap, Object.capture) ∈ pre) (hnl : (nl, Object.socket) ∈ pre)

include hpcap hnl

/-- The loop body frees what it allocates, but for what `destory_tunnel` and
`build_filter` lose. -/
theorem triple_setUp (s : State) (env : FrameEnv) (opt : GretapOpt) :
    let opt' := { opt with ifname := interfaceName opt, master := master }
    Triple pre (setUp pcap nl k master s env opt) (DynamicGre.setUp k master s env opt) pre
      ((if opt.key ≠ 0 then lostByDestroy env.destroy s.table (interfaceName opt) else []) ++
        if CreateFails env opt' then []
        else lostByBuild env.build (DynamicGre.setUp k master s env opt).table) := by
  intro opt'
  have hcleared : Triple pre
      (if opt'.key ≠ 0 then (do
          let answer ← destoryTunnel nl env.destroy s.table opt'.ifname
          pure answer.2)
        else pure s.table : Owned Object LinkTable)
      (cleared s env opt') pre
      (if opt.key ≠ 0 then lostByDestroy env.destroy s.table (interfaceName opt) else []) := by
    unfold cleared
    split
    · exact (triple_destoryTunnel hnl env.destroy).last (triple_pure _)
    · exact triple_pure _
  let answer := DynamicGre.createTunnel opt' env.create
  let table := (cleared s env opt').created answer
  have hbody : DynamicGre.setUp k master s env opt =
      if answer.1 < 0 then ⟨table, s.installed⟩
      else ⟨table, (DynamicGre.buildFilter k env.build table s.installed).2⟩ := rfl
  unfold setUp
  refine hcleared.bind ((triple_createTunnel hnl opt' env.create).next ?_)
  rw [hbody]
  by_cases hfails : CreateFails env opt'
  · have hneg : answer.1 < 0 := hfails
    rw [if_pos hneg, if_pos hneg, if_pos hfails]
    exact triple_pure _
  · have hok : ¬answer.1 < 0 := hfails
    rw [if_neg hok, if_neg hok, if_neg hfails]
    exact (triple_buildFilter hpcap hnl s.installed).last (triple_pure _)

/-- An iteration never touches an object that is not live. -/
theorem triple_step (s : State) (arrival : Arrival) :
    Triple pre (step pcap nl k master s arrival) (DynamicGre.step k master s arrival) pre
      (lostByStep k master s arrival) := by
  refine (triple_access hpcap).next ?_
  cases arrival with
  | timeout => exact triple_pure s
  | frame pkt env =>
      by_cases haccepts : Dygrefou.Accepts pkt
      · have hparse := Dygrefou.parsePacket_of_accepts GretapOpt.zeroed haccepts
        rw [lostByStep, if_pos haccepts, step_of_accepts haccepts]
        simp only [hparse]
        exact triple_setUp hpcap hnl s env _
      · have hrejects := (Dygrefou.parsePacket_neg_iff GretapOpt.zeroed).mpr haccepts
        rw [lostByStep, if_neg haccepts, step_of_not_accepts haccepts]
        dsimp only
        rw [if_pos hrejects]
        exact triple_pure s

end Step

end DynamicGre.Objects

import DynamicGre.Daemon.Kernel
import DynamicGre.PcapFilter

/-!
`get_tunnel` and `build_filter`. Every call they make has an answer of its own,
which may be a failure. The filter lets through what is inbound and for the
tunnel port, less one term for each `dygre-` tunnel that could be read.
-/

namespace DynamicGre

open Bytes Pcap

/-- What the calls inside `get_tunnel` answer, in their order. `recv` is the
answer of `nl_recvmsgs` before it hands a link message on. -/
structure GetTunnelEnv where
  build : Int
  send : Int
  cbAlloc : Bool
  recv : Int
  ack : Int

/-- The return code and the contents of `*opt` afterwards, where no other call has
left replies on the socket. What is left there when `nl_cb_alloc` fails is not
told here but in `Netlink.getTunnel`. -/
def getTunnel (k : Kernel) (table : LinkTable) (name : IfName) (env : GetTunnelEnv)
    (opt : GretapOpt) : Int × GretapOpt :=
  if env.build < 0 then (env.build, opt)
  else if env.send < 0 then (env.send, opt)
  else if ¬env.cbAlloc then (-NLE_NOMEM, opt)
  else if env.recv < 0 then (env.recv, opt)
  else
    match table.find? name with
    | none => (-NLE_OBJ_NOTFOUND, opt)
    | some link =>
        let parsed := tunnelParser (k.dump link) opt
        if parsed.1 < 0 then parsed else (env.ack, parsed.2)

/-- No call inside `get_tunnel` fails. -/
def GetTunnelEnv.Ok (env : GetTunnelEnv) : Prop :=
  0 ≤ env.build ∧ 0 ≤ env.send ∧ env.cbAlloc = true ∧ 0 ≤ env.recv ∧ 0 ≤ env.ack

instance (env : GetTunnelEnv) : Decidable env.Ok := inferInstanceAs (Decidable (_ ∧ _))

/-- A `struct rtnl_link` of the cache, as far as `build_filter` looks at it. -/
structure CachedLink where
  name : Option IfName
  ipgretap : Bool

def Link.cached (link : Link) : CachedLink where
  name := some link.name
  ipgretap :=
    match link.kind with
    | .gretap _ => true
    | .other => false

/-- What the calls inside `build_filter` answer; `stale` is what `info` holds
before `get_tunnel` writes it. -/
structure BuildEnv where
  alloc : Int
  tunnel : IfName → GetTunnelEnv
  stale : GretapOpt
  compile : Int
  setfilter : Int

def PCAP_ERROR : Int := -1

/-- `"inbound and udp dst port 5555"`. -/
def baseExpr : Expr := .and .inbound (.udpDstPort 5555)

/-- `"src host %s and udp src port %hu"`. -/
def endpointExpr (ep : Endpoint) : Expr := .and (.srcHost ep.1) (.udpSrcPort ep.2)

/-- The body of the loop over the links. -/
def appendLink (k : Kernel) (env : BuildEnv) (table : LinkTable) (expr : Expr)
    (cur : CachedLink) : Expr :=
  if ¬cur.ipgretap then expr
  else
    match cur.name with
    | none => expr
    | some linkname =>
        if ¬linkname.hasPrefix TUNNEL_PREFIX then expr
        else
          let got := getTunnel k table linkname (env.tunnel linkname) env.stale
          if got.1 < 0 then expr
          else .and expr (.not (endpointExpr (got.2.remote, got.2.encapDport)))

/-- The expression that is compiled; without the list of links it has no terms
for tunnels. -/
def filterText (k : Kernel) (env : BuildEnv) (table : LinkTable) : Expr :=
  if env.alloc < 0 then baseExpr
  else (table.entries.map Link.cached).foldl (appendLink k env table) baseExpr

/-- The return code and the filter in force afterwards, if there is one. -/
def buildFilter (k : Kernel) (env : BuildEnv) (table : LinkTable) (installed : Option Expr) :
    Int × Option Expr :=
  if env.compile = PCAP_ERROR then (-1, installed)
  else if env.setfilter = PCAP_ERROR then (-1, installed)
  else (0, some (filterText k env table))

/-- Without a filter every frame is captured. -/
def passes (installed : Option Expr) (f : Frame) : Bool := installed.all (·.accepts f)

/-! ### Which tunnels a filter leaves out -/

/-- No inbound datagram for the tunnel port from this endpoint gets through. -/
def Excludes (installed : Option Expr) (ep : Endpoint) : Prop :=
  ∀ f : Frame, f.inbound = true → f.udpDest = some 5555 → f.From ep.1 ep.2 →
    passes installed f = false

def filterExpr (eps : List Endpoint) : Expr := baseExpr.andNot (eps.map endpointExpr)

section Filter

variable {eps : List Endpoint} {ep : Endpoint} {f : Frame}

theorem accepts_endpointExpr : (endpointExpr ep).accepts f = true ↔ f.From ep.1 ep.2 := by
  simp [endpointExpr, Expr.accepts, Frame.From]

/-- The filter accepts what is inbound, for the tunnel port and from none of the
endpoints. -/
theorem accepts_filterExpr : (filterExpr eps).accepts f = true ↔
    f.inbound = true ∧ f.udpDest = some 5555 ∧ ∀ ep ∈ eps, ¬f.From ep.1 ep.2 := by
  rw [filterExpr, Expr.accepts_andNot]
  simp only [List.forall_mem_map, ← Bool.not_eq_true, accepts_endpointExpr, baseExpr,
    Expr.accepts, Bool.and_eq_true, decide_eq_true_eq, and_assoc]

/-- A frame from an endpoint to the tunnel port, with IP options absent. -/
def datagram (ep : Endpoint) : Frame where
  bytes := [0, 0, 0, 0, 0, 0, 0, 0, 0, 0, 0, 0, 0x08, 0x00,
    0x45, 0, 0, 28, 0, 0, 0, 0, 64, 17, 0, 0] ++ bytes32 ep.1 ++ [0, 0, 0, 0] ++
    bytes16 (htons ep.2) ++ [0x15, 0xb3, 0, 8, 0, 0]
  inbound := true

theorem datagram_udpField (ep : Endpoint) (off : Nat) :
    (datagram ep).udpField off = (datagram ep).half (34 + off) := by
  have hudp : (datagram ep).IsUdp4 := ⟨rfl, rfl, rfl⟩
  rw [Frame.udpField, if_pos hudp]
  rfl

theorem datagram_udpDest (ep : Endpoint) : (datagram ep).udpDest = some 5555 := by
  rw [Frame.udpDest, datagram_udpField]
  rfl

theorem datagram_from (ep : Endpoint) : (datagram ep).From ep.1 ep.2 := by
  constructor
  · have hip : (datagram ep).half 12 = some 0x0800 := rfl
    rw [Frame.source, if_pos hip]
    exact congrArg some (le32_bytes32 ep.1)
  · have hport : ntohs (htons ep.2) = ep.2 := ntohs_htons ep.2
    rw [← le16_bytes16 (htons ep.2), ntohs, swap16_le16] at hport
    rw [Frame.udpSource, datagram_udpField]
    exact congrArg some hport

theorem from_inj {a b : Endpoint} (ha : f.From a.1 a.2) (hb : f.From b.1 b.2) : a = b := by
  have haddr : a.1 = b.1 := Option.some.inj (ha.1.symm.trans hb.1)
  have hport : a.2 = b.2 := Option.some.inj (ha.2.symm.trans hb.2)
  exact Prod.ext haddr hport

/-- Exactly the listed endpoints are left out. -/
theorem excludes_filterExpr : Excludes (some (filterExpr eps)) ep ↔ ep ∈ eps := by
  constructor
  · intro h
    by_contra hmem
    have hpass : (filterExpr eps).accepts (datagram ep) = true := by
      refine accepts_filterExpr.mpr ⟨rfl, datagram_udpDest ep, ?_⟩
      intro other hother hfrom
      exact hmem (from_inj (datagram_from ep) hfrom ▸ hother)
    have hblock := h (datagram ep) rfl (datagram_udpDest ep) (datagram_from ep)
    rw [passes, Option.all_some, hpass] at hblock
    cases hblock
  · intro hmem f hin hdest hfrom
    rw [passes, Option.all_some, ← Bool.not_eq_true, accepts_filterExpr]
    rintro ⟨-, -, hnone⟩
    exact hnone ep hmem hfrom

end Filter

/-! ### What `build_filter` installs -/

section Build

variable {k : Kernel} {env : BuildEnv} {table : LinkTable} {installed : Option Expr}

theorem getTunnel_neg_of_not_ok (table : LinkTable) (name : IfName) {genv : GetTunnelEnv}
    (h : ¬genv.Ok) (opt : GretapOpt) : (getTunnel k table name genv opt).1 < 0 := by
  have hnomem : -NLE_NOMEM < 0 := by decide
  have hnotfound : -NLE_OBJ_NOTFOUND < 0 := by decide
  unfold getTunnel
  split
  · assumption
  rename_i hbuild
  split
  · assumption
  rename_i hsend
  split
  · exact hnomem
  rename_i hcb
  split
  · assumption
  rename_i hrecv
  split
  · exact hnotfound
  dsimp only
  split
  · assumption
  · change genv.ack < 0
    by_contra hack
    exact h ⟨not_lt.mp hbuild, not_lt.mp hsend, not_not.mp hcb, not_lt.mp hrecv,
      not_lt.mp hack⟩

/-- A gretap link of the table is read unless a call fails. -/
theorem getTunnel_of_ok {link : Link} (hlink : link ∈ table) {parms : GreParms}
    (hkind : link.kind = .gretap parms) {genv : GetTunnelEnv} (h : genv.Ok) (opt : GretapOpt) :
    ∃ info, getTunnel k table link.name genv opt = (genv.ack, info) ∧
      (info.remote, info.encapDport) = parms.endpoint := by
  obtain ⟨hbuild, hsend, hcb, hrecv, hack⟩ := h
  obtain ⟨info, hparse, hep⟩ := k.tunnelParser_dump hkind opt
  have hfind : table.find? link.name = some link := (table.find?_eq_some_iff).mpr ⟨hlink, rfl⟩
  refine ⟨info, ?_, hep⟩
  simp [getTunnel, not_lt.mpr hbuild, not_lt.mpr hsend, hcb, not_lt.mpr hrecv, hfind, hparse]

/-- The endpoint that one link contributes to the expression. -/
def reported (env : BuildEnv) (link : Link) : Option Endpoint :=
  if (env.tunnel link.name).Ok then link.tunnel.map GreParms.endpoint else none

theorem appendLink_cached {link : Link} (hlink : link ∈ table) (expr : Expr) :
    appendLink k env table expr link.cached =
      ((reported env link).elim expr fun ep => .and expr (.not (endpointExpr ep))) := by
  unfold appendLink reported
  cases hkind : link.kind with
  | other => simp [Link.cached, Link.tunnel, hkind]
  | gretap parms =>
      by_cases hprefix : link.name.hasPrefix TUNNEL_PREFIX = true
      · by_cases hok : (env.tunnel link.name).Ok
        · obtain ⟨info, hget, hep⟩ := getTunnel_of_ok (k := k) hlink hkind hok env.stale
          have hack : ¬(env.tunnel link.name).ack < 0 := not_lt.mpr hok.2.2.2.2
          simp [Link.cached, Link.tunnel, hkind, hprefix, hok, hget, hack, hep]
        · have hneg := getTunnel_neg_of_not_ok (k := k) table link.name hok
            env.stale
          simp [Link.cached, hkind, hprefix, hok, hneg]
      · simp [Link.cached, Link.tunnel, hkind, hprefix]

/-- The endpoints of the expression, in the order of the links. -/
def reportedAll (env : BuildEnv) (table : LinkTable) : List Endpoint :=
  if env.alloc < 0 then [] else table.entries.filterMap (reported env)

theorem foldl_appendLink (links : List Link) (hlinks : ∀ link ∈ links, link ∈ table)
    (expr : Expr) : (links.map Link.cached).foldl (appendLink k env table) expr =
      expr.andNot ((links.filterMap (reported env)).map endpointExpr) := by
  induction links generalizing expr with
  | nil => rfl
  | cons link links ih =>
      have hrest : ∀ l ∈ links, l ∈ table := fun l hl => hlinks l (List.mem_cons_of_mem _ hl)
      rw [List.map_cons, List.foldl_cons, appendLink_cached (hlinks link List.mem_cons_self),
        ih hrest]
      cases hep : reported env link with
      | none => simp [hep]
      | some ep => simp [hep, Expr.andNot]

theorem filterText_eq : filterText k env table = filterExpr (reportedAll env table) := by
  unfold filterText reportedAll filterExpr
  split
  · rfl
  · exact foldl_appendLink table.entries (fun _ h => h) baseExpr

theorem mem_reportedAll {ep : Endpoint} : ep ∈ reportedAll env table ↔
    0 ≤ env.alloc ∧ ∃ link ∈ table, link.Serves ep ∧ (env.tunnel link.name).Ok := by
  unfold reportedAll
  split
  · rename_i hfail
    simp only [List.not_mem_nil, false_iff]
    rintro ⟨hok, -⟩
    omega
  · rename_i hok
    rw [List.mem_filterMap]
    constructor
    · rintro ⟨link, hlink, hep⟩
      unfold reported at hep
      split at hep
      · rename_i hget
        obtain ⟨parms, hparms, heq⟩ := Option.map_eq_some_iff.mp hep
        exact ⟨not_lt.mp hok, link, hlink, ⟨parms, hparms, heq⟩, hget⟩
      · cases hep
    · rintro ⟨-, link, hlink, ⟨parms, hparms, heq⟩, hget⟩
      refine ⟨link, hlink, ?_⟩
      rw [reported, if_pos hget]
      exact Option.map_eq_some_iff.mpr ⟨parms, hparms, heq⟩

/-- Compiling and installing the expression both succeed. -/
def BuildEnv.Installs (env : BuildEnv) : Prop :=
  env.compile ≠ PCAP_ERROR ∧ env.setfilter ≠ PCAP_ERROR

instance (env : BuildEnv) : Decidable env.Installs := inferInstanceAs (Decidable (_ ∧ _))

theorem buildFilter_of_installs (h : env.Installs) : buildFilter k env table installed =
    (0, some (filterExpr (reportedAll env table))) := by
  rw [buildFilter, if_neg h.1, if_neg h.2, filterText_eq]

theorem buildFilter_of_not_installs (h : ¬env.Installs) :
    buildFilter k env table installed = (-1, installed) := by
  unfold buildFilter
  split
  · rfl
  · rename_i hcompile
    rw [if_pos]
    by_contra hset
    exact h ⟨hcompile, hset⟩

/-- Either the filter stays as it was, or the new one leaves out exactly the
endpoints of the tunnels that were read, each from its own reply. -/
theorem buildFilter_outcome (k : Kernel) (env : BuildEnv) (table : LinkTable)
    (installed : Option Expr) :
    (buildFilter k env table installed = (-1, installed) ∧ ¬env.Installs) ∨
      ∃ filter, buildFilter k env table installed = (0, some filter) ∧ env.Installs ∧
        ∀ ep, Excludes (some filter) ep ↔
          0 ≤ env.alloc ∧ ∃ link ∈ table, link.Serves ep ∧ (env.tunnel link.name).Ok := by
  by_cases h : env.Installs
  · refine Or.inr ⟨_, buildFilter_of_installs h, h, ?_⟩
    intro ep
    rw [excludes_filterExpr, mem_reportedAll]
  · exact Or.inl ⟨buildFilter_of_not_installs h, h⟩

end Build

/-- One tunnel, to port 40000 of 192.168.2.1. -/
def oneTunnel : LinkTable where
  entries := [tunnelLink keyOne]
  nodup := List.nodup_singleton _

def GetTunnelEnv.good : GetTunnelEnv := ⟨0, 0, true, 0, 0⟩

def BuildEnv.good : BuildEnv := ⟨0, fun _ => GetTunnelEnv.good, GretapOpt.zeroed, 0, 0⟩

end DynamicGre

import DynamicGre.Daemon.Loop
import DynamicGre.Packet.Captured

/-!
The Lab4 daemon. Its tunnels are told apart by the remote address alone, and its
filter leaves out the sources that have one. Nothing is ever deleted.
-/

namespace DynamicGre.Dygre

open Bytes Pcap

def NLE_EXIST : Int := 6

/-! ### The calls of an iteration -/

/-- What `rtnl_link_alloc_cache`, `pcap_compile` and `pcap_setfilter` answer. -/
structure BuildEnv where
  alloc : Int
  compile : Int
  setfilter : Int

/-- `"inbound and ip proto gre"`. -/
def baseExpr : Expr := .and .inbound (.ipProto IPPROTO_GRE)

/-- The body of the loop over the links, which all have names, with its
`" and not src host %s"`. -/
def appendLink (expr : Expr) (cur : Link) : Expr :=
  match cur.kind with
  | .other => expr
  | .gretap parms =>
      if ¬cur.name.hasPrefix TUNNEL_PREFIX then expr
      else .and expr (.not (.srcHost parms.remote))

def filterText (env : BuildEnv) (table : LinkTable) : Expr :=
  if env.alloc < 0 then baseExpr else table.entries.foldl appendLink baseExpr

/-- The return code and the filter in force afterwards, if there is one. -/
def buildFilter (env : BuildEnv) (table : LinkTable) (installed : Option Expr) :
    Int × Option Expr :=
  if env.compile = PCAP_ERROR then (-1, installed)
  else if env.setfilter = PCAP_ERROR then (-1, installed)
  else (0, some (filterText env table))

/-- Whether `rtnl_link_ipgretap_alloc` returns a link, and what `rtnl_link_add`
answers. -/
structure CreateEnv where
  alloc : Bool
  add : Int

/-- The link that `create_tunnel` fills in. -/
def greLink (master : Int32) (remote localAddr : UInt32) : Link where
  name := tunnelName remote
  master := if 0 < master then master else 0
  kind := .gretap
    { iflags := 0, oflags := 0, ikey := 0, okey := 0, localAddr := localAddr, remote := remote
      encapType := 0, encapSport := 0, encapDport := 0 }

/-- `rtnl_link_add` with `NLM_F_CREATE`: unless it fails, a link of that name is
there afterwards with the given parameters. -/
def linkAdd (ret : Int) (table : LinkTable) (link : Link) : LinkTable :=
  if ret < 0 then table else table.put link

/-- The return code of `create_tunnel` and the links afterwards. Its remote
address is logged. -/
def createTunnel (env : CreateEnv) (master : Int32) (remote localAddr : UInt32)
    (table : LinkTable) : Logged UInt32 (Int × LinkTable) := do
  Logged.emits [remote]
  if ¬env.alloc then return (-1, table)
  let table := linkAdd env.add table (greLink master remote localAddr)
  if env.add = -NLE_EXIST then return (0, table)
  else if env.add < 0 then return (-1, table)
  else return (0, table)

/-- `stale` is what `saddr` and `daddr` hold before they are written. -/
structure FrameEnv where
  stale : Addresses
  create : CreateEnv
  build : BuildEnv

/-- A second without a frame, or a frame that reaches the device. -/
inductive Arrival where
  | timeout
  | frame (pkt : Packet) (env : FrameEnv)

/-- The loop body for a frame that `pcap_next` returned. -/
def handle (master : Int32) (s : State) (pkt : Packet) (env : FrameEnv) : Logged UInt32 State :=
  let parsed := (parsePacket pkt env.stale).val
  if parsed.1 < 0 then pure s
  else do
    let created ← createTunnel env.create master parsed.2.saddr parsed.2.daddr s.table
    if created.1 < 0 then return ⟨created.2, s.installed⟩
    return ⟨created.2, (buildFilter env.build created.2 s.installed).2⟩

/-- One iteration of the loop. `pcap_next` returns the frames that pass the
filter in force. -/
def step (master : Int32) (s : State) : Arrival → Logged UInt32 State
  | .timeout => pure s
  | .frame pkt env => if passes s.installed pkt.frame then handle master s pkt env else pure s

def next (master : Int32) (s : State) (arrival : Arrival) : State := (step master s arrival).val

/-- The states at the head of the loop. Where the first filter cannot be
installed the program exits before the loop. -/
def loopHeads (master : Int32) (table : LinkTable) (env : BuildEnv) (arrivals : List Arrival) :
    List State :=
  let built := buildFilter env table none
  if built.1 < 0 then [] else Runs.heads (next master) ⟨table, built.2⟩ arrivals

/-- The remote addresses that `create_tunnel` is called with, in their order. -/
def calls (master : Int32) (table : LinkTable) (env : BuildEnv) (arrivals : List Arrival) :
    List UInt32 :=
  let built := buildFilter env table none
  if built.1 < 0 then []
  else (arrivals.foldlM (step master) (⟨table, built.2⟩ : State)).log

/-! ### What the filter leaves out -/

/-- The remote address of a link that is a `dygre-` tunnel. -/
def remoteOf (link : Link) : Option UInt32 := link.tunnel.map GreParms.remote

def remotes (table : LinkTable) : List UInt32 := table.entries.filterMap remoteOf

def filterExpr (addrs : List UInt32) : Expr := baseExpr.andNot (addrs.map .srcHost)

section Filter

variable {env : BuildEnv} {table : LinkTable} {installed : Option Expr} {addrs : List UInt32}
  {addr : UInt32} {f : Frame} {link : Link}

theorem mem_remotes : addr ∈ remotes table ↔ ∃ link ∈ table, remoteOf link = some addr :=
  List.mem_filterMap

theorem remoteOf_eq_some_iff : remoteOf link = some addr ↔
    ∃ parms, link.kind = .gretap parms ∧ link.name.hasPrefix TUNNEL_PREFIX = true ∧
      parms.remote = addr := by
  unfold remoteOf
  rw [Option.map_eq_some_iff]
  simp only [Link.tunnel_eq_some_iff, and_assoc]

theorem appendLink_eq (expr : Expr) (link : Link) : appendLink expr link =
    (remoteOf link).elim expr fun addr => .and expr (.not (.srcHost addr)) := by
  unfold appendLink remoteOf Link.tunnel
  cases link.kind with
  | other => rfl
  | gretap parms => cases link.name.hasPrefix TUNNEL_PREFIX <;> rfl

theorem foldl_appendLink (links : List Link) (expr : Expr) :
    links.foldl appendLink expr = expr.andNot ((links.filterMap remoteOf).map .srcHost) := by
  induction links generalizing expr with
  | nil => rfl
  | cons link links ih =>
      rw [List.foldl_cons, appendLink_eq, ih]
      cases haddr : remoteOf link with
      | none => simp [haddr]
      | some addr => simp [haddr, Expr.andNot]

theorem filterText_eq :
    filterText env table = filterExpr (if env.alloc < 0 then [] else remotes table) := by
  unfold filterText
  split
  · rfl
  · exact foldl_appendLink table.entries baseExpr

theorem accepts_filterExpr : (filterExpr addrs).accepts f = true ↔
    f.inbound = true ∧ (f.half 12 = some 0x0800 ∧ f.bytes[23]? = some IPPROTO_GRE) ∧
      ∀ addr ∈ addrs, f.source ≠ some addr := by
  rw [filterExpr, Expr.accepts_andNot]
  simp only [List.forall_mem_map, baseExpr, Expr.accepts, Bool.and_eq_true, decide_eq_true_eq,
    decide_eq_false_iff_not, and_assoc, ne_eq]

/-- Compiling and installing the expression both succeed. -/
def BuildEnv.Installs (env : BuildEnv) : Prop :=
  env.compile ≠ PCAP_ERROR ∧ env.setfilter ≠ PCAP_ERROR

instance (env : BuildEnv) : Decidable env.Installs := inferInstanceAs (Decidable (_ ∧ _))

/-- Either the filter stays as it was, or the new one leaves out the sources
that were listed. -/
theorem buildFilter_cases (env : BuildEnv) (table : LinkTable) (installed : Option Expr) :
    (¬env.Installs ∧ buildFilter env table installed = (-1, installed)) ∨
      (env.Installs ∧ buildFilter env table installed =
        (0, some (filterExpr (if env.alloc < 0 then [] else remotes table)))) := by
  unfold buildFilter BuildEnv.Installs
  rw [filterText_eq]
  by_cases hcompile : env.compile = PCAP_ERROR
  · exact Or.inl ⟨fun h => h.1 hcompile, if_pos hcompile⟩
  · rw [if_neg hcompile]
    by_cases hset : env.setfilter = PCAP_ERROR
    · exact Or.inl ⟨fun h => h.2 hset, if_pos hset⟩
    · exact Or.inr ⟨⟨hcompile, hset⟩, if_neg hset⟩

/-- A new filter leaves out the remote addresses of tunnels only. -/
theorem buildFilter_listed (env : BuildEnv) (table : LinkTable) (installed : Option Expr) :
    buildFilter env table installed = (-1, installed) ∨
      ∃ addrs, (∀ addr ∈ addrs, addr ∈ remotes table) ∧
        buildFilter env table installed = (0, some (filterExpr addrs)) := by
  rcases buildFilter_cases env table installed with ⟨-, hfails⟩ | ⟨-, hbuilt⟩
  · exact Or.inl hfails
  · refine Or.inr ⟨_, ?_, hbuilt⟩
    intro addr haddr
    split at haddr
    · cases haddr
    · exact haddr

/-- No inbound GRE frame from this address gets through. -/
def ExcludesSource (installed : Option Expr) (addr : UInt32) : Prop :=
  ∀ f : Frame, f.inbound = true → f.half 12 = some 0x0800 → f.bytes[23]? = some IPPROTO_GRE →
    f.source = some addr → passes installed f = false

/-- An IPv4 frame for GRE that ends with its addresses. -/
def greFrame (addr : UInt32) : Frame where
  bytes := [0, 0, 0, 0, 0, 0, 0, 0, 0, 0, 0, 0, 0x08, 0x00,
    0x45, 0, 0, 20, 0, 0, 0, 0, 64, IPPROTO_GRE, 0, 0] ++ bytes32 addr ++ [0, 0, 0, 0]
  inbound := true

theorem greFrame_source (addr : UInt32) : (greFrame addr).source = some addr := by
  have hip : (greFrame addr).half 12 = some 0x0800 := rfl
  rw [Frame.source, if_pos hip]
  exact congrArg some (le32_bytes32 addr)

theorem excludesSource_filterExpr : ExcludesSource (some (filterExpr addrs)) addr ↔
    addr ∈ addrs := by
  constructor
  · intro h
    by_contra hmem
    have hpass : (filterExpr addrs).accepts (greFrame addr) = true := by
      refine accepts_filterExpr.mpr ⟨rfl, ⟨rfl, rfl⟩, ?_⟩
      intro other hother hsource
      rw [greFrame_source] at hsource
      rw [Option.some.inj hsource] at hmem
      exact hmem hother
    have hblock := h (greFrame addr) rfl rfl rfl (greFrame_source addr)
    rw [passes, Option.all_some, hpass] at hblock
    cases hblock
  · intro hmem f _ _ _ hsource
    rw [passes, Option.all_some, ← Bool.not_eq_true, accepts_filterExpr]
    rintro ⟨-, -, hnone⟩
    exact hnone addr hmem hsource

end Filter

end DynamicGre.Dygre

import DynamicGre.Blocking
import DynamicGre.Daemon.Invariant
import DynamicGre.Daemon.Socket

/-!
The loop of the Project daemon over its one netlink socket. Every request is
answered there by the kernel out of its links, and every call reads the replies
that it finds. As long as no dump breaks off while it is read and the callback of
`get_tunnel` can be allocated, the replies never pile up, and the loop is the one
whose calls answer at once.
-/

namespace DynamicGre

open Blocking

/-- The kernel's refusal of a request, if it refuses. -/
abbrev Refusal := Option { ret : Int // ret < 0 }

/-- The result that a call returns when it reads the reply to its request. -/
def Refusal.code (refusal : Refusal) : Int := refusal.elim 0 Subtype.val

/-- The daemon's socket beside what it has set up. -/
structure World where
  socket : Socket
  state : State

/-- How `rtnl_link_alloc_cache` ends: its result, and whether it breaks off while
it reads the replies to its dump, where an allocation may fail. -/
structure Dump where
  ret : Int
  cut : Bool
  fails : cut = true → ret < 0

/-- `rtnl_link_alloc_cache` of libnl: the result, the links of the cache, and the
replies that are left. It reads the replies of its own dump to their end when it
succeeds and when the kernel refuses the dump; where it fails before that there
are none. Nothing is known of what a call leaves that breaks off. -/
structure Libnl where
  allocCache : LinkTable → Dump → List Reply → Int × List CachedLink × List Reply
  clean : ∀ table dump, dump.cut = false →
    allocCache table dump [] = (dump.ret, table.entries.map Link.cached, [])

/-! ### Calls over the socket -/

def linkAllocCache (lib : Libnl) (dump : Dump) : Blocking World (Int × List CachedLink) :=
  fun w =>
    let (ret, links, queue) := lib.allocCache w.state.table dump w.socket.queue
    some ((ret, links), { w with socket := ⟨w.socket.calls + 1, queue⟩ })

/-- What `nl_send_auto` and `nl_cb_alloc` answer inside `get_tunnel`, and the
kernel to its request. -/
structure GetEnv where
  build : Int
  send : Int
  cbAlloc : Bool
  refused : Refusal

/-- No call inside `get_tunnel` fails, and the kernel does not refuse. -/
def GetEnv.Ok (env : GetEnv) : Prop :=
  0 ≤ env.build ∧ 0 ≤ env.send ∧ env.cbAlloc = true ∧ env.refused = none

/-- The kernel describes the link of that name. -/
def answerOf (k : Kernel) (table : LinkTable) (name : IfName) (refused : Refusal) : GetAnswer :=
  match refused with
  | some code => .error code
  | none => (table.find? name).elim (.error ⟨-NLE_OBJ_NOTFOUND, by decide⟩)
      fun link => .link (k.dump link)

namespace Netlink

def getTunnel (k : Kernel) (name : IfName) (env : GetEnv) (opt : GretapOpt) :
    Blocking World (Int × GretapOpt) := fun w => do
  let (socket, out) ← w.socket.getTunnel
    { build := env.build, send := env.send, cbAlloc := env.cbAlloc, opt := opt
      answer := answerOf k w.state.table name env.refused }
  return ((out.ret, out.opt), { w with socket := socket })

/-- The kernel sets the link up when the message reaches it and is not refused. -/
def taken (table : LinkTable) (opt : GretapOpt) (env : CreateEnv) (refused : Refusal) : LinkTable :=
  match createTunnel opt env with
  | (_, none) => table
  | (sent, some msg) => if sent < 0 ∨ refused.isSome then table else table.newlink msg

def createTunnel (opt : GretapOpt) (env : CreateEnv) (refused : Refusal) : Blocking World Int :=
  fun w => do
    let (socket, out) ← w.socket.createTunnel { opt := opt, env := env, error := refused }
    let state := { w.state with table := taken w.state.table opt env refused }
    return (out.ret, ⟨socket, state⟩)

/-- `rtnl_link_delete`: `send` is the answer of its request until it is sent. -/
def linkDelete (name : IfName) (send : Int) (refused : Refusal) : Blocking World Int := fun w =>
  if send < 0 then some (send, { w with socket := ⟨w.socket.calls + 1, w.socket.queue⟩ })
  else do
    let (ret, queue) ←
      nlWaitForAck (w.socket.queue ++ [⟨w.socket.calls, refused.elim .ack .error⟩])
    let table := if refused.isSome then w.state.table else w.state.table.erase name
    return (ret, ⟨⟨w.socket.calls + 1, queue⟩, { w.state with table := table }⟩)

structure DestroyEnv where
  alloc : Dump
  send : Int
  refused : Refusal

def destoryTunnel (lib : Libnl) (env : DestroyEnv) (ifname : IfName) : Blocking World Int := do
  let (ret, links) ← linkAllocCache lib env.alloc
  if ret < 0 then return ret
  else if links.any (·.name = some ifname) then linkDelete ifname env.send env.refused
  else return 0

structure BuildEnv where
  alloc : Dump
  tunnel : IfName → GetEnv
  stale : GretapOpt
  compile : Int
  setfilter : Int

/-- The body of the loop over the links. -/
def appendLink (k : Kernel) (env : BuildEnv) (expr : Pcap.Expr) (cur : CachedLink) :
    Blocking World Pcap.Expr :=
  if ¬cur.ipgretap then return expr
  else
    match cur.name with
    | none => return expr
    | some linkname =>
        if ¬linkname.hasPrefix TUNNEL_PREFIX then return expr
        else do
          let got ← getTunnel k linkname (env.tunnel linkname) env.stale
          if got.1 < 0 then return expr
          else return .and expr (.not (endpointExpr (got.2.remote, got.2.encapDport)))

def filterText (k : Kernel) (lib : Libnl) (env : BuildEnv) : Blocking World Pcap.Expr := do
  let (ret, links) ← linkAllocCache lib env.alloc
  if ret < 0 then return baseExpr
  else links.foldlM (appendLink k env) baseExpr

def buildFilter (k : Kernel) (lib : Libnl) (env : BuildEnv) : Blocking World Int := do
  let expr ← filterText k lib env
  if env.compile = PCAP_ERROR then return -1
  else if env.setfilter = PCAP_ERROR then return -1
  else
    modify fun w => { w with state := { w.state with installed := some expr } }
    return 0

structure FrameEnv where
  destroy : DestroyEnv
  create : CreateEnv
  refused : Refusal
  build : BuildEnv

inductive Arrival where
  | timeout
  | frame (pkt : Packet) (env : FrameEnv)

/-- The loop body from `create_tunnel` on. -/
def serve (k : Kernel) (lib : Libnl) (env : FrameEnv) (opt : GretapOpt) :
    Blocking World Unit := do
  let ret ← createTunnel opt env.create env.refused
  if ret < 0 then return ()
  else
    let _ ← buildFilter k lib env.build
    return ()

/-- The loop body from the derived name on. -/
def setUp (k : Kernel) (lib : Libnl) (master : Int32) (env : FrameEnv) (opt : GretapOpt) :
    Blocking World Unit := do
  let opt := { opt with ifname := interfaceName opt }
  if opt.key ≠ 0 then
    let _ ← destoryTunnel lib env.destroy opt.ifname
  serve k lib env { opt with master := master }

/-- One iteration of the loop. -/
def step (k : Kernel) (lib : Libnl) (master : Int32) : Arrival → Blocking World Unit
  | .timeout => return ()
  | .frame pkt env =>
      let parsed := (Dygrefou.parsePacket pkt GretapOpt.zeroed).val
      if parsed.1 < 0 then return () else setUp k lib master env parsed.2

/-- The first filter and the loop; the program exits where that filter cannot be
installed. -/
def loop (k : Kernel) (lib : Libnl) (master : Int32) (env : BuildEnv) (arrivals : List Arrival) :
    Blocking World Bool := do
  let ret ← buildFilter k lib env
  if ret < 0 then return false
  else
    arrivals.forM (step k lib master)
    return true

/-! ### The answers as the loop sees them -/

/-- What a call returns that sends and then reads the reply. -/
def sync (send : Int) (refused : Refusal) : Int := if send < 0 then send else refused.code

end Netlink

/-- `recv` and `ack` are the answers read from the socket. -/
def GetEnv.seen (env : GetEnv) : GetTunnelEnv where
  build := env.build
  send := env.send
  cbAlloc := env.cbAlloc
  recv := env.refused.code
  ack := 0

namespace Netlink

def DestroyEnv.seen (env : DestroyEnv) : DynamicGre.DestroyEnv where
  alloc := env.alloc.ret
  delete := sync env.send env.refused

def BuildEnv.seen (env : BuildEnv) : DynamicGre.BuildEnv where
  alloc := env.alloc.ret
  tunnel name := (env.tunnel name).seen
  stale := env.stale
  compile := env.compile
  setfilter := env.setfilter

def FrameEnv.seen (env : FrameEnv) : DynamicGre.FrameEnv where
  destroy := env.destroy.seen
  create := { env.create with send := sync env.create.send env.refused }
  build := env.build.seen

def Arrival.seen : Arrival → DynamicGre.Arrival
  | .timeout => .timeout
  | .frame pkt env => .frame pkt env.seen

/-- The dump does not break off, and `nl_cb_alloc` returns a callback whenever
`get_tunnel` asks for one. -/
def BuildEnv.ReadsAll (env : BuildEnv) : Prop :=
  env.alloc.cut = false ∧ ∀ name, (env.tunnel name).cbAlloc = true

def FrameEnv.ReadsAll (env : FrameEnv) : Prop :=
  env.destroy.alloc.cut = false ∧ env.build.ReadsAll

def Arrival.ReadsAll : Arrival → Prop
  | .timeout => True
  | .frame _ env => env.ReadsAll

/-- No reply is left, and this is what the daemon has set up. -/
def Idle (w : World) (s : State) : Prop := w.socket.queue = [] ∧ w.state = s

section Refinement

variable {k : Kernel} {lib : Libnl} {master : Int32} {s : State} {name : IfName} {opt : GretapOpt}

theorem realizes_linkAllocCache {dump : Dump} (hcut : dump.cut = false) :
    Realizes Idle (linkAllocCache lib dump) s (dump.ret, s.table.entries.map Link.cached) s := by
  rintro ⟨⟨n, queue⟩, s⟩ ⟨rfl, rfl⟩
  refine ⟨⟨⟨n + 1, []⟩, s⟩, ?_, rfl, rfl⟩
  simp [linkAllocCache, lib.clean _ _ hcut]

/-- A `get_tunnel` that reads its replies to the end. -/
theorem realizes_getTunnel {env : GetEnv} (hcb : env.cbAlloc = true)
    (hreads : ∀ link, s.table.find? name = some link → 0 ≤ (tunnelParser (k.dump link) opt).1) :
    Realizes Idle (getTunnel k name env opt) s
      (DynamicGre.getTunnel k s.table name env.seen opt) s := by
  rintro ⟨⟨n, queue⟩, s⟩ ⟨rfl, rfl⟩
  let call : GetCall :=
    { build := env.build, send := env.send, cbAlloc := env.cbAlloc, opt := opt
      answer := answerOf k s.table name env.refused }
  have hrun : ∃ out, Socket.getTunnel ⟨n, []⟩ call = some (⟨n + 1, []⟩, out) ∧
      (out.ret, out.opt) = DynamicGre.getTunnel k s.table name env.seen opt := by
    unfold DynamicGre.getTunnel
    by_cases hbuild : env.build < 0
    · refine ⟨⟨env.build, opt, none⟩, if_pos hbuild, ?_⟩
      simp [GetEnv.seen, hbuild]
    by_cases hsend : env.send < 0
    · refine ⟨⟨env.send, opt, none⟩, (if_neg hbuild).trans (if_pos hsend), ?_⟩
      simp [GetEnv.seen, hbuild, hsend]
    cases hrefused : env.refused with
    | some code =>
        have hcode : call.answer = .error code := by simp [call, answerOf, hrefused]
        have hneg := code.property
        refine ⟨_, Socket.getTunnel_of_error hbuild hsend hcb hcode, ?_⟩
        simp [GetEnv.seen, hbuild, hsend, hcb, hrefused, Refusal.code, hneg, call]
    | none =>
        cases hfind : s.table.find? name with
        | none =>
            have hcode : call.answer = .error ⟨-NLE_OBJ_NOTFOUND, by decide⟩ := by
              simp [call, answerOf, hrefused, hfind]
            refine ⟨_, Socket.getTunnel_of_error hbuild hsend hcb hcode, ?_⟩
            simp [GetEnv.seen, hbuild, hsend, hcb, hrefused, Refusal.code, call]
        | some link =>
            have hlink : call.answer = .link (k.dump link) := by
              simp [call, answerOf, hrefused, hfind]
            have hret := not_lt.mpr (hreads link hfind)
            refine ⟨_, Socket.getTunnel_of_link hbuild hsend hcb hlink hret, ?_⟩
            simp [GetEnv.seen, hbuild, hsend, hcb, hrefused, Refusal.code, hret, call]
  obtain ⟨out, hcall, hout⟩ := hrun
  refine ⟨⟨⟨n + 1, []⟩, s⟩, ?_, rfl, rfl⟩
  rw [← hout]
  change (Socket.getTunnel ⟨n, []⟩ call).bind _ = _
  rw [hcall]
  rfl

/-- Another answer of `nl_send_sync` changes only what a sent message returns. -/
theorem createTunnel_send (opt : GretapOpt) (env : CreateEnv) (send : Int) :
    DynamicGre.createTunnel opt { env with send := send } =
      match DynamicGre.createTunnel opt env with
      | (ret, none) => (ret, none)
      | (_, some msg) => (send, some msg) := by
  unfold DynamicGre.createTunnel
  cases env.alloc with
  | false => rfl
  | true => cases createMsg opt env.room <;> rfl

/-- `create_tunnel` and the kernel agree whether there is a new link. -/
theorem realizes_createTunnel (env : CreateEnv) (refused : Refusal) :
    let answer := DynamicGre.createTunnel opt { env with send := sync env.send refused }
    Realizes Idle (createTunnel opt env refused) s answer.1
      { s with table := s.table.created answer } := by
  rintro answer ⟨⟨n, queue⟩, s⟩ ⟨rfl, rfl⟩
  let after : Socket := ⟨n + 1, []⟩
  have hrun : ∃ out, Socket.createTunnel ⟨n, []⟩ ⟨opt, env, refused⟩ = some (after, out) ∧
      out.ret = answer.1 ∧ taken s.table opt env refused = s.table.created answer := by
    have hanswer := createTunnel_send opt env (sync env.send refused)
    change answer = _ at hanswer
    clear_value answer
    unfold Socket.createTunnel taken
    rcases createTunnel_cases opt env with hsent | ⟨ret, -, hsent⟩
    · rw [hsent] at hanswer
      rw [hanswer, hsent]
      by_cases hsend : env.send < 0
      · exact ⟨⟨env.send, opt, none⟩, by simp [hsend, sync, LinkTable.created, after]⟩
      · cases refused with
        | none =>
            refine ⟨⟨0, opt, none⟩, ?_⟩
            simp [hsend, sync, LinkTable.created, Refusal.code, CreateCall.reply, nlWaitForAck,
              after]
        | some code =>
            have hneg := code.property
            refine ⟨⟨code, opt, none⟩, ?_⟩
            simp [hsend, sync, LinkTable.created, Refusal.code, CreateCall.reply, nlWaitForAck,
              hneg, after]
    · rw [hsent] at hanswer
      rw [hanswer, hsent]
      exact ⟨⟨ret, opt, none⟩, rfl, rfl, rfl⟩
  obtain ⟨out, hcall, hret, htable⟩ := hrun
  refine ⟨⟨after, _⟩, ?_, rfl, rfl⟩
  rw [← hret, ← htable]
  change (Socket.createTunnel ⟨n, []⟩ ⟨opt, env, refused⟩).bind _ = _
  rw [hcall]
  rfl

theorem realizes_linkDelete (send : Int) (refused : Refusal) :
    Realizes Idle (linkDelete name send refused) s (sync send refused)
      { s with table := if sync send refused < 0 then s.table else s.table.erase name } := by
  rintro ⟨⟨n, queue⟩, s⟩ ⟨rfl, rfl⟩
  refine ⟨⟨⟨n + 1, []⟩, _⟩, ?_, rfl, rfl⟩
  by_cases hsend : send < 0
  · simp [linkDelete, sync, hsend]
  · cases refused with
    | none => simp [linkDelete, sync, hsend, Refusal.code, nlWaitForAck]
    | some code =>
        have hneg := code.property
        simp [linkDelete, sync, hsend, Refusal.code, nlWaitForAck, hneg]

theorem any_cached (table : LinkTable) (ifname : IfName) :
    (table.entries.map Link.cached).any (·.name = some ifname) = (table.find? ifname).isSome := by
  rw [List.any_map, KeyedList.find?, List.isSome_find?]
  simp [Function.comp_def, Link.cached]

theorem realizes_destoryTunnel {env : DestroyEnv} (hcut : env.alloc.cut = false)
    (ifname : IfName) :
    let answer := DynamicGre.destoryTunnel env.seen s.table ifname
    Realizes Idle (destoryTunnel lib env ifname) s answer.1 { s with table := answer.2 } := by
  intro answer
  unfold destoryTunnel
  apply (realizes_linkAllocCache hcut).bind
  dsimp only
  rw [any_cached]
  by_cases halloc : env.alloc.ret < 0
  · have hanswer : answer = (env.alloc.ret, s.table) := if_pos halloc
    rw [if_pos halloc, hanswer]
    exact realizes_pure
  rw [if_neg halloc]
  cases hfind : s.table.find? ifname with
  | none =>
      have hanswer : answer = (0, s.table) := by
        simp [answer, DynamicGre.destoryTunnel, DestroyEnv.seen, halloc, hfind]
      rw [hanswer, if_neg (by simp)]
      exact realizes_pure
  | some link =>
      have hdelete : Realizes Idle (linkDelete ifname env.send env.refused) s _ _ :=
        realizes_linkDelete env.send env.refused
      have hanswer : answer = (sync env.send env.refused,
          if sync env.send env.refused < 0 then s.table else s.table.erase ifname) := by
        by_cases hneg : sync env.send env.refused < 0 <;>
          simp [answer, DynamicGre.destoryTunnel, DestroyEnv.seen, halloc, hfind, hneg]
      rw [hanswer, if_pos (by simp)]
      exact hdelete

/-- The loop asks only for links that `tunnel_parser` accepts. -/
theorem realizes_getTunnel_cached {env : BuildEnv} (henv : env.ReadsAll) {link : Link}
    (hlink : link ∈ s.table) (hgretap : link.cached.ipgretap = true) :
    Realizes Idle (getTunnel k link.name (env.tunnel link.name) env.stale) s
      (DynamicGre.getTunnel k s.table link.name (env.seen.tunnel link.name) env.seen.stale) s := by
  apply realizes_getTunnel (henv.2 link.name)
  have hreads (other : Link) (hother : s.table.find? link.name = some other) :
      0 ≤ (tunnelParser (k.dump other) env.stale).1 := by
    obtain ⟨hmem, hname⟩ := s.table.find?_eq_some_iff.mp hother
    have hsame : other = link := s.table.eq_of_key_eq hmem hlink hname
    have hkind : ∃ parms, other.kind = .gretap parms := by
      rw [hsame]
      unfold Link.cached at hgretap
      cases hlinkKind : link.kind with
      | gretap parms => exact ⟨parms, rfl⟩
      | other => simp [hlinkKind] at hgretap
    obtain ⟨parms, hparms⟩ := hkind
    obtain ⟨info, hparse, -⟩ := k.tunnelParser_dump hparms env.stale
    rw [hparse]
  exact hreads

theorem realizes_appendLink {env : BuildEnv} (henv : env.ReadsAll) (expr : Pcap.Expr)
    {cur : CachedLink} (hcur : cur ∈ s.table.entries.map Link.cached) :
    Realizes Idle (appendLink k env expr cur) s
      (DynamicGre.appendLink k env.seen s.table expr cur) s := by
  obtain ⟨link, hlink, rfl⟩ := List.mem_map.mp hcur
  unfold appendLink DynamicGre.appendLink
  split
  · exact realizes_pure
  rename_i hgretap
  dsimp only [Link.cached]
  split
  · exact realizes_pure
  apply (realizes_getTunnel_cached henv hlink (not_not.mp hgretap)).bind
  split
  · exact realizes_pure
  · exact realizes_pure

theorem realizes_filterText {env : BuildEnv} (henv : env.ReadsAll) :
    Realizes Idle (filterText k lib env) s (DynamicGre.filterText k env.seen s.table) s := by
  unfold filterText DynamicGre.filterText
  apply (realizes_linkAllocCache henv.1).bind
  dsimp only
  split
  · rename_i hfails
    rw [if_pos (show env.seen.alloc < 0 from hfails)]
    exact realizes_pure
  · rename_i hlisted
    rw [if_neg (show ¬env.seen.alloc < 0 from hlisted)]
    exact realizes_foldlM (fun expr cur hcur => realizes_appendLink henv expr hcur) baseExpr

theorem realizes_buildFilter {env : BuildEnv} (henv : env.ReadsAll) :
    let answer := DynamicGre.buildFilter k env.seen s.table s.installed
    Realizes Idle (buildFilter k lib env) s answer.1 { s with installed := answer.2 } := by
  intro answer
  unfold buildFilter
  apply (realizes_filterText henv).bind
  have hanswer : answer = if env.compile = PCAP_ERROR then (-1, s.installed)
      else if env.setfilter = PCAP_ERROR then (-1, s.installed)
      else (0, some (DynamicGre.filterText k env.seen s.table)) := rfl
  rw [hanswer]
  split
  · exact realizes_pure
  split
  · exact realizes_pure
  · rintro w ⟨hqueue, rfl⟩
    exact ⟨_, rfl, hqueue, rfl⟩

theorem realizes_serve {env : FrameEnv} (henv : env.build.ReadsAll) :
    let answer := DynamicGre.createTunnel opt env.seen.create
    let table := s.table.created answer
    Realizes Idle (serve k lib env opt) s ()
      (if answer.1 < 0 then ⟨table, s.installed⟩
        else ⟨table, (DynamicGre.buildFilter k env.seen.build table s.installed).2⟩) := by
  intro answer table
  have hcreate : Realizes Idle (createTunnel opt env.create env.refused) s answer.1
      { s with table := table } := realizes_createTunnel env.create env.refused
  unfold serve
  apply hcreate.bind
  by_cases hfails : answer.1 < 0
  · rw [if_pos hfails, if_pos hfails]
    exact realizes_pure
  · rw [if_neg hfails, if_neg hfails]
    exact (realizes_buildFilter henv).bind realizes_pure

theorem realizes_setUp {env : FrameEnv} (henv : env.ReadsAll) (opt : GretapOpt) :
    Realizes Idle (setUp k lib master env opt) s ()
      (DynamicGre.setUp k master s env.seen opt) := by
  unfold setUp DynamicGre.setUp
  dsimp only
  by_cases hkey : opt.key ≠ 0
  · rw [if_pos hkey, if_pos hkey]
    have hdestroy := @realizes_destoryTunnel lib s env.destroy henv.1 (interfaceName opt)
    exact hdestroy.bind (realizes_serve henv.2)
  · rw [if_neg hkey, if_neg hkey]
    exact realizes_serve henv.2

theorem realizes_step {arrival : Arrival} (henv : arrival.ReadsAll) :
    Realizes Idle (step k lib master arrival) s ()
      (DynamicGre.step k master s arrival.seen) := by
  cases arrival with
  | timeout => exact realizes_pure
  | frame pkt env =>
      unfold step DynamicGre.step
      dsimp only [Arrival.seen]
      split
      · exact realizes_pure
      · exact realizes_setUp henv _

end Refinement

/-- A dump that reads no replies but its own. -/
def plainLibnl : Libnl where
  allocCache table dump queue := (dump.ret, table.entries.map Link.cached, queue)
  clean _ _ _ := rfl

def Dump.good : Dump := ⟨0, false, nofun⟩

def GetEnv.good : GetEnv := ⟨0, 0, true, none⟩

def BuildEnv.good : BuildEnv := ⟨Dump.good, fun _ => GetEnv.good, GretapOpt.zeroed, 0, 0⟩

def FrameEnv.good : FrameEnv := ⟨⟨Dump.good, 0, none⟩, CreateEnv.good, none, BuildEnv.good⟩

end Netlink

end DynamicGre

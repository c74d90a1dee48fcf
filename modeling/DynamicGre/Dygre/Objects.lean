import DynamicGre.Daemon.Main
import DynamicGre.Dygre.History

/-!
The objects that the Lab4 daemon holds while it runs. Its link is put back after
it was added, and its filter is made from the list of links alone.
-/

namespace DynamicGre.Dygre.Objects

open Ownership Pcap DynamicGre.Objects

/-! ### Calls -/

/-- The body of the loop over the links. -/
def appendLink (ss links : Nat) (expr : Expr) (cur : Link) : Owned Object Expr := do
  access .links links
  match cur.kind with
  | .other => pure expr
  | .gretap parms =>
      if ¬cur.name.hasPrefix TUNNEL_PREFIX then pure expr
      else do
        access .stream ss
        pure (.and expr (.not (.srcHost parms.remote)))

/-- The expression that is written to the stream. -/
def filterText (nl : Nat) (env : BuildEnv) (table : LinkTable) (ss : Nat) :
    Owned Object Expr := do
  access .stream ss
  access .socket nl
  if env.alloc < 0 then pure baseExpr
  else do
    let links ← alloc .links
    let expr ← table.entries.foldlM (appendLink ss links) baseExpr
    free .links links
    pure expr

/-- `build_filter`, once the stream is open. -/
def buildFilter (pcap nl : Nat) (env : BuildEnv) (table : LinkTable) (installed : Option Expr) :
    Owned Object (Int × Option Expr) := do
  let exprbuf ← alloc .text
  let ss ← alloc .stream
  let expr ← filterText nl env table ss
  free .stream ss
  setFilter pcap env.compile env.setfilter exprbuf expr installed

/-- `create_tunnel`. -/
def createTunnel (nl : Nat) (env : CreateEnv) (master : Int32) (remote localAddr : UInt32)
    (table : LinkTable) : Owned Object (Int × LinkTable) :=
  if ¬env.alloc then pure (-1, table)
  else do
    let grelink ← alloc .link
    access .link grelink
    access .socket nl
    free .link grelink
    let table := linkAdd env.add table (greLink master remote localAddr)
    if env.add = -NLE_EXIST then pure (0, table)
    else if env.add < 0 then pure (-1, table)
    else pure (0, table)

/-! ### The loop -/

/-- The loop body for a frame that `pcap_next` returned. -/
def handle (pcap nl : Nat) (master : Int32) (s : State) (pkt : Packet) (env : FrameEnv) :
    Owned Object State :=
  let parsed := (parsePacket pkt env.stale).val
  if parsed.1 < 0 then pure s
  else do
    let created ← createTunnel nl env.create master parsed.2.saddr parsed.2.daddr s.table
    if created.1 < 0 then pure ⟨created.2, s.installed⟩
    else do
      let built ← buildFilter pcap nl env.build created.2 s.installed
      pure ⟨created.2, built.2⟩

/-- One iteration of the loop, which starts with `pcap_next`. -/
def step (pcap nl : Nat) (master : Int32) (s : State) (arrival : Arrival) :
    Owned Object State := do
  access .capture pcap
  match arrival with
  | .timeout => pure s
  | .frame pkt env =>
      if passes s.installed pkt.frame then handle pcap nl master s pkt env else pure s

/-- `main`, with the frames that arrive before the signal. -/
def main (start : StartEnv) (table : LinkTable) (benv : BuildEnv) (arrivals : List Arrival) :
    Owned Object Exit :=
  mainWith start (fun pcap nl => buildFilter pcap nl benv table none)
    fun pcap nl master installed => arrivals.foldlM (step pcap nl master) ⟨table, installed⟩

/-! ### Every run -/

section Run

variable {env : BuildEnv} {table : LinkTable} {master : Int32} {s : State}
  {pre : List (Nat × Object)} {pcap nl : Nat}

theorem triple_appendLink {ss links : Nat} (hss : (ss, Object.stream) ∈ pre)
    (hlinks : (links, Object.links) ∈ pre) (expr : Expr) (cur : Link) :
    Triple pre (appendLink ss links expr cur) (Dygre.appendLink expr cur) pre [] := by
  unfold appendLink Dygre.appendLink
  refine (triple_access hlinks).next ?_
  cases cur.kind with
  | other => exact triple_pure expr
  | gretap parms =>
      dsimp only
      split
      · exact triple_pure expr
      · exact (triple_access hss).next (triple_pure _)

section Handles

variable (hpcap : (pcap, Object.capture) ∈ pre) (hnl : (nl, Object.socket) ∈ pre)

include hnl

theorem triple_filterText {ss : Nat} (hss : (ss, Object.stream) ∈ pre) :
    Triple pre (filterText nl env table ss) (Dygre.filterText env table) pre [] := by
  unfold filterText Dygre.filterText
  refine (triple_access hss).next ((triple_access hnl).next ?_)
  split
  · exact triple_pure baseExpr
  apply triple_alloc
  intro links
  refine Triple.next ?_ (triple_free.next (triple_pure _))
  exact triple_loop (triple_appendLink (List.mem_cons_of_mem _ hss) List.mem_cons_self) _ _

theorem triple_createTunnel (cenv : CreateEnv) (remote localAddr : UInt32) :
    Triple pre (createTunnel nl cenv master remote localAddr table)
      (Dygre.createTunnel cenv master remote localAddr table).val pre [] := by
  unfold createTunnel Dygre.createTunnel
  rw [Logged.val_bind]
  split
  · exact triple_pure _
  apply triple_alloc
  intro grelink
  refine (triple_access List.mem_cons_self).next ?_
  refine (triple_access (List.mem_cons_of_mem _ hnl)).next (triple_free.next ?_)
  dsimp only
  split
  · exact triple_pure _
  split
  · exact triple_pure _
  · exact triple_pure _

include hpcap

theorem triple_buildFilter (installed : Option Expr) :
    Triple pre (buildFilter pcap nl env table installed)
      (Dygre.buildFilter env table installed) pre [] := by
  apply triple_alloc
  intro exprbuf
  apply triple_alloc
  intro ss
  have hheld : (nl, Object.socket) ∈ (ss, Object.stream) :: (exprbuf, Object.text) :: pre :=
    List.mem_cons_of_mem _ (List.mem_cons_of_mem _ hnl)
  refine (triple_filterText hheld List.mem_cons_self).next ?_
  exact triple_free.next (triple_setFilter hpcap _ _ _ _)

theorem triple_handle (pkt : Packet) (fenv : FrameEnv) :
    Triple pre (handle pcap nl master s pkt fenv) (Dygre.handle master s pkt fenv).val pre [] := by
  unfold handle Dygre.handle
  dsimp only
  split
  · exact triple_pure s
  rw [Logged.val_bind]
  refine (triple_createTunnel hnl fenv.create _ _).next ?_
  split
  · exact triple_pure _
  · exact (triple_buildFilter hpcap hnl s.installed).next (triple_pure _)

theorem triple_step (arrival : Arrival) :
    Triple pre (step pcap nl master s arrival) (next master s arrival) pre [] := by
  refine (triple_access hpcap).next ?_
  cases arrival with
  | timeout => exact triple_pure s
  | frame pkt fenv =>
      unfold next Dygre.step
      dsimp only
      split
      · exact triple_handle hpcap hnl pkt fenv
      · exact triple_pure s

end Handles

theorem triple_main (start : StartEnv) (table : LinkTable) (benv : BuildEnv)
    (arrivals : List Arrival) :
    Triple [] (main start table benv arrivals)
      (exitOf start (Dygre.buildFilter benv table none) fun master installed =>
        Runs.run (next master) ⟨table, installed⟩ arrivals) []
      (leftBy start (Dygre.buildFilter benv table none) [] fun _ _ => []) :=
  triple_mainWith (fun hpcap hnl => triple_buildFilter hpcap hnl none)
    fun hpcap hnl _ _ => triple_loop (fun _ => triple_step hpcap hnl) _ arrivals

end Run

/-- Whatever the arguments, the words at the prompts, the frames and the failing
calls, the Lab4 daemon touches live objects only, and once it returns it has
freed whatever it allocated. -/
theorem main_frees (start : StartEnv) (table : LinkTable) (benv : BuildEnv)
    (arrivals : List Arrival) (h : Heap Object) :
    ∃ exit later, main start table benv arrivals h = some (exit, later) ∧
      ∀ selectedIf master s, exit = .finished selectedIf master s →
        s = Runs.run (next master) ⟨table, (Dygre.buildFilter benv table none).2⟩ arrivals ∧
        later.live.Perm h.live := by
  have hmain := triple_main start table benv arrivals
  obtain ⟨later, stray, hrun, hlost, hlive⟩ := hmain h h.live (List.Perm.refl _)
  refine ⟨_, later, hrun, ?_⟩
  intro selectedIf master s hexit
  obtain ⟨-, -, hs, hleft⟩ := exitOf_eq_finished hexit
  rw [hleft _ _] at hlost
  rw [List.map_eq_nil_iff.mp hlost] at hlive
  exact ⟨hs, hlive⟩

end DynamicGre.Dygre.Objects

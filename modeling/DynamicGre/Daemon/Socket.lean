import DynamicGre.Daemon.BuildFilter
import DynamicGre.Runs

/-!
The netlink socket that all calls of the daemon share. A request queues its
replies there; a call that returns before it has read them leaves them for the
calls after it.
-/

namespace DynamicGre

/-! ### Datagrams -/

/-- What the kernel sends: the result of a failed request, the description of a
link, or the acknowledgement of a request. -/
inductive ReplyBody where
  | error (code : { ret : Int // ret < 0 })
  | link (msg : NlMsg)
  | ack

/-- A datagram and the number of the call whose request it answers. -/
structure Reply where
  request : Nat
  body : ReplyBody

/-- `calls` counts the calls made on the socket. -/
structure Socket where
  calls : Nat
  queue : List Reply

/-- How a call ended: its return code, the contents of `*opt`, and the request
whose reply `tunnel_parser` has stored there. -/
structure Outcome where
  ret : Int
  opt : GretapOpt
  filled : Option Nat

/-- `nl_wait_for_ack`. It does not return while there is no datagram. -/
def nlWaitForAck : List Reply → Option (Int × List Reply)
  | [] => none
  | ⟨_, .error code⟩ :: queue => some (code, queue)
  | _ :: queue => some (0, queue)

/-- `nl_recvmsgs` with `tunnel_parser` for the callback. -/
def nlRecvmsgs (opt : GretapOpt) : List Reply → Option (Outcome × List Reply)
  | [] => none
  | ⟨_, .error code⟩ :: queue => some (⟨code, opt, none⟩, queue)
  | ⟨_, .ack⟩ :: queue => some (⟨0, opt, none⟩, queue)
  | ⟨request, .link msg⟩ :: queue =>
      let parsed := tunnelParser msg opt
      some (⟨parsed.1, parsed.2, if parsed.1 < 0 then none else some request⟩, queue)

/-! ### Calls -/

/-- What the kernel answers to the request of `get_tunnel`. -/
inductive GetAnswer where
  | error (code : { ret : Int // ret < 0 })
  | link (msg : NlMsg)

def GetAnswer.replies (answer : GetAnswer) (request : Nat) : List Reply :=
  match answer with
  | error code => [⟨request, .error code⟩]
  | link msg => [⟨request, .link msg⟩, ⟨request, .ack⟩]

/-- A call of `get_tunnel` with what `rtnl_link_build_get_request`,
`nl_send_auto` and `nl_cb_alloc` answer inside it. -/
structure GetCall where
  build : Int
  send : Int
  answer : GetAnswer
  cbAlloc : Bool
  opt : GretapOpt

/-- A call of `create_tunnel`; `env.send` is what `nl_send_auto` answers inside
`nl_send_sync`, and `error` the kernel's refusal, if it refuses. -/
structure CreateCall where
  opt : GretapOpt
  env : CreateEnv
  error : Option { ret : Int // ret < 0 }

def CreateCall.reply (call : CreateCall) (request : Nat) : Reply :=
  ⟨request, call.error.elim .ack .error⟩

inductive Call where
  | get (call : GetCall)
  | create (call : CreateCall)

namespace Socket

/-- `get_tunnel`, with its exits in their order. -/
def getTunnel (s : Socket) (call : GetCall) : Option (Socket × Outcome) :=
  if call.build < 0 then some (⟨s.calls + 1, s.queue⟩, ⟨call.build, call.opt, none⟩)
  else if call.send < 0 then some (⟨s.calls + 1, s.queue⟩, ⟨call.send, call.opt, none⟩)
  else
    let queue := s.queue ++ call.answer.replies s.calls
    if ¬call.cbAlloc then some (⟨s.calls + 1, queue⟩, ⟨-NLE_NOMEM, call.opt, none⟩)
    else do
      let (got, queue) ← nlRecvmsgs call.opt queue
      if got.ret < 0 then return (⟨s.calls + 1, queue⟩, got)
      let (ret, queue) ← nlWaitForAck queue
      return (⟨s.calls + 1, queue⟩, { got with ret := ret })

/-- `create_tunnel`, where `nl_send_sync` sends and waits. -/
def createTunnel (s : Socket) (call : CreateCall) : Option (Socket × Outcome) :=
  match DynamicGre.createTunnel call.opt call.env with
  | (ret, none) => some (⟨s.calls + 1, s.queue⟩, ⟨ret, call.opt, none⟩)
  | (sent, some _) =>
      if sent < 0 then some (⟨s.calls + 1, s.queue⟩, ⟨sent, call.opt, none⟩)
      else do
        let (ret, queue) ← nlWaitForAck (s.queue ++ [call.reply s.calls])
        return (⟨s.calls + 1, queue⟩, ⟨ret, call.opt, none⟩)

def call (s : Socket) : Call → Option (Socket × Outcome)
  | .get call => s.getTunnel call
  | .create call => s.createTunnel call

/-- No reply is left, and a `get_tunnel` that succeeded has stored the reply to
its own request. -/
def Consumes (before : Socket) : Call → Socket → Outcome → Prop
  | .get _, after, out => after.queue = [] ∧ (0 ≤ out.ret → out.filled = some before.calls)
  | .create _, after, _ => after.queue = []

end Socket

/-- Once the request is sent, the callback is allocated and accepts the link
that the kernel describes. -/
def GetCall.Clean (call : GetCall) : Prop :=
  0 ≤ call.build → 0 ≤ call.send →
    call.cbAlloc = true ∧ ∀ msg, call.answer = .link msg → 0 ≤ (tunnelParser msg call.opt).1

def Call.Clean : Call → Prop
  | .get call => call.Clean
  | .create _ => True

/-! ### One call on an empty queue -/

section Empty

variable {n : Nat}

/-- `create_tunnel` reads its reply on every path that sends. -/
theorem Socket.createTunnel_consumes (call : CreateCall) :
    ∃ out, Socket.createTunnel ⟨n, []⟩ call = some (⟨n + 1, []⟩, out) := by
  unfold Socket.createTunnel
  rcases createTunnel_cases call.opt call.env with hrun | ⟨ret, -, hrun⟩
  · rw [hrun]
    dsimp only
    split
    · exact ⟨_, rfl⟩
    · unfold CreateCall.reply
      cases call.error with
      | none => exact ⟨_, rfl⟩
      | some code => exact ⟨_, rfl⟩
  · rw [hrun]
    exact ⟨_, rfl⟩

section Get

variable {call : GetCall}

theorem Socket.getTunnel_of_unsent (h : call.build < 0 ∨ call.send < 0) :
    ∃ out, Socket.getTunnel ⟨n, []⟩ call = some (⟨n + 1, []⟩, out) ∧ out.ret < 0 := by
  unfold Socket.getTunnel
  by_cases hbuild : call.build < 0
  · rw [if_pos hbuild]
    exact ⟨_, rfl, hbuild⟩
  · have hsend : call.send < 0 := h.resolve_left hbuild
    rw [if_neg hbuild, if_pos hsend]
    exact ⟨_, rfl, hsend⟩

section Sent

variable (hbuild : ¬call.build < 0) (hsend : ¬call.send < 0)

include hbuild hsend

/-- Without a callback the replies stay. -/
theorem Socket.getTunnel_of_no_cb (hcb : call.cbAlloc = false) :
    ∃ out, Socket.getTunnel ⟨n, []⟩ call = some (⟨n + 1, call.answer.replies n⟩, out) := by
  rw [Socket.getTunnel, if_neg hbuild, if_neg hsend, hcb]
  exact ⟨_, rfl⟩

variable (hcb : call.cbAlloc = true)

include hcb

theorem Socket.getTunnel_of_error {code : { ret : Int // ret < 0 }}
    (hanswer : call.answer = .error code) :
    Socket.getTunnel ⟨n, []⟩ call = some (⟨n + 1, []⟩, ⟨code, call.opt, none⟩) := by
  have hneg := code.property
  rw [Socket.getTunnel, if_neg hbuild, if_neg hsend, hcb, hanswer]
  simp [GetAnswer.replies, nlRecvmsgs, hneg]

/-- A link that `tunnel_parser` refuses leaves the acknowledgement. -/
theorem Socket.getTunnel_of_refused {msg : NlMsg} (hanswer : call.answer = .link msg)
    (hret : (tunnelParser msg call.opt).1 < 0) :
    ∃ out, Socket.getTunnel ⟨n, []⟩ call = some (⟨n + 1, [⟨n, .ack⟩]⟩, out) := by
  rw [Socket.getTunnel, if_neg hbuild, if_neg hsend, hcb, hanswer]
  simp [GetAnswer.replies, nlRecvmsgs, hret]

theorem Socket.getTunnel_of_link {msg : NlMsg} (hanswer : call.answer = .link msg)
    (hret : ¬(tunnelParser msg call.opt).1 < 0) :
    Socket.getTunnel ⟨n, []⟩ call =
      some (⟨n + 1, []⟩, ⟨0, (tunnelParser msg call.opt).2, some n⟩) := by
  rw [Socket.getTunnel, if_neg hbuild, if_neg hsend, hcb, hanswer]
  simp [GetAnswer.replies, nlRecvmsgs, nlWaitForAck, hret]

end Sent

/-- `get_tunnel` never waits for a reply that does not come, and reads all its
replies exactly when it is clean. -/
theorem Socket.getTunnel_consumes (call : GetCall) :
    ∃ after out, Socket.getTunnel ⟨n, []⟩ call = some (after, out) ∧
      (Socket.Consumes ⟨n, []⟩ (.get call) after out ↔ call.Clean) := by
  by_cases hunsent : call.build < 0 ∨ call.send < 0
  · obtain ⟨out, hrun, hneg⟩ := Socket.getTunnel_of_unsent (n := n) hunsent
    refine ⟨_, out, hrun, iff_of_true ⟨rfl, fun hret => absurd hneg (not_lt.mpr hret)⟩ ?_⟩
    intro hbuild hsend
    omega
  obtain ⟨hbuild, hsend⟩ := not_or.mp hunsent
  have hclean : call.Clean ↔ call.cbAlloc = true ∧
      ∀ msg, call.answer = .link msg → 0 ≤ (tunnelParser msg call.opt).1 :=
    ⟨fun h => h (not_lt.mp hbuild) (not_lt.mp hsend), fun h _ _ => h⟩
  rw [hclean]
  cases hcb : call.cbAlloc with
  | false =>
      obtain ⟨out, hrun⟩ := Socket.getTunnel_of_no_cb (n := n) hbuild hsend hcb
      refine ⟨_, out, hrun, iff_of_false ?_ (by simp)⟩
      rintro ⟨hqueue, -⟩
      cases hanswer : call.answer <;> simp [hanswer, GetAnswer.replies] at hqueue
  | true =>
      cases hanswer : call.answer with
      | error code =>
          refine ⟨_, _, Socket.getTunnel_of_error hbuild hsend hcb hanswer, iff_of_true ?_ ?_⟩
          · exact ⟨rfl, fun hret => absurd code.property (not_lt.mpr hret)⟩
          · exact ⟨rfl, fun _ hlink => nomatch hlink⟩
      | link msg =>
          by_cases hret : (tunnelParser msg call.opt).1 < 0
          · obtain ⟨out, hrun⟩ := Socket.getTunnel_of_refused (n := n) hbuild hsend hcb hanswer hret
            refine ⟨_, out, hrun, iff_of_false ?_ ?_⟩
            · rintro ⟨hqueue, -⟩
              cases hqueue
            · rintro ⟨-, hparsed⟩
              exact not_lt.mpr (hparsed msg rfl) hret
          · refine ⟨_, _, Socket.getTunnel_of_link hbuild hsend hcb hanswer hret,
              iff_of_true ⟨rfl, fun _ => rfl⟩ ⟨rfl, ?_⟩⟩
            rintro _ ⟨⟩
            exact not_lt.mp hret

end Get

end Empty

/-! ### Runs -/

/-- Starting with an empty queue, every call of a run reads exactly its own
replies if and only if every call is clean. -/
theorem socket_consumes_iff (calls : List Call) :
    Runs.Returns Socket.call Socket.Consumes ⟨0, []⟩ calls ↔ ∀ call ∈ calls, call.Clean := by
  refine Runs.returns_iff Socket.call (fun s => s.queue = []) ?_ rfl
  rintro ⟨n, queue⟩ call rfl
  cases call with
  | get call =>
      obtain ⟨after, out, hrun, hiff⟩ := Socket.getTunnel_consumes (n := n) call
      exact ⟨after, out, hrun, hiff, fun h => h.1⟩
  | create call =>
      obtain ⟨out, hrun⟩ := Socket.createTunnel_consumes (n := n) call
      exact ⟨_, out, hrun, iff_of_true rfl trivial, fun h => h⟩

/-- A call for a link of another kind. -/
def strangeCall : GetCall where
  build := 0
  send := 0
  answer := .link ⟨RTM_NEWLINK, 0, some ⟨IFF_UP, 0⟩, []⟩
  cbAlloc := true
  opt := GretapOpt.zeroed

/-- A call for a tunnel. -/
def plainCall : GetCall where
  build := 0
  send := 0
  answer := .link (tunnelMsg keyOne)
  cbAlloc := true
  opt := GretapOpt.zeroed

/-- After a link that is refused, the next `get_tunnel` takes the acknowledgement
for its answer and succeeds with nothing stored. -/
theorem socket_shifts :
    ¬Runs.Returns Socket.call Socket.Consumes ⟨0, []⟩ [.get strangeCall, .get plainCall] ∧
    (Socket.getTunnel ⟨0, []⟩ strangeCall).map (fun after => after.1.queue.length) = some 1 ∧
    (((Socket.getTunnel ⟨0, []⟩ strangeCall).bind fun after => after.1.getTunnel plainCall).map
      fun after => (after.2.ret, after.2.filled)) = some (0, none) := by
  refine ⟨?_, by decide, by decide⟩
  rintro ⟨⟨hqueue, -⟩, -⟩
  cases hqueue

end DynamicGre

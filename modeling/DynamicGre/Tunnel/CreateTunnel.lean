import DynamicGre.Tunnel.Message

/-!
`create_tunnel`: the link message for one tunnel, built attribute by attribute.
Every addition to the message can fail; the function then stops with an error
and sends nothing.
-/

namespace DynamicGre

open Bytes

/-- Building a message that has room for a number of further additions. -/
abbrev Build (α : Type) := StateT Nat (Except Int) α

namespace Build

variable {α β : Type}

/-- One addition, which stops the function with `ret` when it fails. -/
def add (ret : Int) (a : α) : Build α
  | 0 => .error ret
  | room + 1 => .ok (a, room)

/-- The build makes `n` additions and yields `a`; with room for fewer it stops
with an error. -/
def Yields (x : Build α) (a : α) (n : Nat) : Prop :=
  ∀ room, (n ≤ room → x room = .ok (a, room - n)) ∧
    (room < n → ∃ ret, x room = .error ret ∧ ret < 0)

theorem yields_pure (a : α) : Yields (pure a) a 0 := by
  intro room
  exact ⟨fun _ => rfl, fun h => absurd h (Nat.not_lt_zero room)⟩

theorem yields_add {ret : Int} (hret : ret < 0) (a : α) : Yields (add ret a) a 1 := by
  intro room
  cases room with
  | zero => exact ⟨fun h => absurd h (by decide), fun _ => ⟨ret, rfl, hret⟩⟩
  | succ room => exact ⟨fun _ => rfl, fun h => absurd h (by omega)⟩

theorem Yields.bind {x : Build α} {k : α → Build β} {a : α} {b : β} {n m : Nat}
    (hx : Yields x a n) (hk : Yields (k a) b m) : Yields (x >>= k) b (n + m) := by
  intro room
  obtain ⟨hok, herror⟩ := hx room
  obtain ⟨hok', herror'⟩ := hk (room - n)
  have hrun : (x >>= k) room = Except.bind (x room) (fun p => k p.1 p.2) := rfl
  rw [hrun]
  by_cases hroom : room < n
  · obtain ⟨ret, hret, hneg⟩ := herror hroom
    rw [hret]
    exact ⟨fun h => absurd h (by omega), fun _ => ⟨ret, rfl, hneg⟩⟩
  · rw [hok (not_lt.mp hroom)]
    change (n + m ≤ room → k a (room - n) = _) ∧ (room < n + m → ∃ ret, k a (room - n) = _ ∧ _)
    refine ⟨fun h => ?_, fun h => herror' (by omega)⟩
    rw [hok' (by omega), Nat.sub_sub]

/-- What follows the last addition only assembles the result. -/
theorem Yields.map {x : Build α} {a : α} {n : Nat} (hx : Yields x a n) (f : α → β) :
    Yields (x >>= fun a => pure (f a)) (f a) n :=
  hx.bind (k := fun a => pure (f a)) (m := 0) (yields_pure (f a))

theorem yields_ite {p : Prop} [Decidable p] {x y : Build α} {a b : α} {n m : Nat}
    (hx : Yields x a n) (hy : Yields y b m) :
    Yields (if p then x else y) (if p then a else b) (if p then n else m) := by
  split
  · exact hx
  · exact hy

end Build

open Build

def nlaPut {α : Type} (type : UInt16) (payload : α) : Build (Nla α) :=
  add (-NLE_NOMEM) ⟨type, payload⟩

def nestStart : Build Unit := add (-1) ()

def nlmsgAppend (ifinfo : Ifinfomsg) : Build Ifinfomsg := add (-1) ifinfo

/-- A put that the source guards by `p`. -/
def nlaPutWhen {α : Type} (p : Prop) [Decidable p] (type : UInt16) (payload : α) :
    Build (List (Nla α)) :=
  if p then (do
    let attr ← nlaPut type payload
    pure [attr])
  else pure []

def createKeys (opt : GretapOpt) : Build (List GreAttr) :=
  if opt.key ≠ 0 then (do
    let ikey ← nlaPut IFLA_GRE_IKEY (bytes32 (htonl opt.key))
    let okey ← nlaPut IFLA_GRE_OKEY (bytes32 (htonl opt.key))
    pure [ikey, okey])
  else pure []

def createEncap (opt : GretapOpt) : Build (List GreAttr) :=
  if opt.encapType ≠ TUNNEL_ENCAP_NONE then (do
    let type ← nlaPut IFLA_GRE_ENCAP_TYPE (bytes16 opt.encapType.toUInt16)
    let sport ← nlaPutWhen (opt.encapSport ≠ 0) IFLA_GRE_ENCAP_SPORT
      (bytes16 (htons opt.encapSport))
    let dport ← nlaPutWhen (opt.encapDport ≠ 0) IFLA_GRE_ENCAP_DPORT
      (bytes16 (htons opt.encapDport))
    pure (type :: (sport ++ dport)))
  else pure []

/-- `iflags` and `oflags` once the key was looked at. -/
def greFlagsOf (opt : GretapOpt) : UInt16 := if opt.key ≠ 0 then GRE_KEY else 0

/-- The attributes put between the nests of `IFLA_INFO_DATA`. -/
def createInfoData (opt : GretapOpt) : Build (List GreAttr) := do
  let locals ← nlaPutWhen (opt.localAddr ≠ 0) IFLA_GRE_LOCAL (bytes32 opt.localAddr)
  let remotes ← nlaPutWhen (opt.remote ≠ 0) IFLA_GRE_REMOTE (bytes32 opt.remote)
  let keys ← createKeys opt
  let encap ← createEncap opt
  let iflags ← nlaPut IFLA_GRE_IFLAGS (bytes16 (greFlagsOf opt))
  let oflags ← nlaPut IFLA_GRE_OFLAGS (bytes16 (greFlagsOf opt))
  return locals ++ (remotes ++ (keys ++ (encap ++ [iflags, oflags])))

def createMsg (opt : GretapOpt) : Build NlMsg := do
  let ifmsg ← nlmsgAppend ⟨IFF_UP, IFF_UP⟩
  let ifname ← nlaPut IFLA_IFNAME (.data (opt.ifname.chars ++ [0]))
  let master ← nlaPutWhen (opt.master ≠ 0) IFLA_MASTER (.data (bytes32 opt.master.toUInt32))
  nestStart
  let kind ← nlaPut IFLA_INFO_KIND (.data gretapKind)
  nestStart
  let infoData ← createInfoData opt
  return {
    type := RTM_NEWLINK
    flags := NLM_F_CREATE
    ifinfo := some ifmsg
    attrs := ifname :: (master ++
      [⟨IFLA_LINKINFO, .nested [kind, ⟨IFLA_INFO_DATA, .nested infoData⟩]⟩]) }

/-- What the calls inside `create_tunnel` answer: whether the message was
allocated, how many additions it has room for, and `nl_send_sync`. -/
structure CreateEnv where
  alloc : Bool
  room : Nat
  send : Int

/-- The return value and the message that was sent, if one was. -/
def createTunnel (opt : GretapOpt) (env : CreateEnv) : Int × Option NlMsg :=
  if env.alloc then
    match createMsg opt env.room with
    | .error ret => (ret, none)
    | .ok (msg, _) => (env.send, some msg)
  else (-NLE_NOMEM, none)

/-! ### The message of a tunnel -/

/-- An attribute that is left out when its field is zero. -/
def whenSet {α : Type} (p : Prop) [Decidable p] (type : UInt16) (payload : α) : List (Nla α) :=
  if p then [⟨type, payload⟩] else []

def keyAttrs (opt : GretapOpt) : List GreAttr :=
  if opt.key ≠ 0 then
    [⟨IFLA_GRE_IKEY, bytes32 (htonl opt.key)⟩, ⟨IFLA_GRE_OKEY, bytes32 (htonl opt.key)⟩]
  else []

def encapAttrs (opt : GretapOpt) : List GreAttr :=
  if opt.encapType ≠ TUNNEL_ENCAP_NONE then
    ⟨IFLA_GRE_ENCAP_TYPE, bytes16 opt.encapType.toUInt16⟩ ::
      (whenSet (opt.encapSport ≠ 0) IFLA_GRE_ENCAP_SPORT (bytes16 (htons opt.encapSport)) ++
        whenSet (opt.encapDport ≠ 0) IFLA_GRE_ENCAP_DPORT (bytes16 (htons opt.encapDport)))
  else []

def greAttrs (opt : GretapOpt) : List GreAttr :=
  whenSet (opt.localAddr ≠ 0) IFLA_GRE_LOCAL (bytes32 opt.localAddr) ++
    (whenSet (opt.remote ≠ 0) IFLA_GRE_REMOTE (bytes32 opt.remote) ++
      (keyAttrs opt ++ (encapAttrs opt ++
        [⟨IFLA_GRE_IFLAGS, bytes16 (greFlagsOf opt)⟩,
          ⟨IFLA_GRE_OFLAGS, bytes16 (greFlagsOf opt)⟩])))

def infoAttrs (opt : GretapOpt) : List InfoAttr :=
  [⟨IFLA_INFO_KIND, .data gretapKind⟩, ⟨IFLA_INFO_DATA, .nested (greAttrs opt)⟩]

/-- The message that `create_tunnel` sends for `opt`. -/
def tunnelMsg (opt : GretapOpt) : NlMsg where
  type := RTM_NEWLINK
  flags := NLM_F_CREATE
  ifinfo := some ⟨IFF_UP, IFF_UP⟩
  attrs := ⟨IFLA_IFNAME, .data (opt.ifname.chars ++ [0])⟩ ::
    (whenSet (opt.master ≠ 0) IFLA_MASTER (.data (bytes32 opt.master.toUInt32)) ++
      [⟨IFLA_LINKINFO, .nested (infoAttrs opt)⟩])

section Yields

variable {α : Type} (type : UInt16) (payload : α) (opt : GretapOpt)

theorem yields_nlaPut : Yields (nlaPut type payload) ⟨type, payload⟩ 1 :=
  yields_add (by decide) _

theorem yields_nestStart : Yields nestStart () 1 := yields_add (by decide) _

theorem yields_nlmsgAppend (ifinfo : Ifinfomsg) : Yields (nlmsgAppend ifinfo) ifinfo 1 :=
  yields_add (by decide) _

theorem yields_nlaPutWhen (p : Prop) [Decidable p] :
    Yields (nlaPutWhen p type payload) (whenSet p type payload) (if p then 1 else 0) :=
  yields_ite ((yields_nlaPut type payload).map fun attr => [attr]) (yields_pure [])

theorem yields_createKeys :
    Yields (createKeys opt) (keyAttrs opt) (if opt.key ≠ 0 then 2 else 0) := by
  refine yields_ite ?_ (yields_pure [])
  refine (yields_nlaPut _ _).bind (m := 1) ?_
  exact (yields_nlaPut _ _).map fun okey => [_, okey]

theorem yields_createEncap :
    ∃ n ≤ 3, Yields (createEncap opt) (encapAttrs opt) n := by
  refine ⟨_, ?_, yields_ite ((yields_nlaPut _ _).bind ((yields_nlaPutWhen _ _ _).bind
    ((yields_nlaPutWhen _ _ _).bind (yields_pure _)))) (yields_pure [])⟩
  repeat' split
  all_goals omega

/-- `create_tunnel` builds `tunnelMsg` with fifteen additions or fewer, or
stops with an error. -/
theorem yields_createMsg : ∃ n ≤ 15, Yields (createMsg opt) (tunnelMsg opt) n := by
  obtain ⟨n, hn, hencap⟩ := yields_createEncap opt
  refine ⟨_, ?_, (yields_nlmsgAppend _).bind ((yields_nlaPut _ _).bind
    ((yields_nlaPutWhen _ _ _).bind (yields_nestStart.bind ((yields_nlaPut _ _).bind
      (yields_nestStart.bind (Yields.bind ((yields_nlaPutWhen _ _ _).bind
        ((yields_nlaPutWhen _ _ _).bind ((yields_createKeys opt).bind (hencap.bind
          ((yields_nlaPut _ _).bind ((yields_nlaPut _ _).bind (yields_pure _)))))))
        (yields_pure _)))))))⟩
  repeat' split
  all_goals omega

end Yields

/-- Room for every addition, and an allocated message. -/
def CreateEnv.Roomy (env : CreateEnv) : Prop := env.alloc = true ∧ 15 ≤ env.room

/-- `create_tunnel` sends the message of its argument and returns the answer, or
fails before it sends anything. -/
theorem createTunnel_cases (opt : GretapOpt) (env : CreateEnv) :
    createTunnel opt env = (env.send, some (tunnelMsg opt)) ∨
      ∃ ret < 0, createTunnel opt env = (ret, none) := by
  obtain ⟨n, -, hmsg⟩ := yields_createMsg opt
  obtain ⟨hok, herror⟩ := hmsg env.room
  unfold createTunnel
  cases env.alloc with
  | false => exact Or.inr ⟨-NLE_NOMEM, by decide, rfl⟩
  | true =>
      by_cases hroom : env.room < n
      · obtain ⟨ret, hret, hneg⟩ := herror hroom
        exact Or.inr ⟨ret, hneg, by simp [hret]⟩
      · exact Or.inl (by simp [hok (not_lt.mp hroom)])

theorem createTunnel_of_roomy (opt : GretapOpt) {env : CreateEnv} (h : env.Roomy) :
    createTunnel opt env = (env.send, some (tunnelMsg opt)) := by
  obtain ⟨n, hn, hmsg⟩ := yields_createMsg opt
  obtain ⟨halloc, hroom⟩ := h
  have hrun := (hmsg env.room).1 (by omega)
  simp [createTunnel, halloc, hrun]

end DynamicGre

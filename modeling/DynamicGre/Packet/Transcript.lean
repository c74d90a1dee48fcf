import DynamicGre.Packet.Accepted
import DynamicGre.Packet.Stdout

/-!
The lines that `parse_packet` of both daemons prints, in the order of its text.
The last of the Ethernet headers is printed exactly for the frames that are
accepted, and but for the key, which is never printed, the lines show everything
that is stored for the caller.
-/

namespace DynamicGre

open Bytes

/-- The six bytes of a hardware address. -/
def Packet.mac (pkt : Packet) (i : Nat) : Vector UInt8 6 := Vector.ofFn fun j => pkt.byte (i + j)

def tell (d : Detail) : Logged Detail Unit := Logged.emits [d]

@[simp] theorem log_tell (d : Detail) : (tell d).log = [d] := rfl

@[simp] theorem always_tell {p : Detail → Prop} {d : Detail} :
    Logged.Always p (tell d) ↔ p d := by
  simp [Logged.Always]

def tellEthhdr (pkt : Packet) (inner : Bool) (ethhdr : Nat) : Logged Detail Unit := do
  tell (.mac inner false (pkt.mac (ethhdr + 6)))
  tell (.mac inner true (pkt.mac ethhdr))
  tell (.etherType inner (ntohs (pkt.u16 (ethhdr + 12))))

def tellIphdr (pkt : Packet) (inner : Bool) (iphdr : Nat) : Logged Detail Unit := do
  tell (.address inner false (pkt.u32 (iphdr + 12)))
  tell (.address inner true (pkt.u32 (iphdr + 16)))
  tell (.protocol inner (pkt.byte (iphdr + 9)))

/-- The opening text of both functions, as `parseOuter`. -/
def tellOuter (pkt : Packet) : Logged Detail (Option (Nat × Cursor)) := do
  let some (ethhdr, c) := (readEthhdr pkt.start).val | return none
  tellEthhdr pkt false ethhdr
  if ntohs (pkt.u16 (ethhdr + 12)) ≠ ETHERTYPE_IP then return none
  let some (iphdr, c) := (readIphdr pkt c).val | return none
  tellIphdr pkt false iphdr
  return some (iphdr, c)

/-- The end of both functions, as `showInnerIp`. -/
def tellInnerIp (pkt : Packet) (iethhdr : Nat) (c : Cursor) : Logged Detail Int := do
  if ntohs (pkt.u16 (iethhdr + 12)) ≠ ETHERTYPE_IP then return 0
  let some (iiphdr, _) := (readIphdr pkt c).val | return 0
  tellIphdr pkt true iiphdr
  return 0

namespace Dygre

def tellGre (pkt : Packet) (iphdr : Nat) (c : Cursor) (out : Addresses) :
    Logged Detail (Int × Addresses) := do
  if pkt.byte (iphdr + 9) ≠ IPPROTO_GRE then return (-1, out)
  let some (grehdr, c) := (readGrehdr pkt c).val | return (-1, out)
  let greproto := ntohs (pkt.u16 (grehdr + 2))
  tell (.greType greproto)
  if greproto ≠ ETHERTYPE_ETHERNET then return (-1, out)
  let some (iethhdr, c) := (readEthhdr c).val | return (-1, out)
  tellEthhdr pkt true iethhdr
  let ret ← tellInnerIp pkt iethhdr c
  return (ret, ⟨pkt.u32 (iphdr + 12), pkt.u32 (iphdr + 16)⟩)

/-- `parse_packet` with the lines it prints after the dump. -/
def tellPacket (pkt : Packet) (out : Addresses) : Logged Detail (Int × Addresses) := do
  let some (iphdr, c) ← tellOuter pkt | return (-1, out)
  tellGre pkt iphdr c out

end Dygre

namespace Dygrefou

def tellGre (pkt : Packet) (protocol : UInt8) (c : Cursor) (opt : GretapOpt) :
    Logged Detail (Int × GretapOpt) := do
  if ¬(protocol = IPPROTO_GRE ∨ protocol = IPPROTO_UDP) then return (-1, opt)
  let some (grehdr, c) := (readGrehdr pkt c).val | return (-1, opt)
  let greproto := ntohs (pkt.u16 (grehdr + 2))
  tell (.greType greproto)
  let opt := keyed pkt grehdr opt
  if greproto ≠ ETHERTYPE_ETHERNET then return (-1, opt)
  let some (iethhdr, c) := (readEthhdr c).val | return (-1, opt)
  tellEthhdr pkt true iethhdr
  let ret ← tellInnerIp pkt iethhdr c
  return (ret, opt)

def tellUdp (pkt : Packet) (protocol : UInt8) (c : Cursor) (opt : GretapOpt) :
    Logged Detail (Int × GretapOpt) :=
  if protocol = IPPROTO_UDP then do
    let some (udphdr, c) := (readUdphdr c).val | return (-1, opt)
    let source := ntohs (pkt.u16 udphdr)
    let dest := ntohs (pkt.u16 (udphdr + 2))
    tell (.port false source)
    tell (.port true dest)
    tellGre pkt protocol c { opt with
      encapType := TUNNEL_ENCAP_FOU
      encapDport := source
      encapSport := dest }
  else
    tellGre pkt protocol c opt

/-- `parse_packet` with the lines it prints after the dump. -/
def tellPacket (pkt : Packet) (opt : GretapOpt) : Logged Detail (Int × GretapOpt) := do
  let some (iphdr, c) ← tellOuter pkt | return (-1, opt)
  tellUdp pkt (pkt.byte (iphdr + 9)) c { opt with
    remote := pkt.u32 (iphdr + 12)
    localAddr := pkt.u32 (iphdr + 16) }

end Dygrefou

/-! ### The same results -/

theorem val_tellOuter (pkt : Packet) : (tellOuter pkt).val = (parseOuter pkt).val := by
  unfold tellOuter parseOuter
  simp only [Logged.val_bind]
  cases (readEthhdr pkt.start).val with
  | none => rfl
  | some read =>
      simp only [Logged.val_bind, Packet.val_load16]
      split
      · rfl
      · simp only [Logged.val_bind]
        cases (readIphdr pkt read.2).val <;> rfl

theorem val_tellInnerIp (pkt : Packet) (iethhdr : Nat) (c : Cursor) :
    (tellInnerIp pkt iethhdr c).val = 0 := by
  unfold tellInnerIp
  split
  · rfl
  · cases (readIphdr pkt c).val <;> rfl

theorem Dygre.val_tellGre (pkt : Packet) (iphdr : Nat) (c : Cursor) (out : Addresses) :
    (tellGre pkt iphdr c out).val = (parseGre pkt iphdr c out).val := by
  unfold tellGre parseGre
  simp only [Logged.val_bind, Packet.val_load8]
  split
  · rfl
  · simp only [Logged.val_bind]
    cases (readGrehdr pkt c).val with
    | none => rfl
    | some read =>
        simp only [Logged.val_bind, Packet.val_load16]
        split
        · rfl
        · simp only [Logged.val_bind]
          cases (readEthhdr read.2).val with
          | none => rfl
          | some read => simp [val_tellInnerIp]

theorem Dygre.val_tellPacket (pkt : Packet) (out : Addresses) :
    (tellPacket pkt out).val = (parsePacket pkt out).val := by
  unfold tellPacket parsePacket
  simp only [Logged.val_bind, val_tellOuter]
  cases (parseOuter pkt).val with
  | none => rfl
  | some read => exact val_tellGre pkt read.1 read.2 out

theorem Dygrefou.val_tellGre (pkt : Packet) (protocol : UInt8) (c : Cursor) (opt : GretapOpt) :
    (tellGre pkt protocol c opt).val = (parseGre pkt protocol c opt).val := by
  unfold tellGre parseGre
  split
  · rfl
  · simp only [Logged.val_bind]
    cases (readGrehdr pkt c).val with
    | none => rfl
    | some read =>
        simp only [Logged.val_bind, Packet.val_load16, val_parseKey]
        split
        · rfl
        · simp only [Logged.val_bind]
          cases (readEthhdr read.2).val with
          | none => rfl
          | some read => simp [val_tellInnerIp]

theorem Dygrefou.val_tellPacket (pkt : Packet) (opt : GretapOpt) :
    (tellPacket pkt opt).val = (parsePacket pkt opt).val := by
  have hudp (protocol : UInt8) (c : Cursor) (opt : GretapOpt) :
      (tellUdp pkt protocol c opt).val = (parseUdp pkt protocol c opt).val := by
    unfold tellUdp parseUdp
    split
    · simp only [Logged.val_bind]
      cases (readUdphdr c).val with
      | none => rfl
      | some read => simp [val_tellGre]
    · exact val_tellGre pkt protocol c opt
  unfold tellPacket parsePacket
  simp only [Logged.val_bind, val_tellOuter]
  cases (parseOuter pkt).val with
  | none => rfl
  | some read => simp [hudp]

/-! ### What the lines tell -/

/-- What a line shows of the options that `parse_packet` stores. -/
def Detail.store (opt : GretapOpt) : Detail → GretapOpt
  | .address false false addr => { opt with remote := addr }
  | .address false true addr => { opt with localAddr := addr }
  | .port false n => { opt with encapType := TUNNEL_ENCAP_FOU, encapDport := n }
  | .port true n => { opt with encapSport := n }
  | _ => opt

/-- The line that is printed last before both functions return 0. -/
def Detail.Accepting (d : Detail) : Prop := d.label = .etherType true

instance (d : Detail) : Decidable d.Accepting := inferInstanceAs (Decidable (_ = _))

namespace Entry

/-- The frame was accepted, as its lines tell. -/
def accepted (e : Entry) : Bool := e.details.any fun d => d.Accepting

/-- The options that the lines show. -/
def told (e : Entry) : GretapOpt := e.details.foldl Detail.store GretapOpt.zeroed

theorem accepted_iff {e : Entry} : e.accepted = true ↔ ∃ d ∈ e.details, d.Accepting := by
  simp [accepted]

end Entry

/-- The lines of `x` make `opt` into what `R` relates to its result, and one of
them is the accepting one exactly if it returns 0. -/
structure Tells {α : Type} (R : GretapOpt → Int × α → Prop) (opt : GretapOpt)
    (x : Logged Detail (Int × α)) : Prop where
  verdict : x.val.1 = 0 ↔ ∃ d ∈ x.log, d.Accepting
  stored : R (x.log.foldl Detail.store opt) x.val

section Tells

variable {α β : Type} {R : GretapOpt → Int × α → Prop} {opt : GretapOpt}

/-- Lines before the accepting one are passed over. -/
theorem Tells.after {x : Logged Detail β} {k : β → Logged Detail (Int × α)}
    (hquiet : Logged.Always (¬·.Accepting) x) (h : Tells R (x.log.foldl Detail.store opt) (k x.val)) :
    Tells R opt (x >>= k) := by
  constructor
  · rw [Logged.val_bind, h.verdict, Logged.log_bind]
    constructor
    · rintro ⟨d, hd, haccepting⟩
      exact ⟨d, List.mem_append_right _ hd, haccepting⟩
    · rintro ⟨d, hd, haccepting⟩
      rcases List.mem_append.mp hd with hbefore | hlater
      · exact absurd haccepting (hquiet d hbefore)
      · exact ⟨d, hlater, haccepting⟩
  · rw [Logged.val_bind, Logged.log_bind, List.foldl_append]
    exact h.stored

theorem tells_reject {a : α} (h : R opt (-1, a)) : Tells R opt (pure (-1, a)) where
  verdict := by simp
  stored := h

theorem foldl_tellInnerIp (pkt : Packet) (iethhdr : Nat) (c : Cursor) :
    (tellInnerIp pkt iethhdr c).log.foldl Detail.store opt = opt := by
  unfold tellInnerIp
  split
  · rfl
  · cases (readIphdr pkt c).val <;> rfl

/-- The inner headers are printed only on the way to 0, and none of their lines
shows an option. -/
theorem tells_accept {pkt : Packet} {iethhdr : Nat} {c : Cursor} {a : α} (h : R opt (0, a)) :
    Tells R opt (do
      tellEthhdr pkt true iethhdr
      let ret ← tellInnerIp pkt iethhdr c
      return (ret, a)) where
  verdict := by
    simp only [Logged.val_bind, val_tellInnerIp, Logged.val_pure, true_iff]
    exact ⟨.etherType true _, List.mem_append_left _ (by simp [tellEthhdr]; rfl), rfl⟩
  stored := by
    simp only [Logged.val_bind, Logged.log_bind, Logged.log_pure, List.append_nil,
      List.foldl_append, foldl_tellInnerIp, val_tellInnerIp, Logged.val_pure]
    exact h

theorem quiet_tellOuter (pkt : Packet) : Logged.Always (¬·.Accepting) (tellOuter pkt) := by
  unfold tellOuter
  cases (readEthhdr pkt.start).val with
  | none => simp
  | some read =>
      dsimp only
      split
      · simp [tellEthhdr, Detail.Accepting, Detail.label]
      · cases (readIphdr pkt read.2).val <;>
          simp [tellEthhdr, tellIphdr, Detail.Accepting, Detail.label]

/-- Both addresses are shown once the IP header was read, and nothing else. -/
theorem foldl_tellOuter (pkt : Packet) : (tellOuter pkt).log.foldl Detail.store opt =
    match (tellOuter pkt).val with
    | none => opt
    | some (iphdr, _) =>
        { opt with remote := pkt.u32 (iphdr + 12), localAddr := pkt.u32 (iphdr + 16) } := by
  unfold tellOuter
  cases (readEthhdr pkt.start).val with
  | none => rfl
  | some read =>
      dsimp only
      split
      · rfl
      · cases (readIphdr pkt read.2).val <;> rfl

end Tells

/-- The options are those shown but for the key, which is not. -/
def ButKey (told opt : GretapOpt) : Prop := opt = { told with key := opt.key }

theorem ButKey.setKey {told opt : GretapOpt} (h : ButKey told opt) (key : UInt32) :
    ButKey told { opt with key := key } := by
  simp only [ButKey, GretapOpt.ext_iff] at h ⊢
  simpa using h

theorem ButKey.keyed {told opt : GretapOpt} (h : ButKey told opt) (pkt : Packet) (grehdr : Nat) :
    ButKey told (Dygrefou.keyed pkt grehdr opt) := by
  unfold Dygrefou.keyed
  dsimp only
  split
  · exact h.setKey _
  · exact h

/-! ### The Project parser -/

namespace Dygrefou

variable {told opt : GretapOpt}

theorem tells_tellGre (pkt : Packet) (protocol : UInt8) (c : Cursor) (h : ButKey told opt) :
    Tells (fun told r => ButKey told r.2) told (tellGre pkt protocol c opt) := by
  unfold tellGre
  split
  · exact tells_reject h
  cases (readGrehdr pkt c).val with
  | none => exact tells_reject h
  | some read =>
      apply Tells.after (by simp [Detail.Accepting, Detail.label])
      dsimp only
      split
      · exact tells_reject (h.keyed pkt read.1)
      cases (readEthhdr read.2).val with
      | none => exact tells_reject (h.keyed pkt read.1)
      | some read' => exact tells_accept (h.keyed pkt read.1)

theorem tells_tellUdp (pkt : Packet) (protocol : UInt8) (c : Cursor) (opt : GretapOpt) :
    Tells (fun told r => ButKey told r.2) opt (tellUdp pkt protocol c opt) := by
  unfold tellUdp
  split
  · cases (readUdphdr c).val with
    | none => exact tells_reject rfl
    | some read =>
        apply Tells.after (by simp [Detail.Accepting, Detail.label])
        apply Tells.after (by simp [Detail.Accepting, Detail.label])
        exact tells_tellGre pkt protocol read.2 rfl
  · exact tells_tellGre pkt protocol c rfl

theorem tells_tellPacket (pkt : Packet) (opt : GretapOpt) :
    Tells (fun told r => ButKey told r.2) opt (tellPacket pkt opt) := by
  apply Tells.after (quiet_tellOuter pkt)
  rw [foldl_tellOuter]
  cases (tellOuter pkt).val with
  | none => exact tells_reject rfl
  | some read => exact tells_tellUdp pkt _ _ _

/-- What a call of `parse_packet` shows. -/
def entry (pkt : Packet) : Entry := ⟨pkt.bytes, (tellPacket pkt GretapOpt.zeroed).log⟩

theorem accepted_entry (pkt : Packet) :
    (entry pkt).accepted = true ↔ (parsePacket pkt GretapOpt.zeroed).val.1 = 0 := by
  have htells := tells_tellPacket pkt GretapOpt.zeroed
  rw [Entry.accepted_iff, ← val_tellPacket, htells.verdict]
  rfl

theorem told_entry (pkt : Packet) :
    ButKey (entry pkt).told (parsePacket pkt GretapOpt.zeroed).val.2 := by
  have htells := tells_tellPacket pkt GretapOpt.zeroed
  rw [← val_tellPacket]
  exact htells.stored

end Dygrefou

/-! ### The Lab4 parser -/

namespace Dygre

/-- Of an accepted frame both addresses are shown. -/
def ShowsAddresses (told : GretapOpt) (r : Int × Addresses) : Prop :=
  r.1 = 0 → r.2 = ⟨told.remote, told.localAddr⟩

theorem showsAddresses_reject {told : GretapOpt} {out : Addresses} :
    ShowsAddresses told (-1, out) := by
  intro hzero
  cases hzero

theorem tells_tellGre (pkt : Packet) (iphdr : Nat) (c : Cursor) (opt : GretapOpt)
    (out : Addresses) :
    Tells ShowsAddresses { opt with
      remote := pkt.u32 (iphdr + 12)
      localAddr := pkt.u32 (iphdr + 16) } (tellGre pkt iphdr c out) := by
  unfold tellGre
  split
  · exact tells_reject showsAddresses_reject
  cases (readGrehdr pkt c).val with
  | none => exact tells_reject showsAddresses_reject
  | some read =>
      apply Tells.after (by simp [Detail.Accepting, Detail.label])
      split
      · exact tells_reject showsAddresses_reject
      cases (readEthhdr read.2).val with
      | none => exact tells_reject showsAddresses_reject
      | some read' => exact tells_accept fun _ => rfl

theorem tells_tellPacket (pkt : Packet) (opt : GretapOpt) (out : Addresses) :
    Tells ShowsAddresses opt (tellPacket pkt out) := by
  apply Tells.after (quiet_tellOuter pkt)
  rw [foldl_tellOuter]
  cases (tellOuter pkt).val with
  | none => exact tells_reject showsAddresses_reject
  | some read => exact tells_tellGre pkt _ _ _ _

/-- What a call of `parse_packet` shows. -/
def entry (pkt : Packet) (out : Addresses) : Entry := ⟨pkt.bytes, (tellPacket pkt out).log⟩

theorem accepted_entry (pkt : Packet) (out : Addresses) :
    (entry pkt out).accepted = true ↔ Accepts pkt := by
  have htells := tells_tellPacket pkt GretapOpt.zeroed out
  have hverdict : (parsePacket pkt out).val.1 = 0 ↔ Accepts pkt := by
    by_cases h : Accepts pkt
    · simp [parsePacket_of_accepts out h, h]
    · simp [parsePacket_of_not_accepts out h, h]
  rw [Entry.accepted_iff, ← hverdict, ← val_tellPacket, htells.verdict]
  rfl

theorem told_entry {pkt : Packet} (h : Accepts pkt) (out : Addresses) :
    (entry pkt out).told.remote = pkt.saddr Packet.outerIp ∧
      (entry pkt out).told.localAddr = pkt.daddr Packet.outerIp := by
  have hshown : ShowsAddresses (entry pkt out).told (tellPacket pkt out).val :=
    (tells_tellPacket pkt GretapOpt.zeroed out).stored
  rw [val_tellPacket, parsePacket_of_accepts out h] at hshown
  obtain ⟨hremote, hlocal⟩ := Addresses.mk.inj (hshown rfl)
  exact ⟨hremote.symm, hlocal.symm⟩

end Dygre

end DynamicGre

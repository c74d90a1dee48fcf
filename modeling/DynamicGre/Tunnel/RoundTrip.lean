import DynamicGre.Tunnel.SentValues
import DynamicGre.Tunnel.TunnelParser

/-!
What `tunnel_parser` returns for a link message that reports the values
`create_tunnel` sent. The message may hold further attributes, in any order.
Every field comes back but the key, which is sent in network order and taken
as it is.
-/

namespace DynamicGre

open Bytes

/-! ### Messages that report given values -/

/-- Every attribute of the type holds `value`, and there is one unless a missing
attribute means the same. -/
def Holds {α : Type} (attrs : List (Nla α)) (type : UInt16) (absent value : α) : Prop :=
  (∀ a ∈ attrs, a.type = type → a.payload = value) ∧
    (value = absent ∨ ∃ a ∈ attrs, a.type = type)

/-- Every link-info nest names the kind, and there are gretap attributes, all
of them in `P`. -/
structure Informs (msg : NlMsg) (kind : Payload GreAttr) (P : List GreAttr → Prop) : Prop where
  valid : msg.ifinfo.isNone = false
  kind : ∀ nla ∈ msg.attrs, nla.type = IFLA_LINKINFO →
    ∀ li ∈ nla.payload.attrs, li.type = IFLA_INFO_KIND → li.payload = kind
  data : ∀ nla ∈ msg.attrs, nla.type = IFLA_LINKINFO →
    ∀ li ∈ nla.payload.attrs, li.type = IFLA_INFO_DATA → P li.payload.attrs
  present : ∃ nla ∈ msg.attrs, nla.type = IFLA_LINKINFO ∧
    ∃ li ∈ nla.payload.attrs, li.type = IFLA_INFO_DATA

section Scan

variable {msg : NlMsg} {P : List GreAttr → Prop}

theorem Informs.no_badLink (h : Informs msg (.data gretapKind) P) :
    msg.attrs.any badLink = false := by
  apply List.any_eq_false.mpr
  intro nla hnla hbad
  obtain ⟨hinfo, hany⟩ := Bool.and_eq_true_iff.mp hbad
  obtain ⟨li, hli, hbadInfo⟩ := List.any_eq_true.mp hany
  obtain ⟨hkind, hnot⟩ := Bool.and_eq_true_iff.mp hbadInfo
  have hpayload := h.kind nla hnla (of_decide_eq_true hinfo) li hli (of_decide_eq_true hkind)
  rw [hpayload] at hnot
  exact absurd hnot (by decide)

/-- The loop over one nest keeps the pointer or moves it to one of the data
nests in it. -/
theorem foldl_nextInfo {attrs : List InfoAttr}
    (hdata : ∀ li ∈ attrs, li.type = IFLA_INFO_DATA → P li.payload.attrs)
    {start : Option (List GreAttr)} (hstart : ∀ data ∈ start, P data) :
    ∀ data ∈ attrs.foldl nextInfo start, P data := by
  refine List.foldlRecOn attrs nextInfo (motive := fun s => ∀ data ∈ s, P data) hstart ?_
  intro s hs li hli data hmem
  unfold nextInfo at hmem
  split at hmem
  · rename_i htype
    rw [← Option.some.inj hmem]
    exact hdata li hli htype
  · exact hs data hmem

theorem isSome_foldl_nextInfo {attrs : List InfoAttr} {start : Option (List GreAttr)}
    (h : start.isSome = true ∨ ∃ li ∈ attrs, li.type = IFLA_INFO_DATA) :
    (attrs.foldl nextInfo start).isSome = true := by
  refine Folds.get_foldl Option.isSome (·.type = IFLA_INFO_DATA) ?_ ?_ h
  · intro s li htype
    rw [nextInfo, if_neg htype]
  · intro s li _ htype
    rw [nextInfo, if_pos htype]
    rfl

theorem nextLink_gretapData (s : Parsing) (nla : LinkAttr) :
    (nextLink s nla).gretapData =
      if nla.type = IFLA_LINKINFO then nla.payload.attrs.foldl nextInfo s.gretapData
      else s.gretapData := by
  unfold nextLink
  split
  · rename_i htype
    rw [if_neg (by rw [htype]; decide)]
  split
  · rename_i htype
    rw [if_neg (by rw [htype]; decide)]
  split <;> rfl

theorem Informs.scanned {kind : Payload GreAttr} (h : Informs msg kind P) :
    ∃ data, (scanned msg).gretapData = some data ∧ P data := by
  have hstart : ∀ data ∈ (none : Option (List GreAttr)), P data := fun _ hnone => nomatch hnone
  have hP : ∀ data ∈ (DynamicGre.scanned msg).gretapData, P data := by
    unfold DynamicGre.scanned
    apply List.foldlRecOn msg.attrs nextLink (motive := fun s => ∀ data ∈ s.gretapData, P data)
    · exact hstart
    · intro s hs nla hnla
      rw [nextLink_gretapData]
      split
      · rename_i hinfo
        exact foldl_nextInfo (h.data nla hnla hinfo) hs
      · exact hs
  have hsome : (DynamicGre.scanned msg).gretapData.isSome = true := by
    refine Folds.get_foldl (fun s : Parsing => s.gretapData.isSome)
      (fun nla : LinkAttr => nla.type = IFLA_LINKINFO ∧
        ∃ li ∈ nla.payload.attrs, li.type = IFLA_INFO_DATA) ?_ ?_ (Or.inr h.present)
    · intro s nla hno
      rw [nextLink_gretapData]
      split
      · rename_i hinfo
        have hnone : ∀ li ∈ nla.payload.attrs, ¬li.type = IFLA_INFO_DATA :=
          fun li hli htype => hno ⟨hinfo, li, hli, htype⟩
        exact congrArg Option.isSome (Folds.get_foldl_of_no_hit id _
          (fun s li hli => if_neg hli) hnone s.gretapData)
      · rfl
    · rintro s nla - ⟨hinfo, hli⟩
      rw [nextLink_gretapData, if_pos hinfo]
      exact isSome_foldl_nextInfo (Or.inr hli)
  obtain ⟨data, hdata⟩ := Option.isSome_iff_exists.mp hsome
  exact ⟨data, hdata, hP data hdata⟩

/-- A message about a gretap link is parsed to what its attributes hold. -/
theorem Informs.tunnelParser (h : Informs msg (.data gretapKind) P) (arg : GretapOpt) :
    ∃ data, P data ∧
      tunnelParser msg arg = (0, data.foldl parseGreAttr (DynamicGre.scanned msg).result) := by
  obtain ⟨data, hdata, hP⟩ := h.scanned
  refine ⟨data, hP, ?_⟩
  rw [tunnelParser_eq, h.valid, h.no_badLink, hdata]
  rfl

end Scan

/-! ### The fields -/

section Fields

variable {β : Type} {data : List GreAttr} {r : GretapOpt}

/-- A field that the attributes of one type write, and no others, ends with the
value they hold. -/
theorem get_foldl_parseGreAttr (get : GretapOpt → β) (type : UInt16) (read : List UInt8 → β)
    (hskip : ∀ s a, a.type ≠ type → get (parseGreAttr s a) = get s)
    (hwrite : ∀ s a, a.type = type → get (parseGreAttr s a) = read a.payload)
    {absent value : List UInt8} (h : Holds data type absent value) (hr : get r = read absent) :
    get (data.foldl parseGreAttr r) = read value := by
  obtain ⟨hvalue, hpresent⟩ := h
  refine Folds.get_foldl get (·.type = type) hskip ?_ ?_
  · intro s a ha htype
    rw [hwrite s a htype, hvalue a ha htype]
  · rcases hpresent with rfl | hpresent
    · exact Or.inl hr
    · exact Or.inr hpresent

theorem remote_foldl {x : UInt32} (h : Holds data IFLA_GRE_REMOTE (bytes32 0) (bytes32 x))
    (hr : r.remote = 0) : (data.foldl parseGreAttr r).remote = x := by
  rw [get_foldl_parseGreAttr GretapOpt.remote _ nlaGetU32 ?_ ?_ h hr, nlaGetU32_bytes32]
  · intro s a htype
    unfold parseGreAttr
    split_ifs <;> rfl
  · intro s a htype
    have hlocal : ¬IFLA_GRE_REMOTE = IFLA_GRE_LOCAL := by decide
    simp [parseGreAttr, htype, hlocal]

theorem localAddr_foldl {x : UInt32} (h : Holds data IFLA_GRE_LOCAL (bytes32 0) (bytes32 x))
    (hr : r.localAddr = 0) : (data.foldl parseGreAttr r).localAddr = x := by
  rw [get_foldl_parseGreAttr GretapOpt.localAddr _ nlaGetU32 ?_ ?_ h hr, nlaGetU32_bytes32]
  · intro s a htype
    rw [parseGreAttr, if_neg htype]
    split_ifs <;> rfl
  · intro s a htype
    simp [parseGreAttr, htype]

theorem encapType_foldl {x : UInt16}
    (h : Holds data IFLA_GRE_ENCAP_TYPE (bytes16 0) (bytes16 x)) (hr : r.encapType = 0) :
    (data.foldl parseGreAttr r).encapType = x.toUInt32 := by
  rw [get_foldl_parseGreAttr GretapOpt.encapType _ (fun b => (nlaGetU16 b).toUInt32) ?_ ?_ h hr,
    nlaGetU16_bytes16]
  · intro s a htype
    unfold parseGreAttr
    split_ifs <;> rfl
  · intro s a htype
    rw [parseGreAttr, htype]
    rfl

theorem encapSport_foldl {x : UInt16}
    (h : Holds data IFLA_GRE_ENCAP_SPORT (bytes16 0) (bytes16 x)) (hr : r.encapSport = 0) :
    (data.foldl parseGreAttr r).encapSport = ntohs x := by
  rw [get_foldl_parseGreAttr GretapOpt.encapSport _ (fun b => ntohs (nlaGetU16 b)) ?_ ?_ h hr,
    nlaGetU16_bytes16]
  · intro s a htype
    unfold parseGreAttr
    split_ifs <;> rfl
  · intro s a htype
    rw [parseGreAttr, htype]
    rfl

theorem encapDport_foldl {x : UInt16}
    (h : Holds data IFLA_GRE_ENCAP_DPORT (bytes16 0) (bytes16 x)) (hr : r.encapDport = 0) :
    (data.foldl parseGreAttr r).encapDport = ntohs x := by
  rw [get_foldl_parseGreAttr GretapOpt.encapDport _ (fun b => ntohs (nlaGetU16 b)) ?_ ?_ h hr,
    nlaGetU16_bytes16]
  · intro s a htype
    unfold parseGreAttr
    split_ifs <;> rfl
  · intro s a htype
    rw [parseGreAttr, htype]
    rfl

/-- Both key attributes write the field, so they have to agree. -/
theorem key_foldl {x : UInt32} (hi : Holds data IFLA_GRE_IKEY (bytes32 0) (bytes32 x))
    (ho : Holds data IFLA_GRE_OKEY (bytes32 0) (bytes32 x)) (hr : r.key = 0) :
    (data.foldl parseGreAttr r).key = x := by
  refine Folds.get_foldl GretapOpt.key
    (fun a : GreAttr => a.type = IFLA_GRE_IKEY ∨ a.type = IFLA_GRE_OKEY) ?_ ?_ ?_
  · intro s a htype
    unfold parseGreAttr
    split_ifs <;> rfl
  · intro s a ha htype
    have hpayload : a.payload = bytes32 x := htype.elim (hi.1 a ha) (ho.1 a ha)
    have hwrite : (parseGreAttr s a).key = nlaGetU32 a.payload := by
      rcases htype with htype | htype <;> rw [parseGreAttr, htype] <;> rfl
    rw [hwrite, hpayload, nlaGetU32_bytes32]
  · rcases hi.2 with hzero | ⟨a, ha, htype⟩
    · have hx : x = 0 := by
        rw [← nlaGetU32_bytes32 x, hzero, nlaGetU32_bytes32]
      exact Or.inl (hr.trans hx.symm)
    · exact Or.inr ⟨a, ha, Or.inl htype⟩

theorem foldl_parseGreAttr_link (data : List GreAttr) (r : GretapOpt) :
    (data.foldl parseGreAttr r).ifname = r.ifname ∧
      (data.foldl parseGreAttr r).master = r.master := by
  have hifname : ∀ s a, ¬False → (parseGreAttr s a).ifname = s.ifname := by
    intro s a _
    unfold parseGreAttr
    split_ifs <;> rfl
  have hmaster : ∀ s a, ¬False → (parseGreAttr s a).master = s.master := by
    intro s a _
    unfold parseGreAttr
    split_ifs <;> rfl
  exact ⟨Folds.get_foldl_of_no_hit GretapOpt.ifname (fun _ => False) hifname (fun _ _ h => h) r,
    Folds.get_foldl_of_no_hit GretapOpt.master (fun _ => False) hmaster (fun _ _ h => h) r⟩

variable {msg : NlMsg}

theorem ifname_scanned {name : IfName}
    (h : Holds msg.attrs IFLA_IFNAME (.data []) (.data (name.chars ++ [0]))) :
    (scanned msg).result.ifname = name := by
  obtain ⟨hvalue, hpresent⟩ := h
  refine Folds.get_foldl (fun s : Parsing => s.result.ifname) (·.type = IFLA_IFNAME) ?_ ?_ ?_
  · intro s nla htype
    unfold nextLink
    split_ifs <;> rfl
  · intro s nla hnla htype
    have hmaster : ¬IFLA_IFNAME = IFLA_MASTER := by decide
    simp only [nextLink, htype, hmaster, if_false, if_true, hvalue nla hnla htype]
    exact nlaStrlcpy_chars name
  · rcases hpresent with habsent | hpresent
    · simp at habsent
    · exact Or.inr hpresent

theorem master_scanned {x : UInt32}
    (h : Holds msg.attrs IFLA_MASTER (.data (bytes32 0)) (.data (bytes32 x))) :
    (scanned msg).result.master = x.toInt32 := by
  obtain ⟨hvalue, hpresent⟩ := h
  refine Folds.get_foldl (fun s : Parsing => s.result.master) (·.type = IFLA_MASTER) ?_ ?_ ?_
  · intro s nla htype
    rw [nextLink, if_neg htype]
    split_ifs <;> rfl
  · intro s nla hnla htype
    simp only [nextLink, htype, if_true, hvalue nla hnla htype, Payload.bytes,
      nlaGetU32_bytes32]
  · rcases hpresent with habsent | hpresent
    · have hx : x = 0 := by
        have hbytes : bytes32 x = bytes32 0 := by simpa using habsent
        rw [← nlaGetU32_bytes32 x, hbytes, nlaGetU32_bytes32]
      exact Or.inl (by rw [hx]; rfl)
    · exact Or.inr hpresent

/-- The loops write no field but those the attributes name. -/
theorem scanned_rest (msg : NlMsg) :
    (scanned msg).result.localAddr = 0 ∧ (scanned msg).result.remote = 0 ∧
      (scanned msg).result.key = 0 ∧ (scanned msg).result.encapType = 0 ∧
      (scanned msg).result.encapSport = 0 ∧ (scanned msg).result.encapDport = 0 := by
  unfold scanned
  apply List.foldlRecOn msg.attrs nextLink (motive := fun s =>
    s.result.localAddr = 0 ∧ s.result.remote = 0 ∧ s.result.key = 0 ∧ s.result.encapType = 0 ∧
      s.result.encapSport = 0 ∧ s.result.encapDport = 0)
  · exact ⟨rfl, rfl, rfl, rfl, rfl, rfl⟩
  · intro s hs nla _
    unfold nextLink
    split_ifs <;> exact hs

end Fields

/-! ### Messages that carry what was sent -/

/-- The gretap attributes of `sent`, reported one by one. A number that was not
sent may be reported as zero. -/
structure CarriesGre (attrs sent : List GreAttr) : Prop where
  locals : Holds attrs IFLA_GRE_LOCAL (bytes32 0) (valueOf sent IFLA_GRE_LOCAL (bytes32 0))
  remote : Holds attrs IFLA_GRE_REMOTE (bytes32 0) (valueOf sent IFLA_GRE_REMOTE (bytes32 0))
  ikey : Holds attrs IFLA_GRE_IKEY (bytes32 0) (valueOf sent IFLA_GRE_IKEY (bytes32 0))
  okey : Holds attrs IFLA_GRE_OKEY (bytes32 0) (valueOf sent IFLA_GRE_OKEY (bytes32 0))
  encapType : Holds attrs IFLA_GRE_ENCAP_TYPE (bytes16 0)
    (valueOf sent IFLA_GRE_ENCAP_TYPE (bytes16 0))
  encapSport : Holds attrs IFLA_GRE_ENCAP_SPORT (bytes16 0)
    (valueOf sent IFLA_GRE_ENCAP_SPORT (bytes16 0))
  encapDport : Holds attrs IFLA_GRE_ENCAP_DPORT (bytes16 0)
    (valueOf sent IFLA_GRE_ENCAP_DPORT (bytes16 0))

/-- `msg` reports the name, the master, the kind and the gretap attributes that
`sent` set. -/
structure Carries (msg sent : NlMsg) : Prop where
  ifname : Holds msg.attrs IFLA_IFNAME (.data []) (valueOf sent.attrs IFLA_IFNAME (.data []))
  master : Holds msg.attrs IFLA_MASTER (.data (bytes32 0))
    (valueOf sent.attrs IFLA_MASTER (.data (bytes32 0)))
  info : Informs msg (valueOf (linkInfo sent) IFLA_INFO_KIND (.data []))
    fun attrs => CarriesGre attrs (infoData sent)

/-- What comes back for `opt`. -/
def readBack (opt : GretapOpt) : GretapOpt :=
  { opt with
    key := htonl opt.key
    encapType := opt.encapType.toUInt16.toUInt32
    encapSport := sentPort opt opt.encapSport
    encapDport := sentPort opt opt.encapDport }

theorem tunnelParser_of_carries (opt arg : GretapOpt) {msg : NlMsg}
    (h : Carries msg (tunnelMsg opt)) : tunnelParser msg arg = (0, readBack opt) := by
  obtain ⟨hifname, hmaster, hinfo⟩ := h
  rw [linkInfo_tunnelMsg, infoData_tunnelMsg] at hinfo
  obtain ⟨data, hdata, hparse⟩ := Informs.tunnelParser hinfo arg
  obtain ⟨hlocal, hremote, hikey, hokey, htype, hsport, hdport⟩ := hdata
  rw [valueOf_local] at hlocal
  rw [valueOf_remote] at hremote
  rw [valueOf_key opt (Or.inl rfl)] at hikey
  rw [valueOf_key opt (Or.inr rfl)] at hokey
  rw [valueOf_encapType] at htype
  rw [valueOf_encapSport] at hsport
  rw [valueOf_encapDport] at hdport
  rw [valueOf_master] at hmaster
  obtain ⟨hlocal0, hremote0, hkey0, htype0, hsport0, hdport0⟩ := scanned_rest msg
  have hlink := foldl_parseGreAttr_link data (scanned msg).result
  rw [hparse]
  congr 1
  apply GretapOpt.ext
  · rw [hlink.1, ifname_scanned hifname, readBack]
  · rw [hlink.2, master_scanned hmaster, readBack]
    exact Int32.toInt32_toUInt32 _
  · exact localAddr_foldl hlocal hlocal0
  · exact remote_foldl hremote hremote0
  · exact key_foldl hikey hokey hkey0
  · exact encapType_foldl htype htype0
  · rw [encapSport_foldl hsport hsport0, ntohs_htons, readBack]
  · rw [encapDport_foldl hdport hdport0, ntohs_htons, readBack]

theorem readBack_eq_iff (opt : GretapOpt)
    (hports : opt.encapType = TUNNEL_ENCAP_NONE → opt.encapSport = 0 ∧ opt.encapDport = 0) :
    readBack opt = opt ↔ htonl opt.key = opt.key ∧ opt.encapType.toNat < 2 ^ 16 := by
  have htype : opt.encapType.toUInt16.toUInt32 = opt.encapType ↔
      opt.encapType.toNat < 2 ^ 16 := by
    rw [← UInt32.toNat_inj, UInt16.toNat_toUInt32, UInt32.toNat_toUInt16]
    omega
  have hport {port : UInt16} (h : opt.encapType = TUNNEL_ENCAP_NONE → port = 0) :
      sentPort opt port = port := by
    unfold sentPort
    split
    · rfl
    · rename_i hnone
      exact (h (not_not.mp hnone)).symm
  rw [← htype]
  constructor
  · intro h
    exact ⟨congrArg GretapOpt.key h, congrArg GretapOpt.encapType h⟩
  · rintro ⟨hkey, hencap⟩
    rw [readBack, hkey, hencap, hport fun h => (hports h).1, hport fun h => (hports h).2]

/-- The parser returns what `create_tunnel` was given exactly when its key reads
the same in both byte orders and its encapsulation type has 16 bits. -/
theorem tunnelParser_createTunnel (opt arg : GretapOpt) (env : CreateEnv) (sent msg : NlMsg)
    (hports : opt.encapType = TUNNEL_ENCAP_NONE → opt.encapSport = 0 ∧ opt.encapDport = 0)
    (hsent : (createTunnel opt env).2 = some sent) (hmsg : Carries msg sent) :
    tunnelParser msg arg = (0, opt) ↔
      htonl opt.key = opt.key ∧ opt.encapType.toNat < 2 ^ 16 := by
  have hmsg' : Carries msg (tunnelMsg opt) := by
    rcases createTunnel_cases opt env with hrun | ⟨ret, -, hrun⟩
    · rw [hrun] at hsent
      rw [Option.some.inj hsent]
      exact hmsg
    · rw [hrun] at hsent
      cases hsent
  rw [tunnelParser_of_carries opt arg hmsg', Prod.mk.injEq, readBack_eq_iff opt hports]
  exact and_iff_right rfl

/-! ### The message that was sent carries itself -/

theorem holds_valueOf {α : Type} {attrs : List (Nla α)} (hnodup : (attrs.map (·.type)).Nodup)
    (type : UInt16) (absent : α) : Holds attrs type absent (valueOf attrs type absent) := by
  unfold valueOf
  cases hfind : attrs.find? (·.type = type) with
  | none =>
      have hnone := List.find?_eq_none.mp hfind
      refine ⟨fun a ha htype => absurd (decide_eq_true htype) (hnone a ha), Or.inl rfl⟩
  | some b =>
      have hb : b.type = type := by simpa using List.find?_some hfind
      have hmem := List.mem_of_find?_eq_some hfind
      refine ⟨fun a ha htype => ?_, Or.inr ⟨b, hmem, hb⟩⟩
      rw [List.inj_on_of_nodup_map hnodup ha hmem (htype.trans hb.symm)]
      rfl

theorem carries_tunnelMsg (opt : GretapOpt) : Carries (tunnelMsg opt) (tunnelMsg opt) := by
  have hlink : ((tunnelMsg opt).attrs.map (·.type)).Nodup := by
    by_cases hmaster : opt.master = 0 <;> simp [tunnelMsg, whenSet, hmaster] <;> decide
  have hgre (type : UInt16) (absent : List UInt8) := holds_valueOf (types_greAttrs opt) type absent
  have hhere : (⟨IFLA_LINKINFO, .nested (infoAttrs opt)⟩ : LinkAttr) ∈ (tunnelMsg opt).attrs := by
    simp [tunnelMsg]
  have hnest : ∀ nla ∈ (tunnelMsg opt).attrs, nla.type = IFLA_LINKINFO →
      nla.payload.attrs = infoAttrs opt := by
    intro nla hnla htype
    rw [List.inj_on_of_nodup_map hlink hnla hhere htype]
    rfl
  have hkinds : ∀ li ∈ infoAttrs opt, li.type = IFLA_INFO_KIND → li.payload = .data gretapKind := by
    have hne : IFLA_INFO_DATA ≠ IFLA_INFO_KIND := by decide
    simp [infoAttrs, hne]
  have hdatas : ∀ li ∈ infoAttrs opt, li.type = IFLA_INFO_DATA →
      li.payload = .nested (greAttrs opt) := by
    have hne : IFLA_INFO_KIND ≠ IFLA_INFO_DATA := by decide
    simp [infoAttrs, hne]
  refine ⟨holds_valueOf hlink _ _, holds_valueOf hlink _ _, rfl, ?_, ?_, ?_⟩
  · intro nla hnla htype li hli hkind
    rw [hnest nla hnla htype] at hli
    rw [linkInfo_tunnelMsg]
    exact hkinds li hli hkind
  · intro nla hnla htype li hli hdata
    rw [hnest nla hnla htype] at hli
    rw [infoData_tunnelMsg, hdatas li hli hdata]
    exact ⟨hgre _ _, hgre _ _, hgre _ _, hgre _ _, hgre _ _, hgre _ _, hgre _ _⟩
  · exact ⟨_, hhere, rfl, ⟨IFLA_INFO_DATA, .nested (greAttrs opt)⟩,
      List.mem_cons_of_mem _ List.mem_cons_self, rfl⟩

/-- A tunnel whose key reads differently in the two byte orders. -/
def keyOne : GretapOpt :=
  { GretapOpt.zeroed with
    ifname := ⟨[0x64, 0x79, 0x67, 0x72, 0x65, 0x2d, 0x31], by decide, by decide⟩
    master := 3, localAddr := 0x0202a8c0, remote := 0x0102a8c0, key := 1
    encapType := TUNNEL_ENCAP_FOU, encapSport := 5555, encapDport := 40000 }

/-- Room for the whole message, which the kernel takes. -/
def CreateEnv.good : CreateEnv where
  alloc := true
  room := 15
  send := 0

theorem tunnelParser_createTunnel_keyOne :
    tunnelParser (tunnelMsg keyOne) GretapOpt.zeroed = (0, keyOne) ↔
      htonl keyOne.key = keyOne.key ∧ keyOne.encapType.toNat < 2 ^ 16 :=
  tunnelParser_createTunnel keyOne GretapOpt.zeroed CreateEnv.good (tunnelMsg keyOne)
    (tunnelMsg keyOne) (by decide) (by rw [createTunnel_of_roomy _ ⟨rfl, Nat.le_refl 15⟩])
    (carries_tunnelMsg keyOne)

theorem tunnelParser_keyOne_swapped :
    (createTunnel keyOne CreateEnv.good).2 = some (tunnelMsg keyOne) ∧
      Carries (tunnelMsg keyOne) (tunnelMsg keyOne) ∧
      (tunnelParser (tunnelMsg keyOne) GretapOpt.zeroed).2.key = 0x01000000 ∧
      tunnelParser (tunnelMsg keyOne) GretapOpt.zeroed ≠ (0, keyOne) := by
  have hkey : (tunnelParser (tunnelMsg keyOne) GretapOpt.zeroed).2.key = 0x01000000 := by
    rw [tunnelParser_of_carries keyOne _ (carries_tunnelMsg keyOne)]
    decide
  refine ⟨by rw [createTunnel_of_roomy _ ⟨rfl, Nat.le_refl 15⟩], carries_tunnelMsg keyOne, hkey, ?_⟩
  intro h
  rw [h] at hkey
  exact absurd hkey (by decide)

end DynamicGre

import DynamicGre.Tunnel.Order

/-!
What `tunnel_parser` makes of any link message, with attributes that are repeated
or out of place. All `IFLA_LINKINFO` are read as one; of the attributes of a type
the last one counts, and only those of the last `IFLA_INFO_DATA`.
-/

namespace DynamicGre

open Bytes

/-- The payload of the last attribute of one of the types. -/
def lastOf {α : Type} (attrs : List (Nla α)) (types : List UInt16) : Option α :=
  (attrs.findRev? (·.type ∈ types)).map Nla.payload

/-- The attributes of every `IFLA_LINKINFO`, in their order. -/
def NlMsg.infos (msg : NlMsg) : List InfoAttr :=
  (msg.attrs.filter (·.type = IFLA_LINKINFO)).flatMap (·.payload.attrs)

/-- What a message with these gretap attributes says of the tunnel. -/
def NlMsg.optOf (msg : NlMsg) (data : List GreAttr) : GretapOpt where
  ifname := (lastOf msg.attrs [IFLA_IFNAME]).elim IfName.empty fun name => nlaStrlcpy name.bytes
  master := (lastOf msg.attrs [IFLA_MASTER]).elim 0 fun word => (nlaGetU32 word.bytes).toInt32
  localAddr := (lastOf data [IFLA_GRE_LOCAL]).elim 0 nlaGetU32
  remote := (lastOf data [IFLA_GRE_REMOTE]).elim 0 nlaGetU32
  key := (lastOf data [IFLA_GRE_IKEY, IFLA_GRE_OKEY]).elim 0 nlaGetU32
  encapType := (lastOf data [IFLA_GRE_ENCAP_TYPE]).elim 0 fun word => (nlaGetU16 word).toUInt32
  encapSport := (lastOf data [IFLA_GRE_ENCAP_SPORT]).elim 0 fun word => ntohs (nlaGetU16 word)
  encapDport := (lastOf data [IFLA_GRE_ENCAP_DPORT]).elim 0 fun word => ntohs (nlaGetU16 word)

/-- A loop that writes a variable for some types of attributes. -/
theorem get_foldl_lastOf {σ β γ : Type} (get : σ → β) (types : List UInt16) (value : γ → β)
    {step : σ → Nla γ → σ}
    (hstep : ∀ s a, get (step s a) = if a.type ∈ types then value a.payload else get s)
    (attrs : List (Nla γ)) (s : σ) :
    get (attrs.foldl step s) = (lastOf attrs types).elim (get s) value := by
  have hlast := Folds.get_foldl_findRev? get (fun a => decide (a.type ∈ types))
    (fun a => value a.payload) (by simpa using hstep) attrs s
  rw [hlast, lastOf]
  cases attrs.findRev? fun a => decide (a.type ∈ types) <;> rfl

/-! ### The attributes of the message -/

/-- The body of the first loop, variable by variable. -/
theorem nextLink_fields (s : Parsing) (a : LinkAttr) : nextLink s a =
    { result :=
        { s.result with
          ifname := if a.type = IFLA_IFNAME then nlaStrlcpy a.payload.bytes else s.result.ifname
          master := if a.type = IFLA_MASTER then (nlaGetU32 a.payload.bytes).toInt32
            else s.result.master }
      gretapData := if a.type = IFLA_LINKINFO then a.payload.attrs.foldl nextInfo s.gretapData
        else s.gretapData } := by
  unfold nextLink
  repeat' split
  all_goals simp_all [IFLA_IFNAME, IFLA_MASTER, IFLA_LINKINFO]

theorem any_badLink (msg : NlMsg) : msg.attrs.any badLink = msg.infos.any badInfo := by
  unfold NlMsg.infos
  induction msg.attrs with
  | nil => rfl
  | cons a attrs ih =>
      by_cases hinfo : a.type = IFLA_LINKINFO <;> simp [badLink, hinfo, ih]

/-- The two loops over `IFLA_LINKINFO` and into it are one over all it holds. -/
theorem gretapData_foldl (attrs : List LinkAttr) (s : Parsing) :
    (attrs.foldl nextLink s).gretapData =
      ((attrs.filter (·.type = IFLA_LINKINFO)).flatMap (·.payload.attrs)).foldl nextInfo
        s.gretapData := by
  induction attrs generalizing s with
  | nil => rfl
  | cons a attrs ih =>
      rw [List.foldl_cons, ih, nextLink_fields]
      by_cases hinfo : a.type = IFLA_LINKINFO <;> simp [hinfo]

theorem gretapData_scanned (msg : NlMsg) :
    (scanned msg).gretapData = (lastOf msg.infos [IFLA_INFO_DATA]).map Payload.attrs := by
  have hstep (d : Option (List GreAttr)) (li : InfoAttr) :
      id (nextInfo d li) = if li.type ∈ [IFLA_INFO_DATA] then some li.payload.attrs else id d := by
    simp [nextInfo]
  have hlast := get_foldl_lastOf id [IFLA_INFO_DATA] (fun p => some p.attrs) hstep msg.infos none
  rw [scanned, gretapData_foldl]
  apply hlast.trans
  cases lastOf msg.infos [IFLA_INFO_DATA] <;> rfl

/-! ### The variables of `result` -/

section Result

variable {β : Type} (get : GretapOpt → β) (types : List UInt16) (msg : NlMsg)
  (data : List GreAttr)

/-- A variable that the first loop writes and the last one does not. -/
theorem get_linkAttrs {value : Payload InfoAttr → β}
    (hlink : ∀ (s : Parsing) a, get (nextLink s a).result =
      if a.type ∈ types then value a.payload else get s.result)
    (hgre : ∀ r a, get (parseGreAttr r a) = get r) :
    get (data.foldl parseGreAttr (scanned msg).result) =
      (lastOf msg.attrs types).elim (get GretapOpt.zeroed) value := by
  have hkept : get (data.foldl parseGreAttr (scanned msg).result) = get (scanned msg).result := by
    apply Folds.get_foldl_of_no_hit get fun _ => False
    · exact fun r a _ => hgre r a
    · simp
  rw [hkept]
  exact get_foldl_lastOf (fun s : Parsing => get s.result) types value hlink msg.attrs _

/-- A variable that only the last loop writes. -/
theorem get_greAttrs {value : List UInt8 → β}
    (hlink : ∀ (s : Parsing) a, get (nextLink s a).result = get s.result)
    (hgre : ∀ r a, get (parseGreAttr r a) = if a.type ∈ types then value a.payload else get r) :
    get (data.foldl parseGreAttr (scanned msg).result) =
      (lastOf data types).elim (get GretapOpt.zeroed) value := by
  have hkept : get (scanned msg).result = get GretapOpt.zeroed := by
    apply Folds.get_foldl_of_no_hit (fun s : Parsing => get s.result) fun _ => False
    · exact fun s a _ => hlink s a
    · simp
  rw [← hkept]
  exact get_foldl_lastOf get types value hgre data _

end Result

theorem foldl_parseGreAttr (msg : NlMsg) (data : List GreAttr) :
    data.foldl parseGreAttr (scanned msg).result = msg.optOf data := by
  apply GretapOpt.ext
  · apply get_linkAttrs GretapOpt.ifname <;> simp [nextLink_fields, parseGreAttr_fields]
  · apply get_linkAttrs GretapOpt.master <;> simp [nextLink_fields, parseGreAttr_fields]
  · apply get_greAttrs GretapOpt.localAddr <;> simp [nextLink_fields, parseGreAttr_fields]
  · apply get_greAttrs GretapOpt.remote <;> simp [nextLink_fields, parseGreAttr_fields]
  · apply get_greAttrs GretapOpt.key <;> simp [nextLink_fields, parseGreAttr_fields]
  · apply get_greAttrs GretapOpt.encapType <;> simp [nextLink_fields, parseGreAttr_fields]
  · apply get_greAttrs GretapOpt.encapSport <;> simp [nextLink_fields, parseGreAttr_fields]
  · apply get_greAttrs GretapOpt.encapDport <;> simp [nextLink_fields, parseGreAttr_fields]

/-! ### Payloads that are long enough -/

/-- No getter reads past the end of its payload. -/
structure NlMsg.Sized (msg : NlMsg) (data : List GreAttr) : Prop where
  master : ∀ a ∈ msg.attrs, a.type = IFLA_MASTER → 4 ≤ a.payload.bytes.length
  words : ∀ a ∈ data, a.type ∈ [IFLA_GRE_LOCAL, IFLA_GRE_REMOTE, IFLA_GRE_IKEY, IFLA_GRE_OKEY] →
    4 ≤ a.payload.length
  halves : ∀ a ∈ data,
    a.type ∈ [IFLA_GRE_ENCAP_TYPE, IFLA_GRE_ENCAP_SPORT, IFLA_GRE_ENCAP_DPORT] →
      2 ≤ a.payload.length

/-- The payload starts with the bytes of `x`; where there is none, `x` is zero. -/
def Stored {β : Type} [OfNat β 0] (put : β → List UInt8) (payload : Option (List UInt8)) (x : β) :
    Prop :=
  payload.elim (x = 0) fun bytes => ∃ rest, bytes = put x ++ rest

/-- Every field is what the last attribute of its type says, or zero. -/
structure GretapOpt.Told (opt : GretapOpt) (msg : NlMsg) (data : List GreAttr) : Prop where
  ifname : opt.ifname =
    (lastOf msg.attrs [IFLA_IFNAME]).elim IfName.empty fun name => nlaStrlcpy name.bytes
  master : Stored (fun x : Int32 => bytes32 x.toUInt32)
    ((lastOf msg.attrs [IFLA_MASTER]).map Payload.bytes) opt.master
  localAddr : Stored bytes32 (lastOf data [IFLA_GRE_LOCAL]) opt.localAddr
  remote : Stored bytes32 (lastOf data [IFLA_GRE_REMOTE]) opt.remote
  key : Stored bytes32 (lastOf data [IFLA_GRE_IKEY, IFLA_GRE_OKEY]) opt.key
  encapType : ∃ type : UInt16, opt.encapType = type.toUInt32 ∧
    Stored bytes16 (lastOf data [IFLA_GRE_ENCAP_TYPE]) type
  encapSport : Stored (fun x => bytes16 (htons x)) (lastOf data [IFLA_GRE_ENCAP_SPORT])
    opt.encapSport
  encapDport : Stored (fun x => bytes16 (htons x)) (lastOf data [IFLA_GRE_ENCAP_DPORT])
    opt.encapDport

section Sized

variable {α : Type} {attrs : List (Nla α)} {types : List UInt16} {payload : α} {msg : NlMsg}
  {data : List GreAttr}

theorem mem_of_lastOf (h : lastOf attrs types = some payload) :
    ∃ a ∈ attrs, a.type ∈ types ∧ a.payload = payload := by
  obtain ⟨a, ha, rfl⟩ := Option.map_eq_some_iff.mp h
  rw [List.findRev?_eq_find?_reverse] at ha
  have htype := List.find?_some ha
  exact ⟨a, List.mem_reverse.mp (List.mem_of_find?_eq_some ha), of_decide_eq_true htype, rfl⟩

/-- A field that a getter reads is stored as the payload has it. -/
theorem stored_of_get {β : Type} [OfNat β 0] {put : β → List UInt8} {get : List UInt8 → β}
    {last : Option (List UInt8)}
    (h : ∀ bytes, last = some bytes → ∃ rest, bytes = put (get bytes) ++ rest) :
    Stored put last (last.elim 0 get) := by
  cases hlast : last with
  | none => rfl
  | some bytes => exact h bytes hlast

theorem optOf_told (h : msg.Sized data) : (msg.optOf data).Told msg data := by
  have hword (types : List UInt16) (htypes : ∀ type ∈ types,
      type ∈ [IFLA_GRE_LOCAL, IFLA_GRE_REMOTE, IFLA_GRE_IKEY, IFLA_GRE_OKEY]) :
      Stored bytes32 (lastOf data types) ((lastOf data types).elim 0 nlaGetU32) := by
    refine stored_of_get fun bytes hlast => ?_
    obtain ⟨a, ha, htype, rfl⟩ := mem_of_lastOf hlast
    exact ⟨_, bytes32_nlaGetU32 (h.words a ha (htypes _ htype))⟩
  have hhalf {type : UInt16} {bytes : List UInt8}
      (htype : type ∈ [IFLA_GRE_ENCAP_TYPE, IFLA_GRE_ENCAP_SPORT, IFLA_GRE_ENCAP_DPORT])
      (hlast : lastOf data [type] = some bytes) :
      bytes = bytes16 (nlaGetU16 bytes) ++ bytes.drop 2 := by
    obtain ⟨a, ha, hsame, rfl⟩ := mem_of_lastOf hlast
    rw [List.mem_singleton] at hsame
    exact bytes16_nlaGetU16 (h.halves a ha (hsame ▸ htype))
  refine ⟨rfl, ?_, hword _ (by simp), hword _ (by simp), hword _ (by simp), ?_, ?_, ?_⟩
  · rw [NlMsg.optOf]
    cases hlast : lastOf msg.attrs [IFLA_MASTER] with
    | none => rfl
    | some word =>
        obtain ⟨a, ha, htype, rfl⟩ := mem_of_lastOf hlast
        have hsized := h.master a ha (List.mem_singleton.mp htype)
        exact ⟨_, bytes32_nlaGetU32 hsized⟩
  · refine ⟨(lastOf data [IFLA_GRE_ENCAP_TYPE]).elim 0 nlaGetU16, ?_, ?_⟩
    · rw [NlMsg.optOf]
      cases lastOf data [IFLA_GRE_ENCAP_TYPE] <;> rfl
    · exact stored_of_get fun bytes hlast => ⟨_, hhalf (by simp) hlast⟩
  · refine stored_of_get fun bytes hlast => ⟨bytes.drop 2, ?_⟩
    rw [htons_ntohs]
    exact hhalf (by simp) hlast
  · refine stored_of_get fun bytes hlast => ⟨bytes.drop 2, ?_⟩
    rw [htons_ntohs]
    exact hhalf (by simp) hlast

end Sized

/-- `tunnel_parser` of every message: the three ways it ends, and what it stores
once all payloads are as long as the getters take them to be. -/
theorem tunnelParser_last (msg : NlMsg) (arg : GretapOpt) :
    (msg.ifinfo = none → tunnelParser msg arg = (-NLE_MSG_TOOSHORT, arg)) ∧
    (msg.ifinfo ≠ none →
      ((∃ li ∈ msg.infos, li.type = IFLA_INFO_KIND ∧ li.payload.bytes ≠ gretapKind) ∨
        lastOf msg.infos [IFLA_INFO_DATA] = none) →
      tunnelParser msg arg = (-NLE_MSGTYPE_NOSUPPORT, arg)) ∧
    ∀ data, msg.ifinfo ≠ none →
      (∀ li ∈ msg.infos, li.type = IFLA_INFO_KIND → li.payload.bytes = gretapKind) →
      lastOf msg.infos [IFLA_INFO_DATA] = some data →
      ∃ opt, tunnelParser msg arg = (0, opt) ∧ (msg.Sized data.attrs → opt.Told msg data.attrs) := by
  have hrun := tunnelParser_eq msg arg
  rw [any_badLink, gretapData_scanned] at hrun
  have hbad : msg.infos.any badInfo = true ↔
      ∃ li ∈ msg.infos, li.type = IFLA_INFO_KIND ∧ li.payload.bytes ≠ gretapKind := by
    simp [badInfo, Payload.notGretap]
  refine ⟨fun hshort => ?_, fun hinfo hends => ?_, fun data hinfo hkinds hdata => ?_⟩
  · rw [hrun, hshort]
    rfl
  · rw [hrun, if_neg (by simpa using hinfo)]
    rcases hends with hkind | hnone
    · rw [if_pos (hbad.mpr hkind)]
    · split
      · rfl
      · rw [hnone]
        rfl
  · have hgood : ¬msg.infos.any badInfo = true := by
      rw [hbad]
      rintro ⟨li, hli, htype, hne⟩
      exact hne (hkinds li hli htype)
    refine ⟨msg.optOf data.attrs, ?_, optOf_told⟩
    rw [hrun, if_neg (by simpa using hinfo), if_neg hgood, hdata, ← foldl_parseGreAttr]
    rfl

/-- Of two keys and two kinds of attributes that do not belong there, the last key
counts. -/
theorem tunnelParser_last_key : ∃ opt, tunnelParser
    ⟨RTM_NEWLINK, 0, some ⟨IFF_UP, 0⟩, [⟨IFLA_LINKINFO, .nested
      [⟨98, .data []⟩, ⟨IFLA_INFO_KIND, .data gretapKind⟩, ⟨IFLA_INFO_DATA, .nested
        [⟨IFLA_GRE_IKEY, bytes32 7⟩, ⟨99, []⟩, ⟨IFLA_GRE_OKEY, bytes32 9 ++ [1]⟩]⟩]⟩]⟩
    GretapOpt.zeroed = (0, opt) ∧ opt.key = 9 ∧ opt.remote = 0 := by
  let data : List GreAttr :=
    [⟨IFLA_GRE_IKEY, bytes32 7⟩, ⟨99, []⟩, ⟨IFLA_GRE_OKEY, bytes32 9 ++ [1]⟩]
  let msg : NlMsg := ⟨RTM_NEWLINK, 0, some ⟨IFF_UP, 0⟩, [⟨IFLA_LINKINFO, .nested
    [⟨98, .data []⟩, ⟨IFLA_INFO_KIND, .data gretapKind⟩, ⟨IFLA_INFO_DATA, .nested data⟩]⟩]⟩
  obtain ⟨-, -, hdata⟩ := tunnelParser_last msg GretapOpt.zeroed
  obtain ⟨opt, hrun, htold⟩ := hdata (.nested data) (by decide) (by decide) (by decide)
  have hsized : msg.Sized data := by
    constructor <;> decide
  obtain ⟨rest, hkey⟩ := (htold hsized).key
  refine ⟨opt, hrun, ?_, (htold hsized).remote⟩
  have hfour : bytes32 opt.key = bytes32 9 := congrArg (List.take 4) hkey.symm
  rw [← nlaGetU32_bytes32 opt.key, hfour]
  rfl

end DynamicGre

import DynamicGre.Tunnel.TunnelParser

/-!
The order of the attributes of a link message. Attributes of different types
are stored in different variables, so `tunnel_parser` finds the same in every
order, on each of the three levels. Bytes that a payload lacks read as zero, so
nothing is asked of the sizes.
-/

namespace DynamicGre

/-! ### Attributes in another order -/

/-- The same types with related payloads, in another order. -/
def Shuffled {α : Type} (R : α → α → Prop) (as bs : List (Nla α)) : Prop :=
  ∃ mid : List (Nla α),
    List.Forall₂ (fun a b => a.type = b.type ∧ R a.payload b.payload) as mid ∧ mid.Perm bs

/-- The same bytes, or nests with related contents. -/
inductive Payload.Rel {α : Type} (S : List α → List α → Prop) : Payload α → Payload α → Prop
  | data (bytes : List UInt8) : Rel S (.data bytes) (.data bytes)
  | nested {as bs : List α} : S as bs → Rel S (.nested as) (.nested bs)

/-- The attributes inside `IFLA_LINKINFO`, and inside `IFLA_INFO_DATA`, in
another order. -/
def InfoShuffled : List InfoAttr → List InfoAttr → Prop := Shuffled (Payload.Rel List.Perm)

/-- The message with its attributes in another order on every level. -/
structure NlMsg.Shuffled (msg other : NlMsg) : Prop where
  header : msg.type = other.type ∧ msg.flags = other.flags ∧ msg.ifinfo = other.ifinfo
  attrs : DynamicGre.Shuffled (Payload.Rel InfoShuffled) msg.attrs other.attrs

/-- No two attributes have the same type, and the two keys agree. -/
structure DistinctData (attrs : List GreAttr) : Prop where
  types : (attrs.map Nla.type).Nodup
  keys : ∀ a ∈ attrs, ∀ b ∈ attrs, a.type = IFLA_GRE_IKEY → b.type = IFLA_GRE_OKEY →
    nlaGetU32 a.payload = nlaGetU32 b.payload

/-- No two attributes of a level have the same type. -/
structure NlMsg.Distinct (msg : NlMsg) : Prop where
  types : (msg.attrs.map Nla.type).Nodup
  info : ∀ nla ∈ msg.attrs, nla.type = IFLA_LINKINFO → (nla.payload.attrs.map Nla.type).Nodup
  data : ∀ nla ∈ msg.attrs, nla.type = IFLA_LINKINFO →
    ∀ li ∈ nla.payload.attrs, li.type = IFLA_INFO_DATA → DistinctData li.payload.attrs

section Shuffled

variable {α : Type} {R : α → α → Prop} {as bs : List (Nla α)}

theorem Shuffled.any_eq (h : Shuffled R as bs) {p : Nla α → Bool}
    (hp : ∀ a ∈ as, ∀ b : Nla α, a.type = b.type → R a.payload b.payload → p a = p b) :
    as.any p = bs.any p := by
  obtain ⟨mid, hmid, hperm⟩ := h
  rw [← hperm.any_eq]
  clear hperm
  induction hmid with
  | nil => rfl
  | cons hab _ ih =>
      have hhead := hp _ List.mem_cons_self _ hab.1 hab.2
      have htail := ih fun a ha => hp a (List.mem_cons_of_mem _ ha)
      rw [List.any_cons, List.any_cons, hhead, htail]

/-- A loop whose steps for different types commute ends the same for every
order. -/
theorem foldl_perm_of_types {σ : Type} {f : σ → Nla α → σ} {ms : List (Nla α)}
    (hperm : ms.Perm bs) (hnodup : (ms.map Nla.type).Nodup)
    (hcomm : ∀ a ∈ ms, ∀ b ∈ ms, a.type ≠ b.type → ∀ s, f (f s a) b = f (f s b) a) (s : σ) :
    ms.foldl f s = bs.foldl f s := by
  apply hperm.foldl_eq'
  intro a ha b hb s
  by_cases htype : a.type = b.type
  · rw [List.inj_on_of_nodup_map hnodup ha hb htype]
  · exact hcomm a ha b hb htype s

theorem Shuffled.foldl_rel {σ : Type} {P : σ → σ → Prop} {f : σ → Nla α → σ}
    (h : Shuffled R as bs) (hnodup : (as.map Nla.type).Nodup)
    (hstep : ∀ s t, ∀ a ∈ as, ∀ b : Nla α, a.type = b.type → R a.payload b.payload → P s t →
      P (f s a) (f t b))
    (hcomm : ∀ a b : Nla α, a.type ≠ b.type → ∀ s, f (f s a) b = f (f s b) a) {s t : σ}
    (hstart : P s t) : P (as.foldl f s) (bs.foldl f t) := by
  obtain ⟨mid, hmid, hperm⟩ := h
  have htypes : as.map Nla.type = mid.map Nla.type := by
    clear hperm hnodup hstep
    induction hmid with
    | nil => rfl
    | cons hab _ ih => rw [List.map_cons, List.map_cons, hab.1, ih]
  rw [htypes] at hnodup
  rw [← foldl_perm_of_types hperm hnodup (fun a _ b _ => hcomm a b) t]
  exact Folds.foldl_rel hmid (fun s t a b ha hab => hstep s t a ha b hab.1 hab.2) hstart

end Shuffled

/-! ### The loops of `tunnel_parser` -/

section Payload

variable {α : Type} {S : List α → List α → Prop} {p q : Payload α}

theorem Payload.Rel.bytes_eq (h : Payload.Rel S p q) : p.bytes = q.bytes := by
  cases h <;> rfl

theorem Payload.Rel.attrs (h : Payload.Rel S p q) (hnil : S [] []) : S p.attrs q.attrs := by
  cases h with
  | data => exact hnil
  | nested hrel => exact hrel

end Payload

theorem shuffled_nil {α : Type} (R : α → α → Prop) : Shuffled R [] [] :=
  ⟨[], List.Forall₂.nil, List.Perm.nil⟩

theorem badInfo_eq {a b : InfoAttr} {S : List GreAttr → List GreAttr → Prop}
    (htype : a.type = b.type) (h : Payload.Rel S a.payload b.payload) : badInfo a = badInfo b := by
  rw [badInfo, badInfo, htype, Payload.notGretap, Payload.notGretap, h.bytes_eq]

theorem badLink_eq {a b : LinkAttr} (htype : a.type = b.type)
    (h : Payload.Rel InfoShuffled a.payload b.payload) : badLink a = badLink b := by
  have hinfo : InfoShuffled a.payload.attrs b.payload.attrs := h.attrs (shuffled_nil _)
  rw [badLink, badLink, htype, hinfo.any_eq fun _ _ _ => badInfo_eq]

/-- The gretap attributes that the loops point at, in two orders. -/
def SameData (s t : Option (List GreAttr)) : Prop :=
  Option.Rel (fun as bs => as.Perm bs ∧ DistinctData as) s t

theorem nextInfo_comm (a b : InfoAttr) (h : a.type ≠ b.type) (s : Option (List GreAttr)) :
    nextInfo (nextInfo s a) b = nextInfo (nextInfo s b) a := by
  unfold nextInfo
  by_cases ha : a.type = IFLA_INFO_DATA
  · have hb : ¬b.type = IFLA_INFO_DATA := fun hb => h (ha.trans hb.symm)
    rw [if_neg hb, if_neg hb]
  · rw [if_neg ha, if_neg ha]

theorem foldl_nextInfo_rel {as bs : List InfoAttr} (h : InfoShuffled as bs)
    (hnodup : (as.map Nla.type).Nodup)
    (hdata : ∀ li ∈ as, li.type = IFLA_INFO_DATA → DistinctData li.payload.attrs)
    {s t : Option (List GreAttr)} (hstart : SameData s t) :
    SameData (as.foldl nextInfo s) (bs.foldl nextInfo t) := by
  refine h.foldl_rel hnodup ?_ nextInfo_comm hstart
  intro s t a ha b htype hrel hst
  unfold nextInfo
  rw [← htype]
  split
  · rename_i hinfo
    exact Option.Rel.some ⟨hrel.attrs List.Perm.nil, hdata a ha hinfo⟩
  · exact hst

/-- Each type of attribute goes to a variable of its own. -/
theorem nextLink_comm (a b : LinkAttr) (h : a.type ≠ b.type) (s : Parsing) :
    nextLink (nextLink s a) b = nextLink (nextLink s b) a := by
  unfold nextLink
  grind [IFLA_MASTER, IFLA_IFNAME, IFLA_LINKINFO]

/-- Two states of the first loop with the same result so far. -/
def SameParsing (s t : Parsing) : Prop :=
  s.result = t.result ∧ SameData s.gretapData t.gretapData

theorem scanned_rel {msg other : NlMsg} (h : msg.Shuffled other) (hdistinct : msg.Distinct) :
    SameParsing (scanned msg) (scanned other) := by
  refine h.attrs.foldl_rel hdistinct.types ?_ nextLink_comm ⟨rfl, Option.Rel.none⟩
  rintro s t a ha b htype hrel ⟨hresult, hst⟩
  unfold nextLink
  rw [← htype, ← hrel.bytes_eq]
  split
  · exact ⟨by rw [hresult], hst⟩
  split
  · exact ⟨by rw [hresult], hst⟩
  split
  · rename_i hinfo
    have hinner : InfoShuffled a.payload.attrs b.payload.attrs := hrel.attrs (shuffled_nil _)
    exact ⟨hresult, foldl_nextInfo_rel hinner (hdistinct.info a ha hinfo)
      (hdistinct.data a ha hinfo) hst⟩
  · exact ⟨hresult, hst⟩

/-- The body of the last loop, field by field. -/
theorem parseGreAttr_fields (r : GretapOpt) (a : GreAttr) : parseGreAttr r a =
    { ifname := r.ifname
      master := r.master
      localAddr := if a.type = IFLA_GRE_LOCAL then nlaGetU32 a.payload else r.localAddr
      remote := if a.type = IFLA_GRE_REMOTE then nlaGetU32 a.payload else r.remote
      key := if a.type = IFLA_GRE_IKEY ∨ a.type = IFLA_GRE_OKEY then nlaGetU32 a.payload
        else r.key
      encapType := if a.type = IFLA_GRE_ENCAP_TYPE then (nlaGetU16 a.payload).toUInt32
        else r.encapType
      encapSport := if a.type = IFLA_GRE_ENCAP_SPORT then Bytes.ntohs (nlaGetU16 a.payload)
        else r.encapSport
      encapDport := if a.type = IFLA_GRE_ENCAP_DPORT then Bytes.ntohs (nlaGetU16 a.payload)
        else r.encapDport } := by
  unfold parseGreAttr
  repeat' split
  all_goals simp_all [IFLA_GRE_LOCAL, IFLA_GRE_REMOTE, IFLA_GRE_IKEY, IFLA_GRE_OKEY,
    IFLA_GRE_ENCAP_TYPE, IFLA_GRE_ENCAP_SPORT, IFLA_GRE_ENCAP_DPORT]

/-- Only the two keys share a variable. -/
theorem parseGreAttr_comm {a b : GreAttr} (h : a.type ≠ b.type)
    (hkeys : a.type = IFLA_GRE_IKEY → b.type = IFLA_GRE_OKEY →
      nlaGetU32 a.payload = nlaGetU32 b.payload)
    (hkeys' : b.type = IFLA_GRE_IKEY → a.type = IFLA_GRE_OKEY →
      nlaGetU32 b.payload = nlaGetU32 a.payload) (r : GretapOpt) :
    parseGreAttr (parseGreAttr r a) b = parseGreAttr (parseGreAttr r b) a := by
  have hone (type : UInt16) : b.type = type → ¬a.type = type := by
    rintro rfl
    exact h
  rw [parseGreAttr_fields (parseGreAttr r a), parseGreAttr_fields (parseGreAttr r b),
    parseGreAttr_fields r a, parseGreAttr_fields r b]
  dsimp only
  rw [ite_ite_comm (h := hone IFLA_GRE_LOCAL), ite_ite_comm (h := hone IFLA_GRE_REMOTE),
    ite_ite_comm (h := hone IFLA_GRE_ENCAP_TYPE), ite_ite_comm (h := hone IFLA_GRE_ENCAP_SPORT),
    ite_ite_comm (h := hone IFLA_GRE_ENCAP_DPORT)]
  congr 1
  grind

theorem foldl_parseGreAttr_perm {as bs : List GreAttr} (h : as.Perm bs)
    (hdistinct : DistinctData as) (r : GretapOpt) :
    as.foldl parseGreAttr r = bs.foldl parseGreAttr r := by
  refine foldl_perm_of_types h hdistinct.types ?_ r
  intro a ha b hb htype
  exact parseGreAttr_comm htype (hdistinct.keys a ha b hb) (hdistinct.keys b hb a ha)

/-- `tunnel_parser` does not depend on the order of the attributes, and stores
nothing when it fails. -/
theorem tunnelParser_shuffled {msg other : NlMsg} (h : msg.Shuffled other)
    (hdistinct : msg.Distinct) (arg : GretapOpt) :
    tunnelParser msg arg = tunnelParser other arg ∧
      ((tunnelParser msg arg).1 < 0 → (tunnelParser msg arg).2 = arg) := by
  refine ⟨?_, tunnelParser_arg⟩
  obtain ⟨hresult, hdata⟩ := scanned_rel h hdistinct
  have hbad : msg.attrs.any badLink = other.attrs.any badLink :=
    h.attrs.any_eq fun _ _ _ => badLink_eq
  rw [tunnelParser_eq, tunnelParser_eq, h.header.2.2, hbad, hresult]
  generalize (scanned msg).gretapData = s at hdata
  generalize (scanned other).gretapData = t at hdata
  cases hdata with
  | none => rfl
  | some hpair =>
      dsimp only
      rw [foldl_parseGreAttr_perm hpair.1 hpair.2]

/-- Gretap attributes with a key of 1 and one of an unknown type. -/
def keyedData : List GreAttr :=
  [⟨97, []⟩, ⟨IFLA_GRE_IKEY, [0, 0, 0, 1]⟩, ⟨IFLA_GRE_OKEY, [0, 0, 0, 1]⟩,
    ⟨IFLA_GRE_REMOTE, [192, 168, 2, 1]⟩]

def infoAround (data : List GreAttr) : List InfoAttr :=
  [⟨98, .data []⟩, ⟨IFLA_INFO_KIND, .data gretapKind⟩, ⟨IFLA_INFO_DATA, .nested data⟩]

def attrsAround (info : List InfoAttr) : List LinkAttr :=
  [⟨99, .data [1]⟩, ⟨IFLA_MASTER, .data [3, 0, 0, 0]⟩, ⟨IFLA_LINKINFO, .nested info⟩]

def messageOf (attrs : List LinkAttr) : NlMsg := ⟨RTM_NEWLINK, 0, some ⟨IFF_UP, 0⟩, attrs⟩

theorem messageOf_distinct :
    (messageOf (attrsAround (infoAround keyedData))).Distinct where
  types := by decide
  info := by decide
  data := by
    have honly : ∀ nla ∈ attrsAround (infoAround keyedData), nla.type = IFLA_LINKINFO →
        ∀ li ∈ nla.payload.attrs, li.type = IFLA_INFO_DATA → li.payload.attrs = keyedData := by
      decide
    intro nla hnla hinfo li hli hdata
    rw [honly nla hnla hinfo li hli hdata]
    exact ⟨by decide, by decide⟩

/-- Each level of a message turned round. -/
theorem tunnelParser_shuffled_reversed :
    tunnelParser (messageOf (attrsAround (infoAround keyedData))) GretapOpt.zeroed =
      tunnelParser (messageOf (attrsAround (infoAround keyedData.reverse).reverse).reverse)
        GretapOpt.zeroed := by
  have hdata : keyedData.Perm keyedData.reverse := (List.reverse_perm _).symm
  have hinfo : InfoShuffled (infoAround keyedData) (infoAround keyedData.reverse).reverse :=
    ⟨infoAround keyedData.reverse,
      .cons ⟨rfl, .data _⟩ (.cons ⟨rfl, .data _⟩ (.cons ⟨rfl, .nested hdata⟩ .nil)),
      (List.reverse_perm _).symm⟩
  have hattrs : Shuffled (Payload.Rel InfoShuffled) (attrsAround (infoAround keyedData))
      (attrsAround (infoAround keyedData.reverse).reverse).reverse :=
    ⟨attrsAround (infoAround keyedData.reverse).reverse,
      .cons ⟨rfl, .data _⟩ (.cons ⟨rfl, .data _⟩ (.cons ⟨rfl, .nested hinfo⟩ .nil)),
      (List.reverse_perm _).symm⟩
  have hmsg : (messageOf (attrsAround (infoAround keyedData))).Shuffled
      (messageOf (attrsAround (infoAround keyedData.reverse).reverse).reverse) :=
    ⟨⟨rfl, rfl, rfl⟩, hattrs⟩
  exact (tunnelParser_shuffled hmsg messageOf_distinct GretapOpt.zeroed).1

end DynamicGre

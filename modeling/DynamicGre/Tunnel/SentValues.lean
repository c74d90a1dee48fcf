import DynamicGre.Tunnel.CreateTunnel

/-!
The values that the message of `create_tunnel` gives for each attribute. What
the function leaves out reads as zero.
-/

namespace DynamicGre

open Bytes

/-- The value the attributes give for a type; an omitted one means `absent`. -/
def valueOf {α : Type} (attrs : List (Nla α)) (type : UInt16) (absent : α) : α :=
  ((attrs.find? (·.type = type)).map (·.payload)).getD absent

/-- The nests of a message, or none. -/
def linkInfo (msg : NlMsg) : List InfoAttr :=
  (valueOf msg.attrs IFLA_LINKINFO (.nested [])).attrs

def infoData (msg : NlMsg) : List GreAttr :=
  (valueOf (linkInfo msg) IFLA_INFO_DATA (.nested [])).attrs

section Values

variable {α : Type} (opt : GretapOpt)

theorem valueOf_append_of_ne {attrs : List (Nla α)} {type : UInt16}
    (h : ∀ a ∈ attrs, a.type ≠ type) (rest : List (Nla α)) (absent : α) :
    valueOf (attrs ++ rest) type absent = valueOf rest type absent := by
  have hnone : attrs.find? (·.type = type) = none := by
    apply List.find?_eq_none.mpr
    intro a ha htype
    exact h a ha (of_decide_eq_true htype)
  rw [valueOf, List.find?_append, hnone, Option.none_or, valueOf]

theorem valueOf_whenSet (p : Prop) [Decidable p] (type : UInt16) (payload absent : α)
    (rest : List (Nla α)) :
    valueOf (whenSet p type payload ++ rest) type absent =
      if p then payload else valueOf rest type absent := by
  unfold valueOf whenSet
  split <;> simp

theorem valueOf_of_ne {attrs : List (Nla α)} {type : UInt16} (h : ∀ a ∈ attrs, a.type ≠ type)
    (absent : α) : valueOf attrs type absent = absent := by
  have hnil := valueOf_append_of_ne h [] absent
  rw [List.append_nil] at hnil
  exact hnil

theorem type_of_mem_whenSet {p : Prop} [Decidable p] {type : UInt16} {payload : α} {a : Nla α}
    (h : a ∈ whenSet p type payload) : a.type = type := by
  unfold whenSet at h
  split at h
  · rw [List.mem_singleton.mp h]
  · cases h

theorem type_of_mem_keyAttrs {a : GreAttr} (h : a ∈ keyAttrs opt) :
    a.type ∈ [IFLA_GRE_IKEY, IFLA_GRE_OKEY] := by
  unfold keyAttrs at h
  split at h
  · rcases List.mem_cons.mp h with rfl | h
    · exact List.mem_cons_self
    · rw [List.mem_singleton.mp h]
      exact List.mem_cons_of_mem _ List.mem_cons_self
  · cases h

theorem type_of_mem_encapAttrs {a : GreAttr} (h : a ∈ encapAttrs opt) :
    a.type ∈ [IFLA_GRE_ENCAP_TYPE, IFLA_GRE_ENCAP_SPORT, IFLA_GRE_ENCAP_DPORT] := by
  unfold encapAttrs at h
  split at h
  · rcases List.mem_cons.mp h with rfl | h
    · exact List.mem_cons_self
    · rcases List.mem_append.mp h with h | h <;> rw [type_of_mem_whenSet h] <;> simp
  · cases h

/-- Attributes of other types do not stand for this one. -/
theorem ne_of_types {attrs : List GreAttr} {types : List UInt16} {type : UInt16}
    (hmem : ∀ a ∈ attrs, a.type ∈ types) (h : type ∉ types) : ∀ a ∈ attrs, a.type ≠ type := by
  intro a ha htype
  exact h (htype ▸ hmem a ha)

theorem ne_of_whenSet {p : Prop} [Decidable p] {type type' : UInt16} (h : type ≠ type')
    (payload : α) : ∀ a ∈ whenSet p type payload, a.type ≠ type' := by
  intro a ha
  rw [type_of_mem_whenSet ha]
  exact h

/-- The flags end the list; no value the parser reads stands there. -/
theorem valueOf_flags {type : UInt16} (h : type ∉ [IFLA_GRE_IFLAGS, IFLA_GRE_OFLAGS])
    (iflags oflags absent : List UInt8) :
    valueOf [⟨IFLA_GRE_IFLAGS, iflags⟩, ⟨IFLA_GRE_OFLAGS, oflags⟩] type absent = absent := by
  apply valueOf_of_ne
  apply ne_of_types _ h
  intro a ha
  exact List.mem_map_of_mem (f := fun a : GreAttr => a.type) ha

theorem valueOf_local : valueOf (greAttrs opt) IFLA_GRE_LOCAL (bytes32 0) =
    bytes32 opt.localAddr := by
  rw [greAttrs, valueOf_whenSet]
  split
  · rfl
  · rename_i hzero
    rw [valueOf_append_of_ne (ne_of_whenSet (by decide) _),
      valueOf_append_of_ne (ne_of_types (fun _ => type_of_mem_keyAttrs opt) (by decide)),
      valueOf_append_of_ne (ne_of_types (fun _ => type_of_mem_encapAttrs opt) (by decide)),
      valueOf_flags (by decide), not_not.mp hzero]

theorem valueOf_remote : valueOf (greAttrs opt) IFLA_GRE_REMOTE (bytes32 0) =
    bytes32 opt.remote := by
  rw [greAttrs, valueOf_append_of_ne (ne_of_whenSet (by decide) _), valueOf_whenSet]
  split
  · rfl
  · rename_i hzero
    rw [valueOf_append_of_ne (ne_of_types (fun _ => type_of_mem_keyAttrs opt) (by decide)),
      valueOf_append_of_ne (ne_of_types (fun _ => type_of_mem_encapAttrs opt) (by decide)),
      valueOf_flags (by decide), not_not.mp hzero]

/-- The addresses come first. -/
theorem valueOf_greAttrs {type : UInt16} (h : type ∉ [IFLA_GRE_LOCAL, IFLA_GRE_REMOTE])
    (absent : List UInt8) : valueOf (greAttrs opt) type absent =
      valueOf (keyAttrs opt ++ (encapAttrs opt ++
        [⟨IFLA_GRE_IFLAGS, bytes16 (greFlagsOf opt)⟩,
          ⟨IFLA_GRE_OFLAGS, bytes16 (greFlagsOf opt)⟩])) type absent := by
  have hlocal : IFLA_GRE_LOCAL ≠ type := fun heq => h (heq ▸ List.mem_cons_self)
  have hremote : IFLA_GRE_REMOTE ≠ type :=
    fun heq => h (heq ▸ List.mem_cons_of_mem _ List.mem_cons_self)
  rw [greAttrs, valueOf_append_of_ne (ne_of_whenSet hlocal _),
    valueOf_append_of_ne (ne_of_whenSet hremote _)]

/-- The addresses and the keys come before the encapsulation. -/
theorem valueOf_greAttrs_encap {type : UInt16} (h : type ∉ [IFLA_GRE_LOCAL, IFLA_GRE_REMOTE])
    (hkey : type ∉ [IFLA_GRE_IKEY, IFLA_GRE_OKEY]) (absent : List UInt8) :
    valueOf (greAttrs opt) type absent = valueOf (encapAttrs opt ++
      [⟨IFLA_GRE_IFLAGS, bytes16 (greFlagsOf opt)⟩,
        ⟨IFLA_GRE_OFLAGS, bytes16 (greFlagsOf opt)⟩]) type absent := by
  rw [valueOf_greAttrs opt h,
    valueOf_append_of_ne (ne_of_types (fun _ => type_of_mem_keyAttrs opt) hkey)]

/-- Both keys are the same, and a key of zero means the same as none. -/
theorem valueOf_key {type : UInt16} (htype : type = IFLA_GRE_IKEY ∨ type = IFLA_GRE_OKEY) :
    valueOf (greAttrs opt) type (bytes32 0) = bytes32 (htonl opt.key) := by
  rw [valueOf_greAttrs opt (by rcases htype with rfl | rfl <;> decide)]
  by_cases hkey : opt.key = 0
  · have hrest : keyAttrs opt = [] := if_neg (not_not.mpr hkey)
    have hencap : ∀ a ∈ encapAttrs opt, a.type ≠ type :=
      ne_of_types (fun _ => type_of_mem_encapAttrs opt) (by rcases htype with rfl | rfl <;> decide)
    rw [hrest, List.nil_append, valueOf_append_of_ne hencap,
      valueOf_flags (by rcases htype with rfl | rfl <;> decide), hkey]
    rfl
  · rw [keyAttrs, if_pos hkey]
    rcases htype with rfl | rfl <;> rfl

/-- Without an encapsulation nothing is sent about it. -/
theorem valueOf_encap_none {type : UInt16} (hencap : opt.encapType = TUNNEL_ENCAP_NONE)
    (h : type ∉ [IFLA_GRE_IFLAGS, IFLA_GRE_OFLAGS]) (iflags oflags absent : List UInt8) :
    valueOf (encapAttrs opt ++ [⟨IFLA_GRE_IFLAGS, iflags⟩, ⟨IFLA_GRE_OFLAGS, oflags⟩]) type
      absent = absent := by
  rw [encapAttrs, if_neg (not_not.mpr hencap), List.nil_append, valueOf_flags h]

/-- With one, its type comes before the ports. -/
theorem valueOf_encap_ports {type : UInt16} (hencap : ¬opt.encapType = TUNNEL_ENCAP_NONE)
    (h : IFLA_GRE_ENCAP_TYPE ≠ type) (rest : List GreAttr) (absent : List UInt8) :
    valueOf (encapAttrs opt ++ rest) type absent =
      valueOf (whenSet (opt.encapSport ≠ 0) IFLA_GRE_ENCAP_SPORT (bytes16 (htons opt.encapSport)) ++
        (whenSet (opt.encapDport ≠ 0) IFLA_GRE_ENCAP_DPORT (bytes16 (htons opt.encapDport)) ++
          rest)) type absent := by
  rw [encapAttrs, if_pos hencap, List.cons_append, ← List.singleton_append,
    valueOf_append_of_ne (by simpa using h), List.append_assoc]

theorem valueOf_encapType : valueOf (greAttrs opt) IFLA_GRE_ENCAP_TYPE (bytes16 0) =
    bytes16 opt.encapType.toUInt16 := by
  rw [valueOf_greAttrs_encap opt (by decide) (by decide)]
  by_cases hencap : opt.encapType = TUNNEL_ENCAP_NONE
  · rw [valueOf_encap_none opt hencap (by decide), hencap]
    rfl
  · rw [encapAttrs, if_pos hencap]
    rfl

/-- The ports are only sent for an encapsulated tunnel. -/
def sentPort (port : UInt16) : UInt16 :=
  if opt.encapType ≠ TUNNEL_ENCAP_NONE then port else 0

theorem valueOf_encapSport : valueOf (greAttrs opt) IFLA_GRE_ENCAP_SPORT (bytes16 0) =
    bytes16 (htons (sentPort opt opt.encapSport)) := by
  rw [valueOf_greAttrs_encap opt (by decide) (by decide), sentPort]
  by_cases hencap : opt.encapType = TUNNEL_ENCAP_NONE
  · rw [valueOf_encap_none opt hencap (by decide), if_neg (not_not.mpr hencap)]
    rfl
  · rw [valueOf_encap_ports opt hencap (by decide), if_pos hencap, valueOf_whenSet]
    split
    · rfl
    · rename_i hzero
      rw [valueOf_append_of_ne (ne_of_whenSet (by decide) _), valueOf_flags (by decide),
        not_not.mp hzero]
      rfl

theorem valueOf_encapDport : valueOf (greAttrs opt) IFLA_GRE_ENCAP_DPORT (bytes16 0) =
    bytes16 (htons (sentPort opt opt.encapDport)) := by
  rw [valueOf_greAttrs_encap opt (by decide) (by decide), sentPort]
  by_cases hencap : opt.encapType = TUNNEL_ENCAP_NONE
  · rw [valueOf_encap_none opt hencap (by decide), if_neg (not_not.mpr hencap)]
    rfl
  · rw [valueOf_encap_ports opt hencap (by decide), if_pos hencap,
      valueOf_append_of_ne (ne_of_whenSet (by decide) _), valueOf_whenSet]
    split
    · rfl
    · rename_i hzero
      rw [valueOf_flags (by decide), not_not.mp hzero]
      rfl

/-- The flags of both directions are the same, and always sent. -/
theorem valueOf_greFlags {type : UInt16} (htype : type = IFLA_GRE_IFLAGS ∨ type = IFLA_GRE_OFLAGS) :
    valueOf (greAttrs opt) type (bytes16 0) = bytes16 (greFlagsOf opt) := by
  have hencap : ∀ a ∈ encapAttrs opt, a.type ≠ type :=
    ne_of_types (fun _ => type_of_mem_encapAttrs opt) (by rcases htype with rfl | rfl <;> decide)
  rw [valueOf_greAttrs_encap opt (by rcases htype with rfl | rfl <;> decide)
    (by rcases htype with rfl | rfl <;> decide), valueOf_append_of_ne hencap]
  rcases htype with rfl | rfl <;> rfl

theorem valueOf_master :
    valueOf (tunnelMsg opt).attrs IFLA_MASTER (.data (bytes32 0)) =
      .data (bytes32 opt.master.toUInt32) := by
  rw [tunnelMsg, ← List.singleton_append, valueOf_append_of_ne (by simp; decide),
    valueOf_whenSet]
  split
  · rfl
  · rename_i hzero
    rw [not_not.mp hzero]
    rfl

theorem linkInfo_tunnelMsg : linkInfo (tunnelMsg opt) = infoAttrs opt := by
  rw [linkInfo, tunnelMsg, ← List.singleton_append, valueOf_append_of_ne (by simp; decide),
    valueOf_append_of_ne (ne_of_whenSet (by decide) _)]
  rfl

theorem infoData_tunnelMsg : infoData (tunnelMsg opt) = greAttrs opt := by
  rw [infoData, linkInfo_tunnelMsg]
  rfl

/-- Every attribute is sent once. -/
theorem types_greAttrs : ((greAttrs opt).map (·.type)).Nodup := by
  have hwhen (p : Prop) [Decidable p] (type : UInt16) (payload : List UInt8) :
      ((whenSet p type payload).map (·.type)).Sublist [type] := by
    unfold whenSet
    split <;> simp
  have hkeys : ((keyAttrs opt).map (·.type)).Sublist [IFLA_GRE_IKEY, IFLA_GRE_OKEY] := by
    unfold keyAttrs
    split <;> simp
  have hencap : ((encapAttrs opt).map (·.type)).Sublist
      ([IFLA_GRE_ENCAP_TYPE] ++ ([IFLA_GRE_ENCAP_SPORT] ++ [IFLA_GRE_ENCAP_DPORT])) := by
    unfold encapAttrs
    split
    · rw [List.map_cons, List.map_append]
      exact ((hwhen _ _ _).append (hwhen _ _ _)).cons_cons _
    · exact List.nil_sublist _
  have hall : ((greAttrs opt).map (·.type)).Sublist
      ([IFLA_GRE_LOCAL] ++ ([IFLA_GRE_REMOTE] ++ ([IFLA_GRE_IKEY, IFLA_GRE_OKEY] ++
        (([IFLA_GRE_ENCAP_TYPE] ++ ([IFLA_GRE_ENCAP_SPORT] ++ [IFLA_GRE_ENCAP_DPORT])) ++
          [IFLA_GRE_IFLAGS, IFLA_GRE_OFLAGS])))) := by
    simp only [greAttrs, List.map_append]
    exact (hwhen _ _ _).append ((hwhen _ _ _).append (hkeys.append
      (hencap.append (List.Sublist.refl _))))
  exact List.Nodup.sublist hall (by decide)

end Values

end DynamicGre

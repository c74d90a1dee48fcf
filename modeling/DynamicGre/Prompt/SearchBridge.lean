import DynamicGre.Folds
import DynamicGre.Prompt.Token

/-!
`search_bridge`, which both daemons hold: the bridge that the command line
names, or that the user names at the prompt by its interface index or its name.
-/

namespace DynamicGre

/-- A link of the cache, as far as `search_bridge` looks at it. -/
structure RtnlLink where
  name : Option (List UInt8)
  ifindex : Int
  bridge : Bool
deriving DecidableEq

/-- The links that `rtnl_link_alloc_cache` lists. -/
structure LinkCache where
  links : List RtnlLink
  names : ∀ a ∈ links, ∀ b ∈ links, a.name = b.name → a.name ≠ none → a = b
  indexes : (links.map RtnlLink.ifindex).Nodup
  range : ∀ link ∈ links, 0 < link.ifindex ∧ link.ifindex < 2 ^ 31

/-- The body of the loop that lists the bridges. -/
def matchHint (hint : Option (List UInt8)) (ret : Int) (cur : RtnlLink) : Int :=
  if ¬cur.bridge then ret
  else
    match cur.name with
    | none => ret
    | some linkname =>
        match hint with
        | some hint => if linkname = hint then cur.ifindex else ret
        | none => ret

/-- The body of the loop for a number. -/
def matchIndex (id : Nat) (ret : Int) (cur : RtnlLink) : Int :=
  if ¬cur.bridge then ret
  else if asUnsigned cur.ifindex = id then asInt id
  else ret

/-- The body of the loop for a name. -/
def matchName (buf : List UInt8) (ret : Int) (cur : RtnlLink) : Int :=
  if ¬cur.bridge then ret
  else
    match cur.name with
    | none => ret
    | some linkname => if linkname = buf then cur.ifindex else ret

def readBridge (links : List RtnlLink) (buf : List UInt8) (ret : Int) : Int :=
  match readNumber buf with
  | some id => links.foldl (matchIndex id) ret
  | none => links.foldl (matchName buf) ret

/-- The prompt, which is repeated while `ret == 0`. -/
def promptBridge (links : List RtnlLink) (ret : Int) : List Token → Int
  | [] => if ret = 0 then -1 else ret
  | tok :: tokens =>
      if ret = 0 then promptBridge links (readBridge links tok.chars ret) tokens else ret

/-- `search_bridge`; there is no cache when it cannot be allocated. -/
def searchBridge (cache : Option LinkCache) (hint : Option (List UInt8)) (tokens : List Token) :
    Int :=
  match cache with
  | none => -1
  | some cache =>
      let ret := cache.links.foldl (matchHint hint) 0
      if hint.isSome ∧ ret = 0 then -1 else promptBridge cache.links ret tokens

/-! ### Which bridge is meant -/

namespace LinkCache

variable (cache : LinkCache)

def named (name : List UInt8) : Option RtnlLink :=
  cache.links.find? fun cur => cur.bridge && cur.name = some name

/-- The bridge that a word denotes: a numeral by the index, any other word by
the name. -/
def denoted (tok : Token) : Option RtnlLink :=
  match numeral tok.chars with
  | some v => cache.links.find? fun cur => cur.bridge && cur.ifindex = v
  | none => cache.named tok.chars

/-- The bridge that a word denotes when numerals count modulo the width of
`unsigned`. -/
def wrapped (tok : Token) : Option RtnlLink :=
  match numeral tok.chars with
  | some v => cache.links.find? fun cur => cur.bridge && (v - cur.ifindex) % 2 ^ 32 = 0
  | none => cache.named tok.chars

/-- What `search_bridge` is for. -/
def selected (hint : Option (List UInt8)) (tokens : List Token) : Int :=
  match hint with
  | some hint => (cache.named hint).elim (-1) RtnlLink.ifindex
  | none => (tokens.findSome? cache.denoted).elim (-1) RtnlLink.ifindex

end LinkCache

/-! ### The loops -/

section Loops

variable {cache : LinkCache}

theorem LinkCache.eq_of_ifindex {a b : RtnlLink} (ha : a ∈ cache.links) (hb : b ∈ cache.links)
    (h : a.ifindex = b.ifindex) : a = b :=
  List.inj_on_of_nodup_map cache.indexes ha hb h

/-- The range of the indexes leaves one link for each remainder. -/
theorem LinkCache.eq_of_wraps {v : Int} {a b : RtnlLink} (ha : a ∈ cache.links)
    (hb : b ∈ cache.links) (hsamea : (v - a.ifindex) % 2 ^ 32 = 0)
    (hsameb : (v - b.ifindex) % 2 ^ 32 = 0) : a = b := by
  have hrangea := cache.range a ha
  have hrangeb := cache.range b hb
  exact LinkCache.eq_of_ifindex ha hb (by omega)

/-- A list of names without repetitions has one link of a name. -/
theorem foldl_matchName (name : List UInt8) :
    cache.links.foldl (matchName name) 0 = (cache.named name).elim 0 RtnlLink.ifindex := by
  have hstep : matchName name = fun ret (cur : RtnlLink) =>
      if (cur.bridge && cur.name = some name : Bool) then cur.ifindex else ret := by
    funext ret cur
    unfold matchName
    cases cur.bridge <;> cases cur.name <;> simp
  rw [hstep]
  apply Folds.foldl_eq_find?
  intro a ha b hb hpa hpb
  have hnamea : a.name = some name := of_decide_eq_true (Bool.and_eq_true_iff.mp hpa).2
  have hnameb : b.name = some name := of_decide_eq_true (Bool.and_eq_true_iff.mp hpb).2
  have hne : a.name ≠ none := by
    rw [hnamea]
    exact Option.some_ne_none _
  exact cache.names a ha b hb (hnamea.trans hnameb.symm) hne

theorem foldl_matchHint (hint : List UInt8) : cache.links.foldl (matchHint (some hint)) 0 =
    (cache.named hint).elim 0 RtnlLink.ifindex := foldl_matchName hint

theorem foldl_matchHint_none (links : List RtnlLink) (ret : Int) :
    links.foldl (matchHint none) ret = ret := by
  refine Folds.get_foldl_of_no_hit id (fun _ => False) ?_ (fun _ _ => not_false) ret
  intro ret cur _
  unfold matchHint
  cases cur.bridge <;> cases cur.name <;> rfl

/-- The loop for a number finds the bridge whose index has the same low bits. -/
theorem foldl_matchIndex (v : Int) : cache.links.foldl (matchIndex (asUnsigned v)) 0 =
    (cache.links.find? fun cur => cur.bridge && (v - cur.ifindex) % 2 ^ 32 = 0).elim 0
      RtnlLink.ifindex := by
  have hindex {cur : RtnlLink} (hcur : cur ∈ cache.links) :
      asInt (asUnsigned cur.ifindex) = cur.ifindex := by
    obtain ⟨hlow, hhigh⟩ := cache.range cur hcur
    exact asInt_asUnsigned hlow.le hhigh
  have hstep : cache.links.foldl (matchIndex (asUnsigned v)) 0 = cache.links.foldl
      (fun ret cur => if (cur.bridge && (v - cur.ifindex) % 2 ^ 32 = 0 : Bool) then cur.ifindex
        else ret) 0 := by
    apply List.foldl_ext
    intro ret cur hcur
    unfold matchIndex
    cases cur.bridge with
    | false => rfl
    | true =>
        by_cases hsame : (v - cur.ifindex) % 2 ^ 32 = 0
        · have hid := asUnsigned_eq_iff.mpr hsame
          have hhit : (true && decide ((v - cur.ifindex) % 2 ^ 32 = 0)) = true :=
            decide_eq_true hsame
          rw [if_neg (not_not.mpr rfl), if_pos hid, if_pos hhit, ← hid, hindex hcur]
        · have hid := mt asUnsigned_eq_iff.mp hsame
          have hmiss : ¬(true && decide ((v - cur.ifindex) % 2 ^ 32 = 0)) = true :=
            fun h => hsame (of_decide_eq_true h)
          rw [if_neg (not_not.mpr rfl), if_neg hid, if_neg hmiss]
  rw [hstep]
  apply Folds.foldl_eq_find?
  intro a ha b hb hpa hpb
  have hsamea : (v - a.ifindex) % 2 ^ 32 = 0 := of_decide_eq_true (Bool.and_eq_true_iff.mp hpa).2
  have hsameb : (v - b.ifindex) % 2 ^ 32 = 0 := of_decide_eq_true (Bool.and_eq_true_iff.mp hpb).2
  exact LinkCache.eq_of_wraps ha hb hsamea hsameb

theorem readBridge_token (tok : Token) :
    readBridge cache.links tok.chars 0 = (cache.wrapped tok).elim 0 RtnlLink.ifindex := by
  unfold readBridge LinkCache.wrapped
  rw [readNumber_token]
  cases numeral tok.chars with
  | none => exact foldl_matchName tok.chars
  | some v => exact foldl_matchIndex v

theorem LinkCache.mem_of_named {name : List UInt8} {link : RtnlLink}
    (h : cache.named name = some link) : link ∈ cache.links := List.mem_of_find?_eq_some h

theorem LinkCache.mem_of_wrapped {tok : Token} {link : RtnlLink}
    (h : cache.wrapped tok = some link) : link ∈ cache.links := by
  unfold LinkCache.wrapped at h
  split at h
  · exact List.mem_of_find?_eq_some h
  · exact cache.mem_of_named h

/-- A word that denotes a bridge is read as that bridge. -/
theorem LinkCache.wrapped_of_denoted (tok : Token) (link : RtnlLink)
    (h : cache.denoted tok = some link) : cache.wrapped tok = some link := by
  unfold LinkCache.denoted at h
  unfold LinkCache.wrapped
  cases hnum : numeral tok.chars with
  | none =>
      rw [hnum] at h
      exact h
  | some v =>
      rw [hnum] at h
      dsimp only at h ⊢
      have hlink := List.mem_of_find?_eq_some h
      have hhit := List.find?_some h
      obtain ⟨hbridge, hv⟩ := Bool.and_eq_true_iff.mp hhit
      have hindex : link.ifindex = v := of_decide_eq_true hv
      cases hfind : cache.links.find? fun cur =>
          cur.bridge && (v - cur.ifindex) % 2 ^ 32 = 0 with
      | none =>
          have hnone := List.find?_eq_none.mp hfind link hlink
          simp [hbridge, hindex] at hnone
      | some other =>
          have hother := List.mem_of_find?_eq_some hfind
          have hhit' := List.find?_some hfind
          have hsame : (v - other.ifindex) % 2 ^ 32 = 0 :=
            of_decide_eq_true (Bool.and_eq_true_iff.mp hhit').2
          have hself : (v - link.ifindex) % 2 ^ 32 = 0 := by rw [hindex, Int.sub_self]; rfl
          exact congrArg some (LinkCache.eq_of_wraps hother hlink hsame hself)

/-- The prompt ends with the first word that is read as a bridge, or with the
input. -/
theorem promptBridge_eq (tokens : List Token) : promptBridge cache.links 0 tokens =
    (tokens.findSome? cache.wrapped).elim (-1) RtnlLink.ifindex := by
  induction tokens with
  | nil => rfl
  | cons tok tokens ih =>
      rw [promptBridge, if_pos rfl, readBridge_token, List.findSome?_cons]
      cases hread : cache.wrapped tok with
      | none => exact ih
      | some link =>
          have hpos := (cache.range link (cache.mem_of_wrapped hread)).1
          have hne : ¬link.ifindex = 0 := hpos.ne'
          cases tokens <;> exact if_neg hne

/-- The result tells the bridge. -/
theorem LinkCache.elim_ifindex_inj {a b : Option RtnlLink} (ha : ∀ link ∈ a, link ∈ cache.links)
    (hb : ∀ link ∈ b, link ∈ cache.links) :
    a.elim (-1) RtnlLink.ifindex = b.elim (-1) RtnlLink.ifindex ↔ a = b := by
  constructor
  · intro h
    cases a with
    | none =>
        cases b with
        | none => rfl
        | some y =>
            have hpos := (cache.range y (hb y rfl)).1
            have hneg : -1 = y.ifindex := h
            omega
    | some x =>
        have hpos := (cache.range x (ha x rfl)).1
        cases b with
        | none =>
            have hneg : x.ifindex = -1 := h
            omega
        | some y => exact congrArg some (LinkCache.eq_of_ifindex (ha x rfl) (hb y rfl) h)
  · intro h
    rw [h]

end Loops

/-- `search_bridge` selects the bridge that was meant if and only if it has a
hint, or the first word that is read as a bridge denotes that bridge, or else
the next word that denotes one denotes the same. -/
theorem searchBridge_iff (cache : LinkCache) (hint : Option (List UInt8)) (tokens : List Token) :
    searchBridge (some cache) hint tokens = cache.selected hint tokens ↔
      hint.isSome = true ∨
        FirstMatch.Faithful cache.wrapped cache.denoted id tokens := by
  cases hint with
  | some hint =>
      refine iff_of_true ?_ (Or.inl rfl)
      unfold searchBridge LinkCache.selected
      dsimp only
      rw [foldl_matchHint]
      cases hnamed : cache.named hint with
      | none => rfl
      | some link =>
          have hpos := (cache.range link (cache.mem_of_named hnamed)).1
          have hne : ¬link.ifindex = 0 := hpos.ne'
          rw [Option.elim_some, Option.elim_some, if_neg fun h => hne h.2]
          cases tokens <;> exact if_neg hne
  | none =>
      have hrun : searchBridge (some cache) none tokens =
          (tokens.findSome? cache.wrapped).elim (-1) RtnlLink.ifindex := by
        unfold searchBridge
        dsimp only
        rw [foldl_matchHint_none, if_neg (by simp), promptBridge_eq]
      have hwrapped : ∀ link ∈ tokens.findSome? cache.wrapped, link ∈ cache.links := by
        intro link hlink
        obtain ⟨tok, -, htok⟩ := List.exists_of_findSome?_eq_some hlink
        exact cache.mem_of_wrapped htok
      have hdenoted : ∀ link ∈ tokens.findSome? cache.denoted, link ∈ cache.links := by
        intro link hlink
        obtain ⟨tok, -, htok⟩ := List.exists_of_findSome?_eq_some hlink
        exact cache.mem_of_wrapped (cache.wrapped_of_denoted tok link htok)
      have hmiss : ∀ tok, cache.wrapped tok = none → cache.denoted tok = none := by
        intro tok htok
        by_contra hne
        obtain ⟨link, hlink⟩ := Option.ne_none_iff_exists'.mp hne
        rw [cache.wrapped_of_denoted tok link hlink] at htok
        cases htok
      rw [hrun, LinkCache.selected, LinkCache.elim_ifindex_inj hwrapped hdenoted,
        FirstMatch.findSome?_eq_iff hmiss]
      simp

/-- One bridge, `br0`, with the index 3. -/
def oneBridge : LinkCache where
  links := [⟨some (['b', 'r', '0'].map (·.toUInt8)), 3, true⟩]
  names := by decide
  indexes := by decide
  range := by decide

/-- The numeral 4294967299, which is 3 more than `2 ^ 32`. -/
def wideToken : Token where
  chars := ['4', '2', '9', '4', '9', '6', '7', '2', '9', '9'].map (·.toUInt8)
  nonempty := by decide
  short := by decide
  noSpace := by decide
  nulFree := by decide

/-- A number that is no index selects a bridge. -/
theorem searchBridge_wideToken : searchBridge (some oneBridge) none [wideToken] = 3 ∧
    oneBridge.selected none [wideToken] = -1 := by
  constructor
  · decide
  · decide

end DynamicGre

import DynamicGre.Folds
import DynamicGre.Prompt.Token
import DynamicGre.Tunnel.GretapOpt

/-!
`search_interface`, which both daemons hold: the capture device that the
command line names, or that the user names at the prompt by its number in the
list or its name. The name is copied into a buffer of `IFNAMSIZ` characters.
-/

namespace DynamicGre

/-- The names that `pcap_findalldevs` lists. -/
structure DeviceList where
  names : List (List UInt8)
  nonempty : names ≠ []
  nodup : names.Nodup
  wellNamed : ∀ name ∈ names, name ≠ [] ∧ (∀ c ∈ name, isSpace c = false) ∧ 0 ∉ name

/-- The string after `strncpy(selected_if, name, IFNAMSIZ - 1)` and the NUL put
behind it. -/
def copyName (name : List UInt8) : List UInt8 := name.take (IFNAMSIZ - 1)

/-- The body of the loop that lists the devices. -/
def matchArg (arg : Option (List UInt8)) (selected name : List UInt8) : List UInt8 :=
  match arg with
  | some arg => if arg = name then copyName name else selected
  | none => selected

/-- The body of the prompt. A number is counted down along the list, which may
end before. -/
def readDevice (names : List (List UInt8)) (buf selected : List UInt8) : List UInt8 :=
  match readNumber buf with
  | some id =>
      match names.drop id with
      | [] => selected
      | name :: _ => copyName name
  | none => (names.find? (buf = ·)).elim selected copyName

/-- The prompt, which is repeated while nothing is selected. -/
def promptDevice (names : List (List UInt8)) (selected : List UInt8) :
    List Token → Int × List UInt8
  | [] => if selected = [] then (-1, selected) else (0, selected)
  | tok :: tokens =>
      if selected = [] then promptDevice names (readDevice names tok.chars selected) tokens
      else (0, selected)

/-- The return code and the string in `selected_if`, where `stale` was. -/
def searchInterface (names : List (List UInt8)) (arg : Option (List UInt8)) (tokens : List Token)
    (stale : List UInt8) : Int × List UInt8 :=
  if names = [] then (-1, stale)
  else
    let selected := names.foldl (matchArg arg) []
    if arg.isSome ∧ selected = [] then (-1, selected) else promptDevice names selected tokens

/-! ### Which device is meant -/

namespace DeviceList

variable (devices : DeviceList)

/-- The device that a word denotes: a numeral by the number in the list, any
other word by the name. -/
def denoted (tok : Token) : Option (List UInt8) :=
  match numeral tok.chars with
  | some v => if 0 ≤ v then devices.names[v.toNat]? else none
  | none => devices.names.find? (tok.chars = ·)

/-- The device that a word denotes when numerals count modulo the width of
`unsigned`. -/
def wrapped (tok : Token) : Option (List UInt8) :=
  match numeral tok.chars with
  | some v => devices.names[asUnsigned v]?
  | none => devices.names.find? (tok.chars = ·)

/-- `name` is the full name of the device that was meant. -/
def Selects (arg : Option (List UInt8)) (tokens : List Token) (name : List UInt8) : Prop :=
  match arg with
  | some arg => arg ∈ devices.names ∧ name = arg
  | none => tokens.findSome? devices.denoted = some name

/-- The name of the argument fits the buffer. At the prompt, the first word that
is read as a device denotes the one whose name the copy is, which is that device
where its name fits; or it denotes none, and the next word that does denotes the
one whose name the copy is. -/
def Tells (arg : Option (List UInt8)) (tokens : List Token) : Prop :=
  match arg with
  | some arg => arg ∈ devices.names → arg.length < IFNAMSIZ
  | none => FirstMatch.Faithful devices.wrapped devices.denoted copyName tokens

end DeviceList

theorem copyName_eq_self_iff {name : List UInt8} :
    copyName name = name ↔ name.length < IFNAMSIZ := by
  rw [copyName, List.take_eq_self_iff]
  unfold IFNAMSIZ
  omega

theorem copyName_ne_nil {name : List UInt8} (h : name ≠ []) : copyName name ≠ [] := by
  obtain ⟨c, rest, rfl⟩ := List.exists_cons_of_ne_nil h
  exact List.cons_ne_nil c _

section Loops

variable {devices : DeviceList}

theorem foldl_matchArg (arg : List UInt8) : devices.names.foldl (matchArg (some arg)) [] =
    if arg ∈ devices.names then copyName arg else [] := by
  have hunique : ∀ a ∈ devices.names, ∀ b ∈ devices.names, decide (arg = a) = true →
      decide (arg = b) = true → a = b := by
    intro a _ b _ ha hb
    exact (of_decide_eq_true ha).symm.trans (of_decide_eq_true hb)
  have hstep : matchArg (some arg) = fun selected name =>
      if decide (arg = name) = true then copyName name else selected := by
    funext selected name
    simp [matchArg]
  rw [hstep, Folds.foldl_eq_find? hunique]
  cases hfind : devices.names.find? fun name => decide (arg = name) with
  | none =>
      have hnone := List.find?_eq_none.mp hfind
      rw [if_neg fun hmem => hnone arg hmem (decide_eq_true rfl)]
      rfl
  | some name =>
      have hmem := List.mem_of_find?_eq_some hfind
      have hname := List.find?_some hfind
      rw [← of_decide_eq_true hname] at hmem ⊢
      rw [if_pos hmem]
      rfl

theorem foldl_matchArg_none (names : List (List UInt8)) (selected : List UInt8) :
    names.foldl (matchArg none) selected = selected :=
  Folds.get_foldl_of_no_hit id (fun _ => False) (fun _ _ _ => rfl) (fun _ _ => not_false) selected

theorem readDevice_token (tok : Token) :
    readDevice devices.names tok.chars [] = (devices.wrapped tok).elim [] copyName := by
  unfold readDevice DeviceList.wrapped
  rw [readNumber_token]
  cases numeral tok.chars with
  | none => rfl
  | some v =>
      change (match devices.names.drop (asUnsigned v) with
        | [] => []
        | name :: _ => copyName name) = (devices.names[asUnsigned v]?).elim [] copyName
      rw [← List.head?_drop]
      cases devices.names.drop (asUnsigned v) <;> rfl

theorem DeviceList.mem_of_wrapped {tok : Token} {name : List UInt8}
    (h : devices.wrapped tok = some name) : name ∈ devices.names := by
  unfold DeviceList.wrapped at h
  split at h
  · exact List.mem_of_getElem? h
  · exact List.mem_of_find?_eq_some h

/-- A word that denotes a device is read as some device. -/
theorem DeviceList.denoted_of_wrapped {tok : Token} (h : devices.wrapped tok = none) :
    devices.denoted tok = none := by
  unfold DeviceList.wrapped at h
  unfold DeviceList.denoted
  cases hnum : numeral tok.chars with
  | none =>
      rw [hnum] at h
      exact h
  | some v =>
      rw [hnum] at h
      have hlen : devices.names.length ≤ asUnsigned v := List.getElem?_eq_none_iff.mp h
      dsimp only
      split
      · rename_i hpos
        have hle : asUnsigned v ≤ v.toNat := by
          unfold asUnsigned
          omega
        exact List.getElem?_eq_none_iff.mpr (hlen.trans hle)
      · rfl

/-- The prompt ends with the first word that is read as a device, or with the
input. -/
theorem promptDevice_eq (tokens : List Token) : promptDevice devices.names [] tokens =
    (tokens.findSome? devices.wrapped).elim (-1, []) fun name => (0, copyName name) := by
  induction tokens with
  | nil => rfl
  | cons tok tokens ih =>
      rw [promptDevice, if_pos rfl, readDevice_token, List.findSome?_cons]
      cases hread : devices.wrapped tok with
      | none => exact ih
      | some name =>
          have hne := copyName_ne_nil (devices.wellNamed name (devices.mem_of_wrapped hread)).1
          cases tokens <;> exact if_neg hne

end Loops

/-- Where `search_interface` succeeds, `selected_if` is the full name of the
device that was meant if and only if the names that are copied fit and numerals
stay in the range of the list. -/
theorem searchInterface_iff (devices : DeviceList) (arg : Option (List UInt8))
    (tokens : List Token) (stale : List UInt8) :
    ((searchInterface devices.names arg tokens stale).1 = 0 →
      devices.Selects arg tokens (searchInterface devices.names arg tokens stale).2) ↔
      devices.Tells arg tokens := by
  unfold searchInterface DeviceList.Selects DeviceList.Tells
  rw [if_neg devices.nonempty]
  cases arg with
  | some arg =>
      dsimp only
      rw [foldl_matchArg]
      by_cases hmem : arg ∈ devices.names
      · have hne := copyName_ne_nil (devices.wellNamed arg hmem).1
        have hprompt : promptDevice devices.names (copyName arg) tokens = (0, copyName arg) := by
          cases tokens <;> exact if_neg hne
        rw [if_pos hmem, if_neg fun h => hne h.2, hprompt, ← copyName_eq_self_iff]
        constructor
        · intro h _
          exact (h rfl).2
        · intro h _
          exact ⟨hmem, h hmem⟩
      · rw [if_neg hmem, if_pos ⟨rfl, rfl⟩]
        exact iff_of_true (fun h => absurd h (by decide)) fun h => absurd h hmem
  | none =>
      dsimp only
      rw [foldl_matchArg_none, if_neg (by simp), promptDevice_eq,
        ← FirstMatch.forall_findSome?_iff fun _ => devices.denoted_of_wrapped]
      cases tokens.findSome? devices.wrapped with
      | none => exact iff_of_true (fun h => absurd h (by decide)) fun _ h => nomatch h
      | some name =>
          constructor
          · rintro h _ ⟨⟩
            exact h rfl
          · intro h _
            exact h name rfl

/-- `lo` and a device whose name has 16 characters. -/
def twoDevices : DeviceList where
  names := [['l', 'o'].map (·.toUInt8), List.replicate 16 'x'.toUInt8]
  nonempty := by decide
  nodup := by decide
  wellNamed := by decide

/-- The numeral 4294967296, which is `2 ^ 32`. -/
def wrapToken : Token where
  chars := ['4', '2', '9', '4', '9', '6', '7', '2', '9', '6'].map (·.toUInt8)
  nonempty := by decide
  short := by decide
  noSpace := by decide
  nulFree := by decide

/-- The long name is cut although it is compared in full, and a number that is
not in the list selects the first device. -/
theorem searchInterface_cuts :
    (searchInterface twoDevices.names (some (List.replicate 16 'x'.toUInt8)) [] [] =
        (0, List.replicate 15 'x'.toUInt8) ∧
      ¬twoDevices.Selects (some (List.replicate 16 'x'.toUInt8)) []
        (List.replicate 15 'x'.toUInt8)) ∧
    searchInterface twoDevices.names none [wrapToken] [] = (0, ['l', 'o'].map (·.toUInt8)) ∧
      ¬twoDevices.Selects none [wrapToken] (['l', 'o'].map (·.toUInt8)) := by
  refine ⟨⟨by decide, ?_⟩, by decide, ?_⟩
  · rintro ⟨-, hname⟩
    exact absurd hname (by decide)
  · intro h
    have hnone : [wrapToken].findSome? twoDevices.denoted = none := by decide
    rw [DeviceList.Selects, hnone] at h
    cases h

end DynamicGre

/-
  File:      IppPrinterApp/OperationOrder.lean
  Subject:   What `operation_attributes_well_ordered` accepts (server.rs).

  The scanner walks the raw octets of a request by index. Three things are said about it:

  * `scanNamesChecked` -- the same loop with every read checked: no read is outside the body, and
    the loop ends (`wellOrderedChecked_eq`);
  * the grammar -- a field of the encoding is a head (`FieldHead`: value tag, name, length of the
    value) and the octets of the value. `scanNames_head` and `scanNames_inv` are the two
    directions of one round; `wellOrdered_iff` puts the accepted octets together from them;
  * encoded groups -- on what an encoder writes the scanner reads the first two names
    (`wellOrdered_fields_iff`), an attribute of several values included (`WireAttribute`).

  `operation_order_scanned` has all three.
-/
import IppPrinterApp.Request

namespace IppPrinterApp

/-! ## 1. The scanner with checked reads -/

/-- What could go wrong in an index-driven loop. -/
inductive ScanFault where
  | outside (i : Nat)
  | outOfFuel
  deriving DecidableEq, Repr

/-- `body[i]`. -/
def readOctet (body : List UInt8) (i : Nat) : Except ScanFault UInt8 :=
  match body[i]? with
  | some b => .ok b
  | none => .error (.outside i)

/-- `u16::from_be_bytes([body[i], body[i + 1]])`. -/
def readU16 (body : List UInt8) (i : Nat) : Except ScanFault Nat := do
  let hi ← readOctet body i
  let lo ← readOctet body (i + 1)
  return hi.toNat * 256 + lo.toNat

/-- `&body[i..i + n]`. -/
def readSlice (body : List UInt8) (i n : Nat) : Except ScanFault (List UInt8) :=
  if i + n ≤ body.length then .ok ((body.drop i).take n) else .error (.outside (i + n))

/-- The scanning loop; a read outside the body and a loop without end are faults. -/
def scanNamesChecked (body : List UInt8) :
    Nat → Nat → List (List UInt8) → Except ScanFault (Option (List (List UInt8)))
  | 0, _, _ => .error .outOfFuel
  | fuel + 1, i, names =>
    if i < body.length ∧ names.length < 2 then do
      let tag ← readOctet body i
      if tag ≤ 0x0f then return some names
      else if i + 3 > body.length then return none
      else
        let nameLen ← readU16 body (i + 1)
        if i + 3 + nameLen > body.length then return none
        else
          let names ← if nameLen > 0 then do
            let name ← readSlice body (i + 3) nameLen
            pure (names ++ [name])
          else pure names
          if i + 3 + nameLen + 2 > body.length then return none
          else
            let valueLen ← readU16 body (i + 3 + nameLen)
            scanNamesChecked body fuel (i + 3 + nameLen + 2 + valueLen) names
    else return some names

/-- `operation_attributes_well_ordered` with every read checked. -/
def operationAttributesWellOrderedChecked (body : List UInt8) : Except ScanFault Bool :=
  if body.length ≤ 8 then return false
  else do
    let delimiter ← readOctet body 8
    if delimiter != 0x01 then return false
    else
      let names ← scanNamesChecked body (body.length + 1) 9 []
      return match names with
        | none => false
        | some names =>
          names[0]? == some (ascii "attributes-charset") &&
            names[1]? == some (ascii "attributes-natural-language")

theorem readOctet_ok {body : List UInt8} {i : Nat} (h : i < body.length) :
    readOctet body i = .ok (body.getD i 0) := by
  unfold readOctet
  rw [List.getD_eq_getElem?_getD, List.getElem?_eq_getElem h]
  rfl

theorem readU16_ok {body : List UInt8} {i : Nat} (h : i + 2 ≤ body.length) :
    readU16 body i = .ok (be16 body i) := by
  unfold readU16
  rw [readOctet_ok (by omega), readOctet_ok (by omega)]
  rfl

theorem readSlice_ok {body : List UInt8} {i n : Nat} (h : i + n ≤ body.length) :
    readSlice body i n = .ok ((body.drop i).take n) := if_pos h

theorem ok_bind {α β : Type} (a : α) (f : α → Except ScanFault β) :
    ((.ok a : Except ScanFault α) >>= f) = f a := rfl

theorem ok_pure {α : Type} (a : α) : (pure a : Except ScanFault α) = .ok a := rfl

/-- **The checked loop is the loop**: with fuel for the rest of the body it has no fault. -/
theorem scanNamesChecked_eq {body : List UInt8} {fuel i : Nat} (names : List (List UInt8))
    (hfuel : body.length + 1 ≤ fuel + i) (hpos : 0 < fuel) :
    scanNamesChecked body fuel i names = .ok (scanNames body fuel i names) := by
  induction fuel generalizing i names with
  | zero => exact absurd hpos (Nat.lt_irrefl 0)
  | succ fuel ih =>
      unfold scanNamesChecked scanNames
      by_cases hgo : i < body.length ∧ names.length < 2
      · rw [if_pos hgo, if_pos hgo, readOctet_ok hgo.1, ok_bind]
        by_cases htag : body.getD i 0 ≤ 0x0f
        · rw [if_pos htag, if_pos htag, ok_pure]
        rw [if_neg htag, if_neg htag]
        by_cases hshort : i + 3 > body.length
        · rw [if_pos hshort, if_pos hshort, ok_pure]
        rw [if_neg hshort, if_neg hshort, readU16_ok (by omega), ok_bind]
        by_cases hname : i + 3 + be16 body (i + 1) > body.length
        · simp only [hname, if_true, ok_pure]
        rw [readSlice_ok (by omega)]
        by_cases hvalue : i + 3 + be16 body (i + 1) + 2 > body.length
        · simp only [hname, hvalue, if_true, ok_bind, ok_pure, ite_self]
        · rw [readU16_ok (by omega)]
          by_cases hn : be16 body (i + 1) > 0
          · simp only [hname, hvalue, hn, if_true, if_false, ok_bind, ok_pure]
            exact ih _ (by omega) (by omega)
          · simp only [hname, hvalue, hn, if_false, ok_bind, ok_pure]
            exact ih _ (by omega) (by omega)
      · rw [if_neg hgo, if_neg hgo, ok_pure]

/-- **Every request is scanned to an answer, and inside its octets.** -/
theorem wellOrderedChecked_eq (body : List UInt8) :
    operationAttributesWellOrderedChecked body = .ok (operationAttributesWellOrdered body) := by
  unfold operationAttributesWellOrderedChecked operationAttributesWellOrdered
  by_cases hlen : body.length ≤ 8
  · simp only [hlen, if_true, decide_true, Bool.true_or, ok_pure]
  · rw [if_neg hlen, readOctet_ok (by omega), scanNamesChecked_eq [] (by omega) (by omega)]
    by_cases hdel : (body.getD 8 0 != 0x01) = true
    · simp only [hdel, if_true, Bool.or_true, ok_bind, ok_pure]
    · simp only [hlen, hdel, decide_false, Bool.false_or, ok_bind, ok_pure]
      rfl

/-! ## 2. The encoding -/

/-- `u16::to_be_bytes`. -/
def u16Octets (n : Nat) : List UInt8 := [UInt8.ofNat (n / 256), UInt8.ofNat (n % 256)]

/-- A field up to its value: the value tag, the name and the length the value is said to have. -/
structure FieldHead where
  tag : UInt8
  name : List UInt8
  valueLen : Nat
  isValue : ¬ tag ≤ 0x0f
  name_lt : name.length < 65536
  valueLen_lt : valueLen < 65536

def FieldHead.encode (h : FieldHead) : List UInt8 :=
  h.tag :: (u16Octets h.name.length ++ (h.name ++ u16Octets h.valueLen))

/-- A whole field. One without a name is an additional value of the attribute before it. -/
structure Field extends FieldHead where
  value : List UInt8
  value_length : value.length = valueLen

def Field.encode (f : Field) : List UInt8 := f.toFieldHead.encode ++ f.value

def encodeFields (fs : List Field) : List UInt8 := fs.flatMap Field.encode

/-- The names that fields give. -/
def fieldNames (fs : List Field) : List (List UInt8) :=
  (fs.map (·.name)).filter fun n => n.length > 0

@[simp] theorem encodeFields_nil : encodeFields [] = [] := rfl

@[simp] theorem encodeFields_cons (f : Field) (fs : List Field) :
    encodeFields (f :: fs) = f.encode ++ encodeFields fs := rfl

@[simp] theorem encodeFields_append (fs gs : List Field) :
    encodeFields (fs ++ gs) = encodeFields fs ++ encodeFields gs := List.flatMap_append

/-- The names seen after a head. -/
def FieldHead.namesAfter (h : FieldHead) (names : List (List UInt8)) : List (List UInt8) :=
  if h.name.length > 0 then names ++ [h.name] else names

/-- The position of the next field, if the value is there. -/
def FieldHead.next (h : FieldHead) (i : Nat) : Nat := i + 3 + h.name.length + 2 + h.valueLen

theorem fieldNames_cons (f : Field) (fs : List Field) (names : List (List UInt8)) :
    f.namesAfter names ++ fieldNames fs = names ++ fieldNames (f :: fs) := by
  unfold FieldHead.namesAfter fieldNames
  rw [List.map_cons, List.filter_cons]
  by_cases hn : f.name.length > 0
  · rw [if_pos hn, if_pos (by simpa using hn), List.append_assoc, List.singleton_append]
  · rw [if_neg hn, if_neg (by simpa using hn)]

/-! ## 3. One round of the scanner -/

section Round

variable {body rest : List UInt8} {i j k : Nat}

theorem getD_of_drop {l : List UInt8} (h : body.drop j = l) (k : Nat) :
    body.getD (j + k) 0 = l.getD k 0 := by
  rw [List.getD_eq_getElem?_getD, List.getD_eq_getElem?_getD, ← h, List.getElem?_drop]

theorem drop_of_drop {l r : List UInt8} (h : body.drop j = l ++ r) (hk : l.length = k) :
    body.drop (j + k) = r := by
  rw [← List.drop_drop, h, ← hk, List.drop_left]

/-- Two octets that encode a number are read as that number. -/
theorem be16_of_drop {n : Nat} (hn : n < 65536) (h : body.drop j = u16Octets n ++ rest) :
    be16 body j = n := by
  have hhi : body.getD (j + 0) 0 = UInt8.ofNat (n / 256) := getD_of_drop h 0
  have hlo : body.getD (j + 1) 0 = UInt8.ofNat (n % 256) := getD_of_drop h 1
  unfold be16
  rw [Nat.add_zero] at hhi
  rw [hhi, hlo, UInt8.toNat_ofNat', UInt8.toNat_ofNat']
  omega

theorem drop_eq_getD_cons (h : j < body.length) :
    body.drop j = body.getD j 0 :: body.drop (j + 1) := by
  rw [List.drop_eq_getElem_cons h, List.getD_eq_getElem?_getD, List.getElem?_eq_getElem h]
  rfl

/-- Two octets encode the number that is read from them. -/
theorem drop_eq_u16Octets (h : j + 2 ≤ body.length) :
    body.drop j = u16Octets (be16 body j) ++ body.drop (j + 2) := by
  have hhi : UInt8.ofNat (be16 body j / 256) = body.getD j 0 := by
    have hlt := (body.getD (j + 1) 0).toNat_lt
    have hdiv : be16 body j / 256 = (body.getD j 0).toNat := by
      unfold be16
      omega
    rw [hdiv, UInt8.ofNat_toNat]
  have hlo : UInt8.ofNat (be16 body j % 256) = body.getD (j + 1) 0 := by
    have hlt := (body.getD (j + 1) 0).toNat_lt
    have hmod : be16 body j % 256 = (body.getD (j + 1) 0).toNat := by
      unfold be16
      omega
    rw [hmod, UInt8.ofNat_toNat]
  unfold u16Octets
  rw [hhi, hlo, drop_eq_getD_cons (by omega), drop_eq_getD_cons (by omega)]
  rfl

theorem be16_lt (body : List UInt8) (j : Nat) : be16 body j < 65536 := by
  have hhi := (body.getD j 0).toNat_lt
  have hlo := (body.getD (j + 1) 0).toNat_lt
  unfold be16
  omega

theorem length_of_drop {l : List UInt8} (h : body.drop j = l) (hne : l ≠ []) :
    body.length = j + l.length := by
  have hlen := congrArg List.length h
  rw [List.length_drop] at hlen
  have hpos := List.length_pos_iff.mpr hne
  omega

variable {fuel : Nat} {names out : List (List UInt8)} {h : FieldHead}

theorem FieldHead.encode_length (h : FieldHead) : h.encode.length = 5 + h.name.length := by
  unfold FieldHead.encode u16Octets
  simp only [List.length_cons, List.length_append, List.length_nil]
  omega

/-- What follows a head and as many octets as it says. -/
theorem FieldHead.drop_next (hd : body.drop i = h.encode ++ rest) :
    body.drop (h.next i) = rest.drop h.valueLen := by
  have hrest := drop_of_drop hd h.encode_length
  unfold FieldHead.next
  rw [← hrest, List.drop_drop]
  congr 1
  omega

/-- **One round on a head**: the name is noted and the value skipped. -/
theorem scanNames_head (hd : body.drop i = h.encode ++ rest) (hn : names.length < 2) :
    scanNames body (fuel + 1) i names = scanNames body fuel (h.next i) (h.namesAfter names) := by
  have hlen := length_of_drop hd (by simp [FieldHead.encode])
  rw [List.length_append, h.encode_length] at hlen
  have htag : body.getD (i + 0) 0 = h.tag := getD_of_drop hd 0
  have h1 : body.drop (i + 1) =
      u16Octets h.name.length ++ (h.name ++ u16Octets h.valueLen ++ rest) :=
    drop_of_drop (l := [h.tag]) (by rw [hd]; simp [FieldHead.encode]) rfl
  have h3 : body.drop (i + 1 + 2) = h.name ++ (u16Octets h.valueLen ++ rest) := by
    rw [← List.append_assoc]
    exact drop_of_drop h1 rfl
  have hname := be16_of_drop h.name_lt h1
  have hvalue := be16_of_drop h.valueLen_lt (drop_of_drop h3 rfl)
  have htake : (body.drop (i + 3)).take h.name.length = h.name := by
    rw [h3, List.take_left]
  rw [Nat.add_zero] at htag
  rw [scanNames, if_pos ⟨by omega, hn⟩, htag, if_neg h.isValue, if_neg (by omega)]
  simp only [hname, hvalue, htake]
  rw [if_neg (by omega), if_neg (by omega)]
  rfl

/-- Octets that reach far enough have a head. -/
theorem exists_head (htag : ¬ body.getD i 0 ≤ 0x0f)
    (hend : i + 3 + be16 body (i + 1) + 2 ≤ body.length) :
    ∃ h : FieldHead, h.name = (body.drop (i + 3)).take (be16 body (i + 1)) ∧
      h.name.length = be16 body (i + 1) ∧ h.valueLen = be16 body (i + 3 + be16 body (i + 1)) ∧
      body.drop i = h.encode ++ body.drop (i + 3 + be16 body (i + 1) + 2) := by
  have hlen : ((body.drop (i + 3)).take (be16 body (i + 1))).length = be16 body (i + 1) := by
    rw [List.length_take, List.length_drop]
    omega
  refine ⟨⟨body.getD i 0, (body.drop (i + 3)).take (be16 body (i + 1)),
    be16 body (i + 3 + be16 body (i + 1)), htag, by rw [hlen]; exact be16_lt body _,
    be16_lt body _⟩, rfl, hlen, rfl, ?_⟩
  have hname := List.take_append_drop (be16 body (i + 1)) (body.drop (i + 3))
  rw [List.drop_drop] at hname
  have hvalue := drop_eq_u16Octets hend
  have hnameLen : body.drop (i + 1) = _ := drop_eq_u16Octets (by omega)
  unfold FieldHead.encode
  simp only [hlen, List.cons_append, List.append_assoc]
  rw [← hvalue, hname, ← hnameLen]
  exact drop_eq_getD_cons (by omega)

/-- **A round that does not end the scan** stands on a head. -/
theorem scanNames_inv (hs : scanNames body (fuel + 1) i names = some out)
    (hlt : names.length < out.length) :
    ∃ (h : FieldHead) (rest : List UInt8), body.drop i = h.encode ++ rest ∧
      scanNames body fuel (h.next i) (h.namesAfter names) = some out := by
  have hne : names ≠ out := fun e => absurd hlt (by rw [e]; exact Nat.lt_irrefl _)
  unfold scanNames at hs
  by_cases hgo : i < body.length ∧ names.length < 2
  · rw [if_pos hgo] at hs
    by_cases htag : body.getD i 0 ≤ 0x0f
    · rw [if_pos htag] at hs
      exact absurd (Option.some.inj hs) hne
    rw [if_neg htag] at hs
    by_cases hshort : i + 3 > body.length
    · rw [if_pos hshort] at hs
      cases hs
    rw [if_neg hshort] at hs
    by_cases hname : i + 3 + be16 body (i + 1) > body.length
    · simp only [hname, if_true] at hs
      cases hs
    by_cases hvalue : i + 3 + be16 body (i + 1) + 2 > body.length
    · simp only [hname, hvalue, if_true, if_false] at hs
      cases hs
    simp only [hname, hvalue, if_false] at hs
    obtain ⟨h, hnm, hnl, hvl, hd⟩ := exists_head htag (Nat.le_of_not_lt hvalue)
    refine ⟨h, _, hd, ?_⟩
    unfold FieldHead.next FieldHead.namesAfter
    rw [hnl, hvl, hnm]
    exact hs
  · rw [if_neg hgo] at hs
    exact absurd (Option.some.inj hs) hne

end Round

/-! ## 4. The octets that are accepted -/

/-- The octets behind the first delimiter begin with `attributes-charset` and
    `attributes-natural-language`, additional values aside. The second one is there up to the
    length of its value. -/
def StartsOrdered (octets : List UInt8) : Prop :=
  ∃ (before : List Field) (charset : Field) (between : List Field) (language : FieldHead)
    (rest : List UInt8),
    (∀ f ∈ before, f.name = []) ∧ charset.name = ascii "attributes-charset" ∧
    (∀ f ∈ between, f.name = []) ∧ language.name = ascii "attributes-natural-language" ∧
    octets = encodeFields before ++ (charset.encode ++
      (encodeFields between ++ (language.encode ++ rest)))

section Scan

variable {body rest : List UInt8} {i fuel : Nat} {names out : List (List UInt8)}

theorem scanNames_stop (h : ¬ (i < body.length ∧ names.length < 2)) (hpos : 0 < fuel) :
    scanNames body fuel i names = some names := by
  cases fuel with
  | zero => exact absurd hpos (Nat.lt_irrefl 0)
  | succ fuel => rw [scanNames, if_neg h]

/-- With two names noted the scan is over. -/
theorem scanNames_full (hn : names.length = 2) (hpos : 0 < fuel) (more : List (List UInt8)) :
    scanNames body fuel i names = some ((names ++ more).take 2) ∧
      ¬ (names ++ more).length < 2 := by
  rw [scanNames_stop (by omega) hpos, List.take_append_of_le_length (by omega),
    List.take_of_length_le (by omega), List.length_append]
  exact ⟨rfl, by omega⟩

/-- **A scan over fields**: it has read their names at their end, or two names before it. -/
theorem scanNames_fields (fs : List Field) (names : List (List UInt8)) (fuel : Nat)
    (hd : body.drop i = encodeFields fs ++ rest) (hfuel : body.length + 1 ≤ fuel + i)
    (hpos : 0 < fuel) (hn : names.length ≤ 2) :
    ∃ fuel', body.length + 1 ≤ fuel' + (i + (encodeFields fs).length) ∧ 0 < fuel' ∧
      scanNames body fuel i names =
        if (names ++ fieldNames fs).length < 2 then
          scanNames body fuel' (i + (encodeFields fs).length) (names ++ fieldNames fs)
        else some ((names ++ fieldNames fs).take 2) := by
  by_cases hfull : names.length = 2
  · obtain ⟨hstop, hlen⟩ := scanNames_full hfull hpos (fieldNames fs)
    refine ⟨body.length + 1, by omega, by omega, ?_⟩
    rw [if_neg hlen]
    exact hstop
  induction fs generalizing i fuel names with
  | nil =>
      refine ⟨fuel, by simpa using hfuel, hpos, ?_⟩
      have hnil : names ++ fieldNames [] = names := List.append_nil names
      rw [hnil, if_pos (by omega)]
      rfl
  | cons f fs ih =>
      rw [encodeFields_cons, List.append_assoc] at hd
      have hlen := length_of_drop hd (by simp [Field.encode, FieldHead.encode])
      have hf : f.encode.length = 5 + f.name.length + f.valueLen := by
        rw [Field.encode, List.length_append, FieldHead.encode_length, f.value_length]
      rw [List.length_append, hf] at hlen
      have hnext : f.next i = i + f.encode.length := by
        rw [hf, FieldHead.next]
        omega
      obtain ⟨fuel, rfl⟩ := Nat.exists_eq_succ_of_ne_zero (Nat.pos_iff_ne_zero.mp hpos)
      have hhead : body.drop i = f.toFieldHead.encode ++ (f.value ++ (encodeFields fs ++ rest)) := by
        rw [hd, Field.encode, List.append_assoc]
      have hafter : (f.namesAfter names).length ≤ 2 := by
        unfold FieldHead.namesAfter
        split
        · rw [List.length_append, List.length_singleton]
          omega
        · exact hn
      rw [scanNames_head hhead (by omega), hnext, ← fieldNames_cons, encodeFields_cons,
        List.length_append, ← Nat.add_assoc]
      by_cases htwo : (f.namesAfter names).length = 2
      · obtain ⟨hstop, hfew⟩ := scanNames_full htwo (by omega : 0 < fuel) (fieldNames fs)
        refine ⟨body.length + 1, by omega, by omega, ?_⟩
        rw [if_neg hfew]
        exact hstop
      · exact ih (f.namesAfter names) fuel (drop_of_drop hd rfl) (by omega) (by omega) hafter htwo

/-- A head is one of a whole field where something follows its value. -/
theorem FieldHead.exists_field (h : FieldHead) {l : List UInt8} (hl : l ≠ [])
    (hrest : rest.drop h.valueLen = l) :
    ∃ f : Field, f.toFieldHead = h ∧ h.encode ++ rest = f.encode ++ l := by
  have hlen : (rest.take h.valueLen).length = h.valueLen := by
    have hpos := List.length_pos_iff.mpr hl
    rw [← hrest, List.length_drop] at hpos
    rw [List.length_take]
    omega
  refine ⟨⟨h, rest.take h.valueLen, hlen⟩, rfl, ?_⟩
  rw [Field.encode, List.append_assoc, ← hrest, List.take_append_drop]

/-- **A name that is read** stands behind additional values. -/
theorem scanNames_next (hs : scanNames body fuel i names = some out)
    (hlt : names.length < out.length) :
    ∃ (before : List Field) (h : FieldHead) (rest : List UInt8) (fuel' j : Nat),
      (∀ f ∈ before, f.name = []) ∧ body.drop i = encodeFields before ++ (h.encode ++ rest) ∧
      body.drop j = rest.drop h.valueLen ∧
      scanNames body fuel' j (names ++ [h.name]) = some out := by
  induction fuel generalizing i with
  | zero => cases hs
  | succ fuel ih =>
      obtain ⟨h, rest, hd, hs⟩ := scanNames_inv hs hlt
      have hdrop := FieldHead.drop_next hd
      by_cases hname : h.name.length > 0
      · rw [FieldHead.namesAfter, if_pos hname] at hs
        exact ⟨[], h, rest, fuel, _, by simp, hd, hdrop, hs⟩
      · rw [FieldHead.namesAfter, if_neg hname] at hs
        obtain ⟨before, h', rest', fuel', j, hb, hd', hj, hs'⟩ := ih hs
        rw [hdrop] at hd'
        obtain ⟨f, rfl, hf⟩ := h.exists_field (by simp [FieldHead.encode]) hd'
        refine ⟨f :: before, h', rest', fuel', j, ?_, ?_, hj, hs'⟩
        · intro f' hf'
          rcases List.mem_cons.mp hf' with rfl | hf'
          · exact List.length_eq_zero_iff.mp (Nat.eq_zero_of_not_pos hname)
          · exact hb f' hf'
        · rw [hd, hf, encodeFields_cons, List.append_assoc]

end Scan

theorem fieldNames_additional {fs : List Field} (h : ∀ f ∈ fs, f.name = []) :
    fieldNames fs = [] := by
  unfold fieldNames
  refine List.filter_eq_nil_iff.mpr fun n hn => ?_
  obtain ⟨f, hf, rfl⟩ := List.mem_map.mp hn
  simp [h f hf]

theorem fieldNames_append (fs gs : List Field) :
    fieldNames (fs ++ gs) = fieldNames fs ++ fieldNames gs := by
  unfold fieldNames
  rw [List.map_append, List.filter_append]

/-- What the gate looks at: the delimiter and the names of the scan. -/
theorem wellOrdered_eq_true (body : List UInt8) :
    operationAttributesWellOrdered body = true ↔
      body[8]? = some 0x01 ∧ ∃ names, scanNames body (body.length + 1) 9 [] = some names ∧
        names[0]? = some (ascii "attributes-charset") ∧
        names[1]? = some (ascii "attributes-natural-language") := by
  unfold operationAttributesWellOrdered
  by_cases hlen : 8 < body.length
  · have hget : body[8]? = some (body.getD 8 0) := by
      rw [List.getD_eq_getElem?_getD, List.getElem?_eq_getElem hlen]
      rfl
    have hnot : ¬ body.length ≤ 8 := by omega
    rw [hget, Option.some.injEq]
    cases scanNames body (body.length + 1) 9 [] with
    | none => simp
    | some names => simp [hnot]
  · simp [Nat.le_of_not_lt hlen]

/-- **What is accepted**: the delimiter of the operation attributes, and behind it the two
    attributes in their order. -/
theorem wellOrdered_iff (body : List UInt8) :
    operationAttributesWellOrdered body = true ↔
      body[8]? = some 0x01 ∧ StartsOrdered (body.drop 9) := by
  rw [wellOrdered_eq_true]
  refine and_congr_right fun hdel => ?_
  constructor
  · rintro ⟨out, hs, hcharset, hlanguage⟩
    have htwo := (List.getElem?_eq_some_iff.mp hlanguage).1
    obtain ⟨before, h₁, rest₁, fuel₁, j₁, hb, hd₁, hj₁, hs₁⟩ :=
      scanNames_next hs (by rw [List.length_nil]; omega)
    obtain ⟨between, h₂, rest₂, fuel₂, j₂, hw, hd₂, hj₂, hs₂⟩ :=
      scanNames_next hs₁ (by rw [List.nil_append, List.length_singleton]; omega)
    have hout : [h₁.name, h₂.name] = out := by
      cases fuel₂ with
      | zero => cases hs₂
      | succ fuel₂ =>
          rw [scanNames, if_neg (by simp)] at hs₂
          exact Option.some.inj hs₂
    rw [← hout] at hcharset hlanguage
    rw [hj₁] at hd₂
    obtain ⟨charset, rfl, hf⟩ := h₁.exists_field (by simp [FieldHead.encode]) hd₂
    refine ⟨before, charset, between, h₂, rest₂, hb, Option.some.inj hcharset, hw,
      Option.some.inj hlanguage, ?_⟩
    rw [hd₁, hf]
  · rintro ⟨before, charset, between, language, rest, hb, hcharset, hw, hlanguage, hd⟩
    have hnames : fieldNames (before ++ charset :: between) = [charset.name] := by
      have hne : ¬ charset.name = [] := by
        rw [hcharset]
        decide
      rw [fieldNames_append, fieldNames_additional hb, ← List.singleton_append, fieldNames_append,
        fieldNames_additional hw]
      simp [fieldNames, List.length_pos_iff, hne]
    have hfields : body.drop 9 =
        encodeFields (before ++ charset :: between) ++ (language.encode ++ rest) := by
      rw [hd, encodeFields_append, encodeFields_cons]
      simp only [List.append_assoc]
    obtain ⟨fuel, hfuel, hpos, hs⟩ := scanNames_fields _ [] (body.length + 1) hfields (by omega)
      (by omega) (Nat.zero_le 2)
    have hlang := drop_of_drop hfields rfl
    have hlen := length_of_drop hlang (by simp [FieldHead.encode])
    rw [List.length_append, language.encode_length] at hlen
    obtain ⟨fuel, rfl⟩ := Nat.exists_eq_succ_of_ne_zero (Nat.pos_iff_ne_zero.mp hpos)
    have hname : language.name.length > 0 := by
      rw [hlanguage]
      decide
    refine ⟨[charset.name, language.name], ?_, by rw [hcharset]; rfl, by rw [hlanguage]; rfl⟩
    rw [hs, hnames, List.nil_append, if_pos (by simp), scanNames_head hlang (by simp),
      FieldHead.namesAfter, if_pos hname]
    exact scanNames_stop (by simp) (by omega)

/-! ## 5. What an encoder writes -/

/-- The octets around the operation attributes: the header, and what follows them -- nothing, or
    a delimiter and whatever comes after it. -/
structure Envelope where
  header : List UInt8
  header_length : header.length = 8
  following : List UInt8
  delimited : ∀ b ∈ following.head?, b ≤ 0x0f

/-- A request whose operation group has these fields. -/
def Envelope.request (e : Envelope) (fs : List Field) : List UInt8 :=
  e.header ++ 0x01 :: (encodeFields fs ++ e.following)

/-- One value on the wire. -/
structure WireValue where
  tag : UInt8
  octets : List UInt8
  isValue : ¬ tag ≤ 0x0f
  octets_lt : octets.length < 65536

/-- The field of a value under a name. -/
def WireValue.field (v : WireValue) (name : List UInt8) (h : name.length < 65536) : Field :=
  { tag := v.tag, name, valueLen := v.octets.length, isValue := v.isValue, name_lt := h,
    valueLen_lt := v.octets_lt, value := v.octets, value_length := rfl }

/-- An attribute on the wire: its name, and one value or more. The members of a collection are
    values without a name as well. -/
structure WireAttribute where
  name : List UInt8
  named : 0 < name.length
  name_lt : name.length < 65536
  first : WireValue
  more : List WireValue

/-- The name goes with the first value, the others are additional values. -/
def WireAttribute.fields (a : WireAttribute) : List Field :=
  a.first.field a.name a.name_lt :: a.more.map fun v => v.field [] (by decide)

theorem WireAttribute.fieldNames_fields (a : WireAttribute) : fieldNames a.fields = [a.name] := by
  have hmore : ∀ f ∈ a.more.map (fun v => v.field [] (by decide)), f.name = [] := by
    intro f hf
    obtain ⟨v, _, rfl⟩ := List.mem_map.mp hf
    rfl
  unfold WireAttribute.fields
  rw [← List.singleton_append, fieldNames_append, fieldNames_additional hmore]
  simp [fieldNames, WireValue.field, a.named]

theorem fieldNames_attributes (as : List WireAttribute) :
    fieldNames (as.flatMap (·.fields)) = as.map (·.name) := by
  induction as with
  | nil => rfl
  | cons a as ih =>
      rw [List.flatMap_cons, fieldNames_append, a.fieldNames_fields, ih, List.map_cons,
        List.singleton_append]

theorem first_two_iff {α : Type} {l : List α} {a b : α} :
    (l.take 2)[0]? = some a ∧ (l.take 2)[1]? = some b ↔ l.take 2 = [a, b] := by
  match l with
  | [] => simp
  | [x] => simp
  | x :: y :: l => simp

/-- **On encoded fields the gate reads the first two names.** -/
theorem wellOrdered_fields_iff (e : Envelope) (fs : List Field) :
    operationAttributesWellOrdered (e.request fs) = true ↔
      (fieldNames fs).take 2 =
        [ascii "attributes-charset", ascii "attributes-natural-language"] := by
  have hdrop : (e.request fs).drop 8 = 0x01 :: (encodeFields fs ++ e.following) := by
    unfold Envelope.request
    rw [← e.header_length, List.drop_left]
  have hdel : (e.request fs)[8]? = some 0x01 := by
    have hget : ((e.request fs).drop 8)[0]? = (e.request fs)[8 + 0]? := List.getElem?_drop
    rw [hdrop] at hget
    exact hget.symm
  have hfields : (e.request fs).drop 9 = encodeFields fs ++ e.following :=
    drop_of_drop (l := [0x01]) hdrop rfl
  obtain ⟨fuel, hfuel, hpos, hs⟩ := scanNames_fields fs [] ((e.request fs).length + 1) hfields
    (by omega) (by omega) (Nat.zero_le 2)
  have hscan : scanNames (e.request fs) ((e.request fs).length + 1) 9 [] =
      some ((fieldNames fs).take 2) := by
    rw [hs, List.nil_append]
    by_cases hfew : (fieldNames fs).length < 2
    · rw [if_pos hfew, List.take_of_length_le (by omega)]
      have hfol := drop_of_drop hfields rfl
      obtain ⟨fuel, rfl⟩ := Nat.exists_eq_succ_of_ne_zero (Nat.pos_iff_ne_zero.mp hpos)
      rw [scanNames]
      split
      · -- the next octet is a delimiter
        rename_i hgo
        have hhead := getD_of_drop hfol 0
        rw [Nat.add_zero] at hhead
        cases hf : e.following with
        | nil =>
            rw [hf, List.drop_eq_nil_iff] at hfol
            omega
        | cons b bs =>
            rw [hhead, hf]
            exact if_pos (e.delimited b (by rw [hf]; rfl))
      · rfl
    · rw [if_neg hfew]
  rw [wellOrdered_eq_true, hscan, ← first_two_iff]
  exact ⟨fun ⟨_, names, hn, h⟩ => Option.some.inj hn ▸ h, fun h => ⟨hdel, _, rfl, h⟩⟩

/-- **The order of the operation attributes**: every body is scanned to an answer and inside its
    octets; it is accepted exactly if the delimiter is there and the octets behind it start with
    the two attributes in their order, additional values aside; and what an encoder writes is
    accepted exactly if these are the first two names. -/
theorem operation_order_scanned :
    (∀ body, operationAttributesWellOrderedChecked body =
        .ok (operationAttributesWellOrdered body) ∧
      (operationAttributesWellOrdered body = true ↔
        body[8]? = some 0x01 ∧ StartsOrdered (body.drop 9))) ∧
    (∀ (e : Envelope) (fs : List Field), operationAttributesWellOrdered (e.request fs) = true ↔
      (fieldNames fs).take 2 =
        [ascii "attributes-charset", ascii "attributes-natural-language"]) ∧
    ∀ (e : Envelope) (as : List WireAttribute),
      operationAttributesWellOrdered (e.request (as.flatMap (·.fields))) = true ↔
        (as.map (·.name)).take 2 =
          [ascii "attributes-charset", ascii "attributes-natural-language"] := by
  refine ⟨fun body => ⟨wellOrderedChecked_eq body, wellOrdered_iff body⟩,
    wellOrdered_fields_iff, fun e as => ?_⟩
  rw [wellOrdered_fields_iff, fieldNames_attributes]

end IppPrinterApp

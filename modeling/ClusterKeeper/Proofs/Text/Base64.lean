import ClusterKeeper.Proofs.Api.Members
import ClusterKeeper.Proofs.Text.Trim
import ClusterKeeper.Text.Base64
import ClusterKeeper.Text.Blank
/-!
Base64 is read just as it is written.

A symbol stands for one value, and the values of a quad and its octets determine each other as long
as no bit is left over. So a text can be read exactly if it is the written form of octets, and then
these are read. White space around it can be told apart, since no symbol is blank.
-/

namespace ClusterKeeper.Text

namespace Base64

variable {octet : UInt8} {value start index paddings : Nat} {octets written : List UInt8}
  {symbols : List (UInt8 × Nat)} {quad : LastQuad}

/-- The octet of the symbol of a value. -/
def sign (value : Nat) : UInt8 := UInt8.ofNat (symbol value).toNat

theorem value?_sign (h : value < 64) : value? (sign value) = some value := by
  have hall : ∀ v : Fin 64, value? (sign v) = some v.val := by decide +kernel
  exact hall ⟨value, h⟩

theorem value?_eq_some_iff : value? octet = some value ↔ value < 64 ∧ octet = sign value := by
  constructor
  · have hall : ∀ n : Fin 256, ∀ v ∈ value? (UInt8.ofNat n), v < 64 ∧ UInt8.ofNat n = sign v := by
      decide +kernel
    intro hvalue
    have hoctet := hall ⟨octet.toNat, octet.toNat_lt⟩ value
    rw [UInt8.ofNat_toNat] at hoctet
    exact hoctet hvalue
  · rintro ⟨hlt, rfl⟩
    exact value?_sign hlt

theorem value?_padding : value? padding = none := by rfl

theorem valueAt_eq_ok_iff : valueAt octet index = .ok value ↔ value? octet = some value := by
  rw [valueAt]
  cases value? octet <;> simp

/-- The octets of symbols, each with its value. -/
def IsRead (symbols : List (UInt8 × Nat)) : Prop :=
  ∀ entry ∈ symbols, value? entry.1 = some entry.2

theorem isRead_cons : IsRead ((octet, value) :: symbols) ↔
    (value < 64 ∧ octet = sign value) ∧ IsRead symbols := by
  rw [IsRead, List.forall_mem_cons, value?_eq_some_iff]
  rfl

theorem isRead_signs {values : List Nat} (h : ∀ value ∈ values, value < 64) :
    IsRead (values.map fun value => (sign value, value)) := by
  intro entry hentry
  obtain ⟨value, hvalue, rfl⟩ := List.mem_map.mp hentry
  exact value?_sign (h value hvalue)

theorem scanLast_symbols {more : List (UInt8 × Nat)} (hmore : IsRead more) :
    scanLast start index ⟨symbols, 0⟩ (more.map Prod.fst ++ octets) =
      scanLast start (index + more.length) ⟨symbols ++ more, 0⟩ octets := by
  induction more generalizing index symbols with
  | nil => rw [List.append_nil]; rfl
  | cons entry more ih =>
      have hvalue := hmore entry List.mem_cons_self
      have hne : entry.1 ≠ padding := by
        intro heq
        rw [heq, value?_padding] at hvalue
        cases hvalue
      rw [List.map_cons, List.cons_append, scanLast, if_neg hne, if_pos rfl,
        valueAt_eq_ok_iff.mpr hvalue]
      change scanLast start (index + 1) ⟨symbols ++ [entry], 0⟩ _ = _
      rw [ih fun other hother => hmore other (List.mem_cons_of_mem _ hother), List.append_assoc,
        List.length_cons, Nat.add_right_comm, Nat.add_assoc]
      rfl

theorem scanLast_replicate {k : Nat} (hindex : 2 ≤ index) :
    scanLast start index ⟨symbols, paddings⟩ (List.replicate k padding) =
      .ok ⟨symbols, paddings + k⟩ := by
  induction k generalizing index paddings with
  | zero => rfl
  | succ k ih =>
      rw [List.replicate_succ, scanLast, if_pos rfl, if_neg (by omega), ih (by omega),
        Nat.add_right_comm, Nat.add_assoc]

/-- After a padding sign there are only padding signs. -/
theorem replicate_of_scanLast (h : scanLast start index ⟨symbols, paddings + 1⟩ octets = .ok quad) :
    octets = List.replicate octets.length padding ∧
      quad = ⟨symbols, paddings + 1 + octets.length⟩ := by
  induction octets generalizing index paddings with
  | nil =>
      cases h
      exact ⟨rfl, rfl⟩
  | cons octet rest ih =>
      rw [scanLast] at h
      split at h
      · next hpadding =>
          split at h
          · cases h
          · obtain ⟨hrest, rfl⟩ := ih h
            refine ⟨?_, ?_⟩
            · rw [List.length_cons, List.replicate_succ, ← hrest, hpadding]
            · rw [List.length_cons, Nat.add_right_comm _ 1, Nat.add_assoc _ _ 1]
      · rw [if_neg (Nat.succ_ne_zero paddings)] at h
        cases h

/-- Symbols come first, and padding signs follow them. -/
theorem exists_of_scanLast (h : scanLast start index ⟨symbols, 0⟩ octets = .ok quad) :
    ∃ more k, octets = more.map Prod.fst ++ List.replicate k padding ∧ IsRead more ∧
      quad = ⟨symbols ++ more, k⟩ := by
  induction octets generalizing index symbols with
  | nil =>
      cases h
      exact ⟨[], 0, rfl, by simp [IsRead], by rw [List.append_nil]⟩
  | cons octet rest ih =>
      rw [scanLast] at h
      split at h
      · next hpadding =>
          split at h
          · cases h
          · obtain ⟨hrest, rfl⟩ := replicate_of_scanLast h
            refine ⟨[], rest.length + 1, ?_, by simp [IsRead], ?_⟩
            · rw [List.map_nil, List.nil_append, List.replicate_succ, ← hrest, hpadding]
            · rw [List.append_nil, Nat.zero_add, Nat.add_comm]
      · rw [if_pos rfl] at h
        obtain ⟨value, hvalue, h⟩ := bind_eq_ok_iff.mp h
        obtain ⟨more, k, rfl, hmore, rfl⟩ := ih h
        refine ⟨(octet, value) :: more, k, rfl, ?_, by rw [List.append_assoc]; rfl⟩
        intro entry hentry
        rcases List.mem_cons.mp hentry with rfl | hentry
        · exact valueAt_eq_ok_iff.mp hvalue
        · exact hmore entry hentry

/-- A last quad of enough symbols, padded to four, is read by its values. -/
theorem decodeLast_of_isRead {k : Nat} (hread : IsRead symbols) (htwo : 2 ≤ symbols.length)
    (hquad : (k + symbols.length) % 4 = 0) :
    decodeLast start (symbols.map Prod.fst ++ List.replicate k padding) =
      octetsOfLast start symbols := by
  have hscan : scanLast start 0 ⟨[], 0⟩ (symbols.map Prod.fst ++ List.replicate k padding) =
      .ok ⟨symbols, k⟩ := by
    rw [scanLast_symbols hread, scanLast_replicate (by omega), List.nil_append, Nat.zero_add]
  rw [decodeLast, hscan]
  change (if _ ∧ symbols.length < 2 then _ else if (k + symbols.length) % 4 ≠ 0 then _ else _) = _
  rw [if_neg (by omega), if_neg (by omega)]

/-- Nothing else is read as a last quad. -/
theorem exists_of_decodeLast (h : decodeLast start written = .ok octets) :
    written = [] ∧ octets = [] ∨ ∃ symbols k, IsRead symbols ∧ 2 ≤ symbols.length ∧
      written = symbols.map Prod.fst ++ List.replicate k padding ∧
      (k + symbols.length) % 4 = 0 ∧ octetsOfLast start symbols = .ok octets := by
  obtain ⟨quad, hscan, h⟩ := bind_eq_ok_iff.mp h
  obtain ⟨symbols, k, rfl, hread, rfl⟩ := exists_of_scanLast hscan
  dsimp only [List.nil_append] at h
  split at h
  · cases h
  · next hfew =>
      split at h
      · cases h
      · next hquad =>
          by_cases hnil : symbols.map Prod.fst ++ List.replicate k padding = []
          · obtain ⟨rfl, rfl⟩ : symbols = [] ∧ k = 0 := by simpa using hnil
            cases h
            exact Or.inl ⟨rfl, rfl⟩
          · have htwo : 2 ≤ symbols.length := Nat.le_of_not_lt fun hlt => hfew ⟨hnil, hlt⟩
            exact Or.inr ⟨symbols, k, hread, htwo, rfl, not_not.mp hquad, h⟩

/-- The octets that the values of a quad make up. -/
def firstOctet (a b : Nat) : UInt8 := UInt8.ofNat (a * 4 + b / 16)

def secondOctet (b c : Nat) : UInt8 := UInt8.ofNat (b % 16 * 16 + c / 4)

def thirdOctet (c d : Nat) : UInt8 := UInt8.ofNat (c % 4 * 64 + d)

section Values

variable {a b c d : Nat} (ha : a < 64) (hb : b < 64) (hc : c < 64) (hd : d < 64)

include ha hb in
theorem toNat_firstOctet : (firstOctet a b).toNat = a * 4 + b / 16 :=
  UInt8.toNat_ofNat_of_lt' (by change _ < 256; omega)

include hc in
theorem toNat_secondOctet : (secondOctet b c).toNat = b % 16 * 16 + c / 4 :=
  UInt8.toNat_ofNat_of_lt' (by change _ < 256; omega)

include hd in
theorem toNat_thirdOctet : (thirdOctet c d).toNat = c % 4 * 64 + d :=
  UInt8.toNat_ofNat_of_lt' (by change _ < 256; omega)

include ha hb in
theorem encodeChars_one (hrest : b % 16 = 0) :
    encodeChars [firstOctet a b] = [symbol a, symbol b, '=', '='] := by
  have hfirst : (firstOctet a b).toNat / 4 = a := by rw [toNat_firstOctet ha hb]; omega
  have hsecond : (firstOctet a b).toNat % 4 * 16 = b := by rw [toNat_firstOctet ha hb]; omega
  rw [encodeChars, hfirst, hsecond]

include ha hb hc in
theorem encodeChars_two (hrest : c % 4 = 0) :
    encodeChars [firstOctet a b, secondOctet b c] = [symbol a, symbol b, symbol c, '='] := by
  have hfirst : (firstOctet a b).toNat / 4 = a := by rw [toNat_firstOctet ha hb]; omega
  have hsecond : (firstOctet a b).toNat % 4 * 16 + (secondOctet b c).toNat / 16 = b := by
    rw [toNat_firstOctet ha hb, toNat_secondOctet hc]; omega
  have hthird : (secondOctet b c).toNat % 16 * 4 = c := by rw [toNat_secondOctet hc]; omega
  rw [encodeChars, hfirst, hsecond, hthird]

include ha hb hc hd in
theorem encodeChars_cons (octets : List UInt8) :
    encodeChars (firstOctet a b :: secondOctet b c :: thirdOctet c d :: octets) =
      symbol a :: symbol b :: symbol c :: symbol d :: encodeChars octets := by
  have hfirst : (firstOctet a b).toNat / 4 = a := by rw [toNat_firstOctet ha hb]; omega
  have hsecond : (firstOctet a b).toNat % 4 * 16 + (secondOctet b c).toNat / 16 = b := by
    rw [toNat_firstOctet ha hb, toNat_secondOctet hc]; omega
  have hthird : (secondOctet b c).toNat % 16 * 4 + (thirdOctet c d).toNat / 64 = c := by
    rw [toNat_secondOctet hc, toNat_thirdOctet hd]; omega
  have hfourth : (thirdOctet c d).toNat % 64 = d := by rw [toNat_thirdOctet hd]; omega
  rw [encodeChars, hfirst, hsecond, hthird, hfourth]

end Values

/-! The octets are made up of their own bits, whatever the bits beside them. -/

theorem firstOctet_toNat (x : UInt8) {rest : Nat} (hrest : rest < 16) :
    firstOctet (x.toNat / 4) (x.toNat % 4 * 16 + rest) = x := by
  have hx := x.toNat_lt
  apply UInt8.toNat_inj.mp
  rw [toNat_firstOctet (by omega) (by omega)]
  omega

theorem secondOctet_toNat (y : UInt8) (before : Nat) {rest : Nat} (hrest : rest < 4) :
    secondOctet (before * 16 + y.toNat / 16) (y.toNat % 16 * 4 + rest) = y := by
  have hy := y.toNat_lt
  apply UInt8.toNat_inj.mp
  rw [toNat_secondOctet (by omega)]
  omega

theorem thirdOctet_toNat (z : UInt8) (before : Nat) :
    thirdOctet (before * 4 + z.toNat / 64) (z.toNat % 64) = z := by
  have hz := z.toNat_lt
  apply UInt8.toNat_inj.mp
  rw [toNat_thirdOctet (by omega)]
  omega

/-- Octets are made up of the values of quads, of which the last may be short. -/
@[elab_as_elim]
theorem octets_induction {motive : List UInt8 → Prop} (nil : motive [])
    (one : ∀ a b, a < 64 → b < 64 → b % 16 = 0 → motive [firstOctet a b])
    (two : ∀ a b c, a < 64 → b < 64 → c < 64 → c % 4 = 0 →
      motive [firstOctet a b, secondOctet b c])
    (cons : ∀ a b c d octets, a < 64 → b < 64 → c < 64 → d < 64 → motive octets →
      motive (firstOctet a b :: secondOctet b c :: thirdOctet c d :: octets))
    (octets : List UInt8) : motive octets := by
  induction octets using encodeChars.induct with
  | case1 => exact nil
  | case2 x =>
      have hx := x.toNat_lt
      have hfirst : firstOctet (x.toNat / 4) (x.toNat % 4 * 16) = x :=
        firstOctet_toNat x (Nat.zero_lt_succ 15)
      have hmotive := one (x.toNat / 4) (x.toNat % 4 * 16) (by omega) (by omega) (by omega)
      rwa [hfirst] at hmotive
  | case3 x y =>
      have hx := x.toNat_lt
      have hy := y.toNat_lt
      have hsecond : secondOctet (x.toNat % 4 * 16 + y.toNat / 16) (y.toNat % 16 * 4) = y :=
        secondOctet_toNat y _ (Nat.zero_lt_succ 3)
      have hmotive := two (x.toNat / 4) (x.toNat % 4 * 16 + y.toNat / 16) (y.toNat % 16 * 4)
        (by omega) (by omega) (by omega) (by omega)
      rwa [firstOctet_toNat x (by omega), hsecond] at hmotive
  | case4 x y z rest ih =>
      have hx := x.toNat_lt
      have hy := y.toNat_lt
      have hz := z.toNat_lt
      have hmotive := cons (x.toNat / 4) (x.toNat % 4 * 16 + y.toNat / 16)
        (y.toNat % 16 * 4 + z.toNat / 64) (z.toNat % 64) rest (by omega) (by omega) (by omega)
        (by omega) ih
      rwa [firstOctet_toNat x (by omega), secondOctet_toNat y _ (by omega),
        thirdOctet_toNat z] at hmotive

/-- What is true of all symbols and of the padding sign is true of what is written. -/
theorem forall_mem_encodeChars {p : Char → Prop} (hsymbols : ∀ value : Fin 64, p (symbol value))
    (hpadding : p '=') (octets : List UInt8) : ∀ c ∈ encodeChars octets, p c := by
  have hsymbol : ∀ value, value < 64 → p (symbol value) := fun value h => hsymbols ⟨value, h⟩
  induction octets using octets_induction with
  | nil => exact fun c hc => absurd hc List.not_mem_nil
  | one a b ha hb hrest =>
      simp [encodeChars_one ha hb hrest, hsymbol a ha, hsymbol b hb, hpadding]
  | two a b c ha hb hc hrest =>
      simp [encodeChars_two ha hb hc hrest, hsymbol a ha, hsymbol b hb, hsymbol c hc, hpadding]
  | cons a b c d octets ha hb hc hd ih =>
      simpa [encodeChars_cons ha hb hc hd, hsymbol a ha, hsymbol b hb, hsymbol c hc, hsymbol d hd]
        using ih

/-- The written form of octets, as octets. -/
def encodeOctets (octets : List UInt8) : List UInt8 :=
  (encodeChars octets).map fun c => UInt8.ofNat c.toNat

theorem length_encodeOctets (octets : List UInt8) : (encodeOctets octets).length % 4 = 0 := by
  rw [encodeOctets, List.length_map]
  induction octets using octets_induction with
  | nil => rfl
  | one a b ha hb hrest => simp [encodeChars_one ha hb hrest]
  | two a b c ha hb hc hrest => simp [encodeChars_two ha hb hc hrest]
  | cons a b c d octets ha hb hc hd ih =>
      rw [encodeChars_cons ha hb hc hd]
      simp only [List.length_cons]
      omega

section Signs

variable {a b c d : Nat} (ha : a < 64) (hb : b < 64) (hc : c < 64) (hd : d < 64)

include ha hb in
theorem encodeOctets_one (hrest : b % 16 = 0) :
    encodeOctets [firstOctet a b] = [sign a, sign b, padding, padding] := by
  rw [encodeOctets, encodeChars_one ha hb hrest]
  rfl

include ha hb hc in
theorem encodeOctets_two (hrest : c % 4 = 0) :
    encodeOctets [firstOctet a b, secondOctet b c] = [sign a, sign b, sign c, padding] := by
  rw [encodeOctets, encodeChars_two ha hb hc hrest]
  rfl

include ha hb hc hd in
theorem encodeOctets_cons (octets : List UInt8) :
    encodeOctets (firstOctet a b :: secondOctet b c :: thirdOctet c d :: octets) =
      sign a :: sign b :: sign c :: sign d :: encodeOctets octets := by
  rw [encodeOctets, encodeChars_cons ha hb hc hd]
  rfl

end Signs

theorem valueAt_sign (h : value < 64) : valueAt (sign value) index = .ok value :=
  valueAt_eq_ok_iff.mpr (value?_sign h)

/-- A quad that is not the last. -/
theorem decodeFrom_signs {a b c d : Nat} (ha : a < 64) (hb : b < 64) (hc : c < 64) (hd : d < 64)
    (hwritten : written ≠ []) :
    decodeFrom start (sign a :: sign b :: sign c :: sign d :: written) =
      (decodeFrom (start + 4) written).map fun octets =>
        firstOctet a b :: secondOctet b c :: thirdOctet c d :: octets := by
  cases written with
  | nil => exact absurd rfl hwritten
  | cons octet rest =>
      rw [decodeFrom, valueAt_sign ha, valueAt_sign hb, valueAt_sign hc, valueAt_sign hd]
      cases decodeFrom (start + 4) (octet :: rest) <;> rfl

/-- The last quad. -/
theorem decodeLast_signs (start : Nat) {values : List Nat} (hvalues : ∀ value ∈ values, value < 64)
    (htwo : 2 ≤ values.length) (k : Nat) (hquad : (k + values.length) % 4 = 0) :
    decodeLast start (values.map sign ++ List.replicate k padding) =
      octetsOfLast start (values.map fun value => (sign value, value)) := by
  have hread := isRead_signs hvalues
  have hlast : decodeLast start ((values.map fun value => (sign value, value)).map Prod.fst ++
      List.replicate k padding) = _ :=
    decodeLast_of_isRead hread (by rwa [List.length_map]) (by rwa [List.length_map])
  rw [List.map_map] at hlast
  exact hlast

/-- What was written is read. -/
theorem decodeFrom_encodeOctets (octets : List UInt8) (start : Nat) :
    decodeFrom start (encodeOctets octets) = .ok octets := by
  induction octets using octets_induction generalizing start with
  | nil => rfl
  | one a b ha hb hrest =>
      have hvalues : ∀ value ∈ [a, b], value < 64 := by simp [ha, hb]
      rw [encodeOctets_one ha hb hrest]
      exact (decodeLast_signs start hvalues (Nat.le_refl 2) 2 (by simp)).trans (if_pos hrest)
  | two a b c ha hb hc hrest =>
      have hvalues : ∀ value ∈ [a, b, c], value < 64 := by simp [ha, hb, hc]
      rw [encodeOctets_two ha hb hc hrest]
      exact (decodeLast_signs start hvalues (Nat.le_succ 2) 1 (by simp)).trans (if_pos hrest)
  | cons a b c d octets ha hb hc hd ih =>
      rw [encodeOctets_cons ha hb hc hd]
      by_cases hnil : encodeOctets octets = []
      · have hlast := ih 0
        rw [hnil] at hlast
        cases hlast
        have hvalues : ∀ value ∈ [a, b, c, d], value < 64 := by simp [ha, hb, hc, hd]
        exact decodeLast_signs start hvalues (Nat.le_add_left 2 2) 0 (by simp)
      · rw [decodeFrom_signs ha hb hc hd hnil, ih]
        rfl

/-- Octets that are read as a last quad were written so. -/
theorem eq_encodeOctets_of_decodeLast (hlength : written.length ≤ 4)
    (h : decodeLast start written = .ok octets) : written = encodeOctets octets := by
  rcases exists_of_decodeLast h with ⟨rfl, rfl⟩ | ⟨symbols, k, hread, htwo, rfl, hquad, hoctets⟩
  · rfl
  · rw [List.length_append, List.length_map, List.length_replicate] at hlength
    rcases symbols with _ | ⟨⟨x, a⟩, _ | ⟨⟨y, b⟩, _ | ⟨⟨z, c⟩, _ | ⟨⟨w, d⟩, rest⟩⟩⟩⟩
    · simp at htwo
    · simp at htwo
    all_goals simp only [isRead_cons] at hread
    · obtain ⟨⟨ha, rfl⟩, ⟨hb, rfl⟩, _⟩ := hread
      obtain rfl : k = 2 := by simp at hquad hlength; omega
      rw [octetsOfLast] at hoctets
      split at hoctets
      · next hrest =>
          cases hoctets
          exact (encodeOctets_one ha hb hrest).symm
      · cases hoctets
    · obtain ⟨⟨ha, rfl⟩, ⟨hb, rfl⟩, ⟨hc, rfl⟩, _⟩ := hread
      obtain rfl : k = 1 := by simp at hquad hlength; omega
      rw [octetsOfLast] at hoctets
      split at hoctets
      · next hrest =>
          cases hoctets
          exact (encodeOctets_two ha hb hc hrest).symm
      · cases hoctets
    · obtain ⟨⟨ha, rfl⟩, ⟨hb, rfl⟩, ⟨hc, rfl⟩, ⟨hd, rfl⟩, _⟩ := hread
      obtain ⟨rfl, hnone⟩ : k = 0 ∧ rest.length = 0 := by simp at hlength; omega
      obtain rfl := List.length_eq_zero_iff.mp hnone
      cases hoctets
      exact (encodeOctets_cons ha hb hc hd []).symm

/-- Octets that can be read were written so. -/
theorem eq_encodeOctets_of_decodeFrom (h : decodeFrom start written = .ok octets) :
    written = encodeOctets octets := by
  induction start, written using decodeFrom.induct generalizing octets with
  | case1 start x y z w e rest ih =>
      simp only [decodeFrom, bind_eq_ok_iff, valueAt_eq_ok_iff, value?_eq_some_iff] at h
      obtain ⟨a, ⟨ha, rfl⟩, b, ⟨hb, rfl⟩, c, ⟨hc, rfl⟩, d, ⟨hd, rfl⟩, rest', hrest, hoctets⟩ := h
      cases hoctets
      rw [ih hrest]
      exact (encodeOctets_cons ha hb hc hd _).symm
  | case2 start written hshort =>
      have hlength : written.length ≤ 4 := by
        rcases written with _ | ⟨a, _ | ⟨b, _ | ⟨c, _ | ⟨d, _ | ⟨e, rest⟩⟩⟩⟩⟩
        case cons.cons.cons.cons.cons => exact (hshort a b c d e rest rfl).elim
        all_goals simp
      rw [decodeFrom] at h
      · exact eq_encodeOctets_of_decodeLast hlength h
      · exact hshort

theorem strayLast?_encodeOctets (octets : List UInt8) :
    strayLast? (encodeOctets octets) = none := by
  have hlength := length_encodeOctets octets
  rw [strayLast?]
  split
  · exact if_neg fun h => by omega
  · rfl

/-- Exactly the written form is read. -/
theorem decodeOctets_eq_ok_iff :
    decodeOctets written = .ok octets ↔ written = encodeOctets octets := by
  constructor
  · intro h
    rw [decodeOctets] at h
    split at h
    · cases h
    · exact eq_encodeOctets_of_decodeFrom h
  · rintro rfl
    rw [decodeOctets, strayLast?_encodeOctets]
    exact decodeFrom_encodeOctets octets 0

theorem isBlank_of_mem_encodeChars (octets : List UInt8) :
    ∀ c ∈ encodeChars octets, isBlank c = false :=
  forall_mem_encodeChars (by decide +kernel) (by decide) octets

theorem toList_loop (bytes : ByteArray) (i : Nat) (before : List UInt8) :
    ByteArray.toList.loop bytes i before = before.reverse ++ bytes.data.toList.drop i := by
  fun_induction ByteArray.toList.loop bytes i before with
  | case1 i before hlt ih =>
      have hi : i < bytes.data.toList.length := by simpa using hlt
      have hget : bytes.get! i = bytes.data.toList[i] := by
        rw [Array.getElem_toList]
        exact getElem!_pos bytes.data i hlt
      rw [ih, List.drop_eq_getElem_cons hi, hget, List.reverse_cons, List.append_assoc]
      rfl
  | case2 i before hnot =>
      have hi : bytes.data.toList.length ≤ i := by simpa using hnot
      rw [List.drop_eq_nil_of_le hi, List.append_nil]

/-- The octets of a text are those of its characters. -/
theorem toList_toUTF8 (text : List Char) :
    (String.ofList text).toUTF8.toList = text.flatMap String.utf8EncodeChar := by
  change (String.ofList text).toByteArray.toList = _
  rw [ByteArray.toList, toList_loop, String.toByteArray_ofList, List.utf8Encode,
    List.toList_data_toByteArray]
  rfl

theorem toUTF8_toList_injective {text other : String}
    (h : text.toUTF8.toList = other.toUTF8.toList) : text = other := by
  rw [ByteArray.toList, toList_loop, ByteArray.toList, toList_loop] at h
  exact String.toByteArray_inj.mp (ByteArray.ext (Array.toList_inj.mp h))

/-- The octets of the written form. Its characters are ASCII. -/
theorem toList_toUTF8_encode (octets : List UInt8) :
    (encode octets).toUTF8.toList = encodeOctets octets := by
  have hascii : ∀ c ∈ encodeChars octets, String.utf8EncodeChar c = [UInt8.ofNat c.toNat] :=
    forall_mem_encodeChars (by decide +kernel) (by decide) octets
  rw [encode, toList_toUTF8, encodeOctets, List.map_eq_flatMap]
  exact List.flatMap_congr hascii

/-- Exactly the written form of octets is read, and these are what is read. -/
theorem decode_eq_ok_iff {text : String} : decode text = .ok octets ↔ text = encode octets := by
  rw [decode, decodeOctets_eq_ok_iff, ← toList_toUTF8_encode]
  exact ⟨toUTF8_toList_injective, fun h => by rw [h]⟩

end Base64

/-- The text is the written form of octets between white space. -/
def Wraps (text : String) (octets : List UInt8) : Prop :=
  ∃ before after : String, isBlankText before = true ∧ isBlankText after = true ∧
    text = before ++ Base64.encode octets ++ after

/-- Trimmed, it is read as these octets, and no other text is. -/
theorem decode_trim_eq_ok_iff {text : String} {octets : List UInt8} :
    Base64.decode (trim text) = .ok octets ↔ Wraps text octets := by
  rw [Base64.decode_eq_ok_iff, trim, Base64.encode, String.ofList_inj]
  constructor
  · intro htrimmed
    obtain ⟨before, after, hbefore, hafter, htext⟩ := exists_eq_append_trimChars text.toList
    refine ⟨String.ofList before, String.ofList after, ?_, ?_, ?_⟩
    · rwa [isBlankText, String.toList_ofList]
    · rwa [isBlankText, String.toList_ofList]
    · rw [Base64.encode, ← htrimmed, ← String.ofList_append, ← String.ofList_append, ← htext,
        String.ofList_toList]
  · rintro ⟨before, after, hbefore, hafter, rfl⟩
    rw [String.toList_append, String.toList_append, Base64.encode, String.toList_ofList]
    exact trimChars_append hbefore
      (isTrimmed_of_forall (Base64.isBlank_of_mem_encodeChars octets)) hafter

end ClusterKeeper.Text

import Mathlib.Data.List.Basic
import WorksheetUpload.Text.Utf8

/-! UTF-8 reads back what it wrote: the octets of a text are scanned into its very characters, so
that the strict reader and the lossy one agree on them. The strict reader takes nothing else. -/
namespace WorksheetUpload.Utf8

/-- The bounds on first octets, as numbers. -/
theorem lead?_ofNat {n : Nat} (h : n < 256) : lead? (UInt8.ofNat n) =
    if n < 0x80 then some ⟨0,0x80,0xBF,n⟩
    else if n < 0xC2 then none
    else if n < 0xE0 then some ⟨1,0x80,0xBF,n-0xC0⟩
    else if n = 0xE0 then some ⟨2,0xA0,0xBF,0⟩
    else if n = 0xED then some ⟨2,0x80,0x9F,0x0D⟩
    else if n < 0xF0 then some ⟨2,0x80,0xBF,n-0xE0⟩
    else if n = 0xF0 then some ⟨3,0x90,0xBF,0⟩
    else if n < 0xF4 then some ⟨3,0x80,0xBF,n-0xF0⟩
    else if n = 0xF4 then some ⟨3,0x80,0x8F,4⟩
    else none := by
  have hn : (UInt8.ofNat n).toNat = n := UInt8.toNat_ofNat_of_lt' h
  simp only [lead?,UInt8.lt_iff_toNat_lt,← UInt8.toNat_inj,hn]
  rfl

/-- An octet that continues a character adds its six bits. -/
theorem follow_cons {n k value : Nat} {low high : UInt8} {rest : Bytes} (hk : k < 64)
    (hl : low.toNat ≤ k+128) (hh : k+128 ≤ high.toNat) :
    follow (n+1) low high value (UInt8.ofNat (k+128) :: rest) =
      follow n 0x80 0xBF (value*64+k) rest := by
  have hn : (UInt8.ofNat (k+128)).toNat = k+128 :=
    UInt8.toNat_ofNat_of_lt' (by simp only [UInt8.size]; omega)
  rw [follow,if_pos ⟨UInt8.le_iff_toNat_le.2 (by rwa [hn]),UInt8.le_iff_toNat_le.2 (by rwa [hn])⟩,hn,
    Nat.add_sub_cancel]

theorem next_one {n : Nat} (h : n < 0x80) (rest : Bytes) :
    next (UInt8.ofNat n) rest = (some (Char.ofNat n),rest) := by
  simp [next,lead?_ofNat (by omega : n < 256),h,follow]

theorem next_two {k j : Nat} (low : 2 ≤ k) (hk : k < 32) (hj : j < 64) (rest : Bytes) :
    next (UInt8.ofNat (k+192)) (UInt8.ofNat (j+128) :: rest) =
      (some (Char.ofNat (k*64+j)),rest) := by
  have hl : lead? (UInt8.ofNat (k+192)) = some ⟨1,0x80,0xBF,k⟩ := by
    rw [lead?_ofNat (by omega),if_neg (by omega),if_neg (by omega),if_pos (by omega),
      Nat.add_sub_cancel]
  simp only [next,hl]
  rw [follow_cons hj (by simp) (by simp; omega),follow]

/-- The second octet of three keeps overlong forms and surrogates out. -/
theorem next_three {k j i : Nat} (hk : k < 16) (hj : j < 64) (hi : i < 64) (low : 0 < k ∨ 32 ≤ j)
    (gap : k ≠ 13 ∨ j < 32) (rest : Bytes) :
    next (UInt8.ofNat (k+224)) (UInt8.ofNat (j+128) :: UInt8.ofNat (i+128) :: rest) =
      (some (Char.ofNat ((k*64+j)*64+i)),rest) := by
  have hl : ∃ low high, lead? (UInt8.ofNat (k+224)) = some ⟨2,low,high,k⟩ ∧
      low.toNat ≤ j+128 ∧ j+128 ≤ high.toNat := by
    rw [lead?_ofNat (by omega),if_neg (by omega),if_neg (by omega),if_neg (by omega)]
    rcases Nat.eq_zero_or_pos k with rfl | hk'
    · exact ⟨_,_,rfl,by simp; omega,by simp; omega⟩
    · rw [if_neg (by omega)]
      by_cases hg : k = 13
      · subst hg
        exact ⟨_,_,rfl,by simp,by simp; omega⟩
      · rw [if_neg (by omega),if_pos (by omega),Nat.add_sub_cancel]
        exact ⟨_,_,rfl,by simp,by simp; omega⟩
  obtain ⟨low,high,hl,hlow,hhigh⟩ := hl
  simp only [next,hl]
  rw [follow_cons hj hlow hhigh,follow_cons hi (by simp) (by simp; omega),follow]

/-- The second octet of four keeps overlong forms and numbers past the last character out. -/
theorem next_four {k j i l : Nat} (hk : k < 5) (hj : j < 64) (hi : i < 64) (hl : l < 64)
    (low : 0 < k ∨ 16 ≤ j) (top : k < 4 ∨ j < 16) (rest : Bytes) :
    next (UInt8.ofNat (k+240))
      (UInt8.ofNat (j+128) :: UInt8.ofNat (i+128) :: UInt8.ofNat (l+128) :: rest) =
      (some (Char.ofNat (((k*64+j)*64+i)*64+l)),rest) := by
  have hlead : ∃ low high, lead? (UInt8.ofNat (k+240)) = some ⟨3,low,high,k⟩ ∧
      low.toNat ≤ j+128 ∧ j+128 ≤ high.toNat := by
    rw [lead?_ofNat (by omega),if_neg (by omega),if_neg (by omega),if_neg (by omega),
      if_neg (by omega),if_neg (by omega),if_neg (by omega)]
    rcases Nat.eq_zero_or_pos k with rfl | hk'
    · exact ⟨_,_,rfl,by simp; omega,by simp; omega⟩
    · rw [if_neg (by omega)]
      by_cases ht : k < 4
      · rw [if_pos (by omega),Nat.add_sub_cancel]
        exact ⟨_,_,rfl,by simp,by simp; omega⟩
      · obtain rfl : k = 4 := by omega
        exact ⟨_,_,rfl,by simp,by simp; omega⟩
  obtain ⟨low,high,hlead,hlow,hhigh⟩ := hlead
  simp only [next,hlead]
  rw [follow_cons hj hlow hhigh,follow_cons hi (by simp) (by simp; omega),
    follow_cons hl (by simp) (by simp; omega),follow]

/-- A scan begins with the character whose octets come first. -/
theorem scan_encodeChar (c : Char) (rest : Bytes) :
    scan (String.utf8EncodeChar c ++ rest) = some c :: scan rest := by
  have scanned {b : UInt8} {bs : Bytes} {n : Nat} (hn : n = c.toNat)
      (h : next b (bs ++ rest) = (some (Char.ofNat n),rest)) :
      scan (b :: bs ++ rest) = some c :: scan rest := by
    rw [List.cons_append,scan,h,hn,Char.ofNat_toNat]
  have hv : c.val.toNat < 0xD800 ∨ 0xDFFF < c.val.toNat ∧ c.val.toNat < 0x110000 := c.valid
  fun_cases String.utf8EncodeChar
  case case1 v h => exact @scanned _ [] _ rfl (next_one (by omega) rest)
  case case2 v _ h =>
    refine scanned ?_ (next_two (by omega) (by omega) (by omega) rest)
    change _ = v
    omega
  case case3 v _ _ h =>
    refine scanned ?_ (next_three (by omega) (by omega) (by omega) (by omega) (by omega) rest)
    change _ = v
    omega
  case case4 v _ _ h =>
    refine scanned ?_ (next_four (by omega) (by omega) (by omega) (by omega) (by omega) (by omega) rest)
    change _ = v
    omega

theorem scan_encode (text : List Char) : scan (encode text) = text.map some := by
  induction text with
  | nil => rw [encode_nil,scan]; rfl
  | cons c text ih => rw [encode_cons,scan_encodeChar,ih,List.map_cons]

@[simp] theorem decode?_encode (text : List Char) : decode? (encode text) = some text := by
  rw [decode?,scan_encode]
  induction text with
  | nil => rfl
  | cons c text ih => simp_all

@[simp] theorem lossy_encode (text : List Char) : lossy (encode text) = text := by
  simp [lossy,scan_encode,Function.comp_def]

theorem encode_injective {s t : List Char} (h : encode s = encode t) : s = t := by
  rw [← lossy_encode s,h,lossy_encode]

/-- A character that is read in full has an octet within the bounds next. -/
theorem follow_succ_eq_some {n value : Nat} {low high : UInt8} {rest tail : Bytes} {c : Char}
    (hl : 0x80 ≤ low.toNat) (hh : high.toNat ≤ 0xBF)
    (h : follow (n+1) low high value rest = (some c,tail)) :
    ∃ k beyond, rest = UInt8.ofNat (k+128) :: beyond ∧ k < 64 ∧ low.toNat ≤ k+128 ∧
      k+128 ≤ high.toNat ∧ follow n 0x80 0xBF (value*64+k) beyond = (some c,tail) := by
  cases rest with
  | nil => cases h
  | cons b beyond =>
    rw [follow] at h
    split at h
    case isTrue bounds =>
      have lower := UInt8.le_iff_toNat_le.1 bounds.1
      have upper := UInt8.le_iff_toNat_le.1 bounds.2
      have octet : b.toNat-128+128 = b.toNat := by omega
      refine ⟨b.toNat-128,beyond,?_,by omega,by omega,by omega,h⟩
      rw [octet,UInt8.ofNat_toNat]
    case isFalse => cases h

/-- A character takes one octet, its number, or several that lie past all such numbers. -/
theorem octets_encodeChar (c : Char) :
    (c.toNat < 0x80 ∧ String.utf8EncodeChar c = [UInt8.ofNat c.toNat]) ∨
      0x80 ≤ c.toNat ∧ ∀ b ∈ String.utf8EncodeChar c, 0x80 ≤ b.toNat := by
  have valid := c.valid
  simp only [UInt32.isValidChar,Nat.isValidChar] at valid
  have past {n : Nat} (h : n < 256) (past : 0x80 ≤ n) : 0x80 ≤ (UInt8.ofNat n).toNat := by
    rwa [UInt8.toNat_ofNat_of_lt' h]
  have several (h : ¬ c.val.toNat ≤ 0x7F) : 0x80 ≤ c.toNat := Nat.lt_of_not_le h
  fun_cases String.utf8EncodeChar
  case case1 v h => exact .inl ⟨Nat.lt_succ_of_le h,rfl⟩
  case case2 v one h =>
    refine .inr ⟨several one,?_⟩
    simp only [List.forall_mem_cons]
    refine ⟨past ?_ ?_,past ?_ ?_,nofun⟩ <;> omega
  case case3 v one _ h =>
    refine .inr ⟨several one,?_⟩
    simp only [List.forall_mem_cons]
    refine ⟨past ?_ ?_,past ?_ ?_,past ?_ ?_,nofun⟩ <;> omega
  case case4 v one _ h =>
    refine .inr ⟨several one,?_⟩
    simp only [List.forall_mem_cons]
    refine ⟨past ?_ ?_,past ?_ ?_,past ?_ ?_,past ?_ ?_,nofun⟩ <;> omega

/-- The octets of a character, from its number. -/
theorem encodeChar_ofNat {v : Nat} (hv : v < 0xD800 ∨ 0xDFFF < v ∧ v < 0x110000) :
    String.utf8EncodeChar (Char.ofNat v) =
    if v ≤ 127 then [UInt8.ofNat v]
    else if v ≤ 2047 then [UInt8.ofNat (v/64%32 + 192),UInt8.ofNat (v%64 + 128)]
    else if v ≤ 65535 then
      [UInt8.ofNat (v/4096%16 + 224),UInt8.ofNat (v/64%64 + 128),UInt8.ofNat (v%64 + 128)]
    else [UInt8.ofNat (v/262144%8 + 240),UInt8.ofNat (v/4096%64 + 128),
      UInt8.ofNat (v/64%64 + 128),UInt8.ofNat (v%64 + 128)] := by
  have valid : v.isValidChar := hv
  have value : (Char.ofNat v).val.toNat = v := by
    rw [Char.ofNat,dif_pos valid]
    rfl
  rw [String.utf8EncodeChar,value]

/-- What a first octet announces tells the octet, and the bounds tell which numbers are written so. -/
theorem lead?_eq_some {n m k : Nat} {low high : UInt8} (hn : n < 256)
    (h : lead? (UInt8.ofNat n) = some ⟨m,low,high,k⟩) :
    (m = 0 ∧ n = k ∧ k < 0x80) ∨
    (0x80 ≤ low.toNat ∧ high.toNat ≤ 0xBF ∧
      ((m = 1 ∧ n = k+192 ∧ 2 ≤ k ∧ k < 32) ∨
        (m = 2 ∧ n = k+224 ∧ k < 16 ∧ (k = 0 → 0xA0 ≤ low.toNat) ∧ (k = 13 → high.toNat ≤ 0x9F)) ∨
        (m = 3 ∧ n = k+240 ∧ k < 5 ∧ (k = 0 → 0x90 ≤ low.toNat) ∧ (k = 4 → high.toNat ≤ 0x8F)))) := by
  rw [lead?_ofNat hn] at h
  split_ifs at h <;> cases h <;> simp <;> omega

/-- A character is read from no octets but its own. -/
theorem eq_encodeChar_of_next {b : UInt8} {rest tail : Bytes} {c : Char}
    (h : next b rest = (some c,tail)) : b :: rest = String.utf8EncodeChar c ++ tail := by
  have octet : UInt8.ofNat b.toNat = b := UInt8.ofNat_toNat
  rw [next] at h
  cases hl : lead? b with
  | none =>
    rw [hl] at h
    cases h
  | some l =>
    obtain ⟨following,low,high,k⟩ := l
    simp only [hl] at h
    rcases lead?_eq_some b.toNat_lt (octet.symm ▸ hl) with one | ⟨least,most,two | three | four⟩
    case inl =>
      obtain ⟨rfl,hb,hk⟩ := one
      cases h
      rw [encodeChar_ofNat (by omega),if_pos (by omega),← hb,octet]
      rfl
    case inr.inl =>
      obtain ⟨rfl,hb,overlong,hk⟩ := two
      obtain ⟨j,_,rfl,hj,-,-,h⟩ := follow_succ_eq_some least most h
      cases h
      rw [encodeChar_ofNat (by omega),if_neg (by omega),if_pos (by omega),← octet,hb]
      congr <;> omega
    case inr.inr.inl =>
      obtain ⟨rfl,hb,hk,overlong,surrogate⟩ := three
      obtain ⟨j,_,rfl,hj,lower,upper,h⟩ := follow_succ_eq_some least most h
      obtain ⟨i,_,rfl,hi,-,-,h⟩ := follow_succ_eq_some (by decide) (by decide) h
      cases h
      rw [encodeChar_ofNat (by omega),if_neg (by omega),if_neg (by omega),
        if_pos (by omega),← octet,hb]
      congr <;> omega
    case inr.inr.inr =>
      obtain ⟨rfl,hb,hk,overlong,last⟩ := four
      obtain ⟨j,_,rfl,hj,lower,upper,h⟩ := follow_succ_eq_some least most h
      obtain ⟨i,_,rfl,hi,-,-,h⟩ := follow_succ_eq_some (by decide) (by decide) h
      obtain ⟨m,_,rfl,hm,-,-,h⟩ := follow_succ_eq_some (by decide) (by decide) h
      cases h
      rw [encodeChar_ofNat (by omega),if_neg (by omega),if_neg (by omega),
        if_neg (by omega),← octet,hb]
      congr <;> omega

/-- What is read is the text that the octets are the UTF-8 of. -/
theorem decode?_eq_some_iff {bytes : Bytes} {text : List Char} :
    decode? bytes = some text ↔ encode text = bytes := by
  constructor
  case mpr =>
    rintro rfl
    exact decode?_encode text
  case mp =>
    rw [decode?]
    fun_induction scan bytes generalizing text with
    | case1 =>
      intro h
      cases h
      rfl
    | case2 b rest ih =>
      intro h
      rw [List.mapM_cons] at h
      obtain ⟨c,hc,h⟩ := Option.bind_eq_some_iff.1 h
      obtain ⟨cs,hcs,h⟩ := Option.bind_eq_some_iff.1 h
      cases h
      rw [encode_cons,ih hcs]
      exact (eq_encodeChar_of_next (Prod.ext hc rfl)).symm

theorem follow_suffix (n : Nat) (low high : UInt8) (value : Nat) (rest : Bytes) :
    (follow n low high value rest).2 <:+ rest := by
  fun_induction follow with
  | case1 => exact List.suffix_refl _
  | case2 => exact List.suffix_refl _
  | case3 _ _ _ _ b _ _ ih => exact ih.trans (List.suffix_cons b _)
  | case4 => exact List.suffix_refl _

theorem next_suffix (b : UInt8) (rest : Bytes) : (next b rest).2 <:+ rest := by
  rw [next]
  split
  · exact follow_suffix ..
  · exact List.suffix_refl _

/-- Every character that is read has its octets somewhere in the text. -/
theorem infix_of_mem_scan {bytes : Bytes} {c : Char} (h : some c ∈ scan bytes) :
    String.utf8EncodeChar c <:+: bytes := by
  fun_induction scan bytes with
  | case1 => cases h
  | case2 b rest ih =>
    rcases List.mem_cons.1 h with first | later
    · rw [eq_encodeChar_of_next (Prod.ext first.symm rfl)]
      exact (List.prefix_append _ _).isInfix
    · exact (ih later).trans ((next_suffix b rest).isInfix.trans (List.suffix_cons b rest).isInfix)

theorem infix_of_mem_lossy {bytes : Bytes} {c : Char} (h : c ∈ lossy bytes) (own : c ≠ '\uFFFD') :
    String.utf8EncodeChar c <:+: bytes := by
  obtain ⟨read,there,rfl⟩ := List.mem_map.1 h
  cases read with
  | none => exact absurd rfl own
  | some c => exact infix_of_mem_scan there

@[simp] theorem lossy_eq_nil_iff {bytes : Bytes} : lossy bytes = [] ↔ bytes = [] := by
  cases bytes with
  | nil => simp [lossy,scan]
  | cons b rest => simp [lossy,scan]

/-- A text that was read without replacements is all that there was. -/
theorem encode_lossy {bytes : Bytes} (h : '\uFFFD' ∉ lossy bytes) : encode (lossy bytes) = bytes := by
  have whole : none ∉ scan bytes := fun lost => h (List.mem_map.2 ⟨none,lost,rfl⟩)
  refine decode?_eq_some_iff.1 ?_
  rw [decode?,lossy]
  generalize scan bytes = read at whole
  induction read with
  | nil => rfl
  | cons c read ih =>
    simp only [List.mem_cons,not_or] at whole
    cases c with
    | none => exact absurd rfl whole.1
    | some c => simp [ih whole.2]

end WorksheetUpload.Utf8

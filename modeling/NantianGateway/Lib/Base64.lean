import Mathlib.Data.List.Basic

/-!
# Base64 without padding, URL-safe alphabet

The decoder refuses a symbol outside the alphabet, a single symbol left over, and unused bits that
are not zero.  **Strictness is what makes the decoder injective**: a text that decodes to some bytes
is the text those bytes encode to.
-/

namespace NantianGateway.Base64

open Option

/-! ## The alphabet -/

def symbol (n : ℕ) : Char :=
  if n < 26 then Char.ofNat (65 + n)
  else if n < 52 then Char.ofNat (97 + (n - 26))
  else if n < 62 then Char.ofNat (48 + (n - 52))
  else if n = 62 then '-'
  else '_'

def value (c : Char) : Option ℕ :=
  if 65 ≤ c.toNat ∧ c.toNat ≤ 90 then some (c.toNat - 65)
  else if 97 ≤ c.toNat ∧ c.toNat ≤ 122 then some (c.toNat - 97 + 26)
  else if 48 ≤ c.toNat ∧ c.toNat ≤ 57 then some (c.toNat - 48 + 52)
  else if c = '-' then some 62
  else if c = '_' then some 63
  else none

variable {n : ℕ}

theorem value_symbol (hn : n < 64) : value (symbol n) = some n := by
  have hall : ∀ n : Fin 64, value (symbol n) = some n.val := by decide
  exact hall ⟨n, hn⟩

theorem symbol_of_value_eq_some {c : Char} (h : value c = some n) : n < 64 ∧ symbol n = c := by
  have hofNat : ∀ m, m = c.toNat → Char.ofNat m = c := by
    rintro m rfl
    exact Char.ofNat_toNat c
  rw [value] at h
  split_ifs at h with h1 h2 h3 h4 h5
  · obtain rfl := Option.some.inj h
    refine ⟨by omega, ?_⟩
    rw [symbol, if_pos (by omega)]
    exact hofNat _ (by omega)
  · obtain rfl := Option.some.inj h
    refine ⟨by omega, ?_⟩
    rw [symbol, if_neg (by omega), if_pos (by omega)]
    exact hofNat _ (by omega)
  · obtain rfl := Option.some.inj h
    refine ⟨by omega, ?_⟩
    rw [symbol, if_neg (by omega), if_neg (by omega), if_pos (by omega)]
    exact hofNat _ (by omega)
  · obtain rfl := Option.some.inj h
    exact ⟨by decide, h4.symm⟩
  · obtain rfl := Option.some.inj h
    exact ⟨by decide, h5.symm⟩

/-! ## Encoding and decoding -/

def encode : List UInt8 → List Char
  | [] => []
  | [a] => [symbol (a.toNat / 4), symbol (a.toNat % 4 * 16)]
  | [a, b] =>
    [symbol (a.toNat / 4), symbol (a.toNat % 4 * 16 + b.toNat / 16), symbol (b.toNat % 16 * 4)]
  | a :: b :: c :: rest =>
    symbol (a.toNat / 4) :: symbol (a.toNat % 4 * 16 + b.toNat / 16) ::
      symbol (b.toNat % 16 * 4 + c.toNat / 64) :: symbol (c.toNat % 64) :: encode rest

def decode : List Char → Option (List UInt8)
  | [] => some []
  | [_] => none
  | [p, q] => do
      let p ← value p
      let q ← value q
      if q % 16 = 0 then some [UInt8.ofNat (p * 4 + q / 16)] else none
  | [p, q, r] => do
      let p ← value p
      let q ← value q
      let r ← value r
      if r % 4 = 0 then
        some [UInt8.ofNat (p * 4 + q / 16), UInt8.ofNat (q % 16 * 16 + r / 4)]
      else none
  | p :: q :: r :: s :: rest => do
      let p ← value p
      let q ← value q
      let r ← value r
      let s ← value s
      let rest ← decode rest
      some (UInt8.ofNat (p * 4 + q / 16) :: UInt8.ofNat (q % 16 * 16 + r / 4) ::
        UInt8.ofNat (r % 4 * 64 + s) :: rest)

theorem ofNat_eq {a : UInt8} (h : n = a.toNat) : UInt8.ofNat n = a := by
  rw [h, UInt8.ofNat_toNat]

theorem decode_encode (bytes : List UInt8) : decode (encode bytes) = some bytes := by
  fun_induction encode bytes with
  | case1 => rfl
  | case2 a =>
    have ha := a.toNat_lt
    simp only [decode, bind_eq_bind]
    rw [value_symbol (by omega), value_symbol (by omega)]
    simp only [bind_some]
    rw [if_pos (by omega), ofNat_eq (a := a) (by omega)]
  | case3 a b =>
    have ha := a.toNat_lt
    have hb := b.toNat_lt
    simp only [decode, bind_eq_bind]
    rw [value_symbol (by omega), value_symbol (by omega), value_symbol (by omega)]
    simp only [bind_some]
    rw [if_pos (by omega), ofNat_eq (a := a) (by omega), ofNat_eq (a := b) (by omega)]
  | case4 a b c rest ih =>
    have ha := a.toNat_lt
    have hb := b.toNat_lt
    have hc := c.toNat_lt
    simp only [decode, bind_eq_bind, ih]
    rw [value_symbol (by omega), value_symbol (by omega), value_symbol (by omega),
      value_symbol (by omega)]
    simp only [bind_some]
    rw [ofNat_eq (a := a) (by omega), ofNat_eq (a := b) (by omega), ofNat_eq (a := c) (by omega)]

theorem toNat_ofNat_of_lt (h : n < 256) : (UInt8.ofNat n).toNat = n :=
  UInt8.toNat_ofNat_of_lt' h

/-- **Nothing else is read**: a text that decodes is the encoding of what it decodes to. -/
theorem encode_of_decode_eq_some {text : List Char} {bytes : List UInt8}
    (h : decode text = some bytes) : encode bytes = text := by
  fun_induction decode text generalizing bytes with
  | case1 =>
    obtain rfl := Option.some.inj h
    rfl
  | case2 => cases h
  | case3 p q =>
    simp only [bind_eq_bind, bind_eq_some_iff] at h
    obtain ⟨m, hm, n, hn, h⟩ := h
    split_ifs at h with hzero
    obtain rfl := Option.some.inj h
    obtain ⟨hm64, rfl⟩ := symbol_of_value_eq_some hm
    obtain ⟨hn64, rfl⟩ := symbol_of_value_eq_some hn
    rw [encode, toNat_ofNat_of_lt (by omega)]
    congr 3 <;> omega
  | case4 p q r =>
    simp only [bind_eq_bind, bind_eq_some_iff] at h
    obtain ⟨m, hm, n, hn, k, hk, h⟩ := h
    split_ifs at h with hzero
    obtain rfl := Option.some.inj h
    obtain ⟨hm64, rfl⟩ := symbol_of_value_eq_some hm
    obtain ⟨hn64, rfl⟩ := symbol_of_value_eq_some hn
    obtain ⟨hk64, rfl⟩ := symbol_of_value_eq_some hk
    rw [encode, toNat_ofNat_of_lt (by omega), toNat_ofNat_of_lt (by omega)]
    congr 4 <;> omega
  | case5 p q r s rest ih =>
    simp only [bind_eq_bind, bind_eq_some_iff] at h
    obtain ⟨m, hm, n, hn, k, hk, j, hj, tail, htail, h⟩ := h
    obtain rfl := Option.some.inj h
    obtain ⟨hm64, rfl⟩ := symbol_of_value_eq_some hm
    obtain ⟨hn64, rfl⟩ := symbol_of_value_eq_some hn
    obtain ⟨hk64, rfl⟩ := symbol_of_value_eq_some hk
    obtain ⟨hj64, rfl⟩ := symbol_of_value_eq_some hj
    rw [encode, ih htail, toNat_ofNat_of_lt (by omega), toNat_ofNat_of_lt (by omega),
      toNat_ofNat_of_lt (by omega)]
    congr 5 <;> omega

theorem symbol_ne {d : Char} (hd : value d = none) {n : ℕ} (hn : n < 64) : d ≠ symbol n := by
  rintro rfl
  rw [value_symbol hn] at hd
  cases hd

theorem not_mem_encode {d : Char} (hd : value d = none) (bytes : List UInt8) :
    d ∉ encode bytes := by
  fun_induction encode bytes with
  | case1 => exact List.not_mem_nil
  | case2 a =>
    have ha := a.toNat_lt
    simp only [List.mem_cons, List.not_mem_nil, or_false, not_or]
    exact ⟨symbol_ne hd (by omega), symbol_ne hd (by omega)⟩
  | case3 a b =>
    have ha := a.toNat_lt
    have hb := b.toNat_lt
    simp only [List.mem_cons, List.not_mem_nil, or_false, not_or]
    exact ⟨symbol_ne hd (by omega), symbol_ne hd (by omega), symbol_ne hd (by omega)⟩
  | case4 a b c rest ih =>
    have ha := a.toNat_lt
    have hb := b.toNat_lt
    have hc := c.toNat_lt
    simp only [List.mem_cons, not_or]
    exact ⟨symbol_ne hd (by omega), symbol_ne hd (by omega), symbol_ne hd (by omega),
      symbol_ne hd (by omega), ih⟩

end NantianGateway.Base64

import Mathlib.Algebra.Order.BigOperators.Group.List
import NantianGateway.Lib.Text

/-!
# The URL that crosses the login

A request without a session is sent to the identity provider, and its URL goes along in the `state`
of the authorization request.  `url_encode` writes the bytes of the URL, `url_decode` reads
characters, so what comes back are the bytes, each taken for a character.
-/

namespace NantianGateway.Http

open String (utf8EncodeChar)

/-- One byte of `url_encode`: itself if it is unreserved, else `%` and two capital digits. -/
def urlEncodeByte (b : UInt8) : List Char :=
  let c := Char.ofNat b.toNat
  if c.isAlphanum || c ∈ ['-', '_', '.', '~'] then [c]
  else '%' :: [b.toNat / 16, b.toNat % 16].map fun d => d.digitChar.toUpper

variable (s : String)

def urlEncode : String :=
  .ofList ((s.toList.flatMap utf8EncodeChar).flatMap urlEncodeByte)

/-- `u8::from_str_radix(_, 16)` on at most two characters; a leading plus sign is allowed. -/
def fromStrRadix16 (src : List Char) : Option ℕ :=
  let digits := if src.head? = some '+' then src.tail else src
  if digits = [] then none
  else digits.foldlM (fun n c =>
    ((List.range 16).find? (·.digitChar = c.toLower)).map (16 * n + ·)) 0

/-- What `url_decode` makes of the characters after a percent sign.  **A byte is taken for the
character of its number**, not for a part of a UTF-8 sequence. -/
def decodeEscape (hex : List Char) : List Char :=
  match fromStrRadix16 hex with
  | some byte => [Char.ofNat byte]
  | none => '%' :: hex

def urlDecodeChars : List Char → List Char
  | [] => []
  | ['%'] => decodeEscape []
  | ['%', a] => decodeEscape [a]
  | '%' :: a :: b :: rest => decodeEscape [a, b] ++ urlDecodeChars rest
  | c :: rest => (if c = '+' then ' ' else c) :: urlDecodeChars rest

def urlDecode : String := .ofList (urlDecodeChars s.toList)

theorem urlDecodeChars_urlEncodeByte (b : UInt8) (rest : List Char) :
    urlDecodeChars (urlEncodeByte b ++ rest) = Char.ofNat b.toNat :: urlDecodeChars rest := by
  have hkept : ∀ n < 256, ((Char.ofNat n).isAlphanum || Char.ofNat n ∈ ['-', '_', '.', '~']) →
      Char.ofNat n ≠ '%' ∧ Char.ofNat n ≠ '+' := by
    decide +kernel
  have hhex : ∀ n < 256, decodeEscape ([n / 16, n % 16].map fun d => d.digitChar.toUpper) =
      [Char.ofNat n] := by
    decide +kernel
  rw [urlEncodeByte]
  split_ifs with hsafe
  · obtain ⟨hpercent, hplus⟩ := hkept _ b.toNat_lt hsafe
    rw [List.singleton_append, urlDecodeChars.eq_5 _ _ (fun h _ => hpercent h)
      (fun _ h _ => hpercent h) (fun _ _ _ h _ => hpercent h), if_neg hplus]
  · exact congrArg (· ++ urlDecodeChars rest) (hhex _ b.toNat_lt)

theorem urlDecode_urlEncode : urlDecode (urlEncode s) =
    .ofList ((s.toList.flatMap utf8EncodeChar).map fun b => Char.ofNat b.toNat) := by
  rw [urlDecode, urlEncode, String.toList_ofList]
  generalize s.toList.flatMap utf8EncodeChar = bytes
  congr 1
  induction bytes with
  | nil => rfl
  | cons b bytes ih =>
    rw [List.flatMap_cons, urlDecodeChars_urlEncodeByte, ih, List.map_cons]

/-- **The URL survives the login exactly if it is plain ASCII.** -/
theorem url_round_trip_iff (s : String) :
    urlDecode (urlEncode s) = s ↔ ∀ c ∈ s.toList, c.toNat < 128 := by
  rw [urlDecode_urlEncode]
  constructor
  · intro hround c hc
    -- a character beyond ASCII has several bytes, so the result would be longer than the text
    by_contra hbig
    have hlong : (s.toList.map fun _ => 1).sum < (s.toList.map Char.utf8Size).sum := by
      refine List.sum_lt_sum _ _ (fun d _ => d.utf8Size_pos) ⟨c, hc, ?_⟩
      refine lt_of_le_of_ne c.utf8Size_pos fun hone => hbig ?_
      exact Nat.lt_succ_of_le (Char.utf8Size_eq_one_iff.mp hone.symm)
    have hlength := congrArg (·.toList.length) hround
    simp only [String.toList_ofList, List.length_map, List.length_flatMap,
      String.length_utf8EncodeChar] at hlength
    rw [hlength, List.map_const', List.sum_replicate_nat, mul_one] at hlong
    exact hlong.false
  · intro hascii
    have hbyte : ∀ c ∈ s.toList, (utf8EncodeChar c).map (fun b => Char.ofNat b.toNat) = [c] := by
      intro c hc
      have hval : c.val.toNat < 128 := hascii c hc
      rw [String.utf8EncodeChar_eq_singleton
        (Char.utf8Size_eq_one_iff.mpr (Nat.le_of_lt_succ hval)),
        List.map_singleton, UInt32.toNat_toUInt8, Nat.mod_eq_of_lt (by omega)]
      exact congrArg (fun d => [d]) (Char.ofNat_toNat c)
    rw [List.map_flatMap, List.flatMap_congr hbyte, List.flatMap_singleton', String.ofList_toList]

/-- An accented letter comes back as the two characters of its bytes. -/
theorem url_round_trip_garbles : urlDecode (urlEncode "/café") = "/cafÃ©" := by
  decide +kernel

end NantianGateway.Http

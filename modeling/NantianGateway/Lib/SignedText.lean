import Mathlib.Data.Nat.Digits.Lemmas
import Mathlib.Logic.Equiv.List
import NantianGateway.Lib.Base64
import NantianGateway.Lib.Text

/-!
# Signed texts

A server that keeps no state hands its state to the client as a text `body.tag`, both in Base64.
Because the decoder is strict, **a text opens to a body under a key exactly when it is the body
signed under the key** (`opens_iff`).
-/

namespace NantianGateway.SignedText

open Text Base64 String

/-- A serialisation of `α` whose reader accepts what the writer writes. -/
structure Codec (α : Type) where
  write : α → List UInt8
  read : List UInt8 → Option α
  read_write : ∀ a, read (write a) = some a

instance encodableString : Encodable String :=
  Encodable.ofLeftInverse (fun s => s.toList.map Char.toNat)
    (fun codes => String.ofList (codes.map Char.ofNat)) fun s => by
      rw [List.map_map, show Char.ofNat ∘ Char.toNat = id from funext Char.ofNat_toNat, List.map_id,
        ofList_toList]

/-- A codec for every countable type: the digits of the number of a value. -/
def Codec.ofEncodable (α : Type) [Encodable α] : Codec α where
  write a := (Nat.digits 256 (Encodable.encode a)).map UInt8.ofNat
  read bytes := Encodable.decode (Nat.ofDigits 256 (bytes.map UInt8.toNat))
  read_write a := by
    have hdigits : ((Nat.digits 256 (Encodable.encode a)).map UInt8.ofNat).map UInt8.toNat
        = Nat.digits 256 (Encodable.encode a) := by
      rw [List.map_map]
      refine (List.map_congr_left fun digit hdigit => ?_).trans (List.map_id _)
      exact UInt8.toNat_ofNat_of_lt' (Nat.digits_lt_base (by decide) hdigit)
    rw [hdigits, Nat.ofDigits_digits, Encodable.encodek]

variable {Key : Type} (mac : Key → List UInt8 → List UInt8)

def signed (key : Key) (body : List UInt8) : String :=
  String.ofList (encode body ++ '.' :: encode (mac key body))

/-- Somebody who presents the text has computed the tag it carries under the key. -/
def Attainable (log : List (Key × List UInt8)) (key : Key) (text : String) : Prop :=
  ∀ body, text = signed mac key body → (key, body) ∈ log

variable {mac} {key : Key} {body : List UInt8} {text : String}

theorem splitOnce_signed :
    splitOnce '.' (signed mac key body) = some (String.ofList (encode body),
      String.ofList (encode (mac key body))) := by
  rw [splitOnce_eq_some_iff, signed, toList_ofList, toList_ofList, toList_ofList]
  exact ⟨rfl, not_mem_encode (by decide) body⟩

theorem body_eq_of_signed_eq {body' : List UInt8}
    (h : signed mac key body = signed mac key body') : body = body' := by
  have hparts : some (String.ofList (encode body),
      String.ofList (encode (mac key body))) = some (String.ofList (encode body'),
      String.ofList (encode (mac key body'))) := by
    rw [← splitOnce_signed, ← splitOnce_signed, h]
  have hencode : encode body = encode body' :=
    ofList_injective (Prod.mk.inj (Option.some.inj hparts)).1
  exact Option.some.inj (by rw [← decode_encode, hencode, decode_encode])

theorem opens_iff : (∃ parts, splitOnce '.' text = some parts ∧ decode parts.1.toList = some body ∧
      decode parts.2.toList = some (mac key body)) ↔ text = signed mac key body := by
  constructor
  · rintro ⟨⟨front, back⟩, hparts, hbody, htag⟩
    obtain ⟨htext, -⟩ := splitOnce_eq_some_iff.mp hparts
    rw [← toList_inj, htext, signed, toList_ofList,
      encode_of_decode_eq_some hbody, encode_of_decode_eq_some htag]
  · rintro rfl
    refine ⟨_, splitOnce_signed, ?_, ?_⟩
    · rw [toList_ofList, decode_encode]
    · rw [toList_ofList, decode_encode]

end NantianGateway.SignedText

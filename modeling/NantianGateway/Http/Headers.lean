import NantianGateway.Lib.Table
import NantianGateway.Lib.Text

/-!
# Header fields

The maps of header fields, and the copy of a request's fields in its context.  Only a value that is
visible ASCII is a text, and the copy is made of texts, so **it does not have every field of the
request**.  The order of fields with different names has no meaning, and `insert` does not keep it.
-/

namespace NantianGateway.Http

open Text

abbrev HeaderMap := List (String × List UInt8)

/-- `HeaderValue::to_str`: visible ASCII, blanks and tabs. -/
def toStr (value : List UInt8) : Option String :=
  if value.all fun byte => (32 ≤ byte && byte < 127) || byte == 9 then
    some (String.ofList (value.map fun byte => Char.ofNat byte.toNat))
  else none

def valueBytes (text : String) : List UInt8 := text.toList.flatMap String.utf8EncodeChar

namespace HeaderMap

def sameName (name name' : String) : Bool := asciiLower name == asciiLower name'

variable (headers : HeaderMap) (name : String)

def get : Option (List UInt8) :=
  (headers.find? fun field => sameName field.1 name).map Prod.snd

def remove : HeaderMap :=
  headers.filter fun field => !sameName field.1 name

def append (value : List UInt8) : HeaderMap :=
  headers ++ [(asciiLower name, value)]

def insert (value : List UInt8) : HeaderMap :=
  (headers.remove name).append name value

end HeaderMap

/-! ## Checked edits -/

def isTokenChar (c : Char) : Bool :=
  c.isAlphanum || c ∈ "!#$%&'*+-.^_\x60|~".toList

def isHeaderName (name : String) : Bool :=
  name ≠ "" && name.toList.all isTokenChar && decide (name.toList.length ≤ 65535)

def isHeaderValue (value : String) : Bool :=
  (valueBytes value).all fun byte => (32 ≤ byte && byte != 127) || byte == 9

variable (headers : HeaderMap) (name value : String)

/-- `ResponseHeader::insert_header`, which is an error for a name or value that is none. -/
def insertHeader : Option HeaderMap :=
  if isHeaderName name && isHeaderValue value then some (headers.insert name (valueBytes value))
  else none

def appendHeader : Option HeaderMap :=
  if isHeaderName name && isHeaderValue value then some (headers.append name (valueBytes value))
  else none

/-! ## The copy in the context -/

def textFields : List (String × String) :=
  headers.filterMap fun field => (toStr field.2).map fun value => (asciiLower field.1, value)

def requestHeaders : BTreeMap (List String) :=
  (textFields headers).foldl (fun copy field => copy.push field.1 field.2) .empty

theorem isSome_get_foldl_push_iff (fields : List (String × String)) (copy : BTreeMap (List String))
    (name : String) :
    ((fields.foldl (fun copy field => copy.push field.1 field.2) copy).get name).isSome = true ↔
      (copy.get name).isSome = true ∨ ∃ value, (name, value) ∈ fields := by
  induction fields generalizing copy with
  | nil => simp
  | cons field fields ih =>
    rw [List.foldl_cons, ih, BTreeMap.push, BTreeMap.get_alter]
    obtain ⟨key, value⟩ := field
    by_cases hname : name = key
    · simp [hname]
    · simp [hname]

theorem isSome_get_requestHeaders_iff (name : String) :
    ((requestHeaders headers).get name).isSome = true ↔
      ∃ field ∈ headers, asciiLower field.1 = name ∧ (toStr field.2).isSome = true := by
  have hnil : ((BTreeMap.empty : BTreeMap (List String)).get name).isSome = false := rfl
  rw [requestHeaders, isSome_get_foldl_push_iff, hnil]
  simp only [Bool.false_eq_true, false_or, textFields, List.mem_filterMap, Option.map_eq_some_iff,
    Prod.mk.injEq]
  constructor
  · rintro ⟨value, field, hfield, text, htext, hname, -⟩
    exact ⟨field, hfield, hname, by rw [htext]; rfl⟩
  · rintro ⟨field, hfield, hname, htext⟩
    obtain ⟨text, htext⟩ := Option.isSome_iff_exists.mp htext
    exact ⟨text, field, hfield, text, htext, hname, rfl⟩

end NantianGateway.Http

/-
  File:      IppPrinterApp/Ipp.lean
  Subject:   IPP messages as the server sees them, and what it takes from the `ipp` crate.

  The wire format is parsed and printed by the `ipp` crate, whose code is not part of the
  repository. What the server uses of it is fixed here in two ways:

  * the message types (`IppValue`, `IppAttributeGroup`, `IppRequest`, `IppResponse`) are data
    types with the variants and fields the server reads or builds. A string type of the crate is
    bounded: `BoundedString max` carries its bound, and `tryInto` is the only way in;
  * the functions are a parameter, `IppCrate`: the parser, the response constructor, the value
    iterator and the operation codes the crate knows but the server does not serve.

  A group's attributes are a hash map, so they come in no particular order: `AssocMap`.
-/
import Mathlib.Data.Int.Basic
import Mathlib.Algebra.Ring.Int.Defs
import Mathlib.Algebra.Ring.Nat
import IppPrinterApp.Lib.AssocMap
import IppPrinterApp.Lib.FirstMatch

namespace IppPrinterApp

open FirstMatch

/-! ## 1. Machine integers -/

/-- `as i32` of an integer: the low 32 bits, read as a signed number. -/
def asI32 (n : Int) : Int := Int.bmod n (2 ^ 32)

/-- `as u32` of an integer: the low 32 bits. -/
def asU32 (n : Int) : Nat := (n % 2 ^ 32).toNat

/-- A number that fits stays the same. -/
theorem asI32_eq_self {n : Int} (h : -2 ^ 31 ≤ n) (h' : n < 2 ^ 31) : asI32 n = n := by
  unfold asI32
  rw [Int.bmod_def]
  omega

/-- An unsigned number survives the cast there and back. -/
theorem asU32_asI32 {n : Nat} (h : n < 2 ^ 32) : asU32 (asI32 n) = n := by
  unfold asU32 asI32
  rw [Int.bmod_def]
  omega

/-! ## 2. Strings of bounded length -/

/-- A string of at most `max` octets (the crate's bounded IPP string types). -/
structure BoundedString (max : Nat) where
  val : String
  le : val.utf8ByteSize ≤ max

/-- `TryFrom<&str>`: the conversion fails on a longer string, and only on one. -/
def tryInto (max : Nat) (s : String) : Option (BoundedString max) :=
  if h : s.utf8ByteSize ≤ max then some ⟨s, h⟩ else none

@[simp] theorem tryInto_isSome (max : Nat) (s : String) :
    (tryInto max s).isSome = true ↔ s.utf8ByteSize ≤ max := by
  unfold tryInto
  split <;> simp_all

theorem tryInto_val {max : Nat} {s : String} {b : BoundedString max} (h : tryInto max s = some b) :
    b.val = s := by
  unfold tryInto at h
  split at h
  · cases h
    rfl
  · cases h

/-! ## 3. Values, attributes, groups -/

/-- The IPP values the server reads or writes. -/
inductive IppValue where
  | integer (n : Int)
  | enum (n : Int)
  | boolean (b : Bool)
  | octetString (s : BoundedString 1023)
  | textWithoutLanguage (s : BoundedString 1023)
  | nameWithoutLanguage (s : BoundedString 255)
  | charset (s : BoundedString 63)
  | naturalLanguage (s : BoundedString 63)
  | uri (s : BoundedString 1023)
  | keyword (s : BoundedString 255)
  | mimeMediaType (s : BoundedString 255)
  | rangeOfInteger (min max : Int)
  | resolution (crossFeed feed units : Int)
  | dateTime (year month day hour minutes seconds deciSeconds : Int) (utcDir : Char)
      (utcHours utcMins : Int)
  | array (values : List IppValue)
  | collection (members : List (String × IppValue))
  | other (tag : Nat) (data : List UInt8)

/-- The group delimiters of RFC 8010. -/
inductive DelimiterTag where
  | operationAttributes
  | jobAttributes
  | endOfAttributes
  | printerAttributes
  | unsupportedAttributes
  deriving DecidableEq, Repr

structure IppAttribute where
  name : String
  value : IppValue

/-- One attribute group: its delimiter and its attributes by name. -/
structure IppAttributeGroup where
  tag : DelimiterTag
  attributes : AssocMap String IppValue

/-- The group's attributes in the order the map happens to iterate in. -/
def IppAttributeGroup.values (g : IppAttributeGroup) : List IppAttribute :=
  g.attributes.entries.map fun e => ⟨e.1, e.2⟩

/-- `IppAttributes::add`: all attributes with one delimiter are merged into one group. -/
def addAttribute (groups : List IppAttributeGroup) (tag : DelimiterTag) (a : IppAttribute) :
    List IppAttributeGroup :=
  if groups.any (fun g => g.tag == tag) then
    updateFirst (fun g => g.tag == tag)
      (fun g => { g with attributes := g.attributes.insert a.name a.value }) groups
  else
    groups ++ [⟨tag, AssocMap.empty.insert a.name a.value⟩]

/-! ## 4. Requests and responses -/

/-- `IppVersion`, the major number in the high byte. -/
abbrev IppVersion := Nat

/-- A parsed request: header, groups in wire order, and what reading the payload gives. -/
structure IppRequest where
  version : IppVersion
  requestId : Nat
  operationOrStatus : Nat
  groups : List IppAttributeGroup
  payload : Except String (List UInt8)

/-- The status codes the server answers with. -/
inductive IppStatus where
  | successfulOk
  | clientErrorBadRequest
  | clientErrorNotFound
  | clientErrorNotPossible
  | serverErrorVersionNotSupported
  deriving DecidableEq, Repr

structure IppResponse where
  version : IppVersion
  status : IppStatus
  requestId : Nat
  groups : List IppAttributeGroup

def IppResponse.add (r : IppResponse) (tag : DelimiterTag) (a : IppAttribute) : IppResponse :=
  { r with groups := addAttribute r.groups tag a }

/-- What the server calls in the `ipp` crate. -/
structure IppCrate where
  /-- `IppParser::parse` on the whole body. -/
  parse : List UInt8 → Except String IppRequest
  /-- `IppRequestResponse::new_response`. -/
  newResponse : IppVersion → IppStatus → Nat → Except String IppResponse
  /-- `IppValue::into_iter`: the elements of a set, a single value as itself. -/
  intoIter : IppValue → List IppValue
  /-- `Operation::from_u16` on a code the server has no branch for: the variant's name. -/
  otherOperation : Nat → Option String

/-- **What the server relies on**: a response is built for every header, and carries it. -/
def IppCrate.BuildsResponses (x : IppCrate) : Prop :=
  ∀ v st id, ∃ r, x.newResponse v st id = .ok r ∧ r.version = v ∧ r.status = st ∧ r.requestId = id

/-- Why a response could not be built. -/
inductive Fault where
  /-- An error the builder returns (`IppParseError`). -/
  | error (message : String)
  /-- A failing `expect` or `unwrap`. -/
  | panic (what : String)
  deriving DecidableEq, Repr

end IppPrinterApp

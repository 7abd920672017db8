/-
  File:      IppPrinterApp/Request.lean
  Subject:   Reading a request: the raw-byte gate and the attribute readers (server.rs).

  * `operationAttributesWellOrdered` -- the index-driven scan for the first two attribute names;
  * the readers (`extractJobId`, `extractCopies`, …) all walk the groups in order and the
    attributes of a group in the map's order, and stop at the first attribute they can read:
    `firstAttr` is that walk, each reader is one instance of it.
-/
import IppPrinterApp.Job

namespace IppPrinterApp

/-! ## 1. The order of the operation attributes -/

/-- The octets of an ASCII literal. -/
def ascii (s : String) : List UInt8 := s.toList.map fun c => UInt8.ofNat c.toNat

/-- `u16::from_be_bytes` of the two octets at `i`. -/
def be16 (body : List UInt8) (i : Nat) : Nat :=
  (body.getD i 0).toNat * 256 + (body.getD (i + 1) 0).toNat

/-- The scanning loop from position `i` with the names seen so far: `none` is an early
    `return false`. Every round advances `i` by five at least, so `fuel` past the length of the
    body is never used up. -/
def scanNames (body : List UInt8) : Nat → Nat → List (List UInt8) → Option (List (List UInt8))
  | 0, _, _ => none
  | fuel + 1, i, names =>
    if i < body.length ∧ names.length < 2 then
      -- a delimiter tag ends the operation group
      if body.getD i 0 ≤ 0x0f then some names
      else if i + 3 > body.length then none
      else
        let nameLen := be16 body (i + 1)
        if i + 3 + nameLen > body.length then none
        else
          -- an empty name marks an additional value of the previous attribute
          let names := if nameLen > 0 then names ++ [(body.drop (i + 3)).take nameLen] else names
          if i + 3 + nameLen + 2 > body.length then none
          else
            let valueLen := be16 body (i + 3 + nameLen)
            scanNames body fuel (i + 3 + nameLen + 2 + valueLen) names
    else some names

/-- `operation_attributes_well_ordered`. -/
def operationAttributesWellOrdered (body : List UInt8) : Bool :=
  if body.length ≤ 8 || body.getD 8 0 != 0x01 then false
  else
    match scanNames body (body.length + 1) 9 [] with
    | none => false
    | some names =>
      names[0]? == some (ascii "attributes-charset") &&
        names[1]? == some (ascii "attributes-natural-language")

/-! ## 2. Decimal numbers -/

/-- The digits of an unsigned number below `bound`, most significant first. -/
def parseDigits (bound : Nat) : List Char → Nat → Option Nat
  | [], acc => some acc
  | c :: cs, acc =>
    if c.isDigit then
      let v := acc * 10 + (c.toNat - 48)
      if v < bound then parseDigits bound cs v else none
    else none

/-- `str::parse` to an unsigned integer below `bound`: one leading `+` is allowed. -/
def parseUnsigned (bound : Nat) (s : String) : Option Nat :=
  match s.toList with
  | [] => none
  | ['+'] => none
  | '+' :: cs => parseDigits bound cs 0
  | cs => parseDigits bound cs 0

/-- `rsplit('/').next()`: what follows the last slash. -/
def lastSegment (s : String) : String :=
  String.ofList (s.toList.reverse.takeWhile (· != '/')).reverse

/-! ## 3. The attribute readers -/

/-- `has_operation_attr`. -/
def hasOperationAttr (req : IppRequest) (name : String) : Bool :=
  (req.groups.filter fun g => g.tag == .operationAttributes).any fun g =>
    g.attributes.keys.any fun k => k == name

/-- The first attribute, group by group, that `read` makes something of. -/
def firstAttr {α : Type} (req : IppRequest) (read : IppAttribute → Option α) : Option α :=
  req.groups.findSome? fun g => g.values.findSome? read

/-- `extract_job_id`. A `job-uri` ends the walk even when its last segment is no number. -/
def extractJobId (req : IppRequest) : Option JobId :=
  (firstAttr req fun a =>
    match a.name, a.value with
    | "job-id", .integer n => some (some (asU32 n))
    | "job-uri", .uri s => some (parseUnsigned (2 ^ 32) (lastSegment s.val))
    | _, _ => none).join

/-- `extract_print_quality`: an enum outside 3..=5 is passed over. -/
def extractPrintQuality (req : IppRequest) : Option Nat :=
  firstAttr req fun a =>
    match a.name, a.value with
    | "print-quality", .enum n => if 3 ≤ n ∧ n ≤ 5 then some n.toNat else none
    | _, _ => none

/-- `extract_copies`. -/
def extractCopies (req : IppRequest) : Nat :=
  (firstAttr req fun a =>
    match a.name, a.value with
    | "copies", .integer n => some (asU32 (max n 1))
    | _, _ => none).getD 0

/-- `extract_document_format`. -/
def extractDocumentFormat (req : IppRequest) : String :=
  (firstAttr req fun a =>
    match a.name, a.value with
    | "document-format", .mimeMediaType s => some s.val
    | _, _ => none).getD "application/octet-stream"

/-- `requesting_user`. -/
def requestingUser (req : IppRequest) : String :=
  (firstAttr req fun a =>
    match a.name, a.value with
    | "requesting-user-name", .nameWithoutLanguage s => some s.val
    | _, _ => none).getD "anonymous"

/-- `my_jobs_flag`. -/
def myJobsFlag (req : IppRequest) : Bool :=
  (firstAttr req fun a =>
    match a.name, a.value with
    | "my-jobs", .boolean b => some b
    | _, _ => none).getD false

/-- The keywords among the values of an attribute. -/
def keywordsOf (x : IppCrate) (v : IppValue) : List String :=
  (x.intoIter v).filterMap fun v =>
    match v with
    | .keyword k => some k.val
    | _ => none

/-- A set of attribute names (`BTreeSet<String>`), asked for membership only. -/
abbrev NameSet := List String

/-- `extract_requested_attributes`. -/
def extractRequestedAttributes (x : IppCrate) (req : IppRequest) : Option NameSet :=
  firstAttr req fun a => if a.name == "requested-attributes" then some (keywordsOf x a.value) else none

/-- `extract_identify_actions`. -/
def extractIdentifyActions (x : IppCrate) (req : IppRequest) : List String :=
  (firstAttr req fun a =>
    if a.name == "identify-actions" then some (keywordsOf x a.value) else none).getD []

/-- `effective_filter`: `none` is "return everything". -/
def effectiveFilter (requested : Option NameSet) (default : NameSet) : Option NameSet :=
  match requested with
  | none => if default.isEmpty then none else some default
  | some set => if set.isEmpty || set.contains "all" then none else some set

end IppPrinterApp

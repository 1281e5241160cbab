import CInspect.Parse.Node
import CInspect.Language.Attributes
/-!
Attributes written in declarations.

An attribute is read as it is written (`Attr`) and checked once the kind
of declaration it is written on is known (`keptAttributes`): one made for
another language is ignored; one made for other kinds of declaration is
refused, with an error for some and a warning for the rest; and some look
at the declaration's type, as `malloc` wants a function that returns a
pointer. Each check gives the compiler's words, and an attribute refused
stays off the declaration. Those that stay give the declaration's
attribute nodes (`declarationAttributeNodes`) and what the compiler keeps
of them: availability, alignment, packing, and the attribute that makes a
discarded result worth a warning.

An attribute that changes a function's type is checked where the type is
made (`functionTypeAttributeChecks`): written where no function type is
declared, it is ignored with a warning.
-/

namespace CInspect.Parse

open CInspect.Types CInspect.Source CInspect.Language

/-- An attribute written in a declaration: its name without the
underscores around it, the token that names it (the keyword, for
`_Alignas`) and its last token, and its argument when that is an integer
constant or a name; for `nonnull`, `format` and `alloc_align`, the
integer constants written as its arguments. -/
structure Attr where
  name : String
  tok : Nat
  last : Nat
  value : Option Int := none
  word : Option String := none
  values : List Int := []
  /-- The token of its argument, when that is a name or a string. -/
  argTok : Option Nat := none
deriving Inhabited

/-- The visibilities a symbol may be given. -/
def visibilityNames : List String := ["default", "hidden", "internal", "protected"]

/-- The visibility an attribute node shows: internal visibility is kept as
hidden, since the compiler has no visibility of its own for it. -/
def shownVisibility (word : String) : String := if word == "internal" then "hidden" else word

/-- The node of an attribute that stays on its declaration. An assembler
name (`asm`) is spelled as the name it gives. -/
def Attr.node? (a : Attr) : Option Built :=
  let kind? : Option Tree.Kind := match a.name with
    | "packed" => some .packedAttr
    | "aligned" => some .alignedAttr
    | "pure" => some .pureAttr
    | "const" => some .constAttr
    | "visibility" => some .visibilityAttr
    | "warn_unused_result" => some .warnUnusedResultAttr
    | "noduplicate" => some .noDuplicateAttr
    | "convergent" => some .convergentAttr
    | "asm" => some .asmLabelAttr
    | "warn_unused" => some .warnUnusedAttr
    | "annotate" => some .annotateAttr
    | "NSObject" => some (.unreadableAttr 426)
    | "objc_boxable" => some (.unreadableAttr 436)
    | "flag_enum" => some (.unreadableAttr 437)
    | n => if declarationAttributes.contains n then some .unexposedAttr else none
  kind?.map fun k =>
    { kind := k, spelling := (if k == .packedAttr then "packed"
        else if k == .visibilityAttr then shownVisibility (a.word.getD "")
        else if k == .asmLabelAttr || k == .annotateAttr then (a.word.getD "") else ""),
      locTok := a.tok, first := a.tok, last := a.last }

/-- The nodes of the attributes that stay on a declaration. -/
def attributeNodes (attrs : List Attr) : List Built := attrs.filterMap Attr.node?

/-- The nodes of the attributes of a declaration of a function or an
object: an assembler name comes before the others on a function and after
them on an object. -/
def declarationAttributeNodes (attrs : List Attr) (function : Bool) : List Built :=
  let (labels, others) := attrs.partition (·.name == "asm")
  attributeNodes (if function then labels ++ others else others ++ labels)

/-- What the `deprecated` and `unavailable` attributes of a declaration
say of a use of it: the worst of them, the first on a tie. -/
def availabilityOf (attrs : List Attr) : Availability :=
  attrs.foldl (fun acc a =>
    let this : Availability := match a.name with
      | "deprecated" => .deprecated (a.word.getD "")
      | "unavailable" => .unavailable (a.word.getD "")
      | _ => .available
    acc.join this) .available

/-- The attribute of a function that makes discarding its result worth a
warning: `warn_unused_result` before `pure` before `const`. -/
def resultAttrOf (attrs : List Attr) : Option String :=
  ["warn_unused_result", "pure", "const"].find? fun n => attrs.any (·.name == n)

/-- Whether one of the attributes is `packed`. -/
def hasPacked (attrs : List Attr) : Bool := attrs.any (·.name == "packed")

/-- The largest alignment the `aligned` attributes ask for, in bytes. -/
def alignedBy (attrs : List Attr) : Option Nat :=
  (attrs.filter (·.name == "aligned")).foldl (fun acc a =>
    let v := (a.value.map Int.toNat).getD 0
    if v == 0 then acc else some (max v (acc.getD 0))) none

/-- What a declaration that carries attributes declares, as far as the
checks of its attributes go. -/
inductive Bearer where
  /-- A function, with its type and whether it is declared `inline`. -/
  | function (ty : CType) (inline : Bool)
  /-- A variable, with whether its storage is automatic (a block's, neither
  `static` nor `extern`) and its type. -/
  | variable (automatic : Bool) (ty : CType)
  | parameter (ty : CType)
  | field (bitField : Bool) (ty : CType)
  | typedef (ty : CType)
  | record
  | enumeration
deriving Inhabited

/-- The function type a declaration has: its own, or the one its type
names or points to. -/
def Bearer.functionType? : Bearer → Option CType
  | .function t _ => some t
  | .variable _ t | .parameter t | .field _ t | .typedef t =>
    if t.isFunction then some t
    else (t.pointee?).bind fun p => if p.isFunction then some p else none
  | _ => none

/-- Whether a declaration is of a kind an attribute is made for. -/
def Bearer.is (b : Bearer) : Subject → Bool
  | .function => match b with | .function _ _ => true | _ => false
  | .prototypedFunction =>
    match (b.functionType?).bind CType.functionParts? with
    | some (_, _, _, prototyped) => prototyped
    | none => false
  | .inlineFunction => match b with | .function _ inline => inline | _ => false
  | .functionLike => (b.functionType?).isSome
  | .variable => match b with | .variable _ _ | .parameter _ => true | _ => false
  | .nonParameterVariable => match b with | .variable _ _ => true | _ => false
  | .localVariable => match b with | .variable automatic _ => automatic | _ => false
  | .nonLocalVariable | .globalVariable => match b with | .variable automatic _ => !automatic | _ => false
  | .parameter => match b with | .parameter _ => true | _ => false
  | .field => match b with | .field _ _ => true | _ => false
  | .typedef => match b with | .typedef _ => true | _ => false
  | .record => match b with | .record => true | _ => false
  | .enumeration => match b with | .enumeration => true | _ => false
  | _ => false

/-- Whether a type is one a pointer attribute such as `nonnull` is made
for. -/
def pointerAttributeType (t : CType) : Bool := t.isPointer

/-- The attributes that say how a function's result or an out-parameter is
owned, with the words for what they want of the type. -/
def ownershipAttributes : List String :=
  ["ns_returns_retained", "ns_returns_not_retained", "ns_returns_autoreleased",
   "cf_returns_retained", "cf_returns_not_retained", "os_returns_retained", "os_returns_not_retained"]

/-- The checks of `nonnull` written on a function or a pointer to one, with
parameters of types `params`: a position out of range is an error, one of
a parameter that is no pointer is left out with a warning, and with no
position left the function should have a pointer parameter. -/
def nonnullChecks (a : Attr) (params : List CType) (variadic : Bool) : P Unit := do
  let t := (← get).tokAt a.tok
  let quoted := "'" ++ t.text ++ "'"
  let mut kept := 0
  for (v, k) in a.values.zipIdx do
    if v < 1 || (!variadic && v > params.length) then
      failTok t s!"{quoted} attribute parameter {k + 1} is out of bounds"
    match params[v.toNat - 1]? with
    | some p =>
      if pointerAttributeType p then kept := kept + 1
      else warn t.reportLoc s!"{quoted} attribute only applies to pointer arguments" "-Wignored-attributes"
    | none => kept := kept + 1
  if kept == 0 && t.origin.isNone && !variadic && !params.any pointerAttributeType then
    warn t.reportLoc s!"{quoted} attribute applied to function with no pointer arguments" "-Wignored-attributes"

/-- Whether an attribute stays on the declaration it is written on, with
the warning or the error the compiler gives when it does not, or when it
stays but is of no use there. `first` is the declaration's first token and
`nameTok` its name's. -/
def attributeStays (b : Bearer) (first nameTok : Nat) (a : Attr) : P Bool := do
  let st ← get
  let t := st.tokAt a.tok
  let here := t.reportLoc
  let start := (st.tokAt first).reportLoc
  let named := (st.tokAt nameTok).reportLoc
  let quoted := "'" ++ t.text ++ "'"
  if foreignLanguageAttributes.contains a.name then
    warn here s!"{quoted} attribute ignored" "-Wignored-attributes"
    return false
  if let some r := attributeReach? a.name then
    if !r.subjects.any b.is then
      let text := r.text
      if r.strict then failAt here s!"{quoted} attribute only applies to {text}"
      warn here s!"{quoted} attribute only applies to {text}" "-Wignored-attributes"
      return false
  let result := (b.functionType?.bind CType.functionParts?).map (·.1)
  match a.name with
  | "packed" =>
    match b with
    | .record | .enumeration => return true
    | .field bitField ty =>
      let narrow := match ty.canonical with
        | .basic k _ => k == .char || k == .schar || k == .uchar || k == .bool
        | _ => false
      if bitField && narrow then
        warn here
          "'packed' attribute was ignored on bit-fields with single-byte alignment in older versions of GCC and Clang"
          "-Wattribute-packed-for-bitfield"
      return true
    | _ =>
      warn here s!"{quoted} attribute ignored" "-Wignored-attributes"
      return false
  | "visibility" =>
    match b with
    | .typedef _ =>
      warn here s!"{quoted} attribute ignored" "-Wignored-attributes"
      return false
    | _ =>
      let word := a.word.getD ""
      if visibilityNames.contains word then return true
      let at_ := (a.argTok.map fun i => (st.tokAt i).reportLoc).getD here
      warn at_ s!"{quoted} attribute argument not supported: {word}" "-Wignored-attributes"
      return false
  | "iboutlet" | "iboutletcollection" =>
    warn here s!"{quoted} attribute can only be applied to instance variables or properties" "-Wignored-attributes"
    return false
  | "NSObject" =>
    match b with
    | .typedef ty =>
      let bridged := match ty.pointee? with
        | some p => p.isVoid || (match p.canonical with | .tag _ k _ => k != .enum | _ => false)
        | none => false
      if !bridged then failAt named "'NSObject' attribute is for pointer types only"
      return true
    | _ =>
      warn named "'NSObject' attribute may be put on a typedef only; attribute is ignored" "-Wnsobject-attribute"
      return true
  | "objc_independent_class" =>
    match b with
    | .typedef _ =>
      warn named
        "'objc_independent_class' attribute may be put on Objective-C object pointer type only; attribute is ignored"
        "-WIndependentClass-attribute"
    | _ =>
      warn named "'objc_independent_class' attribute may be put on a typedef only; attribute is ignored"
        "-WIndependentClass-attribute"
    return false
  | "objc_precise_lifetime" =>
    match b with
    | .variable _ ty | .parameter ty =>
      failAt here s!"'objc_precise_lifetime' only applies to retainable types; type here is {← quoteType ty}"
    | _ => failAt here s!"{quoted} attribute only applies to variables"
  | "objc_boxable" =>
    match b with
    | .record => return true
    | _ => failAt here s!"{quoted} attribute only applies to structs, unions, and classes"
  | "ns_consumed" | "cf_consumed" | "os_consumed" =>
    match b with
    | .parameter ty =>
      if a.name == "cf_consumed" && ty.isPointer then return true
      let which := if a.name == "ns_consumed" then "Objective-C object" else "pointer"
      warn start s!"{a.name} attribute only applies to {which} parameters" "-Wignored-attributes"
      return false
    | _ => return false
  | "malloc" | "returns_nonnull" =>
    match result with
    | some r =>
      if pointerAttributeType r then return true
      warn here s!"{quoted} attribute only applies to return values that are pointers" "-Wignored-attributes"
      return false
    | none => return true
  | "warn_unused_result" =>
    match result with
    | some r =>
      if r.isVoid then
        warn here s!"attribute {quoted} cannot be applied to functions without return value" "-Wignored-attributes"
        return false
      return true
    | none => return true
  | "nonnull" =>
    match b with
    | .parameter ty =>
      if !a.values.isEmpty then
        warn here s!"{quoted} attribute when used on parameters takes no arguments" "-Wignored-attributes"
        return false
      if pointerAttributeType ty then return true
      warn here s!"{quoted} attribute only applies to pointer arguments" "-Wignored-attributes"
      return false
    | _ =>
      match (b.functionType?).bind CType.functionParts? with
      | some (_, params, variadic, _) => nonnullChecks a params variadic
      | none => pure ()
      return true
  | n =>
    if !ownershipAttributes.contains n then return true
    let cf := n.startsWith "cf_"
    let os := n.startsWith "os_"
    match b with
    | .function _ _ =>
      -- a function's own is checked with its type
      if n == "ns_returns_retained" then return false
      if cf && (result.map pointerAttributeType).getD false then return true
      let wanted := if cf || os then "a pointer" else "an Objective-C object"
      warn start s!"{quoted} attribute only applies to functions that return {wanted}" "-Wignored-attributes"
      return false
    | .parameter ty =>
      let shape := match ty.pointee? with
        | none => if cf then "pointer-to-CF-pointer" else "pointer/reference-to-OSObject-pointer"
        | some p =>
          if cf && p.isPointer then "" else if os then "pointer/reference-to-OSObject-pointer"
          else "pointer-to-CF-pointer"
      if shape.isEmpty then return true
      warn start s!"{quoted} attribute only applies to {shape} parameters" "-Wignored-attributes"
      return false
    | _ =>
      if n == "ns_returns_retained" && (b.functionType?).isSome then return false
      let kinds := if cf || os then "functions, methods, and parameters" else "functions and methods"
      warn start s!"{quoted} attribute only applies to {kinds}" "-Wignored-attributes"
      return false

/-- The attributes that stay on a declaration, checked in the order they
are written. -/
def keptAttributes (b : Bearer) (first nameTok : Nat) (attrs : List Attr) : P (List Attr) :=
  attrs.filterM (attributeStays b first nameTok)

/-- Warn about each attribute that changes a function's type written where
no function type is declared (`hasFunction` false), the declared type
being `ty`; and about `ns_returns_retained` on a function that returns no
object. -/
def functionTypeAttributeChecks (hasFunction : Bool) (ty : CType) (attrs : List Attr) : P Unit := do
  for a in attrs do
    let t := (← get).tokAt a.tok
    if functionTypeAttributes.contains a.name && !hasFunction then
      warn t.reportLoc s!"'{t.text}' only applies to function types; type here is {← quoteType ty}"
        "-Wignored-attributes"
    if a.name == "ns_returns_retained" && hasFunction then
      warn t.reportLoc
        "'ns_returns_retained' attribute only applies to functions that return an Objective-C object"
        "-Wignored-attributes"

end CInspect.Parse

import CInspect.Parse.Typing
/-!
The checks made on a `switch` statement once its body has been read.

* The labels are taken in the reverse of the order they are written, so a
  second `default` is reported at the earlier of the two. Each bound is
  checked against the type of the condition before promotion: a value
  that does not come back unchanged through that type overflows.
* The values are brought to the promoted type of the condition and
  sorted, ties in the order written. Two equal single values are an
  error, named by the enumerators they are written as when there are
  any; an empty range is reported and dropped; a range that meets a
  single value or the range before it is an error.
* Without a `default`, a constant condition that no label matches is
  reported.
* When the condition has an enumeration type before promotion, a label
  that is none of its values is reported, and, without a `default`, so
  are the enumerators no label covers, the first three by name.

The checks give every message they find, in order; whoever reads them
stops at the first error.
-/

namespace CInspect.Parse

open CInspect.Types CInspect.Source

/-- The width of an integer type in bits, and whether it is unsigned. -/
structure IntShape where
  width : Nat
  unsigned : Bool
deriving Inhabited

/-- A value brought into an integer type of this shape. -/
def IntShape.adjust (s : IntShape) (v : Int) : Int := wrapBits s.width s.unsigned v

/-- What the checks know of a switch beside its labels: the shapes of the
condition's type after and before promotion, where the condition is
reported, its value when it is constant, and, when its type before
promotion is a complete enumeration, that type quoted and its
enumerators. -/
structure SwitchShape where
  promoted : IntShape
  written : IntShape
  condAt : Loc
  condValue : Option Int := none
  enumeration : Option (String × List (String × Int)) := none
deriving Inhabited

/-- A bound brought to the promoted type, with the label's place in the
order written. -/
structure CaseValue where
  value : Int
  bound : CaseBound
  order : Nat
deriving Inhabited

/-- A range whose bounds are brought to the promoted type. -/
structure CaseRange where
  low : Int
  high : Int
  lowBound : CaseBound
  highBound : CaseBound
  order : Nat
deriving Inhabited

/-- The warning for a bound that the condition's type before promotion
cannot hold: the value written and the value it comes back as. -/
def overflowCheck (written : IntShape) (b : CaseBound) : List Diagnostic :=
  if written.width < b.width then
    let back := wrapBits b.width b.unsigned (written.adjust b.value)
    if back != b.value then
      [.warning b.start s!"overflow converting case value to switch condition type ({b.value} to {back})"
        "-Wswitch"]
    else []
  else []

/-- The message for two single values that are equal, the later one
`cur`. -/
def duplicateMessage (prev cur : CaseValue) : String :=
  let shown := toString prev.value
  match prev.bound.name, cur.bound.name with
  | p, c =>
    if p == c then s!"duplicate case value '{p.getD shown}'"
    else s!"duplicate case value: '{p.getD shown}' and '{c.getD shown}' both equal '{shown}'"

/-- The errors for equal neighbours of a sorted list of single values. -/
def duplicateErrors : List CaseValue → List Diagnostic
  | a :: b :: rest =>
    (if a.value == b.value then [Diagnostic.error b.bound.start (duplicateMessage a b)] else []) ++
      duplicateErrors (b :: rest)
  | _ => []

/-- The errors for ranges that meet a single value or the range before
them; the ranges are sorted by their low bounds. The value reported is
the largest single value inside the range, or else the high bound of the
range before it. -/
def overlapErrors (values : List CaseValue) : Option Int → List CaseRange → List Diagnostic
  | _, [] => []
  | prevHigh, r :: rest =>
    let inside := values.filter (fun v => r.low ≤ v.value && v.value ≤ r.high)
    let hit : Option Int := match prevHigh with
      | some h => if r.low ≤ h then some h else (inside.getLast?).map (·.value)
      | none => (inside.getLast?).map (·.value)
    let here := match hit with
      | some v => [Diagnostic.error r.lowBound.start s!"duplicate case value '{v}'"]
      | none => []
    here ++ overlapErrors values (some r.high) rest

/-- The warning for enumerators that no label covers. -/
def unhandledWarning (at_ : Loc) (names : List String) : List Diagnostic :=
  let q (n : String) : String := "'" ++ n ++ "'"
  let text := match names with
    | [] => none
    | [a] => some s!"enumeration value {q a} not handled in switch"
    | [a, b] => some s!"enumeration values {q a} and {q b} not handled in switch"
    | [a, b, c] => some s!"enumeration values {q a}, {q b}, and {q c} not handled in switch"
    | a :: b :: c :: _ =>
      some s!"{names.length} enumeration values not handled in switch: {q a}, {q b}, {q c}..."
  match text with
  | some t => [.warning at_ t "-Wswitch"]
  | none => []

/-- Each value once, the first of equal neighbours kept. -/
def dedupValues : List (String × Int) → List (String × Int)
  | a :: b :: rest => if a.2 == b.2 then dedupValues (a :: rest) else a :: dedupValues (b :: rest)
  | l => l

/-- The messages about an enumeration condition: labels that are none of
its values, then, without a `default`, the enumerators left uncovered. -/
def enumerationChecks (s : SwitchShape) (hasDefault : Bool) (values : List CaseValue)
    (ranges : List CaseRange) : List Diagnostic :=
  match s.enumeration with
  | none => []
  | some (_, []) => []
  | some (typeText, enumerators) =>
    let known := dedupValues
      ((enumerators.map fun (n, v) => (n, s.promoted.adjust v)).mergeSort (fun a b => a.2 ≤ b.2))
    let isKnown (v : Int) : Bool := known.any (·.2 == v)
    let stray (v : Int) (b : CaseBound) : List Diagnostic :=
      if isKnown v then [] else
        [.warning b.start s!"case value not in enumerated type {typeText}" "-Wswitch"]
    let single := values.flatMap fun v => stray v.value v.bound
    let ranged := ranges.flatMap fun r => stray r.low r.lowBound ++ stray r.high r.highBound
    let covered (v : Int) : Bool :=
      values.any (·.value == v) || ranges.any (fun r => r.low ≤ v && v ≤ r.high)
    let missing := (known.filter (fun e => !covered e.2)).map (·.1)
    single ++ ranged ++ (if hasDefault then [] else unhandledWarning s.condAt missing)

/-- Whether a switch on an enumeration, whose condition is not a constant
it has no `default` for, has a label for each value of the enumeration:
control then never goes from the switch past its labels. -/
def enumerationCovered (s : SwitchShape) (labels : List SwitchLabel) : Bool :=
  let hasDefault := labels.any fun
    | .default _ => true
    | _ => false
  let constant := !hasDefault && s.condValue.isSome
  match s.enumeration with
  | none => false
  | some (_, []) => false
  | some (_, enumerators) =>
    let covered (v : Int) : Bool := labels.any fun
      | .case low high _ =>
        let lo := s.promoted.adjust low.value
        match high with
        | some h => lo ≤ v && v ≤ s.promoted.adjust h.value
        | none => lo == v
      | .default _ => false
    !constant && !labels.isEmpty &&
      enumerators.all fun (_, v) => covered (s.promoted.adjust v)

/-- The messages for a switch with these labels, in the order written. -/
def switchChecks (s : SwitchShape) (labels : List SwitchLabel) : List Diagnostic := Id.run do
  let mut out : Array Diagnostic := #[]
  let mut theDefault : Option Loc := none
  let mut values : Array CaseValue := #[]
  let mut pending : Array (CaseValue × CaseBound) := #[]
  for l in labels.reverse do
    match l with
    | .default loc =>
      if let some prev := theDefault then
        out := out.push (.error loc "multiple default labels in one switch")
        out := out.push (.note prev "previous case defined here")
      theDefault := some loc
    | .case low high order =>
      out := out ++ (overflowCheck s.written low).toArray
      let v : CaseValue := { value := s.promoted.adjust low.value, bound := low, order := order }
      match high with
      | some h => pending := pending.push (v, h)
      | none => values := values.push v
  let hasDefault := theDefault.isSome
  let constant := if hasDefault then none else s.condValue
  let sorted := values.toList.mergeSort (fun a b => a.value < b.value || (a.value == b.value && a.order ≤ b.order))
  out := out ++ (duplicateErrors sorted).toArray
  let pendingSorted := pending.toList.mergeSort
    (fun a b => a.1.value < b.1.value || (a.1.value == b.1.value && a.1.order ≤ b.1.order))
  let mut ranges : Array CaseRange := #[]
  for (lo, h) in pendingSorted do
    out := out ++ (overflowCheck s.written h).toArray
    let hi := s.promoted.adjust h.value
    if lo.value > hi then
      out := out.push ⟨.warning, some lo.bound.start, "empty case range specified", none⟩
    else
      ranges := ranges.push { low := lo.value, high := hi, lowBound := lo.bound, highBound := h,
                              order := lo.order }
  out := out ++ (overlapErrors sorted none ranges.toList).toArray
  if let some c := constant then
    let matched := sorted.any (·.value == c) || ranges.any (fun r => r.low ≤ c && c ≤ r.high)
    if !matched then
      out := out.push ⟨.warning, some s.condAt, s!"no case matching constant switch condition '{c}'", none⟩
  if constant.isNone then
    out := out ++ (enumerationChecks s hasDefault sorted ranges.toList).toArray
  return out.toList

end CInspect.Parse

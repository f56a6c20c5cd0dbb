import TableQuery.Predicate.Check
import TableQuery.Qdrant.Bounds

/-!
# Lowering to Qdrant filters

Every operator is checked first, then a node becomes a filter from left to right. Negations under
"all of" join the negations of that level. Payload values cannot be folded when they are searched,
so ranges over folded text are refused, and so are patterns that are not open on both sides.
-/
namespace TableQuery.Qdrant

/-- Where payload keys begin, and operators that are switched off. A root that does not count as
given is left out. -/
structure Layout where
  root : Value
  refused : List Operator

/-- The key that a field is by itself: a text, what octets encode, or a word of the vocabulary. -/
def keyOfField : Value → Except Fault String
  | .mode m => .ok m.name
  | .connective c => .ok c.name
  | .category c => .ok c.name
  | v =>
    match v.asText? with
    | some s => .ok s
    | none => .error .schemaViolated

def rootedKey (l : Layout) (field : Value) : Except Fault (Option String) :=
  if l.root.truthy then do
    let root ← l.root.display
    let name ← field.display
    .ok (some (root ++ "." ++ name))
  else .ok none

def exactly (x : Binary64) : Test := .inRange ⟨none, some x, none, some x⟩

def equality (key : Except Fault String) (v : Value) : Except Fault Condition :=
  match v with
  | .null => key.map .isNull
  | .float x => key.map fun k => .test k (exactly x)
  | .bool b => key.map fun k => .test k (.equals (.bool b))
  | .int n => key.map fun k => .test k (.equals (.int n))
  | .text s => key.map fun k => .test k (.equals (.text s))
  | _ => .error .schemaViolated

def allTexts : List Value → Option (List String)
  | [] => some []
  | .text s :: rest => (allTexts rest).map (s :: ·)
  | _ => none

def allInts : List Value → Option (List Int)
  | [] => some []
  | .int n :: rest => (allInts rest).map (n :: ·)
  | _ => none

def choice (items : List Value) : Except Fault Choice :=
  match allTexts items, allInts items with
  | some texts, _ => .ok (.texts texts)
  | _, some ints => .ok (.ints ints)
  | _, _ => .error .schemaViolated

def innerText (pattern : List Char) : Option (List Char) :=
  match pattern with
  | '%' :: rest => if rest.getLast? = some '%' then some rest.dropLast else none
  | _ => none

def affixRefused {α : Type} (o : Operator) : Except Fault α :=
  .error (.operatorRefused o .qdrantAffixPatterns)

def substring (o : Operator) (pattern : Value) : Except Fault String :=
  match pattern with
  | .text s =>
    match innerText s.toList with
    | some inner => .ok (String.ofList inner)
    | none => affixRefused o
  | .bytes octets => if octets.length < 2 then affixRefused o else .error .wrongKind
  | .list items | .tuple items | .set items | .frozenset items =>
    if items.length < 2 then affixRefused o else .error .partMissing
  | .map es => if es.length < 2 then affixRefused o else .error .partMissing
  | _ => .error .wrongKind

def rangeOf? : Operator → Option (Value → Range Value)
  | .gt => some fun v => ⟨some v, none, none, none⟩
  | .gte => some fun v => ⟨none, some v, none, none⟩
  | .lt => some fun v => ⟨none, none, some v, none⟩
  | .lte => some fun v => ⟨none, none, none, some v⟩
  | _ => none

def testUnder (key : Except Fault String) (t : Test) : Except Fault Condition :=
  key.map fun k => .test k t

def operatorCondition (key : Except Fault String) (c : Comparison) : Except Fault Condition :=
  match c.operator with
  | .eq => do
    let v ← c.operand
    equality key v
  | .ne => do
    let v ← c.operand
    let positive ← equality key v
    .ok (.allOf [] [positive])
  | .isIn => do
    let items ← choice c.operands
    testUnder key (.oneOf items)
  | .between =>
    if c.foldsCase then .error (.operatorRefused .between .qdrantTextRanges)
    else match c.operands with
      | [low, high] => do
        let t ← rangeTest ⟨none, some low, none, some high⟩
        testUnder key t
      | _ => .error .badValue
  | .like => do
    let v ← c.operand
    let s ← substring .like v
    testUnder key (.hasText s)
  | .notLike => do
    let v ← c.operand
    let s ← substring .notLike v
    let positive ← testUnder key (.hasText s)
    .ok (.allOf [] [positive])
  | o =>
    match rangeOf? o with
    | none => .error (.operatorRefused o .qdrant)
    | some range =>
      if c.foldsCase then .error (.operatorRefused o .qdrantTextRanges)
      else do
        let v ← c.operand
        let t ← rangeTest (range v)
        testUnder key t

def comparisonCondition (l : Layout) (c : Comparison) : Except Fault Condition := do
  let rooted ← rootedKey l c.field
  match rooted with
  | some key => operatorCondition (.ok key) c
  | none => operatorCondition (keyOfField c.field) c

def leafCondition (l : Layout) : Leaf → Except Fault Condition
  | .comparison c => comparisonCondition l c
  | _ => .error .badValue

/-- Joins conditions by "all of": pure negations among them join the negations of this level. -/
def gather : List Condition → List Condition × List Condition
  | [] => ([], [])
  | .allOf [] (n :: ns) :: rest =>
    let (must, mustNot) := gather rest
    (must, n :: ns ++ mustNot)
  | c :: rest =>
    let (must, mustNot) := gather rest
    (c :: must, mustNot)

def junctionCondition (how : Connective) (parts : List Condition) : Condition :=
  match how with
  | .any => .anyOf parts
  | .all => .allOf (gather parts).1 (gather parts).2

mutual

def lower (l : Layout) : Node → Except Fault Condition
  | .atom a => leafCondition l a
  | .junction how parts =>
    match lowerAll l parts with
    | .ok cs => .ok (junctionCondition how cs)
    | .error f => .error f

def lowerAll (l : Layout) : List Node → Except Fault (List Condition)
  | [] => .ok []
  | n :: rest =>
    match lower l n with
    | .error f => .error f
    | .ok c =>
      match lowerAll l rest with
      | .ok cs => .ok (c :: cs)
      | .error f => .error f

end

def asFilter (c : Condition) : Condition := if c.isFilter then c else .allOf [c] []

def convert (l : Layout) (n : Node) : Except Fault (Option Condition) :=
  match n with
  | .atom (.value .null) => .ok none
  | n =>
    match n.check .qdrant l.refused with
    | .error f => .error f
    | .ok _ => (lower l n).map fun c => some (asFilter c)

end TableQuery.Qdrant

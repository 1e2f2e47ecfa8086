import QuickFix.Wire.DataDictionary

/-!
# Loading dictionaries

Model of `DataDictionary::parse`: the events of an XML reader become a document, and fields, components
and groups of the document become definitions. Components are expanded where they are used, which need
not come to an end; the expansion is given fuel. A hash map is the list of its entries, a set the list of
its members, as they were inserted.
-/

namespace QuickFix

/-- Minimal DOM for the dictionary document. -/
inductive Node where
  | mk (name : Bytes) (attrs : List (Bytes × Bytes)) (children : List Node)

namespace Node

/-- The name of an element. -/
def name : Node → Bytes
  | mk name _ _ => name

/-- The attributes of an element. -/
def attrs : Node → List (Bytes × Bytes)
  | mk _ attrs _ => attrs

/-- The elements inside. -/
def children : Node → List Node
  | mk _ _ children => children

/-- The value of an attribute; the last of those with its name. -/
def attr (n : Node) (key : String) : Option Bytes := n.attrs.reverse.lookup (ascii key)

/-- One more child. -/
def push (n c : Node) : Node := mk n.name n.attrs (n.children ++ [c])

/-- The first child with a name. -/
def child (n : Node) (name : String) : Option Node := n.children.find? (·.name = ascii name)

/-- The children with a name. -/
def childrenNamed (n : Node) (name : String) : List Node := n.children.filter (·.name = ascii name)

/-- Whether it is marked as required. -/
def isRequired (n : Node) : Bool := n.attr "required" = some (ascii "Y")

end Node

/-! ## The document -/

/-- What the XML reader reports: elements with their attributes, each of which may be malformed, other
things, and an error. -/
inductive XmlEvent where
  | start (name : Bytes) (attrs : List (Except Bytes (Bytes × Bytes)))
  | empty (name : Bytes) (attrs : List (Except Bytes (Bytes × Bytes)))
  | close
  | other
  | error (text : Bytes)

/-- The element of an event. -/
def readNode (name : Bytes) (attrs : List (Except Bytes (Bytes × Bytes))) : Except Bytes Node :=
  match attrs.mapM fun a => a with
  | .ok attrs => .ok (.mk name attrs [])
  | .error text => .error (ascii "bad attribute: " ++ text)

/-- The document, given the innermost open element and those around it. -/
def parseXml (top : Node) (around : List Node) : List XmlEvent → Except Bytes Node
  | [] =>
    match top.child "fix" with
    | some fix => .ok fix
    | none => .error (ascii "no <fix> root element")
  | .start name attrs :: es => do
    let node ← readNode name attrs
    parseXml node (top :: around) es
  | .empty name attrs :: es => do
    let node ← readNode name attrs
    parseXml (top.push node) around es
  | .close :: es =>
    match around with
    | [] => .error (ascii "unbalanced XML")
    | parent :: around => parseXml (parent.push top) around es
  | .other :: es => parseXml top around es
  | .error text :: _ => .error (ascii "XML parse error: " ++ text)

mutual

/-- The events of an element. -/
def Node.events : Node → List XmlEvent
  | .mk name attrs children => .start name (attrs.map .ok) :: (eventsOf children ++ [.close])

/-- The events of several. -/
def eventsOf : List Node → List XmlEvent
  | [] => []
  | n :: ns => n.events ++ eventsOf ns

end

/-- An element without malformed attributes is read. -/
lemma readNode_ok (name : Bytes) (attrs : List (Bytes × Bytes)) :
    readNode name (attrs.map .ok) = .ok (.mk name attrs []) := by
  have all : (attrs.map .ok).mapM (fun a : Except Bytes (Bytes × Bytes) => a) = .ok attrs := by
    induction attrs with
    | nil => rfl
    | cons a attrs ih =>
      rw [List.map_cons, List.mapM_cons, ih]
      rfl
  rw [readNode, all]

mutual

/-- The events of an element are read as that element. -/
lemma parseXml_events (top : Node) (around : List Node) (es : List XmlEvent) :
    ∀ n : Node, parseXml top around (n.events ++ es) = parseXml (top.push n) around es
  | .mk name attrs children => by
    rw [Node.events, List.cons_append, List.append_assoc, parseXml, readNode_ok]
    exact (parseXml_eventsOf _ (top :: around) _ children).trans rfl

/-- So are those of several, one after the other. -/
lemma parseXml_eventsOf (top : Node) (around : List Node) (es : List XmlEvent) :
    ∀ ns : List Node, parseXml top around (eventsOf ns ++ es) =
      parseXml (.mk top.name top.attrs (top.children ++ ns)) around es
  | [] => by
    cases top
    rw [List.append_nil]
    rfl
  | n :: ns => by
    rw [eventsOf, List.append_assoc, parseXml_events top around _ n, parseXml_eventsOf _ around es ns]
    simp [Node.push, Node.name, Node.attrs, Node.children]

end

/-! ## Definitions -/

/-- Loading ends with the text of an error or a result, or the expansion does not end. -/
abbrev Loading := ExceptT Bytes Option

/-- `HashMap::insert`. -/
def insertEntry {α β : Type} [DecidableEq α] (k : α) (v : β) : List (α × β) → List (α × β)
  | [] => [(k, v)]
  | e :: es => if e.1 = k then (k, v) :: es else e :: insertEntry k v es

/-- `HashSet::insert`. -/
def insertTag (tags : List Tag) (tag : Tag) : List Tag := if tag ∈ tags then tags else tags ++ [tag]

/-- `HashSet::extend`. -/
def extendTags (tags more : List Tag) : List Tag := more.foldl insertTag tags

/-- The definition a name stands for. -/
def resolve {α : Type} (kind : String) (names : List (Bytes × α)) (c : Node) : Loading α :=
  let name := (c.attr "name").getD []
  match names.lookup name with
  | some a => return a
  | none => throw (ascii "unknown " ++ ascii kind ++ 32 :: name)

/-- The group whose members were collected; the first of them is the delimiter. -/
def delimited (c : Node) (g : GroupDef) (order : List Tag) : Loading GroupDef :=
  match order with
  | delimiter :: _ => return { g with delimiter := delimiter, memberOrder := order }
  | [] => throw (ascii "empty group " ++ (c.attr "name").getD [])

/-- A group before its members are collected. -/
def GroupDef.start (counter : Tag) : GroupDef where
  counter := counter
  delimiter := 0
  tags := []
  required := []
  groups := []
  memberOrder := []

section

variable (tagsByName : List (Bytes × Tag)) (components : List (Bytes × Node))

/-- The members of a group: its definition, and its direct members in order. -/
def collectGroup : Nat → List Node → GroupDef × List Tag → Loading (GroupDef × List Tag)
  | 0, _, _ => ExceptT.mk none
  | fuel + 1, children, group => children.foldlM (m := Loading) (fun (g, order) c => do
    if c.name = ascii "field" then
      let tag ← resolve "field" tagsByName c
      return ({ g with
        tags := insertTag g.tags tag
        required := if c.isRequired then g.required ++ [tag] else g.required }, order ++ [tag])
    else if c.name = ascii "component" then
      let component ← resolve "component" components c
      collectGroup fuel component.children (g, order)
    else if c.name = ascii "group" then
      let counter ← resolve "group" tagsByName c
      let (nested, nestedOrder) ← collectGroup fuel c.children (.start counter, [])
      let nested ← delimited c nested nestedOrder
      return ({ g with
        tags := extendTags (insertTag g.tags counter) nested.tags
        required := if c.isRequired then g.required ++ [counter] else g.required
        groups := insertEntry counter nested g.groups }, order ++ [counter])
    else return (g, order)) group

/-- A field of a message in its order, when it is new. -/
def addField (d : MessageDef) (tag : Tag) (required : Bool) : MessageDef :=
  { d with
    tags := insertTag d.tags tag
    fieldOrder := if tag ∈ d.tags then d.fieldOrder else d.fieldOrder ++ [tag]
    required := if required then d.required ++ [tag] else d.required }

/-- The fields, components and groups of a message. -/
def collect : Nat → List Node → MessageDef → Loading MessageDef
  | 0, _, _ => ExceptT.mk none
  | fuel + 1, children, d => children.foldlM (m := Loading) (fun d c => do
    if c.name = ascii "field" then
      let tag ← resolve "field" tagsByName c
      return addField d tag c.isRequired
    else if c.name = ascii "component" then
      let component ← resolve "component" components c
      -- Component fields are required only if the component is.
      let e ← collect fuel component.children { d with required := [] }
      return { e with required := if c.isRequired then d.required ++ e.required else d.required }
    else if c.name = ascii "group" then
      let counter ← resolve "group" tagsByName c
      let d := addField d counter c.isRequired
      let (g, order) ← collectGroup tagsByName components fuel c.children (.start counter, [])
      let g ← delimited c g order
      return { d with
        tags := extendTags d.tags g.tags
        groups := insertEntry counter g d.groups }
    else return d) d

end

/-- The type of a name. -/
def FieldType.fromName (name : Bytes) : FieldType :=
  let is (names : List String) : Bool := names.any fun n => name = ascii n
  if is ["INT"] then .int
  else if is ["LENGTH"] then .length
  else if is ["SEQNUM"] then .seqNum
  else if is ["NUMINGROUP"] then .numInGroup
  else if is ["DAYOFMONTH"] then .dayOfMonth
  else if is ["FLOAT"] then .float
  else if is ["QTY", "QUANTITY"] then .qty
  else if is ["PRICE"] then .price
  else if is ["PRICEOFFSET"] then .priceOffset
  else if is ["AMT"] then .amt
  else if is ["PERCENTAGE"] then .percentage
  else if is ["CHAR"] then .char
  else if is ["BOOLEAN"] then .boolean
  else if is ["STRING", "MULTIPLEVALUESTRING", "MULTIPLESTRINGVALUE", "MULTIPLECHARVALUE", "COUNTRY",
    "CURRENCY", "EXCHANGE", "LANGUAGE"] then .string
  else if is ["DATA", "XMLDATA"] then .data
  else if is ["UTCTIMESTAMP", "TIME"] then .utcTimestamp
  else if is ["UTCDATEONLY", "UTCDATE", "DATE"] then .utcDateOnly
  else if is ["UTCTIMEONLY"] then .utcTimeOnly
  else if is ["LOCALMKTDATE"] then .localMktDate
  else if is ["MONTHYEAR"] then .monthYear
  else .other

namespace DataDictionary

/-- The definition of a field; before FIX.4.2 a character is a string. -/
def fieldDef (charIsString : Bool) (f : Node) : Loading FieldDef :=
  match (f.attr "number").bind (parseSigned 32) with
  | none => throw (ascii "field without number")
  | some tag =>
    let fieldType := FieldType.fromName ((f.attr "type").getD [])
    return {
      tag := tag
      fieldType := if charIsString ∧ fieldType = .char then .string else fieldType
      values := (f.childrenNamed "value").filterMap (·.attr "enum") }

/-- The definition of a message under its type. -/
def messageDef (tagsByName : List (Bytes × Tag)) (components : List (Bytes × Node)) (fuel : Nat)
    (m : Node) : Loading (Bytes × MessageDef) := do
  match m.attr "msgtype" with
  | none => throw (ascii "message without msgtype")
  | some msgType => return (msgType, ← collect tagsByName components fuel m.children {})

/-- `DataDictionary::parse` of a document. -/
def parse (fuel : Nat) (fix : Node) : Loading DataDictionary := do
  let major := (fix.attr "major").getD []
  let minor := (fix.attr "minor").getD []
  let fixt := fix.attr "type" = some (ascii "FIXT")
  let beginString := ascii (if fixt then "FIXT." else "FIX.") ++ major ++ 46 :: minor
  let charIsString := !fixt && beginString < ascii "FIX.4.2"
  let children (name child : String) : List Node :=
    match fix.child name with
    | some n => n.childrenNamed child
    | none => []
  let fields ← (children "fields" "field").mapM fun f => do
    return ((f.attr "name").getD [], ← fieldDef charIsString f)
  let tagsByName := fields.foldl (fun m f => insertEntry f.1 f.2.tag m) []
  let components := (children "components" "component").foldl
    (fun m c => match c.attr "name" with
      | some name => insertEntry name c m
      | none => m) []
  let section' (name : String) : Loading MessageDef :=
    match fix.child name with
    | some n => collect tagsByName components fuel n.children {}
    | none => return {}
  let header ← section' "header"
  let trailer ← section' "trailer"
  let messages ← (children "messages" "message").mapM (messageDef tagsByName components fuel)
  return {
    beginString := beginString
    fieldsByTag := fields.foldl (fun m f => insertEntry f.2.tag f.2 m) []
    headerTags := header.tags
    headerRequired := header.required
    trailerTags := trailer.tags
    trailerRequired := trailer.required
    messages := messages.foldl (fun m d => insertEntry d.1 d.2 m) [] }

/-- `DataDictionary::parse` of a text, which is what the XML reader reports of it. -/
def ofXml (fuel : Nat) (es : List XmlEvent) : Loading DataDictionary :=
  match parseXml (.mk (ascii "(root)") [] []) [] es with
  | .ok fix => parse fuel fix
  | .error text => throw text

/-- Every document is loaded from its events. -/
theorem ofXml_events (fuel : Nat) {fix : Node} (root : fix.name = ascii "fix") :
    ofXml fuel fix.events = parse fuel fix := by
  have read := parseXml_events (.mk (ascii "(root)") [] []) [] [] fix
  rw [List.append_nil] at read
  have found : (Node.push (.mk (ascii "(root)") [] []) fix).child "fix" = some fix := by
    simp [Node.push, Node.child, Node.children, root]
  rw [ofXml, read, parseXml, found]

end DataDictionary

end QuickFix

import ExtractionSchema.Value.Json.Printer
import ExtractionSchema.Wire.Node

/-!
# Writing wire trees

A node is written as an object in a fixed order of keys, and what it does not state is left out. A
node of an unknown type is written as it was read, with its type and presentation set anew in
their places.

* `Tree.toValue` writes a tree.
-/

namespace ExtractionSchema.Wire

/-- A key that is written only if it is stated. -/
def whenStated {α : Type} (key : String) (write : α → Value) : Option α → List (String × Value)
  | some a => [(key, write a)]
  | none => []

/-- The written form of an example. -/
def exampleValue (e : ExampleEntries) : Value := .record e

/-- The written form of how a node is presented. -/
def Presentation.fields (about : Presentation) : List (String × Value) :=
  whenStated "title" .string about.title ++
  whenStated "description" .string about.description ++
  whenStated "importance" .string about.importance ++
  whenStated "extractionInstructions" .string about.instructions ++
  whenStated "displayName" .string about.displayName ++
  whenStated "examples" (fun es => .list (es.map exampleValue)) about.examples ++
  whenStated "enum" .list about.enum ++
  whenStated "order" .int about.order

/-- The written form of the limits of a primitive node. -/
def Bounds.limits (bounds : Bounds) : List (String × Value) :=
  whenStated "minLength" .int bounds.minLength ++
  whenStated "maxLength" .int bounds.maxLength ++
  whenStated "minimum" .number bounds.minimum ++
  whenStated "maximum" .number bounds.maximum

/-- Fields of an object that stand after its presentation. -/
def objectFields (children : List (String × Value)) (required : List String)
    (additional : Option Bool) : List (String × Value) :=
  [("properties", Value.record children)] ++
  (if required.isEmpty then [] else [("required", .strings required)]) ++
  whenStated "additionalProperties" .bool additional

/-- Sets fields one after the other. -/
def putAll (fields : List (String × Value)) (entries : Value.Entries) : Value.Entries :=
  fields.foldl (fun es (name, v) => Value.put (.name name) v es) entries

mutual

/-- The written form of a node. -/
def Node.toValue : Node → Value
  | .primitive about kind bounds =>
    .record ([("type", .string kind.name)] ++ whenStated "format" .string bounds.format ++
      about.fields ++ bounds.limits)
  | .array about items =>
    .record ([("type", .string arrayType)] ++ about.fields ++ [("items", items.toValue)])
  | .object about properties required additional =>
    .record ([("type", .string objectType)] ++ about.fields ++
      objectFields (childValues properties) required additional)
  | .unknown about type raw =>
    .object (putAll (("type", .string type) :: about.fields) (Value.named raw))

/-- The written forms of children. -/
def childValues : List (String × Node) → List (String × Value)
  | [] => []
  | (name, node) :: rest => (name, node.toValue) :: childValues rest

end

/-- The written form of a tree: the dialect comes first. -/
def Tree.toValue (t : Tree) : Value :=
  .record (whenStated "$schema" .string t.dialect ++ [("type", .string objectType)] ++
    t.about.fields ++ objectFields (childValues t.properties) t.required t.additional)

end ExtractionSchema.Wire

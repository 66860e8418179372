import Playback.Script.Tree

/-!
This module contains the logic to find the names that a JavaScript program binds: variables,
parameters, caught errors and the variables of loops.
-/

namespace Playback.Script

mutual

def patternNames (source : List UInt8) : Node → List String
  | .mk kind startByte endByte startRow endRow named field children =>
    if kind == "identifier" || kind == "shorthand_property_identifier_pattern" then
      [(Node.mk kind startByte endByte startRow endRow named field children).text source]
    else if kind == "assignment_pattern" || kind == "object_assignment_pattern" then
      fieldNames source "left" children
    else if kind == "pair_pattern" then fieldNames source "value" children
    else if ["object_pattern", "array_pattern", "rest_pattern", "formal_parameters"].contains kind
    then namedNames source children
    else []

def fieldNames (source : List UInt8) (part : String) : List Node → List String
  | [] => []
  | node :: nodes =>
    if node.field == some part then patternNames source node else fieldNames source part nodes

def namedNames (source : List UInt8) : List Node → List String
  | [] => []
  | node :: nodes =>
    if node.named then patternNames source node ++ namedNames source nodes
    else namedNames source nodes

end

def bindingParts (kind : String) : List String :=
  if kind == "variable_declarator" then ["name"]
  else if ["function_declaration", "function_expression", "function",
      "generator_function_declaration", "method_definition"].contains kind then ["parameters"]
  else if kind == "arrow_function" then ["parameter", "parameters"]
  else if kind == "catch_clause" then ["parameter"]
  else if kind == "for_in_statement" then ["left"]
  else []

/--
The names that a node binds itself. Names that start with two underscores belong to the capture.
-/
def boundNames (source : List UInt8) (node : Node) : List String :=
  ((bindingParts node.kind).filterMap node.child?).flatMap fun target =>
    (patternNames source target).filter fun name => !"__".isPrefixOf name

/--
The names that a program binds, each one where it first appears.
-/
def bindingNames (source : List UInt8) (root : Node) : List String :=
  (root.preorder.flatMap (boundNames source)).eraseDups

end Playback.Script

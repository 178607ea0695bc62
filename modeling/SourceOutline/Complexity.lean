import SourceOutline.Cursor

/-! Cyclomatic complexity: one, and one more for each decision point. -/
namespace SourceOutline.Complexity

def decisionKinds : List String :=
  ["if_statement", "if_expression", "elif_clause",
    "for_statement", "for_in_statement", "enhanced_for_statement", "for_expression",
    "while_statement", "while_expression", "do_statement", "loop_expression",
    "switch_case", "switch_block_statement_group", "switch_rule", "expression_case", "type_case",
    "communication_case", "match_arm", "case_clause",
    "ternary_expression", "conditional_expression",
    "catch_clause", "except_clause"]

/-- Kinds of nodes that do so if their operator may skip an operand. -/
def logicalKinds : List String := ["binary_expression", "boolean_operator"]

def logicalOperators : List String := ["&&", "||", "and", "or"]

def isDecision (src : Source) (n : Node) : Bool :=
  decisionKinds.contains n.kind ||
    (logicalKinds.contains n.kind &&
      match n.children.find? (·.field == some "operator") with
      | some op => logicalOperators.contains (Text.trim (src.slice op.range))
      | none => false)

/-- Counts the decision points on a walk from the place through all that is below it. -/
def ofPlace (src : Source) (p : Place) : Nat :=
  (Cursor.start p).walk (fun count q => if isDecision src q.node then count + 1 else count) 1

end SourceOutline.Complexity

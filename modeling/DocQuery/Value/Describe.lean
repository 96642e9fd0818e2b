import DocQuery.Value.Basic

/-! # Values in diagnostics

The text in which an error message shows a value: constructors by name, lists in brackets,
documents as lists of pairs. -/
namespace DocQuery

mutual
def Native.describe : Native → String
  | .scalar s => s.describe
  | .array items => "Array([" ++ ", ".intercalate (describeNatives items) ++ "])"
  | .document pairs => r"Document({" ++ ", ".intercalate (describeNativePairs pairs) ++ r"})"
  | .scopedCode code scope =>
      r"JavaScriptCodeWithScope { code: " ++ Quoted.quote code ++ r", scope: Document({" ++
        ", ".intercalate (describeNativePairs scope) ++ r"}) }"

def describeNatives : List Native → List String
  | [] => []
  | n :: ns => n.describe :: describeNatives ns

def describeNativePairs : List (String × Native) → List String
  | [] => []
  | (k, n) :: ps => (Quoted.quote k ++ ": " ++ n.describe) :: describeNativePairs ps
end

mutual
/-- The text of a value in diagnostics. -/
def Value.describe : Value → String
  | .native n => "Bson(" ++ n.describe ++ ")"
  | .array items => "Array([" ++ ", ".intercalate (describeValues items) ++ "])"
  | .document d => "Document(" ++ d.describe ++ ")"

def describeValues : List Value → List String
  | [] => []
  | v :: vs => v.describe :: describeValues vs

/-- The text of a document in diagnostics. -/
def Document.describe : Document → String
  | .empty => "Empty"
  | .entries pairs => "Pairs([" ++ ", ".intercalate (describePairs pairs) ++ "])"

def describePairs : List (String × Value) → List String
  | [] => []
  | (k, v) :: ps => ("(" ++ Quoted.quote k ++ ", " ++ v.describe ++ ")") :: describePairs ps
end

end DocQuery

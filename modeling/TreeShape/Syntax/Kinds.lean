import TreeShape.Hierarchy

/-!
# The kinds of syntax trees

The types that every world starts with: the common types, the types of a small language of
declarations, and the kinds of nodes of a syntax tree with the names of their parts.  Contexts and
operators are shared between the nodes that use them, so they are nobody's children.
-/

namespace TreeShape.Syntax

/-- A kind of syntax nodes: its name, the kind it refines, and its parts. -/
structure Kind where
  name : String
  base : String
  parts : Option (List String)

/-- The kinds that only group others. -/
def groups : List Kind :=
  ["mod", "stmt", "expr"].map fun name => ⟨name, "AST", none⟩

/-- The groups whose nodes are shared. -/
def sharedGroups : List Kind :=
  ["expr_context", "boolop", "operator", "unaryop", "cmpop"].map fun name => ⟨name, "AST", none⟩

/-- The kinds of nodes, with their parts in order. -/
def kinds : List Kind :=
  [("Module", "mod", ["body", "type_ignores"]), ("Expression", "mod", ["body"]),
   ("FunctionDef", "stmt", ["name", "args", "body", "decorator_list", "returns", "type_comment"]),
   ("ClassDef", "stmt", ["name", "bases", "keywords", "body", "decorator_list"]),
   ("Return", "stmt", ["value"]), ("Assign", "stmt", ["targets", "value", "type_comment"]),
   ("AugAssign", "stmt", ["target", "op", "value"]),
   ("AnnAssign", "stmt", ["target", "annotation", "value", "simple"]),
   ("For", "stmt", ["target", "iter", "body", "orelse", "type_comment"]),
   ("While", "stmt", ["test", "body", "orelse"]), ("If", "stmt", ["test", "body", "orelse"]),
   ("Import", "stmt", ["names"]), ("Expr", "stmt", ["value"]),
   ("Pass", "stmt", []), ("Break", "stmt", []), ("Continue", "stmt", []),
   ("BoolOp", "expr", ["op", "values"]), ("BinOp", "expr", ["left", "op", "right"]),
   ("UnaryOp", "expr", ["op", "operand"]), ("Lambda", "expr", ["args", "body"]),
   ("Dict", "expr", ["keys", "values"]), ("Set", "expr", ["elts"]),
   ("Compare", "expr", ["left", "ops", "comparators"]),
   ("Call", "expr", ["func", "args", "keywords"]), ("Constant", "expr", ["value", "kind"]),
   ("Attribute", "expr", ["value", "attr", "ctx"]), ("Starred", "expr", ["value", "ctx"]),
   ("Name", "expr", ["id", "ctx"]), ("List", "expr", ["elts", "ctx"]),
   ("Tuple", "expr", ["elts", "ctx"]),
   ("arguments", "AST",
    ["posonlyargs", "args", "vararg", "kwonlyargs", "kw_defaults", "kwarg", "defaults"]),
   ("arg", "AST", ["arg", "annotation", "type_comment"]), ("keyword", "AST", ["arg", "value"]),
   ("alias", "AST", ["name", "asname"]),
   ("Load", "expr_context", []), ("Store", "expr_context", []),
   ("And", "boolop", []), ("Or", "boolop", []),
   ("Add", "operator", []), ("Sub", "operator", []), ("Mult", "operator", []),
   ("Pow", "operator", []), ("Not", "unaryop", []), ("Lt", "cmpop", []), ("NotIn", "cmpop", [])
  ].map fun k => ⟨k.1, k.2.1, some k.2.2⟩

/-- The properties that some kinds declare: other names for one of their parts. -/
def properties : String → List (String × Property)
  | "Constant" => [("n", .synonym "value"), ("s", .synonym "value")]
  | "Tuple" => [("dims", .synonym "elts")]
  | _ => []

end TreeShape.Syntax

namespace TreeShape.Hierarchy

/-- Declares a type by its name; its qualified name is the same. -/
def declareNamed (h : Hierarchy) (name : String) (bases : List NodeType)
    (properties : List (String × Property)) : Hierarchy :=
  h.declare bases
    { (default : TypeInfo) with
      key := some (.plain name)
      name := name
      qualifiedName := name
      properties := properties }

/-- Declares a type whose nodes store attributes only if a type based on it lets them. -/
def declareBare (h : Hierarchy) (key : Option TypeName) (home name : String)
    (bases : List NodeType) : Hierarchy :=
  h.declare bases
    { (default : TypeInfo) with
      key := key
      name := name
      qualifiedName := name
      home := home
      storesAttributes := false }

def declareFirst (h : Hierarchy) (name : String) (bases : List NodeType) : Hierarchy :=
  h.declareBare (some (.plain name)) TypeInfo.firstHome name bases

/-- The types that exist before all others.  Programs do not refer to the common type. -/
def builtin : Hierarchy :=
  let h := (empty.declareFirst "object" []).declareFirst "NoneType" [.anything]
  let h := h.declareBare none TypeInfo.declaredHome "Node" [.anything]
  (h.declareFirst "int" [.anything]).declareFirst "str" [.anything]

/-- The types of a small language of declarations. -/
def declarations (h : Hierarchy) : Hierarchy :=
  let common := fun (h : Hierarchy) name => h.declareNamed name [.common] []
  let h := ["Declaration", "Type", "ArrayType", "Primitive"].foldl common h
  let h := h.declareNamed "Declarator" [.common]
    [("id", .child 0), ("initializer", .childOrNothing 1)]
  let h := ["DeclaratorId", "Expression"].foldl common h
  h.declareNamed "Literal" (h.find? (.plain "Expression")).toList []

def declareKind (h : Hierarchy) (shared : Bool) (k : Syntax.Kind) : Hierarchy :=
  h.declare (h.find? (.kind k.base)).toList
    { (default : TypeInfo) with
      key := some (.kind k.name)
      name := k.name
      qualifiedName := k.name
      home := TypeInfo.syntaxHome
      properties := Syntax.properties k.name
      parts := k.parts
      isShared := shared }

def syntaxKinds (h : Hierarchy) : Hierarchy :=
  let h := h.declare [.anything]
    { (default : TypeInfo) with
      key := some (.kind "AST")
      name := "AST"
      qualifiedName := "AST"
      home := TypeInfo.syntaxHome
      parts := some [] }
  let h := Syntax.groups.foldl (declareKind · false) h
  let h := Syntax.sharedGroups.foldl (declareKind · true) h
  Syntax.kinds.foldl (declareKind · false) h

/-- The types that every world has beside the first ones. -/
def declareStandard (h : Hierarchy) : Hierarchy := h.declarations.syntaxKinds

end TreeShape.Hierarchy

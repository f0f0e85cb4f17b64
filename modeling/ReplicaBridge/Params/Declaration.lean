/-
Module: ReplicaBridge.Params.Declaration
Purpose: The declaration of a typed call: an annotated struct.  A sound declaration gives
  the schema of the call; an unsound one gives every problem found in it.
Main exports: FieldDeclaration, Declaration, Declaration.problems, Declaration.schema,
  propertyName
-/
import ReplicaBridge.Params.Annotation
import ReplicaBridge.Params.Schema
import ReplicaBridge.Text.UpperCamel

namespace ReplicaBridge.Params

/-- The annotations of an item, or nothing when their text cannot be read. -/
abbrev Annotations := Option (List Annotation)

/-- A field of a declared struct. -/
structure FieldDeclaration where
  ident : String
  typeName : String
  annotations : Annotations
deriving Repr, Inhabited, DecidableEq

/-- What kind of item is declared. -/
inductive ItemKind where
  | namedFields
  | tuple
  | unit
  | choice
deriving Repr, Inhabited, DecidableEq

/-- The kind with a name. -/
def ItemKind.ofName? : String → Option ItemKind
  | "struct" => some .namedFields
  | "tuple" => some .tuple
  | "unit" => some .unit
  | "enum" => some .choice
  | _ => none

/-- The declaration of a typed call. -/
structure Declaration where
  ident : String
  kind : ItemKind
  annotations : Annotations
  fields : List FieldDeclaration
deriving Repr, Inhabited, DecidableEq

/-- A problem of a declaration. -/
inductive DeclarationProblem where
  /-- Only a struct with named fields declares a call. -/
  | unsupportedKind
  /-- The text of the annotations cannot be read. -/
  | unreadable
  /-- A literal stands where an annotation should. -/
  | keyless
  | missing (key : String)
  | unknown (key : String)
  | repeated (key : String)
  | wrongValue (key : String)
deriving Repr, Inhabited, DecidableEq

namespace Annotations

/-- The value of the first annotation with a key. -/
def value? {α : Type} (read : AnnotationValue → Option α) (key : String)
    (annotations : Annotations) : Option α :=
  ((annotations.getD []).find? (·.key = some key)).bind (read ·.value)

/-- The problems with one key: its first value cannot be read, or it comes again. -/
def keyProblems {α : Type} (read : AnnotationValue → Option α) (key : String)
    (annotations : Annotations) : List DeclarationProblem :=
  match (annotations.getD []).filter (·.key = some key) with
  | [] => []
  | first :: again =>
    (if (read first.value).isSome then [] else [.wrongValue key])
      ++ again.map fun _ => .repeated key

/-- A required key is missing. -/
def missingProblems (key : String) (annotations : Annotations) : List DeclarationProblem :=
  if (annotations.getD []).any (·.key = some key) then [] else [.missing key]

/-- What is no annotation with a known key. -/
def otherProblems (known : List String) : Annotations → List DeclarationProblem
  | none => [.unreadable]
  | some annotations => annotations.filterMap fun annotation =>
    match annotation.key with
    | none => some .keyless
    | some key => if known.contains key then none else some (.unknown key)

end Annotations

/-- The property of a field: the name given for it, else its own in upper camel case. -/
def propertyName (ident name : Option String) : String :=
  match name with
  | some name => name
  | none => ident.elim "" Text.upperCamel

namespace FieldDeclaration

def problems (field : FieldDeclaration) : List DeclarationProblem :=
  field.annotations.keyProblems AnnotationValue.asText? "name"
    ++ field.annotations.keyProblems AnnotationValue.asSwitch? "out"
    ++ field.annotations.otherProblems ["name", "out"]

/-- The field of the schema. -/
def toParam (field : FieldDeclaration) : ParamField :=
  { ident := field.ident
    typeName := field.typeName
    property := propertyName (some field.ident)
      (field.annotations.value? AnnotationValue.asText? "name")
    out := (field.annotations.value? AnnotationValue.asSwitch? "out").getD false }

end FieldDeclaration

namespace Declaration

/-- The problems of a declaration apart from those of its fields. -/
def ownProblems (declaration : Declaration) : List DeclarationProblem :=
  let annotations := declaration.annotations
  (if declaration.kind = .namedFields then [] else [.unsupportedKind])
    ++ annotations.keyProblems AnnotationValue.asText? "function"
    ++ annotations.keyProblems AnnotationValue.asSize? "size"
    ++ annotations.missingProblems "function" ++ annotations.missingProblems "size"
    ++ annotations.otherProblems ["function", "size"]

/-- The problems of a declaration; the fields are looked at only where there are no
others. -/
def problems (declaration : Declaration) : List DeclarationProblem :=
  match declaration.ownProblems with
  | [] => declaration.fields.flatMap (·.problems)
  | own => own

/-- The schema of the declared call. -/
def toSchema (declaration : Declaration) : ParamSchema :=
  { ident := declaration.ident
    function := (declaration.annotations.value? AnnotationValue.asText? "function").getD ""
    size := (declaration.annotations.value? AnnotationValue.asSize? "size").getD 0
    fields := declaration.fields.map (·.toParam) }

/-- The schema of a sound declaration, or the problems of an unsound one. -/
def schema (declaration : Declaration) : Except (List DeclarationProblem) ParamSchema :=
  match declaration.problems with
  | [] => .ok declaration.toSchema
  | problems => .error problems

end Declaration

end ReplicaBridge.Params

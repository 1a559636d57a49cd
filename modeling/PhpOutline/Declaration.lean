import PhpOutline.Docblock
import PhpOutline.Xml.Printer

/-!
# Declarations

What a PHP file declares: functions with their arguments, constants, included files, interfaces and
classes with their members, each with the line it starts on and the docblock before it. Every
declaration describes itself as an XML element.
-/

namespace PhpOutline

open PhpOutline.Xml (Element)

/-- The namespace of declarations outside of all namespaces. -/
def defaultScope : String := "default"

/-- Who may use a member, as a word. Members that are read have one of the three words below. -/
structure Visibility where
  word : String
  deriving DecidableEq, Repr

namespace Visibility

/-- Everyone. -/
def pub : Visibility := ⟨"public"⟩

/-- The class and the classes that extend it. -/
def prot : Visibility := ⟨"protected"⟩

/-- The class only. -/
def priv : Visibility := ⟨"private"⟩

end Visibility

/-- A parameter of a function or method. -/
structure Argument where
  name : String
  type : Option String := none
  default : Option String := none
  byReference : Bool := false
  variadic : Bool := false
  line : Int := 0
  deriving DecidableEq, Repr

/-- A function outside of classes (`FunctionDef`). -/
structure FunctionDecl where
  name : String
  scope : String := defaultScope
  line : Int := 0
  docblock : Option Docblock := none
  arguments : List Argument := []
  returnType : Option String := none
  byReference : Bool := false
  deriving DecidableEq, Repr

/-- A function in the body of a class or an interface (`MethodDef`). -/
structure MethodDecl extends FunctionDecl where
  visibility : Visibility := .pub
  isStatic : Bool := false
  isAbstract : Bool := false
  isFinal : Bool := false
  deriving DecidableEq, Repr

/-- A variable in the body of a class (`PropertyDef`). -/
structure PropertyDecl where
  name : String
  line : Int := 0
  docblock : Option Docblock := none
  visibility : Visibility := .pub
  isStatic : Bool := false
  type : Option String := none
  default : Option String := none
  deriving DecidableEq, Repr

/-- A constant, in a body or outside (`ConstantDef`). -/
structure ConstantDecl where
  name : String
  scope : String := defaultScope
  line : Int := 0
  docblock : Option Docblock := none
  value : String := ""
  deriving DecidableEq, Repr

/-- A statement that includes another file (`IncludeDef`); `type` is its keyword in lower case. -/
structure IncludeDecl where
  name : String
  type : String
  scope : String := defaultScope
  line : Int := 0
  docblock : Option Docblock := none
  deriving DecidableEq, Repr

/-- An interface (`InterfaceDef`). -/
structure InterfaceDecl where
  name : String
  scope : String := defaultScope
  line : Int := 0
  docblock : Option Docblock := none
  parents : List String := []
  constants : List ConstantDecl := []
  methods : List MethodDecl := []
  deriving DecidableEq, Repr

/-- A class (`ClassDef`): it has what an interface has, and besides a parent class, the interfaces
    it implements, modifiers and properties. -/
structure ClassDecl extends InterfaceDecl where
  parent : Option String := none
  interfaces : List String := []
  isAbstract : Bool := false
  isFinal : Bool := false
  properties : List PropertyDecl := []
  deriving DecidableEq, Repr

/-! ## Elements -/

/-- The text of a flag (`_flag`). -/
def flagText (flag : Bool) : String := if flag then "true" else "false"

/-- The element of a docblock, if there is one. -/
def docElements (doc : Option Docblock) : List Element := doc.toList.map Docblock.toElement

namespace Argument

/-- The element that describes an argument (`Argument.to_element`). -/
def toElement (a : Argument) : Element :=
  .node "argument" [("line", toString a.line)]
    [.leaf "name" [] a.name, .leaf "default" [] (a.default.getD ""),
     .leaf "type" [] (a.type.getD "")]

end Argument

namespace FunctionDecl

/-- The children that describe name, return type, docblock and arguments (`_add_signature`). -/
def signature (f : FunctionDecl) : List Element :=
  .leaf "name" [] f.name ::
    ((f.returnType.filter (· != "")).toList.map (.leaf "return-type" []) ++
      docElements f.docblock ++ f.arguments.map Argument.toElement)

/-- The element that describes a function (`FunctionDef.to_element`). -/
def toElement (f : FunctionDecl) : Element :=
  .node "function" [("namespace", f.scope), ("line", toString f.line)] f.signature

end FunctionDecl

namespace MethodDecl

/-- The element that describes a method (`MethodDef.to_element`). -/
def toElement (m : MethodDecl) : Element :=
  .node "method"
    [("final", flagText m.isFinal), ("abstract", flagText m.isAbstract),
     ("static", flagText m.isStatic), ("visibility", m.visibility.word),
     ("line", toString m.line)]
    m.signature

end MethodDecl

namespace PropertyDecl

/-- The element that describes a property (`PropertyDef.to_element`). -/
def toElement (p : PropertyDecl) : Element :=
  .node "property"
    [("static", flagText p.isStatic), ("visibility", p.visibility.word),
     ("line", toString p.line)] <|
    [.leaf "name" [] p.name, .leaf "default" [] (p.default.getD "")] ++
      (p.type.filter (· != "")).toList.map (.leaf "type" []) ++ docElements p.docblock

end PropertyDecl

namespace ConstantDecl

/-- The element that describes a constant (`ConstantDef.to_element`). -/
def toElement (c : ConstantDecl) : Element :=
  .node "constant" [("namespace", c.scope), ("line", toString c.line)] <|
    [.leaf "name" [] c.name, .leaf "value" [] c.value] ++ docElements c.docblock

end ConstantDecl

namespace IncludeDecl

/-- The element that describes an included file (`IncludeDef.to_element`). -/
def toElement (i : IncludeDecl) : Element :=
  .node "include" [("type", i.type), ("line", toString i.line)] <|
    .leaf "name" [] i.name :: docElements i.docblock

end IncludeDecl

namespace InterfaceDecl

/-- The element that describes an interface (`InterfaceDef.to_element`). -/
def toElement (i : InterfaceDecl) : Element :=
  .node "interface" [("namespace", i.scope), ("line", toString i.line)] <|
    .leaf "name" [] i.name :: i.parents.map (.leaf "extends" []) ++ docElements i.docblock ++
      i.constants.map ConstantDecl.toElement ++ i.methods.map MethodDecl.toElement

end InterfaceDecl

namespace ClassDecl

/-- The element that describes a class (`ClassDef.to_element`). -/
def toElement (c : ClassDecl) : Element :=
  .node "class"
    [("final", flagText c.isFinal), ("abstract", flagText c.isAbstract), ("namespace", c.scope),
     ("line", toString c.line)] <|
    [.leaf "name" [] c.name, .leaf "extends" [] (c.parent.getD "")] ++
      c.interfaces.map (.leaf "implements" []) ++ docElements c.docblock ++
      c.constants.map ConstantDecl.toElement ++ c.methods.map MethodDecl.toElement ++
      c.properties.map PropertyDecl.toElement

end ClassDecl

end PhpOutline

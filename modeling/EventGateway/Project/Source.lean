import EventGateway.Compile.Context
import EventGateway.Flogo.Codec
import EventGateway.Project.Literal

/-!
# Generated sources

A project consists of a main file, which is the descriptor or a program that holds it, and of the
support code with a method for every microgateway that receives messages.
-/

namespace EventGateway

open Project

/-- Lines of a source, each with its end. -/
def lines (texts : List String) : String :=
  String.join (texts.map (· ++ "\n"))

/-- The import of a module for its side effects. -/
def blankImport (text : String) : String :=
  "\n\t_ \"" ++ Import.key text ++ "\""

namespace Compilation

/-- The text of the descriptor. -/
def descriptor (c : Compilation) : String :=
  c.app.descriptor

/-- The program that holds the descriptor. -/
def appSource (c : Compilation) : String :=
  lines [
    "// Code generated by asyncapi-flogo. DO NOT EDIT.",
    "",
    "package main",
    "",
    "import (",
    "\t\"fmt\"",
    "\t\"os\"",
    "",
    "\t\"github.com/project-flogo/core/engine\""]
  ++ String.join (c.app.imports.map blankImport)
  ++ lines [
    "",
    ")",
    "",
    "// Flogo descriptor of " ++ interpreted c.app.name,
    "const descriptor = " ++ raw c.descriptor,
    "",
    "func main() \x7b",
    "\tconfig, err := engine.LoadAppConfig(descriptor, false)",
    "\tif err != nil \x7b",
    "\t\tfmt.Fprintf(os.Stderr, \"failed to load app: %v\\n\", err)",
    "\t\tos.Exit(1)",
    "\t\x7d",
    "",
    "\te, err := engine.New(config)",
    "\tif err != nil \x7b",
    "\t\tfmt.Fprintf(os.Stderr, \"failed to create engine: %v\\n\", err)",
    "\t\tos.Exit(1)",
    "\t\x7d",
    "",
    "\tos.Exit(engine.RunEngine(e))",
    "\x7d"]

/-- A method of the support code, and its registration. -/
def methodSource (name : String) : String :=
  lines [
    "",
    "func " ++ name ++ "(inputs interface\x7b\x7d) (map[string]interface\x7b\x7d, error) \x7b",
    "\treturn nil, nil",
    "\x7d",
    "",
    "func init() \x7b",
    "\tmethodinvoker.RegisterMethods(" ++ interpreted name ++ ", " ++ name ++ ")",
    "\x7d"]

/-- The support code. -/
def supportSource (c : Compilation) : String :=
  lines [
    "// Code generated by asyncapi-flogo. Method bodies are yours to fill in.",
    "",
    "package main"]
  ++ if c.methods.isEmpty then ""
    else lines [
        "",
        "import \"github.com/nareshkumarthota/flogocomponents/activity/methodinvoker\""]
      ++ String.join (c.methods.map methodSource)

end Compilation

end EventGateway

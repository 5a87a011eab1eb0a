import ResponsesBridge.Failure
import ResponsesBridge.Conversation.Tool
import ResponsesBridge.Wire.Request

/-!
# Function tools and the choice among them

The service knows functions only. Every declaration of every tool becomes a function tool;
a tool with a built-in capability, a tool without declarations and a declaration without a name
have no counterpart. Failures report positions, so both walks count.
-/

set_option autoImplicit false

namespace ResponsesBridge.Outbound

open Conversation (Declaration Tool ToolUse CallingPolicy Schema)
open Wire (FunctionTool ToolChoice AllowedMode)

/-- The members of a schema, which must be an object. -/
def schemaFields : Json.Value → Except Failure Json.Fields
  | .object members => .ok members
  | .null => .error .emptySchema
  | .boolean _ => .error (.invalidSchema "boolean")
  | .number _ => .error (.invalidSchema "number")
  | .text _ => .error (.invalidSchema "string")
  | .array _ => .error (.invalidSchema "array")

/-- The schema of a function that has no parameters. -/
def noParameters : Json.Fields :=
  [("type", .text "object"), ("properties", .object [])]

/-- The schema of the parameters of a declaration: its schema, else its raw schema. -/
def parameterFields (declaration : Declaration) : Except Failure Json.Fields :=
  match declaration.parameters, declaration.rawParameters with
  | some schema, _ => schemaFields (Schema.codec.write schema)
  | none, some raw => schemaFields raw
  | none, none => .ok noParameters

/-- A text that is not empty. -/
def nonempty? (text : String) : Option String :=
  if text.isEmpty then none else some text

/-- The function tool of a declaration at a position of a tool. -/
def functionTool (tool index : Nat) (declaration : Declaration) : Except Failure FunctionTool :=
  if declaration.name.isEmpty then .error (.declarationWithoutName tool index)
  else do
    let parameters ← parameterFields declaration
    return {
      name := declaration.name
      description := nonempty? declaration.description
      parameters
      strict := true }

/-- The function tools of the declarations of a tool, from a position on. -/
def declaredTools (tool : Nat) : Nat → List Declaration → Except Failure (List FunctionTool)
  | _, [] => .ok []
  | index, declaration :: declarations => do
    let first ← functionTool tool index declaration
    let later ← declaredTools tool (index + 1) declarations
    return first :: later

/-- The function tools of a tool at a position. -/
def toolFunctions (index : Nat) (tool : Tool) : Except Failure (List FunctionTool) :=
  match tool.capability? with
  | some capability => .error (.builtInTool index capability)
  | none =>
    if tool.declarations.isEmpty then .error (.toolWithoutFunctions index)
    else declaredTools index 0 tool.declarations

/-- The function tools of tools, from a position on. -/
def functionToolsFrom : Nat → List Tool → Except Failure (List FunctionTool)
  | _, [] => .ok []
  | index, tool :: tools => do
    let first ← toolFunctions index tool
    let later ← functionToolsFrom (index + 1) tools
    return first ++ later

/-- **The function tools of all tools**, in order. -/
def functionTools (tools : List Tool) : Except Failure (List FunctionTool) :=
  functionToolsFrom 0 tools

/-! ## The choice -/

/-- The choice among named functions; no names leave the choice to the service. -/
def allowedAmong (mode : AllowedMode) (names : List String) : Option ToolChoice :=
  match names with
  | [] => none
  | names => some (.allowed { mode, tools := names.map fun name => { name } })

/-- The choice that a calling policy asks for. A required call of one of no names is a required
call of any function, but a list that only holds empty names leaves the choice to the service. -/
def policyChoice (policy : CallingPolicy) : Except Failure (Option ToolChoice) :=
  let names := policy.allowed.filter fun name => !name.isEmpty
  match policy.mode with
  | .unspecified => .ok (allowedAmong .auto names)
  | .auto => .ok (allowedAmong .auto names)
  | .none => .ok (some (.mode .none))
  | .any =>
    if policy.allowed.isEmpty then .ok (some (.mode .required))
    else .ok (allowedAmong .required names)
  | .validated => .error (.callingMode policy.mode.name)

/-- **The tool choice**; nothing where the choice is left to the service. -/
def toolChoice (use : ToolUse) : Except Failure (Option ToolChoice) :=
  match use.calling with
  | none => .ok none
  | some policy => policyChoice policy

end ResponsesBridge.Outbound
